import NomadP2P.Ipv4
import NomadP2P.Lib.RwLock

/-!
# The lock around the configuration (`state.cfg`)

Three functions take `state.cfg` more than once or for writing:

    reload_config     write                          (`agent/src/reload.rs`)
    register_all      read, and two more for each seed that parses    (`seed.rs`)
    discover          read, and one more when it falls back           (`stun.rs`)

The guards of the readers outlive the statement they are made in.  The one in the head of
the loop of `register_all` lives until the loop ends, the two in the message of `register`
until the message is built, the one behind `servers` until `discover` returns.  So both
readers ask for the lock again while they hold it, and under a fair lock a reload that asks in
between waits for the reader, and the reader for the reload.

For any number of such tasks: without a reload that asks at such a moment no state is stuck,
and each one that does leads to a stuck state (`cfg_lock_quiet_or_stuck`).
-/

namespace NomadP2P

open RwLock

/-! ## Algorithm -/

/-- A task, with what decides how it uses the lock. -/
inductive CfgTask
  /-- `reload_config`; `parsed` if the file is read and parsed -/
  | reload (parsed : Bool)
  /-- `SeedClient::register_all` -/
  | registerAll (seeds : List String)
  /-- `discover`; `found` if there are STUN servers and the query succeeds -/
  | discover (found : Bool)
deriving DecidableEq

/-- `SeedClient::register`: the two guards of the message are dropped when it is built. -/
def registerProgram : List Act := [.read, .read, .drop, .drop]

/-- The acquisitions and releases of `state.cfg`, in order; `parses` says which seed
addresses are socket addresses. -/
def CfgTask.program (parses : String → Bool) : CfgTask → List Act
  | .reload parsed => if parsed then [.write, .drop] else []
  | .registerAll seeds =>
    [.read] ++ seeds.flatMap (fun addr => if parses addr then registerProgram else []) ++ [.drop]
  | .discover found => if found then [.read, .drop] else [.read, .read, .drop, .drop]

/-! ## Lemmas -/

/-- The calls of `register` inside the loop, and the end of the loop. -/
def loopProgram (parses : String → Bool) (seeds : List String) : List Act :=
  seeds.flatMap (fun addr => if parses addr then registerProgram else []) ++ [.drop]

theorem program_registerAll (parses : String → Bool) (seeds : List String) :
    (CfgTask.registerAll seeds).program parses = .read :: loopProgram parses seeds := rfl

/-- With the guard of the loop head, the loop drops what it takes, writes nothing and keeps a
guard to its end. -/
theorem loopProgram_wellformed (parses : String → Bool) (seeds : List String) :
    Balanced 1 (loopProgram parses seeds) ∧ WriteLast (loopProgram parses seeds) ∧
      Held 1 (loopProgram parses seeds) := by
  induction seeds with
  | nil =>
    refine ⟨⟨0, rfl, rfl⟩, trivial, ⟨fun _ a ha => ?_, trivial⟩⟩
    cases ha
  | cons addr seeds ih =>
    obtain ⟨hb, hw, hh⟩ := ih
    by_cases hp : parses addr = true
    · have hcons : loopProgram parses (addr :: seeds) = registerProgram ++ loopProgram parses seeds := by
        unfold loopProgram
        rw [List.flatMap_cons, if_pos hp, List.append_assoc]
      rw [hcons]
      refine ⟨⟨2, rfl, 1, rfl, hb⟩, hw, ⟨fun h => ?_, fun h => ?_, hh⟩⟩
      · omega
      · omega
    · have hcons : loopProgram parses (addr :: seeds) = loopProgram parses seeds := by
        unfold loopProgram
        rw [List.flatMap_cons, if_neg hp, List.nil_append]
      rw [hcons]
      exact ⟨hb, hw, hh⟩

theorem program_wellformed (parses : String → Bool) (task : CfgTask) :
    Balanced 0 (task.program parses) ∧ WriteLast (task.program parses) ∧
      Held 0 (task.program parses) := by
  have hnil : Quiet [] := fun a ha => by cases ha
  cases task with
  | reload parsed =>
    cases parsed with
    | false => exact ⟨rfl, trivial, trivial⟩
    | true =>
      exact ⟨⟨0, rfl, rfl⟩, fun a ha => List.mem_singleton.mp ha, ⟨fun _ => hnil, trivial⟩⟩
  | registerAll seeds =>
    rw [program_registerAll]
    exact loopProgram_wellformed parses seeds
  | discover found =>
    cases found with
    | true => exact ⟨⟨0, rfl, rfl⟩, trivial, ⟨fun _ => hnil, trivial⟩⟩
    | false =>
      refine ⟨⟨1, rfl, 0, rfl, rfl⟩, trivial, ⟨fun h => ?_, fun _ => hnil, trivial⟩⟩
      omega

/-! ### Main theorem -/

/-- The tasks before their first step. -/
def cfgStart {ι : Type} (parses : String → Bool) (tasks : ι → CfgTask) : State ι :=
  .start fun t => (tasks t).program parses

/-- **The configuration lock.**  Any number of reloads, registrations and discoveries, in any
interleaving: if each reload asks for the lock when no task that holds it or waits for it
has a further acquisition to come, no state of the run has all unfinished tasks waiting; and a
run in which one asks otherwise can be continued to such a state. -/
theorem cfg_lock_quiet_or_stuck {ι : Type} [DecidableEq ι] [Fintype ι] (parses : String → Bool)
    (tasks : ι → CfgTask) (run : List ι) :
    (machine.Guarded quietWrite (cfgStart parses tasks) run →
      ∀ pre, pre <+: run → ¬ Stuck (machine.after (cfgStart parses tasks) pre)) ∧
    (¬ machine.Guarded quietWrite (cfgStart parses tasks) run →
      ∃ more, Stuck (machine.after (cfgStart parses tasks) (run ++ more))) := by
  have hwell := fun t => program_wellformed parses (tasks t)
  constructor
  · exact not_stuck_of_quiet _ (fun t => (hwell t).1) (fun t => (hwell t).2.1) run
  · exact stuck_of_not_quiet _ (fun t => (hwell t).1) (fun t => (hwell t).2.1) (fun t => (hwell t).2.2) run

/-- A registration with one seed, a reload, and a discovery that finds its endpoint. -/
def threeTasks : Fin 3 → CfgTask
  | 0 => .registerAll ["10.0.0.1:9527"]
  | 1 => .reload true
  | 2 => .discover true

def isSocketAddr (addr : String) : Bool := (SocketAddr.parse addr).isSome

/-- The reload asks first, and the others wait for it. -/
theorem cfg_lock_reload_first :
    machine.Guarded quietWrite (cfgStart isSocketAddr threeTasks) [1, 0, 2, 1, 0, 2, 0] ∧
      ∀ pre, pre <+: [1, 0, 2, 1, 0, 2, 0] →
        ¬ Stuck (machine.after (cfgStart isSocketAddr threeTasks) pre) := by
  have hquiet : machine.Guarded quietWrite (cfgStart isSocketAddr threeTasks) [1, 0, 2, 1, 0, 2, 0] := by
    decide +kernel
  exact ⟨hquiet, (cfg_lock_quiet_or_stuck isSocketAddr threeTasks [1, 0, 2, 1, 0, 2, 0]).1 hquiet⟩

/-- The registration takes the guard of its loop, the reload asks and waits for it, and the
registration's next read waits behind the reload. -/
theorem reload_deadlocks :
    Stuck (machine.after (cfgStart isSocketAddr threeTasks) [2, 2, 0, 1, 0]) := by
  unfold Stuck
  decide +kernel

end NomadP2P
