import NomadP2P.Ebpf
import NomadP2P.Vip
import NomadP2P.Lib.Machine

/-!
# Connects against VIP updates

`try_vip` reads an entry of `VIP_MAP`, and later inserts the whole entry again with
the next index.  Between the two the agent may have run `update_bpf_vip`.  A
schedule is any list of reads and writes of any number of connects, and of updates,
on one VIP; read and write without anything between them are `tryVip`
(`read_write_eq_tryVip`).

After every step the entry has the count and backends of the last update exactly when
no connect writes back an entry with others than those in the map:

    (∀ pre, pre <+: sched → Current (after pre)) ↔ Guarded currentCopy sched
                                                   (current_iff_current_copies)
-/

namespace NomadP2P

open Ebpf Bytes

/-! ## Algorithm -/

/-- `VIP_MAP`, what each running connect has read, and the list of the last update. -/
structure RaceState where
  vips : KernelMap VipInfo
  copies : Nat → Option VipInfo
  latest : Option (List Ipv4Addr)

/-- No connect running, no update seen yet. -/
def RaceState.start (vips : KernelMap VipInfo) : RaceState := ⟨vips, fun _ => none, none⟩

inductive RaceStep
  | read (pid : Nat)
  | write (pid : Nat) (ok : Bool)
  | update (backends : List Ipv4Addr)
deriving DecidableEq, Repr

/-- Connects to `vip` interleaved with updates of `vip`. -/
def raceStep (vip : Ipv4Addr) (s : RaceState) : RaceStep → RaceState
  | .read pid => { s with copies := Function.update s.copies pid (s.vips vip.toU32) }
  | .write pid ok =>
    { s with
      vips := match (s.copies pid).bind entryWritten with
        | some w => if ok then Function.update s.vips vip.toU32 (some w) else s.vips
        | none => s.vips
      copies := Function.update s.copies pid none }
  | .update backends =>
    { s with vips := Function.update s.vips vip.toU32 (some (vipEntry backends))
             latest := some backends }

def raceMachine (vip : Ipv4Addr) : Machine RaceState RaceStep Unit where
  step s x := (raceStep vip s x, ())

/-- `count` and `backends[0..count]`. -/
def content (info : VipInfo) : UInt8 × List VipBackend :=
  (info.count, info.backends.toList.take info.count.toNat)

/-- The entry has the content of the last update. -/
def Current (vip : Ipv4Addr) (s : RaceState) : Prop :=
  ∀ backends, s.latest = some backends →
    (s.vips vip.toU32).map content = some (content (vipEntry backends))

/-- If the step is an insert by a connect, after some update, then the entry the connect
has read has the content that is in the map. -/
def currentCopy (vip : Ipv4Addr) (s : RaceState) (x : RaceStep) : Prop :=
  ∀ pid info w, x = .write pid true → s.copies pid = some info → entryWritten info = some w →
    s.latest ≠ none → (s.vips vip.toU32).map content = some (content info)

/-! ## Lemmas -/

/-- The entry written back differs from the one read in `next_idx` only. -/
theorem content_entryWritten (info w : VipInfo) (h : entryWritten info = some w) :
    content w = content info := by
  unfold entryWritten vipChoose at h
  by_cases hcount : 0 < info.count
  · simp only [if_pos hcount] at h
    cases hb : info.backends[info.nextIdx.toNat % info.count.toNat]? with
    | none => simp [hb] at h
    | some backend =>
      simp only [hb, Option.bind_eq_bind, Option.bind_some] at h
      split at h
      · rw [← Option.some.inj h]
        rfl
      · cases h
  · simp [if_neg hcount] at h

/-- Without a step in between, read and write are `try_vip`. -/
theorem read_write_eq_tryVip (e : ByteOrder) (vip : Ipv4Addr) (s : RaceState) (pid : Nat) (ok : Bool)
    (port : UInt16) (vips' : KernelMap VipInfo) (ctx' : Connect)
    (h : tryVip e s.vips ⟨vip.toU32, port⟩ ok = some (vips', ctx')) :
    ((raceMachine vip).after s [.read pid, .write pid ok]).vips = vips' := by
  show (raceStep vip (raceStep vip s (.read pid)) (.write pid ok)).vips = vips'
  rw [tryVip_map e s.vips vips' ⟨vip.toU32, port⟩ ctx' ok h]
  simp only [raceStep, Function.update_self]
  cases (s.vips vip.toU32).bind entryWritten <;> rfl

/-- A connect's insert that goes through puts its entry in the map. -/
theorem raceStep_write (vip : Ipv4Addr) (s : RaceState) (pid : Nat) (info w : VipInfo)
    (hcopy : s.copies pid = some info) (hw : entryWritten info = some w) :
    (raceStep vip s (.write pid true)).vips vip.toU32 = some w := by
  simp only [raceStep, hcopy, Option.bind_some, hw, if_true, Function.update_self]

/-- Any other end of a connect leaves the map alone. -/
theorem raceStep_no_write (vip : Ipv4Addr) (s : RaceState) (pid : Nat) (ok : Bool)
    (h : ∀ info w, ok = true → s.copies pid = some info → entryWritten info ≠ some w) :
    (raceStep vip s (.write pid ok)).vips = s.vips := by
  unfold raceStep
  simp only
  cases hcopy : (s.copies pid).bind entryWritten with
  | none => rfl
  | some w =>
    obtain ⟨info, hinfo, hw⟩ := Option.bind_eq_some_iff.mp hcopy
    cases ok with
    | true => exact absurd hw (h info w rfl hinfo)
    | false => rfl

theorem currentCopy_keeps (vip : Ipv4Addr) (s : RaceState) (x : RaceStep) (hs : Current vip s)
    (hg : currentCopy vip s x) : Current vip ((raceMachine vip).next s x) := by
  show Current vip (raceStep vip s x)
  cases x with
  | read pid => exact hs
  | update backends =>
    intro bs hbs
    have heq : backends = bs := Option.some.inj hbs
    show (Function.update s.vips vip.toU32 (some (vipEntry backends)) vip.toU32).map content = _
    rw [Function.update_self, heq, Option.map_some]
  | write pid ok =>
    intro bs hbs
    have hlatest : s.latest = some bs := hbs
    by_cases hreal : ∃ info w, ok = true ∧ s.copies pid = some info ∧ entryWritten info = some w
    · obtain ⟨info, w, rfl, hcopy, hw⟩ := hreal
      rw [raceStep_write vip s pid info w hcopy hw, Option.map_some, content_entryWritten info w hw,
        ← hg pid info w rfl hcopy hw (by rw [hlatest]; simp)]
      exact hs bs hlatest
    · rw [raceStep_no_write vip s pid ok]
      · exact hs bs hlatest
      · intro info w hok hcopy hw
        exact hreal ⟨info, w, hok, hcopy, hw⟩

/-- A write-back of anything else undoes the last update. -/
theorem not_currentCopy_breaks (vip : Ipv4Addr) (s : RaceState) (x : RaceStep) (hs : Current vip s)
    (hg : ¬ currentCopy vip s x) : ¬ Current vip ((raceMachine vip).next s x) := by
  unfold currentCopy at hg
  push Not at hg
  obtain ⟨pid, info, w, rfl, hcopy, hw, hlatest, hne⟩ := hg
  obtain ⟨bs, hbs⟩ := Option.ne_none_iff_exists'.mp hlatest
  intro hcur
  have hafter : ((raceStep vip s (.write pid true)).vips vip.toU32).map content =
      some (content (vipEntry bs)) := hcur bs hbs
  rw [raceStep_write vip s pid info w hcopy hw, Option.map_some,
    content_entryWritten info w hw] at hafter
  exact hne (by rw [hs bs hbs, hafter])

/-- **No lost update, exactly.**  In every schedule, the entry has the count and backends
of the last update after every step if and only if each insert by a connect, from
the first update on, is of an entry with the content that is in the map. -/
theorem current_iff_current_copies (vip : Ipv4Addr) (vips : KernelMap VipInfo)
    (sched : List RaceStep) :
    (∀ pre, pre <+: sched → Current vip ((raceMachine vip).after (.start vips) pre)) ↔
      (raceMachine vip).Guarded (currentCopy vip) (.start vips) sched := by
  refine (raceMachine vip).always_iff_guarded (currentCopy vip) (Current vip) (Current vip)
    (fun s h => h) (currentCopy_keeps vip) (not_currentCopy_breaks vip) sched (.start vips) ?_
  intro bs hbs
  cases hbs

/-- One connect reads, the agent replaces the backends, the connect writes. -/
def staleWrite : List RaceStep :=
  [.update [⟨10, 0, 0, 1⟩, ⟨10, 0, 0, 2⟩], .read 0, .update [⟨10, 0, 0, 3⟩], .write 0 true]

/-- The replaced backends are back. -/
theorem update_lost :
    ¬ Current ⟨10, 96, 0, 10⟩
      ((raceMachine ⟨10, 96, 0, 10⟩).after (.start fun _ => none) staleWrite) ∧
    (((raceMachine ⟨10, 96, 0, 10⟩).after (.start fun _ => none) staleWrite).vips
      (⟨10, 96, 0, 10⟩ : Ipv4Addr).toU32).map content =
        some (2, [⟨0x0A000001, 0, 1⟩, ⟨0x0A000002, 0, 1⟩]) := by
  have hentry : (((raceMachine ⟨10, 96, 0, 10⟩).after (.start fun _ => none) staleWrite).vips
      (⟨10, 96, 0, 10⟩ : Ipv4Addr).toU32).map content =
        some (2, [⟨0x0A000001, 0, 1⟩, ⟨0x0A000002, 0, 1⟩]) := by decide
  refine ⟨fun h => ?_, hentry⟩
  have hlast := h [⟨10, 0, 0, 3⟩] rfl
  rw [hentry] at hlast
  exact absurd hlast (by decide)

end NomadP2P
