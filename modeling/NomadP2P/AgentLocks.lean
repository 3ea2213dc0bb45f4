import NomadP2P.Lib.LockOrder

/-!
# The locks of the agent (`spawn_all` of `agent/src/lib.rs`)

`spawn_all` starts the loops of the agent; they share fourteen locks.  A turn of a loop, or a
call, takes and drops guards in an order that the source fixes up to what it finds: which
seeds parse, whether a send succeeds, whether `STUN` answers, how long the batch is.  The
guards live as long as Rust lets them: one in a `for` head until the loop ends, one in a
statement until its end, one behind a reference until the end of the block.

`state.cfg` is written by `reload_config` alone, and `watch_loop`, its only caller, is started
nowhere.  So among the tasks that are started the configuration is read-only, and the other
locks are taken upwards in

    client < public_ip, public_port, nat_type, proto < conns,   cooldowns < pending

Tasks that run any number of such turns never wait for each other in a circle, and each can
finish whatever has been scheduled so far (`agent_finishes`).
-/

namespace NomadP2P

open Locks

/-! ## Algorithm -/

/-- The locks that the tasks share. -/
inductive AgentLock
  /-- `Mutex<SeedClient>` -/
  | client
  /-- the fields of `AgentState` -/
  | cfg
  | publicIp
  | publicPort
  | natType
  /-- `Mutex<UdpProtocol>` -/
  | proto
  /-- the field of `SeedClient` -/
  | conns
  /-- the field of `ContainerManager` -/
  | containers
  /-- `std::sync::Mutex<BpfManager>` -/
  | bpf
  | ringbuf
  /-- the fields of `RouteManager` -/
  | pending
  | cooldowns
  /-- the field of `VipMonitor` -/
  | backends
  /-- `std::sync::Mutex<IpsecManager>` -/
  | ipsec
deriving DecidableEq, Repr

open AgentLock

/-- A guard around some acquisitions and releases. -/
def within (lock : AgentLock) (mode : Mode) (body : List (Locks.Act AgentLock)) :
    List (Locks.Act AgentLock) :=
  .acquire lock mode :: (body ++ [.release lock])

/-- `lock.read().await`, dropped behind `body`. -/
def reading (lock : AgentLock) (body : List (Locks.Act AgentLock)) : List (Locks.Act AgentLock) :=
  within lock .shared body

/-- `lock.write().await` or `lock.lock()`, dropped behind `body`. -/
def holding (lock : AgentLock) (body : List (Locks.Act AgentLock)) : List (Locks.Act AgentLock) :=
  within lock .exclusive body

/-- `SeedClient::register`: three values are copied; the two guards of the message live until it
is built; `proto` is held to the end, and `conns` behind a send that succeeds. -/
def registerLocks (sent : Bool) : List (Locks.Act AgentLock) :=
  reading publicIp [] ++ reading publicPort [] ++ reading natType [] ++
    reading cfg (reading cfg []) ++ holding proto (if sent then holding conns [] else [])

/-- `SeedClient::register_all`: for each seed, `none` if its address does not parse, else whether
the send succeeds.  The guard in the head lives as long as the loop. -/
def registerAllLocks (seeds : List (Option Bool)) : List (Locks.Act AgentLock) :=
  reading cfg (seeds.flatMap fun seed => seed.elim [] registerLocks)

/-- What `discover` finds. -/
inductive Discovered
  /-- there are no STUN servers; `parsed` if the overlay address parses -/
  | noServers (parsed : Bool)
  /-- the query succeeds -/
  | found
  /-- it fails -/
  | fallback (parsed : Bool)
deriving DecidableEq, Repr

/-- `*public_ip.write().await = cfg.read().await.node_overlay_ip.parse()?`: the right side comes
first. -/
def overlayIpLocks (parsed : Bool) : List (Locks.Act AgentLock) :=
  reading cfg (if parsed then holding publicIp [] else [])

/-- `discover`: the guard behind `servers` lives to the end. -/
def discoverLocks : Discovered → List (Locks.Act AgentLock)
  | .noServers parsed => reading cfg (overlayIpLocks parsed)
  | .found => reading cfg (holding publicIp [] ++ holding publicPort [] ++ holding natType [])
  | .fallback parsed =>
    reading cfg (overlayIpLocks parsed ++ if parsed then holding natType [] else [])

/-- `RouteManager::submit_miss`: the length is read under a guard of its own. -/
def submitMissLocks (full : Bool) : List (Locks.Act AgentLock) :=
  reading pending [] ++ if full then [] else holding pending []

/-- What the probes of one VIP lead to. -/
inductive Probed
  | unchanged
  /-- `updates` if a backend is alive and the VIP parses -/
  | changed (updates : Bool)
deriving DecidableEq, Repr

/-- One VIP in a turn of `probe_loop`: a read guard is held over the probes. -/
def probedLocks : Probed → List (Locks.Act AgentLock)
  | .unchanged => reading backends []
  | .changed updates =>
    reading backends [] ++ reading backends [] ++ if updates then holding bpf [] else []

/-- A turn of one of the loops, or one of the calls, with what decides its use of the locks. -/
inductive Turn
  /-- `run_agent`: the first registration has no other owner yet -/
  | registerAll (seeds : List (Option Bool))
  /-- `health_loop` -/
  | health (seeds : List (Option Bool))
  /-- `discover`, called by `run_agent` -/
  | discover (result : Discovered)
  /-- `refresh_loop` -/
  | refresh (result : Discovered)
  /-- `recv_loop`: `proto` is held until a datagram is accepted or a second is over -/
  | recv
  /-- `ringbuf_consumer` takes a handle, then polls: nothing, or a miss -/
  | consumerStart
  | consume (miss : Option Bool)
  /-- `discovery_loop` with a batch of this length -/
  | discovery (batch : Nat)
  /-- `handle_container_cmd`; `parsed` if the address parses -/
  | allocate
  | addOrDel (parsed : Bool)
  /-- `recover_from_bpf` -/
  | recover
  /-- `probe_loop`: its start with that many VIPs, and a turn -/
  | probeStart (vips : Nat)
  | probe (vips : List Probed)
  /-- `ipsec_loop`: its start and a turn -/
  | ipsecStart
  | rotate
  /-- a connection of `metrics::serve` -/
  | metrics
  /-- `spawn_all` and `run_agent` look up single settings -/
  | setting
  /-- `UdpProtocol::bind` in `run_agent`: the guards of its two arguments live until it is over -/
  | bindProto
  /-- `IpsecManager::new`, likewise, behind the test of `ipsec_enabled` -/
  | newIpsec (enabled : Bool)
  /-- `query_peer`, and `try_relay` over seeds of which some parse -/
  | queryPeer
  | tryRelay (seeds : List Bool)

def Turn.locks : Turn → List (Locks.Act AgentLock)
  | .registerAll seeds => registerAllLocks seeds
  | .health seeds => holding client (registerAllLocks seeds)
  | .discover result => discoverLocks result
  | .refresh result => reading publicIp [] ++ reading publicPort [] ++ discoverLocks result ++
      reading publicIp [] ++ reading publicPort []
  | .recv => holding proto []
  | .consumerStart => holding bpf []
  | .consume miss => holding ringbuf [] ++ miss.elim [] submitMissLocks
  | .discovery batch => holding cooldowns (holding pending []) ++
      (List.range batch).flatMap fun _ => holding bpf []
  | .allocate => holding bpf []
  | .addOrDel parsed => holding containers [] ++ if parsed then holding bpf [] else []
  | .recover => holding bpf [] ++ holding containers []
  | .probeStart vips => reading cfg ((List.range vips).flatMap fun _ => holding backends [])
  | .probe vips => reading backends [] ++ vips.flatMap probedLocks
  | .ipsecStart => reading cfg []
  | .rotate => holding ipsec []
  | .metrics => reading natType []
  | .setting => reading cfg []
  | .bindProto => reading cfg (reading cfg [])
  | .newIpsec enabled => reading cfg [] ++ if enabled then reading cfg (reading cfg []) else []
  | .queryPeer => holding proto []
  | .tryRelay seeds => reading cfg [] ++
      seeds.flatMap fun parses => if parses then holding proto [] else []

/-- The order of the locks. -/
def agentOrder : Order AgentLock where
  rank
    | client => 0
    | cooldowns => 0
    | conns => 2
    | pending => 2
    | _ => 1
  readOnly lock := lock == cfg

/-! ## Lemmas -/

/-- A guard is taken, the body gives back what it takes, and the guard is dropped. -/
theorem held_within (held : List AgentLock) (lock : AgentLock) (mode : Mode)
    (body : List (Locks.Act AgentLock)) (hallow : agentOrder.allows held lock mode = true)
    (hbody : agentOrder.held (lock :: held) body = some (lock :: held)) :
    agentOrder.held held (within lock mode body) = some held := by
  unfold within
  rw [Order.held, if_pos hallow, held_append, hbody, Option.bind_some, Order.held,
    if_pos List.mem_cons_self, List.erase_cons_head]
  rfl

/-- A turn followed by others. -/
theorem held_then (p q : List (Locks.Act AgentLock)) (hp : agentOrder.held [] p = some [])
    (hq : agentOrder.held [] q = some []) : agentOrder.held [] (p ++ q) = some [] := by
  rw [held_append, hp, Option.bind_some]
  exact hq

theorem held_registerAll (held : List AgentLock) (hheld : held = [] ∨ held = [client])
    (seeds : List (Option Bool)) :
    agentOrder.held held (registerAllLocks seeds) = some held := by
  have hregister : ∀ sent, agentOrder.held (cfg :: held) (registerLocks sent) = some (cfg :: held) := by
    rcases hheld with rfl | rfl
    · decide
    · decide
  refine held_within held cfg .shared _ rfl (held_flatMap _ _ _ _ fun seed _ => ?_)
  cases seed with
  | none => rfl
  | some sent => exact hregister sent

theorem held_discover (result : Discovered) : agentOrder.held [] (discoverLocks result) = some [] := by
  cases result with
  | noServers parsed => cases parsed <;> rfl
  | found => rfl
  | fallback parsed => cases parsed <;> rfl

/-- **Every turn keeps the order** and drops what it takes. -/
theorem held_turn (turn : Turn) : agentOrder.held [] turn.locks = some [] := by
  cases turn with
  | registerAll seeds => exact held_registerAll [] (.inl rfl) seeds
  | health seeds =>
    exact held_within [] client .exclusive _ rfl (held_registerAll [client] (.inr rfl) seeds)
  | discover result => exact held_discover result
  | refresh result =>
    exact held_then _ _ (held_then _ _ (held_then _ _ rfl (held_discover result)) rfl) rfl
  | recv => rfl
  | consumerStart => rfl
  | consume miss =>
    cases miss with
    | none => rfl
    | some full => cases full <;> rfl
  | discovery batch => exact held_then _ _ rfl (held_flatMap _ _ _ _ fun _ _ => rfl)
  | allocate => rfl
  | addOrDel parsed => cases parsed <;> rfl
  | recover => rfl
  | probeStart vips => exact held_within [] cfg .shared _ rfl (held_flatMap _ _ _ _ fun _ _ => rfl)
  | probe vips =>
    refine held_then _ _ rfl (held_flatMap _ _ _ _ fun probed _ => ?_)
    cases probed with
    | unchanged => rfl
    | changed updates => cases updates <;> rfl
  | ipsecStart => rfl
  | rotate => rfl
  | metrics => rfl
  | setting => rfl
  | bindProto => rfl
  | newIpsec enabled => cases enabled <;> rfl
  | queryPeer => rfl
  | tryRelay seeds =>
    refine held_then _ _ rfl (held_flatMap _ _ _ _ fun parses _ => ?_)
    cases parses <;> rfl

/-! ### Main theorem -/

/-- The tasks before their first step, each with the turns it is going to take. -/
def agentStart {ι : Type} (tasks : ι → List Turn) : State ι AgentLock :=
  .start fun t => (tasks t).flatMap Turn.locks

/-- **The agent does not deadlock.**  Any number of tasks, each with any number of turns of any of
the loops and calls, in any interleaving: in every state some task that has not finished can go
on, and all of them can be run to their end. -/
theorem agent_finishes {ι : Type} [DecidableEq ι] [Fintype ι] (tasks : ι → List Turn) (run : List ι) :
    ((∃ t, (machine.after (agentStart tasks) run).prog t ≠ []) →
      ∃ t, (machine.after (agentStart tasks) run).prog t ≠ [] ∧
        ¬ Blocked (machine.after (agentStart tasks) run) t) ∧
    ∃ more, ∀ t, (machine.after (agentStart tasks) (run ++ more)).prog t = [] := by
  have hordered : Ordered agentOrder (machine.after (agentStart tasks) run) :=
    ordered_after run _ (ordered_start agentOrder _ fun t =>
      held_flatMap agentOrder [] Turn.locks (tasks t) fun turn _ => held_turn turn)
  refine ⟨exists_free_of_ordered hordered, ?_⟩
  obtain ⟨more, hmore⟩ := finishes_of_ordered hordered
  exact ⟨more, fun t => by rw [Machine.after_append]; exact hmore t⟩

end NomadP2P
