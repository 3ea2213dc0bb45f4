import NomadP2P.Common
import NomadP2P.Stun
import NomadP2P.Lib.Machine

/-!
# The endpoint after `discover` (`agent/src/stun.rs`, `AgentState::new`)

Calls of `discover` one after another, as `run_agent` and `refresh_loop` make them, with
any outcome of the STUN query.  A successful query writes the address and the port; a
failed one, and a call without servers, writes the overlay address and leaves the port.

So the port is the one of the last successful query, also after a failure:

    publicPort = port of the last successful query, or listen_port      (publicPort_after)

and the pair of each call is from one source exactly when no failed call
finds a port other than `listen_port` (`consistent_iff`).
-/

namespace NomadP2P.Stun

/-! ## Algorithm -/

/-- The fields of `AgentConfig` that `discover` and `AgentState::new` read. -/
structure AgentConfig where
  nodeOverlayIp : String
  stunServers : List String
  listenPort : UInt16

structure AgentState where
  natType : NatType
  publicIp : Ipv4Addr
  publicPort : UInt16
deriving DecidableEq

def AgentState.new (cfg : AgentConfig) : AgentState := ⟨.unknown, ⟨0, 0, 0, 0⟩, cfg.listenPort⟩

/-- `*state.public_ip.write().await = state.cfg.read().await.node_overlay_ip.parse()?` -/
def AgentState.useOverlayIp (s : AgentState) (cfg : AgentConfig) : Except String AgentState :=
  match Ipv4Addr.parse cfg.nodeOverlayIp with
  | none => .error "invalid IPv4 address syntax"
  | some ip => .ok { s with publicIp := ip }

/-- What one call of `discover` meets: `query(&servers[0])`, where `none` is an error, and
the answer of `detect_nat_type`. -/
structure DiscoverCall where
  query : Option StunResult
  nat : NatType

/-- `discover`: the state behind the call, and what it returns. -/
def discover (cfg : AgentConfig) (s : AgentState) (call : DiscoverCall) :
    AgentState × Except String Unit :=
  if cfg.stunServers.isEmpty then
    match s.useOverlayIp cfg with
    | .error e => (s, .error e)
    | .ok s => (s, .ok ())
  else
    match call.query with
    | some result =>
      ({ s with publicIp := result.publicIp, publicPort := result.publicPort, natType := call.nat },
        .ok ())
    | none =>
      match s.useOverlayIp cfg with
      | .error e => (s, .error e)
      | .ok s => ({ s with natType := call.nat }, .ok ())

/-- The result of the call's query, if one was made and it succeeded. -/
def queried (cfg : AgentConfig) (call : DiscoverCall) : Option StunResult :=
  if cfg.stunServers.isEmpty then none else call.query

/-- The calls in their order; the answer is what the call's query gave. -/
def discoverMachine (cfg : AgentConfig) : Machine AgentState DiscoverCall (Option StunResult) where
  step s call := ((discover cfg s call).1, queried cfg call)

/-- Address and port are both from the call's query, or both the fallback. -/
def Consistent (cfg : AgentConfig) (overlay : Ipv4Addr) (call : DiscoverCall) (s : AgentState) :
    Prop :=
  (∃ r, queried cfg call = some r ∧ (s.publicIp, s.publicPort) = (r.publicIp, r.publicPort)) ∨
    (s.publicIp, s.publicPort) = (overlay, cfg.listenPort)

/-! ## Lemmas -/

/-- A successful query writes both halves. -/
theorem next_of_queried (cfg : AgentConfig) (s : AgentState) (call : DiscoverCall) (r : StunResult)
    (h : queried cfg call = some r) :
    (discoverMachine cfg).next s call = ⟨call.nat, r.publicIp, r.publicPort⟩ := by
  unfold queried at h
  show (discover cfg s call).1 = _
  unfold discover
  by_cases hempty : cfg.stunServers.isEmpty = true
  · rw [if_pos hempty] at h
    cases h
  · rw [if_neg hempty] at h ⊢
    simp only [h]

/-- Any other call writes the overlay address, if that is one, and not the port. -/
theorem next_of_not_queried (cfg : AgentConfig) (s : AgentState) (call : DiscoverCall)
    (h : queried cfg call = none) :
    ((discoverMachine cfg).next s call).publicIp =
        (Ipv4Addr.parse cfg.nodeOverlayIp).getD s.publicIp ∧
      ((discoverMachine cfg).next s call).publicPort = s.publicPort := by
  unfold queried at h
  show (discover cfg s call).1.publicIp = _ ∧ (discover cfg s call).1.publicPort = _
  unfold discover AgentState.useOverlayIp
  by_cases hempty : cfg.stunServers.isEmpty = true
  · rw [if_pos hempty]
    cases Ipv4Addr.parse cfg.nodeOverlayIp <;> exact ⟨rfl, rfl⟩
  · rw [if_neg hempty] at h ⊢
    simp only [h]
    cases Ipv4Addr.parse cfg.nodeOverlayIp <;> exact ⟨rfl, rfl⟩

theorem outputs_discover (cfg : AgentConfig) (calls : List DiscoverCall) (s : AgentState) :
    (discoverMachine cfg).outputs s calls = calls.map (queried cfg) := by
  induction calls generalizing s with
  | nil => rfl
  | cons call calls ih => rw [Machine.outputs_cons, ih, List.map_cons]; rfl

/-- The last successful query of the calls. -/
def lastQuery (cfg : AgentConfig) (calls : List DiscoverCall) : Option StunResult :=
  (calls.filterMap (queried cfg)).getLast?

/-- The port is a cell that only successful queries write. -/
theorem publicPort_after (cfg : AgentConfig) (calls : List DiscoverCall) (s : AgentState) :
    ((discoverMachine cfg).after s calls).publicPort =
      ((lastQuery cfg calls).map StunResult.publicPort).getD s.publicPort := by
  have hcell := (discoverMachine cfg).after_lastWrite (fun _ => True) AgentState.publicPort
    (Option.map StunResult.publicPort) (fun _ _ _ => trivial) (by
      intro s call _
      show _ = ((queried cfg call).map StunResult.publicPort).getD s.publicPort
      cases h : queried cfg call with
      | none => exact (next_of_not_queried cfg s call h).2
      | some r => rw [next_of_queried cfg s call r h]; rfl) calls s trivial
  rw [hcell, outputs_discover, List.filterMap_map, lastQuery, ← List.getLast?_map, List.map_filterMap]
  rfl

/-- What one more call needs to leave a consistent pair. -/
theorem consistent_snoc_iff (cfg : AgentConfig) (overlay : Ipv4Addr)
    (hvalid : Ipv4Addr.parse cfg.nodeOverlayIp = some overlay) (pre : List DiscoverCall)
    (call : DiscoverCall) :
    Consistent cfg overlay call ((discoverMachine cfg).after (.new cfg) (pre ++ [call])) ↔
      (queried cfg call = none → ∀ r, lastQuery cfg pre = some r → r.publicPort = cfg.listenPort) := by
  rw [Machine.after_snoc]
  have hport := publicPort_after cfg pre (.new cfg)
  generalize (discoverMachine cfg).after (.new cfg) pre = s at hport
  cases hq : queried cfg call with
  | some r =>
    have hnext := next_of_queried cfg s call r hq
    constructor
    · intro _ h
      cases h
    · intro _
      refine Or.inl ⟨r, hq, ?_⟩
      rw [hnext]
  | none =>
    obtain ⟨hip, hkept⟩ := next_of_not_queried cfg s call hq
    rw [hvalid, Option.getD_some] at hip
    constructor
    · rintro (⟨r, hr, -⟩ | h) _ r hlast
      · rw [hq] at hr
        cases hr
      · have hpair := (Prod.mk.inj h).2
        rw [hkept, hport, hlast, Option.map_some, Option.getD_some] at hpair
        exact hpair
    · intro h
      have hlisten : s.publicPort = cfg.listenPort := by
        rw [hport]
        cases hlast : lastQuery cfg pre with
        | none => rfl
        | some r => exact h rfl r hlast
      exact Or.inr (by rw [hip, hkept, hlisten])

/-! ### Main theorem -/

/-- **The endpoint after each call.**  Every call of a sequence leaves the pair of its own
successful query or the fallback pair exactly when, at each call without a successful
query, the last successful query before it (if any) had returned the configured
`listen_port`. -/
theorem consistent_iff (cfg : AgentConfig) (overlay : Ipv4Addr)
    (hvalid : Ipv4Addr.parse cfg.nodeOverlayIp = some overlay) (calls : List DiscoverCall) :
    (∀ pre call, pre ++ [call] <+: calls →
        Consistent cfg overlay call ((discoverMachine cfg).after (.new cfg) (pre ++ [call]))) ↔
      ∀ pre call, pre ++ [call] <+: calls → queried cfg call = none →
        ∀ r, lastQuery cfg pre = some r → r.publicPort = cfg.listenPort := by
  constructor
  · intro h pre call hpre
    exact (consistent_snoc_iff cfg overlay hvalid pre call).mp (h pre call hpre)
  · intro h pre call hpre
    exact (consistent_snoc_iff cfg overlay hvalid pre call).mpr (h pre call hpre)

def defaultConfig : AgentConfig := ⟨"10.244.0.1", ["stun.l.google.com:19302"], 9527⟩

/-- A success with the given port, then a failure. -/
def successThenFailure (port : UInt16) : List DiscoverCall :=
  [⟨some ⟨⟨203, 0, 113, 5⟩, port⟩, .easy⟩, ⟨none, .unknown⟩]

/-- A NAT that keeps the port hides the difference. -/
theorem consistent_port_kept :
    Ipv4Addr.parse defaultConfig.nodeOverlayIp = some ⟨10, 244, 0, 1⟩ ∧
      ∀ pre call, pre ++ [call] <+: successThenFailure 9527 →
        Consistent defaultConfig ⟨10, 244, 0, 1⟩ call
          ((discoverMachine defaultConfig).after (.new defaultConfig) (pre ++ [call])) := by
  have hvalid : Ipv4Addr.parse defaultConfig.nodeOverlayIp = some ⟨10, 244, 0, 1⟩ := by decide
  refine ⟨hvalid, (consistent_iff defaultConfig ⟨10, 244, 0, 1⟩ hvalid _).mpr ?_⟩
  intro pre call hpre _ r hr
  obtain ⟨c, hc, hq⟩ := List.mem_filterMap.mp (List.mem_of_getLast? hr)
  have hmem : c ∈ successThenFailure 9527 := hpre.subset (List.mem_append_left _ hc)
  simp only [successThenFailure, List.mem_cons, List.not_mem_nil, or_false] at hmem
  rcases hmem with rfl | rfl
  · cases hq
    rfl
  · cases hq

/-- Otherwise the failed call leaves the overlay address with the port of the answer
before it, a pair that neither source ever gave. -/
theorem stale_port_after_failure :
    Ipv4Addr.parse defaultConfig.nodeOverlayIp = some ⟨10, 244, 0, 1⟩ ∧
      (discoverMachine defaultConfig).after (.new defaultConfig) (successThenFailure 40000) =
        ⟨.unknown, ⟨10, 244, 0, 1⟩, 40000⟩ ∧
      ¬ Consistent defaultConfig ⟨10, 244, 0, 1⟩ ⟨none, .unknown⟩
          ((discoverMachine defaultConfig).after (.new defaultConfig) (successThenFailure 40000)) := by
  have hafter : (discoverMachine defaultConfig).after (.new defaultConfig) (successThenFailure 40000) =
      ⟨.unknown, ⟨10, 244, 0, 1⟩, 40000⟩ := by decide
  refine ⟨by decide, hafter, ?_⟩
  rw [hafter]
  rintro (⟨r, hr, -⟩ | h)
  · cases hr
  · exact absurd h (by decide)

end NomadP2P.Stun
