import NomadP2P.LocalKeys
import NomadP2P.Vip
import NomadP2P.Tc

/-!
# The agent and the kernel programs on one set of maps

The running agent (API requests, `ringbuf_consumer`, `discovery_loop`, `probe_loop`,
`set_tunnel_cfg`) beside the programs of `ebpf/src/main.rs` (`egress_p2p_mesh`,
`tc_ingress_firewall`, `vip_load_balance`), in any interleaving.  The programs read five maps.
`BpfManager::load` takes handles on `NODE_DYNAMIC_MAP` and `GENEVE_IFINDEX_MAP`, but `update_peer`
has no caller and nothing inserts into the other; the handles on `VIP_MAP`, `ACL_MAP` and
`DEFAULT_POLICY` are unset.  What the agent has a hand in is the ring buffer, which the egress
program fills and `ringbuf_consumer` empties; how much it takes is a parameter.

    whatever the agent does, packets and connections fare as with the programs alone on the
      maps as they were found, but that a miss is reported only if the ring has room
                                                                     (agent_unseen)
    a destination that is missed once is missed in every run: misses are reported, drained
      and discovered, and the next packet is missed again           (miss_repeats)

Where these maps hold no interface, no deny and no backend, as new ones do, every frame goes on as
it came, every connection keeps its destination, and no miss is reported (`idle_maps_pass`).  The
hook of the connections returns 0 in every case.
-/

namespace NomadP2P

open Ebpf Bytes

/-! ## Algorithm -/

/-- The maps that the programs read. -/
structure ProgramMaps where
  geneveIfindex : KernelMap UInt32
  nodeDynamic : KernelMap PeerEndpoint
  vips : KernelMap VipInfo
  acl : KernelMap AclRule
  policy : KernelMap UInt8

/-- A run of a program: what it is given, and what its helper calls return but `reserve`. -/
inductive Packet
  | egress (ctx : TcContext) (redirect : UInt32 → Int)
  | ingress (ctx : TcContext)
  | connect (ctx : Connect) (ok : Bool)

/-- What a program leaves behind and returns; for a connection `none` is the panic. -/
inductive Handled
  | egress (r : Egress)
  | ingress (verdict : Int)
  | connect (r : Option (Connect × Int))
deriving DecidableEq

/-- The item put into the ring buffer. -/
def Handled.miss : Handled → Option UInt32
  | .egress r => r.miss
  | _ => none

/-- The packet has fared so where the ring had room, or had none. -/
def Handled.given (h : Handled) (room : Bool) : Handled :=
  match h with
  | .egress r => .egress (if room then r else { r with miss := none })
  | h => h

/-- A program on a packet; `reserve` says whether the ring buffer has room. -/
def runProgram (e : ByteOrder) (maps : ProgramMaps) (reserve : Bool) : Packet → ProgramMaps × Handled
  | .egress ctx redirect =>
    (maps, .egress (egressP2pMesh e ⟨maps.geneveIfindex, maps.nodeDynamic, reserve, redirect⟩ ctx))
  | .ingress ctx => (maps, .ingress (tcIngressFirewall e maps.acl maps.policy ctx))
  | .connect ctx ok =>
    match vipLoadBalance e maps.vips ctx ok with
    | some (vips, ctx, ret) => ({ maps with vips := vips }, .connect (some (ctx, ret)))
    | none => (maps, .connect none)

/-- The programs alone, with a ring buffer that always has room. -/
def programMachine (e : ByteOrder) : Machine ProgramMaps Packet Handled where
  step maps p := runProgram e maps true p

/-- The node, the maps of the kernel that it has no handle on, and the items in the ring buffer. -/
structure Plane where
  node : NodeState
  kernel : ProgramMaps
  ring : List (List UInt8)

/-- The maps as the programs find them: a handle is one on the map of the kernel. -/
def Plane.maps (s : Plane) : ProgramMaps where
  geneveIfindex := s.node.agent.bpf.geneveIfindex.getD s.kernel.geneveIfindex
  nodeDynamic := s.node.agent.bpf.nodeDynamic.getD s.kernel.nodeDynamic
  vips := s.node.agent.bpf.vipMap.getD s.kernel.vips
  acl := s.node.agent.bpf.aclMap.getD s.kernel.acl
  policy := s.node.agent.bpf.defaultPolicy.getD s.kernel.policy

/-- The handles, where the maps have these contents. -/
def BpfManager.withMaps (b : BpfManager) (maps : ProgramMaps) : BpfManager :=
  { b with
    geneveIfindex := b.geneveIfindex.map fun _ => maps.geneveIfindex
    nodeDynamic := b.nodeDynamic.map fun _ => maps.nodeDynamic
    vipMap := b.vipMap.map fun _ => maps.vips
    aclMap := b.aclMap.map fun _ => maps.acl
    defaultPolicy := b.defaultPolicy.map fun _ => maps.policy }

def Plane.setBpf (s : Plane) (bpf : BpfManager) : Plane :=
  { s with node := { s.node with agent := { s.node.agent with bpf := bpf } } }

def Plane.setMaps (s : Plane) (maps : ProgramMaps) : Plane :=
  { s.setBpf (s.node.agent.bpf.withMaps maps) with kernel := maps }

/-- What the agent does. -/
inductive AgentOp
  | node (op : NodeOp)
  /-- `ringbuf_consumer` polls the ring buffer -/
  | consume
  | probe (round : ProbeRound)
  | setTunnelCfg (tunnelId : UInt32) (ok : Bool)

inductive PlaneOp
  | agent (op : AgentOp)
  | packet (p : Packet)

/-- A step of the agent. -/
def agentStep (checks : Bool) (e : ByteOrder) (m : VipMonitor) (s : Plane) : AgentOp → Plane
  | .node op => { s with node := (nodeMachine checks).next s.node op }
  | .consume =>
    match s.ring with
    | [] => s
    | data :: ring =>
      { s with
        ring := ring
        node := (decodeMiss e data).elim s.node fun ip => (nodeMachine checks).next s.node (.submit ip) }
  | .probe round => { s with node := { s.node with agent := probeIteration m s.node.agent round } }
  | .setTunnelCfg tunnelId ok => s.setBpf (s.node.agent.bpf.setTunnelCfg tunnelId ok).1

/-- The agent and the programs.  `room` says whether `reserve` succeeds with that many items in the
ring; the answer to a packet is whether it did, and what the program has left behind. -/
def planeMachine (checks : Bool) (e : ByteOrder) (room : Nat → Bool) (m : VipMonitor) :
    Machine Plane PlaneOp (Option (Bool × Handled)) where
  step s
    | .agent op => (agentStep checks e m s op, none)
    | .packet p =>
      let r := runProgram e s.maps (room s.ring.length) p
      ({ s.setMaps r.1 with ring := s.ring ++ (r.2.miss.map fun ip => e.store 4 ip.toNat).toList },
        some (room s.ring.length, r.2))

/-- The agent as it starts, on maps that may have been there before. -/
def Plane.start (maps : ProgramMaps) (tunnelCfg : KernelMap TunnelCfg) : Plane where
  node := { NodeState.start with
    agent := { Agent.loaded with
      bpf := { Agent.loaded.bpf.withMaps maps with tunnelCfg := some tunnelCfg } } }
  kernel := maps
  ring := []

def PlaneOp.packet? : PlaneOp → Option Packet
  | .agent _ => none
  | .packet p => some p

/-- The packets and connections of a run. -/
def packets (ops : List PlaneOp) : List Packet := ops.filterMap PlaneOp.packet?

/-- For each of them, whether the ring had room, and how it has fared. -/
def seen (checks : Bool) (e : ByteOrder) (room : Nat → Bool) (m : VipMonitor) (s : Plane)
    (ops : List PlaneOp) : List (Bool × Handled) :=
  ((planeMachine checks e room m).outputs s ops).filterMap id

/-- How the packets and connections of a run fare. -/
def handled (checks : Bool) (e : ByteOrder) (room : Nat → Bool) (m : VipMonitor) (s : Plane)
    (ops : List PlaneOp) : List Handled := (seen checks e room m s ops).map Prod.snd

/-- Maps that ask for nothing: no interface or the number 0, no deny, and no backend. -/
structure ProgramMaps.Idle (maps : ProgramMaps) : Prop where
  down : maps.geneveIfindex 0 = none ∨ maps.geneveIfindex 0 = some 0
  allowed : ∀ key rule, maps.acl key = some rule → rule.action ≠ AclAction.deny.code
  policy : maps.policy 0 ≠ some AclAction.deny.code
  vips : ∀ key info, maps.vips key = some info → info.count = 0

/-- The frame goes on as it came, and the connection keeps its destination. -/
def Packet.passed : Packet → Handled
  | .egress ctx _ => .egress ⟨tcActPipe, ctx.frame, none, none, false⟩
  | .ingress _ => .ingress tcActPipe
  | .connect ctx _ => .connect (some (ctx, 0))

/-! ## Lemmas -/

/-! ### The agent writes to `CONTAINER_ROUTE_MAP` -/

/-- The second manager has the handles of the first, with other contents of one map. -/
def OnlyRoutes (b b' : BpfManager) : Prop := ∃ route, b' = { b with containerRoute := route }

theorem OnlyRoutes.refl (b : BpfManager) : OnlyRoutes b b := ⟨b.containerRoute, rfl⟩

theorem onlyRoutes_update (b : BpfManager) (ip vni : UInt32) (ok : Bool) :
    OnlyRoutes b (b.updateContainerRoute ip vni ok).1 := ⟨_, rfl⟩

theorem onlyRoutes_remove (b : BpfManager) (ip : UInt32) (ok : Bool) :
    OnlyRoutes b (b.removeContainerRoute ip ok).1 := by
  unfold BpfManager.removeContainerRoute
  split
  · exact .refl b
  · split
    · exact ⟨_, rfl⟩
    · exact .refl b

theorem onlyRoutes_withRoute (agent : Agent) (ip : String) (op : BpfManager → UInt32 → BpfManager × Bool)
    (h : ∀ b key, OnlyRoutes b (op b key).1) : OnlyRoutes agent.bpf (withRoute agent ip op).bpf := by
  unfold withRoute
  split
  · exact .refl _
  · split
    · exact .refl _
    · exact h _ _

theorem onlyRoutes_allocate (checks : Bool) (agent : Agent) (id : String) (ok : Bool) :
    OnlyRoutes agent.bpf (allocate checks agent id ok).1.bpf := by
  rw [allocate_eq]
  split
  · exact .refl _
  · split
    · exact .refl _
    · exact onlyRoutes_update _ _ _ _

theorem onlyRoutes_handle (checks : Bool) (agent : Agent) (parsed : Except String Json) (ok : Bool) :
    OnlyRoutes agent.bpf (handleContainerCmd checks agent parsed ok).1.bpf := by
  cases parsed with
  | error e => exact .refl _
  | ok v =>
    unfold handleContainerCmd
    dsimp only
    split
    · exact onlyRoutes_allocate checks agent _ ok
    · split
      · exact onlyRoutes_withRoute _ _ _ fun b key => onlyRoutes_update b key _ ok
      · split
        · exact onlyRoutes_withRoute _ _ _ fun b key => onlyRoutes_remove b key ok
        · exact .refl _

theorem onlyRoutes_discoverAll (ok : UInt32 → Bool) (batch : List UInt32) :
    ∀ agent : Agent, OnlyRoutes agent.bpf ((discoverAll ok batch agent).getD agent).bpf := by
  suffices h : ∀ agent agent' : Agent, discoverAll ok batch agent = some agent' →
      OnlyRoutes agent.bpf agent'.bpf by
    intro agent
    cases hall : discoverAll ok batch agent with
    | none => exact .refl _
    | some agent' => exact h agent agent' hall
  induction batch with
  | nil => rintro agent agent' ⟨⟩; exact .refl _
  | cons ip batch ih =>
    intro agent agent' hall
    rw [discoverAll] at hall
    split at hall
    · cases hall
    · obtain ⟨route, hroute⟩ := ih _ agent' hall
      exact ⟨route, hroute⟩

theorem onlyRoutes_node (checks : Bool) (s : NodeState) (op : NodeOp) :
    OnlyRoutes s.agent.bpf ((nodeMachine checks).next s op).agent.bpf := by
  cases op with
  | api r => exact onlyRoutes_handle checks s.agent r.body r.ok
  | submit ip => exact .refl _
  | discover kad now ok =>
    show OnlyRoutes _ (if s.discovering then _ else (s, ())).1.agent.bpf
    split
    · exact onlyRoutes_discoverAll ok _ s.agent
    · exact .refl _

/-- Without a handle, probes change nothing. -/
theorem probeVip_unset (m : VipMonitor) (round : ProbeRound) (agent : Agent) (vip : String)
    (h : agent.bpf.vipMap = none) : probeVip m round agent vip = agent := by
  have hbpf : ∀ ip alive, (updateBpfVip agent.bpf ip alive round.ok).1 = agent.bpf := by
    intro ip alive
    unfold updateBpfVip
    rw [h]
    show { agent.bpf with vipMap := none } = agent.bpf
    rw [← h]
  unfold probeVip
  dsimp only
  split
  · split
    · rfl
    · split
      · rfl
      · split
        · rfl
        · rw [hbpf]
  · rfl

theorem probeIteration_unset (m : VipMonitor) (agent : Agent) (round : ProbeRound)
    (h : agent.bpf.vipMap = none) : probeIteration m agent round = agent := by
  unfold probeIteration
  generalize round.order = order
  induction order with
  | nil => rfl
  | cons vip order ih => rw [List.foldl_cons, probeVip_unset m round agent vip h, ih]

/-! ### The maps of the programs -/

/-- The handle on `VIP_MAP` is unset. -/
def Plane.Unset (s : Plane) : Prop := s.node.agent.bpf.vipMap = none

/-- A step that leaves the programs what they read. -/
def Plane.Hidden (s s' : Plane) : Prop := s'.Unset ∧ s'.maps = s.maps

theorem hidden_of_onlyRoutes (s s' : Plane) (h : s.Unset) (hkernel : s'.kernel = s.kernel)
    (hbpf : OnlyRoutes s.node.agent.bpf s'.node.agent.bpf) : s.Hidden s' := by
  obtain ⟨route, hbpf⟩ := hbpf
  refine ⟨?_, ?_⟩
  · unfold Plane.Unset
    rw [hbpf]
    exact h
  · unfold Plane.maps
    rw [hbpf, hkernel]

theorem agentStep_hidden (checks : Bool) (e : ByteOrder) (m : VipMonitor) (s : Plane) (op : AgentOp)
    (h : s.Unset) : s.Hidden (agentStep checks e m s op) := by
  cases op with
  | node op => exact hidden_of_onlyRoutes s _ h rfl (onlyRoutes_node checks s.node op)
  | consume =>
    unfold agentStep
    dsimp only
    split
    · exact ⟨h, rfl⟩
    · next data ring _ =>
      refine hidden_of_onlyRoutes s _ h rfl ?_
      dsimp only
      cases decodeMiss e data with
      | none => exact .refl _
      | some ip => exact onlyRoutes_node checks s.node (.submit ip)
  | probe round =>
    refine hidden_of_onlyRoutes s _ h rfl ?_
    show OnlyRoutes _ (probeIteration m s.node.agent round).bpf
    rw [probeIteration_unset m _ round h]
    exact .refl _
  | setTunnelCfg tunnelId ok => exact ⟨h, rfl⟩

theorem getD_map_const {α : Type} (o : Option α) (a : α) : (o.map fun _ => a).getD a = a := by
  cases o with
  | none => rfl
  | some b => rfl

theorem setMaps_unset (s : Plane) (maps : ProgramMaps) (h : s.Unset) : (s.setMaps maps).Unset := by
  show s.node.agent.bpf.vipMap.map _ = none
  rw [h]
  rfl

theorem maps_setMaps (s : Plane) (maps : ProgramMaps) : (s.setMaps maps).maps = maps := by
  unfold Plane.maps Plane.setMaps Plane.setBpf BpfManager.withMaps
  simp only [getD_map_const]

theorem maps_start (maps : ProgramMaps) (tunnelCfg : KernelMap TunnelCfg) :
    (Plane.start maps tunnelCfg).maps = maps := rfl

/-! ### The ring buffer -/

theorem tryEgress_full (e : ByteOrder) (env : EgressEnv) (ctx : TcContext) :
    tryEgress e { env with reserve := false } ctx =
      (tryEgress e { env with reserve := true } ctx).map fun r => { r with miss := none } := by
  unfold tryEgress
  cases hproto : ctx.loadU16 e 12 with
  | error err => rfl
  | ok proto =>
    dsimp only [bind, Except.bind]
    by_cases hip : proto ≠ 0x0800
    · rw [if_pos hip, if_pos hip]
      rfl
    rw [if_neg hip, if_neg hip]
    by_cases hlen : ctx.len < 42
    · rw [if_pos hlen, if_pos hlen]
      rfl
    rw [if_neg hlen, if_neg hlen]
    cases hdst : ctx.loadU32 e 16 with
    | error err => rfl
    | ok dst =>
      dsimp only
      cases env.geneveIfindex 0 with
      | none => rfl
      | some ifindex =>
        dsimp only
        by_cases hup : ifindex = 0
        · rw [if_pos hup, if_pos hup]
          rfl
        rw [if_neg hup, if_neg hup]
        cases env.nodeDynamic dst with
        | none => rfl
        | some ep =>
          dsimp only
          by_cases hlinear : ctx.linear < 42
          · rw [if_pos hlinear]
            rfl
          · rw [if_neg hlinear]
            rfl

/-- `reserve` decides about the report and nothing else. -/
theorem egress_reserve (e : ByteOrder) (env : EgressEnv) (ctx : TcContext) (reserve : Bool) :
    egressP2pMesh e { env with reserve := reserve } ctx =
      if reserve then egressP2pMesh e { env with reserve := true } ctx
      else { egressP2pMesh e { env with reserve := true } ctx with miss := none } := by
  cases reserve with
  | true => rfl
  | false =>
    rw [if_neg Bool.false_ne_true]
    unfold egressP2pMesh
    rw [tryEgress_full]
    cases tryEgress e { env with reserve := true } ctx with
    | error err => rfl
    | ok r => rfl

/-- With or without room the maps are the same, and the packet fares the same but for the report. -/
theorem runProgram_reserve (e : ByteOrder) (maps : ProgramMaps) (reserve : Bool) (p : Packet) :
    runProgram e maps reserve p =
      ((runProgram e maps true p).1, (runProgram e maps true p).2.given reserve) := by
  cases p with
  | egress ctx redirect =>
    exact congrArg (fun r => (maps, Handled.egress r)) (egress_reserve e
      ⟨maps.geneveIfindex, maps.nodeDynamic, true, redirect⟩ ctx reserve)
  | ingress ctx => rfl
  | connect ctx ok =>
    unfold runProgram
    dsimp only
    cases vipLoadBalance e maps.vips ctx ok with
    | none => rfl
    | some r => rfl

/-- Runs of the agent with the programs are runs of the programs. -/
theorem plane_run (checks : Bool) (e : ByteOrder) (room : Nat → Bool) (m : VipMonitor)
    (ops : List PlaneOp) (s : Plane) (h : s.Unset) :
    List.Forall₂ (fun o h => o.2 = h.given o.1) (seen checks e room m s ops)
        ((programMachine e).outputs s.maps (packets ops)) ∧
      ((planeMachine checks e room m).after s ops).maps =
        (programMachine e).after s.maps (packets ops) := by
  refine Machine.run_of_view (planeMachine checks e room m) (programMachine e) Plane.Unset Plane.maps
    PlaneOp.packet? _ ?_ ?_ ?_ ops s h
  · intro s op h
    cases op with
    | agent op => exact (agentStep_hidden checks e m s op h).1
    | packet p => exact setMaps_unset s _ h
  · intro s op h hop
    cases op with
    | agent op => exact ⟨rfl, (agentStep_hidden checks e m s op h).2⟩
    | packet p => cases hop
  · intro s op p h hop
    cases op with
    | agent op => cases hop
    | packet q =>
      obtain rfl : q = p := Option.some.inj hop
      have hrun := runProgram_reserve e s.maps (room s.ring.length) q
      refine ⟨⟨_, rfl, congrArg Prod.snd hrun⟩, ?_⟩
      show (s.setMaps (runProgram e s.maps (room s.ring.length) q).1).maps = (runProgram e s.maps true q).1
      rw [maps_setMaps, hrun]

/-! ### Idle maps -/

theorem egress_of_down (e : ByteOrder) (env : EgressEnv) (ctx : TcContext)
    (h : env.geneveIfindex 0 = none ∨ env.geneveIfindex 0 = some 0) :
    egressP2pMesh e env ctx = ⟨tcActPipe, ctx.frame, none, none, false⟩ := by
  unfold egressP2pMesh tryEgress
  cases hproto : ctx.loadU16 e 12 with
  | error err => rfl
  | ok proto =>
    dsimp only [bind, Except.bind]
    by_cases hip : proto ≠ 0x0800
    · rw [if_pos hip]
    rw [if_neg hip]
    by_cases hlen : ctx.len < 42
    · rw [if_pos hlen]
    rw [if_neg hlen]
    cases hdst : ctx.loadU32 e 16 with
    | error err => rfl
    | ok dst =>
      rcases h with h | h
      · rw [h]
      · rw [h]
        rfl

theorem firewall_of_idle (e : ByteOrder) (maps : ProgramMaps) (h : maps.Idle) (ctx : TcContext) :
    tcIngressFirewall e maps.acl maps.policy ctx = tcActPipe := by
  have hpolicy : ¬ (maps.policy 0).getD 1 = 2 := by
    cases hp : maps.policy 0 with
    | none => decide
    | some p => exact fun hdeny => h.policy (hp.trans (congrArg some hdeny))
  unfold tcIngressFirewall tryFirewall
  cases hproto : ctx.loadU16 e 12 with
  | error err => rfl
  | ok proto =>
    dsimp only [bind, Except.bind]
    by_cases hip : proto ≠ 0x0800
    · rw [if_pos hip]
    rw [if_neg hip]
    by_cases hlen : ctx.len < 42
    · rw [if_pos hlen]
    rw [if_neg hlen]
    cases hsrc : ctx.loadU32 e 26 with
    | error err => rfl
    | ok src =>
      cases hprot : ctx.loadU16 e 23 with
      | error err => rfl
      | ok prot =>
        dsimp only
        cases hrule : maps.acl src with
        | none => rw [if_neg hpolicy]
        | some rule =>
          have hallow : ¬ rule.action = 2 := h.allowed src rule hrule
          dsimp only
          rw [if_neg hallow]

theorem tryVip_of_idle (e : ByteOrder) (maps : ProgramMaps) (h : maps.Idle) (ctx : Connect) (ok : Bool) :
    tryVip e maps.vips ctx ok = some (maps.vips, ctx) := by
  unfold tryVip
  cases hinfo : maps.vips ctx.userIp with
  | none => rfl
  | some info =>
    have hchoose : vipChoose info = some none := by
      unfold vipChoose
      rw [if_neg]
      rw [h.vips ctx.userIp info hinfo]
      decide
    dsimp only [bind, Option.bind]
    rw [hchoose]

/-- On idle maps a program does nothing. -/
theorem runProgram_idle (e : ByteOrder) (maps : ProgramMaps) (h : maps.Idle) (reserve : Bool) (p : Packet) :
    runProgram e maps reserve p = (maps, p.passed) := by
  cases p with
  | egress ctx redirect =>
    have hpass := egress_of_down e ⟨maps.geneveIfindex, maps.nodeDynamic, reserve, redirect⟩ ctx h.down
    exact congrArg (fun r => (maps, Handled.egress r)) hpass
  | ingress ctx => exact congrArg (fun v => (maps, Handled.ingress v)) (firewall_of_idle e maps h ctx)
  | connect ctx ok =>
    unfold runProgram vipLoadBalance
    dsimp only
    rw [tryVip_of_idle e maps h]
    rfl

theorem outputs_idle (e : ByteOrder) (maps : ProgramMaps) (h : maps.Idle) (ps : List Packet) :
    (programMachine e).outputs maps ps = ps.map Packet.passed := by
  induction ps with
  | nil => rfl
  | cons p ps ih =>
    have hstep : (programMachine e).step maps p = (maps, p.passed) := runProgram_idle e maps h true p
    have hout : (programMachine e).out maps p = p.passed := congrArg Prod.snd hstep
    have hnext : (programMachine e).next maps p = maps := congrArg Prod.fst hstep
    rw [Machine.outputs_cons, hout, hnext, ih, List.map_cons]

theorem given_passed (p : Packet) (room : Bool) : p.passed.given room = p.passed := by
  cases p with
  | egress ctx redirect => cases room <;> rfl
  | ingress ctx => rfl
  | connect ctx ok => rfl

/-! ### Misses -/

/-- The programs write to `VIP_MAP` only. -/
theorem maps_next (e : ByteOrder) (maps : ProgramMaps) (p : Packet) :
    ((programMachine e).next maps p).geneveIfindex = maps.geneveIfindex ∧
      ((programMachine e).next maps p).nodeDynamic = maps.nodeDynamic := by
  cases p with
  | egress ctx redirect => exact ⟨rfl, rfl⟩
  | ingress ctx => exact ⟨rfl, rfl⟩
  | connect ctx ok =>
    show (runProgram e maps true (.connect ctx ok)).1.geneveIfindex = _ ∧
      (runProgram e maps true (.connect ctx ok)).1.nodeDynamic = _
    unfold runProgram
    dsimp only
    cases vipLoadBalance e maps.vips ctx ok with
    | none => exact ⟨rfl, rfl⟩
    | some r => exact ⟨rfl, rfl⟩

theorem maps_after (e : ByteOrder) (maps : ProgramMaps) (ps : List Packet) :
    ((programMachine e).after maps ps).geneveIfindex = maps.geneveIfindex ∧
      ((programMachine e).after maps ps).nodeDynamic = maps.nodeDynamic := by
  refine (programMachine e).inv_after
    (fun s => s.geneveIfindex = maps.geneveIfindex ∧ s.nodeDynamic = maps.nodeDynamic) ps ?_ maps ⟨rfl, rfl⟩
  rintro s p - ⟨hgeneve, hnode⟩
  obtain ⟨hgeneve', hnode'⟩ := maps_next e s p
  exact ⟨hgeneve'.trans hgeneve, hnode'.trans hnode⟩

/-- A frame that `try_egress` takes for one to the key. -/
structure ToKey (e : ByteOrder) (ctx : TcContext) (key : UInt32) : Prop where
  length : 42 ≤ ctx.frame.length
  proto : UInt16.ofNat (e.load (bytesAt ctx.frame 12 2)) = 0x0800
  dest : UInt32.ofNat (e.load (bytesAt ctx.frame 16 4)) = key

/-- What a miss is: the frame goes on, and is reported if there is room. -/
def missed (ctx : TcContext) (key : UInt32) (reserve : Bool) : Egress :=
  ⟨tcActPipe, ctx.frame, some key, if reserve then some key else none, false⟩

theorem egress_missed (e : ByteOrder) (env : EgressEnv) (ctx : TcContext) (key ifindex : UInt32)
    (hctx : ToKey e ctx key) (hgeneve : env.geneveIfindex 0 = some ifindex) (hup : ifindex ≠ 0)
    (hnode : env.nodeDynamic key = none) : egressP2pMesh e env ctx = missed ctx key env.reserve := by
  have hlen := hctx.length
  have hlen' : ¬ ctx.len < 42 := Nat.not_lt.mpr hlen
  have hproto : ¬ (0x0800 : UInt16) ≠ 0x0800 := not_not.mpr rfl
  unfold egressP2pMesh tryEgress
  rw [loadU16_eq ctx e 12 (by omega), loadU32_eq ctx e 16 (by omega), hctx.proto, hctx.dest]
  dsimp only [bind, Except.bind]
  rw [if_neg hproto, if_neg hlen', hgeneve]
  dsimp only
  rw [if_neg hup, hnode]
  rfl

theorem given_missed (ctx : TcContext) (key : UInt32) (room : Bool) :
    (Handled.egress (missed ctx key true)).given room = .egress (missed ctx key room) := by
  cases room with
  | true => rfl
  | false => rfl

/-! ## Main theorems -/

/-- **The agent is not seen.**  In every interleaving of what the agent does with packets and
connections, on whatever maps it starts and whatever the ring takes: each of them fares as with the
programs alone, but that a miss is reported only where the ring has room; and the maps of the
programs are afterwards what these alone have made of them. -/
theorem agent_unseen (checks : Bool) (e : ByteOrder) (room : Nat → Bool) (m : VipMonitor)
    (maps : ProgramMaps) (tunnelCfg : KernelMap TunnelCfg) (ops : List PlaneOp) :
    List.Forall₂ (fun o h => o.2 = h.given o.1) (seen checks e room m (.start maps tunnelCfg) ops)
        ((programMachine e).outputs maps (packets ops)) ∧
      ((planeMachine checks e room m).after (.start maps tunnelCfg) ops).maps =
        (programMachine e).after maps (packets ops) :=
  plane_run checks e room m ops (.start maps tunnelCfg) rfl

/-- **On idle maps everything passes.**  The agent then never brings the overlay up: in every run
each frame leaves with its bytes as they were and no lookup or miss reported, none is
dropped, and each connection keeps its destination. -/
theorem idle_maps_pass (checks : Bool) (e : ByteOrder) (room : Nat → Bool) (m : VipMonitor)
    (maps : ProgramMaps) (hidle : maps.Idle) (tunnelCfg : KernelMap TunnelCfg) (ops : List PlaneOp) :
    handled checks e room m (.start maps tunnelCfg) ops = (packets ops).map Packet.passed := by
  have hrun := (plane_run checks e room m ops (.start maps tunnelCfg) rfl).1
  rw [maps_start, outputs_idle e maps hidle] at hrun
  unfold handled
  rw [← List.forall₂_eq_eq_eq, List.forall₂_map_left_iff, List.forall₂_map_right_iff]
  refine (List.forall₂_map_right_iff.mp hrun).imp fun o p h => ?_
  rw [h, given_passed]

/-- No interface yet, a rule that allows, and a VIP whose backends are gone. -/
def quietMaps : ProgramMaps where
  geneveIfindex key := if key = 0 then some 0 else none
  nodeDynamic _ := none
  vips key := if key = 0x0a60000a then some (vipEntry []) else none
  acl := oneRule .allow
  policy key := if key = 0 then some AclAction.allow.code else none

theorem quietMaps_idle : quietMaps.Idle where
  down := Or.inr rfl
  allowed key rule h := by
    have hrule : oneRule .allow key = some rule := h
    unfold oneRule at hrule
    split at hrule
    · obtain rfl := Option.some.inj hrule
      decide
    · cases hrule
  policy := by decide
  vips key info h := by
    have hinfo : (if key = 0x0a60000a then some (vipEntry []) else none) = some info := h
    split at hinfo
    · obtain rfl := Option.some.inj hinfo
      rfl
    · cases hinfo

/-- A VIP with one backend. -/
def oneVip : VipMonitor := initMonitor [⟨"10.96.0.10", ["10.0.0.1:8080"]⟩]

/-- A ring of one item. -/
def oneItem (n : Nat) : Bool := n < 1

/-- A container gets its address, a miss is discovered and the backend of the VIP found dead; around
that, a frame leaves, one comes in, and a connection is made to the VIP. -/
def discoverAndConnect : List PlaneOp :=
  [.agent (.setTunnelCfg 100 true), .packet (.egress (udpContext [0x00, 0x08]) fun _ => 7),
    .agent (.node (.api ⟨.ok (allocateRequest "web"), true⟩)), .agent (.node (.submit 0x0af40009)),
    .agent .consume, .agent (.node (.discover false 1000 fun _ => true)),
    .packet (.ingress (udpContext [0x00, 0x08])),
    .agent (.probe ⟨["10.96.0.10"], fun _ _ => false, true⟩),
    .packet (.connect ⟨0x0a60000a, 80⟩ true), .packet (.egress (udpContext [0x00, 0x08]) fun _ => 7)]

/-- All of them pass; the connection keeps the VIP. -/
theorem discoverAndConnect_pass :
    handled true .little oneItem oneVip (.start quietMaps fun _ => none) discoverAndConnect =
      [.egress ⟨tcActPipe, udpFrame [0x00, 0x08], none, none, false⟩, .ingress tcActPipe,
        .connect (some (⟨0x0a60000a, 80⟩, 0)),
        .egress ⟨tcActPipe, udpFrame [0x00, 0x08], none, none, false⟩] :=
  idle_maps_pass true .little oneItem oneVip quietMaps quietMaps_idle (fun _ => none) discoverAndConnect

/-- **A miss is never resolved.**  Where the overlay is up and has no endpoint for a destination at the
start, every packet to it misses in every run, whatever the agent discovers in between; it is
reported if the ring has room. -/
theorem miss_repeats (checks : Bool) (e : ByteOrder) (room : Nat → Bool) (m : VipMonitor)
    (maps : ProgramMaps) (tunnelCfg : KernelMap TunnelCfg) (ifindex key : UInt32)
    (hgeneve : maps.geneveIfindex 0 = some ifindex) (hup : ifindex ≠ 0)
    (hnode : maps.nodeDynamic key = none) (ops : List PlaneOp) (k : Nat) (ctx : TcContext)
    (redirect : UInt32 → Int) (hctx : ToKey e ctx key)
    (hpacket : (packets ops)[k]? = some (.egress ctx redirect)) :
    ∃ reserve, (seen checks e room m (.start maps tunnelCfg) ops)[k]? =
      some (reserve, .egress (missed ctx key reserve)) := by
  obtain ⟨hgeneve', hnode'⟩ := maps_after e maps ((packets ops).take k)
  have halone : ((programMachine e).outputs maps (packets ops))[k]? =
      some (.egress (missed ctx key true)) := by
    rw [Machine.outputs_get, hpacket, Option.map_some]
    refine congrArg (fun r => some (Handled.egress r)) (egress_missed e _ ctx key ifindex hctx ?_ hup ?_)
    · rw [← hgeneve, ← hgeneve']
    · rw [← hnode, ← hnode']
  have hrun := (plane_run checks e room m ops (.start maps tunnelCfg) rfl).1
  rw [maps_start] at hrun
  obtain ⟨hk, halone⟩ := List.getElem?_eq_some_iff.mp halone
  have hk' : k < (seen checks e room m (.start maps tunnelCfg) ops).length := by
    rw [hrun.length_eq]
    exact hk
  have hfares := hrun.get hk' hk
  rw [List.get_eq_getElem, List.get_eq_getElem, halone, given_missed] at hfares
  refine ⟨(seen checks e room m (.start maps tunnelCfg) ops)[k].1, ?_⟩
  rw [List.getElem?_eq_getElem hk', ← hfares]

/-- The overlay is up, and there is no endpoint yet. -/
def upMaps : ProgramMaps := { quietMaps with geneveIfindex := fun key => if key = 0 then some 7 else none }

def udpPacket : Packet := .egress (udpContext [0x08, 0x00]) fun _ => 7

/-- A packet, its miss discovered, and the packet again. -/
def discoverAndRetry : List PlaneOp :=
  [.packet udpPacket, .agent .consume, .agent (.node (.discover false 1000 fun _ => true)),
    .packet udpPacket]

theorem udpPacket_toKey : ToKey .big (udpContext [0x08, 0x00]) 0x001c1234 where
  length := by decide
  proto := by decide
  dest := by decide

/-- It is missed again. -/
theorem discoverAndRetry_missed :
    ∃ reserve, (seen true .big oneItem oneVip (.start upMaps fun _ => none) discoverAndRetry)[1]? =
      some (reserve, .egress (missed (udpContext [0x08, 0x00]) 0x001c1234 reserve)) :=
  miss_repeats true .big oneItem oneVip upMaps (fun _ => none) 7 0x001c1234 rfl (by decide) rfl
    discoverAndRetry 1 (udpContext [0x08, 0x00]) (fun _ => 7) udpPacket_toKey rfl

end NomadP2P
