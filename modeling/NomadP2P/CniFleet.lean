import NomadP2P.CniNet
import NomadP2P.Lib.Machine

/-!
# Many containers (`cmd_add` and `cmd_del` of `cni/src/lib.rs`)

Runs of ADD and DEL for any number of containers, in any order and repeated at will, on
every kernel with the laws of `CniKernel`.  The containers have namespaces of their own, ids that
differ in the first eight bytes, and names that are free on the host.  What the plugin keeps is
then a set:

    behind every run the containers whose last command was ADD stand, each with a pair of
      its own, and all other links and routes are those of the start      (fleet_run)
-/

namespace NomadP2P.Plugin

section
variable {ν ι σ : Type}

/-! ## Algorithm -/

/-- Containers the plugin can set up beside each other on a network, with the host link and the
address of each. -/
structure Fleet (w : World ν) (sys : System σ) (base : Net ν) (ι : Type) where
  ns : ι → ν
  cmd : ι → CniCmd
  iface : ι → String
  ip : ι → Ipv4Addr
  started : ∀ i, Started sys (cmd i) (iface i) (ip i)
  usable : ∀ i, Usable w (ip i)
  ready : ∀ i, Ready w base (ns i) (cmd i).netnsPath (iface i) (cmd i).peer
  ns_inj : Function.Injective ns
  iface_inj : Function.Injective iface
  names : ∀ i j, iface i ≠ (cmd j).peer

variable {w : World ν} {sys : System σ} {net : σ → Net ν} {base : Net ν} (F : Fleet w sys base ι)

inductive FleetOp (ι : Type)
  | add (i : ι)
  | del (i : ι)

/-- The plugin's commands one after another. -/
def Fleet.machine : Machine σ (FleetOp ι) (Except Failure Answer) where
  step s
    | .add i => cmdAdd sys (F.cmd i) s
    | .del i => cmdDel sys (F.cmd i) s

/-- What the plugin prints. -/
def Fleet.answer : FleetOp ι → Answer
  | .add i => .result (addResult (F.cmd i).cniVersion (F.ip i))
  | .del i => .version (F.cmd i).cniVersion

/-- What the plugin is for: the set of the containers that stand. -/
def standing [DecidableEq ι] (live : ι → Bool) : FleetOp ι → ι → Bool
  | .add i => Function.update live i true
  | .del i => Function.update live i false

def standingAfter [DecidableEq ι] (ops : List (FleetOp ι)) : ι → Bool := ops.foldl standing fun _ => false

/-- A link of the container. -/
def Fleet.IsEnd (i : ι) (ns : ν) (name : String) : Prop :=
  (ns = w.host ∧ name = F.iface i) ∨ (ns = F.ns i ∧ name = (F.cmd i).peer)

/-- The network of the start with exactly these containers. -/
structure Fleet.Stands (now : Net ν) (live : ι → Bool) : Prop where
  settled : ∀ i, live i = true → Settled now w.host (F.ns i) (F.iface i) (F.cmd i).peer (F.ip i)
  links : ∀ ns name, (∀ i, F.IsEnd i ns name → live i = false) → now.iface ns name = base.iface ns name
  routes : ∀ ns, (∀ i, ns = F.ns i → live i = false) → now.route ns = base.route ns

/-! ## Lemmas -/

section
variable {P : ι → Prop} {i : ι} {live : ι → Bool} [DecidableEq ι]

/-- Whoever is free behind a change for another was free before it. -/
theorem false_of_update {b : Bool} (h : ∀ j, P j → Function.update live i b j = false) (hi : ¬ P i) :
    ∀ j, P j → live j = false := by
  intro j hj
  have hji : j ≠ i := fun heq => hi (heq ▸ hj)
  have hfree := h j hj
  rwa [Function.update_of_ne hji] at hfree

theorem not_of_update (h : ∀ j, P j → Function.update live i true j = false) : ¬ P i := by
  intro hi
  have hfree := h i hi
  rw [Function.update_self] at hfree
  cases hfree

end

theorem stands_start : F.Stands base fun _ => false where
  settled _ h := by cases h
  links _ _ _ := rfl
  routes _ _ := rfl

section
variable {F}
variable {now : Net ν} {live : ι → Bool} (h : F.Stands now live)

/-! ### The links of a container -/

/-- No two containers share a link. -/
theorem isEnd_unique {i j : ι} {ns : ν} {name : String} (hi : F.IsEnd i ns name)
    (hj : F.IsEnd j ns name) : i = j := by
  rcases hi with ⟨hns, hname⟩ | ⟨hns, hname⟩
  · rcases hj with ⟨-, hname'⟩ | ⟨hns', -⟩
    · exact F.iface_inj (hname.symm.trans hname')
    · exact absurd (hns'.symm.trans hns) (F.ready j).other
  · rcases hj with ⟨hns', -⟩ | ⟨hns', -⟩
    · exact absurd (hns.symm.trans hns') (F.ready i).other
    · exact F.ns_inj (hns.symm.trans hns')

/-- The links of a container were not there at the start. -/
theorem base_isEnd {i : ι} {ns : ν} {name : String} (hi : F.IsEnd i ns name) :
    base.iface ns name = none := by
  rcases hi with ⟨rfl, rfl⟩ | ⟨rfl, rfl⟩
  · exact (F.ready i).ifaceFree
  · exact (F.ready i).contFree

include h

theorem iface_free {i : ι} (hi : live i = false) {ns : ν} {name : String} (hend : F.IsEnd i ns name) :
    now.iface ns name = none := by
  rw [h.links ns name fun j hj => isEnd_unique hend hj ▸ hi, base_isEnd hend]

/-- Inside a container that does not stand nothing has changed. -/
theorem iface_inside {i : ι} (hi : live i = false) (name : String) :
    now.iface (F.ns i) name = base.iface (F.ns i) name := by
  refine h.links _ _ fun j hj => ?_
  rcases hj with ⟨hns, -⟩ | ⟨hns, -⟩
  · exact absurd hns (F.ready i).other
  · exact F.ns_inj hns ▸ hi

theorem peer_free (i : ι) : now.iface w.host (F.cmd i).peer = none := by
  have hend : ∀ j, ¬ F.IsEnd j w.host (F.cmd i).peer := by
    rintro j (⟨-, hname⟩ | ⟨hns, -⟩)
    · exact F.names j i hname.symm
    · exact (F.ready j).other hns.symm
  rw [h.links _ _ fun j hj => absurd hj (hend j)]
  exact (F.ready i).peerFree

/-- The containers leave the routes of the host alone. -/
theorem route_host : now.route w.host = base.route w.host :=
  h.routes w.host fun i hi => absurd hi.symm (F.ready i).other

/-! ### ADD -/

theorem stands_ready {i : ι} (hi : live i = false) :
    Ready w now (F.ns i) (F.cmd i).netnsPath (F.iface i) (F.cmd i).peer where
  other := (F.ready i).other
  path := (F.ready i).path
  process := (F.ready i).process
  ifaceName := (F.ready i).ifaceName
  peerName := (F.ready i).peerName
  names := (F.ready i).names
  ifaceFree := iface_free h hi (Or.inl ⟨rfl, rfl⟩)
  peerFree := peer_free h i
  contFree := (iface_inside h hi _).trans (F.ready i).contFree
  noRoute := by
    rw [h.routes _ fun j hj => F.ns_inj hj ▸ hi]
    exact (F.ready i).noRoute
  foreign name link hlink := (F.ready i).foreign name link ((iface_inside h hi name).symm.trans hlink)

variable [DecidableEq ν]

omit h in
/-- Setting a container up leaves the other links alone. -/
theorem withContainer_other {i : ι} {ns : ν} {name : String} (hend : ¬ F.IsEnd i ns name) :
    (now.withContainer w.host (F.ns i) (F.iface i) (F.cmd i).peer (F.ip i)).iface ns name =
      now.iface ns name := by
  unfold Net.withContainer
  rw [withPair_iface, if_neg fun hc => hend (Or.inr hc), if_neg fun hc => hend (Or.inl hc)]

omit h in
/-- Taking it down does so too. -/
theorem remove_other {i : ι} {ns : ν} {name : String} (hend : ¬ F.IsEnd i ns name) :
    ((now.remove w.host (F.iface i)).remove (F.ns i) (F.cmd i).peer).iface ns name =
      now.iface ns name := by
  rw [remove_iface, if_neg fun hc => hend (Or.inr hc), remove_iface, if_neg fun hc => hend (Or.inl hc)]

variable [DecidableEq ι]

/-- ADD of a container that does not stand. -/
theorem stands_withContainer {i : ι} :
    F.Stands (now.withContainer w.host (F.ns i) (F.iface i) (F.cmd i).peer (F.ip i))
      (Function.update live i true) where
  settled j hj := by
    by_cases hji : j = i
    · subst hji
      exact settled_withContainer (F.ip j) (F.ready j).other
    · rw [Function.update_of_ne hji] at hj
      have hs := h.settled j hj
      have hother : ∀ ns name, F.IsEnd j ns name → ¬ F.IsEnd i ns name :=
        fun ns name hj hi => hji (isEnd_unique hj hi)
      refine ⟨?_, ?_, ?_⟩
      · rw [withContainer_other (hother _ _ (Or.inl ⟨rfl, rfl⟩))]
        exact hs.onHost
      · rw [withContainer_other (hother _ _ (Or.inr ⟨rfl, rfl⟩))]
        exact hs.inCont
      · exact (Function.update_of_ne (fun hns => hji (F.ns_inj hns)) _ _).trans hs.route
  links ns name hends := by
    have hnot : ¬ F.IsEnd i ns name := not_of_update (P := fun j => F.IsEnd j ns name) hends
    rw [withContainer_other hnot]
    exact h.links ns name (false_of_update hends hnot)
  routes ns hns := by
    have hnot : ns ≠ F.ns i := not_of_update (P := fun j => ns = F.ns j) hns
    exact (Function.update_of_ne hnot _ _).trans (h.routes ns (false_of_update hns hnot))

/-! ### DEL -/

/-- A container that is taken down; no route of the host goes over its link. -/
theorem stands_remove {i : ι} (hi : live i = true) (hbase : base.Routed) :
    F.Stands ((now.remove w.host (F.iface i)).remove (F.ns i) (F.cmd i).peer)
      (Function.update live i false) where
  settled j hj := by
    have hji : j ≠ i := by
      rintro rfl
      rw [Function.update_self] at hj
      cases hj
    rw [Function.update_of_ne hji] at hj
    have hs := h.settled j hj
    have hother : ∀ ns name, F.IsEnd j ns name → ¬ F.IsEnd i ns name :=
      fun ns name hj hi => hji (isEnd_unique hj hi)
    refine ⟨?_, ?_, ?_⟩
    · rw [remove_other (hother _ _ (Or.inl ⟨rfl, rfl⟩))]
      exact hs.onHost
    · rw [remove_other (hother _ _ (Or.inr ⟨rfl, rfl⟩))]
      exact hs.inCont
    · rw [remove_route_of_ne _ _ _ _ fun _ _ hns => absurd (F.ns_inj hns) hji,
        remove_route_of_ne _ _ _ _ fun _ _ hns => absurd hns (F.ready j).other]
      exact hs.route
  links ns name hends := by
    by_cases hend : F.IsEnd i ns name
    · rw [base_isEnd hend, remove_iface]
      rcases hend with hhost | hcont
      · rw [if_neg fun hc => (F.ready i).other (hc.1.symm.trans hhost.1), remove_iface, if_pos hhost]
      · rw [if_pos hcont]
    · rw [remove_other hend]
      exact h.links ns name (false_of_update hends hend)
  routes ns hns := by
    have hcont : (now.remove w.host (F.iface i)).route (F.ns i) = some (gateway, (F.cmd i).peer) :=
      (remove_route_of_ne _ _ _ _ fun _ _ heq => absurd heq (F.ready i).other).trans
        (h.settled i hi).route
    by_cases hc : ns = F.ns i
    · rw [hc, remove_route_self _ _ _ gateway hcont, (F.ready i).noRoute]
    · rw [remove_route_of_ne _ _ _ _ fun _ _ heq => absurd heq hc, remove_route_of_ne]
      · exact h.routes ns (false_of_update hns hc)
      · rintro r hr rfl hname
        rw [route_host h] at hr
        have hsome := hbase w.host r hr
        rw [hname, (F.ready i).ifaceFree] at hsome
        cases hsome

end

/-! ### Runs -/

section
variable [DecidableEq ν] [DecidableEq ι] (K : NetLaws w sys net)

include K

/-- One command: what it prints, and who stands behind it. -/
theorem stands_next (hbase : base.Routed) (s : σ) (live : ι → Bool) (op : FleetOp ι)
    (h : F.Stands (net s) live) :
    F.machine.out s op = .ok (F.answer op) ∧ F.Stands (net (F.machine.next s op)) (standing live op) := by
  cases op with
  | add i =>
    show (cmdAdd sys (F.cmd i) s).2 = _ ∧
      F.Stands (net (cmdAdd sys (F.cmd i) s).1) (Function.update live i true)
    cases hi : live i with
    | false =>
      obtain ⟨hres, hnet⟩ := cmdAdd_first K (F.cmd i) s (F.ns i) (F.iface i) (F.ip i) (F.started i)
        (F.usable i) (stands_ready h hi)
      rw [hnet]
      exact ⟨hres, stands_withContainer h⟩
    | true =>
      obtain ⟨hres, hnet⟩ := cmdAdd_again K (F.cmd i) s (F.ns i) (F.iface i) (F.ip i) (F.started i)
        (F.ready i).ifaceName (F.ready i).peerName (F.ready i).process (h.settled i hi) (peer_free h i)
      rw [hnet, ← hi, Function.update_eq_self]
      exact ⟨hres, h⟩
  | del i =>
    show (cmdDel sys (F.cmd i) s).2 = _ ∧
      F.Stands (net (cmdDel sys (F.cmd i) s).1) (Function.update live i false)
    obtain ⟨hres, hnet⟩ := cmdDel_net K (F.cmd i) s (F.iface i) (F.ip i) (F.started i)
    refine ⟨hres, ?_⟩
    cases hi : live i with
    | false =>
      rw [hnet, K.deleteAbsent s _ (iface_free h hi (Or.inl ⟨rfl, rfl⟩)), ← hi, Function.update_eq_self]
      exact h
    | true =>
      rw [cmdDel_settled K (F.cmd i) s (F.ns i) (F.iface i) (F.ip i) (F.started i) (h.settled i hi)]
      exact stands_remove h hi hbase

theorem stands_run (hbase : base.Routed) (ops : List (FleetOp ι)) : ∀ (s : σ) (live : ι → Bool),
    F.Stands (net s) live → F.machine.outputs s ops = ops.map (fun op => .ok (F.answer op)) ∧
      F.Stands (net (F.machine.after s ops)) (ops.foldl standing live) := by
  induction ops with
  | nil => exact fun s live h => ⟨rfl, h⟩
  | cons op ops ih =>
    intro s live h
    obtain ⟨hout, hnext⟩ := stands_next F K hbase s live op h
    obtain ⟨houts, hafter⟩ := ih _ _ hnext
    rw [Machine.outputs_cons, hout, houts]
    exact ⟨rfl, hafter⟩

/-! ## Main theorem -/

/-- **The plugin keeps a set of containers.**  On every kernel with the laws, behind any commands for
the containers, the network is that of the start with exactly the containers whose last command was
ADD: each has its two links with its addresses, up, each the other end of the other, and its default
route; and every command succeeds, ADD with the address of the container. -/
theorem fleet_run (s : σ) (hs : net s = base) (ops : List (FleetOp ι)) :
    F.Stands (net (F.machine.after s ops)) (standingAfter ops) ∧
      F.machine.outputs s ops = ops.map fun op => .ok (F.answer op) := by
  have hstart : F.Stands (net s) fun _ => false := by
    rw [hs]
    exact stands_start F
  obtain ⟨houts, hafter⟩ := stands_run F K (hs ▸ K.routed s) ops s (fun _ => false) hstart
  exact ⟨hafter, houts⟩

end

end

/-! ### Two containers -/

/-- A host, which is `none`, and the containers of two processes. -/
def twoProcesses : World (Option Bool) where
  host := none
  path text := if text = "/proc/4242/ns/net" then some (some true) else
    if text = "/proc/4243/ns/net" then some (some false) else none
  process text := if text = "4242" then some (some true) else
    if text = "4243" then some (some false) else none
  ifname := shortName
  addr _ := true
  onLink := inMesh
  own := sameAddress

def emptyHost : Net (Option Bool) := ⟨fun _ _ => none, fun _ => none⟩

theorem emptyHost_routed : emptyHost.Routed := fun _ _ h => (by cases h)

def twoCmd (first : Bool) : CniCmd :=
  ⟨"1.0.0", none, some (if first then "0123456789ab" else "abcdef012345"),
    some (if first then "/proc/4242/ns/net" else "/proc/4243/ns/net"), none, none, none, none⟩

def twoIface (first : Bool) : String := if first then "veth-01234567" else "veth-abcdef01"

theorem nsTarget_4243 : nsTarget "/proc/4243/ns/net" = "4243" := by
  have htext : "/proc/4243/ns/net" = "/proc/" ++ "4243" ++ "/ns/net" := by decide +kernel
  rw [htext, nsTarget_proc "4243" (by decide +kernel) (by decide +kernel)]

theorem twoIface_cut (first : Bool) : hostIface (twoCmd first).id = some (twoIface first) := by
  revert first
  decide +kernel

theorem twoCmd_ready (first : Bool) :
    Ready twoProcesses emptyHost (some first) (twoCmd first).netnsPath (twoIface first)
      (twoCmd first).peer where
  other := Option.some_ne_none first
  path := by
    revert first
    decide +kernel
  process := by
    cases first with
    | true =>
      show twoProcesses.process (nsTarget "/proc/4242/ns/net") = _
      rw [nsTarget_4242]
      decide +kernel
    | false =>
      show twoProcesses.process (nsTarget "/proc/4243/ns/net") = _
      rw [nsTarget_4243]
      decide +kernel
  ifaceName := by
    revert first
    decide +kernel
  peerName := by
    revert first
    decide +kernel
  names := by
    revert first
    decide +kernel
  ifaceFree := rfl
  peerFree := rfl
  contFree := rfl
  noRoute := rfl
  foreign _ _ h := by cases h

theorem twoCmd_usable (first : Bool) : Usable twoProcesses (fallbackIp (twoCmd first).id) where
  onHost := rfl
  inCont := rfl
  reach := by
    revert first
    decide +kernel
  foreign := by
    revert first
    decide +kernel

theorem twoIface_injective : Function.Injective twoIface := by decide +kernel

theorem twoIface_names (i j : Bool) : twoIface i ≠ (twoCmd j).peer := by
  revert i j
  decide +kernel

def twoContainers : Fleet twoProcesses (tableSystem twoProcesses) emptyHost Bool where
  ns := some
  cmd := twoCmd
  iface := twoIface
  ip first := fallbackIp (twoCmd first).id
  started first := ⟨twoIface_cut first, fun _ => rfl, fun c _ s => tableSystem_starts twoProcesses s c⟩
  usable := twoCmd_usable
  ready := twoCmd_ready
  ns_inj := Option.some_injective Bool
  iface_inj := twoIface_injective
  names := twoIface_names

/-- Both are added, one twice, and the first is deleted. -/
def twoContainersOps : List (FleetOp Bool) := [.add true, .add false, .add false, .del true]

/-- The second stands. -/
theorem twoContainers_stand :
    twoContainers.Stands (twoContainers.machine.after ⟨emptyHost, emptyHost_routed⟩ twoContainersOps).1
        (fun first => !first) ∧
      (twoContainers.machine.outputs ⟨emptyHost, emptyHost_routed⟩ twoContainersOps).map Except.isOk =
        [true, true, true, true] := by
  have hset : standingAfter twoContainersOps = fun first => !first := by decide
  obtain ⟨hstands, houts⟩ := fleet_run twoContainers (tableSystem_laws twoProcesses)
    ⟨emptyHost, emptyHost_routed⟩ rfl twoContainersOps
  rw [hset] at hstands
  rw [houts]
  exact ⟨hstands, rfl⟩

end NomadP2P.Plugin
