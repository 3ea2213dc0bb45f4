import NomadP2P.CniPlugin
import Mathlib.Logic.Function.Basic

/-!
# The kernel behind the plugin (`ip` and `nsenter` of `cni/src/lib.rs`)

The kernel is a parameter.  Of its state we see a network: the links, with their IPv4 addresses, and
the default route (of metric 0) of each namespace; of its commands we have one law for each outcome
that the plugin meets (`NetLaws`).  A link that is moved to another namespace loses its addresses and
goes down; the ends of a veth pair go together; names are unique in a namespace.  What a text has to
be to name a link or an address is a parameter as well (`World`).

The laws hold of a plain table of links and routes                  (tableSystem_laws)
-/

namespace NomadP2P.Plugin

/-! ## The network -/

/-- A link: the other end of a veth pair, whether it is tied to its namespace as a bridge may be, its
addresses, and whether it is up. -/
structure Iface (ν : Type) where
  other : Option (ν × String)
  tied : Bool
  addrs : List String
  up : Bool
deriving DecidableEq

/-- Links by namespace and name, and default routes by namespace, a gateway and a link. -/
@[ext]
structure Net (ν : Type) where
  iface : ν → String → Option (Iface ν)
  route : ν → Option (String × String)

/-- What the arguments of commands mean: the namespace of a path and that of a process; which texts
can name a link, and which are addresses; whether a gateway is reached from an address, and whether
it has the address itself. -/
structure World (ν : Type) where
  host : ν
  path : String → Option ν
  process : String → Option ν
  ifname : String → Bool
  addr : String → Bool
  onLink : String → String → Bool
  own : String → String → Bool

/-- The command runs `ip` in this namespace. -/
inductive World.Runs {ν : Type} (w : World ν) : Command → ν → IpCmd → Prop
  | ip (cmd : IpCmd) : w.Runs (.ip cmd) w.host cmd
  | nsenter (target : String) (ns : ν) (cmd : IpCmd) (h : w.process target = some ns) :
      w.Runs (.nsenter target cmd) ns cmd

section
variable {ν : Type} [DecidableEq ν]

def Net.set (net : Net ν) (ns : ν) (name : String) (link : Option (Iface ν)) : Net ν :=
  { net with iface := Function.update net.iface ns (Function.update (net.iface ns) name link) }

/-- A link is gone from a namespace, and the default route over it. -/
def Net.remove (net : Net ν) (ns : ν) (name : String) : Net ν where
  iface := (net.set ns name none).iface
  route := Function.update net.route ns ((net.route ns).filter fun r => r.2 ≠ name)

/-- One end of a pair is now elsewhere. -/
def Net.setOther (net : Net ν) (fst : Option (ν × String)) (snd : ν × String) : Net ν :=
  match fst with
  | none => net
  | some (ns, name) =>
    net.set ns name ((net.iface ns name).map fun link => { link with other := some snd })

/-- No default route goes over a link that is not there. -/
def Net.Routed (net : Net ν) : Prop := ∀ ns r, net.route ns = some r → (net.iface ns r.2).isSome

/-- No link of the namespace has the address of the gateway. -/
def Net.Foreign (net : Net ν) (w : World ν) (ns : ν) (via : String) : Prop :=
  ∀ name link, net.iface ns name = some link → ∀ addr ∈ link.addrs, w.own addr via = false

/-- A link behind its move: without addresses, and down. -/
def Iface.moved (link : Iface ν) : Iface ν := ⟨link.other, link.tied, [], false⟩

/-- A new end of a pair. -/
def Iface.fresh (ns : ν) (other : String) : Iface ν := ⟨some (ns, other), false, [], false⟩

/-- What the plugin's commands do to the network that `net` shows of a system. -/
structure NetLaws {σ : Type} (w : World ν) (sys : System σ) (net : σ → Net ν) : Prop where
  routed : ∀ s, (net s).Routed
  /-- `ip link add`, a name of which is taken -/
  linkTaken : ∀ s name peer out, (sys.exec s (.ip (.linkAdd name peer))).2 = .ok out →
    w.ifname name = true → w.ifname peer = true →
    ((net s).iface w.host name).isSome ∨ ((net s).iface w.host peer).isSome →
    containsText "File exists" out.stderr = true ∧ net (sys.exec s (.ip (.linkAdd name peer))).1 = net s
  /-- `ip link add` for two free names -/
  linkMade : ∀ s name peer out, (sys.exec s (.ip (.linkAdd name peer))).2 = .ok out →
    w.ifname name = true → w.ifname peer = true →
    (net s).iface w.host name = none → (net s).iface w.host peer = none → name ≠ peer →
    out.success = true ∧ net (sys.exec s (.ip (.linkAdd name peer))).1 =
      ((net s).set w.host name (some (.fresh w.host peer))).set w.host peer (some (.fresh w.host name))
  /-- `ip link set … netns` without the link -/
  moveAbsent : ∀ s dev netns, (net s).iface w.host dev = none →
    net (sys.exec s (.ip (.setNetns dev netns))).1 = net s
  /-- `ip link set … netns` to another namespace, where the name is free -/
  moved : ∀ s dev netns link c, (net s).iface w.host dev = some link → link.tied = false →
    w.path netns = some c → c ≠ w.host → (net s).iface c dev = none →
    net (sys.exec s (.ip (.setNetns dev netns))).1 =
      (((net s).remove w.host dev).set c dev (some link.moved)).setOther link.other (c, dev)
  /-- `ip addr add` for an address that is new on an end of a pair -/
  addrNew : ∀ s c ns addr dev link, w.Runs c ns (.addrAdd addr dev) → (net s).iface ns dev = some link →
    link.other.isSome → w.addr addr = true → addr ∉ link.addrs →
    net (sys.exec s c).1 = (net s).set ns dev (some { link with addrs := link.addrs ++ [addr] })
  /-- `ip addr add` for one that is there -/
  addrAgain : ∀ s c ns addr dev link, w.Runs c ns (.addrAdd addr dev) → (net s).iface ns dev = some link →
    addr ∈ link.addrs → net (sys.exec s c).1 = net s
  /-- `ip link set … up` for an end of a pair -/
  linkUp : ∀ s c ns dev link, w.Runs c ns (.linkUp dev) → (net s).iface ns dev = some link →
    link.other.isSome →
    net (sys.exec s c).1 = (net s).set ns dev (some { link with up := true })
  /-- `ip route add default` over a link that is up, with the gateway in reach and another one -/
  routeNew : ∀ s c ns via dev link addr, w.Runs c ns (.routeDefault via dev) →
    (net s).iface ns dev = some link → link.up = true → addr ∈ link.addrs → w.onLink addr via = true →
    (net s).Foreign w ns via → (net s).route ns = none →
    net (sys.exec s c).1 = { net s with route := Function.update (net s).route ns (some (via, dev)) }
  /-- `ip route add default` where there is one -/
  routeAgain : ∀ s c ns via dev, w.Runs c ns (.routeDefault via dev) → ((net s).route ns).isSome →
    net (sys.exec s c).1 = net s
  /-- no link comes or goes by these three -/
  kept : ∀ s c, c.keepsLinks = true → ∀ ns name,
    ((net (sys.exec s c).1).iface ns name).isSome = ((net s).iface ns name).isSome
  /-- `ip link delete` for an end of a pair: the other goes too -/
  deleted : ∀ s dev link ns name, (net s).iface w.host dev = some link → link.other = some (ns, name) →
    net (sys.exec s (.ip (.linkDelete dev))).1 = ((net s).remove w.host dev).remove ns name
  /-- `ip link delete` without the link -/
  deleteAbsent : ∀ s dev, (net s).iface w.host dev = none →
    net (sys.exec s (.ip (.linkDelete dev))).1 = net s
  /-- requests to the agent are none of these -/
  allocateIp : ∀ s id, net (sys.allocateIp s id).1 = net s
  notifyAgent : ∀ s action id ip iface, net (sys.notifyAgent s action id ip iface) = net s

/-! ## Lemmas -/

section
variable (net : Net ν) (ns ns' : ν) (name name' : String) (link link' : Option (Iface ν))

theorem set_self : (net.set ns name link).iface ns name = link := by
  simp only [Net.set, Function.update_self]

theorem set_other_name (h : name' ≠ name) :
    (net.set ns name link).iface ns name' = net.iface ns name' := by
  simp only [Net.set, Function.update_self, Function.update_of_ne h]

theorem set_other_ns (h : ns' ≠ ns) : (net.set ns name link).iface ns' name' = net.iface ns' name' := by
  simp only [Net.set, Function.update_of_ne h]

theorem set_set : (net.set ns name link).set ns name link' = net.set ns name link' := by
  simp only [Net.set, Function.update_self, Function.update_idem]

/-- Links in different namespaces can be set in either order. -/
theorem set_comm (h : ns ≠ ns') :
    (net.set ns name link).set ns' name' link' = (net.set ns' name' link').set ns name link := by
  simp only [Net.set, Function.update_of_ne h, Function.update_of_ne h.symm]
  rw [Function.update_comm h]

theorem set_eq_self (h : net.iface ns name = link) : net.set ns name link = net := by
  simp only [Net.set, ← h, Function.update_eq_self]

/-- Where a link is found behind a change. -/
theorem set_iface : (net.set ns name link).iface ns' name' =
    if ns' = ns ∧ name' = name then link else net.iface ns' name' := by
  by_cases hns : ns' = ns
  · subst hns
    by_cases hname : name' = name
    · subst hname
      rw [if_pos ⟨rfl, rfl⟩, set_self]
    · rw [if_neg fun h => hname h.2, set_other_name _ _ _ _ _ hname]
  · rw [if_neg fun h => hns h.1, set_other_ns _ _ _ _ _ _ hns]

theorem remove_iface : (net.remove ns name).iface ns' name' =
    if ns' = ns ∧ name' = name then none else net.iface ns' name' :=
  set_iface net ns ns' name name' none

/-- The routes over other links stay. -/
theorem remove_route_of_ne (h : ∀ r, net.route ns' = some r → ns' = ns → r.2 ≠ name) :
    (net.remove ns name).route ns' = net.route ns' := by
  show Function.update net.route ns _ ns' = _
  by_cases hns : ns' = ns
  · subst hns
    rw [Function.update_self]
    cases hr : net.route ns' with
    | none => rfl
    | some r => rw [Option.filter_some, if_pos (decide_eq_true (h r hr rfl))]
  · rw [Function.update_of_ne hns]

theorem remove_route_self (via : String) (h : net.route ns = some (via, name)) :
    (net.remove ns name).route ns = none := by
  show Function.update net.route ns _ ns = _
  rw [Function.update_self, h, Option.filter_some, if_neg]
  simp

end

theorem setOther_present (base : Net ν) (fst : Option (ν × String)) (snd : ν × String) (ns : ν)
    (name : String) :
    ((base.setOther fst snd).iface ns name).isSome = (base.iface ns name).isSome := by
  cases fst with
  | none => rfl
  | some e =>
    show ((base.set e.1 e.2 _).iface ns name).isSome = _
    rw [set_iface]
    split
    · next heq => rw [heq.1, heq.2, Option.isSome_map]
    · rfl

end

/-! ## A kernel with the laws -/

section
variable {ν : Type} [DecidableEq ν] (w : World ν)

def done : Output := ⟨true, ""⟩

def noDevice : Output := ⟨false, "Cannot find device"⟩

def refused : Output := ⟨false, "Error: argument is wrong"⟩

/-- `ip` in a namespace, on a table of links and routes. -/
def ipOn (net : Net ν) (ns : ν) : IpCmd → Net ν × Output
  | .linkAdd name peer =>
    if w.ifname name = false ∨ w.ifname peer = false then (net, refused)
    else if (net.iface ns name).isSome ∨ (net.iface ns peer).isSome ∨ name = peer then (net, fileExists)
    else ((net.set ns name (some (.fresh ns peer))).set ns peer (some (.fresh ns name)), done)
  | .setNetns dev netns =>
    match net.iface ns dev, w.path netns with
    | some link, some c =>
      if link.tied = true ∨ c = ns ∨ (net.iface c dev).isSome then (net, refused)
      else (((net.remove ns dev).set c dev (some link.moved)).setOther link.other (c, dev), done)
    | _, _ => (net, noDevice)
  | .addrAdd addr dev =>
    match net.iface ns dev with
    | none => (net, noDevice)
    | some link =>
      if addr ∈ link.addrs then (net, fileExists)
      else if w.addr addr then (net.set ns dev (some { link with addrs := link.addrs ++ [addr] }), done)
      else (net, refused)
  | .linkUp dev =>
    match net.iface ns dev with
    | none => (net, noDevice)
    | some link => (net.set ns dev (some { link with up := true }), done)
  | .routeDefault via dev =>
    match net.iface ns dev with
    | none => (net, noDevice)
    | some link =>
      if (net.route ns).isSome then (net, fileExists)
      else if link.up && link.addrs.any (w.onLink · via) && !link.addrs.any (w.own · via) then
        ({ net with route := Function.update net.route ns (some (via, dev)) }, done)
      else (net, ⟨false, "Error: Nexthop has invalid gateway."⟩)
  | .linkDelete dev =>
    match net.iface ns dev with
    | none => (net, noDevice)
    | some link =>
      match link.other with
      | none => (net, ⟨false, "RTNETLINK answers: Operation not supported"⟩)
      | some (ns', name) => ((net.remove ns dev).remove ns' name, done)

/-! ### Routes over links -/

theorem Net.Routed.set {net : Net ν} (h : net.Routed) (ns : ν) (name : String) (link : Iface ν) :
    (net.set ns name (some link)).Routed := by
  intro ns' r hr
  rw [set_iface]
  split
  · rfl
  · exact h ns' r hr

theorem Net.Routed.remove {net : Net ν} (h : net.Routed) (ns : ν) (name : String) :
    (net.remove ns name).Routed := by
  intro ns' r hr
  replace hr : Function.update net.route ns ((net.route ns).filter fun r => r.2 ≠ name) ns' = some r := hr
  rw [remove_iface]
  by_cases hns : ns' = ns
  · subst hns
    rw [Function.update_self, Option.filter_eq_some_iff, decide_eq_true_eq] at hr
    rw [if_neg fun hc => hr.2 hc.2]
    exact h ns' r hr.1
  · rw [Function.update_of_ne hns] at hr
    rw [if_neg fun hc => hns hc.1]
    exact h ns' r hr

theorem Net.Routed.setOther {net : Net ν} (h : net.Routed) (fst : Option (ν × String))
    (snd : ν × String) : (net.setOther fst snd).Routed := by
  intro ns r hr
  rw [setOther_present]
  refine h ns r ?_
  cases fst with
  | none => exact hr
  | some e => exact hr

theorem ipOn_routed {net : Net ν} (h : net.Routed) (ns : ν) (cmd : IpCmd) :
    (ipOn w net ns cmd).1.Routed := by
  cases cmd with
  | linkAdd name peer =>
    unfold ipOn
    dsimp only
    split
    · exact h
    · split
      · exact h
      · exact (h.set _ _ _).set _ _ _
  | setNetns dev netns =>
    unfold ipOn
    dsimp only
    split
    · split
      · exact h
      · exact ((h.remove _ _).set _ _ _).setOther _ _
    · exact h
  | addrAdd addr dev =>
    unfold ipOn
    dsimp only
    split
    · exact h
    · split
      · exact h
      · split
        · exact h.set _ _ _
        · exact h
  | linkUp dev =>
    unfold ipOn
    dsimp only
    split
    · exact h
    · exact h.set _ _ _
  | routeDefault via dev =>
    unfold ipOn
    dsimp only
    split
    · exact h
    · next link hlink =>
      split
      · exact h
      · split
        · intro ns' r hr
          replace hr : Function.update net.route ns (some (via, dev)) ns' = some r := hr
          by_cases hns : ns' = ns
          · subst hns
            rw [Function.update_self] at hr
            cases hr
            show (net.iface ns' dev).isSome = true
            rw [hlink]
            rfl
          · rw [Function.update_of_ne hns] at hr
            exact h ns' r hr
        · exact h
  | linkDelete dev =>
    unfold ipOn
    dsimp only
    split
    · exact h
    · split
      · exact h
      · exact (h.remove _ _).remove _ _

/-- The namespace a command runs in, and what it runs there. -/
def World.place : Command → Option (ν × IpCmd)
  | .ip cmd => some (w.host, cmd)
  | .nsenter target cmd => (w.process target).map fun ns => (ns, cmd)

omit [DecidableEq ν] in
theorem place_of_runs {c : Command} {ns : ν} {cmd : IpCmd} (h : w.Runs c ns cmd) :
    w.place c = some (ns, cmd) := by
  cases h with
  | ip => rfl
  | nsenter target ns cmd h =>
    show (w.process target).map _ = _
    rw [h, Option.map_some]

/-- A system that is such a table, and an agent that does not answer. -/
def tableSystem : System {net : Net ν // net.Routed} where
  exec s c :=
    match w.place c with
    | none => (s, .ok noDevice)
    | some (ns, cmd) => (⟨(ipOn w s.1 ns cmd).1, ipOn_routed w s.2 ns cmd⟩, .ok (ipOn w s.1 ns cmd).2)
  allocateIp s id := (s, fallbackIp id)
  notifyAgent s _ _ _ _ := s

section
variable (s : {net : Net ν // net.Routed})

theorem tableSystem_starts (c : Command) : ∃ out, ((tableSystem w).exec s c).2 = .ok out := by
  unfold tableSystem
  dsimp only
  split
  · exact ⟨_, rfl⟩
  · exact ⟨_, rfl⟩

theorem tableSystem_runs {c : Command} {ns : ν} {cmd : IpCmd} (h : w.Runs c ns cmd) :
    ((tableSystem w).exec s c).1.1 = (ipOn w s.1 ns cmd).1 ∧
      ((tableSystem w).exec s c).2 = .ok (ipOn w s.1 ns cmd).2 := by
  have hplace := place_of_runs w h
  unfold tableSystem
  dsimp only
  rw [hplace]
  exact ⟨rfl, rfl⟩

/-- No link comes or goes by a command that says so. -/
theorem ipOn_kept (net : Net ν) (ns : ν) (cmd : IpCmd) (h : cmd.keepsLinks = true) (ns' : ν)
    (name : String) :
    ((ipOn w net ns cmd).1.iface ns' name).isSome = (net.iface ns' name).isSome := by
  have hset : ∀ dev link link', net.iface ns dev = some link →
      ((net.set ns dev (some link')).iface ns' name).isSome = (net.iface ns' name).isSome := by
    intro dev link link' hlink
    rw [set_iface]
    split
    · next heq => rw [heq.1, heq.2, hlink]; rfl
    · rfl
  cases cmd with
  | linkAdd name peer => cases h
  | setNetns dev netns => cases h
  | linkDelete dev => cases h
  | addrAdd addr dev =>
    unfold ipOn
    dsimp only
    split
    · rfl
    · next link hlink =>
      split
      · rfl
      · split
        · exact hset dev link _ hlink
        · rfl
  | linkUp dev =>
    unfold ipOn
    dsimp only
    split
    · rfl
    · next link hlink => exact hset dev link _ hlink
  | routeDefault via dev =>
    unfold ipOn
    dsimp only
    split
    · rfl
    · split
      · rfl
      · split
        · rfl
        · rfl

end

omit [DecidableEq ν] in
theorem names_ok {name peer : String} (hname : w.ifname name = true) (hpeer : w.ifname peer = true) :
    ¬ (w.ifname name = false ∨ w.ifname peer = false) := by
  rw [hname, hpeer]
  rintro (h | h) <;> cases h

theorem tableSystem_laws : NetLaws w (tableSystem w) Subtype.val where
  routed s := s.2
  linkTaken s name peer out hout hname hpeer htaken := by
    obtain ⟨hnet, hok⟩ := tableSystem_runs w s (.ip (.linkAdd name peer))
    have htaken' : (s.1.iface w.host name).isSome ∨ (s.1.iface w.host peer).isSome ∨ name = peer :=
      htaken.elim Or.inl fun h => Or.inr (Or.inl h)
    rw [hok] at hout
    rw [hnet]
    unfold ipOn at hout ⊢
    dsimp only at hout ⊢
    rw [if_neg (names_ok w hname hpeer), if_pos htaken'] at hout ⊢
    cases hout
    exact ⟨containsText_fileExists, rfl⟩
  linkMade s name peer out hout hifname hifpeer hname hpeer hne := by
    obtain ⟨hnet, hok⟩ := tableSystem_runs w s (.ip (.linkAdd name peer))
    have hfree : ¬ ((s.1.iface w.host name).isSome ∨ (s.1.iface w.host peer).isSome ∨ name = peer) := by
      rw [hname, hpeer]
      rintro (h | h | h)
      · cases h
      · cases h
      · exact hne h
    rw [hok] at hout
    rw [hnet]
    unfold ipOn at hout ⊢
    dsimp only at hout ⊢
    rw [if_neg (names_ok w hifname hifpeer), if_neg hfree] at hout ⊢
    cases hout
    exact ⟨rfl, rfl⟩
  moveAbsent s dev netns hnone := by
    rw [(tableSystem_runs w s (.ip (.setNetns dev netns))).1]
    unfold ipOn
    dsimp only
    rw [hnone]
  moved s dev netns link c hlink htied hpath hother hfree := by
    rw [(tableSystem_runs w s (.ip (.setNetns dev netns))).1]
    have hmoves : ¬ (link.tied = true ∨ c = w.host ∨ (s.1.iface c dev).isSome) := by
      rw [htied, hfree]
      rintro (h | h | h)
      · cases h
      · exact hother h
      · cases h
    unfold ipOn
    dsimp only
    rw [hlink, hpath]
    dsimp only
    rw [if_neg hmoves]
  addrNew s c ns addr dev link hruns hlink _ haddr hnew := by
    rw [(tableSystem_runs w s hruns).1]
    unfold ipOn
    dsimp only
    rw [hlink]
    dsimp only
    rw [if_neg hnew, if_pos haddr]
  addrAgain s c ns addr dev link hruns hlink hold := by
    rw [(tableSystem_runs w s hruns).1]
    unfold ipOn
    dsimp only
    rw [hlink]
    dsimp only
    rw [if_pos hold]
  linkUp s c ns dev link hruns hlink _ := by
    rw [(tableSystem_runs w s hruns).1]
    unfold ipOn
    dsimp only
    rw [hlink]
  routeNew s c ns via dev link addr hruns hlink hup haddr hreach hforeign hnone := by
    rw [(tableSystem_runs w s hruns).1]
    have hreached : link.addrs.any (w.onLink · via) = true := List.any_eq_true.mpr ⟨addr, haddr, hreach⟩
    have hown : link.addrs.any (w.own · via) = false :=
      List.any_eq_false.mpr fun a ha => Bool.eq_false_iff.mp (hforeign dev link hlink a ha)
    have hany : (link.up && link.addrs.any (w.onLink · via) && !link.addrs.any (w.own · via)) = true := by
      rw [hup, hreached, hown]
      rfl
    unfold ipOn
    dsimp only
    rw [hlink]
    dsimp only
    rw [hnone, Option.isSome_none, if_neg Bool.false_ne_true, if_pos hany]
  routeAgain s c ns via dev hruns hsome := by
    rw [(tableSystem_runs w s hruns).1]
    unfold ipOn
    dsimp only
    split
    · rfl
    · rw [if_pos hsome]
  kept s c hc ns name := by
    unfold tableSystem
    dsimp only
    split
    · rfl
    · next ns' cmd hplace =>
      refine ipOn_kept w s.1 ns' cmd ?_ ns name
      cases c with
      | ip cmd' =>
        cases hplace
        exact hc
      | nsenter target cmd' =>
        obtain ⟨ns'', -, heq⟩ := Option.map_eq_some_iff.mp hplace
        cases heq
        exact hc
  deleted s dev link ns name hlink hother := by
    rw [(tableSystem_runs w s (.ip (.linkDelete dev))).1]
    unfold ipOn
    dsimp only
    rw [hlink]
    dsimp only
    rw [hother]
  deleteAbsent s dev hnone := by
    rw [(tableSystem_runs w s (.ip (.linkDelete dev))).1]
    unfold ipOn
    dsimp only
    rw [hnone]
  allocateIp _ _ := rfl
  notifyAgent _ _ _ _ _ := rfl

end

end NomadP2P.Plugin
