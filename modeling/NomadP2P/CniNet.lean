import NomadP2P.CniKernel

/-!
# The network behind ADD and DEL (`cmd_add` and `cmd_del` of `cni/src/lib.rs`)

On every kernel with the laws of `CniKernel`:

    where the names are free, ADD makes exactly the two ends of the pair, the addresses and the
      default route of the container; a second ADD changes nothing; DEL takes all of it
      away and leaves the network as it was                         (add_del_restores)

Where the host has a link with the name of the container's interface, `ip link add` says "File
exists", ADD goes on, and the next command moves the link of the host (`add_takes_host_link`).
-/

namespace NomadP2P.Plugin

section
variable {ν : Type} [DecidableEq ν]

/-! ## What is to hold -/

/-- The commands of an ADD and a DEL. -/
def CniCmd.commands (cmd : CniCmd) (iface : String) (ip : Ipv4Addr) : List Command :=
  [.ip (.linkAdd iface cmd.peer), .ip (.setNetns cmd.peer cmd.netnsPath), .ip (.linkDelete iface)] ++
    configCommands iface cmd.netnsPath cmd.peer ip

/-- The name of the host link, the address that `allocate_ip` has for the container, and commands
that can be started. -/
structure Started {σ : Type} (sys : System σ) (cmd : CniCmd) (iface : String) (ip : Ipv4Addr) : Prop where
  cut : hostIface cmd.id = some iface
  allocated : ∀ s, (sys.allocateIp s cmd.id).2 = ip
  starts : ∀ c ∈ cmd.commands iface ip, ∀ s, ∃ out, (sys.exec s c).2 = .ok out

/-- An address for a container, and one that the gateway is reached from. -/
structure Usable (w : World ν) (ip : Ipv4Addr) : Prop where
  onHost : w.addr (ip.toText ++ "/32") = true
  inCont : w.addr (ip.toText ++ "/16") = true
  reach : w.onLink (ip.toText ++ "/16") gateway = true
  foreign : w.own (ip.toText ++ "/16") gateway = false

/-- A container the plugin can set up: its namespace is another one than the host's and named by
path and process alike, the names are names of links and free, and it has neither a default route
nor the address of the gateway. -/
structure Ready (w : World ν) (net : Net ν) (c : ν) (netns iface ifName : String) : Prop where
  other : c ≠ w.host
  path : w.path netns = some c
  process : w.process (nsTarget netns) = some c
  ifaceName : w.ifname iface = true
  peerName : w.ifname ifName = true
  names : iface ≠ ifName
  ifaceFree : net.iface w.host iface = none
  peerFree : net.iface w.host ifName = none
  contFree : net.iface c ifName = none
  noRoute : net.route c = none
  foreign : net.Foreign w c gateway

/-- A pair between the host and a container, with a route for the container. -/
def Net.withPair (net : Net ν) (host c : ν) (iface ifName : String) (hostEnd contEnd : Iface ν)
    (route : Option (String × String)) : Net ν where
  iface := ((net.set host iface (some hostEnd)).set c ifName (some contEnd)).iface
  route := Function.update net.route c route

/-- The end of the pair on the host, set up. -/
def hostEnd (c : ν) (ifName : String) (ip : Ipv4Addr) : Iface ν :=
  ⟨some (c, ifName), false, [ip.toText ++ "/32"], true⟩

/-- The end of the pair in the container, set up. -/
def contEnd (host : ν) (iface : String) (ip : Ipv4Addr) : Iface ν :=
  ⟨some (host, iface), false, [ip.toText ++ "/16"], true⟩

/-- The network with the container set up, and nothing else changed. -/
def Net.withContainer (net : Net ν) (host c : ν) (iface ifName : String) (ip : Ipv4Addr) : Net ν :=
  net.withPair host c iface ifName (hostEnd c ifName ip) (contEnd host iface ip) (some (gateway, ifName))

/-- The container stands. -/
structure Settled (net : Net ν) (host c : ν) (iface ifName : String) (ip : Ipv4Addr) : Prop where
  onHost : net.iface host iface = some (hostEnd c ifName ip)
  inCont : net.iface c ifName = some (contEnd host iface ip)
  route : net.route c = some (gateway, ifName)

/-! ## Lemmas -/

/-! ### A pair -/

section
variable {net : Net ν} {host c : ν} {iface ifName : String} (hother : c ≠ host)
  (h k : Iface ν) (route : Option (String × String))

theorem withPair_iface (ns : ν) (name : String) :
    (net.withPair host c iface ifName h k route).iface ns name =
      if ns = c ∧ name = ifName then some k
      else if ns = host ∧ name = iface then some h else net.iface ns name := by
  show ((net.set host iface (some h)).set c ifName (some k)).iface ns name = _
  rw [set_iface, set_iface]

theorem withPair_cont : (net.withPair host c iface ifName h k route).iface c ifName = some k := by
  rw [withPair_iface, if_pos ⟨rfl, rfl⟩]

theorem withPair_route : (net.withPair host c iface ifName h k route).route c = route :=
  Function.update_self ..

theorem withPair_set_cont (k' : Iface ν) :
    (net.withPair host c iface ifName h k route).set c ifName (some k') =
      net.withPair host c iface ifName h k' route := by
  have hset : (((net.set host iface (some h)).set c ifName (some k)).set c ifName (some k')).iface =
      ((net.set host iface (some h)).set c ifName (some k')).iface := by
    rw [set_set]
  exact congrArg (fun f => Net.mk f (Function.update net.route c route)) hset

/-- A route added behind a pair. -/
theorem withPair_set_route (route' : Option (String × String)) :
    { net.withPair host c iface ifName h k route with
      route := Function.update (net.withPair host c iface ifName h k route).route c route' } =
      net.withPair host c iface ifName h k route' := by
  unfold Net.withPair
  simp only [Function.update_idem]

include hother

/-- The container has the address of its end, and those it had. -/
theorem withPair_foreign {w : World ν} {via : String} (hnet : net.Foreign w c via)
    (hk : ∀ addr ∈ k.addrs, w.own addr via = false) :
    (net.withPair host c iface ifName h k route).Foreign w c via := by
  intro name link hlink
  rw [withPair_iface, if_neg (c := c = host ∧ name = iface) fun hc => hother hc.1] at hlink
  split at hlink
  · cases hlink
    exact hk
  · exact hnet name link hlink

theorem withPair_host : (net.withPair host c iface ifName h k route).iface host iface = some h := by
  rw [withPair_iface, if_neg fun hc => hother hc.1.symm, if_pos ⟨rfl, rfl⟩]

theorem withPair_set_host (h' : Iface ν) :
    (net.withPair host c iface ifName h k route).set host iface (some h') =
      net.withPair host c iface ifName h' k route := by
  have hset : (((net.set host iface (some h)).set c ifName (some k)).set host iface (some h')).iface =
      ((net.set host iface (some h')).set c ifName (some k)).iface := by
    rw [set_comm _ c host ifName iface _ _ hother, set_set]
  exact congrArg (fun f => Net.mk f (Function.update net.route c route)) hset

end

section
variable {σ : Type} {w : World ν} {sys : System σ} {net : σ → Net ν} (K : NetLaws w sys net)

/-! ### ADD -/

/-- The state behind commands. -/
def System.runAll (sys : System σ) (cs : List Command) (s : σ) : σ :=
  cs.foldl (fun s c => (sys.exec s c).1) s

theorem linkAdd_mem {cmd : CniCmd} {iface : String} {ip : Ipv4Addr} :
    Command.ip (.linkAdd iface cmd.peer) ∈ cmd.commands iface ip :=
  List.mem_append_left _ List.mem_cons_self

theorem setNetns_mem {cmd : CniCmd} {iface : String} {ip : Ipv4Addr} :
    Command.ip (.setNetns cmd.peer cmd.netnsPath) ∈ cmd.commands iface ip :=
  List.mem_append_left _ (List.mem_cons_of_mem _ List.mem_cons_self)

theorem linkDelete_mem {cmd : CniCmd} {iface : String} {ip : Ipv4Addr} :
    Command.ip (.linkDelete iface) ∈ cmd.commands iface ip :=
  List.mem_append_left _ (List.mem_cons_of_mem _ (List.mem_cons_of_mem _ List.mem_cons_self))

include K

/-- ADD where `ip link add` lets it go on: what it prints, and what it leaves of the network. -/
theorem cmdAdd_net (cmd : CniCmd) (s : σ) (iface : String) (ip : Ipv4Addr)
    (hstarted : Started sys cmd iface ip)
    (hgo : ∀ out, (sys.exec s (.ip (.linkAdd iface cmd.peer))).2 = .ok out → GoesOn out) :
    (cmdAdd sys cmd s).2 = .ok (.result (addResult cmd.cniVersion ip)) ∧
      ∃ s', net s' = net (sys.exec (sys.exec s (.ip (.linkAdd iface cmd.peer))).1
          (.ip (.setNetns cmd.peer cmd.netnsPath))).1 ∧
        net (cmdAdd sys cmd s).1 =
          net (sys.runAll (configCommands iface cmd.netnsPath cmd.peer ip) s') := by
  obtain ⟨out, hout⟩ := hstarted.starts _ linkAdd_mem s
  rcases cmdAdd_cases sys cmd s iface hstarted.cut with
    ⟨e, he, -⟩ | ⟨out', f, hout', hnot, -⟩ | ⟨out', -, -, heq⟩
  · rw [hout] at he
    cases he
  · exact absurd (hgo out' hout') hnot
  · generalize (sys.exec s (.ip (.linkAdd iface cmd.peer))).1 = s₁ at heq ⊢
    obtain ⟨out, hout⟩ := hstarted.starts _ setNetns_mem s₁
    rw [heq]
    unfold moveAndConfigure
    rw [command_of_ok sys hout, hstarted.allocated, commands_of_starts sys _ _ fun c hc =>
      hstarted.starts c (List.mem_append_right _ hc)]
    exact ⟨rfl, _, K.allocateIp _ _, K.notifyAgent _ _ _ _ _⟩

/-- The commands behind the move, on a new pair. -/
theorem configure_pair {base : Net ν} {c : ν} {iface netns ifName : String} (ip : Ipv4Addr)
    (hother : c ≠ w.host) (hproc : w.process (nsTarget netns) = some c) (hip : Usable w ip)
    (hforeign : base.Foreign w c gateway) (s : σ)
    (hs : net s = base.withPair w.host c iface ifName (.fresh c ifName) (.fresh w.host iface) none) :
    net (sys.runAll (configCommands iface netns ifName ip) s) =
      base.withContainer w.host c iface ifName ip := by
  simp only [System.runAll, configCommands, List.foldl_cons, List.foldl_nil]
  generalize hs₁ : (sys.exec s _).1 = s₁
  have h₁ : net s₁ = base.withPair w.host c iface ifName
      ⟨some (c, ifName), false, [ip.toText ++ "/32"], false⟩ (.fresh w.host iface) none := by
    rw [← hs₁, K.addrNew s _ w.host _ iface (.fresh c ifName) (.ip _)
      (by rw [hs, withPair_host hother]) rfl hip.onHost List.not_mem_nil, hs, withPair_set_host hother]
    rfl
  generalize hs₂ : (sys.exec s₁ _).1 = s₂
  have h₂ : net s₂ = base.withPair w.host c iface ifName (hostEnd c ifName ip)
      (.fresh w.host iface) none := by
    rw [← hs₂, K.linkUp s₁ _ w.host iface _ (.ip _) (by rw [h₁, withPair_host hother]) rfl, h₁,
      withPair_set_host hother]
    rfl
  generalize hs₃ : (sys.exec s₂ _).1 = s₃
  have h₃ : net s₃ = base.withPair w.host c iface ifName (hostEnd c ifName ip)
      ⟨some (w.host, iface), false, [ip.toText ++ "/16"], false⟩ none := by
    rw [← hs₃, K.addrNew s₂ _ c _ ifName (.fresh w.host iface) (.nsenter _ c _ hproc)
      (by rw [h₂, withPair_cont]) rfl hip.inCont List.not_mem_nil, h₂, withPair_set_cont]
    rfl
  generalize hs₄ : (sys.exec s₃ _).1 = s₄
  have h₄ : net s₄ = base.withPair w.host c iface ifName (hostEnd c ifName ip)
      (contEnd w.host iface ip) none := by
    rw [← hs₄, K.linkUp s₃ _ c ifName _ (.nsenter _ c _ hproc) (by rw [h₃, withPair_cont]) rfl, h₃,
      withPair_set_cont]
    rfl
  have hgateway : (net s₄).Foreign w c gateway := by
    rw [h₄]
    refine withPair_foreign hother _ _ _ hforeign fun addr haddr => ?_
    rw [List.mem_singleton.mp haddr]
    exact hip.foreign
  rw [K.routeNew s₄ _ c gateway ifName (contEnd w.host iface ip) (ip.toText ++ "/16")
    (.nsenter _ c _ hproc) (by rw [h₄, withPair_cont]) rfl List.mem_cons_self hip.reach hgateway
    (by rw [h₄, withPair_route]), h₄, withPair_set_route]
  rfl

/-- The same commands on a container that stands. -/
theorem configure_settled {c : ν} {iface netns ifName : String} (ip : Ipv4Addr)
    (hproc : w.process (nsTarget netns) = some c) (s : σ)
    (hs : Settled (net s) w.host c iface ifName ip) :
    net (sys.runAll (configCommands iface netns ifName ip) s) = net s := by
  simp only [System.runAll, configCommands, List.foldl_cons, List.foldl_nil]
  generalize hs₁ : (sys.exec s _).1 = s₁
  have h₁ : net s₁ = net s := by
    rw [← hs₁]
    exact K.addrAgain s _ w.host _ iface _ (.ip _) hs.onHost List.mem_cons_self
  generalize hs₂ : (sys.exec s₁ _).1 = s₂
  have h₂ : net s₂ = net s := by
    rw [← hs₂, K.linkUp s₁ _ w.host iface _ (.ip _) (by rw [h₁, hs.onHost]) rfl, h₁]
    exact set_eq_self _ _ _ _ hs.onHost
  generalize hs₃ : (sys.exec s₂ _).1 = s₃
  have h₃ : net s₃ = net s := by
    rw [← hs₃, ← h₂]
    exact K.addrAgain s₂ _ c _ ifName _ (.nsenter _ c _ hproc) (by rw [h₂, hs.inCont]) List.mem_cons_self
  generalize hs₄ : (sys.exec s₃ _).1 = s₄
  have h₄ : net s₄ = net s := by
    rw [← hs₄, K.linkUp s₃ _ c ifName _ (.nsenter _ c _ hproc) (by rw [h₃, hs.inCont]) rfl, h₃]
    exact set_eq_self _ _ _ _ hs.inCont
  rw [← h₄]
  refine K.routeAgain s₄ _ c gateway ifName (.nsenter _ c _ hproc) ?_
  rw [h₄, hs.route]
  rfl

/-- The pair is made on the host, and its peer moved to the container. -/
theorem linkAdd_setNetns (s : σ) {c : ν} {netns iface ifName : String}
    (h : Ready w (net s) c netns iface ifName) {out : Output}
    (hout : (sys.exec s (.ip (.linkAdd iface ifName))).2 = .ok out) :
    net (sys.exec (sys.exec s (.ip (.linkAdd iface ifName))).1 (.ip (.setNetns ifName netns))).1 =
      (net s).withPair w.host c iface ifName (.fresh c ifName) (.fresh w.host iface) none := by
  obtain ⟨-, hmade⟩ :=
    K.linkMade s iface ifName out hout h.ifaceName h.peerName h.ifaceFree h.peerFree h.names
  generalize (sys.exec s (.ip (.linkAdd iface ifName))).1 = s₁ at hmade ⊢
  have hpeer : (net s₁).iface w.host ifName = some (.fresh w.host iface) := by
    rw [hmade, set_self]
  have hcont : (net s₁).iface c ifName = none := by
    rw [hmade, set_other_ns _ _ _ _ _ _ h.other, set_other_ns _ _ _ _ _ _ h.other, h.contFree]
  have hroute : (net s₁).route = (net s).route := by
    rw [hmade]
    rfl
  have hback : ((net s₁).remove w.host ifName).iface =
      ((net s).set w.host iface (some (.fresh w.host ifName))).iface := by
    show ((net s₁).set w.host ifName none).iface = _
    rw [hmade, set_set, set_eq_self _ _ _ _ (by rw [set_other_name _ _ _ _ _ h.names.symm, h.peerFree])]
  rw [K.moved s₁ ifName netns _ c hpeer rfl h.path h.other hcont]
  generalize hmoved : ((net s₁).remove w.host ifName).set c ifName
    (some (Iface.fresh w.host iface).moved) = moved
  have hiface : moved.iface = (((net s).set w.host iface (some (.fresh w.host ifName))).set c ifName
      (some (.fresh w.host iface))).iface := by
    rw [← hmoved]
    show Function.update ((net s₁).remove w.host ifName).iface c
      (Function.update (((net s₁).remove w.host ifName).iface c) ifName _) = _
    rw [hback]
    rfl
  have hfst : moved.iface w.host iface = some (.fresh w.host ifName) := by
    rw [hiface, set_other_ns _ _ _ _ _ _ h.other.symm, set_self]
  show moved.set w.host iface ((moved.iface w.host iface).map _) = _
  rw [hfst]
  refine Net.ext ?_ ?_
  · show Function.update moved.iface w.host (Function.update (moved.iface w.host) iface _) = _
    rw [hiface]
    show (Net.set (Net.set _ c ifName _) w.host iface _).iface = _
    rw [set_comm _ c w.host ifName iface _ _ h.other, set_set]
    rfl
  · show moved.route = Function.update (net s).route c none
    rw [← hmoved]
    show ((net s₁).remove w.host ifName).route = _
    rw [← h.noRoute, Function.update_eq_self, ← hroute]
    funext ns
    refine remove_route_of_ne _ _ _ _ fun r hr hns => ?_
    -- no route of the host goes over a name that was free
    rintro hname
    have hsome := K.routed s w.host r (by rw [← hroute, ← hns]; exact hr)
    rw [hname, h.peerFree] at hsome
    cases hsome

/-- ADD on a network without the container. -/
theorem cmdAdd_first (cmd : CniCmd) (s : σ) (c : ν) (iface : String) (ip : Ipv4Addr)
    (hstarted : Started sys cmd iface ip) (hip : Usable w ip)
    (h : Ready w (net s) c cmd.netnsPath iface cmd.peer) :
    (cmdAdd sys cmd s).2 = .ok (.result (addResult cmd.cniVersion ip)) ∧
      net (cmdAdd sys cmd s).1 = (net s).withContainer w.host c iface cmd.peer ip := by
  obtain ⟨out, hout⟩ := hstarted.starts _ linkAdd_mem s
  obtain ⟨hres, s', hs', hnet⟩ := cmdAdd_net K cmd s iface ip hstarted fun out hout => Or.inl
    (K.linkMade s iface cmd.peer out hout h.ifaceName h.peerName h.ifaceFree h.peerFree h.names).1
  rw [linkAdd_setNetns K s h hout] at hs'
  exact ⟨hres, hnet.trans (configure_pair K ip h.other h.process hip h.foreign s' hs')⟩

/-- ADD on a network with the container. -/
theorem cmdAdd_again (cmd : CniCmd) (s : σ) (c : ν) (iface : String) (ip : Ipv4Addr)
    (hstarted : Started sys cmd iface ip) (hiface : w.ifname iface = true)
    (hifName : w.ifname cmd.peer = true) (hproc : w.process (nsTarget cmd.netnsPath) = some c)
    (hs : Settled (net s) w.host c iface cmd.peer ip)
    (hpeer : (net s).iface w.host cmd.peer = none) :
    (cmdAdd sys cmd s).2 = .ok (.result (addResult cmd.cniVersion ip)) ∧
      net (cmdAdd sys cmd s).1 = net s := by
  have htaken := fun out hout =>
    K.linkTaken s iface cmd.peer out hout hiface hifName (Or.inl (by rw [hs.onHost]; rfl))
  obtain ⟨out, hout⟩ := hstarted.starts _ linkAdd_mem s
  obtain ⟨hres, s', hs', hnet⟩ := cmdAdd_net K cmd s iface ip hstarted fun out hout =>
    Or.inr (htaken out hout).1
  rw [K.moveAbsent _ _ _ (by rw [(htaken out hout).2, hpeer]), (htaken out hout).2] at hs'
  refine ⟨hres, hnet.trans ?_⟩
  rw [configure_settled K ip hproc s' (by rwa [hs']), hs']

omit K in
theorem settled_withContainer {base : Net ν} {host c : ν} {iface ifName : String} (ip : Ipv4Addr)
    (hother : c ≠ host) : Settled (base.withContainer host c iface ifName ip) host c iface ifName ip where
  onHost := withPair_host hother _ _ _
  inCont := withPair_cont _ _ _
  route := withPair_route _ _ _

/-! ### DEL -/

/-- DEL as the command it runs and what it prints. -/
theorem cmdDel_net (cmd : CniCmd) (s : σ) (iface : String) (ip : Ipv4Addr)
    (hstarted : Started sys cmd iface ip) :
    (cmdDel sys cmd s).2 = .ok (.version cmd.cniVersion) ∧
      net (cmdDel sys cmd s).1 = net (sys.exec s (.ip (.linkDelete iface))).1 := by
  obtain ⟨out, hout⟩ := hstarted.starts _ linkDelete_mem s
  unfold cmdDel
  simp only [hstarted.cut]
  rw [command_of_ok sys hout]
  exact ⟨rfl, K.notifyAgent _ _ _ _ _⟩

/-- What DEL leaves of a network with the container. -/
theorem cmdDel_settled (cmd : CniCmd) (s : σ) (c : ν) (iface : String) (ip : Ipv4Addr)
    (hstarted : Started sys cmd iface ip) (hs : Settled (net s) w.host c iface cmd.peer ip) :
    net (cmdDel sys cmd s).1 = ((net s).remove w.host iface).remove c cmd.peer := by
  rw [(cmdDel_net K cmd s iface ip hstarted).2, K.deleted s iface _ c cmd.peer hs.onHost rfl]

/-- The two ends of a container and its route are all that ADD has made. -/
theorem remove_withContainer (s : σ) {c : ν} {netns iface ifName : String} (ip : Ipv4Addr)
    (h : Ready w (net s) c netns iface ifName) :
    (((net s).withContainer w.host c iface ifName ip).remove w.host iface).remove c ifName = net s := by
  refine Net.ext ?_ ?_
  · funext ns name
    rw [remove_iface, remove_iface]
    unfold Net.withContainer
    rw [withPair_iface]
    by_cases hcont : ns = c ∧ name = ifName
    · rw [if_pos hcont, hcont.1, hcont.2, h.contFree]
    · rw [if_neg hcont, if_neg hcont]
      by_cases hhost : ns = w.host ∧ name = iface
      · rw [if_pos hhost, hhost.1, hhost.2, h.ifaceFree]
      · rw [if_neg hhost, if_neg hhost]
  · funext ns
    have hwith : ns ≠ c → ((net s).withContainer w.host c iface ifName ip).route ns = (net s).route ns :=
      fun hns => Function.update_of_ne hns _ _
    have hcont : (((net s).withContainer w.host c iface ifName ip).remove w.host iface).route c =
        some (gateway, ifName) :=
      (remove_route_of_ne _ _ _ _ fun _ _ hns => absurd hns h.other).trans (withPair_route _ _ _)
    by_cases hns : ns = c
    · rw [hns, remove_route_self _ _ _ gateway hcont, h.noRoute]
    · rw [remove_route_of_ne _ _ _ _ fun _ _ heq => absurd heq hns, remove_route_of_ne, hwith hns]
      rintro r hr rfl rfl
      rw [hwith hns] at hr
      have hsome := K.routed s w.host r hr
      rw [h.ifaceFree] at hsome
      cases hsome

/-! ### Links that are moved -/

/-- Configuring brings no link and takes none. -/
theorem runAll_kept (cs : List Command) (hcs : ∀ c ∈ cs, c.keepsLinks = true) (ns : ν) (name : String) :
    ∀ s, ((net (sys.runAll cs s)).iface ns name).isSome = ((net s).iface ns name).isSome := by
  induction cs with
  | nil => exact fun s => rfl
  | cons c cs ih =>
    intro s
    have hrest := ih (fun c' h => hcs c' (List.mem_cons_of_mem c h)) (sys.exec s c).1
    exact hrest.trans (K.kept s c (hcs c List.mem_cons_self) ns name)

/-! ## Main theorems -/

/-- **ADD and DEL.**  On every kernel with the laws: where the container can be set up, ADD leaves it
set up and changes nothing else of the network; a second ADD changes nothing; and DEL takes away what
ADD has made and nothing else. -/
theorem add_del_restores (cmd : CniCmd) (s : σ) (c : ν) (iface : String) (ip : Ipv4Addr)
    (hstarted : Started sys cmd iface ip) (hip : Usable w ip)
    (hready : Ready w (net s) c cmd.netnsPath iface cmd.peer) :
    let first := cmdAdd sys cmd s
    let again := cmdAdd sys cmd first.1
    let gone := cmdDel sys cmd again.1
    first.2 = .ok (.result (addResult cmd.cniVersion ip)) ∧ again.2 = first.2 ∧
      gone.2 = .ok (.version cmd.cniVersion) ∧
      net first.1 = (net s).withContainer w.host c iface cmd.peer ip ∧ net again.1 = net first.1 ∧
      net gone.1 = net s := by
  intro first again gone
  obtain ⟨hfirst, hmade⟩ := cmdAdd_first K cmd s c iface ip hstarted hip hready
  have hset : Settled (net first.1) w.host c iface cmd.peer ip := by
    rw [hmade]
    exact settled_withContainer ip hready.other
  have hpeer : (net first.1).iface w.host cmd.peer = none := by
    rw [hmade, Net.withContainer, withPair_iface, if_neg fun hc => hready.other hc.1.symm,
      if_neg fun hn => hready.names hn.2.symm, hready.peerFree]
  obtain ⟨hagain, hsame⟩ := cmdAdd_again K cmd first.1 c iface ip hstarted hready.ifaceName
    hready.peerName hready.process hset hpeer
  refine ⟨hfirst, hagain.trans hfirst.symm, (cmdDel_net K cmd again.1 iface ip hstarted).1, hmade,
    hsame, ?_⟩
  rw [cmdDel_settled K cmd again.1 c iface ip hstarted (by rwa [hsame]), hsame, hmade]
  exact remove_withContainer K s ip hready

/-- **The link of the host.**  On every kernel with the laws: where the host has a link with the name
of the container's interface, which is not tied to it, and the container has none, an ADD reports
success, the host has lost the link with its default route over it, the container has one of the name,
and no other link has come or gone; in particular none was made. -/
theorem add_takes_host_link (cmd : CniCmd) (s : σ) (c : ν) (iface : String) (ip : Ipv4Addr)
    (link : Iface ν) (hstarted : Started sys cmd iface ip) (hiface : w.ifname iface = true)
    (hifName : w.ifname cmd.peer = true) (hother : c ≠ w.host) (hpath : w.path cmd.netnsPath = some c)
    (hlink : (net s).iface w.host cmd.peer = some link) (htied : link.tied = false)
    (hfree : (net s).iface c cmd.peer = none) :
    let r := cmdAdd sys cmd s
    r.2 = .ok (.result (addResult cmd.cniVersion ip)) ∧
      (net r.1).iface w.host cmd.peer = none ∧ (∀ via, (net r.1).route w.host ≠ some (via, cmd.peer)) ∧
      ((net r.1).iface c cmd.peer).isSome ∧
      ∀ ns name, (ns, name) ≠ (w.host, cmd.peer) → (ns, name) ≠ (c, cmd.peer) →
        ((net r.1).iface ns name).isSome = ((net s).iface ns name).isSome := by
  intro r
  have htaken := fun out hout =>
    K.linkTaken s iface cmd.peer out hout hiface hifName (Or.inr (by rw [hlink]; rfl))
  obtain ⟨out, hout⟩ := hstarted.starts _ linkAdd_mem s
  have hadd := (htaken out hout).2
  obtain ⟨hres, s', hs', hnet⟩ := cmdAdd_net K cmd s iface ip hstarted fun out hout =>
    Or.inr (htaken out hout).1
  rw [K.moved _ cmd.peer cmd.netnsPath link c (by rw [hadd, hlink]) htied hpath hother
    (by rw [hadd, hfree]), hadd] at hs'
  have hpresent : ∀ ns name, ((net r.1).iface ns name).isSome =
      ((((net s).remove w.host cmd.peer).set c cmd.peer (some link.moved)).iface ns name).isSome := by
    intro ns name
    rw [hnet, runAll_kept K _ (configCommands_keepsLinks _ _ _ _), hs', setOther_present]
  have hhost : (net r.1).iface w.host cmd.peer = none := by
    rw [← Option.isNone_iff_eq_none, ← Option.not_isSome, hpresent, set_other_ns _ _ _ _ _ _ hother.symm,
      remove_iface, if_pos ⟨rfl, rfl⟩]
    rfl
  refine ⟨hres, hhost, fun via hvia => ?_, ?_, fun ns name hne hne' => ?_⟩
  · have hsome := K.routed r.1 w.host _ hvia
    rw [hhost] at hsome
    cases hsome
  · rw [hpresent, set_self]
    rfl
  · rw [hpresent, set_iface, if_neg fun h => hne' (Prod.ext h.1 h.2), remove_iface,
      if_neg fun h => hne (Prod.ext h.1 h.2)]

end

end

/-! ### A host and a container -/

/-- A name of at most 15 bytes. -/
def shortName (text : String) : Bool := 0 < text.utf8ByteSize && text.utf8ByteSize ≤ 15

/-- An address of 10.244.0.0/16, with the length of the network. -/
def inMesh (addr via : String) : Bool :=
  "10.244.".toList.isPrefixOf addr.toList && "/16".toList.isSuffixOf addr.toList &&
    "10.244.".toList.isPrefixOf via.toList

/-- The address, with any length. -/
def sameAddress (addr via : String) : Bool := (via.toList ++ ['/']).isPrefixOf addr.toList

/-- The host, and a container that is process 4242. -/
def twoNs : World Bool where
  host := true
  path text := if text = "/proc/4242/ns/net" then some false else none
  process text := if text = "4242" then some false else none
  ifname := shortName
  addr _ := true
  onLink := inMesh
  own := sameAddress

/-- A host without links. -/
def emptyNet : Net Bool := ⟨fun _ _ => none, fun _ => none⟩

/-- A host with an uplink `eth0`, and its default route. -/
def uplinkNet : Net Bool where
  iface := (emptyNet.set true "eth0" (some ⟨none, false, ["192.0.2.10/24"], true⟩)).iface
  route := Function.update emptyNet.route true (some ("192.0.2.1", "eth0"))

theorem emptyNet_routed : emptyNet.Routed := fun _ _ h => (by cases h)

theorem uplinkNet_routed : uplinkNet.Routed := by
  intro ns r hr
  replace hr : Function.update emptyNet.route true (some ("192.0.2.1", "eth0")) ns = some r := hr
  by_cases hns : ns = true
  · subst hns
    rw [Function.update_self] at hr
    cases hr
    show ((emptyNet.set true "eth0" _).iface true "eth0").isSome = true
    rw [set_self]
    rfl
  · rw [Function.update_of_ne hns] at hr
    cases hr

def addCmd : CniCmd :=
  ⟨"1.0.0", some "ADD", some "0123456789ab", some "/proc/4242/ns/net", none, none, none, none⟩

theorem nsTarget_4242 : nsTarget "/proc/4242/ns/net" = "4242" := by
  have htext : "/proc/4242/ns/net" = "/proc/" ++ "4242" ++ "/ns/net" := by decide +kernel
  rw [htext, nsTarget_proc "4242" (by decide +kernel) (by decide +kernel)]

theorem twoNs_path : twoNs.path "/proc/4242/ns/net" = some false := by
  decide +kernel

theorem addCmd_iface : hostIface "0123456789ab" = some "veth-01234567" := by decide +kernel

theorem addCmd_started :
    Started (tableSystem twoNs) addCmd "veth-01234567" (fallbackIp "0123456789ab") where
  cut := addCmd_iface
  allocated _ := rfl
  starts c _ s := tableSystem_starts twoNs s c

theorem addCmd_usable : Usable twoNs (fallbackIp "0123456789ab") where
  onHost := rfl
  inCont := rfl
  reach := by decide +kernel
  foreign := by decide +kernel

theorem emptyNet_ready : Ready twoNs emptyNet false "/proc/4242/ns/net" "veth-01234567" "eth0" where
  other := Bool.false_ne_true
  path := twoNs_path
  process := by
    rw [nsTarget_4242]
    decide +kernel
  ifaceName := by decide +kernel
  peerName := by decide +kernel
  names := by decide
  ifaceFree := rfl
  peerFree := rfl
  contFree := rfl
  noRoute := rfl
  foreign _ _ h := by cases h

/-- The container is set up, and taken down behind a second ADD. -/
theorem addCmd_restores :
    let first := cmdAdd (tableSystem twoNs) addCmd ⟨emptyNet, emptyNet_routed⟩
    first.1.1.route false = some ("10.244.0.1", "eth0") ∧
      (cmdDel (tableSystem twoNs) addCmd (cmdAdd (tableSystem twoNs) addCmd first.1).1).1.1 =
        emptyNet := by
  obtain ⟨-, -, -, hmade, -, hgone⟩ := add_del_restores (tableSystem_laws twoNs) addCmd
    ⟨emptyNet, emptyNet_routed⟩ false "veth-01234567" (fallbackIp "0123456789ab") addCmd_started
    addCmd_usable emptyNet_ready
  refine ⟨?_, hgone⟩
  rw [hmade]
  rfl

/-- The uplink of the host is the container's. -/
theorem addCmd_takes_uplink :
    let r := cmdAdd (tableSystem twoNs) addCmd ⟨uplinkNet, uplinkNet_routed⟩
    r.1.1.iface true "eth0" = none ∧ (∀ via, r.1.1.route true ≠ some (via, "eth0")) ∧
      (r.1.1.iface false "eth0").isSome := by
  obtain ⟨-, hhost, hroute, hcont, -⟩ := add_takes_host_link (tableSystem_laws twoNs) addCmd
    ⟨uplinkNet, uplinkNet_routed⟩ false "veth-01234567" (fallbackIp "0123456789ab")
    ⟨none, false, ["192.0.2.10/24"], true⟩ addCmd_started emptyNet_ready.ifaceName
    emptyNet_ready.peerName Bool.false_ne_true twoNs_path (set_self emptyNet true "eth0" _) rfl rfl
  exact ⟨hhost, hroute, hcont⟩

end NomadP2P.Plugin
