import NomadP2P.Messages

/-!
# Seeds (`SeedClient`, `health_loop` of `agent/src/seed.rs`, `try_relay` of `agent/src/relay.rs`)

`register_all` goes through the seeds of the configuration and sends a registration to those
whose address is an IP address with a port; `health_loop` does so once a minute.  Each
registration that could be sent is pushed to `conns`, and nothing is ever taken out.

    conns = one entry for each registration sent, with the address and its text  (conns_run)

`try_relay`, which nothing calls yet, asks the seeds in their order and returns the first
relay that one names.  As
the replies are parsed without their header, what counts as naming one is 2048
bytes of bare JSON (`RawRelay`):

    try_relay returns ep ↔ the first seed with such a reply names ep; if all
      replies are frames of `marshal` it returns none, having asked every seed (tryRelay_exact)
-/

namespace NomadP2P.Wire

open Bytes Relay Protocol

/-! ## Algorithm -/

/-- `addr.to_string()`. -/
def addrText (addr : SocketAddr) : String :=
  String.ofList (addr.ip.chars ++ ':' :: Nat.toDigits 10 addr.port.toNat)

structure SeedClient where
  conns : List (String × SocketAddr)
  seedMode : Bool

def SeedClient.new (seedMode : Bool) : SeedClient := ⟨[], seedMode⟩

/-- What a call of `register` meets: the published endpoint as it reads it, its random numbers,
and whether the socket sends. -/
structure Attempt where
  state : Stun.AgentState
  drawn : Drawn
  sends : Bool

/-- A registration on its way. -/
structure Registration where
  addr : SocketAddr
  message : WireMessage

/-- `register`: the client behind it, and what was sent; `none` is an error. -/
def register (cfg : AgentConfig) (client : SeedClient) (addr : SocketAddr) (a : Attempt) :
    SeedClient × Option Registration :=
  if a.sends then
    ({ client with conns := client.conns ++ [(addrText addr, addr)] },
      some ⟨addr, (Outgoing.register cfg a.state a.drawn).message⟩)
  else (client, none)

/-- The loop of `register_all`; attempt `k` is that of seed `k`. -/
def registerSeeds (cfg : AgentConfig) :
    List SeedAddr → (Nat → Attempt) → SeedClient → SeedClient × List Registration
  | [], _, client => (client, [])
  | seed :: seeds, env, client =>
    match SocketAddr.parse seed.addr with
    | none => registerSeeds cfg seeds (fun k => env (k + 1)) client
    | some addr =>
      let (client, sent) := register cfg client addr (env 0)
      let (client, rest) := registerSeeds cfg seeds (fun k => env (k + 1)) client
      (client, sent.toList ++ rest)

def registerAll (cfg : AgentConfig) (client : SeedClient) (env : Nat → Attempt) :
    SeedClient × List Registration := registerSeeds cfg cfg.seeds env client

/-- One pass of `health_loop`: the stop flag before and behind `interval.tick()`. -/
structure Tick where
  stopBefore : Bool
  stopBehind : Bool
  env : Nat → Attempt

structure Health where
  client : SeedClient
  running : Bool

/-- `health_loop`. -/
def healthMachine (cfg : AgentConfig) : Machine Health Tick (List Registration) where
  step s tick :=
    if s.running && !tick.stopBefore && !tick.stopBehind then
      (⟨(registerAll cfg s.client tick.env).1, true⟩, (registerAll cfg s.client tick.env).2)
    else ({ s with running := false }, [])

/-- The seeds that are addresses. -/
def addrs (seeds : List SeedAddr) : List SocketAddr :=
  seeds.filterMap fun seed => SocketAddr.parse seed.addr

/-- What the query to one seed meets. -/
structure RelayEnv where
  r : QueryRandom
  sends : Bool
  binds : Bool
  reply : Reply

/-- The loop of `try_relay`: what is sent to whom, and the result. -/
def tryRelay (H : HmacSha256) (J : Relay.SerdeJson) (p : UdpProtocol) (targetIp : String) :
    List SeedAddr → (Nat → RelayEnv) → List (SocketAddr × List UInt8) × Option PeerEndpoint
  | [], _ => ([], none)
  | seed :: seeds, env =>
    match SocketAddr.parse seed.addr with
    | none => tryRelay H J p targetIp seeds fun k => env (k + 1)
    | some addr =>
      let query := querySeedForRelay H J p targetIp (env 0).r (env 0).sends (env 0).binds (env 0).reply
      let sent := query.1.toList.map fun d => (addr, d)
      match query.2 with
      | some relay => (sent, some relay)
      | none =>
        let rest := tryRelay H J p targetIp seeds fun k => env (k + 1)
        (sent ++ rest.1, rest.2)

/-- The reply that has `query_seed_for_relay` return `ep`. -/
def RelayEnv.Names (J : Relay.SerdeJson) (e : RelayEnv) (ep : PeerEndpoint) : Prop :=
  e.sends = true ∧ e.binds = true ∧ ∃ d, e.reply = .datagram d ∧ RawRelay J d ep

/-- Whatever is received is a frame of someone's `marshal`, from before second 2⁵⁶. -/
def RelayEnv.Framed (H : HmacSha256) (e : RelayEnv) : Prop :=
  ∀ d, e.reply = .datagram d →
    ∃ (p : UdpProtocol) (payload : List UInt8) (now : Nat) (nonceBytes : List UInt8),
      now < 2 ^ 56 ∧ d = p.marshal H payload now nonceBytes

/-! ## Lemmas -/

/-! ### Addresses -/

theorem readAddr_append (x : Ipv4Addr) (rest : List Char) (hrest : ∀ c ∈ rest.head?, c.isDigit = false) :
    Ipv4Addr.readAddr (x.chars ++ rest) = some (x, rest) := by
  have dot : ∀ (s : List Char), ∀ c ∈ ('.' :: s).head?, c.isDigit = false := by
    intro s c hc
    cases hc
    rfl
  unfold Ipv4Addr.readAddr Ipv4Addr.chars
  simp only [List.append_assoc, List.cons_append]
  rw [Ipv4Addr.readOctet_octetText _ _ (dot _)]
  simp only [Option.bind_eq_bind, Option.bind_some, Ipv4Addr.readDot]
  rw [Ipv4Addr.readOctet_octetText _ _ (dot _)]
  simp only [Option.bind_some]
  rw [Ipv4Addr.readOctet_octetText _ _ (dot _)]
  simp only [Option.bind_some]
  rw [Ipv4Addr.readOctet_octetText _ _ hrest]
  rfl

theorem readPort_toDigits (port : UInt16) : readPort (Nat.toDigits 10 port.toNat) = some port := by
  have hval : Ipv4Addr.digitsVal (Nat.toDigits 10 port.toNat) = port.toNat :=
    Nat.ofDigitChars_toDigits (by decide) (by decide)
  have hdigits : (Nat.toDigits 10 port.toNat).all Char.isDigit = true := by
    rw [List.all_eq_true]
    exact fun c hc => Nat.isDigit_of_mem_toDigits (by decide) (by decide) hc
  have hlen : (Nat.toDigits 10 port.toNat).length ≠ 0 :=
    fun h => Nat.toDigits_ne_nil (List.length_eq_zero_iff.mp h)
  have hlt := port.toNat_lt
  unfold readPort
  rw [if_neg hlen, hdigits, Bool.not_true, if_neg Bool.false_ne_true, hval, if_neg (by omega),
    UInt16.ofNat_toNat]

/-- The text of an address is read back. -/
theorem parse_addrText (addr : SocketAddr) : SocketAddr.parse (addrText addr) = some addr := by
  unfold SocketAddr.parse addrText
  rw [String.toList_ofList, readAddr_append _ _ fun c hc => by cases hc; rfl]
  simp only [readPort_toDigits, Option.map_some]

theorem addrs_none (seed : SeedAddr) (seeds : List SeedAddr) (h : SocketAddr.parse seed.addr = none) :
    addrs (seed :: seeds) = addrs seeds :=
  List.filterMap_cons_none (f := fun seed : SeedAddr => SocketAddr.parse seed.addr) h

theorem addrs_some (seed : SeedAddr) (seeds : List SeedAddr) (addr : SocketAddr)
    (h : SocketAddr.parse seed.addr = some addr) : addrs (seed :: seeds) = addr :: addrs seeds :=
  List.filterMap_cons_some (f := fun seed : SeedAddr => SocketAddr.parse seed.addr) h

/-! ### Registrations -/

/-- The entry of a registration. -/
def Registration.entry (r : Registration) : String × SocketAddr := (addrText r.addr, r.addr)

/-- A registration as `register` sends it. -/
def Registration.Of (cfg : AgentConfig) (r : Registration) : Prop :=
  r.addr ∈ addrs cfg.seeds ∧ ∃ state drawn, r.message = (Outgoing.register cfg state drawn).message

theorem registerSeeds_none (cfg : AgentConfig) (seed : SeedAddr) (seeds : List SeedAddr)
    (env : Nat → Attempt) (client : SeedClient) (h : SocketAddr.parse seed.addr = none) :
    registerSeeds cfg (seed :: seeds) env client =
      registerSeeds cfg seeds (fun k => env (k + 1)) client := by
  rw [registerSeeds, h]

theorem registerSeeds_some (cfg : AgentConfig) (seed : SeedAddr) (seeds : List SeedAddr)
    (env : Nat → Attempt) (client : SeedClient) (addr : SocketAddr)
    (h : SocketAddr.parse seed.addr = some addr) :
    registerSeeds cfg (seed :: seeds) env client =
      ((registerSeeds cfg seeds (fun k => env (k + 1)) (register cfg client addr (env 0)).1).1,
        (register cfg client addr (env 0)).2.toList ++
          (registerSeeds cfg seeds (fun k => env (k + 1)) (register cfg client addr (env 0)).1).2) := by
  rw [registerSeeds, h]

theorem register_conns (cfg : AgentConfig) (client : SeedClient) (addr : SocketAddr) (a : Attempt) :
    (register cfg client addr a).1.conns =
      client.conns ++ (register cfg client addr a).2.toList.map Registration.entry := by
  unfold register
  cases a.sends with
  | true => rfl
  | false => exact (List.append_nil _).symm

theorem register_sent (cfg : AgentConfig) (client : SeedClient) (addr : SocketAddr) (a : Attempt) :
    (register cfg client addr a).2.toList =
      if a.sends then [⟨addr, (Outgoing.register cfg a.state a.drawn).message⟩] else [] := by
  unfold register
  cases a.sends with
  | true => rfl
  | false => rfl

theorem registerSeeds_conns (cfg : AgentConfig) (seeds : List SeedAddr) :
    ∀ (env : Nat → Attempt) (client : SeedClient),
      (registerSeeds cfg seeds env client).1.conns =
        client.conns ++ (registerSeeds cfg seeds env client).2.map Registration.entry := by
  induction seeds with
  | nil => intro env client; exact (List.append_nil _).symm
  | cons seed seeds ih =>
    intro env client
    cases hparse : SocketAddr.parse seed.addr with
    | none =>
      rw [registerSeeds_none cfg seed seeds env client hparse]
      exact ih _ client
    | some addr =>
      rw [registerSeeds_some cfg seed seeds env client addr hparse, List.map_append, ← List.append_assoc,
        ← register_conns]
      exact ih _ _

/-- Registrations go to seeds that are addresses, and are those of the configuration. -/
theorem registerSeeds_sent (cfg : AgentConfig) (seeds : List SeedAddr) :
    ∀ (env : Nat → Attempt) (client : SeedClient), ∀ r ∈ (registerSeeds cfg seeds env client).2,
      r.addr ∈ addrs seeds ∧
        ∃ state drawn, r.message = (Outgoing.register cfg state drawn).message := by
  induction seeds with
  | nil => intro env client r hr; cases hr
  | cons seed seeds ih =>
    intro env client r hr
    cases hparse : SocketAddr.parse seed.addr with
    | none =>
      rw [registerSeeds_none cfg seed seeds env client hparse] at hr
      rw [addrs_none seed seeds hparse]
      exact ih _ client r hr
    | some addr =>
      rw [registerSeeds_some cfg seed seeds env client addr hparse] at hr
      rw [addrs_some seed seeds addr hparse]
      rcases List.mem_append.mp hr with hr | hr
      · rw [register_sent] at hr
        cases hsends : (env 0).sends with
        | false => rw [hsends] at hr; cases hr
        | true =>
          rw [hsends] at hr
          obtain rfl := List.mem_singleton.mp hr
          exact ⟨List.mem_cons_self, (env 0).state, (env 0).drawn, rfl⟩
      · obtain ⟨haddr, hmsg⟩ := ih _ _ r hr
        exact ⟨List.mem_cons_of_mem _ haddr, hmsg⟩

/-- If the socket sends, there is one to each of them. -/
theorem registerSeeds_all (cfg : AgentConfig) (seeds : List SeedAddr) :
    ∀ (env : Nat → Attempt) (client : SeedClient), (∀ k, (env k).sends = true) →
      (registerSeeds cfg seeds env client).2.map Registration.addr = addrs seeds := by
  induction seeds with
  | nil => intro env client _; rfl
  | cons seed seeds ih =>
    intro env client h
    cases hparse : SocketAddr.parse seed.addr with
    | none =>
      rw [registerSeeds_none cfg seed seeds env client hparse, addrs_none seed seeds hparse]
      exact ih _ client fun k => h (k + 1)
    | some addr =>
      rw [registerSeeds_some cfg seed seeds env client addr hparse, addrs_some seed seeds addr hparse,
        register_sent, if_pos (h 0), List.singleton_append, List.map_cons, ih _ _ fun k => h (k + 1)]

/-- **One tick.** -/
theorem health_next (cfg : AgentConfig) (s : Health) (tick : Tick) :
    ((healthMachine cfg).next s tick).client.conns =
      s.client.conns ++ ((healthMachine cfg).out s tick).map Registration.entry := by
  show ((healthMachine cfg).step s tick).1.client.conns =
    s.client.conns ++ ((healthMachine cfg).step s tick).2.map Registration.entry
  simp only [healthMachine]
  split
  · exact registerSeeds_conns cfg cfg.seeds tick.env s.client
  · exact (List.append_nil _).symm

theorem health_out (cfg : AgentConfig) (s : Health) (tick : Tick) :
    ∀ r ∈ (healthMachine cfg).out s tick, r.Of cfg := by
  intro r hr
  have hr' : r ∈ ((healthMachine cfg).step s tick).2 := hr
  simp only [healthMachine] at hr'
  split at hr'
  · exact registerSeeds_sent cfg cfg.seeds tick.env s.client r hr'
  · cases hr'

/-- A tick of an agent that is not stopped, on a socket that sends. -/
def Tick.Good (tick : Tick) : Prop :=
  tick.stopBefore = false ∧ tick.stopBehind = false ∧ ∀ k, (tick.env k).sends = true

theorem health_good (cfg : AgentConfig) (s : Health) (tick : Tick) (hrun : s.running = true)
    (h : tick.Good) :
    ((healthMachine cfg).next s tick).running = true ∧
      ((healthMachine cfg).out s tick).length = (addrs cfg.seeds).length := by
  obtain ⟨hb, ha, hsends⟩ := h
  have hstep : (healthMachine cfg).step s tick =
      (⟨(registerAll cfg s.client tick.env).1, true⟩, (registerAll cfg s.client tick.env).2) := by
    simp only [healthMachine, hrun, hb, ha]
    rfl
  constructor
  · show ((healthMachine cfg).step s tick).1.running = true
    rw [hstep]
  · show ((healthMachine cfg).step s tick).2.length = _
    rw [hstep]
    have hall := congrArg List.length (registerSeeds_all cfg cfg.seeds tick.env s.client hsends)
    rw [List.length_map] at hall
    exact hall

/-- The run, from any state. -/
theorem health_run (cfg : AgentConfig) (ticks : List Tick) :
    ∀ s, ((healthMachine cfg).after s ticks).client.conns =
      s.client.conns ++ ((healthMachine cfg).outputs s ticks).flatten.map Registration.entry := by
  induction ticks with
  | nil => intro s; exact (List.append_nil _).symm
  | cons tick ticks ih =>
    intro s
    rw [Machine.after_cons, ih, health_next, Machine.outputs_cons, List.flatten_cons, List.map_append,
      List.append_assoc]

theorem health_sent (cfg : AgentConfig) (ticks : List Tick) :
    ∀ s, ∀ r ∈ ((healthMachine cfg).outputs s ticks).flatten, r.Of cfg := by
  induction ticks with
  | nil => intro s r hr; cases hr
  | cons tick ticks ih =>
    intro s r hr
    rw [Machine.outputs_cons, List.flatten_cons] at hr
    rcases List.mem_append.mp hr with hr | hr
    · exact health_out cfg s tick r hr
    · exact ih _ r hr

theorem health_length (cfg : AgentConfig) (ticks : List Tick) (hgood : ∀ tick ∈ ticks, tick.Good) :
    ∀ s, s.running = true →
      ((healthMachine cfg).outputs s ticks).flatten.length = ticks.length * (addrs cfg.seeds).length := by
  induction ticks with
  | nil => intro s _; simp [Machine.outputs]
  | cons tick ticks ih =>
    intro s hrun
    obtain ⟨hnext, hout⟩ := health_good cfg s tick hrun (hgood tick List.mem_cons_self)
    rw [Machine.outputs_cons, List.flatten_cons, List.length_append, hout,
      ih (fun t ht => hgood t (List.mem_cons_of_mem _ ht)) _ hnext, List.length_cons, Nat.succ_mul,
      Nat.add_comm]

/-! ### Relays -/

/-- What the query to one seed returns. -/
theorem query_names (H : HmacSha256) (J : Relay.SerdeJson) (hJ : J.Strict) (p : UdpProtocol) (targetIp : String)
    (e : RelayEnv) (ep : PeerEndpoint) :
    (querySeedForRelay H J p targetIp e.r e.sends e.binds e.reply).2 = some ep ↔ e.Names J ep := by
  obtain ⟨r, sends, binds, reply⟩ := e
  unfold RelayEnv.Names
  cases sends with
  | false => exact iff_of_false (by rintro ⟨⟩) fun h => absurd h.1 Bool.false_ne_true
  | true =>
    cases binds with
    | false => exact iff_of_false (by rintro ⟨⟩) fun h => absurd h.2.1 Bool.false_ne_true
    | true =>
      cases reply with
      | timeout => exact iff_of_false (by rintro ⟨⟩) (by rintro ⟨-, -, d, hd, -⟩; cases hd)
      | recvError =>
        refine iff_of_false ?_ (by rintro ⟨-, -, d, hd, -⟩; cases hd)
        show (J.fromSlice replyBuf).bind relayEndpoint ≠ some ep
        have hlast : replyBuf.getLast? = some 0 := by
          unfold replyBuf
          rw [List.getLast?_replicate, if_neg (by decide)]
        rw [fromSlice_zero_last J hJ _ hlast]
        rintro ⟨⟩
      | datagram d =>
        rw [result_iff H J hJ p targetIp r d ep]
        constructor
        · exact fun h => ⟨rfl, rfl, d, rfl, h⟩
        · rintro ⟨-, -, d', hd, h⟩
          cases hd
          exact h

/-- Seed `k` is an address and names `ep`. -/
def NamedAt (J : Relay.SerdeJson) (seeds : List SeedAddr) (env : Nat → RelayEnv) (k : Nat) (ep : PeerEndpoint) :
    Prop :=
  (∃ seed addr, seeds[k]? = some seed ∧ SocketAddr.parse seed.addr = some addr) ∧ (env k).Names J ep

theorem namedAt_succ (J : Relay.SerdeJson) (seed : SeedAddr) (seeds : List SeedAddr) (env : Nat → RelayEnv)
    (k : Nat) (ep : PeerEndpoint) :
    NamedAt J (seed :: seeds) env (k + 1) ep ↔ NamedAt J seeds (fun k => env (k + 1)) k ep := by
  unfold NamedAt
  rw [List.getElem?_cons_succ]

/-- The first seed that names a relay. -/
def FirstNamed (J : Relay.SerdeJson) (seeds : List SeedAddr) (env : Nat → RelayEnv) (ep : PeerEndpoint) :
    Prop :=
  ∃ k, NamedAt J seeds env k ep ∧ ∀ j < k, ∀ ep', ¬ NamedAt J seeds env j ep'

/-- A first seed that names nothing is passed over. -/
theorem firstNamed_cons (J : Relay.SerdeJson) (seed : SeedAddr) (seeds : List SeedAddr) (env : Nat → RelayEnv)
    (ep : PeerEndpoint) (h : ∀ ep', ¬ NamedAt J (seed :: seeds) env 0 ep') :
    FirstNamed J (seed :: seeds) env ep ↔ FirstNamed J seeds (fun k => env (k + 1)) ep := by
  constructor
  · rintro ⟨k, hk, hbefore⟩
    cases k with
    | zero => exact absurd hk (h ep)
    | succ k =>
      refine ⟨k, (namedAt_succ J seed seeds env k ep).mp hk, fun j hj ep' hn => ?_⟩
      exact hbefore (j + 1) (Nat.succ_lt_succ hj) ep' ((namedAt_succ J seed seeds env j ep').mpr hn)
  · rintro ⟨k, hk, hbefore⟩
    refine ⟨k + 1, (namedAt_succ J seed seeds env k ep).mpr hk, fun j hj ep' hn => ?_⟩
    cases j with
    | zero => exact h ep' hn
    | succ j =>
      exact hbefore j (Nat.lt_of_succ_lt_succ hj) ep' ((namedAt_succ J seed seeds env j ep').mp hn)

theorem names_unique (J : Relay.SerdeJson) (e : RelayEnv) (ep ep' : PeerEndpoint) (h : e.Names J ep)
    (h' : e.Names J ep') : ep = ep' := by
  obtain ⟨-, -, d, hd, hraw⟩ := h
  obtain ⟨-, -, d', hd', hraw'⟩ := h'
  rw [hd] at hd'
  cases hd'
  exact rawRelay_unique J d ep ep' hraw hraw'

theorem tryRelay_iff (H : HmacSha256) (J : Relay.SerdeJson) (hJ : J.Strict) (p : UdpProtocol)
    (targetIp : String) (seeds : List SeedAddr) : ∀ (env : Nat → RelayEnv) (ep : PeerEndpoint),
      (tryRelay H J p targetIp seeds env).2 = some ep ↔ FirstNamed J seeds env ep := by
  induction seeds with
  | nil =>
    intro env ep
    refine iff_of_false (by rintro ⟨⟩) ?_
    rintro ⟨k, ⟨⟨seed, addr, hseed, -⟩, -⟩, -⟩
    rw [List.getElem?_nil] at hseed
    cases hseed
  | cons seed seeds ih =>
    intro env ep
    unfold tryRelay
    cases hparse : SocketAddr.parse seed.addr with
    | none =>
      have hnot : ∀ ep', ¬ NamedAt J (seed :: seeds) env 0 ep' := by
        rintro ep' ⟨⟨s, addr, hs, ha⟩, -⟩
        obtain rfl := Option.some.inj hs
        rw [hparse] at ha
        cases ha
      rw [firstNamed_cons J seed seeds env ep hnot]
      exact ih _ ep
    | some addr =>
      have hquery := query_names H J hJ p targetIp (env 0)
      have hat : ∀ ep', NamedAt J (seed :: seeds) env 0 ep' ↔ (env 0).Names J ep' :=
        fun ep' => ⟨fun h => h.2, fun h => ⟨⟨seed, addr, rfl, hparse⟩, h⟩⟩
      simp only
      cases hresult : (querySeedForRelay H J p targetIp (env 0).r (env 0).sends (env 0).binds
          (env 0).reply).2 with
      | none =>
        have hnot : ∀ ep', ¬ NamedAt J (seed :: seeds) env 0 ep' := by
          intro ep' hn
          have := (hquery ep').mpr ((hat ep').mp hn)
          rw [hresult] at this
          cases this
        rw [firstNamed_cons J seed seeds env ep hnot]
        exact ih _ ep
      | some relay =>
        have hrelay := (hquery relay).mp hresult
        constructor
        · intro h
          obtain rfl := Option.some.inj h
          exact ⟨0, (hat relay).mpr hrelay, fun j hj => absurd hj (Nat.not_lt_zero j)⟩
        · rintro ⟨k, hk, hbefore⟩
          cases k with
          | zero => exact congrArg some (names_unique J (env 0) relay ep hrelay ((hat ep).mp hk))
          | succ k => exact absurd ((hat relay).mpr hrelay) (hbefore 0 (Nat.succ_pos k) relay)

/-- Whom the loop asks when no one names a relay. -/
theorem tryRelay_asked (H : HmacSha256) (J : Relay.SerdeJson) (hJ : J.Strict) (p : UdpProtocol)
    (targetIp : String) (seeds : List SeedAddr) : ∀ env : Nat → RelayEnv, (∀ k, (env k).sends = true) →
      (∀ k ep, ¬ (env k).Names J ep) →
      (tryRelay H J p targetIp seeds env).1.map Prod.fst =
        addrs seeds := by
  induction seeds with
  | nil => intro env _ _; rfl
  | cons seed seeds ih =>
    intro env hsends hnone
    have hrest := ih (fun k => env (k + 1)) (fun k => hsends (k + 1)) fun k => hnone (k + 1)
    unfold tryRelay
    cases hparse : SocketAddr.parse seed.addr with
    | none => rw [addrs_none seed seeds hparse]; exact hrest
    | some addr =>
      rw [addrs_some seed seeds addr hparse]
      simp only
      have hresult : (querySeedForRelay H J p targetIp (env 0).r (env 0).sends (env 0).binds
          (env 0).reply).2 = none :=
        Option.eq_none_iff_forall_ne_some.mpr fun ep h =>
          hnone 0 ep ((query_names H J hJ p targetIp (env 0) ep).mp h)
      have hsent : ∃ d, (querySeedForRelay H J p targetIp (env 0).r (env 0).sends (env 0).binds
          (env 0).reply).1 = some d := by
        rw [hsends 0]
        unfold querySeedForRelay
        simp only [Bool.not_true, Bool.false_eq_true, if_false]
        split
        · exact ⟨_, rfl⟩
        · cases (env 0).reply <;> exact ⟨_, rfl⟩
      obtain ⟨d, hd⟩ := hsent
      rw [hresult, hd]
      simp only [Option.toList_some, List.map_cons, List.map_nil, List.singleton_append]
      rw [hrest]

/-- A framed reply names nothing. -/
theorem not_names_of_framed (H : HmacSha256) (J : Relay.SerdeJson) (hJ : J.Strict) (e : RelayEnv)
    (h : e.Framed H) (ep : PeerEndpoint) : ¬ e.Names J ep := by
  rintro ⟨-, -, d, hd, hraw⟩
  obtain ⟨p, payload, now, nonceBytes, hnow, rfl⟩ := h d hd
  exact not_rawRelay_marshal H J hJ p payload now nonceBytes hnow ep hraw

/-! ## Main theorems -/

/-- **`conns` over a run.**  Behind the registration at the start and any ticks, there is one
entry for each registration sent, in order: an address of a configured seed and its text.  They
are never fewer than before, and where the socket sends they grow by the number of
seeds with every tick. -/
theorem conns_run (cfg : AgentConfig) (seedMode : Bool) (env : Nat → Attempt) (ticks : List Tick) :
    let start := registerAll cfg (.new seedMode) env
    let sent := start.2 ++ ((healthMachine cfg).outputs ⟨start.1, true⟩ ticks).flatten
    let conns := ((healthMachine cfg).after ⟨start.1, true⟩ ticks).client.conns
    conns = sent.map Registration.entry ∧ (∀ r ∈ sent, r.Of cfg) ∧
      (∀ c ∈ conns, SocketAddr.parse c.1 = some c.2 ∧ c.2 ∈ addrs cfg.seeds) ∧
      ((∀ k, (env k).sends = true) → (∀ tick ∈ ticks, tick.Good) →
        conns.length = (ticks.length + 1) * (addrs cfg.seeds).length) := by
  intro start sent conns
  have hstart : start.1.conns = start.2.map Registration.entry :=
    registerSeeds_conns cfg cfg.seeds env (.new seedMode)
  have hconns : conns = sent.map Registration.entry := by
    rw [List.map_append, ← hstart]
    exact health_run cfg ticks ⟨start.1, true⟩
  have hsent : ∀ r ∈ sent, r.Of cfg := by
    intro r hr
    rcases List.mem_append.mp hr with hr | hr
    · exact registerSeeds_sent cfg cfg.seeds env (.new seedMode) r hr
    · exact health_sent cfg ticks _ r hr
  refine ⟨hconns, hsent, fun c hc => ?_, fun hsends hgood => ?_⟩
  · rw [hconns] at hc
    obtain ⟨r, hr, rfl⟩ := List.mem_map.mp hc
    exact ⟨parse_addrText r.addr, (hsent r hr).1⟩
  · have hfirst : start.2.length = (addrs cfg.seeds).length := by
      have := congrArg List.length (registerSeeds_all cfg cfg.seeds env (.new seedMode) hsends)
      rw [List.length_map] at this
      exact this
    rw [hconns, List.length_map, List.length_append, hfirst, health_length cfg ticks hgood _ rfl,
      Nat.succ_mul, Nat.add_comm]

/-- The default configuration with a seed by its name and one by its address. -/
def twoSeedsCfg : AgentConfig :=
  { AgentConfig.default with seeds := [⟨"seed.local:9527"⟩, ⟨"203.0.113.1:9527"⟩] }

/-- A call on a socket that sends. -/
def sendingAttempt : Attempt :=
  ⟨⟨.easy, ⟨198, 51, 100, 7⟩, 9527⟩, ⟨⟨1, 2, 1000, 1000, []⟩, inRange_1000⟩, true⟩

/-- Three minutes: the one seed that is an address is there four times. -/
theorem conns_after_three_ticks :
    ((healthMachine twoSeedsCfg).after
      ⟨(registerAll twoSeedsCfg (.new false) fun _ => sendingAttempt).1, true⟩
      (List.replicate 3 ⟨false, false, fun _ => sendingAttempt⟩)).client.conns.length = 4 := by
  refine ((conns_run twoSeedsCfg false (fun _ => sendingAttempt)
    (List.replicate 3 ⟨false, false, fun _ => sendingAttempt⟩)).2.2.2 (fun _ => rfl) ?_).trans (by decide)
  intro tick htick
  rw [List.eq_of_mem_replicate htick]
  exact ⟨rfl, rfl, fun _ => rfl⟩

/-- **Relays.**  `try_relay` returns what the first seed with a bare JSON reply of 2048 bytes names.
While all that comes back is framed by `marshal` it returns nothing, and each seed was asked that
is an address. -/
theorem tryRelay_exact (H : HmacSha256) (J : Relay.SerdeJson) (hJ : J.Strict) (p : UdpProtocol)
    (targetIp : String) (seeds : List SeedAddr) (env : Nat → RelayEnv) :
    (∀ ep, (tryRelay H J p targetIp seeds env).2 = some ep ↔ FirstNamed J seeds env ep) ∧
      ((∀ k, (env k).Framed H) →
        (tryRelay H J p targetIp seeds env).2 = none ∧
          ((∀ k, (env k).sends = true) →
            (tryRelay H J p targetIp seeds env).1.map Prod.fst =
              addrs seeds)) := by
  refine ⟨tryRelay_iff H J hJ p targetIp seeds env, fun hframed => ?_⟩
  have hnone : ∀ k ep, ¬ (env k).Names J ep := fun k => not_names_of_framed H J hJ (env k) (hframed k)
  refine ⟨?_, fun hsends => tryRelay_asked H J hJ p targetIp seeds env hsends hnone⟩
  apply Option.eq_none_iff_forall_ne_some.mpr
  intro ep hep
  obtain ⟨k, ⟨-, hk⟩, -⟩ := (tryRelay_iff H J hJ p targetIp seeds env ep).mp hep
  exact hnone k ep hk

/-- A seed by its name and two by their addresses. -/
def threeSeeds : List SeedAddr := [⟨"seed.local:9527"⟩, ⟨"203.0.113.1:9527"⟩, ⟨"203.0.113.2:9527"⟩]

/-- The relay in a frame of the key, from every seed. -/
def framedReply : RelayEnv :=
  ⟨someQuery, true, true, .datagram ((bind "psk").marshal relayMac relayText 1000 [1, 2, 3, 4, 5, 6, 7, 8])⟩

/-- The last seed sends the bare text instead. -/
def bareLast (k : Nat) : RelayEnv :=
  if k = 2 then ⟨someQuery, true, true, .datagram paddedText⟩ else framedReply

theorem framedReply_framed : framedReply.Framed relayMac := by
  intro d hd
  cases hd
  exact ⟨bind "psk", relayText, 1000, [1, 2, 3, 4, 5, 6, 7, 8], by decide, rfl⟩

/-- The frame of the second seed is passed over and the bare text of the third taken; with
frames only both are asked, for nothing. -/
theorem bare_reply_taken :
    (tryRelay relayMac relayJson (bind "psk") "10.244.1.5" threeSeeds bareLast).2 =
        some ⟨0xCB007109, 7000, 0⟩ ∧
      (tryRelay relayMac relayJson (bind "psk") "10.244.1.5" threeSeeds fun _ => framedReply).2 = none ∧
      (tryRelay relayMac relayJson (bind "psk") "10.244.1.5" threeSeeds fun _ => framedReply).1.map
          Prod.fst = [⟨⟨203, 0, 113, 1⟩, 9527⟩, ⟨⟨203, 0, 113, 2⟩, 9527⟩] := by
  constructor
  · refine ((tryRelay_exact relayMac relayJson relayJson_strict (bind "psk") "10.244.1.5" threeSeeds
      bareLast).1 _).mpr ⟨2, ⟨⟨_, ⟨⟨203, 0, 113, 2⟩, 9527⟩, rfl, by decide⟩, ?_⟩, ?_⟩
    · exact ⟨rfl, rfl, paddedText, rfl, rawRelay_paddedText⟩
    · intro j hj ep hnamed
      have hframed : bareLast j = framedReply := if_neg (by omega)
      refine not_names_of_framed relayMac relayJson relayJson_strict (bareLast j) ?_ ep hnamed.2
      rw [hframed]
      exact framedReply_framed
  · obtain ⟨hnone, hasked⟩ := (tryRelay_exact relayMac relayJson relayJson_strict (bind "psk")
      "10.244.1.5" threeSeeds fun _ => framedReply).2 fun _ => framedReply_framed
    refine ⟨hnone, (hasked fun _ => rfl).trans ?_⟩
    decide

end NomadP2P.Wire
