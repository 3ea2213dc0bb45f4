import NomadP2P.Config
import NomadP2P.NatDetect

/-!
# What STUN servers can tell the agent (`query`, `discover`, `refresh_loop`)

`discover` put together with its two halves: `query` over a connected socket, and
`detect_nat_type`.  A round is one call with what happens at the sockets; `refresh_loop` takes
rounds until one panics, and none if its interval is zero, which `tokio` does not take.  Without
a panic a round is `discover` on the results of the two halves (`discoverRound_eq`).

An `Answer` is a response as a server sends it: a mapped address behind attributes of other
types.  The port that is read from it does not depend on the answer, only on the form of the
attribute: 8467 for XOR-MAPPED-ADDRESS, 1 for MAPPED-ADDRESS.  So the detection compares the
forms of the two answers and not the ports (`detect_compares_forms`), and over any rounds with
servers that use one form

    the NAT is never called symmetric, the task does not panic, and the port is the
      one of the form once a query has succeeded                      (refresh_conforming)

A server that is given by name is never asked: `SocketAddr::parse` takes addresses only
(`refresh_names`).
-/

namespace NomadP2P.Stun

open Bytes

/-! ## Algorithm -/

/-- What `query` meets: whether the socket can be bound and connected, whether the request goes
out, and what comes back on the connected socket. -/
structure QueryEnv where
  binds : Bool
  connects : Bool
  sends : Bool
  event : SocketEvent

/-- `query`.  The transaction id counts from 1. -/
def query (server : String) (env : QueryEnv) : QueryRun :=
  if !env.binds then ⟨none, .err, []⟩
  else
    match SocketAddr.parse server with
    | none => ⟨none, .err, []⟩
    | some remote =>
      if !env.connects || !env.sends then ⟨none, .err, []⟩
      else
        match env.event with
        | .failed => ⟨some (remote, bindingRequest 1), .err, []⟩
        | .datagram d => ⟨some (remote, bindingRequest 1), readReply d, []⟩

/-- How a call of `discover` ends. -/
inductive DiscoverEnd
  | ok
  | error (e : String)
  | panicked
deriving DecidableEq

/-- One call of `discover`, with what happens at its sockets. -/
structure Round where
  ask : QueryEnv
  detect : DetectEnv

/-- The last lines of `discover`. -/
def detectAndStore (cfg : AgentConfig) (s : AgentState) (env : DetectEnv) : AgentState × DiscoverEnd :=
  match (detectNatType cfg.stunServers env).nat with
  | none => (s, .panicked)
  | some nat => ({ s with natType := nat }, .ok)

/-- `discover`, down to the sockets. -/
def discoverRound (cfg : AgentConfig) (s : AgentState) (r : Round) : AgentState × DiscoverEnd :=
  if cfg.stunServers.isEmpty then
    match s.useOverlayIp cfg with
    | .error e => (s, .error e)
    | .ok s => (s, .ok)
  else
    match (query (cfg.stunServers.getD 0 "") r.ask).outcome with
    | .panicked => (s, .panicked)
    | .ok result _ =>
      detectAndStore cfg { s with publicIp := result.publicIp, publicPort := result.publicPort } r.detect
    | .err =>
      match s.useOverlayIp cfg with
      | .error e => (s, .error e)
      | .ok s => detectAndStore cfg s r.detect

/-- The state, and whether the task of `refresh_loop` is still there. -/
structure Refresher where
  state : AgentState
  alive : Bool

/-- `refresh_loop`: errors are dropped, a panic ends the task. -/
def refreshMachine (cfg : NomadP2P.AgentConfig) : Machine Refresher Round Unit where
  step s r :=
    if s.alive then
      (⟨(discoverRound cfg.stun s.state r).1,
        decide ((discoverRound cfg.stun s.state r).2 ≠ .panicked)⟩, ())
    else (s, ())

/-- The start of the task on a new state: `tokio::time::interval` panics for a period of zero. -/
def Refresher.start (cfg : NomadP2P.AgentConfig) : Refresher :=
  ⟨.new cfg.stun, decide (0 < cfg.stunRefreshInterval)⟩

/-! ## Servers -/

/-- The two forms of a mapped address. -/
inductive Form
  | xor
  | plain
deriving DecidableEq, Repr

def Form.attr (form : Form) (ip : Ipv4Addr) (port : UInt16) : Attr :=
  match form with
  | .xor => xorMappedAddress ip port
  | .plain => mappedAddress ip port

/-- The port that is read from an address in this form. -/
def Form.port : Form → UInt16
  | .xor => 8467
  | .plain => 1

/-- A response with the mapped address `ip:port`, behind attributes of other types and within
the buffer of 1024 bytes. -/
structure Answer where
  tid : Vector UInt8 12
  before : List Attr
  form : Form
  ip : Ipv4Addr
  port : UInt16
  behind : List Attr
  other : ∀ x ∈ before, x.typ ≠ 0x0001 ∧ x.typ ≠ 0x0020
  fits : (response tid (before ++ form.attr ip port :: behind)).length ≤ 1024

def Answer.bytes (a : Answer) : List UInt8 :=
  response a.tid (a.before ++ a.form.attr a.ip a.port :: a.behind)

/-- Nothing arrives, or an answer in this form. -/
def SocketEvent.Conforms (form : Form) : SocketEvent → Prop
  | .failed => True
  | .datagram d => ∃ a : Answer, d.bytes = a.bytes ∧ a.form = form

/-- Whatever arrives in the round is an answer in this form. -/
def Round.Conforms (form : Form) (r : Round) : Prop :=
  r.ask.event.Conforms form ∧ ∀ e ∈ r.detect.events, e.Conforms form

/-- The query of the round succeeds. -/
def Round.Answered (cfg : AgentConfig) (r : Round) : Prop :=
  cfg.stunServers ≠ [] ∧
    ∃ result d, (Stun.query (cfg.stunServers.getD 0 "") r.ask).outcome = .ok result d

/-! ## Lemmas -/

/-! ### Answers -/

theorem isAddress_attr (form : Form) (ip : Ipv4Addr) (port : UInt16) :
    (form.attr ip port).isAddress = true := by
  cases form with
  | xor => simp [Form.attr, Attr.isAddress, xorMappedAddress, length_beBytes]
  | plain => simp [Form.attr, Attr.isAddress, mappedAddress, length_beBytes, Ipv4Addr.octets]

theorem decode_attr_port (form : Form) (ip : Ipv4Addr) (port : UInt16) :
    (decodeValue (form.attr ip port).typ (form.attr ip port).value).publicPort = form.port := by
  cases form with
  | xor =>
    show (decodeValue (xorMappedAddress ip port).typ (xorMappedAddress ip port).value).publicPort = _
    rw [decode_xorMappedAddress]
    rfl
  | plain => rfl

/-- **An answer parses**, and its port is the one of its form. -/
theorem parse_answer (a : Answer) :
    ∃ result, parseStunResponse (a.bytes.take 1024) = .ok result ∧ result.publicPort = a.form.port := by
  have hfits : a.bytes.length ≤ 1024 := a.fits
  have hlen := response_length a.tid (a.before ++ a.form.attr a.ip a.port :: a.behind)
  refine ⟨_, ?_, decode_attr_port a.form a.ip a.port⟩
  rw [List.take_of_length_le hfits]
  refine parse_first_address a.tid a.before a.behind _ ?_ (isAddress_attr a.form a.ip a.port) ?_
  · exact fun x hx => isAddress_of_other x (a.other x hx)
  · unfold Answer.bytes at hfits
    omega

theorem readReply_answer (a : Answer) (d : Datagram) (hd : d.bytes = a.bytes) :
    ∃ result, readReply d = .ok result d ∧ result.publicPort = a.form.port := by
  obtain ⟨result, hparse, hport⟩ := parse_answer a
  rw [← hd] at hparse
  exact ⟨result, (readReply_ok_iff d d result).mpr ⟨rfl, hparse⟩, hport⟩

/-- How a query ends that meets nothing but answers in one form. -/
def Settled (form : Form) (o : QueryOutcome) : Prop :=
  o = .err ∨ ∃ result d, o = .ok result d ∧ result.publicPort = form.port

theorem settled_readReply (form : Form) (d : Datagram) (h : (SocketEvent.datagram d).Conforms form) :
    Settled form (readReply d) := by
  obtain ⟨a, hbytes, rfl⟩ := h
  obtain ⟨result, hread, hport⟩ := readReply_answer a d hbytes
  exact .inr ⟨result, d, hread, hport⟩

theorem settled_query (form : Form) (server : String) (env : QueryEnv) (h : env.event.Conforms form) :
    Settled form (query server env).outcome := by
  unfold query
  split
  · exact .inl rfl
  · split
    · exact .inl rfl
    · split
      · exact .inl rfl
      · split
        · exact .inl rfl
        · next d hd => exact settled_readReply form d (hd ▸ h)

theorem settled_queryFromConn (form : Form) (server : String) (sends : Bool) (events : List SocketEvent)
    (h : ∀ e ∈ events, e.Conforms form) :
    Settled form (queryFromConn server sends events).outcome ∧
      ∀ e ∈ (queryFromConn server sends events).rest, e.Conforms form := by
  unfold queryFromConn
  split
  · exact ⟨.inl rfl, h⟩
  · split
    · exact ⟨.inl rfl, h⟩
    · cases events with
      | nil => exact ⟨.inl rfl, h⟩
      | cons e events =>
        have hrest : ∀ x ∈ events, x.Conforms form := fun x hx => h x (List.mem_cons_of_mem _ hx)
        cases e with
        | failed => exact ⟨.inl rfl, hrest⟩
        | datagram d => exact ⟨settled_readReply form d (h _ List.mem_cons_self), hrest⟩

/-! ### Rounds -/

/-- A detection that meets answers in one form. -/
theorem detect_conforming (form : Form) (servers : List String) (env : DetectEnv)
    (h : ∀ e ∈ env.events, e.Conforms form) :
    ∃ nat, (detectNatType servers env).nat = some nat ∧ nat ≠ .symmetric := by
  by_cases hlen : servers.length < 2
  · exact ⟨.unknown, by rw [detectNatType, if_pos hlen], by decide⟩
  by_cases hbinds : env.binds = true
  · rw [detectNatType_eq servers env (by omega) hbinds]
    obtain ⟨hfirst, hrest⟩ := settled_queryFromConn form (servers.getD 0 "") env.sends₁ env.events h
    have hsecond := (settled_queryFromConn form (servers.getD 1 "") env.sends₂ _ hrest).1
    rcases hfirst with h1 | ⟨r1, d1, h1, hp1⟩
    · rw [h1]
      rcases hsecond with h2 | ⟨r2, d2, h2, -⟩
      · rw [h2]; exact ⟨.unknown, rfl, by decide⟩
      · rw [h2]; exact ⟨.unknown, rfl, by decide⟩
    · rw [h1]
      rcases hsecond with h2 | ⟨r2, d2, h2, hp2⟩
      · rw [h2]; exact ⟨.unknown, rfl, by decide⟩
      · rw [h2]
        refine ⟨.easy, ?_, by decide⟩
        show some (if r1.publicPort ≠ r2.publicPort then NatType.symmetric else .easy) = _
        rw [if_neg (by rw [hp1, hp2]; exact not_not_intro rfl)]
  · refine ⟨.unknown, ?_, by decide⟩
    rw [detectNatType, if_neg hlen, Bool.eq_false_iff.mpr hbinds]
    rfl

/-- The result of the round's query. -/
def Round.result (cfg : AgentConfig) (r : Round) : Option StunResult :=
  match (query (cfg.stunServers.getD 0 "") r.ask).outcome with
  | .ok result _ => some result
  | _ => none

theorem detectAndStore_eq (cfg : AgentConfig) (s : AgentState) (env : DetectEnv)
    (h : (detectAndStore cfg s env).2 ≠ .panicked) :
    detectAndStore cfg s env =
      ({ s with natType := (detectNatType cfg.stunServers env).nat.getD .unknown }, .ok) := by
  unfold detectAndStore at h ⊢
  cases hnat : (detectNatType cfg.stunServers env).nat with
  | none =>
    rw [hnat] at h
    exact absurd rfl h
  | some nat => rfl

/-- **A round is a call of `discover`** on what its two halves return, unless it panics. -/
theorem discoverRound_eq (cfg : AgentConfig) (s : AgentState) (r : Round)
    (h : (discoverRound cfg s r).2 ≠ .panicked) :
    (discoverRound cfg s r).1 = (discover cfg s ⟨r.result cfg,
      (detectNatType cfg.stunServers r.detect).nat.getD .unknown⟩).1 := by
  unfold discoverRound at h ⊢
  unfold discover Round.result
  by_cases hempty : cfg.stunServers.isEmpty = true
  · rw [if_pos hempty, if_pos hempty]
    cases s.useOverlayIp cfg <;> rfl
  · rw [if_neg hempty] at h ⊢
    rw [if_neg hempty]
    cases hq : (query (cfg.stunServers.getD 0 "") r.ask).outcome with
    | panicked =>
      rw [hq] at h
      exact absurd rfl h
    | ok result d =>
      simp only [hq] at h ⊢
      rw [detectAndStore_eq _ _ _ h]
    | err =>
      simp only [hq] at h ⊢
      cases hip : s.useOverlayIp cfg with
      | error e => rfl
      | ok s' =>
        simp only [hip] at h ⊢
        rw [detectAndStore_eq _ _ _ h]

/-- A round does not panic if neither of its halves does. -/
theorem round_alive (cfg : AgentConfig) (s : AgentState) (r : Round)
    (hquery : (query (cfg.stunServers.getD 0 "") r.ask).outcome ≠ .panicked)
    (hdetect : (detectNatType cfg.stunServers r.detect).nat ≠ none) :
    (discoverRound cfg s r).2 ≠ .panicked := by
  have hstore : ∀ s', (detectAndStore cfg s' r.detect).2 = .ok := by
    intro s'
    unfold detectAndStore
    cases hnat : (detectNatType cfg.stunServers r.detect).nat with
    | none => exact absurd hnat hdetect
    | some nat => rfl
  unfold discoverRound
  by_cases hempty : cfg.stunServers.isEmpty = true
  · rw [if_pos hempty]
    cases s.useOverlayIp cfg <;> exact fun he => by cases he
  · rw [if_neg hempty]
    cases hq : (query (cfg.stunServers.getD 0 "") r.ask).outcome with
    | panicked => exact absurd hq hquery
    | ok result d =>
      simp only
      rw [hstore]
      exact fun he => by cases he
    | err =>
      cases s.useOverlayIp cfg with
      | error e => exact fun he => by cases he
      | ok s' =>
        simp only
        rw [hstore]
        exact fun he => by cases he

/-- `discover` writes the NAT type it is given, or none. -/
theorem natType_discover (cfg : AgentConfig) (s : AgentState) (call : DiscoverCall) :
    (discover cfg s call).1.natType = call.nat ∨ (discover cfg s call).1.natType = s.natType := by
  unfold discover AgentState.useOverlayIp
  by_cases hempty : cfg.stunServers.isEmpty = true
  · rw [if_pos hempty]
    cases Ipv4Addr.parse cfg.nodeOverlayIp <;> exact .inr rfl
  · rw [if_neg hempty]
    cases call.query with
    | some result => exact .inl rfl
    | none =>
      cases Ipv4Addr.parse cfg.nodeOverlayIp with
      | none => exact .inr rfl
      | some ip => exact .inl rfl

/-- The query of a round succeeds exactly if the call of `discover` has a result. -/
theorem answered_iff (cfg : AgentConfig) (r : Round) (nat : NatType) :
    r.Answered cfg ↔ ∃ result, queried cfg ⟨r.result cfg, nat⟩ = some result := by
  unfold Round.Answered queried Round.result
  by_cases hempty : cfg.stunServers.isEmpty = true
  · rw [if_pos hempty]
    constructor
    · rintro ⟨hne, -⟩
      exact absurd (List.isEmpty_iff.mp hempty) hne
    · rintro ⟨result, h⟩
      cases h
  · rw [if_neg hempty]
    have hne : cfg.stunServers ≠ [] := fun hnil => hempty (List.isEmpty_iff.mpr hnil)
    cases hq : (query (cfg.stunServers.getD 0 "") r.ask).outcome with
    | ok result d => exact ⟨fun _ => ⟨result, rfl⟩, fun _ => ⟨hne, result, d, rfl⟩⟩
    | err => exact ⟨fun h => (by obtain ⟨-, result, d, h⟩ := h; cases h), fun ⟨_, h⟩ => by cases h⟩
    | panicked => exact ⟨fun h => (by obtain ⟨-, result, d, h⟩ := h; cases h), fun ⟨_, h⟩ => by cases h⟩

/-- A round that meets answers in one form. -/
structure RoundOk (cfg : AgentConfig) (form : Form) (s : AgentState) (r : Round) : Prop where
  alive : (discoverRound cfg s r).2 ≠ .panicked
  nat : s.natType ≠ .symmetric → (discoverRound cfg s r).1.natType ≠ .symmetric
  answered : r.Answered cfg → (discoverRound cfg s r).1.publicPort = form.port
  unanswered : ¬ r.Answered cfg → (discoverRound cfg s r).1.publicPort = s.publicPort

theorem roundOk (cfg : AgentConfig) (form : Form) (s : AgentState) (r : Round) (h : r.Conforms form) :
    RoundOk cfg form s r := by
  obtain ⟨nat, hnat, hsym⟩ := detect_conforming form cfg.stunServers r.detect h.2
  have hquery := settled_query form (cfg.stunServers.getD 0 "") r.ask h.1
  have halive : (discoverRound cfg s r).2 ≠ .panicked := by
    apply round_alive cfg s r
    · rcases hquery with hq | ⟨result, d, hq, -⟩ <;> rw [hq] <;> exact fun he => by cases he
    · rw [hnat]
      exact Option.some_ne_none nat
  have hround := discoverRound_eq cfg s r halive
  rw [hnat, Option.getD_some] at hround
  refine ⟨halive, fun hs => ?_, fun hans => ?_, fun hans => ?_⟩
  · rw [hround]
    rcases natType_discover cfg s ⟨r.result cfg, nat⟩ with hn | hn
    · rw [hn]; exact hsym
    · rw [hn]; exact hs
  · obtain ⟨result, hresult⟩ := (answered_iff cfg r nat).mp hans
    rw [hround]
    refine (congrArg AgentState.publicPort (next_of_queried cfg s _ result hresult)).trans ?_
    -- the result is the one of the query, so its port is that of the form
    unfold queried Round.result at hresult
    rcases hquery with hq | ⟨result', d, hq, hport⟩
    · rw [hq] at hresult
      split at hresult <;> cases hresult
    · rw [hq] at hresult
      split at hresult
      · cases hresult
      · rw [← Option.some.inj hresult]
        exact hport
  · rw [hround]
    refine (next_of_not_queried cfg s ⟨r.result cfg, nat⟩ ?_).2
    rw [Option.eq_none_iff_forall_ne_some]
    exact fun result hresult => hans ((answered_iff cfg r nat).mpr ⟨result, hresult⟩)

/-- A task that is gone takes no more rounds. -/
theorem after_gone (cfg : NomadP2P.AgentConfig) (s : Refresher) (h : s.alive = false)
    (rounds : List Round) : (refreshMachine cfg).after s rounds = s := by
  refine (refreshMachine cfg).inv_after (fun s' => s' = s) rounds ?_ s rfl
  rintro s' r - rfl
  show (if s'.alive then _ else _ : Refresher × Unit).1 = _
  rw [h]
  rfl

/-- A round that the task outlives. -/
theorem next_alive (cfg : NomadP2P.AgentConfig) (s : Refresher) (r : Round) (h : s.alive = true)
    (hround : (discoverRound cfg.stun s.state r).2 ≠ .panicked) :
    (refreshMachine cfg).next s r = ⟨(discoverRound cfg.stun s.state r).1, true⟩ := by
  show (if s.alive then _ else _ : Refresher × Unit).1 = _
  rw [if_pos h, decide_eq_true hround]

theorem start_of_pos (cfg : NomadP2P.AgentConfig) (h : 0 < cfg.stunRefreshInterval) :
    Refresher.start cfg = ⟨.new cfg.stun, true⟩ := by
  unfold Refresher.start
  rw [decide_eq_true h]

/-- Rounds of a task that has started, with servers of one form. -/
theorem after_conforming (cfg : NomadP2P.AgentConfig) (form : Form) (rounds : List Round)
    (h : ∀ r ∈ rounds, r.Conforms form) :
    ((refreshMachine cfg).after ⟨.new cfg.stun, true⟩ rounds).alive = true ∧
      ((refreshMachine cfg).after ⟨.new cfg.stun, true⟩ rounds).state.natType ≠ .symmetric ∧
      ((∃ r ∈ rounds, r.Answered cfg.stun) →
        ((refreshMachine cfg).after ⟨.new cfg.stun, true⟩ rounds).state.publicPort = form.port) ∧
      ((¬ ∃ r ∈ rounds, r.Answered cfg.stun) →
        ((refreshMachine cfg).after ⟨.new cfg.stun, true⟩ rounds).state.publicPort =
          cfg.listenPort) := by
  induction rounds using List.reverseRecOn with
  | nil =>
    refine ⟨rfl, fun hsym => (by cases hsym), ?_, fun _ => rfl⟩
    rintro ⟨r, hr, -⟩
    cases hr
  | append_singleton rounds r ih =>
    obtain ⟨halive, hnat, hans, hnone⟩ := ih fun x hx => h x (List.mem_append_left _ hx)
    rw [Machine.after_snoc]
    generalize (refreshMachine cfg).after ⟨.new cfg.stun, true⟩ rounds = s at halive hnat hans hnone
    have hr := roundOk cfg.stun form s.state r (h r (List.mem_append_right _ List.mem_cons_self))
    rw [next_alive cfg s r halive hr.alive]
    refine ⟨rfl, hr.nat hnat, ?_, ?_⟩
    · rintro ⟨x, hx, hxans⟩
      by_cases hrans : r.Answered cfg.stun
      · exact hr.answered hrans
      · rcases List.mem_append.mp hx with hx | hx
        · exact (hr.unanswered hrans).trans (hans ⟨x, hx, hxans⟩)
        · rw [List.mem_singleton.mp hx] at hxans
          exact absurd hxans hrans
    · intro hno
      have hrans : ¬ r.Answered cfg.stun :=
        fun ha => hno ⟨r, List.mem_append_right _ List.mem_cons_self, ha⟩
      refine (hr.unanswered hrans).trans (hnone ?_)
      rintro ⟨x, hx, hxans⟩
      exact hno ⟨x, List.mem_append_left _ hx, hxans⟩

/-! ## Main theorems -/

/-- **The detection compares forms.**  If both requests go out and two answers come back,
whatever addresses and ports they carry and in whatever attributes: the NAT is called easy
if the answers have the same form and symmetric if they do not. -/
theorem detect_compares_forms (servers : List String) (env : DetectEnv) (hlen : 2 ≤ servers.length)
    (hbinds : env.binds = true) (hp₁ : SocketAddr.parse (servers.getD 0 "") ≠ none)
    (hs₁ : env.sends₁ = true) (hp₂ : SocketAddr.parse (servers.getD 1 "") ≠ none)
    (hs₂ : env.sends₂ = true) (a b : Answer) (from₁ from₂ : Origin) (rest : List SocketEvent)
    (hev : env.events = .datagram ⟨a.bytes, from₁⟩ :: .datagram ⟨b.bytes, from₂⟩ :: rest) :
    (detectNatType servers env).nat = some (if a.form = b.form then .easy else .symmetric) := by
  obtain ⟨ra, hra, hpa⟩ := parse_answer a
  obtain ⟨rb, hrb, hpb⟩ := parse_answer b
  obtain ⟨hfirst, hrest⟩ := (queryFromConn_ok_iff (servers.getD 0 "") env.sends₁ env.events ra
    ⟨a.bytes, from₁⟩ (.datagram ⟨b.bytes, from₂⟩ :: rest)).mpr ⟨hp₁, hs₁, hev, hra⟩
  obtain ⟨hsecond, -⟩ := (queryFromConn_ok_iff (servers.getD 1 "") env.sends₂
    (.datagram ⟨b.bytes, from₂⟩ :: rest) rb ⟨b.bytes, from₂⟩ rest).mpr ⟨hp₂, hs₂, rfl, hrb⟩
  rw [detectNatType_eq servers env hlen hbinds, hfirst, hrest, hsecond]
  show some (if ra.publicPort ≠ rb.publicPort then NatType.symmetric else .easy) = _
  rw [hpa, hpb]
  cases a.form <;> cases b.form <;> rfl

/-- Two servers that see different addresses and ports. -/
def answerAt (form : Form) (d : UInt8) (port : UInt16) : Answer where
  tid := Vector.replicate 12 2
  before := []
  form := form
  ip := ⟨203, 0, 113, d⟩
  port := port
  behind := []
  other _ hx := by cases hx
  fits := by
    rw [response_length, List.nil_append, attrsBytes_cons, List.length_append, bytes_length]
    cases form with
    | xor => simp [Form.attr, xorMappedAddress, length_beBytes, attrsBytes]
    | plain => simp [Form.attr, mappedAddress, length_beBytes, attrsBytes, Ipv4Addr.octets]

/-- A symmetric NAT, with a port for each server, is called easy. -/
theorem different_ports_easy :
    (detectNatType ["192.0.2.1:3478", "192.0.2.2:3478"] ⟨true, true, true,
      [.datagram ⟨(answerAt .xor 5 40000).bytes, .reply 0 1⟩,
        .datagram ⟨(answerAt .xor 5 50000).bytes, .reply 1 2⟩]⟩).nat = some .easy :=
  detect_compares_forms _ _ (by decide) rfl (by decide) rfl (by decide) rfl (answerAt .xor 5 40000)
    (answerAt .xor 5 50000) (.reply 0 1) (.reply 1 2) [] rfl

/-- **Servers of one form.**  Over any rounds in which what arrives are answers in one form, with
any addresses: `refresh_loop` panics only for an interval of zero, the NAT is never called
symmetric, and the port is that of the form as soon as one query has been answered, and
`listen_port` before. -/
theorem refresh_conforming (cfg : NomadP2P.AgentConfig) (form : Form) (rounds : List Round)
    (h : ∀ r ∈ rounds, r.Conforms form) :
    ((refreshMachine cfg).after (.start cfg) rounds).alive = decide (0 < cfg.stunRefreshInterval) ∧
      ((refreshMachine cfg).after (.start cfg) rounds).state.natType ≠ .symmetric ∧
      (0 < cfg.stunRefreshInterval → (∃ r ∈ rounds, r.Answered cfg.stun) →
        ((refreshMachine cfg).after (.start cfg) rounds).state.publicPort = form.port) ∧
      ((¬ ∃ r ∈ rounds, r.Answered cfg.stun) →
        ((refreshMachine cfg).after (.start cfg) rounds).state.publicPort = cfg.listenPort) := by
  by_cases hpos : 0 < cfg.stunRefreshInterval
  · obtain ⟨halive, hnat, hans, hnone⟩ := after_conforming cfg form rounds h
    rw [start_of_pos cfg hpos, decide_eq_true hpos]
    exact ⟨halive, hnat, fun _ => hans, hnone⟩
  · rw [after_gone cfg (.start cfg) (decide_eq_false hpos)]
    exact ⟨rfl, fun hsym => (by cases hsym), fun h => absurd h hpos, fun _ => rfl⟩

/-- A round in which `port` comes back. -/
def roundAt (port : UInt16) : Round where
  ask := ⟨true, true, true, .datagram ⟨(answerAt .xor 5 port).bytes, .reply 0 1⟩⟩
  detect := ⟨true, true, true, []⟩

theorem roundAt_conforms (port : UInt16) : (roundAt port).Conforms .xor :=
  ⟨⟨answerAt .xor 5 port, rfl, rfl⟩, fun _ he => by cases he⟩

/-- The default configuration with a server that is given by its address. -/
def byAddress : NomadP2P.AgentConfig := { NomadP2P.AgentConfig.default with stunServers := ["192.0.2.1:3478"] }

/-- Two rounds with different ports: the port is 8467. -/
theorem refresh_8467 :
    ((refreshMachine byAddress).after (.start byAddress)
      [roundAt 40000, roundAt 50000]).state.publicPort = 8467 := by
  refine (refresh_conforming byAddress .xor [roundAt 40000, roundAt 50000] ?_).2.2.1 (by decide)
    ⟨roundAt 40000, List.mem_cons_self, ?_⟩
  · intro r hr
    rcases List.mem_cons.mp hr with rfl | hr
    · exact roundAt_conforms 40000
    · rw [List.mem_singleton.mp hr]
      exact roundAt_conforms 50000
  · refine ⟨List.cons_ne_nil _ _, ?_⟩
    obtain ⟨result, hread, -⟩ := readReply_answer (answerAt .xor 5 40000)
      ⟨(answerAt .xor 5 40000).bytes, .reply 0 1⟩ rfl
    exact ⟨result, _, hread⟩

/-- A server that is not an address is not asked. -/
theorem query_name (server : String) (env : QueryEnv) (h : SocketAddr.parse server = none) :
    (query server env).outcome = .err := by
  unfold query
  rw [h]
  split <;> rfl

theorem detect_names (servers : List String) (env : DetectEnv)
    (h₁ : SocketAddr.parse (servers.getD 0 "") = none)
    (h₂ : SocketAddr.parse (servers.getD 1 "") = none) :
    (detectNatType servers env).nat = some .unknown := by
  have hquery : ∀ server sends events, SocketAddr.parse server = none →
      (queryFromConn server sends events).outcome = .err := by
    intro server sends events h
    unfold queryFromConn
    rw [h]
  unfold detectNatType
  split
  · rfl
  · split
    · rfl
    · simp only
      rw [hquery _ _ _ h₁, hquery _ _ _ h₂]
      rfl

/-- Rounds of a task that has started, with servers that are not asked. -/
theorem after_names (cfg : NomadP2P.AgentConfig)
    (h₁ : SocketAddr.parse (cfg.stunServers.getD 0 "") = none)
    (h₂ : SocketAddr.parse (cfg.stunServers.getD 1 "") = none) (rounds : List Round) :
    ∃ ip, (refreshMachine cfg).after ⟨.new cfg.stun, true⟩ rounds =
        ⟨⟨.unknown, ip, cfg.listenPort⟩, true⟩ ∧
      (ip = ⟨0, 0, 0, 0⟩ ∨ Ipv4Addr.parse cfg.nodeOverlayIp = some ip) := by
  induction rounds using List.reverseRecOn with
  | nil => exact ⟨⟨0, 0, 0, 0⟩, rfl, .inl rfl⟩
  | append_singleton rounds r ih =>
    obtain ⟨ip, hafter, hip⟩ := ih
    rw [Machine.after_snoc, hafter]
    have hservers : cfg.stun.stunServers = cfg.stunServers := rfl
    have hnat := detect_names cfg.stunServers r.detect h₁ h₂
    have hask := query_name (cfg.stunServers.getD 0 "") r.ask h₁
    have halive := round_alive cfg.stun ⟨.unknown, ip, cfg.listenPort⟩ r
      (by rw [hservers, hask]; exact fun he => by cases he)
      (by rw [hservers, hnat]; exact Option.some_ne_none _)
    have hresult : r.result cfg.stun = none := by
      unfold Round.result
      rw [hservers, hask]
    have hround := discoverRound_eq cfg.stun ⟨.unknown, ip, cfg.listenPort⟩ r halive
    rw [hservers, hnat, hresult, Option.getD_some] at hround
    obtain ⟨hnip, hnport⟩ := next_of_not_queried cfg.stun ⟨.unknown, ip, cfg.listenPort⟩ ⟨none, .unknown⟩
      (by unfold queried; split <;> rfl)
    have hntype := natType_discover cfg.stun ⟨.unknown, ip, cfg.listenPort⟩ ⟨none, .unknown⟩
    rw [or_self] at hntype
    refine ⟨(Ipv4Addr.parse cfg.nodeOverlayIp).getD ip, ?_, ?_⟩
    · rw [next_alive cfg ⟨⟨.unknown, ip, cfg.listenPort⟩, true⟩ r rfl halive, hround]
      have hfields : ∀ (s : AgentState) (ip : Ipv4Addr), s.natType = .unknown → s.publicIp = ip →
          s.publicPort = cfg.listenPort → s = ⟨.unknown, ip, cfg.listenPort⟩ := by
        rintro ⟨nat, ip, port⟩ _ rfl rfl rfl
        rfl
      exact congrArg (Refresher.mk · true) (hfields _ _ hntype hnip hnport)
    · cases hparse : Ipv4Addr.parse cfg.nodeOverlayIp with
      | none =>
        rw [hparse] at hip
        exact hip
      | some overlay => exact .inr rfl

/-- **Servers by name.**  If neither of the first two servers is written as an address and a port,
then over any rounds, whatever happens at the sockets: `refresh_loop` panics only for an interval
of zero, the NAT type stays unknown, the port `listen_port`, and the address is the one from
before the first round or the overlay address. -/
theorem refresh_names (cfg : NomadP2P.AgentConfig)
    (h₁ : SocketAddr.parse (cfg.stunServers.getD 0 "") = none)
    (h₂ : SocketAddr.parse (cfg.stunServers.getD 1 "") = none) (rounds : List Round) :
    ∃ ip, (refreshMachine cfg).after (.start cfg) rounds =
        ⟨⟨.unknown, ip, cfg.listenPort⟩, decide (0 < cfg.stunRefreshInterval)⟩ ∧
      (ip = ⟨0, 0, 0, 0⟩ ∨ Ipv4Addr.parse cfg.nodeOverlayIp = some ip) := by
  by_cases hpos : 0 < cfg.stunRefreshInterval
  · rw [start_of_pos cfg hpos, decide_eq_true hpos]
    exact after_names cfg h₁ h₂ rounds
  · rw [after_gone cfg (.start cfg) (decide_eq_false hpos)]
    exact ⟨⟨0, 0, 0, 0⟩, rfl, .inl rfl⟩

/-- The server of the default configuration is a name: an answer changes nothing. -/
theorem refresh_default :
    ∃ ip, (refreshMachine .default).after (.start .default) [roundAt 40000] =
        ⟨⟨.unknown, ip, 9527⟩, true⟩ ∧
      (ip = ⟨0, 0, 0, 0⟩ ∨ Ipv4Addr.parse "10.244.0.1" = some ip) :=
  refresh_names .default (by decide) (by decide) [roundAt 40000]

end NomadP2P.Stun
