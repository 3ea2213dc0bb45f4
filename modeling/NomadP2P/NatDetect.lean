import NomadP2P.Common
import NomadP2P.Stun

/-!
# NAT detection (`detect_nat_type` of `agent/src/stun.rs`)

Two queries, to `servers[0]` and to `servers[1]`, over one socket.  What happens at
the socket is a list of events: a datagram is delivered, or the wait for one comes
to nothing.  A datagram carries its true origin, which the code does not see:
`query_from_conn` takes the next datagram, whoever sent it and whatever request it
answers; both requests are the same bytes.

So the two ports that are compared come from the right replies exactly when the
socket happens to deliver them in that order and nothing else before:

    Attributed (detectNatType …) ↔ RightReplies …                 (attributed_iff)
-/

namespace NomadP2P.Stun

open Bytes

/-! ## Algorithm -/

/-- Where a datagram comes from: the reply of `servers[server]` to a request of this
detection (`1` is the first), or anything else. -/
inductive Origin
  | reply (server request : Nat)
  | other
deriving DecidableEq

structure Datagram where
  bytes : List UInt8
  origin : Origin

/-- What a wait on the socket meets: a datagram, or the timeout or an error. -/
inductive SocketEvent
  | datagram (d : Datagram)
  | failed

/-- The Binding Request, with the transaction id `k, k + 1, …`. -/
def bindingRequest (k : Nat) : List UInt8 :=
  beBytes 2 0x0001 ++ [0, 0] ++ beBytes 4 stunMagicCookie ++
    (List.range 12).map fun i => UInt8.ofNat (i + k)

/-- How a query ends.  The datagram the result was read from is kept for the record. -/
inductive QueryOutcome
  | ok (r : StunResult) (source : Datagram)
  | err
  | panicked

structure QueryRun where
  sent : Option (SocketAddr × List UInt8)
  outcome : QueryOutcome
  /-- the events that are left for the next query -/
  rest : List SocketEvent

/-- `parse_stun_response` on what the 1024 bytes of the buffer take. -/
def readReply (d : Datagram) : QueryOutcome :=
  match parseStunResponse (d.bytes.take 1024) with
  | .ok r => .ok r d
  | .error (.bail _) => .err
  | .error .outOfBounds => .panicked

/-- `query_from_conn`; `sends` says whether `send_to` succeeds. -/
def queryFromConn (server : String) (sends : Bool) (events : List SocketEvent) : QueryRun :=
  match SocketAddr.parse server with
  | none => ⟨none, .err, events⟩
  | some remote =>
    if !sends then ⟨none, .err, events⟩
    else
      let sent := some (remote, bindingRequest 2)
      match events with
      | [] => ⟨sent, .err, []⟩
      | .failed :: rest => ⟨sent, .err, rest⟩
      | .datagram d :: rest => ⟨sent, readReply d, rest⟩

/-- What a detection returns (`none` is a panic), and for the record the datagrams
whose ports it compared. -/
structure Detection where
  nat : Option NatType
  compared : Option (Datagram × Datagram)

/-- The `match (&first, &second)`. -/
def classify : QueryOutcome → QueryOutcome → Detection
  | .panicked, _ => ⟨none, none⟩
  | _, .panicked => ⟨none, none⟩
  | .ok a da, .ok b db =>
    ⟨some (if a.publicPort ≠ b.publicPort then .symmetric else .easy), some (da, db)⟩
  | _, _ => ⟨some .unknown, none⟩

/-- What the world does to a detection: whether the socket can be bound, whether the
two sends succeed, and what happens at the socket. -/
structure DetectEnv where
  binds : Bool
  sends₁ : Bool
  sends₂ : Bool
  events : List SocketEvent

/-- `detect_nat_type`. -/
def detectNatType (servers : List String) (env : DetectEnv) : Detection :=
  if servers.length < 2 then ⟨some .unknown, none⟩
  else if !env.binds then ⟨some .unknown, none⟩
  else
    let first := queryFromConn (servers.getD 0 "") env.sends₁ env.events
    let second := queryFromConn (servers.getD 1 "") env.sends₂ first.rest
    classify first.outcome second.outcome

/-- If the result is Easy or Symmetric, the first port compared is from the reply of
`servers[0]` to the first request, the second from that of `servers[1]` to the second. -/
def Attributed (r : Detection) : Prop :=
  ∀ nat, r.nat = some nat → nat ≠ .unknown →
    ∃ a b, r.compared = some (a, b) ∧ a.origin = .reply 0 1 ∧ b.origin = .reply 1 2

/-- The datagram is a response with a mapped address. -/
def Parses (d : Datagram) : Prop := ∃ r, parseStunResponse (d.bytes.take 1024) = .ok r

/-- If both requests go out and the first two things to happen at the socket are
datagrams that parse, they are the right replies. -/
def RightReplies (servers : List String) (env : DetectEnv) : Prop :=
  2 ≤ servers.length → env.binds = true →
    SocketAddr.parse (servers.getD 0 "") ≠ none → env.sends₁ = true →
    SocketAddr.parse (servers.getD 1 "") ≠ none → env.sends₂ = true →
    ∀ a b rest, env.events = .datagram a :: .datagram b :: rest → Parses a → Parses b →
      a.origin = .reply 0 1 ∧ b.origin = .reply 1 2

/-! ## Lemmas -/

theorem readReply_ok_iff (d source : Datagram) (r : StunResult) :
    readReply d = .ok r source ↔ d = source ∧ parseStunResponse (d.bytes.take 1024) = .ok r := by
  unfold readReply
  cases parseStunResponse (d.bytes.take 1024) with
  | ok r' =>
    simp only [QueryOutcome.ok.injEq, Except.ok.injEq]
    exact And.comm
  | error e =>
    constructor
    · intro h
      cases e <;> cases h
    · rintro ⟨-, h⟩
      cases h

/-- A query succeeds on the datagram in front, and on nothing else. -/
theorem queryFromConn_ok_iff (server : String) (sends : Bool) (events : List SocketEvent)
    (r : StunResult) (d : Datagram) (rest : List SocketEvent) :
    ((queryFromConn server sends events).outcome = .ok r d ∧
        (queryFromConn server sends events).rest = rest) ↔
      SocketAddr.parse server ≠ none ∧ sends = true ∧ events = .datagram d :: rest ∧
        parseStunResponse (d.bytes.take 1024) = .ok r := by
  unfold queryFromConn
  cases SocketAddr.parse server with
  | none =>
    constructor
    · rintro ⟨h, -⟩; cases h
    · rintro ⟨h, -⟩; exact absurd rfl h
  | some remote =>
    cases sends with
    | false =>
      constructor
      · rintro ⟨h, -⟩; cases h
      · rintro ⟨-, h, -⟩; cases h
    | true =>
      cases events with
      | nil =>
        constructor
        · rintro ⟨h, -⟩; cases h
        · rintro ⟨-, -, h, -⟩; cases h
      | cons e events =>
        cases e with
        | failed =>
          constructor
          · rintro ⟨h, -⟩; cases h
          · rintro ⟨-, -, h, -⟩; cases h
        | datagram d' =>
          show (readReply d' = .ok r d ∧ events = rest) ↔ _
          rw [readReply_ok_iff]
          constructor
          · rintro ⟨⟨rfl, hparse⟩, rfl⟩
            exact ⟨Option.some_ne_none remote, rfl, rfl, hparse⟩
          · rintro ⟨-, -, hev, hparse⟩
            cases hev
            exact ⟨⟨rfl, hparse⟩, rfl⟩

/-- A classification other than Unknown rests on two results. -/
theorem classify_cases (x y : QueryOutcome) (nat : NatType) (h : (classify x y).nat = some nat)
    (hn : nat ≠ .unknown) :
    ∃ ra a rb b, x = .ok ra a ∧ y = .ok rb b ∧ (classify x y).compared = some (a, b) := by
  cases x with
  | panicked => cases y <;> cases h
  | err =>
    cases y with
    | panicked => cases h
    | err => exact absurd (Option.some.inj h).symm hn
    | ok rb b => exact absurd (Option.some.inj h).symm hn
  | ok ra a =>
    cases y with
    | panicked => cases h
    | err => exact absurd (Option.some.inj h).symm hn
    | ok rb b => exact ⟨ra, a, rb, b, rfl, rfl, rfl⟩

theorem classify_ok (ra rb : StunResult) (a b : Datagram) :
    ∃ nat, nat ≠ .unknown ∧ classify (.ok ra a) (.ok rb b) = ⟨some nat, some (a, b)⟩ := by
  refine ⟨if ra.publicPort ≠ rb.publicPort then .symmetric else .easy, ?_, rfl⟩
  split <;> exact NatType.noConfusion

/-- The detection as a classification of two queries, once the socket is there. -/
theorem detectNatType_eq (servers : List String) (env : DetectEnv) (hlen : 2 ≤ servers.length)
    (hbinds : env.binds = true) :
    detectNatType servers env =
      classify (queryFromConn (servers.getD 0 "") env.sends₁ env.events).outcome
        (queryFromConn (servers.getD 1 "") env.sends₂
          (queryFromConn (servers.getD 0 "") env.sends₁ env.events).rest).outcome := by
  unfold detectNatType
  rw [if_neg (by omega), hbinds]
  rfl

/-! ## Attribution -/

/-- **When the right ports are compared.**  Whatever happens at the socket: the result is
attributed to the right replies exactly when they are the first two datagrams, or one
of the first two does not parse or is missing. -/
theorem attributed_iff (servers : List String) (env : DetectEnv) :
    Attributed (detectNatType servers env) ↔ RightReplies servers env := by
  constructor
  · intro h hlen hbinds hp1 hs1 hp2 hs2 a b rest hev ⟨ra, hra⟩ ⟨rb, hrb⟩
    obtain ⟨hfirst, hrest⟩ := (queryFromConn_ok_iff (servers.getD 0 "") env.sends₁ env.events ra a
      (.datagram b :: rest)).mpr ⟨hp1, hs1, hev, hra⟩
    obtain ⟨hsecond, -⟩ := (queryFromConn_ok_iff (servers.getD 1 "") env.sends₂ (.datagram b :: rest)
      rb b rest).mpr ⟨hp2, hs2, rfl, hrb⟩
    obtain ⟨nat, hnat, hclass⟩ := classify_ok ra rb a b
    have hdetect : detectNatType servers env = ⟨some nat, some (a, b)⟩ := by
      rw [detectNatType_eq servers env hlen hbinds, hfirst, hrest, hsecond, hclass]
    rw [hdetect] at h
    obtain ⟨a', b', hcomp, ha, hb⟩ := h nat rfl hnat
    cases hcomp
    exact ⟨ha, hb⟩
  · intro h nat hnat hne
    by_cases hlen : servers.length < 2
    · rw [detectNatType, if_pos hlen] at hnat
      exact absurd (Option.some.inj hnat).symm hne
    by_cases hbinds : env.binds = true
    · rw [detectNatType_eq servers env (by omega) hbinds] at hnat ⊢
      obtain ⟨ra, a, rb, b, hfirst, hsecond, hcomp⟩ := classify_cases _ _ nat hnat hne
      refine ⟨a, b, hcomp, ?_⟩
      obtain ⟨hp1, hs1, hev, hra⟩ := (queryFromConn_ok_iff _ _ _ _ _ _).mp ⟨hfirst, rfl⟩
      obtain ⟨hp2, hs2, hev2, hrb⟩ := (queryFromConn_ok_iff _ _ _ _ _ _).mp ⟨hsecond, rfl⟩
      rw [hev2] at hev
      exact h (by omega) hbinds hp1 hs1 hp2 hs2 a b _ hev ⟨ra, hra⟩ ⟨rb, hrb⟩
    · rw [detectNatType, if_neg hlen, Bool.eq_false_iff.mpr hbinds] at hnat
      exact absurd (Option.some.inj hnat).symm hne

/-- The reply of `servers[0]` to the first request. -/
def firstReply : Datagram :=
  ⟨response (Vector.ofFn fun i => UInt8.ofNat (i.val + 2)) [xorMappedAddress ⟨203, 0, 113, 5⟩ 40000],
    .reply 0 1⟩

/-- The network delivers it twice. -/
def duplicated : DetectEnv := ⟨true, true, true, [.datagram firstReply, .datagram firstReply]⟩

theorem firstReply_parses : Parses firstReply := by
  have htake : firstReply.bytes.take 1024 = response (Vector.ofFn fun i => UInt8.ofNat (i.val + 2))
      ([] ++ xorMappedAddress ⟨203, 0, 113, 5⟩ 40000 :: []) :=
    List.take_of_length_le (by decide +kernel)
  have hparse := parse_first_address (Vector.ofFn fun i => UInt8.ofNat (i.val + 2)) [] []
    (xorMappedAddress ⟨203, 0, 113, 5⟩ 40000) (fun y hy => by cases hy) (by decide) (by decide)
  rw [← htake] at hparse
  exact ⟨_, hparse⟩

/-- The NAT is called easy because `servers[0]` agrees with itself. -/
theorem duplicate_called_easy :
    (detectNatType ["192.0.2.1:3478", "192.0.2.2:3478"] duplicated).nat = some .easy ∧
      ¬ Attributed (detectNatType ["192.0.2.1:3478", "192.0.2.2:3478"] duplicated) := by
  obtain ⟨r, hr⟩ := firstReply_parses
  obtain ⟨hfirst, hrest⟩ := (queryFromConn_ok_iff "192.0.2.1:3478" true
    [.datagram firstReply, .datagram firstReply] r firstReply [.datagram firstReply]).mpr
    ⟨by decide, rfl, rfl, hr⟩
  obtain ⟨hsecond, -⟩ := (queryFromConn_ok_iff "192.0.2.2:3478" true [.datagram firstReply] r
    firstReply []).mpr ⟨by decide, rfl, rfl, hr⟩
  have hdetect : detectNatType ["192.0.2.1:3478", "192.0.2.2:3478"] duplicated =
      ⟨some .easy, some (firstReply, firstReply)⟩ := by
    rw [detectNatType_eq _ _ (by decide) rfl]
    show classify (queryFromConn "192.0.2.1:3478" true
        [.datagram firstReply, .datagram firstReply]).outcome
      (queryFromConn "192.0.2.2:3478" true (queryFromConn "192.0.2.1:3478" true
        [.datagram firstReply, .datagram firstReply]).rest).outcome = _
    rw [hfirst, hrest, hsecond]
    show (⟨some (if r.publicPort ≠ r.publicPort then _ else _), _⟩ : Detection) = _
    rw [if_neg (not_not_intro rfl)]
  rw [hdetect]
  refine ⟨rfl, fun h => ?_⟩
  obtain ⟨a, b, hcomp, -, hb⟩ := h .easy rfl (by decide)
  cases hcomp
  revert hb
  decide

end NomadP2P.Stun
