import NomadP2P.Codec

/-!
# The receive loop and its timeouts (`recv_loop` of `agent/src/protocol.rs`)

`recv_loop` polls a future of `recv` against a timer of one second.  If the timer is
first the future is dropped where it stands, at the socket or at the yield, and the next
turn of the loop makes a new one.  The nonces, the buffer and the socket are not part of
the future and stay.

A run is any sequence of arrivals and wakes.  Its trace has what `recv` and `recv_loop`
do to the outside: a datagram is read, `nonces` is pruned, a nonce is pushed, a datagram is
dispatched.

    between one read and the next, the nonce of the datagram is pushed ↔ this
      datagram is dispatched, once, with its length and bytes    (recvLoop_cancel_safe)

Between the push and the return of `recv` there is no suspension point, and what `select!`
has polled to the end it does not drop.
-/

namespace NomadP2P.Protocol

open Bytes

/-! ## Algorithm -/

/-- What waits at the socket: `recv_from` returns a datagram or fails. -/
inductive Incoming
  | datagram (a : Arrival)
  | error
deriving DecidableEq, Repr

/-- What a future of `recv` works on and leaves behind when it is dropped. -/
structure Shared where
  socket : List Incoming
  proto : UdpProtocol
  buf : List UInt8

/-- Where a future of `recv` stands: not polled yet, at `recv_from` with `attempts`, or at
`yield_now`. -/
inductive Suspension
  | fresh
  | socket (attempts : Nat)
  | yielded
deriving DecidableEq, Repr

inductive Act
  /-- `recv_from` returns the datagram -/
  | read (a : Arrival)
  /-- `self.nonces.retain` -/
  | retain (cutoff : Nat)
  /-- `self.nonces.push` -/
  | push (entry : String × Nat)
  /-- `recv_loop` goes on with `Ok((n, addr))` and this buffer -/
  | dispatch (n : Nat) (addr : SocketAddr) (buf : List UInt8)
deriving DecidableEq

/-- What `check_nonce` does to `nonces`. -/
def UdpProtocol.checkNonceActs (p : UdpProtocol) (header : List UInt8) (now : Nat) : List Act :=
  let ts := timestamp header
  let nonce := hex (nonce header)
  if absDiff ts now > replayWindowSecs then []
  else
    let cutoff := now - replayWindowSecs
    if (p.nonces.filter fun e => e.2 > cutoff).any fun e => e.1 == nonce then [.retain cutoff]
    else [.retain cutoff, .push (nonce, now)]

/-- What a pass of the loop in `recv` does to `nonces`, behind the `recv_from`. -/
def recvPassActs (H : HmacSha256) (p : UdpProtocol) (buf : List UInt8) (now : Nat)
    (d : List UInt8) : List Act :=
  let (buf, n) := recvFrom buf d
  if n < minMessageSize then []
  else
    let acts : Option (List Act) := do
      let headerRaw ← slice buf 0 headerSize
      let payload ← slice buf headerSize (n - hmacSize)
      let sig ← slice buf (n - hmacSize) n
      if !p.verify H (headerRaw ++ payload) sig then some []
      else some (p.checkNonceActs headerRaw now)
    acts.getD []

/-- The answer of a poll. -/
inductive Poll
  | pending (future : Suspension)
  | ok (n : Nat) (addr : SocketAddr)
  | err
  | panicked
deriving DecidableEq

structure Polled where
  shared : Shared
  poll : Poll
  acts : List Act

/-- A poll of `recv` from its `recv_from` on.  The socket is ready at most `budget` times: a
poll can also be pending with datagrams in the queue. -/
def pollSocket (H : HmacSha256) : (budget attempts : Nat) → Shared → Polled
  | 0, attempts, s => ⟨s, .pending (.socket attempts), []⟩
  | budget + 1, attempts, s =>
    match s.socket with
    | [] => ⟨s, .pending (.socket attempts), []⟩
    | .error :: rest => ⟨{ s with socket := rest }, .err, []⟩
    | .datagram a :: rest =>
      let acts := .read a :: recvPassActs H s.proto s.buf a.now a.bytes
      match recvPass H s.proto s.buf a.now a.bytes with
      | none => ⟨{ s with socket := rest }, .panicked, acts⟩
      | some (proto, buf, some n) => ⟨⟨rest, proto, buf⟩, .ok n a.addr, acts⟩
      | some (proto, buf, none) =>
        if attempts + 1 > maxRecvAttempts then ⟨⟨rest, proto, buf⟩, .pending .yielded, acts⟩
        else
          let r := pollSocket H budget (attempts + 1) ⟨rest, proto, buf⟩
          { r with acts := acts ++ r.acts }

/-- A poll of `recv`. -/
def pollRecv (H : HmacSha256) (budget : Nat) : Suspension → Shared → Polled
  | .fresh => pollSocket H budget 1
  | .socket attempts => pollSocket H budget attempts
  | .yielded => pollSocket H budget 0

/-- Where the task of `recv_loop` stands. -/
inductive Point
  | top
  | locking
  | selecting (future : Suspension)
  /-- the 100 ms behind an error -/
  | pausing
  | stopped
  | panicked
deriving DecidableEq, Repr

/-- What the task finds when it goes on: the flag `stop`, whether another task has the lock,
whether the timer it waits for has elapsed, which branch `select!` polls first, and how often
the socket is ready. -/
structure Wake where
  stop : Bool
  locked : Bool
  elapsed : Bool
  recvFirst : Bool
  budget : Nat

inductive Event
  | arrive (item : Incoming)
  | wake (w : Wake)

structure RecvLoop where
  shared : Shared
  point : Point

/-- Where `recv_loop` goes on behind a poll of `recv`. -/
def Polled.point (r : Polled) (elapsed : Bool) : Point :=
  match r.poll with
  -- the other branch of `select!`: if the timer has elapsed the future is dropped
  | .pending future => if elapsed then .top else .selecting future
  | .ok n _ => if (recvLoopPayload r.shared.buf n).isSome then .top else .panicked
  | .err => .pausing
  | .panicked => .panicked

def Polled.dispatch (r : Polled) : List Act :=
  match r.poll with
  | .ok n addr => [.dispatch n addr r.shared.buf]
  | _ => []

/-- `recv_loop` from one point to the next. -/
def RecvLoop.wake (H : HmacSha256) (s : RecvLoop) (w : Wake) : RecvLoop × List Act :=
  match s.point with
  | .top => (⟨s.shared, if w.stop then .stopped else .locking⟩, [])
  | .locking => (⟨s.shared, if w.locked then .locking else .selecting .fresh⟩, [])
  | .selecting future =>
    if w.elapsed && !w.recvFirst then (⟨s.shared, .top⟩, [])
    else
      let r := pollRecv H w.budget future s.shared
      (⟨r.shared, r.point w.elapsed⟩, r.acts ++ r.dispatch)
  | .pausing => (⟨s.shared, if w.elapsed then .top else .pausing⟩, [])
  | .stopped => (s, [])
  | .panicked => (s, [])

/-- The socket and `recv_loop`. -/
def recvLoop (H : HmacSha256) : Machine RecvLoop Event (List Act) where
  step s
    | .arrive item => (⟨{ s.shared with socket := s.shared.socket ++ [item] }, s.point⟩, [])
    | .wake w => s.wake H w

/-- `recv_loop` at its start. -/
def startLoop (p : UdpProtocol) : RecvLoop := ⟨⟨[], p, recvBuf⟩, .top⟩

/-- All that is done in a run. -/
def loopTrace (H : HmacSha256) (s : RecvLoop) (events : List Event) : List Act :=
  ((recvLoop H).outputs s events).flatten

/-! ## What is to hold of a trace -/

/-- What an act makes of `nonces`. -/
def Act.apply (nonces : List (String × Nat)) : Act → List (String × Nat)
  | .retain cutoff => nonces.filter fun e => e.2 > cutoff
  | .push entry => nonces ++ [entry]
  | _ => nonces

/-- A datagram that is read, and what is done until the next one is. -/
structure Handling where
  arrival : Arrival
  acts : List Act

def Handling.trace (h : Handling) : List Act := .read h.arrival :: h.acts

/-- A trace cut at its reads: what is in front of the first, and what is behind each. -/
def handlings : List Act → List Act × List Handling
  | [] => ([], [])
  | .read a :: acts => ([], ⟨a, (handlings acts).1⟩ :: (handlings acts).2)
  | act :: acts => (act :: (handlings acts).1, (handlings acts).2)

/-- The entry of a datagram in `nonces`. -/
def Arrival.entry (a : Arrival) : String × Nat := (hex (nonce a.bytes), a.now)

def Act.dispatched : Act → Option (Nat × SocketAddr × List UInt8)
  | .dispatch n addr buf => some (n, addr, buf)
  | _ => none

/-- What has become of the datagram, in the terms of `recv`. -/
def Handling.outcome (h : Handling) : Outcome :=
  (h.acts.findSome? Act.dispatched).elim .skipped fun dispatch => .ok dispatch.1

/-- The nonce of the datagram is recorded exactly if it is dispatched, once, with its own
length and address and with its own bytes in the buffer.  Nothing else is recorded or
dispatched. -/
structure Handling.CancelSafe (h : Handling) : Prop where
  recorded_iff : .push h.arrival.entry ∈ h.acts ↔
    ∃ buf, h.acts.filterMap Act.dispatched = [(h.arrival.bytes.length, h.arrival.addr, buf)] ∧
      buf.take h.arrival.bytes.length = h.arrival.bytes
  not_recorded : .push h.arrival.entry ∉ h.acts → h.acts.filterMap Act.dispatched = []
  own : ∀ entry, .push entry ∈ h.acts → entry = h.arrival.entry

def Incoming.arrival : Incoming → Option Arrival
  | .datagram a => some a
  | .error => none

def datagrams (socket : List Incoming) : List Arrival := socket.filterMap Incoming.arrival

def Event.incoming : Event → Option Incoming
  | .arrive item => some item
  | .wake _ => none

/-- The datagrams that arrive in a run. -/
def arrived (events : List Event) : List Arrival := datagrams (events.filterMap Event.incoming)

/-! ## Lemmas -/

/-! ### One pass -/

theorem checkNonceActs_take (p : UdpProtocol) (d : List UInt8) (now : Nat) :
    p.checkNonceActs (d.take headerSize) now = p.checkNonceActs d now := by
  unfold UdpProtocol.checkNonceActs
  rw [nonce_take, timestamp_take]

theorem recvPassActs_eq (H : HmacSha256) (p : UdpProtocol) (buf : List UInt8) (now : Nat)
    (d : List UInt8) (h : d.length ≤ buf.length) :
    recvPassActs H p buf now d = if authentic H p.psk d then p.checkNonceActs d now else [] := by
  unfold recvPassActs authentic
  rw [recvFrom_of_le buf d h]
  simp only
  by_cases hn : d.length < minMessageSize
  · rw [if_pos hn, decide_eq_false (by omega)]
    rfl
  · obtain ⟨hheader, hpayload, htag, hsigned⟩ := slices_append d (buf.drop d.length) (by omega)
    rw [if_neg hn, decide_eq_true (by omega), Bool.true_and, hheader, hpayload, htag]
    simp only [Option.bind_eq_bind, Option.bind_some, hsigned, checkNonceActs_take,
      UdpProtocol.verify]
    cases H.verifySlice p.psk (d.take (d.length - hmacSize)) (d.drop (d.length - hmacSize)) with
    | false => rfl
    | true => rfl

theorem checkNonceActs_nonces (p : UdpProtocol) (d : List UInt8) (now : Nat) :
    (p.checkNonceActs d now).foldl Act.apply p.nonces = (p.checkNonce d now).1.nonces := by
  unfold UdpProtocol.checkNonceActs UdpProtocol.checkNonce
  simp only
  split
  · rfl
  · split
    · rfl
    · rfl

/-- A nonce is pushed exactly if `check_nonce` returns true. -/
theorem checkNonceActs_cases (p : UdpProtocol) (d : List UInt8) (now : Nat) :
    ((p.checkNonce d now).2 = true ∧
        p.checkNonceActs d now = [.retain (now - replayWindowSecs), .push (hex (nonce d), now)]) ∨
      ((p.checkNonce d now).2 = false ∧
        ∀ act ∈ p.checkNonceActs d now, act = .retain (now - replayWindowSecs)) := by
  unfold UdpProtocol.checkNonceActs UdpProtocol.checkNonce
  simp only
  split
  · exact .inr ⟨rfl, fun act hact => by cases hact⟩
  · split
    · exact .inr ⟨rfl, fun act hact => List.mem_singleton.mp hact⟩
    · exact .inl ⟨rfl, rfl⟩

theorem recvPassActs_nonces (H : HmacSha256) (p : UdpProtocol) (buf : List UInt8) (now : Nat)
    (d : List UInt8) (h : d.length ≤ buf.length) :
    (recvPassActs H p buf now d).foldl Act.apply p.nonces = (recvFrame H p now d).1.nonces := by
  rw [recvPassActs_eq H p buf now d h]
  unfold recvFrame
  split
  · exact checkNonceActs_nonces p d now
  · rfl

/-- A nonce is pushed exactly if the pass returns. -/
theorem recvPassActs_cases (H : HmacSha256) (p : UdpProtocol) (buf : List UInt8) (now : Nat)
    (d : List UInt8) (h : d.length ≤ buf.length) :
    ((recvFrame H p now d).2 = some d.length ∧ minMessageSize ≤ d.length ∧
        recvPassActs H p buf now d =
          [.retain (now - replayWindowSecs), .push (hex (nonce d), now)]) ∨
      ((recvFrame H p now d).2 = none ∧
        ∀ act ∈ recvPassActs H p buf now d, act = .retain (now - replayWindowSecs)) := by
  rw [recvPassActs_eq H p buf now d h]
  unfold recvFrame
  by_cases hauth : authentic H p.psk d = true
  · have hlen : minMessageSize ≤ d.length :=
      of_decide_eq_true (Bool.and_eq_true_iff.mp hauth).1
    rw [if_pos hauth, if_pos hauth]
    simp only
    rcases checkNonceActs_cases p d now with ⟨hfresh, hacts⟩ | ⟨hseen, hacts⟩
    · exact .inl ⟨if_pos hfresh, hlen, hacts⟩
    · exact .inr ⟨if_neg (by rw [hseen]; exact Bool.false_ne_true), hacts⟩
  · rw [if_neg hauth, if_neg hauth]
    exact .inr ⟨rfl, fun act hact => by cases hact⟩

/-! ### Handlings -/

theorem outcome_skipped (a : Arrival) (acts : List Act) (cutoff : Nat)
    (h : ∀ act ∈ acts, act = .retain cutoff) : Handling.outcome ⟨a, acts⟩ = .skipped := by
  have hnone : acts.findSome? Act.dispatched = none := by
    rw [List.findSome?_eq_none_iff]
    intro act hact
    rw [h act hact]
    rfl
  unfold Handling.outcome
  rw [hnone]
  rfl

/-- A datagram that is skipped. -/
theorem cancelSafe_skipped (a : Arrival) (acts : List Act) (cutoff : Nat)
    (h : ∀ act ∈ acts, act = .retain cutoff) : Handling.CancelSafe ⟨a, acts⟩ := by
  have hpush : ∀ entry, .push entry ∉ acts := by
    intro entry hmem
    cases h _ hmem
  have hnone : acts.filterMap Act.dispatched = [] := by
    rw [List.filterMap_eq_nil_iff]
    intro act hact
    rw [h act hact]
    rfl
  refine ⟨⟨fun hmem => absurd hmem (hpush _), ?_⟩, fun _ => hnone,
    fun entry hmem => absurd hmem (hpush entry)⟩
  rintro ⟨buf, hone, -⟩
  rw [hnone] at hone
  cases hone

/-- A datagram that is recorded and dispatched. -/
theorem cancelSafe_accepted (a : Arrival) (cutoff : Nat) (tail : List UInt8) :
    Handling.CancelSafe ⟨a, [.retain cutoff, .push a.entry,
      .dispatch a.bytes.length a.addr (a.bytes ++ tail)]⟩ := by
  have hmem : Act.push a.entry ∈ [.retain cutoff, .push a.entry,
      .dispatch a.bytes.length a.addr (a.bytes ++ tail)] := by simp
  refine ⟨⟨fun _ => ⟨a.bytes ++ tail, rfl, List.take_left⟩, fun _ => hmem⟩,
    fun hno => absurd hmem hno, ?_⟩
  intro entry hentry
  simpa using hentry

/-- Handlings put one behind the other are found again. -/
theorem handlings_flatMap (hs : List Handling) (h : ∀ x ∈ hs, ∀ a, .read a ∉ x.acts) :
    handlings (hs.flatMap Handling.trace) = ([], hs) := by
  have happend : ∀ (acts rest : List Act), (∀ a, .read a ∉ acts) →
      handlings (acts ++ rest) = (acts ++ (handlings rest).1, (handlings rest).2) := by
    intro acts rest hacts
    induction acts with
    | nil => rfl
    | cons act acts ih =>
      have hrest := ih fun a hmem => hacts a (List.mem_cons_of_mem _ hmem)
      rw [List.cons_append, handlings, hrest]
      · rfl
      · intro a ha
        exact hacts a (ha ▸ List.mem_cons_self)
  induction hs with
  | nil => rfl
  | cons x hs ih =>
    rw [List.flatMap_cons, Handling.trace, List.cons_append, handlings,
      happend x.acts _ (h x List.mem_cons_self), ih fun y hy => h y (List.mem_cons_of_mem _ hy)]
    simp only [List.append_nil]

/-! ### What a part of a run does -/

/-- From `s` to `s'`, with `incoming` new at the socket, the datagrams of `hs` are handled one
after the other, with the outcomes and the state that `recv` called again and again has of them,
wherever its futures are dropped. -/
structure Handles (H : HmacSha256) (s s' : Shared) (incoming : List Arrival) (trace : List Act)
    (hs : List Handling) : Prop where
  trace_eq : trace = hs.flatMap Handling.trace
  safe : ∀ h ∈ hs, h.CancelSafe
  no_read : ∀ h ∈ hs, ∀ a, .read a ∉ h.acts
  nonces : trace.foldl Act.apply s.proto.nonces = s'.proto.nonces
  state : (recvMachine H).after (s.proto, s.buf) (hs.map Handling.arrival) = (s'.proto, s'.buf)
  outcomes : (recvMachine H).outputs (s.proto, s.buf) (hs.map Handling.arrival) =
    hs.map Handling.outcome
  queue : datagrams s.socket ++ incoming = hs.map Handling.arrival ++ datagrams s'.socket
  buffer : s.buf.length = 65535 → s'.buf.length = 65535

namespace Handles

variable {H : HmacSha256} {s s₁ s₂ : Shared} {incoming₁ incoming₂ : List Arrival}
  {trace₁ trace₂ : List Act} {hs₁ hs₂ : List Handling}

/-- Nothing is handled. -/
theorem of_socket (socket : List Incoming) (incoming : List Arrival)
    (h : datagrams s.socket ++ incoming = datagrams socket) :
    Handles H s { s with socket := socket } incoming [] [] where
  trace_eq := rfl
  safe := fun h hmem => by cases hmem
  no_read := fun h hmem => by cases hmem
  nonces := rfl
  state := rfl
  outcomes := rfl
  queue := h
  buffer := id

theorem refl (s : Shared) : Handles H s s [] [] [] :=
  of_socket s.socket [] (List.append_nil _)

theorem trans (h₁ : Handles H s s₁ incoming₁ trace₁ hs₁) (h₂ : Handles H s₁ s₂ incoming₂ trace₂ hs₂) :
    Handles H s s₂ (incoming₁ ++ incoming₂) (trace₁ ++ trace₂) (hs₁ ++ hs₂) where
  trace_eq := by rw [h₁.trace_eq, h₂.trace_eq, List.flatMap_append]
  safe := fun h hmem => (List.mem_append.mp hmem).elim (h₁.safe h) (h₂.safe h)
  no_read := fun h hmem => (List.mem_append.mp hmem).elim (h₁.no_read h) (h₂.no_read h)
  nonces := by rw [List.foldl_append, h₁.nonces, h₂.nonces]
  state := by rw [List.map_append, Machine.after_append, h₁.state, h₂.state]
  outcomes := by rw [List.map_append, Machine.outputs_append, h₁.outcomes, h₁.state, h₂.outcomes,
    List.map_append]
  queue := by rw [← List.append_assoc, h₁.queue, List.append_assoc, h₂.queue, List.map_append,
    List.append_assoc]
  buffer := fun h => h₂.buffer (h₁.buffer h)

end Handles

/-- A datagram is read and handled. -/
theorem handles_pass (H : HmacSha256) (a : Arrival) (rest : List Incoming) (p : UdpProtocol)
    (buf : List UInt8) (last : List Act) (hbuf : buf.length = 65535)
    (hlast : last.foldl Act.apply (recvFrame H p a.now a.bytes).1.nonces =
      (recvFrame H p a.now a.bytes).1.nonces)
    (hread : ∀ b, .read b ∉ recvPassActs H p buf a.now a.bytes ++ last)
    (hout : (recvMachine H).out (p, buf) a =
      Handling.outcome ⟨a, recvPassActs H p buf a.now a.bytes ++ last⟩)
    (hsafe : Handling.CancelSafe ⟨a, recvPassActs H p buf a.now a.bytes ++ last⟩) :
    Handles H ⟨.datagram a :: rest, p, buf⟩
      ⟨rest, (recvFrame H p a.now a.bytes).1, a.bytes ++ buf.drop a.bytes.length⟩ []
      (.read a :: (recvPassActs H p buf a.now a.bytes ++ last))
      [⟨a, recvPassActs H p buf a.now a.bytes ++ last⟩] := by
  have hfits : a.bytes.length ≤ buf.length := by
    have := a.fits
    omega
  constructor
  · exact (List.append_nil _).symm
  · intro h hmem
    rw [List.mem_singleton.mp hmem]
    exact hsafe
  · intro h hmem
    rw [List.mem_singleton.mp hmem]
    exact hread
  · rw [List.foldl_cons, List.foldl_append]
    show last.foldl Act.apply
      ((recvPassActs H p buf a.now a.bytes).foldl Act.apply p.nonces) = _
    rw [recvPassActs_nonces H p buf a.now a.bytes hfits, hlast]
  · show (recvMachine H).next (p, buf) a = _
    rw [Machine.next, recvMachine_step H p buf a hfits]
  · exact congrArg (fun o => [o]) hout
  · exact List.append_nil _
  · intro _
    show (a.bytes ++ buf.drop a.bytes.length).length = 65535
    rw [List.length_append, List.length_drop]
    omega

theorem handles_skipped (H : HmacSha256) (a : Arrival) (rest : List Incoming) (p : UdpProtocol)
    (buf : List UInt8) (cutoff : Nat) (hbuf : buf.length = 65535)
    (hskip : (recvFrame H p a.now a.bytes).2 = none)
    (h : ∀ act ∈ recvPassActs H p buf a.now a.bytes, act = .retain cutoff) :
    Handles H ⟨.datagram a :: rest, p, buf⟩
      ⟨rest, (recvFrame H p a.now a.bytes).1, a.bytes ++ buf.drop a.bytes.length⟩ []
      (.read a :: recvPassActs H p buf a.now a.bytes)
      [⟨a, recvPassActs H p buf a.now a.bytes⟩] := by
  have hpass := handles_pass H a rest p buf [] hbuf rfl
  rw [List.append_nil] at hpass
  refine hpass (fun b hmem => ?_) ?_ (cancelSafe_skipped a _ cutoff h)
  · cases h _ hmem
  · rw [Machine.out, recvMachine_step H p buf a (by have := a.fits; omega), hskip,
      outcome_skipped a _ cutoff h]

theorem handles_accepted (H : HmacSha256) (a : Arrival) (rest : List Incoming) (p : UdpProtocol)
    (buf : List UInt8) (cutoff : Nat) (hbuf : buf.length = 65535)
    (hok : (recvFrame H p a.now a.bytes).2 = some a.bytes.length)
    (h : recvPassActs H p buf a.now a.bytes = [.retain cutoff, .push a.entry]) :
    ∃ hs, Handles H ⟨.datagram a :: rest, p, buf⟩
      ⟨rest, (recvFrame H p a.now a.bytes).1, a.bytes ++ buf.drop a.bytes.length⟩ []
      (.read a :: (recvPassActs H p buf a.now a.bytes ++
        [.dispatch a.bytes.length a.addr (a.bytes ++ buf.drop a.bytes.length)])) hs := by
  refine ⟨_, handles_pass H a rest p buf _ hbuf rfl (fun b hmem => ?_) ?_ ?_⟩
  · rw [h] at hmem
    simp at hmem
  · rw [Machine.out, recvMachine_step H p buf a (by have := a.fits; omega), hok, h]
    rfl
  · rw [h]
    exact cancelSafe_accepted a cutoff _

/-- What a poll of `recv` does, with what `recv_loop` then does in the same stretch. -/
structure PollSound (H : HmacSha256) (s : Shared) (r : Polled) : Prop where
  handles : ∃ hs, Handles H s r.shared [] (r.acts ++ r.dispatch) hs
  no_panic : ∀ elapsed, r.point elapsed ≠ .panicked

/-- **A poll, from whatever point.**  By induction on how often the socket is ready. -/
theorem pollSocket_sound (H : HmacSha256) (budget : Nat) :
    ∀ (attempts : Nat) (s : Shared), s.buf.length = 65535 →
      PollSound H s (pollSocket H budget attempts s) := by
  have hpending : ∀ (s : Shared) (future : Suspension),
      PollSound H s ⟨s, .pending future, []⟩ := by
    intro s future
    refine ⟨⟨[], Handles.refl s⟩, fun elapsed => ?_⟩
    cases elapsed <;> exact fun h => by cases h
  induction budget with
  | zero =>
    intro attempts s _
    exact hpending s _
  | succ budget ih =>
    rintro attempts ⟨socket, p, buf⟩ hbuf
    rw [pollSocket]
    match socket with
    | [] => exact hpending _ _
    | .error :: rest =>
      refine ⟨⟨[], Handles.of_socket rest [] (List.append_nil _)⟩, fun elapsed h => by cases h⟩
    | .datagram a :: rest =>
      have hfits : a.bytes.length ≤ buf.length := by
        have := a.fits
        have : buf.length = 65535 := hbuf
        omega
      simp only [recvPass_eq H p buf a.now a.bytes hfits]
      rcases recvPassActs_cases H p buf a.now a.bytes hfits with ⟨hok, hlen, hacts⟩ | ⟨hskip, hacts⟩
      · -- accepted: the poll is ready, and the loop goes on to the dispatch
        simp only [hok]
        refine ⟨handles_accepted H a rest p buf _ hbuf hok hacts, fun elapsed h => ?_⟩
        replace h : (if (recvLoopPayload (a.bytes ++ buf.drop a.bytes.length) a.bytes.length).isSome
          then Point.top else .panicked) = .panicked := h
        rw [recvLoopPayload_eq a.bytes _ hlen] at h
        cases h
      · -- skipped: the poll yields, or goes on at the socket
        have hskipped := handles_skipped H a rest p buf _ hbuf hskip hacts
        simp only [hskip]
        split
        · refine ⟨⟨_, hskipped.trans (Handles.refl _)⟩, fun elapsed => ?_⟩
          cases elapsed <;> exact fun h => by cases h
        · obtain ⟨⟨hs, hhs⟩, hpanic⟩ := ih (attempts + 1) ⟨rest, (recvFrame H p a.now a.bytes).1,
            a.bytes ++ buf.drop a.bytes.length⟩ (hskipped.buffer hbuf)
          have htrans := hskipped.trans hhs
          rw [← List.append_assoc] at htrans
          exact ⟨⟨_, htrans⟩, hpanic⟩

theorem pollRecv_sound (H : HmacSha256) (budget : Nat) (future : Suspension) (s : Shared)
    (h : s.buf.length = 65535) : PollSound H s (pollRecv H budget future s) := by
  cases future with
  | fresh => exact pollSocket_sound H budget 1 s h
  | socket attempts => exact pollSocket_sound H budget attempts s h
  | yielded => exact pollSocket_sound H budget 0 s h

/-! ### Runs -/

/-- One event, at any point. -/
theorem recvLoop_step (H : HmacSha256) (s : RecvLoop) (event : Event)
    (hbuf : s.shared.buf.length = 65535) (hpoint : s.point ≠ .panicked) :
    (∃ hs, Handles H s.shared ((recvLoop H).next s event).shared (arrived [event])
        ((recvLoop H).out s event) hs) ∧
      ((recvLoop H).next s event).point ≠ .panicked := by
  obtain ⟨shared, point⟩ := s
  cases event with
  | arrive item =>
    refine ⟨⟨[], Handles.of_socket _ _ ?_⟩, hpoint⟩
    exact List.filterMap_append.symm
  | wake w =>
    have hidle : ∃ hs, Handles H shared shared (arrived [.wake w]) [] hs := ⟨[], Handles.refl shared⟩
    cases point with
    | top =>
      refine ⟨hidle, ?_⟩
      show (if w.stop then Point.stopped else .locking) ≠ .panicked
      split <;> exact fun h => by cases h
    | locking =>
      refine ⟨hidle, ?_⟩
      show (if w.locked then Point.locking else .selecting .fresh) ≠ .panicked
      split <;> exact fun h => by cases h
    | pausing =>
      refine ⟨hidle, ?_⟩
      show (if w.elapsed then Point.top else .pausing) ≠ .panicked
      split <;> exact fun h => by cases h
    | stopped => exact ⟨hidle, hpoint⟩
    | panicked => exact absurd rfl hpoint
    | selecting future =>
      unfold Machine.next Machine.out
      show (∃ hs, Handles H shared (RecvLoop.wake H ⟨shared, .selecting future⟩ w).1.shared _
        (RecvLoop.wake H ⟨shared, .selecting future⟩ w).2 hs) ∧
        (RecvLoop.wake H ⟨shared, .selecting future⟩ w).1.point ≠ .panicked
      unfold RecvLoop.wake
      simp only
      split
      · -- the timer is polled first: the future is dropped unpolled
        exact ⟨hidle, fun h => by cases h⟩
      · obtain ⟨hhandles, hpanic⟩ := pollRecv_sound H w.budget future shared hbuf
        exact ⟨hhandles, hpanic w.elapsed⟩

/-- A whole run: the timeouts cut it anywhere and nothing is lost. -/
theorem recvLoop_handles (H : HmacSha256) (events : List Event) :
    ∀ s : RecvLoop, s.shared.buf.length = 65535 → s.point ≠ .panicked →
      (∃ hs, Handles H s.shared ((recvLoop H).after s events).shared (arrived events)
        (loopTrace H s events) hs) ∧ ((recvLoop H).after s events).point ≠ .panicked := by
  induction events with
  | nil =>
    intro s _ hpoint
    exact ⟨⟨[], Handles.refl _⟩, hpoint⟩
  | cons event events ih =>
    intro s hbuf hpoint
    obtain ⟨⟨hs₁, h₁⟩, hpoint₁⟩ := recvLoop_step H s event hbuf hpoint
    obtain ⟨⟨hs₂, h₂⟩, hpoint₂⟩ := ih _ (h₁.buffer hbuf) hpoint₁
    have htrans := h₁.trans h₂
    have harrived : arrived [event] ++ arrived events = arrived (event :: events) := by
      unfold arrived datagrams
      rw [← List.filterMap_append, ← List.filterMap_append]
      rfl
    rw [harrived] at htrans
    exact ⟨⟨_, htrans⟩, hpoint₂⟩

/-- A run from the start, with its trace cut at the reads. -/
theorem recvLoop_start (H : HmacSha256) (p : UdpProtocol) (events : List Event) :
    ∃ hs, handlings (loopTrace H (startLoop p) events) = ([], hs) ∧
      Handles H (startLoop p).shared ((recvLoop H).after (startLoop p) events).shared
        (arrived events) (loopTrace H (startLoop p) events) hs ∧
      ((recvLoop H).after (startLoop p) events).point ≠ .panicked := by
  obtain ⟨⟨hs, hhandles⟩, hpoint⟩ := recvLoop_handles H events (startLoop p) List.length_replicate
    (fun h => by cases h)
  refine ⟨hs, ?_, hhandles, hpoint⟩
  rw [hhandles.trace_eq]
  exact handlings_flatMap hs hhandles.no_read

/-- **The timeouts do not show.**  The datagrams read have the outcomes, and leave the nonces
and the buffer, of `recv` called again and again without a timeout. -/
theorem recvLoop_refines_recvMachine (H : HmacSha256) (p : UdpProtocol) (events : List Event) :
    let hs := (handlings (loopTrace H (startLoop p) events)).2
    let s := ((recvLoop H).after (startLoop p) events).shared
    arrived events = hs.map Handling.arrival ++ datagrams s.socket ∧
      (recvMachine H).outputs (p, recvBuf) (hs.map Handling.arrival) = hs.map Handling.outcome ∧
      (recvMachine H).after (p, recvBuf) (hs.map Handling.arrival) = (s.proto, s.buf) := by
  obtain ⟨hs, hcut, hhandles, -⟩ := recvLoop_start H p events
  simp only [hcut]
  exact ⟨hhandles.queue, hhandles.outcomes, hhandles.state⟩

/-! ### Main theorem -/

/-- **Dropping `recv` loses nothing.**  In every run of `recv_loop`, whatever arrives and
wherever the timeouts drop the future of `recv`: cut at its reads, the trace has nothing in front
of the first; of each datagram read, the nonce is recorded exactly if it is dispatched, once,
with its own length and bytes; the datagrams read and those still at the socket are all that
arrived, in order; `nonces` is what the trace makes of it; and there is no panic. -/
theorem recvLoop_cancel_safe (H : HmacSha256) (p : UdpProtocol) (events : List Event) :
    (handlings (loopTrace H (startLoop p) events)).1 = [] ∧
      (∀ h ∈ (handlings (loopTrace H (startLoop p) events)).2, h.CancelSafe) ∧
      arrived events =
        (handlings (loopTrace H (startLoop p) events)).2.map Handling.arrival ++
          datagrams ((recvLoop H).after (startLoop p) events).shared.socket ∧
      ((recvLoop H).after (startLoop p) events).shared.proto.nonces =
        (loopTrace H (startLoop p) events).foldl Act.apply p.nonces ∧
      ((recvLoop H).after (startLoop p) events).point ≠ .panicked := by
  obtain ⟨hs, hcut, hhandles, hpoint⟩ := recvLoop_start H p events
  rw [hcut]
  exact ⟨rfl, hhandles.safe, hhandles.queue, hhandles.nonces.symm, hpoint⟩

end NomadP2P.Protocol
