import NomadP2P.Lib.Bytes
import NomadP2P.Lib.Machine
import NomadP2P.Common
import NomadP2P.Ipv4

/-!
# The authenticated UDP protocol (`agent/src/protocol.rs`)

A frame is a 16-byte header (8 bytes of seconds, 8 bytes of nonce), the payload
and the HMAC-SHA256 of both.  `recv` reads datagrams into a reused buffer until
one is long enough, verifies, and has a nonce that `check_nonce` has not seen
in its window.  HMAC-SHA256 is the `hmac` crate's and stays a parameter.

`recvPass` is one pass of the loop in `recv`, and `recvMachine` takes passes over
the arriving datagrams one after another, which is what calling `recv` again
after each success does (`recv_eq`).  On a datagram `d` that fits the buffer a
pass depends on `d` alone, whatever the buffer held (`recvPass_eq`):

    d.length ≤ buf.length → recvPass H p buf now d = some (recvFrame H p now d …)
-/

namespace NomadP2P.Protocol

open Bytes

/-! ## Algorithm -/

/-- `Hmac<Sha256>`: the tag of some data under a key, and the check of a tag. -/
structure HmacSha256 where
  finalize : (key data : List UInt8) → List UInt8
  verifySlice : (key data tag : List UInt8) → Bool

/-- The socket is the list of arrivals the functions below take. -/
structure UdpProtocol where
  psk : List UInt8
  /-- accepted nonces in hexadecimal, each with the second it was accepted in -/
  nonces : List (String × Nat)
deriving DecidableEq, Repr

/-- `UdpProtocol::bind`, without the socket. -/
def bind (psk : String) : UdpProtocol := ⟨psk.toUTF8.data.toList, []⟩

def UdpProtocol.sign (p : UdpProtocol) (H : HmacSha256) (data : List UInt8) : List UInt8 :=
  H.finalize p.psk data

def UdpProtocol.verify (p : UdpProtocol) (H : HmacSha256) (data sig : List UInt8) : Bool :=
  H.verifySlice p.psk data sig

/-- `marshal`, behind the serialisation of the message: `now` is the clock,
`nonceBytes` the 8 random bytes. -/
def UdpProtocol.marshal (p : UdpProtocol) (H : HmacSha256) (payload : List UInt8) (now : Nat)
    (nonceBytes : List UInt8) : List UInt8 :=
  let header := beBytes 8 now ++ nonceBytes
  let signed := header ++ payload
  signed ++ p.sign H signed

/-- `u64::abs_diff`. -/
def absDiff (x y : Nat) : Nat := (x - y) + (y - x)

/-- The seconds in a header. -/
def timestamp (header : List UInt8) : Nat := beNat (header.take 8)

/-- The nonce bytes of a header. -/
def nonce (header : List UInt8) : List UInt8 := (header.drop 8).take 8

def UdpProtocol.checkNonce (p : UdpProtocol) (header : List UInt8) (now : Nat) :
    UdpProtocol × Bool :=
  let ts := timestamp header
  let nonce := hex (nonce header)
  if absDiff ts now > replayWindowSecs then (p, false)
  else
    let cutoff := now - replayWindowSecs
    let nonces := p.nonces.filter fun e => e.2 > cutoff
    if nonces.any fun e => e.1 == nonce then ({ p with nonces }, false)
    else ({ p with nonces := nonces ++ [(nonce, now)] }, true)

/-- `socket.recv_from(buf)`: the datagram goes to the front of the buffer, what is
behind it stays, and what does not fit is lost. -/
def recvFrom (buf d : List UInt8) : List UInt8 × Nat :=
  let n := min d.length buf.length
  (d.take n ++ buf.drop n, n)

/-- `&buf[i..j]`; `none` is the panic of a bound that does not hold. -/
def slice (buf : List UInt8) (i j : Nat) : Option (List UInt8) :=
  if i ≤ j ∧ j ≤ buf.length then some ((buf.drop i).take (j - i)) else none

/-- One pass of the loop in `recv`: `some n` in the last place is
`return Ok((n, addr))`, `none` there is `continue`; `none` for the whole is a panic. -/
def recvPass (H : HmacSha256) (p : UdpProtocol) (buf : List UInt8) (now : Nat) (d : List UInt8) :
    Option (UdpProtocol × List UInt8 × Option Nat) :=
  let (buf, n) := recvFrom buf d
  if n < minMessageSize then some (p, buf, none)
  else do
    let headerRaw ← slice buf 0 headerSize
    let payload ← slice buf headerSize (n - hmacSize)
    let sig ← slice buf (n - hmacSize) n
    if !p.verify H (headerRaw ++ payload) sig then some (p, buf, none)
    else
      let (p, fresh) := p.checkNonce headerRaw now
      if !fresh then some (p, buf, none) else some (p, buf, some n)

/-- A datagram on the socket, with the second in which it is handled.  The length
field of UDP over IPv4 leaves room for 65507 bytes. -/
structure Arrival where
  now : Nat
  addr : SocketAddr
  bytes : List UInt8
  fits : bytes.length ≤ 65507
deriving DecidableEq, Repr

def maxRecvAttempts : Nat := 16

/-- Where a call of `recv` stands once the arrivals are used up or it is over. -/
inductive RecvResult
  | waiting (p : UdpProtocol) (buf : List UInt8)
  | ok (n : Nat) (addr : SocketAddr) (p : UdpProtocol) (buf : List UInt8) (rest : List Arrival)
  | panicked

/-- `UdpProtocol::recv`.  After sixteen passes the task yields once; that changes
nothing the loop reads but the counter. -/
def recv (H : HmacSha256) : UdpProtocol → List UInt8 → (attempts : Nat) → List Arrival → RecvResult
  | p, buf, _, [] => .waiting p buf
  | p, buf, attempts, a :: rest =>
    let attempts := attempts + 1
    let attempts := if attempts > maxRecvAttempts then 0 else attempts
    match recvPass H p buf a.now a.bytes with
    | none => .panicked
    | some (p, buf, some n) => .ok n a.addr p buf rest
    | some (p, buf, none) => recv H p buf attempts rest

/-- What happens to one arrival. -/
inductive Outcome
  | ok (n : Nat)
  | skipped
  | panicked
deriving DecidableEq, Repr

/-- `recv` called again and again, one arrival at a time. -/
def recvMachine (H : HmacSha256) : Machine (UdpProtocol × List UInt8) Arrival Outcome where
  step s a :=
    match recvPass H s.1 s.2 a.now a.bytes with
    | none => (s, .panicked)
    | some (p, buf, some n) => ((p, buf), .ok n)
    | some (p, buf, none) => ((p, buf), .skipped)

/-- The buffer of `recv_loop`: `vec![0u8; 65535]`. -/
def recvBuf : List UInt8 := List.replicate 65535 0

/-! ## One pass -/

/-- The last `hmacSize` bytes of `d` are a tag of the bytes before them. -/
def authentic (H : HmacSha256) (psk d : List UInt8) : Bool :=
  decide (minMessageSize ≤ d.length) &&
    H.verifySlice psk (d.take (d.length - hmacSize)) (d.drop (d.length - hmacSize))

/-- A pass on the datagram alone. -/
def recvFrame (H : HmacSha256) (p : UdpProtocol) (now : Nat) (d : List UInt8) :
    UdpProtocol × Option Nat :=
  if authentic H p.psk d then
    let (p, fresh) := p.checkNonce d now
    (p, if fresh then some d.length else none)
  else (p, none)

theorem recvFrom_of_le (buf d : List UInt8) (h : d.length ≤ buf.length) :
    recvFrom buf d = (d ++ buf.drop d.length, d.length) := by
  unfold recvFrom
  simp only [Nat.min_eq_left h, List.take_length]

theorem slice_append_left (d tail : List UInt8) (i j : Nat) (hij : i ≤ j) (hj : j ≤ d.length) :
    slice (d ++ tail) i j = some ((d.drop i).take (j - i)) := by
  unfold slice
  rw [if_pos ⟨hij, by rw [List.length_append]; omega⟩, List.drop_append_of_le_length (by omega),
    List.take_append_of_le_length (by rw [List.length_drop]; omega)]

theorem nonce_take (d : List UInt8) : nonce (d.take headerSize) = nonce d := by
  unfold nonce headerSize
  rw [List.drop_take, List.take_take]
  rfl

theorem timestamp_take (d : List UInt8) : timestamp (d.take headerSize) = timestamp d := by
  unfold timestamp headerSize
  rw [List.take_take]
  rfl

/-- `check_nonce` reads nothing behind the header. -/
theorem checkNonce_take (p : UdpProtocol) (d : List UInt8) (now : Nat) :
    p.checkNonce (d.take headerSize) now = p.checkNonce d now := by
  unfold UdpProtocol.checkNonce
  rw [nonce_take, timestamp_take]

/-- The three slices of a pass, in a buffer that begins with a long enough datagram: header and
payload are the bytes before the tag, the tag is the rest. -/
theorem slices_append (d tail : List UInt8) (h : minMessageSize ≤ d.length) :
    slice (d ++ tail) 0 headerSize = some (d.take headerSize) ∧
      slice (d ++ tail) headerSize (d.length - hmacSize) =
        some ((d.drop headerSize).take (d.length - hmacSize - headerSize)) ∧
      slice (d ++ tail) (d.length - hmacSize) d.length = some (d.drop (d.length - hmacSize)) ∧
      d.take headerSize ++ (d.drop headerSize).take (d.length - hmacSize - headerSize) =
        d.take (d.length - hmacSize) := by
  unfold minMessageSize headerSize hmacSize at *
  refine ⟨?_, ?_, ?_, ?_⟩
  · rw [slice_append_left d tail 0 16 (by omega) (by omega)]
    rfl
  · exact slice_append_left d tail 16 (d.length - 32) (by omega) (by omega)
  · rw [slice_append_left d tail (d.length - 32) d.length (by omega) (by omega),
      List.take_of_length_le (by rw [List.length_drop])]
  · rw [← List.take_add]
    congr 1
    omega

/-- **One pass, whatever the buffer held.** -/
theorem recvPass_eq (H : HmacSha256) (p : UdpProtocol) (buf : List UInt8) (now : Nat)
    (d : List UInt8) (h : d.length ≤ buf.length) :
    recvPass H p buf now d =
      some ((recvFrame H p now d).1, d ++ buf.drop d.length, (recvFrame H p now d).2) := by
  unfold recvPass recvFrame authentic
  rw [recvFrom_of_le buf d h]
  simp only
  by_cases hn : d.length < minMessageSize
  · rw [if_pos hn, decide_eq_false (by omega)]
    rfl
  · obtain ⟨hheader, hpayload, htag, hsigned⟩ := slices_append d (buf.drop d.length) (by omega)
    rw [if_neg hn, decide_eq_true (by omega), Bool.true_and, hheader, hpayload, htag]
    simp only [Option.bind_eq_bind, Option.bind_some, hsigned, checkNonce_take, UdpProtocol.verify]
    cases hv : H.verifySlice p.psk (d.take (d.length - hmacSize)) (d.drop (d.length - hmacSize)) with
    | false => rfl
    | true =>
      simp only [Bool.not_true, Bool.false_eq_true, if_false, if_true]
      cases hc : (p.checkNonce d now).2 <;> rfl

/-! ## `recv` and the machine of its passes -/

theorem recvMachine_step (H : HmacSha256) (p : UdpProtocol) (buf : List UInt8) (a : Arrival)
    (h : a.bytes.length ≤ buf.length) :
    (recvMachine H).step (p, buf) a =
      (((recvFrame H p a.now a.bytes).1, a.bytes ++ buf.drop a.bytes.length),
        match (recvFrame H p a.now a.bytes).2 with
        | some n => .ok n
        | none => .skipped) := by
  show (match recvPass H p buf a.now a.bytes with
    | none => ((p, buf), Outcome.panicked)
    | some (p, buf, some n) => ((p, buf), .ok n)
    | some (p, buf, none) => ((p, buf), .skipped)) = _
  rw [recvPass_eq H p buf a.now a.bytes h]
  cases (recvFrame H p a.now a.bytes).2 <;> rfl

/-- A call of `recv` ends at the first arrival that is not skipped. -/
theorem recv_eq_first (H : HmacSha256) (arrivals : List Arrival) :
    ∀ (p : UdpProtocol) (buf : List UInt8) (attempts n : Nat) (addr : SocketAddr) (p' : UdpProtocol)
      (buf' : List UInt8) (rest : List Arrival),
      recv H p buf attempts arrivals = .ok n addr p' buf' rest ↔
        ∃ a, a.addr = addr ∧ (recvMachine H).first (fun o => decide (o ≠ .skipped)) (p, buf) arrivals =
          some ((p', buf'), a, .ok n, rest) := by
  induction arrivals with
  | nil =>
    intro p buf attempts n addr p' buf' rest
    constructor
    · intro h; cases h
    · rintro ⟨a, -, h⟩; cases h
  | cons a arrivals ih =>
    intro p buf attempts n addr p' buf' rest
    have hstep : (recvMachine H).step (p, buf) a =
        match recvPass H p buf a.now a.bytes with
        | none => ((p, buf), Outcome.panicked)
        | some (p, buf, some n) => ((p, buf), .ok n)
        | some (p, buf, none) => ((p, buf), .skipped) := rfl
    unfold recv Machine.first Machine.out Machine.next
    rw [hstep]
    cases hp : recvPass H p buf a.now a.bytes with
    | none => simp
    | some r =>
      obtain ⟨p1, buf1, o⟩ := r
      cases o with
      | some m =>
        simp only [RecvResult.ok.injEq, ne_eq, reduceCtorEq, not_false_eq_true, decide_true, if_true,
          Option.some.injEq, Prod.mk.injEq, Outcome.ok.injEq]
        constructor
        · rintro ⟨rfl, rfl, rfl, rfl, rfl⟩
          exact ⟨a, rfl, ⟨rfl, rfl⟩, rfl, rfl, rfl⟩
        · rintro ⟨_, rfl, ⟨rfl, rfl⟩, rfl, rfl, rfl⟩
          exact ⟨rfl, rfl, rfl, rfl, rfl⟩
      | none =>
        simp only [ne_eq, not_true_eq_false, decide_false, Bool.false_eq_true, if_false]
        exact ih p1 buf1 _ n addr p' buf' rest

/-- **A call of `recv`** skips arrivals until the machine accepts one, and leaves
the machine's state behind that arrival for the next call. -/
theorem recv_eq (H : HmacSha256) (arrivals : List Arrival) (p : UdpProtocol) (buf : List UInt8)
    (attempts n : Nat) (addr : SocketAddr) (p' : UdpProtocol) (buf' : List UInt8)
    (rest : List Arrival) :
    recv H p buf attempts arrivals = .ok n addr p' buf' rest ↔
      ∃ pre a, arrivals = pre ++ a :: rest ∧ a.addr = addr ∧
        (∀ o ∈ (recvMachine H).outputs (p, buf) pre, o = .skipped) ∧
        (recvMachine H).out ((recvMachine H).after (p, buf) pre) a = .ok n ∧
        (recvMachine H).after (p, buf) (pre ++ [a]) = (p', buf') := by
  rw [recv_eq_first]
  simp only [Machine.first_eq_some_iff, decide_eq_false_iff_not, not_not]
  constructor
  · rintro ⟨a, haddr, pre, hsplit, hskip, hok, -, hend⟩
    exact ⟨pre, a, hsplit, haddr, hskip, hok, hend⟩
  · rintro ⟨pre, a, hsplit, haddr, hskip, hok, hend⟩
    exact ⟨a, haddr, pre, hsplit, hskip, hok, by simp, hend⟩

end NomadP2P.Protocol
