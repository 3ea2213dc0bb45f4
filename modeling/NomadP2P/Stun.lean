import NomadP2P.Lib.Bytes
import NomadP2P.Ipv4

/-!
# STUN responses (`agent/src/stun.rs`)

`parseStunResponse` walks the attributes of a Binding Success Response and decodes the
first MAPPED-ADDRESS (0x0001) or XOR-MAPPED-ADDRESS (0x0020) of at least eight
bytes.  An index outside the datagram panics in the source and is
`Fault.outOfBounds` here.

`Attr` is an attribute as it is sent, `response` the message that carries a list of
them.  On such a message the walk stays on the attribute boundaries: one attribute
is either decoded or stepped over (`walk_attr`), and a list of attributes that
are stepped over ends behind its last byte (`walk_skip`).

An address value is a reserved byte, the family, the port and the address.  The
source reads the port where the reserved byte and the family are, and the
address two bytes early, so it returns the endpoint that was sent for one
endpoint only (`parse_address_iff`).
-/

namespace NomadP2P.Stun

open Bytes

/-! ## Algorithm -/

def stunMagicCookie : Nat := 0x2112A442

structure StunResult where
  publicIp : Ipv4Addr
  publicPort : UInt16
deriving DecidableEq, Repr

/-- How a parse ends without a result: `anyhow::bail!`, or a panicking index. -/
inductive Fault
  | bail (msg : String)
  | outOfBounds
deriving DecidableEq, Repr

/-- `data[i]`. -/
def idx (data : List UInt8) (i : Nat) : Except Fault UInt8 :=
  match data[i]? with
  | some b => .ok b
  | none => .error .outOfBounds

/-- `u16::from_be_bytes([x, y])`. -/
def be16 (x y : UInt8) : UInt16 := UInt16.ofNat (beNat [x, y])

/-- `off += 4 + attr_len`, and on to the next multiple of four. -/
def nextOff (off attrLen : Nat) : Nat :=
  if attrLen % 4 ≠ 0 then off + 4 + attrLen + (4 - attrLen % 4) else off + 4 + attrLen

theorem lt_nextOff (off attrLen : Nat) : off < nextOff off attrLen := by
  unfold nextOff
  split <;> omega

/-- The attribute loop, at offset `off`. -/
def walk (data : List UInt8) (len off : Nat) : Except Fault StunResult :=
  if off + 4 ≤ 20 + len then do
    let attrType := be16 (← idx data off) (← idx data (off + 1))
    let attrLen := (be16 (← idx data (off + 2)) (← idx data (off + 3))).toNat
    if (attrType = 0x0001 ∨ attrType = 0x0020) ∧ attrLen ≥ 8 then
      let port := be16 (← idx data (off + 4)) (← idx data (off + 5))
      let i0 ← idx data (off + 6)
      let i1 ← idx data (off + 7)
      let i2 ← idx data (off + 8)
      let i3 ← idx data (off + 9)
      if attrType = 0x0020 then
        .ok ⟨⟨i0 ^^^ 0x21, i1 ^^^ 0x12, i2 ^^^ 0xA4, i3 ^^^ 0x42⟩, port ^^^ 0x2112⟩
      else .ok ⟨⟨i0, i1, i2, i3⟩, port⟩
    else
      walk data len (nextOff off attrLen)
  else .error (.bail "no mapped address")
termination_by 20 + len - off
decreasing_by
  exact Nat.sub_lt_sub_left (by omega) (lt_nextOff _ _)

def parseStunResponse (data : List UInt8) : Except Fault StunResult :=
  if data.length < 20 then .error (.bail "too short")
  else do
    let msgType := be16 (← idx data 0) (← idx data 1)
    if msgType ≠ 0x0101 then .error (.bail "not binding response")
    else
      let len := (be16 (← idx data 2) (← idx data 3)).toNat
      walk data len 20

/-! ## Messages -/

/-- An attribute on the wire: type, length, value, padding to a multiple of four. -/
structure Attr where
  typ : UInt16
  value : List UInt8
  pad : List UInt8
  value_lt : value.length < 65536
  pad_len : pad.length = (4 - value.length % 4) % 4
deriving DecidableEq

def Attr.bytes (x : Attr) : List UInt8 :=
  beBytes 2 x.typ.toNat ++ beBytes 2 x.value.length ++ x.value ++ x.pad

/-- All attributes of a message, one behind the other. -/
def attrsBytes (attrs : List Attr) : List UInt8 := attrs.flatMap Attr.bytes

/-- A Binding Success Response with transaction id `tid`. -/
def response (tid : Vector UInt8 12) (attrs : List Attr) : List UInt8 :=
  beBytes 2 0x0101 ++ beBytes 2 (attrsBytes attrs).length ++ beBytes 4 stunMagicCookie ++ tid.toList ++
    attrsBytes attrs

/-- XOR-MAPPED-ADDRESS: 0, family 1, port and address under the magic cookie. -/
def xorMappedAddress (ip : Ipv4Addr) (port : UInt16) : Attr where
  typ := 0x0020
  value := [0, 1] ++ beBytes 2 (port.toNat ^^^ 0x2112) ++ beBytes 4 (ip.toU32.toNat ^^^ stunMagicCookie)
  pad := []
  value_lt := by simp [length_beBytes]
  pad_len := by simp [length_beBytes]

/-- MAPPED-ADDRESS: 0, family 1, port, address. -/
def mappedAddress (ip : Ipv4Addr) (port : UInt16) : Attr where
  typ := 0x0001
  value := [0, 1] ++ beBytes 2 port.toNat ++ ip.octets
  pad := []
  value_lt := by simp [length_beBytes, Ipv4Addr.octets]
  pad_len := by simp [length_beBytes, Ipv4Addr.octets]

/-- The loop stops at this attribute. -/
def Attr.isAddress (x : Attr) : Bool :=
  (x.typ == 0x0001 || x.typ == 0x0020) && decide (8 ≤ x.value.length)

/-- What the loop makes of the value of such an attribute: bytes 0 and 1 are taken
for the port, bytes 2 to 5 for the address. -/
def decodeValue (typ : UInt16) : List UInt8 → StunResult
  | v0 :: v1 :: v2 :: v3 :: v4 :: v5 :: _ =>
    if typ = 0x0020 then
      ⟨⟨v2 ^^^ 0x21, v3 ^^^ 0x12, v4 ^^^ 0xA4, v5 ^^^ 0x42⟩, be16 v0 v1 ^^^ 0x2112⟩
    else ⟨⟨v2, v3, v4, v5⟩, be16 v0 v1⟩
  | _ => ⟨⟨0, 0, 0, 0⟩, 0⟩

/-! ## Lemmas -/

theorem beBytes_two (n : Nat) : beBytes 2 n = [UInt8.ofNat (n / 256), UInt8.ofNat n] := rfl

theorem be16_toNat (x y : UInt8) : (be16 x y).toNat = x.toNat * 256 + y.toNat := by
  have hx := x.toNat_lt
  have hy := y.toNat_lt
  unfold be16 beNat
  rw [UInt16.toNat_ofNat', List.reverse_cons, List.reverse_cons, List.reverse_nil, List.nil_append,
    List.singleton_append, leNat_cons, leNat_cons]
  show (_ + 256 * (_ + 256 * 0)) % 2 ^ 16 = _
  omega

theorem be16_split (n : Nat) (h : n < 65536) :
    be16 (UInt8.ofNat (n / 256)) (UInt8.ofNat n) = UInt16.ofNat n := by
  apply UInt16.toNat_inj.mp
  rw [be16_toNat, UInt8.toNat_ofNat', UInt8.toNat_ofNat', UInt16.toNat_ofNat']
  omega

/-- Reading through a known remainder of the datagram. -/
theorem idx_of_drop (data bs : List UInt8) (off i : Nat) (b : UInt8) (h : data.drop off = bs)
    (hb : bs[i]? = some b) : idx data (off + i) = .ok b := by
  unfold idx
  rw [← List.getElem?_drop, h, hb]

theorem bytes_eq (x : Attr) (rest : List UInt8) :
    x.bytes ++ rest = UInt8.ofNat (x.typ.toNat / 256) :: UInt8.ofNat x.typ.toNat ::
      UInt8.ofNat (x.value.length / 256) :: UInt8.ofNat x.value.length ::
      (x.value ++ (x.pad ++ rest)) := by
  unfold Attr.bytes
  rw [beBytes_two, beBytes_two]
  simp

theorem bytes_length (x : Attr) : x.bytes.length = 4 + x.value.length + x.pad.length := by
  unfold Attr.bytes
  simp [length_beBytes]
  omega

theorem nextOff_eq (off : Nat) (x : Attr) : nextOff off x.value.length = off + x.bytes.length := by
  have := x.pad_len
  rw [bytes_length]
  unfold nextOff
  split <;> omega

/-- The four bytes in front of a value are its type and its length. -/
theorem idx_header (data : List UInt8) (off : Nat) (x : Attr) (rest : List UInt8)
    (h : data.drop off = x.bytes ++ rest) :
    ∃ b0 b1 b2 b3, idx data off = .ok b0 ∧ idx data (off + 1) = .ok b1 ∧
      idx data (off + 2) = .ok b2 ∧ idx data (off + 3) = .ok b3 ∧
      be16 b0 b1 = x.typ ∧ (be16 b2 b3).toNat = x.value.length := by
  rw [bytes_eq] at h
  refine ⟨_, _, _, _, idx_of_drop data _ off 0 _ h rfl, idx_of_drop data _ off 1 _ h rfl,
    idx_of_drop data _ off 2 _ h rfl, idx_of_drop data _ off 3 _ h rfl, ?_, ?_⟩
  · rw [be16_split _ x.typ.toNat_lt, UInt16.ofNat_toNat]
  · have := x.value_lt
    rw [be16_split _ x.value_lt, UInt16.toNat_ofNat']
    omega

/-- **One attribute.**  In front of an attribute the loop decodes it or goes to the
byte behind it. -/
theorem walk_attr (data : List UInt8) (len off : Nat) (x : Attr) (rest : List UInt8)
    (h : data.drop off = x.bytes ++ rest) (hoff : off + 4 ≤ 20 + len) :
    walk data len off =
      if x.isAddress then .ok (decodeValue x.typ x.value) else walk data len (off + x.bytes.length) := by
  obtain ⟨b0, b1, b2, b3, h0, h1, h2, h3, ht, hl⟩ := idx_header data off x rest h
  rw [bytes_eq] at h
  rw [walk, if_pos hoff, ← nextOff_eq]
  simp only [h0, h1, h2, h3, ht, hl, bind, Except.bind]
  unfold Attr.isAddress
  by_cases hc : (x.typ = 0x0001 ∨ x.typ = 0x0020) ∧ x.value.length ≥ 8
  · rw [if_pos hc, if_pos (by simpa using hc)]
    -- eight bytes of value at least, of which the loop reads six
    obtain ⟨v0, v1, v2, v3, v4, v5, tl, hv⟩ :
        ∃ v0 v1 v2 v3 v4 v5 tl, x.value = v0 :: v1 :: v2 :: v3 :: v4 :: v5 :: tl := by
      match hx : x.value, hc.2 with
      | v0 :: v1 :: v2 :: v3 :: v4 :: v5 :: tl, _ => exact ⟨v0, v1, v2, v3, v4, v5, tl, rfl⟩
    rw [hv] at h
    rw [idx_of_drop data _ off 4 _ h rfl, idx_of_drop data _ off 5 _ h rfl,
      idx_of_drop data _ off 6 _ h rfl, idx_of_drop data _ off 7 _ h rfl,
      idx_of_drop data _ off 8 _ h rfl, idx_of_drop data _ off 9 _ h rfl, hv]
    by_cases h20 : x.typ = 0x0020
    · simp only [decodeValue, h20, if_true]
    · simp only [decodeValue, h20, if_false]
  · rw [if_neg hc, if_neg (by simpa using hc)]

theorem attrsBytes_cons (x : Attr) (xs : List Attr) :
    attrsBytes (x :: xs) = x.bytes ++ attrsBytes xs := List.flatMap_cons

theorem attrsBytes_append (xs ys : List Attr) :
    attrsBytes (xs ++ ys) = attrsBytes xs ++ attrsBytes ys := List.flatMap_append

/-- **Attributes that are not addresses** are stepped over, one after the other. -/
theorem walk_skip (data : List UInt8) (len : Nat) (xs : List Attr) (rest : List UInt8)
    (hskip : ∀ x ∈ xs, x.isAddress = false) :
    ∀ off, data.drop off = attrsBytes xs ++ rest → off + (attrsBytes xs).length ≤ 20 + len →
      walk data len off = walk data len (off + (attrsBytes xs).length) := by
  induction xs with
  | nil => intro off _ _; rfl
  | cons x xs ih =>
    intro off h hoff
    rw [attrsBytes_cons, List.length_append] at hoff
    rw [attrsBytes_cons, List.append_assoc] at h
    have hx := bytes_length x
    rw [walk_attr data len off x _ h (by omega), hskip x List.mem_cons_self, if_neg (by simp)]
    have hd : data.drop (off + x.bytes.length) = attrsBytes xs ++ rest := by
      rw [← List.drop_drop, h, List.drop_left]
    rw [ih (fun y hy => hskip y (List.mem_cons_of_mem _ hy)) _ hd (by omega), attrsBytes_cons,
      List.length_append, Nat.add_assoc]

/-! ## Whole messages -/

theorem response_drop (tid : Vector UInt8 12) (attrs : List Attr) :
    (response tid attrs).drop 20 = attrsBytes attrs := by
  unfold response
  exact List.drop_left' (by simp [length_beBytes])

theorem response_length (tid : Vector UInt8 12) (attrs : List Attr) :
    (response tid attrs).length = 20 + (attrsBytes attrs).length := by
  unfold response
  simp [length_beBytes]
  omega

theorem parse_response (tid : Vector UInt8 12) (attrs : List Attr)
    (hsize : (attrsBytes attrs).length < 65536) :
    parseStunResponse (response tid attrs) =
      walk (response tid attrs) (attrsBytes attrs).length 20 := by
  have hlen := response_length tid attrs
  -- the first four bytes: message type and length
  obtain ⟨tl, htl⟩ : ∃ tl, response tid attrs =
      1 :: 1 :: UInt8.ofNat ((attrsBytes attrs).length / 256) ::
        UInt8.ofNat (attrsBytes attrs).length :: tl := ⟨_, by
    unfold response
    rw [beBytes_two, beBytes_two]
    simp only [List.cons_append, List.nil_append]
    rfl⟩
  have hn : (be16 (UInt8.ofNat ((attrsBytes attrs).length / 256))
      (UInt8.ofNat (attrsBytes attrs).length)).toNat = (attrsBytes attrs).length := by
    rw [be16_split _ hsize, UInt16.toNat_ofNat']
    omega
  unfold parseStunResponse
  rw [if_neg (by omega), htl]
  simp only [idx, List.getElem?_cons_zero, List.getElem?_cons_succ, bind, Except.bind, hn]
  rfl

/-- The first address attribute decides. -/
theorem parse_first_address (tid : Vector UInt8 12) (pre post : List Attr) (x : Attr)
    (hpre : ∀ y ∈ pre, y.isAddress = false) (hx : x.isAddress = true)
    (hsize : (attrsBytes (pre ++ x :: post)).length < 65536) :
    parseStunResponse (response tid (pre ++ x :: post)) = .ok (decodeValue x.typ x.value) := by
  have hsum : (attrsBytes (pre ++ x :: post)).length =
      (attrsBytes pre).length + (x.bytes.length + (attrsBytes post).length) := by
    rw [attrsBytes_append, attrsBytes_cons, List.length_append, List.length_append]
  have hd : (response tid (pre ++ x :: post)).drop 20 =
      attrsBytes pre ++ (x.bytes ++ attrsBytes post) := by
    rw [response_drop, attrsBytes_append, attrsBytes_cons]
  have hb := bytes_length x
  rw [parse_response _ _ hsize, walk_skip _ _ pre _ hpre 20 hd (by omega),
    walk_attr _ _ _ x (attrsBytes post) (by rw [← List.drop_drop, hd, List.drop_left]) (by omega), hx,
    if_pos rfl]

theorem beBytes_octets (ip : Ipv4Addr) : beBytes 4 ip.toU32.toNat = ip.octets := by
  rw [Ipv4Addr.toU32_toNat, beBytes, beNat]
  have h := leBytes_leNat ip.octets.reverse
  rw [show ip.octets.reverse.length = 4 from rfl] at h
  rw [h, List.reverse_reverse]

theorem xor_cancel (x k : UInt8) : x ^^^ k ^^^ k = x := by
  rw [UInt8.xor_assoc, UInt8.xor_self, UInt8.xor_zero]

/-- What the loop makes of an XOR-MAPPED-ADDRESS. -/
theorem decode_xorMappedAddress (ip : Ipv4Addr) (port : UInt16) :
    decodeValue (xorMappedAddress ip port).typ (xorMappedAddress ip port).value =
      ⟨⟨UInt8.ofNat (port.toNat / 256), UInt8.ofNat port.toNat, ip.a ^^^ 0x21 ^^^ 0xA4,
        ip.b ^^^ 0x12 ^^^ 0x42⟩, 0x2113⟩ := by
  have hv : (xorMappedAddress ip port).value =
      [0, 1, UInt8.ofNat (port.toNat / 256) ^^^ 0x21, UInt8.ofNat port.toNat ^^^ 0x12,
        ip.a ^^^ 0x21, ip.b ^^^ 0x12, ip.c ^^^ 0xA4, ip.d ^^^ 0x42] := by
    show [0, 1] ++ beBytes 2 (port.toNat ^^^ 0x2112) ++
      beBytes 4 (ip.toU32.toNat ^^^ stunMagicCookie) = _
    rw [beBytes_xor, beBytes_xor, beBytes_octets, beBytes_two]
    rfl
  rw [hv]
  show (⟨⟨_ ^^^ 0x21 ^^^ 0x21, _ ^^^ 0x12 ^^^ 0x12, _, _⟩, _⟩ : StunResult) = _
  rw [xor_cancel, xor_cancel]
  rfl

/-- What the loop makes of a MAPPED-ADDRESS. -/
theorem decode_mappedAddress (ip : Ipv4Addr) (port : UInt16) :
    decodeValue (mappedAddress ip port).typ (mappedAddress ip port).value =
      ⟨⟨UInt8.ofNat (port.toNat / 256), UInt8.ofNat port.toNat, ip.a, ip.b⟩, 1⟩ := rfl

/-- The endpoint 33.19.164.67:8467 is the one that decodes to itself. -/
theorem decode_xor_eq_iff (ip : Ipv4Addr) (port : UInt16) :
    decodeValue (xorMappedAddress ip port).typ (xorMappedAddress ip port).value = ⟨ip, port⟩ ↔
      ip = ⟨33, 19, 164, 67⟩ ∧ port = 8467 := by
  rw [decode_xorMappedAddress]
  constructor
  · intro h
    simp only [StunResult.mk.injEq] at h
    obtain ⟨hip, rfl⟩ := h
    obtain ⟨a, b, c, d⟩ := ip
    simp only [Ipv4Addr.mk.injEq] at hip
    obtain ⟨rfl, rfl, rfl, rfl⟩ := hip
    exact ⟨by decide, rfl⟩
  · rintro ⟨rfl, rfl⟩
    decide

/-- In plain form it is 0.1.0.1:1. -/
theorem decode_plain_eq_iff (ip : Ipv4Addr) (port : UInt16) :
    decodeValue (mappedAddress ip port).typ (mappedAddress ip port).value = ⟨ip, port⟩ ↔
      ip = ⟨0, 1, 0, 1⟩ ∧ port = 1 := by
  rw [decode_mappedAddress]
  constructor
  · intro h
    simp only [StunResult.mk.injEq] at h
    obtain ⟨hip, rfl⟩ := h
    obtain ⟨a, b, c, d⟩ := ip
    simp only [Ipv4Addr.mk.injEq] at hip
    obtain ⟨rfl, rfl, rfl, rfl⟩ := hip
    exact ⟨by decide, rfl⟩
  · rintro ⟨rfl, rfl⟩
    decide

theorem isAddress_of_other (x : Attr) (h : x.typ ≠ 0x0001 ∧ x.typ ≠ 0x0020) : x.isAddress = false := by
  simp [Attr.isAddress, h.1, h.2]

/-- **When the endpoint comes back.**  Behind attributes of other types, the endpoint
of an XOR-MAPPED-ADDRESS is returned exactly if it is 33.19.164.67:8467, that
of a MAPPED-ADDRESS exactly if it is 0.1.0.1:1. -/
theorem parse_address_iff (tid : Vector UInt8 12) (pre post : List Attr) (ip : Ipv4Addr)
    (port : UInt16) (hpre : ∀ x ∈ pre, x.typ ≠ 0x0001 ∧ x.typ ≠ 0x0020)
    (hsize : (attrsBytes pre).length + 12 + (attrsBytes post).length < 65536) :
    (parseStunResponse (response tid (pre ++ xorMappedAddress ip port :: post)) = .ok ⟨ip, port⟩ ↔
      ip = ⟨33, 19, 164, 67⟩ ∧ port = 8467) ∧
    (parseStunResponse (response tid (pre ++ mappedAddress ip port :: post)) = .ok ⟨ip, port⟩ ↔
      ip = ⟨0, 1, 0, 1⟩ ∧ port = 1) := by
  have hskip : ∀ y ∈ pre, y.isAddress = false := fun y hy => isAddress_of_other y (hpre y hy)
  have hlen : ∀ x : Attr, x.bytes.length = 12 → (attrsBytes (pre ++ x :: post)).length < 65536 := by
    intro x hx
    rw [attrsBytes_append, attrsBytes_cons, List.length_append, List.length_append, hx]
    omega
  have hx : (xorMappedAddress ip port).bytes.length = 12 := by
    rw [bytes_length]; simp [xorMappedAddress, length_beBytes]
  have hm : (mappedAddress ip port).bytes.length = 12 := by
    rw [bytes_length]; simp [mappedAddress, length_beBytes, Ipv4Addr.octets]
  constructor
  · rw [parse_first_address tid pre post (xorMappedAddress ip port) hskip
      (by simp [Attr.isAddress, xorMappedAddress, length_beBytes]) (hlen _ hx), Except.ok.injEq]
    exact decode_xor_eq_iff ip port
  · rw [parse_first_address tid pre post (mappedAddress ip port) hskip
      (by simp [Attr.isAddress, mappedAddress, length_beBytes, Ipv4Addr.octets]) (hlen _ hm),
      Except.ok.injEq]
    exact decode_plain_eq_iff ip port

/-- SOFTWARE, with five letters and three bytes of padding. -/
def softwareAttr : Attr := ⟨0x8022, [99, 111, 116, 117, 114], [0, 0, 0], by decide, by decide⟩

/-- The endpoint that does come back, and one that does not, behind another attribute. -/
theorem parse_behind_software :
    parseStunResponse (response (Vector.replicate 12 7)
        [softwareAttr, xorMappedAddress ⟨33, 19, 164, 67⟩ 8467]) = .ok ⟨⟨33, 19, 164, 67⟩, 8467⟩ ∧
      parseStunResponse (response (Vector.replicate 12 7)
        [softwareAttr, mappedAddress ⟨203, 0, 113, 5⟩ 40000]) ≠ .ok ⟨⟨203, 0, 113, 5⟩, 40000⟩ := by
  have hpre : ∀ x ∈ [softwareAttr], x.typ ≠ 0x0001 ∧ x.typ ≠ 0x0020 := by
    intro x hx
    rw [List.mem_singleton.mp hx]
    decide
  constructor
  · exact (parse_address_iff (Vector.replicate 12 7) [softwareAttr] [] ⟨33, 19, 164, 67⟩ 8467 hpre
      (by decide)).1.mpr ⟨rfl, rfl⟩
  · intro h
    have hend := (parse_address_iff (Vector.replicate 12 7) [softwareAttr] [] ⟨203, 0, 113, 5⟩ 40000 hpre
      (by decide)).2.mp h
    exact absurd hend.2 (by decide)

/-- The response for 203.0.113.5:40000, alone in its message, is read as
156.64.78.80:8467, and in plain form as 156.64.203.0:1. -/
theorem parse_wrong_endpoint :
    parseStunResponse (response (Vector.replicate 12 7) [xorMappedAddress ⟨203, 0, 113, 5⟩ 40000]) ≠
        .ok ⟨⟨203, 0, 113, 5⟩, 40000⟩ ∧
      parseStunResponse (response (Vector.replicate 12 7) [mappedAddress ⟨203, 0, 113, 5⟩ 40000]) ≠
        .ok ⟨⟨203, 0, 113, 5⟩, 40000⟩ := by
  have hx : parseStunResponse (response (Vector.replicate 12 7)
      [xorMappedAddress ⟨203, 0, 113, 5⟩ 40000]) = .ok ⟨⟨156, 64, 78, 80⟩, 8467⟩ :=
    parse_first_address _ [] [] (xorMappedAddress ⟨203, 0, 113, 5⟩ 40000) (by simp) (by decide)
      (by decide)
  have hm : parseStunResponse (response (Vector.replicate 12 7)
      [mappedAddress ⟨203, 0, 113, 5⟩ 40000]) = .ok ⟨⟨156, 64, 203, 0⟩, 1⟩ :=
    parse_first_address _ [] [] (mappedAddress ⟨203, 0, 113, 5⟩ 40000) (by simp) (by decide)
      (by decide)
  rw [hx, hm]
  exact ⟨by decide, by decide⟩

end NomadP2P.Stun
