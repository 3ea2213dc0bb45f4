import NomadP2P.StunBounds

/-!
# The attribute walk of `parse_stun_response`

A message that announces exactly the attributes it carries, with any bytes as cookie and
transaction id and any bytes behind it.  `walkTraced` is the loop with the offsets
at which it reads the header of an attribute; the result is that of the
loop (`walkTraced_result`).

The loop reads the headers of the attributes and nothing else for a header, up to the first
attribute it takes for an address, and that attribute alone decides:

    offsets read = boundaries of the attributes up to the first address
    result       = what is decoded from the value of that attribute      (attr_walk)
-/

namespace NomadP2P.Stun

open Bytes

/-! ## Algorithm -/

/-- Type and length of the attribute at `off`. -/
def attrHeader (data : List UInt8) (off : Nat) : Except Fault (UInt16 × Nat) := do
  let attrType := be16 (← idx data off) (← idx data (off + 1))
  let attrLen := (be16 (← idx data (off + 2)) (← idx data (off + 3))).toNat
  .ok (attrType, attrLen)

/-- The address in the attribute at `off`. -/
def attrAddress (data : List UInt8) (off : Nat) (attrType : UInt16) : Except Fault StunResult := do
  let port := be16 (← idx data (off + 4)) (← idx data (off + 5))
  let i0 ← idx data (off + 6)
  let i1 ← idx data (off + 7)
  let i2 ← idx data (off + 8)
  let i3 ← idx data (off + 9)
  if attrType = 0x0020 then
    .ok ⟨⟨i0 ^^^ 0x21, i1 ^^^ 0x12, i2 ^^^ 0xA4, i3 ^^^ 0x42⟩, port ^^^ 0x2112⟩
  else .ok ⟨⟨i0, i1, i2, i3⟩, port⟩

/-- The attribute loop, with the offsets at which it reads a header. -/
def walkTraced (data : List UInt8) (len off : Nat) : List Nat × Except Fault StunResult :=
  if off + 4 ≤ 20 + len then
    match attrHeader data off with
    | .error e => ([off], .error e)
    | .ok (attrType, attrLen) =>
      if addressHeader attrType attrLen then ([off], attrAddress data off attrType)
      else
        let r := walkTraced data len (nextOff off attrLen)
        (off :: r.1, r.2)
  else ([], .error (.bail "no mapped address"))
termination_by 20 + len - off
decreasing_by
  exact Nat.sub_lt_sub_left (by omega) (lt_nextOff _ _)

/-- The offsets at which `parse_stun_response` reads the header of an attribute. -/
def headersRead (data : List UInt8) : List Nat := (walkTraced data (messageLength data) 20).1

/-- A Binding Success Response: `header` is the cookie and the transaction id, and `trailing`
what follows the attributes in the datagram. -/
def message (header : Vector UInt8 16) (attrs : List Attr) (trailing : List UInt8) : List UInt8 :=
  beBytes 2 0x0101 ++ beBytes 2 (attrsBytes attrs).length ++ header.toList ++
    (attrsBytes attrs ++ trailing)

/-- Where the attributes begin, the first of them at `off`. -/
def boundaries (off : Nat) : List Attr → List Nat
  | [] => []
  | x :: xs => off :: boundaries (off + x.bytes.length) xs

/-- What the first address among the attributes says. -/
def firstAddress (attrs : List Attr) : Except Fault StunResult :=
  (attrs.find? Attr.isAddress).elim (.error (.bail "no mapped address"))
    fun x => .ok (decodeValue x.typ x.value)

/-! ## Lemmas -/

/-- One turn of the loop. -/
theorem walk_turn (data : List UInt8) (len off : Nat) (hoff : off + 4 ≤ 20 + len) :
    walk data len off = attrHeader data off >>= fun h =>
      if addressHeader h.1 h.2 then attrAddress data off h.1 else walk data len (nextOff off h.2) := by
  rw [walk, if_pos hoff]
  unfold attrHeader
  cases idx data off with
  | error e => rfl
  | ok t0 =>
    cases idx data (off + 1) with
    | error e => rfl
    | ok t1 =>
      cases idx data (off + 2) with
      | error e => rfl
      | ok l0 =>
        cases idx data (off + 3) with
        | error e => rfl
        | ok l1 => rfl

/-- The trace does not change the result. -/
theorem walkTraced_result (data : List UInt8) (len off : Nat) :
    (walkTraced data len off).2 = walk data len off := by
  fun_induction walkTraced data len off with
  | case1 off hoff e hheader =>
    rw [walk_turn data len off hoff, hheader]
    rfl
  | case2 off hoff attrType attrLen hheader haddr =>
    rw [walk_turn data len off hoff, hheader]
    exact (if_pos haddr).symm
  | case3 off hoff attrType attrLen hheader haddr r ih =>
    rw [walk_turn data len off hoff, hheader]
    exact ih.trans (if_neg haddr).symm
  | case4 off hoff => rw [walk, if_neg hoff]

/-- In front of an attribute its type and length are read. -/
theorem attrHeader_attr (data : List UInt8) (off : Nat) (x : Attr) (rest : List UInt8)
    (h : data.drop off = x.bytes ++ rest) : attrHeader data off = .ok (x.typ, x.value.length) := by
  obtain ⟨b0, b1, b2, b3, h0, h1, h2, h3, ht, hl⟩ := idx_header data off x rest h
  unfold attrHeader
  rw [h0, h1, h2, h3]
  simp only [bind, Except.bind, ht, hl]

theorem addressHeader_iff (x : Attr) : addressHeader x.typ x.value.length ↔ x.isAddress = true := by
  unfold addressHeader Attr.isAddress
  simp

/-- The offsets read from an attribute on. -/
theorem walkTraced_attr (data : List UInt8) (len off : Nat) (x : Attr) (rest : List UInt8)
    (h : data.drop off = x.bytes ++ rest) (hoff : off + 4 ≤ 20 + len) :
    (walkTraced data len off).1 =
      off :: if x.isAddress then [] else (walkTraced data len (off + x.bytes.length)).1 := by
  rw [walkTraced, if_pos hoff, attrHeader_attr data off x rest h]
  by_cases hx : x.isAddress = true
  · simp only [if_pos hx, if_pos ((addressHeader_iff x).mpr hx)]
  · simp only [if_neg hx, if_neg (mt (addressHeader_iff x).mp hx), nextOff_eq]

theorem firstAddress_cons (x : Attr) (xs : List Attr) :
    firstAddress (x :: xs) = if x.isAddress then .ok (decodeValue x.typ x.value) else firstAddress xs := by
  unfold firstAddress
  cases hx : x.isAddress with
  | true =>
    rw [List.find?_cons_of_pos hx]
    rfl
  | false =>
    rw [List.find?_cons_of_neg (by simp [hx])]
    rfl

/-- The loop over a list of attributes, by induction over the list: the offset stays at the
boundary in front of the rest of the list. -/
theorem walk_attrs (data : List UInt8) (len : Nat) (trailing : List UInt8) (attrs : List Attr) :
    ∀ off, data.drop off = attrsBytes attrs ++ trailing →
      off + (attrsBytes attrs).length = 20 + len →
      (walkTraced data len off).1 = (boundaries off attrs).take (attrs.findIdx Attr.isAddress + 1) ∧
        walk data len off = firstAddress attrs := by
  induction attrs with
  | nil =>
    intro off _ hend
    replace hend : off = 20 + len := hend
    rw [walkTraced, walk, if_neg (by omega), if_neg (by omega)]
    exact ⟨rfl, rfl⟩
  | cons x xs ih =>
    intro off h hend
    rw [attrsBytes_cons, List.append_assoc] at h
    rw [attrsBytes_cons, List.length_append] at hend
    have hsize := bytes_length x
    have hoff : off + 4 ≤ 20 + len := by omega
    have hnext : data.drop (off + x.bytes.length) = attrsBytes xs ++ trailing := by
      rw [← List.drop_drop, h, List.drop_left]
    obtain ⟨hread, hresult⟩ := ih _ hnext (by omega)
    rw [walkTraced_attr data len off x _ h hoff, walk_attr data len off x _ h hoff, firstAddress_cons,
      hresult, hread, List.findIdx_cons]
    refine ⟨?_, rfl⟩
    cases x.isAddress with
    | true => rfl
    | false => rfl

/-! ### Messages -/

theorem message_drop (header : Vector UInt8 16) (attrs : List Attr) (trailing : List UInt8) :
    (message header attrs trailing).drop 20 = attrsBytes attrs ++ trailing := by
  unfold message
  exact List.drop_left' (by simp [length_beBytes])

theorem message_length (header : Vector UInt8 16) (attrs : List Attr) (trailing : List UInt8) :
    20 ≤ (message header attrs trailing).length := by
  unfold message
  simp [length_beBytes]
  omega

theorem message_fields (header : Vector UInt8 16) (attrs : List Attr) (trailing : List UInt8)
    (hsize : (attrsBytes attrs).length ≤ 65532) :
    messageType (message header attrs trailing) = 0x0101 ∧
      messageLength (message header attrs trailing) = (attrsBytes attrs).length := by
  refine ⟨rfl, ?_⟩
  show (be16 (UInt8.ofNat ((attrsBytes attrs).length / 256))
    (UInt8.ofNat (attrsBytes attrs).length)).toNat = _
  rw [be16_split _ (by omega), UInt16.toNat_ofNat']
  omega

/-- What is read and returned of a message. -/
theorem parse_message (header : Vector UInt8 16) (attrs : List Attr) (trailing : List UInt8)
    (hsize : (attrsBytes attrs).length ≤ 65532) :
    headersRead (message header attrs trailing) =
        (boundaries 20 attrs).take (attrs.findIdx Attr.isAddress + 1) ∧
      parseStunResponse (message header attrs trailing) = firstAddress attrs := by
  obtain ⟨htype, hlen⟩ := message_fields header attrs trailing hsize
  have hwalk := walk_attrs (message header attrs trailing) (attrsBytes attrs).length trailing attrs 20
    (message_drop header attrs trailing) rfl
  rw [headersRead, parse_of_header _ (message_length header attrs trailing), hlen, htype,
    if_neg (by simp)]
  exact hwalk

theorem firstAddress_eq_error_iff (attrs : List Attr) :
    firstAddress attrs = .error (.bail "no mapped address") ↔ ∀ x ∈ attrs, x.isAddress = false := by
  unfold firstAddress
  cases hfind : attrs.find? Attr.isAddress with
  | none =>
    refine iff_of_true rfl fun x hx => ?_
    exact Bool.eq_false_iff.mpr (List.find?_eq_none.mp hfind x hx)
  | some x =>
    refine iff_of_false (by simp) fun h => ?_
    have hx := List.find?_some hfind
    rw [h x (List.mem_of_find?_eq_some hfind)] at hx
    cases hx

theorem firstAddress_ne_outOfBounds (attrs : List Attr) : firstAddress attrs ≠ .error .outOfBounds := by
  unfold firstAddress
  cases attrs.find? Attr.isAddress with
  | none => simp
  | some x => simp

/-! ### Main theorem -/

/-- **The attribute walk.**  For every list of attributes of at most 65532 bytes in all, any
cookie and transaction id and any bytes behind the attributes: no index is out of bounds;
the headers read are those of the attributes up to the first address; the result is that of
the first address and of nothing else, so that what follows the attributes does not matter;
and `no mapped address` is returned exactly if there is none. -/
theorem attr_walk (header : Vector UInt8 16) (attrs : List Attr) (trailing : List UInt8)
    (hsize : (attrsBytes attrs).length ≤ 65532) :
    parseStunResponse (message header attrs trailing) ≠ .error .outOfBounds ∧
    headersRead (message header attrs trailing) =
      (boundaries 20 attrs).take (attrs.findIdx Attr.isAddress + 1) ∧
    (∀ pre x post, attrs = pre ++ x :: post → (∀ y ∈ pre, y.isAddress = false) → x.isAddress = true →
      parseStunResponse (message header attrs trailing) = .ok (decodeValue x.typ x.value)) ∧
    (parseStunResponse (message header attrs trailing) = .error (.bail "no mapped address") ↔
      ∀ x ∈ attrs, x.isAddress = false) ∧
    ∀ header' trailing', parseStunResponse (message header' attrs trailing') =
      parseStunResponse (message header attrs trailing) := by
  obtain ⟨hread, hparse⟩ := parse_message header attrs trailing hsize
  rw [hparse]
  refine ⟨firstAddress_ne_outOfBounds attrs, hread, ?_, firstAddress_eq_error_iff attrs, ?_⟩
  · rintro pre x post rfl hpre hx
    have hfind : (pre ++ x :: post).find? Attr.isAddress = some x := by
      rw [List.find?_append, List.find?_eq_none.mpr (fun y hy => by rw [hpre y hy]; simp),
        List.find?_cons_of_pos hx]
      rfl
    unfold firstAddress
    rw [hfind]
    rfl
  · intro header' trailing'
    exact (parse_message header' attrs trailing' hsize).2

/-- A MAPPED-ADDRESS too short for an address, and one that is long enough. -/
def shortThenMapped : List Attr :=
  [⟨0x0001, [1, 2, 3], [9], by decide, by decide⟩, mappedAddress ⟨203, 0, 113, 5⟩ 40000]

/-- The short one is stepped over with its padding, and the bytes behind the message do not
matter. -/
theorem attr_walk_short_first :
    headersRead (message (Vector.replicate 16 0) shortThenMapped [0, 1, 0, 8]) = [20, 28] ∧
      parseStunResponse (message (Vector.replicate 16 0) shortThenMapped [0, 1, 0, 8]) =
        .ok ⟨⟨156, 64, 203, 0⟩, 1⟩ := by
  obtain ⟨-, hread, hfirst, -⟩ :=
    attr_walk (Vector.replicate 16 0) shortThenMapped [0, 1, 0, 8] (by decide)
  refine ⟨hread, ?_⟩
  exact hfirst [⟨0x0001, [1, 2, 3], [9], by decide, by decide⟩] (mappedAddress ⟨203, 0, 113, 5⟩ 40000) []
    rfl (by decide) (by decide)

end NomadP2P.Stun
