import NomadP2P.Stun

/-!
# The indices of `parse_stun_response`

The attribute loop is bounded by the length field of the header, and what it reads of
an attribute by the attribute's own length field; neither is compared with the
size of the datagram.  So a datagram is read without an index out of bounds exactly when
it is long enough for what it announces (`in_bounds_iff`): behind whole attributes
that are not addresses

    nothing more is announced, or
    there is the header of an address and six bytes of its value, or
    there is the header of the last attribute, which is no address.
-/

namespace NomadP2P.Stun

open Bytes

/-! ## Algorithm -/

/-- The type field of the message. -/
def messageType (data : List UInt8) : UInt16 := be16 (data.getD 0 0) (data.getD 1 0)

/-- The length field of the message. -/
def messageLength (data : List UInt8) : Nat := (be16 (data.getD 2 0) (data.getD 3 0)).toNat

/-- The loop takes the value of an attribute with this type and length for an address. -/
def addressHeader (attrType : UInt16) (attrLen : Nat) : Prop :=
  (attrType = 0x0001 ∨ attrType = 0x0020) ∧ attrLen ≥ 8

instance (attrType : UInt16) (attrLen : Nat) : Decidable (addressHeader attrType attrLen) :=
  inferInstanceAs (Decidable (_ ∧ _))

/-- The bytes `rest` are enough for an attribute list of which `len` bytes are announced,
`used` of them in front of `rest`. -/
def Enough (len used : Nat) (rest : List UInt8) : Prop :=
  len < used + 4 ∨
    ∃ t0 t1 l0 l1 tl, rest = t0 :: t1 :: l0 :: l1 :: tl ∧
      if addressHeader (be16 t0 t1) (be16 l0 l1).toNat then 6 ≤ tl.length
      else len < nextOff used (be16 l0 l1).toNat + 4

/-- Whole attributes that are not addresses, and enough behind them. -/
def Framed (len used : Nat) (bytes : List UInt8) : Prop :=
  ∃ (attrs : List Attr) (rest : List UInt8), (∀ x ∈ attrs, x.isAddress = false) ∧
    bytes = attrsBytes attrs ++ rest ∧ Enough len (used + (attrsBytes attrs).length) rest

/-! ## Lemmas -/

theorem nextOff_add (off used attrLen : Nat) :
    nextOff (off + used) attrLen = off + nextOff used attrLen := by
  unfold nextOff
  split <;> omega

theorem walk_done (data : List UInt8) (len off : Nat) (h : 20 + len < off + 4) :
    walk data len off = .error (.bail "no mapped address") := by
  rw [walk, if_neg (by omega)]

theorem idx_drop (data : List UInt8) (off i : Nat) : idx data (off + i) = idx (data.drop off) i := by
  unfold idx
  rw [List.getElem?_drop]

/-- A header that is cut off. -/
theorem walk_cut (data : List UInt8) (len off : Nat) (hoff : off + 4 ≤ 20 + len)
    (h : (data.drop off).length < 4) : walk data len off = .error .outOfBounds := by
  have h0 : idx data off = idx (data.drop off) 0 := idx_drop data off 0
  rw [walk, if_pos hoff, h0, idx_drop, idx_drop, idx_drop]
  generalize data.drop off = bytes at h
  rcases bytes with _ | ⟨t0, _ | ⟨t1, _ | ⟨l0, _ | ⟨l1, tl⟩⟩⟩⟩
  · rfl
  · rfl
  · rfl
  · rfl
  · simp only [List.length_cons] at h
    omega

/-- Behind a whole header: an address is decoded if six bytes of it are there, any other
attribute is stepped over. -/
theorem walk_header (data : List UInt8) (len off : Nat) (hoff : off + 4 ≤ 20 + len)
    (t0 t1 l0 l1 : UInt8) (tl : List UInt8) (h : data.drop off = t0 :: t1 :: l0 :: l1 :: tl) :
    walk data len off =
      if addressHeader (be16 t0 t1) (be16 l0 l1).toNat then
        if 6 ≤ tl.length then .ok (decodeValue (be16 t0 t1) tl) else .error .outOfBounds
      else walk data len (nextOff off (be16 l0 l1).toNat) := by
  have hread : ∀ i, idx data (off + i) = idx (t0 :: t1 :: l0 :: l1 :: tl) i := by
    intro i
    rw [idx_drop, h]
  have h0 : idx data off = .ok t0 := hread 0
  have h1 : idx data (off + 1) = .ok t1 := hread 1
  have h2 : idx data (off + 2) = .ok l0 := hread 2
  have h3 : idx data (off + 3) = .ok l1 := hread 3
  rw [walk, if_pos hoff]
  simp only [h0, h1, h2, h3, bind, Except.bind]
  by_cases haddr : addressHeader (be16 t0 t1) (be16 l0 l1).toNat
  · rw [if_pos haddr, if_pos (show _ ∧ _ from haddr)]
    rw [hread 4, hread 5, hread 6, hread 7, hread 8, hread 9]
    rcases tl with _ | ⟨v0, _ | ⟨v1, _ | ⟨v2, _ | ⟨v3, _ | ⟨v4, _ | ⟨v5, tl⟩⟩⟩⟩⟩⟩
    · rfl
    · rfl
    · rfl
    · rfl
    · rfl
    · rfl
    · rw [if_pos (by simp)]
      by_cases hxor : be16 t0 t1 = 0x0020
      · simp only [decodeValue, hxor, if_true]
        rfl
      · simp only [decodeValue, hxor, if_false]
        rfl
  · rw [if_neg haddr, if_neg (show ¬ (_ ∧ _) from haddr)]

/-- Enough bytes at an offset, and the loop ends well there or one attribute later. -/
theorem walk_of_enough (data : List UInt8) (len used : Nat)
    (h : Enough len used (data.drop (20 + used))) :
    walk data len (20 + used) ≠ .error .outOfBounds := by
  by_cases hoff : 20 + used + 4 ≤ 20 + len
  · rcases h with hdone | ⟨t0, t1, l0, l1, tl, hbytes, hrest⟩
    · omega
    rw [walk_header data len _ hoff t0 t1 l0 l1 tl hbytes]
    by_cases haddr : addressHeader (be16 t0 t1) (be16 l0 l1).toNat
    · rw [if_pos haddr] at hrest ⊢
      rw [if_pos hrest]
      simp
    · rw [if_neg haddr] at hrest ⊢
      rw [nextOff_add, walk_done _ _ _ (by omega)]
      simp
  · rw [walk_done _ _ _ (by omega)]
    simp

/-- The whole attributes in front are stepped over. -/
theorem walk_of_framed (data : List UInt8) (len : Nat) (attrs : List Attr)
    (hskip : ∀ x ∈ attrs, x.isAddress = false) (rest : List UInt8) :
    ∀ used, data.drop (20 + used) = attrsBytes attrs ++ rest →
      Enough len (used + (attrsBytes attrs).length) rest →
      walk data len (20 + used) ≠ .error .outOfBounds := by
  induction attrs with
  | nil =>
    intro used hbytes henough
    apply walk_of_enough
    rw [hbytes]
    exact henough
  | cons x xs ih =>
    intro used hbytes henough
    by_cases hoff : 20 + used + 4 ≤ 20 + len
    · rw [attrsBytes_cons, List.append_assoc] at hbytes
      rw [walk_attr data len _ x _ hbytes hoff, hskip x List.mem_cons_self, if_neg (by simp),
        Nat.add_assoc]
      apply ih (fun y hy => hskip y (List.mem_cons_of_mem _ hy))
      · rw [← Nat.add_assoc, ← List.drop_drop, hbytes, List.drop_left]
      · rw [attrsBytes_cons, List.length_append, ← Nat.add_assoc] at henough
        exact henough
    · rw [walk_done _ _ _ (by omega)]
      simp

/-- The two bytes of a field, read back. -/
theorem ofNat_be16 (x y : UInt8) :
    UInt8.ofNat ((be16 x y).toNat / 256) = x ∧ UInt8.ofNat (be16 x y).toNat = y := by
  have hx := x.toNat_lt
  have hy := y.toNat_lt
  rw [be16_toNat, ← UInt8.toNat_inj, ← UInt8.toNat_inj, UInt8.toNat_ofNat', UInt8.toNat_ofNat']
  omega

/-- The attribute that a header and enough bytes behind it are. -/
theorem exists_attr (t0 t1 l0 l1 : UInt8) (tl : List UInt8)
    (h : nextOff 0 (be16 l0 l1).toNat ≤ tl.length + 4) :
    ∃ (x : Attr) (rest : List UInt8), t0 :: t1 :: l0 :: l1 :: tl = x.bytes ++ rest ∧
      x.typ = be16 t0 t1 ∧ x.value.length = (be16 l0 l1).toNat := by
  obtain ⟨L, hL⟩ : ∃ L, L = (be16 l0 l1).toNat := ⟨_, rfl⟩
  have hlt : L < 65536 := hL ▸ (be16 l0 l1).toNat_lt
  rw [← hL] at h
  have hvalue : L ≤ tl.length ∧ (4 - L % 4) % 4 ≤ tl.length - L := by
    unfold nextOff at h
    split at h <;> omega
  let x : Attr :=
    { typ := be16 t0 t1
      value := tl.take L
      pad := (tl.drop L).take ((4 - L % 4) % 4)
      value_lt := by rw [List.length_take]; omega
      pad_len := by rw [List.length_take, List.length_drop, List.length_take, min_eq_left hvalue.1]; omega }
  have hlen : x.value.length = L := by
    show (tl.take L).length = L
    rw [List.length_take, min_eq_left hvalue.1]
  refine ⟨x, (tl.drop L).drop ((4 - L % 4) % 4), ?_, rfl, hlen.trans hL⟩
  rw [bytes_eq, hlen, hL, (ofNat_be16 l0 l1).1, (ofNat_be16 l0 l1).2, ← hL]
  show _ = UInt8.ofNat ((be16 t0 t1).toNat / 256) :: UInt8.ofNat (be16 t0 t1).toNat :: l0 :: l1 ::
    (tl.take L ++ ((tl.drop L).take _ ++ (tl.drop L).drop _))
  rw [(ofNat_be16 t0 t1).1, (ofNat_be16 t0 t1).2, List.take_append_drop, List.take_append_drop]

theorem isAddress_eq_false (x : Attr) (h : ¬ addressHeader x.typ x.value.length) :
    x.isAddress = false := by
  apply Bool.eq_false_iff.mpr
  intro hx
  unfold Attr.isAddress at hx
  exact h (by simpa [addressHeader] using hx)

theorem framed_nil (len used : Nat) (bytes : List UInt8) (h : Enough len used bytes) :
    Framed len used bytes := ⟨[], bytes, by simp, rfl, h⟩

/-- A walk that ends well has had enough bytes. -/
theorem framed_of_walk (data : List UInt8) (len : Nat) (n : Nat) :
    ∀ used, len ≤ used + n → walk data len (20 + used) ≠ .error .outOfBounds →
      Framed len used (data.drop (20 + used)) := by
  induction n with
  | zero =>
    intro used hn _
    exact framed_nil _ _ _ (Or.inl (by omega))
  | succ n ih =>
    intro used hn hwalk
    by_cases hdone : len < used + 4
    · exact framed_nil _ _ _ (Or.inl hdone)
    have hoff : 20 + used + 4 ≤ 20 + len := by omega
    obtain ⟨t0, t1, l0, l1, tl, hbytes⟩ :
        ∃ t0 t1 l0 l1 tl, data.drop (20 + used) = t0 :: t1 :: l0 :: l1 :: tl := by
      by_cases hcut : (data.drop (20 + used)).length < 4
      · exact absurd (walk_cut data len _ hoff hcut) hwalk
      rcases hb : data.drop (20 + used) with _ | ⟨t0, _ | ⟨t1, _ | ⟨l0, _ | ⟨l1, tl⟩⟩⟩⟩
      · simp [hb] at hcut
      · simp [hb] at hcut
      · simp [hb] at hcut
      · simp [hb] at hcut
      · exact ⟨t0, t1, l0, l1, tl, rfl⟩
    rw [walk_header data len _ hoff t0 t1 l0 l1 tl hbytes] at hwalk
    by_cases haddr : addressHeader (be16 t0 t1) (be16 l0 l1).toNat
    · rw [if_pos haddr] at hwalk
      refine framed_nil _ _ _ (Or.inr ⟨t0, t1, l0, l1, tl, hbytes, ?_⟩)
      rw [if_pos haddr]
      by_contra hshort
      rw [if_neg hshort] at hwalk
      exact hwalk rfl
    rw [if_neg haddr, nextOff_add] at hwalk
    by_cases hlast : len < nextOff used (be16 l0 l1).toNat + 4
    · refine framed_nil _ _ _ (Or.inr ⟨t0, t1, l0, l1, tl, hbytes, ?_⟩)
      rw [if_neg haddr]
      exact hlast
    -- the next header is read too, so this attribute is whole
    have hnext : nextOff used (be16 l0 l1).toNat = used + nextOff 0 (be16 l0 l1).toNat := nextOff_add used 0 _
    have hwhole : nextOff 0 (be16 l0 l1).toNat ≤ tl.length + 4 := by
      have hlen := congrArg List.length hbytes
      simp only [List.length_drop, List.length_cons] at hlen
      by_contra hshort
      refine hwalk (walk_cut data len _ (by omega) ?_)
      rw [List.length_drop]
      omega
    obtain ⟨x, rest, hx, htyp, hvalue⟩ := exists_attr t0 t1 l0 l1 tl hwhole
    have hsize : nextOff used (be16 l0 l1).toNat = used + x.bytes.length := by
      rw [← hvalue, nextOff_eq]
    have hbytes' : data.drop (20 + nextOff used (be16 l0 l1).toNat) = rest := by
      rw [hsize, ← Nat.add_assoc, ← List.drop_drop, hbytes, hx, List.drop_left]
    have hlt := lt_nextOff used (be16 l0 l1).toNat
    obtain ⟨attrs, rest', hskip, hsplit, henough⟩ := ih _ (by omega) hwalk
    refine ⟨x :: attrs, rest', ?_, ?_, ?_⟩
    · intro y hy
      rcases List.mem_cons.mp hy with rfl | hy
      · exact isAddress_eq_false y (by rw [htyp, hvalue]; exact haddr)
      · exact hskip y hy
    · rw [hbytes, hx, attrsBytes_cons, List.append_assoc, ← hsplit, hbytes']
    · rw [attrsBytes_cons, List.length_append, ← Nat.add_assoc, ← hsize]
      exact henough

/-! ### Main theorem -/

/-- A message with its header goes through the loop. -/
theorem parse_of_header (data : List UInt8) (hlen : 20 ≤ data.length) :
    parseStunResponse data =
      if messageType data ≠ 0x0101 then .error (.bail "not binding response")
      else walk data (messageLength data) 20 := by
  have hread : ∀ i, i < 20 → idx data i = .ok (data.getD i 0) := by
    intro i hi
    unfold idx
    rw [List.getD_eq_getElem?_getD, List.getElem?_eq_getElem (by omega)]
    rfl
  unfold parseStunResponse
  rw [if_neg (by omega), hread 0 (by omega), hread 1 (by omega), hread 2 (by omega),
    hread 3 (by omega)]
  rfl

/-- **Indices in bounds.**  `parse_stun_response` never indexes outside the datagram exactly
when the datagram is shorter than a header, is no Binding Success Response, or holds
enough bytes for the attributes that its length field announces. -/
theorem in_bounds_iff (data : List UInt8) :
    parseStunResponse data ≠ .error .outOfBounds ↔
      data.length < 20 ∨ messageType data ≠ 0x0101 ∨
        Framed (messageLength data) 0 (data.drop 20) := by
  by_cases hshort : data.length < 20
  · refine iff_of_true ?_ (Or.inl hshort)
    rw [parseStunResponse, if_pos hshort]
    simp
  rw [parse_of_header data (by omega)]
  by_cases htype : messageType data ≠ 0x0101
  · rw [if_pos htype]
    exact iff_of_true (by simp) (Or.inr (Or.inl htype))
  rw [if_neg htype]
  constructor
  · intro h
    exact Or.inr (Or.inr (framed_of_walk data _ (messageLength data) 0 (by omega) h))
  · rintro (h | h | ⟨attrs, rest, hskip, hbytes, henough⟩)
    · exact absurd h hshort
    · exact absurd h htype
    · exact walk_of_framed data _ attrs hskip rest 0 hbytes henough

/-- A header that announces four bytes of attributes, and nothing behind it. -/
def cutResponse : List UInt8 := [1, 1, 0, 4] ++ List.replicate 16 0

/-- The loop reads the type of the attribute at index 20 of 20 bytes. -/
theorem index_out_of_bounds :
    cutResponse.length ≤ 1024 ∧ parseStunResponse cutResponse = .error .outOfBounds := by
  refine ⟨by decide, ?_⟩
  rw [parse_of_header cutResponse (by decide), if_neg (by decide)]
  exact walk_cut cutResponse _ 20 (by decide) (by decide)

end NomadP2P.Stun
