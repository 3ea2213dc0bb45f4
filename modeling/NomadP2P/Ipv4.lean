import Mathlib.Data.Nat.Digits.Defs
import NomadP2P.Lib.Bytes

/-!
# IPv4 addresses (`std::net::Ipv4Addr`)

The four octets, the number `u32::from` makes of them (network order: the first
octet is the most significant), the dotted text and its parser.  The parser
takes one to three digits an octet, no leading zero, and nothing behind the
fourth octet, so an address has exactly one text:

    Ipv4Addr.parse (toText a) = some a                       (parse_toText)
    Ipv4Addr.parse s = some a → s = toText a                 (eq_toText_of_parse)
-/

namespace NomadP2P

open Bytes

structure Ipv4Addr where
  a : UInt8
  b : UInt8
  c : UInt8
  d : UInt8
deriving DecidableEq, Repr

structure SocketAddr where
  ip : Ipv4Addr
  port : UInt16
deriving DecidableEq, Repr

namespace Ipv4Addr

/-- The octets in network order. -/
def octets (x : Ipv4Addr) : List UInt8 := [x.a, x.b, x.c, x.d]

/-- `u32::from(addr)`. -/
def toU32 (x : Ipv4Addr) : UInt32 := UInt32.ofNat (beNat x.octets)

/-- `Ipv4Addr::from(n)`. -/
def ofU32 (n : UInt32) : Ipv4Addr :=
  ⟨UInt8.ofNat (n.toNat / 2 ^ 24), UInt8.ofNat (n.toNat / 2 ^ 16), UInt8.ofNat (n.toNat / 2 ^ 8),
    UInt8.ofNat n.toNat⟩

/-! ## Text -/

/-- The decimal digits of an octet. -/
def octetText (b : UInt8) : List Char := Nat.toDigits 10 b.toNat

/-- `addr.to_string()`, as characters. -/
def chars (x : Ipv4Addr) : List Char :=
  octetText x.a ++ '.' :: (octetText x.b ++ '.' :: (octetText x.c ++ '.' :: octetText x.d))

/-- `addr.to_string()`. -/
def toText (x : Ipv4Addr) : String := String.ofList x.chars

/-- The value of a string of decimal digits. -/
def digitsVal (l : List Char) : Nat := l.foldl (fun v c => 10 * v + (c.toNat - 48)) 0

/-- `Parser::read_number(10, Some(3), false)` for a `u8`: the digits in front, at
most three, without a leading zero. -/
def readOctet (s : List Char) : Option (UInt8 × List Char) :=
  let digits := s.takeWhile Char.isDigit
  if digits.length = 0 then none
  else if 3 < digits.length then none
  else if digits.head? = some '0' ∧ 1 < digits.length then none
  else if 255 < digitsVal digits then none
  else some (UInt8.ofNat (digitsVal digits), s.dropWhile Char.isDigit)

/-- `Parser::read_given_char('.')`. -/
def readDot : List Char → Option (List Char)
  | '.' :: s => some s
  | _ => none

/-- `Parser::read_ipv4_addr`, with the rest of the input. -/
def readAddr (s : List Char) : Option (Ipv4Addr × List Char) := do
  let (a, s) ← readOctet s
  let s ← readDot s
  let (b, s) ← readOctet s
  let s ← readDot s
  let (c, s) ← readOctet s
  let s ← readDot s
  let (d, s) ← readOctet s
  some (⟨a, b, c, d⟩, s)

/-- `text.parse::<Ipv4Addr>().ok()`: an address and nothing behind it. -/
def parse (text : String) : Option Ipv4Addr :=
  match readAddr text.toList with
  | some (x, []) => some x
  | _ => none

end Ipv4Addr

/-- `Parser::read_number(10, None, true)` for the `u16` of a port, up to the end. -/
def readPort (digits : List Char) : Option UInt16 :=
  if digits.length = 0 then none
  else if !digits.all Char.isDigit then none
  else if 65535 < Ipv4Addr.digitsVal digits then none
  else some (UInt16.ofNat (Ipv4Addr.digitsVal digits))

/-- `text.parse::<SocketAddr>().ok()`, for IPv4. -/
def SocketAddr.parse (text : String) : Option SocketAddr :=
  match Ipv4Addr.readAddr text.toList with
  | some (ip, ':' :: digits) => (readPort digits).map fun port => ⟨ip, port⟩
  | _ => none

namespace Ipv4Addr

/-! ## Lemmas -/

theorem beNat_octets (x : Ipv4Addr) :
    beNat x.octets = x.a.toNat * 2 ^ 24 + x.b.toNat * 2 ^ 16 + x.c.toNat * 2 ^ 8 + x.d.toNat := by
  show leNat [x.d, x.c, x.b, x.a] = _
  rw [leNat_cons, leNat_cons, leNat_cons, leNat_cons]
  show _ + 256 * (_ + 256 * (_ + 256 * (_ + 256 * 0))) = _
  omega

theorem toU32_toNat (x : Ipv4Addr) : x.toU32.toNat = beNat x.octets := by
  have h : beNat x.octets < 256 ^ 4 := beNat_lt x.octets
  rw [toU32, UInt32.toNat_ofNat']
  omega

theorem ofU32_toU32 (x : Ipv4Addr) : ofU32 x.toU32 = x := by
  have ha := x.a.toNat_lt
  have hb := x.b.toNat_lt
  have hc := x.c.toNat_lt
  have hd := x.d.toNat_lt
  unfold ofU32
  rw [toU32_toNat, beNat_octets]
  congr 1 <;> (apply UInt8.toNat_inj.mp; rw [UInt8.toNat_ofNat']; omega)

theorem toU32_inj (x y : Ipv4Addr) (h : x.toU32 = y.toU32) : x = y := by
  rw [← ofU32_toU32 x, h, ofU32_toU32]

/-- What the text of an octet looks like to `readOctet`. -/
theorem octetText_spec (b : UInt8) :
    (∀ c ∈ octetText b, c.isDigit = true) ∧ (octetText b).length ≠ 0 ∧ (octetText b).length ≤ 3 ∧
      ¬ ((octetText b).head? = some '0' ∧ 1 < (octetText b).length) ∧
      digitsVal (octetText b) = b.toNat := by
  have key : ∀ n, n < 256 → ((Nat.toDigits 10 n).all Char.isDigit &&
      (Nat.toDigits 10 n).length != 0 && decide ((Nat.toDigits 10 n).length ≤ 3) &&
      !((Nat.toDigits 10 n).head? == some '0' && decide (1 < (Nat.toDigits 10 n).length)) &&
      digitsVal (Nat.toDigits 10 n) == n) = true := by
    decide +kernel
  have h := key b.toNat b.toNat_lt
  simp only [Bool.and_eq_true, List.all_eq_true, bne_iff_ne, decide_eq_true_eq, beq_iff_eq,
    Bool.not_eq_true', ← Bool.not_eq_true, and_assoc] at h
  exact h

theorem readOctet_octetText (b : UInt8) (rest : List Char)
    (hrest : ∀ c ∈ rest.head?, c.isDigit = false) :
    readOctet (octetText b ++ rest) = some (b, rest) := by
  obtain ⟨hd, h0, h3, hz, hv⟩ := octetText_spec b
  have hnil : rest.takeWhile Char.isDigit = [] ∧ rest.dropWhile Char.isDigit = rest := by
    cases rest with
    | nil => exact ⟨rfl, rfl⟩
    | cons c cs =>
      have hc : c.isDigit = false := hrest c rfl
      simp [hc]
  have ht : (octetText b ++ rest).takeWhile Char.isDigit = octetText b := by
    rw [List.takeWhile_append_of_pos hd, hnil.1, List.append_nil]
  have hr : (octetText b ++ rest).dropWhile Char.isDigit = rest := by
    rw [List.dropWhile_append_of_pos hd, hnil.2]
  have hb := b.toNat_lt
  unfold readOctet
  simp only [ht, hr]
  rw [if_neg h0, if_neg (by omega), if_neg hz, if_neg (by rw [hv]; omega), hv, UInt8.ofNat_toNat]

theorem readAddr_chars (x : Ipv4Addr) : readAddr x.chars = some (x, []) := by
  have dot : ∀ (s : List Char), ∀ c ∈ ('.' :: s).head?, c.isDigit = false := by
    intro s c hc
    cases hc
    rfl
  unfold readAddr chars
  rw [readOctet_octetText _ _ (dot _)]
  simp only [Option.bind_eq_bind, Option.bind_some, readDot]
  rw [readOctet_octetText _ _ (dot _)]
  simp only [Option.bind_some]
  rw [readOctet_octetText _ _ (dot _)]
  simp only [Option.bind_some]
  have hlast := readOctet_octetText x.d [] (by simp)
  rw [List.append_nil] at hlast
  rw [hlast]
  rfl

/-- The parser reads back what `to_string` prints. -/
theorem parse_toText (x : Ipv4Addr) : parse x.toText = some x := by
  unfold parse toText
  rw [String.toList_ofList, readAddr_chars]

theorem toText_inj (x y : Ipv4Addr) (h : x.toText = y.toText) : x = y := by
  have hp := parse_toText x
  rw [h, parse_toText, Option.some.injEq] at hp
  exact hp.symm

/-- A digit is the character of its value. -/
theorem digitChar_of_isDigit (c : Char) (h : c.isDigit = true) :
    c.toNat - 48 < 10 ∧ Nat.digitChar (c.toNat - 48) = c := by
  simp only [Char.isDigit, Bool.and_eq_true, decide_eq_true_eq, UInt32.le_iff_toNat_le] at h
  have h1 : 48 ≤ c.toNat := h.1
  have h2 : c.toNat ≤ 57 := h.2
  refine ⟨by omega, ?_⟩
  apply Char.toNat_inj.mp
  rw [Nat.toNat_digitChar_of_lt_ten (by omega)]
  omega

theorem digitsVal_snoc (l : List Char) (c : Char) :
    digitsVal (l ++ [c]) = 10 * digitsVal l + (c.toNat - 48) := by
  unfold digitsVal
  rw [List.foldl_append, List.foldl_cons, List.foldl_nil]

theorem digitsVal_pos (l : List Char) (hd : ∀ c ∈ l, c.isDigit = true) (h0 : l ≠ [])
    (hz : l.head? ≠ some '0') : 0 < digitsVal l := by
  induction l using List.reverseRecOn with
  | nil => exact absurd rfl h0
  | append_singleton l c ih =>
    rw [digitsVal_snoc]
    by_cases hl : l = []
    · -- one digit, and it is not zero
      subst hl
      obtain ⟨-, hc⟩ := digitChar_of_isDigit c (hd c (by simp))
      have hne : c.toNat - 48 ≠ 0 := by
        intro h
        rw [h] at hc
        exact hz (by rw [← hc]; rfl)
      omega
    · have hhead : l.head? ≠ some '0' := by
        rwa [List.head?_append_of_ne_nil _ hl] at hz
      have := ih (fun c hc => hd c (List.mem_append_left _ hc)) hl hhead
      omega

/-- Digits without a leading zero are the text of their value. -/
theorem toDigits_digitsVal (l : List Char) (hd : ∀ c ∈ l, c.isDigit = true) (h0 : l ≠ [])
    (hz : ¬ (l.head? = some '0' ∧ 1 < l.length)) : Nat.toDigits 10 (digitsVal l) = l := by
  induction l using List.reverseRecOn with
  | nil => exact absurd rfl h0
  | append_singleton l c ih =>
    obtain ⟨hlt, hc⟩ := digitChar_of_isDigit c (hd c (by simp))
    have hd' : ∀ c ∈ l, c.isDigit = true := fun c hc => hd c (List.mem_append_left _ hc)
    rw [digitsVal_snoc]
    by_cases hl : l = []
    · subst hl
      rw [show 10 * digitsVal [] + (c.toNat - 48) = c.toNat - 48 from Nat.zero_add _,
        Nat.toDigits_of_lt_base hlt, hc, List.nil_append]
    · have hpos := List.length_pos_iff.mpr hl
      have hhead : l.head? ≠ some '0' := by
        intro h
        refine hz ⟨by rwa [List.head?_append_of_ne_nil _ hl], ?_⟩
        rw [List.length_append, List.length_singleton]
        omega
      have hval := digitsVal_pos l hd' hl hhead
      rw [Nat.toDigits_of_base_le (by omega) (by omega),
        show (10 * digitsVal l + (c.toNat - 48)) / 10 = digitsVal l by omega,
        show (10 * digitsVal l + (c.toNat - 48)) % 10 = c.toNat - 48 by omega, hc,
        ih hd' hl fun h => hhead h.1]

theorem eq_of_readOctet (s : List Char) (b : UInt8) (rest : List Char)
    (h : readOctet s = some (b, rest)) : s = octetText b ++ rest := by
  unfold readOctet at h
  simp only at h
  split at h
  · cases h
  split at h
  · cases h
  split at h
  · cases h
  split at h
  · cases h
  next h0 h3 hz hv =>
    simp only [Option.some.injEq, Prod.mk.injEq] at h
    obtain ⟨rfl, rfl⟩ := h
    have hd : ∀ c ∈ s.takeWhile Char.isDigit, c.isDigit = true :=
      List.all_eq_true.mp List.all_takeWhile
    have ht : octetText (UInt8.ofNat (digitsVal (s.takeWhile Char.isDigit))) =
        s.takeWhile Char.isDigit := by
      unfold octetText
      rw [UInt8.toNat_ofNat', Nat.mod_eq_of_lt (by omega)]
      exact toDigits_digitsVal _ hd (fun h => h0 (by rw [h]; rfl)) hz
    rw [ht, List.takeWhile_append_dropWhile]

theorem eq_of_readDot (s rest : List Char) (h : readDot s = some rest) : s = '.' :: rest := by
  unfold readDot at h
  split at h
  · cases h; rfl
  · cases h

/-- What `read_ipv4_addr` takes is the text of the address. -/
theorem eq_of_readAddr (s : List Char) (x : Ipv4Addr) (rest : List Char)
    (h : readAddr s = some (x, rest)) : s = x.chars ++ rest := by
  unfold readAddr at h
  simp only [Option.bind_eq_bind, Option.bind_eq_some_iff, Option.some.injEq, Prod.mk.injEq,
    Prod.exists] at h
  obtain ⟨a, s1, h1, s2, h2, b, s3, h3, s4, h4, c, s5, h5, s6, h6, d, s7, h7, rfl, rfl⟩ := h
  unfold chars
  rw [eq_of_readOctet _ _ _ h1, eq_of_readDot _ _ h2, eq_of_readOctet _ _ _ h3, eq_of_readDot _ _ h4,
    eq_of_readOctet _ _ _ h5, eq_of_readDot _ _ h6, eq_of_readOctet _ _ _ h7]
  simp only [List.append_assoc, List.cons_append]

/-- The parser accepts no other text of an address than the printed one. -/
theorem eq_toText_of_parse (text : String) (x : Ipv4Addr) (h : parse text = some x) :
    text = x.toText := by
  unfold parse at h
  split at h
  · next y hr =>
    cases h
    unfold toText
    rw [← String.ofList_toList (s := text), eq_of_readAddr _ _ _ hr, List.append_nil]
  · cases h

/-- The text of an address has digits and dots. -/
theorem colon_not_mem_chars (x : Ipv4Addr) : ':' ∉ x.chars := by
  have hoctet : ∀ b, ':' ∉ octetText b := by
    intro b hb
    have := (octetText_spec b).1 ':' hb
    revert this
    decide
  unfold chars
  simp only [List.mem_append, List.mem_cons, hoctet, or_false, Char.reduceEq, not_false_iff]

end Ipv4Addr
end NomadP2P
