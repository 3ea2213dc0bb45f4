import Mathlib.Data.Nat.Digits.Lemmas
import Mathlib.Data.List.Basic

/-!
# Byte strings as numbers, and back

`leNat` and `beNat` read a byte string as a number, least or most significant
byte first; `leBytes w n` and `beBytes w n` write `n` on `w` bytes.  `ByteOrder`
picks one of the two, as a processor does.

    bs.length = cs.length → leNat bs = leNat cs → bs = cs                (leNat_inj)
    leNat (leBytes w n) = n % 256 ^ w                                    (leNat_leBytes)
    leBytes w (m ^^^ n) = zipWith (· ^^^ ·) (leBytes w m) (leBytes w n)  (leBytes_xor)

`overwrite l off bs` stores `bs` over the bytes of `l` from `off` on, and `hex`
is the lower-case hexadecimal rendering, two digits a byte.
-/

namespace Bytes

/-! ## Numbers -/

/-- The number with bytes `bs`, least significant first. -/
def leNat (bs : List UInt8) : Nat := Nat.ofDigits 256 (bs.map UInt8.toNat)

/-- The number with bytes `bs`, most significant first. -/
def beNat (bs : List UInt8) : Nat := leNat bs.reverse

/-- The `w` low bytes of `n`, least significant first. -/
def leBytes : Nat → Nat → List UInt8
  | 0, _ => []
  | w + 1, n => UInt8.ofNat n :: leBytes w (n / 256)

/-- The `w` low bytes of `n`, most significant first. -/
def beBytes (w n : Nat) : List UInt8 := (leBytes w n).reverse

theorem leNat_cons (b : UInt8) (bs : List UInt8) : leNat (b :: bs) = b.toNat + 256 * leNat bs := by
  unfold leNat
  rw [List.map_cons, Nat.ofDigits_cons]

theorem leNat_lt (bs : List UInt8) : leNat bs < 256 ^ bs.length := by
  unfold leNat
  have h := Nat.ofDigits_lt_base_pow_length (b := 256) (l := bs.map UInt8.toNat) (by omega) (by
    intro x hx
    obtain ⟨b, -, rfl⟩ := List.mem_map.mp hx
    exact b.toNat_lt)
  rwa [List.length_map] at h

theorem leNat_inj (bs cs : List UInt8) (hlen : bs.length = cs.length) (h : leNat bs = leNat cs) :
    bs = cs := by
  induction bs generalizing cs with
  | nil => rw [List.length_nil] at hlen; exact (List.eq_nil_of_length_eq_zero hlen.symm).symm
  | cons b bs ih =>
    cases cs with
    | nil => cases hlen
    | cons c cs =>
      rw [leNat_cons, leNat_cons] at h
      have hb := b.toNat_lt
      have hc := c.toNat_lt
      rw [UInt8.toNat_inj.mp (by omega : b.toNat = c.toNat),
        ih cs (by simpa using hlen) (by omega)]

theorem beNat_lt (bs : List UInt8) : beNat bs < 256 ^ bs.length := by
  have h := leNat_lt bs.reverse
  rwa [List.length_reverse] at h

theorem length_leBytes (w n : Nat) : (leBytes w n).length = w := by
  induction w generalizing n with
  | zero => rfl
  | succ w ih => rw [leBytes, List.length_cons, ih]

theorem length_beBytes (w n : Nat) : (beBytes w n).length = w := by
  rw [beBytes, List.length_reverse, length_leBytes]

theorem leNat_leBytes (w n : Nat) : leNat (leBytes w n) = n % 256 ^ w := by
  induction w generalizing n with
  | zero => rw [Nat.pow_zero, Nat.mod_one]; rfl
  | succ w ih =>
    have h : n % 256 ^ (w + 1) = n % 256 + 256 * (n / 256 % 256 ^ w) := by
      rw [Nat.pow_succ', Nat.mod_mul]
    rw [leBytes, leNat_cons, ih, UInt8.toNat_ofNat', h]

theorem beNat_beBytes (w n : Nat) : beNat (beBytes w n) = n % 256 ^ w := by
  rw [beNat, beBytes, List.reverse_reverse, leNat_leBytes]

theorem leBytes_leNat (bs : List UInt8) : leBytes bs.length (leNat bs) = bs := by
  apply leNat_inj
  · rw [length_leBytes]
  · rw [leNat_leBytes, Nat.mod_eq_of_lt (leNat_lt bs)]

theorem beBytes_beNat (bs : List UInt8) : beBytes bs.length (beNat bs) = bs := by
  rw [beBytes, beNat, ← List.length_reverse, leBytes_leNat, List.reverse_reverse]

theorem leBytes_xor (w m n : Nat) :
    leBytes w (m ^^^ n) = List.zipWith (· ^^^ ·) (leBytes w m) (leBytes w n) := by
  induction w generalizing m n with
  | zero => rfl
  | succ w ih =>
    rw [leBytes, leBytes, leBytes, List.zipWith_cons_cons, ← ih]
    congr 1
    · apply UInt8.toNat_inj.mp
      rw [UInt8.toNat_ofNat', UInt8.toNat_xor, UInt8.toNat_ofNat', UInt8.toNat_ofNat',
        Nat.xor_mod_two_pow]
    · exact congrArg _ (Nat.xor_div_two_pow (n := 8))

theorem beBytes_xor (w m n : Nat) :
    beBytes w (m ^^^ n) = List.zipWith (· ^^^ ·) (beBytes w m) (beBytes w n) := by
  rw [beBytes, leBytes_xor, beBytes, beBytes, List.reverse_zipWith]
  rw [length_leBytes, length_leBytes]

/-! ## Byte order of a processor -/

inductive ByteOrder
  | little
  | big
deriving DecidableEq, Repr

/-- The number a processor of this byte order loads from memory holding `bs`. -/
def ByteOrder.load : ByteOrder → List UInt8 → Nat
  | .little, bs => leNat bs
  | .big, bs => beNat bs

/-- The bytes it stores for `n` in a `w`-byte cell. -/
def ByteOrder.store : ByteOrder → Nat → Nat → List UInt8
  | .little, w, n => leBytes w n
  | .big, w, n => beBytes w n

theorem ByteOrder.load_lt (e : ByteOrder) (bs : List UInt8) : e.load bs < 256 ^ bs.length := by
  cases e with
  | little => exact leNat_lt bs
  | big => exact beNat_lt bs

theorem ByteOrder.load_inj (e : ByteOrder) (bs cs : List UInt8) (hlen : bs.length = cs.length)
    (h : e.load bs = e.load cs) : bs = cs := by
  cases e with
  | little => exact leNat_inj bs cs hlen h
  | big =>
    apply List.reverse_injective
    exact leNat_inj _ _ (by rw [List.length_reverse, List.length_reverse, hlen]) h

theorem ByteOrder.length_store (e : ByteOrder) (w n : Nat) : (e.store w n).length = w := by
  cases e with
  | little => exact length_leBytes w n
  | big => exact length_beBytes w n

theorem ByteOrder.load_store (e : ByteOrder) (w n : Nat) : e.load (e.store w n) = n % 256 ^ w := by
  cases e with
  | little => exact leNat_leBytes w n
  | big => exact beNat_beBytes w n

/-! ## Storing into a byte string -/

/-- `bs` written over the bytes of `l` that start at `off`. -/
def overwrite (l : List UInt8) (off : Nat) (bs : List UInt8) : List UInt8 :=
  l.take off ++ bs ++ l.drop (off + bs.length)

theorem length_overwrite (l : List UInt8) (off : Nat) (bs : List UInt8)
    (h : off + bs.length ≤ l.length) : (overwrite l off bs).length = l.length := by
  unfold overwrite
  rw [List.length_append, List.length_append, List.length_take, List.length_drop]
  omega

/-- The bytes outside the written range stay. -/
theorem overwrite_get_of_outside (l : List UInt8) (off : Nat) (bs : List UInt8) (i : Nat)
    (h : off + bs.length ≤ l.length) (hi : i < off ∨ off + bs.length ≤ i) :
    (overwrite l off bs)[i]? = l[i]? := by
  unfold overwrite
  rcases hi with hi | hi
  · rw [List.append_assoc, List.getElem?_append_left (by rw [List.length_take]; omega),
      List.getElem?_take_of_lt hi]
  · rw [List.getElem?_append_right (by rw [List.length_append, List.length_take]; omega),
      List.length_append, List.length_take, List.getElem?_drop]
    congr 1
    omega

/-- The bytes inside it are the written ones. -/
theorem overwrite_get_of_inside (l : List UInt8) (off : Nat) (bs : List UInt8) (i : Nat)
    (h : off + bs.length ≤ l.length) (hi : i < bs.length) :
    (overwrite l off bs)[off + i]? = bs[i]? := by
  unfold overwrite
  rw [List.append_assoc, List.getElem?_append_right (by rw [List.length_take]; omega),
    List.length_take, List.getElem?_append_left (by omega)]
  congr 1
  omega

/-- Writing the bytes that are there changes nothing. -/
theorem overwrite_self (l : List UInt8) (off w : Nat) (h : off + w ≤ l.length) :
    overwrite l off ((l.drop off).take w) = l := by
  unfold overwrite
  rw [List.length_take, List.length_drop, Nat.min_eq_left (by omega), List.append_assoc,
    ← List.drop_drop, List.take_append_drop, List.take_append_drop]

/-- Where the written range reads as before, what was written is what was there. -/
theorem eq_of_overwrite_same (l : List UInt8) (off : Nat) (bs : List UInt8)
    (h : off + bs.length ≤ l.length)
    (hsame : ∀ i, i < bs.length → (overwrite l off bs)[off + i]? = l[off + i]?) :
    bs = (l.drop off).take bs.length := by
  apply List.ext_getElem?
  intro i
  by_cases hi : i < bs.length
  · rw [List.getElem?_take_of_lt hi, List.getElem?_drop, ← hsame i hi,
      overwrite_get_of_inside l off bs i h hi]
  · rw [List.getElem?_eq_none (by omega), List.getElem?_eq_none]
    rw [List.length_take]
    omega

/-! ## Hexadecimal -/

def hexDigit (n : Nat) : Char := "0123456789abcdef".toList.getD n '0'

/-- One byte, two lower-case digits. -/
def hexByte (b : UInt8) : List Char := [hexDigit (b.toNat / 16), hexDigit (b.toNat % 16)]

def hex (bs : List UInt8) : String := String.ofList (bs.flatMap hexByte)

theorem hexDigit_inj : ∀ m, m < 16 → ∀ n, n < 16 → hexDigit m = hexDigit n → m = n := by
  decide

theorem hexByte_inj (b c : UInt8) (h : hexByte b = hexByte c) : b = c := by
  simp only [hexByte, List.cons.injEq, and_true] at h
  have hb := b.toNat_lt
  have hc := c.toNat_lt
  have h1 := hexDigit_inj _ (by omega) _ (by omega) h.1
  have h2 := hexDigit_inj _ (by omega) _ (by omega) h.2
  exact UInt8.toNat_inj.mp (by omega)

theorem flatMap_hexByte_inj (bs cs : List UInt8) (h : bs.flatMap hexByte = cs.flatMap hexByte) :
    bs = cs := by
  induction bs generalizing cs with
  | nil =>
    cases cs with
    | nil => rfl
    | cons c cs => simp [hexByte] at h
  | cons b bs ih =>
    cases cs with
    | nil => simp [hexByte] at h
    | cons c cs =>
      rw [List.flatMap_cons, List.flatMap_cons] at h
      obtain ⟨h1, h2⟩ := List.append_inj h rfl
      rw [hexByte_inj b c h1, ih cs h2]

/-- Different byte strings have different renderings. -/
theorem hex_inj (bs cs : List UInt8) (h : hex bs = hex cs) : bs = cs :=
  flatMap_hexByte_inj bs cs (String.ofList_injective h)

end Bytes
