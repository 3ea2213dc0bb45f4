import Mathlib.Data.List.Basic
import Mathlib.Data.List.DropRight

/-!
# Lines of a byte stream, and the text in them

A stream is the bytes up to its end.  `readUntil` takes the bytes up to and
including a delimiter, `readLine` decodes a line, and the rest are the text
operations a line-based protocol is written with, over lists of characters:

    readLine (utf8 (line ++ ['\n']) ++ rest) = (some (line ++ ['\n']), rest)   (readLine_line)
    lines (line ++ '\n' :: rest) = stripCr line :: lines rest                  (lines_cons)
    splitWhitespace (words, each with a space behind it) = words               (splitWhitespace_words)
-/

namespace Text

/-! ## Algorithm -/

/-- The encoding of a text. -/
def utf8 (text : List Char) : List UInt8 := text.flatMap String.utf8EncodeChar

/-- The text with that encoding, if there is one. -/
def fromUtf8 (bytes : List UInt8) : Option (List Char) :=
  (String.fromUTF8? bytes.toByteArray).map String.toList

/-- The bytes up to and including the first `delim` (all of them if there is none),
and the rest. -/
def readUntil (delim : UInt8) : List UInt8 → List UInt8 × List UInt8
  | [] => ([], [])
  | b :: bs =>
    if b = delim then ([b], bs)
    else (b :: (readUntil delim bs).1, (readUntil delim bs).2)

/-- The next line with its newline, `none` if it is not UTF-8, and the rest of the
stream.  At the end of the stream the line is empty. -/
def readLine (stream : List UInt8) : Option (List Char) × List UInt8 :=
  (fromUtf8 (readUntil 10 stream).1, (readUntil 10 stream).2)

/-- The `White_Space` property. -/
def isWhitespace (c : Char) : Bool :=
  let n := c.toNat
  (9 ≤ n && n ≤ 13) || n == 32 || n == 0x85 || n == 0xA0 || n == 0x1680 ||
    (0x2000 ≤ n && n ≤ 0x200A) || n == 0x2028 || n == 0x2029 || n == 0x202F || n == 0x205F ||
    n == 0x3000

/-- The non-empty pieces between white space. -/
def splitWhitespace (text : List Char) : List (List Char) :=
  (text.splitOnP isWhitespace).filter fun piece => !piece.isEmpty

def stripCr (line : List Char) : List Char :=
  if line.getLast? = some '\r' then line.dropLast else line

/-- The lines of a text, without the newlines and a carriage return before one. -/
def lines (text : List Char) : List (List Char) :=
  let pieces := text.splitOn '\n'
  pieces.dropLast.map stripCr ++ pieces.getLast?.toList.filter fun line => !line.isEmpty

/-- The text without the white space at its two ends. -/
def trim (text : List Char) : List Char := (text.dropWhile isWhitespace).rdropWhile isWhitespace

/-- The text without the copies of `pat` in front of it. -/
def trimStartMatches (pat text : List Char) : List Char :=
  if pat ≠ [] ∧ pat.isPrefixOf text then trimStartMatches pat (text.drop pat.length) else text
termination_by text.length
decreasing_by
  next h =>
    have hpat : 0 < pat.length := List.length_pos_of_ne_nil h.1
    have hle := (List.isPrefixOf_iff_prefix.mp h.2).length_le
    rw [List.length_drop]
    omega

/-! ## Lemmas -/

theorem readUntil_append (delim : UInt8) (bs rest : List UInt8) (h : delim ∉ bs) :
    readUntil delim (bs ++ delim :: rest) = (bs ++ [delim], rest) := by
  induction bs with
  | nil => simp only [List.nil_append, readUntil, if_true]
  | cons b bs ih =>
    obtain ⟨hb, hbs⟩ := not_or.mp (mt List.mem_cons.mpr h)
    rw [List.cons_append, readUntil, if_neg (Ne.symm hb), ih hbs, List.cons_append]

theorem length_readUntil (delim : UInt8) (stream : List UInt8) :
    (readUntil delim stream).1.length + (readUntil delim stream).2.length = stream.length := by
  induction stream with
  | nil => rfl
  | cons b bs ih =>
    unfold readUntil
    split
    · rw [List.length_singleton, List.length_cons, Nat.add_comm]
    · show (b :: (readUntil delim bs).1).length + (readUntil delim bs).2.length = (b :: bs).length
      rw [List.length_cons, List.length_cons]
      omega

/-- Trimming leaves nothing exactly of white space. -/
theorem trim_isEmpty (text : List Char) : (trim text).isEmpty = text.all isWhitespace := by
  rw [Bool.eq_iff_iff, List.isEmpty_iff, List.all_eq_true, trim, List.rdropWhile_eq_nil_iff]
  constructor
  · intro h
    refine List.dropWhile_eq_nil_iff.mp ?_
    by_contra hne
    have hhead := List.head_dropWhile_not isWhitespace hne
    rw [h _ (List.head_mem hne)] at hhead
    cases hhead
  · intro h
    rw [List.dropWhile_eq_nil_iff.mpr h]
    intro x hx
    cases hx

/-- White space around a text without any is trimmed away. -/
theorem trim_padded (left mid right : List Char) (hleft : ∀ c ∈ left, isWhitespace c = true)
    (hmid : ∀ c ∈ mid, isWhitespace c = false) (hright : ∀ c ∈ right, isWhitespace c = true) :
    trim (left ++ (mid ++ right)) = mid := by
  have hself : ∀ l : List Char, (∀ c ∈ l, isWhitespace c = false) → l.dropWhile isWhitespace = l := by
    intro l hl
    cases l with
    | nil => rfl
    | cons c l => rw [List.dropWhile_cons_of_neg (by simp [hl c List.mem_cons_self])]
  have hdrop : (mid ++ right).rdropWhile isWhitespace = mid := by
    unfold List.rdropWhile
    rw [List.reverse_append, List.dropWhile_append_of_pos fun c hc => hright c (List.mem_reverse.mp hc),
      hself _ fun c hc => hmid c (List.mem_reverse.mp hc), List.reverse_reverse]
  unfold trim
  rw [List.dropWhile_append_of_pos hleft]
  cases mid with
  | nil =>
    rw [List.nil_append, List.dropWhile_eq_nil_iff.mpr hright]
    rfl
  | cons c mid =>
    rw [List.cons_append, List.dropWhile_cons_of_neg (by simp [hmid c List.mem_cons_self]),
      ← List.cons_append, hdrop]

/-- A first character that is not white space stays the first. -/
theorem trim_cons (c : Char) (text : List Char) (h : isWhitespace c = false) :
    ∃ rest, trim (c :: text) = c :: rest := by
  unfold trim
  rw [List.dropWhile_cons_of_neg (by simp [h])]
  cases htrim : (c :: text).rdropWhile isWhitespace with
  | nil =>
    rw [List.rdropWhile_eq_nil_iff.mp htrim c List.mem_cons_self] at h
    cases h
  | cons d rest =>
    have hpre : d :: rest <+: c :: text := htrim ▸ List.rdropWhile_prefix _ _
    obtain ⟨hd, -⟩ := List.cons_prefix_cons.mp hpre
    exact ⟨rest, by rw [hd]⟩

theorem trimStartMatches_append (pat text : List Char) (h : pat ≠ []) :
    trimStartMatches pat (pat ++ text) = trimStartMatches pat text := by
  have hpre : pat.isPrefixOf (pat ++ text) = true :=
    List.isPrefixOf_iff_prefix.mpr (List.prefix_append pat text)
  rw [trimStartMatches, if_pos ⟨h, hpre⟩, List.drop_left]

theorem trimStartMatches_of_not_prefix (pat text : List Char) (h : ¬ pat <+: text) :
    trimStartMatches pat text = text := by
  rw [trimStartMatches, if_neg]
  rintro ⟨-, hpre⟩
  exact h (List.isPrefixOf_iff_prefix.mp hpre)

theorem utf8_append (s t : List Char) : utf8 (s ++ t) = utf8 s ++ utf8 t := List.flatMap_append

theorem fromUtf8_utf8 (text : List Char) : fromUtf8 (utf8 text) = some text := by
  have hvalid : (utf8 text).toByteArray.IsValidUTF8 := ⟨text, rfl⟩
  unfold fromUtf8 String.fromUTF8?
  rw [dif_pos hvalid, Option.map_some]
  show some (String.ofList text).toList = _
  rw [String.toList_ofList]

/-- A byte below `128` is a character of its own: those of a longer encoding are above. -/
theorem toNat_of_mem_utf8EncodeChar (c : Char) (b : UInt8) (hmem : b ∈ String.utf8EncodeChar c)
    (hb : b.toNat < 128) : c.val.toNat = b.toNat := by
  have hlt : c.val.toNat < 1114112 := by
    have := c.valid
    simp only [UInt32.isValidChar, Nat.isValidChar] at this
    omega
  have hcases := hmem
  simp only [String.utf8EncodeChar] at hcases
  split at hcases
  · simp only [List.mem_singleton, ← UInt8.toNat_inj, UInt8.toNat_ofNat'] at hcases
    omega
  · split at hcases
    · simp only [List.mem_cons, List.not_mem_nil, or_false, ← UInt8.toNat_inj, UInt8.toNat_ofNat']
        at hcases
      omega
    · split at hcases <;>
      · simp only [List.mem_cons, List.not_mem_nil, or_false, ← UInt8.toNat_inj, UInt8.toNat_ofNat']
          at hcases
        omega

theorem newline_mem_utf8 (text : List Char) (h : 10 ∈ utf8 text) : '\n' ∈ text := by
  obtain ⟨c, hc, hb⟩ := List.mem_flatMap.mp h
  have hval : c.val.toNat = 10 := toNat_of_mem_utf8EncodeChar c 10 hb (by decide)
  have : c = '\n' := Char.ext (UInt32.toNat_inj.mp hval)
  rwa [← this]

/-- An encoding that starts with that of an ASCII text starts with its first letter. -/
theorem head_of_utf8_prefix (a : Char) (s text : List Char) (ha : a.val.toNat < 128)
    (h : utf8 (a :: s) <+: utf8 text) : text.head? = some a := by
  have hfirst : String.utf8EncodeChar a = [UInt8.ofNat a.val.toNat] := by
    simp only [String.utf8EncodeChar]
    rw [if_pos (by omega)]
  obtain ⟨rest, hrest⟩ := h
  cases text with
  | nil =>
    rw [utf8, List.flatMap_cons, hfirst] at hrest
    cases hrest
  | cons c text =>
    have hmem : UInt8.ofNat a.val.toNat ∈ String.utf8EncodeChar c := by
      rw [utf8, List.flatMap_cons, hfirst, utf8, List.flatMap_cons] at hrest
      cases henc : String.utf8EncodeChar c with
      | nil => exact absurd henc (String.utf8EncodeChar_ne_nil)
      | cons b bs =>
        rw [henc] at hrest
        rw [(List.cons.inj hrest).1]
        exact List.mem_cons_self
    have hb : (UInt8.ofNat a.val.toNat).toNat = a.val.toNat := by
      rw [UInt8.toNat_ofNat']
      omega
    have hval := toNat_of_mem_utf8EncodeChar c _ hmem (by omega)
    rw [hb] at hval
    rw [List.head?_cons, Char.ext (UInt32.toNat_inj.mp hval)]

/-- A line is read back, whatever follows it. -/
theorem readLine_bytes (line rest : List UInt8) (h : 10 ∉ line) :
    readLine (line ++ 10 :: rest) = (fromUtf8 (line ++ [10]), rest) := by
  unfold readLine
  rw [readUntil_append 10 line rest h]

theorem fromUtf8_line (line : List Char) : fromUtf8 (utf8 line ++ [10]) = some (line ++ ['\n']) := by
  have hline : utf8 line ++ [10] = utf8 (line ++ ['\n']) := (utf8_append line ['\n']).symm
  rw [hline, fromUtf8_utf8]

/-- A line of text, as bytes. -/
theorem utf8_line_append (line : List Char) (rest : List UInt8) :
    utf8 (line ++ ['\n']) ++ rest = utf8 line ++ 10 :: rest := by
  rw [utf8_append, List.append_assoc]
  rfl

theorem readLine_line (line : List Char) (rest : List UInt8) (h : '\n' ∉ line) :
    readLine (utf8 (line ++ ['\n']) ++ rest) = (some (line ++ ['\n']), rest) := by
  rw [utf8_line_append, readLine_bytes _ rest (mt (newline_mem_utf8 line) h), fromUtf8_line]

/-! ### Words and lines -/

theorem ne_of_not_mem (sep : Char) (piece : List Char) (h : sep ∉ piece) :
    ∀ c ∈ piece, (c == sep) = false := by
  intro c hc
  refine beq_false_of_ne fun heq => h ?_
  rw [← heq]
  exact hc

theorem splitOn_append_cons (sep : Char) (piece rest : List Char) (h : sep ∉ piece) :
    (piece ++ sep :: rest).splitOn sep = piece :: rest.splitOn sep :=
  List.splitOnP_append_cons_of_forall_mem (ne_of_not_mem sep piece h) sep (beq_self_eq_true sep) rest

theorem lines_cons (line rest : List Char) (h : '\n' ∉ line) :
    lines (line ++ '\n' :: rest) = stripCr line :: lines rest := by
  have hne : rest.splitOn '\n' ≠ [] := List.splitOnP_ne_nil _ _
  unfold lines
  rw [splitOn_append_cons '\n' line rest h]
  dsimp only
  rw [List.dropLast_cons_of_ne_nil hne, List.getLast?_cons, List.getLast?_eq_some_getLast hne,
    Option.getD_some, List.map_cons, List.cons_append]

theorem lines_of_no_newline (line : List Char) (h : '\n' ∉ line) (hne : line ≠ []) : lines line = [line] := by
  have hsplit : line.splitOn '\n' = [line] :=
    List.splitOnP_eq_singleton (ne_of_not_mem '\n' line h)
  have hempty : line.isEmpty = false := by
    rw [Bool.eq_false_iff, ne_eq, List.isEmpty_iff]
    exact hne
  unfold lines
  rw [hsplit]
  show [line].filter (fun line => !line.isEmpty) = [line]
  rw [List.filter_cons_of_pos (by rw [hempty]; rfl), List.filter_nil]

/-- Only the end of a line is taken off. -/
theorem stripCr_append_cons (front back : List Char) (c : Char) (h : c ≠ '\r') :
    ∃ back', stripCr (front ++ c :: back) = front ++ c :: back' := by
  unfold stripCr
  split
  · next hlast =>
    have hback : back ≠ [] := by
      rintro rfl
      rw [List.getLast?_append, List.getLast?_singleton, Option.some_or] at hlast
      exact h (Option.some.inj hlast)
    refine ⟨back.dropLast, ?_⟩
    rw [List.dropLast_append_of_ne_nil (List.cons_ne_nil c back), List.dropLast_cons_of_ne_nil hback]
  · exact ⟨back, rfl⟩

/-- What stands in front of a character in the first line. -/
theorem lines_head (front rest : List Char) (c : Char) (hfront : '\n' ∉ front) (hc : c ≠ '\n')
    (hcr : c ≠ '\r') : ∃ rest', (lines (front ++ c :: rest)).head? = some (front ++ c :: rest') := by
  have hline : ∀ back : List Char, '\n' ∉ back → '\n' ∉ front ++ c :: back := by
    intro back hback hmem
    rcases List.mem_append.mp hmem with hmem | hmem
    · exact hfront hmem
    · rcases List.mem_cons.mp hmem with heq | hmem
      · exact hc heq.symm
      · exact hback hmem
  by_cases hmem : '\n' ∈ rest
  · obtain ⟨back, more, hrest, hback⟩ := List.eq_append_cons_of_mem hmem
    obtain ⟨back', hstrip⟩ := stripCr_append_cons front back c hcr
    refine ⟨back', ?_⟩
    rw [hrest, ← List.cons_append, ← List.append_assoc, lines_cons _ _ (hline back hback), hstrip]
    rfl
  · refine ⟨rest, ?_⟩
    rw [lines_of_no_newline _ (hline rest hmem) (by simp)]
    rfl

theorem splitWhitespace_space (c : Char) (rest : List Char) (h : isWhitespace c = true) :
    splitWhitespace (c :: rest) = splitWhitespace rest := by
  have hsplit : ([] ++ c :: rest).splitOnP isWhitespace = [] :: rest.splitOnP isWhitespace :=
    List.splitOnP_append_cons_of_forall_mem (fun x hx => absurd hx List.not_mem_nil) c h rest
  unfold splitWhitespace
  rw [← List.nil_append (c :: rest), hsplit]
  rfl

theorem splitWhitespace_word (word rest : List Char) (hne : word ≠ [])
    (hword : ∀ c ∈ word, isWhitespace c = false) :
    splitWhitespace (word ++ ' ' :: rest) = word :: splitWhitespace rest := by
  have hempty : (!word.isEmpty) = true := by
    rw [Bool.not_eq_true', Bool.eq_false_iff, ne_eq, List.isEmpty_iff]
    exact hne
  unfold splitWhitespace
  rw [List.splitOnP_append_cons_of_forall_mem hword ' ' (by decide) rest, List.filter_cons, hempty]
  rfl

theorem splitWhitespace_words (words : List (List Char))
    (h : ∀ word ∈ words, word ≠ [] ∧ ∀ c ∈ word, isWhitespace c = false) :
    splitWhitespace (words.flatMap fun word => word ++ [' ']) = words := by
  induction words with
  | nil => rfl
  | cons word words ih =>
    obtain ⟨hne, hword⟩ := h word List.mem_cons_self
    rw [List.flatMap_cons, List.append_assoc, List.singleton_append, splitWhitespace_word _ _ hne hword,
      ih fun w hw => h w (List.mem_cons_of_mem _ hw)]

end Text
