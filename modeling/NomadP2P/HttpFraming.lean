import NomadP2P.Http

/-!
# The body of a request (`handle_api_connection` of `agent/src/api.rs`)

A request is lines of bytes: the request line, header lines of which one is a
`Content-Length`, a blank line, and then the body.  The name of that header may have any
case, as it may in HTTP.

The header loop finds the name in any case and takes only `Content-Length:` off, so in
any other case the rest is not a number and the length stays 0.  It also ends early, at a
line that is not UTF-8 or all white space, and reads the body from there:

    the first N bytes of the body are passed on ↔ N = 0, or the name is spelled
      `Content-Length`, and so on                                       (body_passed_iff)
-/

namespace NomadP2P.Http

open Text

/-! ## Algorithm -/

/-- What is passed to the route handlers. -/
structure Routed where
  method : List Char
  path : List Char
  body : List UInt8
deriving DecidableEq

/-- `handle_api_connection` up to the routes; `none` if it does not come to them. -/
def toRoute (stream : List UInt8) : Option Routed :=
  match (readLine stream).1 with
  | none => none
  | some requestLine =>
    let parts := splitWhitespace requestLine
    if parts.length < 3 then none
    else
      let (contentLength, rest) := readHeaders 0 (readLine stream).2
      (readBody contentLength rest).map fun body => ⟨parts.getD 0 [], parts.getD 1 [], body⟩

/-- Space, tab, or the carriage return at the end of a line. -/
def isSpace (c : Char) : Bool := c == ' ' || c == '\t' || c == '\r'

/-- A `Content-Length` header: the name in any case, and decimal digits with space around
them. -/
structure LengthHeader where
  name : List Char
  left : List Char
  digits : List Char
  right : List Char
  name_eq : name.map Char.toLower = "content-length".toList
  left_space : ∀ c ∈ left, isSpace c = true
  digits_ne : digits ≠ []
  digits_digit : ∀ c ∈ digits, c.isDigit = true
  right_space : ∀ c ∈ right, isSpace c = true

def LengthHeader.text (h : LengthHeader) : List Char :=
  h.name ++ (':' :: (h.left ++ (h.digits ++ h.right)))

/-- The number `N`. -/
def LengthHeader.value (h : LengthHeader) : Nat := Ipv4Addr.digitsVal h.digits

/-- A line that is neither blank nor, if it is text, a `Content-Length` header. -/
structure OtherHeader (line : List UInt8) : Prop where
  one_line : 10 ∉ line
  not_blank : ∃ b ∈ line, b ≠ 32 ∧ b ≠ 9 ∧ b ≠ 13
  not_length : ∀ text, fromUtf8 (line ++ [10]) = some text →
    ¬ "content-length:".toList <+: text.map Char.toLower

/-- A request with one `Content-Length` among its headers and a body that is long enough.
If the request line is text, it has three tokens. -/
structure HttpRequest where
  requestLine : List UInt8
  before : List (List UInt8)
  contentLength : LengthHeader
  behind : List (List UInt8)
  blank : List Char
  body : List UInt8
  request_one_line : 10 ∉ requestLine
  tokens : ∀ text, fromUtf8 (requestLine ++ [10]) = some text → 3 ≤ (splitWhitespace text).length
  before_other : ∀ line ∈ before, OtherHeader line
  behind_other : ∀ line ∈ behind, OtherHeader line
  blank_space : ∀ c ∈ blank, isSpace c = true
  enough : contentLength.value ≤ body.length

/-- Lines with their newlines. -/
def joinLines (lines : List (List UInt8)) : List UInt8 := lines.flatMap (· ++ [10])

/-- The lines behind the `Content-Length` header, the blank one included. -/
def HttpRequest.lastLines (r : HttpRequest) : List (List UInt8) := r.behind ++ [utf8 r.blank]

/-- The header lines and the blank line. -/
def HttpRequest.lines (r : HttpRequest) : List (List UInt8) :=
  r.before ++ utf8 r.contentLength.text :: r.lastLines

/-- The bytes on the connection. -/
def HttpRequest.bytes (r : HttpRequest) : List UInt8 :=
  r.requestLine ++ 10 :: (joinLines r.lines ++ r.body)

/-- The length the loop has behind these lines. -/
def lengthAfter (len : Nat) : List (List UInt8) → Nat
  | [] => len
  | line :: lines =>
    if passable line then lengthAfter (headerLength len ((fromUtf8 (line ++ [10])).getD [])) lines
    else len

/-- What is left of the stream behind the first line that ends the header loop. -/
def leftBehind : List (List UInt8) → List UInt8 → List UInt8
  | [], rest => rest
  | line :: lines, rest => if passable line then leftBehind lines rest else joinLines lines ++ rest

/-- The first `N` bytes of the body are passed on. -/
def BodyPassed (r : HttpRequest) : Prop :=
  (toRoute r.bytes).map Routed.body = some (r.body.take r.contentLength.value)

/-! ## Lemmas -/

/-- What is passed on is what the routes answer. -/
theorem handleApiConnection_of_toRoute (json : SerdeJson) (checks : Bool) (agent : Agent)
    (stream : List UInt8) (ok : Bool) (r : Routed) (h : toRoute stream = some r) :
    handleApiConnection json checks agent stream ok =
      respond json checks agent r.method r.path r.body ok := by
  unfold toRoute at h
  unfold handleApiConnection
  cases hline : (readLine stream).1 with
  | none => simp only [hline] at h; cases h
  | some requestLine =>
    simp only [hline] at h ⊢
    split at h
    · cases h
    · next hparts =>
      rw [if_neg hparts]
      obtain ⟨body, hbody, rfl⟩ := Option.map_eq_some_iff.mp h
      rw [hbody]

/-- Otherwise no route is asked. -/
theorem handleApiConnection_of_not_toRoute (json : SerdeJson) (checks : Bool) (agent : Agent)
    (stream : List UInt8) (ok : Bool) (h : toRoute stream = none) :
    (handleApiConnection json checks agent stream ok).1 = agent := by
  unfold toRoute at h
  unfold handleApiConnection
  cases hline : (readLine stream).1 with
  | none => rfl
  | some requestLine =>
    simp only [hline] at h ⊢
    split at h
    · next hparts => rw [if_pos hparts]
    · next hparts =>
      rw [if_neg hparts, Option.map_eq_none_iff.mp h]

theorem joinLines_cons (line : List UInt8) (lines : List (List UInt8)) (rest : List UInt8) :
    joinLines (line :: lines) ++ rest = line ++ 10 :: (joinLines lines ++ rest) := by
  unfold joinLines
  rw [List.flatMap_cons, List.append_assoc, List.append_assoc]
  rfl

/-- The header loop over lines one of which ends it. -/
theorem readHeaders_joinLines (lines : List (List UInt8)) (rest : List UInt8)
    (hlines : ∀ line ∈ lines, 10 ∉ line) (hstop : ∃ line ∈ lines, passable line = false) :
    ∀ len, readHeaders len (joinLines lines ++ rest) =
      (lengthAfter len lines, leftBehind lines rest) := by
  induction lines with
  | nil =>
    obtain ⟨line, hmem, -⟩ := hstop
    cases hmem
  | cons line lines ih =>
    intro len
    rw [joinLines_cons, readHeaders_bytes line _ len (hlines line List.mem_cons_self)]
    unfold lengthAfter leftBehind
    by_cases hp : passable line = true
    · have hstop' : ∃ l ∈ lines, passable l = false := by
        obtain ⟨l, hl, hno⟩ := hstop
        refine ⟨l, (List.mem_cons.mp hl).resolve_left fun he => ?_, hno⟩
        rw [he, hp] at hno
        cases hno
      rw [if_pos hp, if_pos hp, if_pos hp,
        ih (fun l hl => hlines l (List.mem_cons_of_mem _ hl)) hstop']
    · rw [if_neg hp, if_neg hp, if_neg hp]

/-- A header of another name leaves the length as it is. -/
theorem headerLength_other (line : List UInt8) (h : OtherHeader line) (len : Nat) :
    headerLength len ((fromUtf8 (line ++ [10])).getD []) = len := by
  cases htext : fromUtf8 (line ++ [10]) with
  | none => rfl
  | some text =>
    unfold headerLength
    rw [Option.getD_some, if_neg fun hpre =>
      h.not_length text htext (List.isPrefixOf_iff_prefix.mp hpre)]

theorem lengthAfter_other (lines : List (List UInt8)) (h : ∀ line ∈ lines, OtherHeader line)
    (tail : List (List UInt8)) (len : Nat) :
    lengthAfter len (lines ++ tail) =
      if lines.all passable then lengthAfter len tail else len := by
  induction lines with
  | nil => rfl
  | cons line lines ih =>
    rw [List.cons_append, lengthAfter, headerLength_other line (h line List.mem_cons_self),
      ih fun l hl => h l (List.mem_cons_of_mem _ hl), List.all_cons]
    cases passable line <;> rfl

theorem leftBehind_append (lines tail : List (List UInt8)) (rest : List UInt8)
    (h : lines.all passable = true) : leftBehind (lines ++ tail) rest = leftBehind tail rest := by
  induction lines with
  | nil => rfl
  | cons line lines ih =>
    obtain ⟨hline, hlines⟩ := Bool.and_eq_true_iff.mp h
    rw [List.cons_append, leftBehind, if_pos hline, ih hlines]

theorem length_leftBehind (lines : List (List UInt8)) (rest : List UInt8) :
    rest.length ≤ (leftBehind lines rest).length := by
  induction lines with
  | nil => exact le_refl _
  | cons line lines ih =>
    unfold leftBehind
    split
    · exact ih
    · rw [List.length_append]
      omega

/-! ### The `Content-Length` line -/

theorem isWhitespace_of_isSpace (c : Char) (h : isSpace c = true) : isWhitespace c = true := by
  unfold isSpace at h
  simp only [Bool.or_eq_true, beq_iff_eq] at h
  rcases h with (rfl | rfl) | rfl
  · rfl
  · rfl
  · rfl

theorem newline_not_space (c : Char) (h : isSpace c = true) : c ≠ '\n' := by
  rintro rfl
  cases h

theorem isWhitespace_digit (c : Char) (h : c.isDigit = true) : isWhitespace c = false := by
  simp only [Char.isDigit, Bool.and_eq_true, decide_eq_true_eq, ge_iff_le,
    UInt32.le_iff_toNat_le] at h
  have hlow : 48 ≤ c.toNat := h.1
  have hhigh : c.toNat ≤ 57 := h.2
  simp only [isWhitespace, Bool.or_eq_false_iff, Bool.and_eq_false_iff, beq_eq_false_iff_ne,
    decide_eq_false_iff_not]
  omega

theorem parseUsize_cons (c : Char) (cs : List Char) (h : c ≠ '+') :
    parseUsize (c :: cs) =
      if !(c :: cs).all Char.isDigit then none
      else if 2 ^ 64 ≤ Ipv4Addr.digitsVal (c :: cs) then none
      else some (Ipv4Addr.digitsVal (c :: cs)) := by
  unfold parseUsize
  dsimp only
  split
  · next hcs => exact absurd (List.cons.inj hcs).1 h
  · rw [List.length_cons, if_neg (Nat.succ_ne_zero _)]

theorem parseUsize_digits (digits : List Char) (hne : digits ≠ [])
    (hdigits : ∀ c ∈ digits, c.isDigit = true) :
    parseUsize digits =
      if 2 ^ 64 ≤ Ipv4Addr.digitsVal digits then none else some (Ipv4Addr.digitsVal digits) := by
  cases digits with
  | nil => exact absurd rfl hne
  | cons c cs =>
    have hplus : c ≠ '+' := by
      rintro rfl
      exact absurd (hdigits '+' List.mem_cons_self) (by decide)
    rw [parseUsize_cons c cs hplus, List.all_eq_true.mpr hdigits]
    rfl

/-- A text that begins with something else than a digit, a plus sign or white space is not
a number. -/
theorem parseUsize_trim_cons (c : Char) (text : List Char) (hws : isWhitespace c = false)
    (hplus : c ≠ '+') (hdigit : c.isDigit = false) : parseUsize (trim (c :: text)) = none := by
  obtain ⟨rest, hrest⟩ := trim_cons c text hws
  rw [hrest, parseUsize_cons c rest hplus, List.all_cons, hdigit]
  rfl

theorem name_colon : "Content-Length:".toList = "Content-Length".toList ++ [':'] := by
  decide +kernel

namespace LengthHeader

variable (h : LengthHeader)

theorem newline_not_mem : '\n' ∉ h.text := by
  intro hmem
  rcases List.mem_append.mp hmem with hname | hrest
  · have hlow : Char.toLower '\n' ∈ h.name.map Char.toLower := List.mem_map_of_mem hname
    rw [h.name_eq] at hlow
    exact absurd hlow (by decide)
  rcases List.mem_cons.mp hrest with hcolon | hrest
  · exact absurd hcolon (by decide)
  rcases List.mem_append.mp hrest with hleft | hrest
  · exact newline_not_space _ (h.left_space _ hleft) rfl
  rcases List.mem_append.mp hrest with hdigits | hright
  · exact absurd (h.digits_digit _ hdigits) (by decide)
  · exact newline_not_space _ (h.right_space _ hright) rfl

theorem passable_text : passable (utf8 h.text) = true := by
  rw [passable_utf8, Bool.not_eq_true', List.all_eq_false]
  refine ⟨':', List.mem_append_right _ List.mem_cons_self, ?_⟩
  decide

/-- The loop sees the header, whatever the case of its name. -/
theorem isPrefixOf_lower :
    "content-length:".toList.isPrefixOf ((h.text ++ ['\n']).map Char.toLower) = true := by
  rw [List.isPrefixOf_iff_prefix, text, List.map_append, List.map_append, h.name_eq]
  exact ⟨_, rfl⟩

/-- What is left behind the name. -/
theorem trim_value : trim (h.left ++ (h.digits ++ (h.right ++ ['\n']))) = h.digits := by
  refine trim_padded h.left h.digits _ (fun c hc => isWhitespace_of_isSpace c (h.left_space c hc))
    (fun c hc => isWhitespace_digit c (h.digits_digit c hc)) fun c hc => ?_
  rcases List.mem_append.mp hc with hright | hnl
  · exact isWhitespace_of_isSpace c (h.right_space c hright)
  · rw [List.mem_singleton.mp hnl]
    rfl

/-- The name is not there a second time. -/
theorem not_prefix_value :
    ¬ "Content-Length:".toList <+: h.left ++ (h.digits ++ (h.right ++ ['\n'])) := by
  rintro ⟨tail, htail⟩
  obtain ⟨rest, hrest⟩ := trim_cons 'C' ("ontent-Length:".toList ++ tail) rfl
  have hdigits : 'C' :: rest = h.digits := by
    rw [← h.trim_value, ← htail, ← hrest]
    rfl
  have hC : 'C' ∈ h.digits := hdigits ▸ List.mem_cons_self
  exact absurd (h.digits_digit 'C' hC) (by decide)

theorem first_letter : ∃ c cs, h.name = c :: cs ∧ (c = 'c' ∨ c = 'C') := by
  obtain ⟨c, cs, hname, hc, -⟩ := List.map_eq_cons_iff.mp h.name_eq
  refine ⟨c, cs, hname, ?_⟩
  unfold Char.toLower at hc
  split at hc
  · right
    have hval : c.val + 32 = 99 := congrArg Char.val hc
    have h67 : c.val = 67 := by
      rw [← UInt32.add_sub_cancel c.val 32, hval]
      rfl
    exact Char.ext h67
  · exact .inl hc

/-- The name is taken off exactly if it is spelled `Content-Length`. -/
theorem name_prefix_iff (rest : List Char) :
    "Content-Length:".toList <+: h.text ++ rest ↔ h.name = "Content-Length".toList := by
  have hlen : h.name.length = 14 := by
    rw [← List.length_map, h.name_eq]
    rfl
  constructor
  · rintro ⟨tail, htail⟩
    rw [text, List.append_assoc, name_colon, List.append_assoc] at htail
    exact (List.append_inj_left htail (by rw [hlen]; rfl)).symm
  · intro hname
    rw [text, hname, name_colon, List.append_assoc, List.prefix_append_right_inj, List.cons_append]
    exact List.prefix_append [':'] _

/-- The length behind the header: the value, if the name is spelled `Content-Length` and the
value is a `usize`; as it was otherwise. -/
theorem headerLength_text (len : Nat) :
    headerLength len (h.text ++ ['\n']) =
      if h.name = "Content-Length".toList ∧ h.value < 2 ^ 64 then h.value else len := by
  unfold headerLength
  rw [if_pos h.isPrefixOf_lower]
  by_cases hname : h.name = "Content-Length".toList
  · have htext : h.text ++ ['\n'] =
        "Content-Length:".toList ++ (h.left ++ (h.digits ++ (h.right ++ ['\n']))) := by
      rw [text, hname, name_colon]
      simp only [List.append_assoc, List.cons_append, List.nil_append]
    rw [htext, trimStartMatches_append _ _ (by decide),
      trimStartMatches_of_not_prefix _ _ h.not_prefix_value, h.trim_value,
      parseUsize_digits h.digits h.digits_ne h.digits_digit]
    show (if 2 ^ 64 ≤ h.value then none else some h.value).getD len = _
    by_cases hbig : 2 ^ 64 ≤ h.value
    · rw [if_pos hbig, if_neg fun hand => Nat.not_lt.mpr hbig hand.2]
      rfl
    · rw [if_neg hbig, if_pos ⟨hname, Nat.not_le.mp hbig⟩]
      rfl
  · have hoff := trimStartMatches_of_not_prefix _ _ (mt (h.name_prefix_iff ['\n']).mp hname)
    obtain ⟨c, cs, hcons, hc⟩ := h.first_letter
    have hnone : parseUsize (trim (h.text ++ ['\n'])) = none := by
      rw [text, hcons, List.cons_append, List.cons_append]
      rcases hc with rfl | rfl
      · exact parseUsize_trim_cons 'c' _ rfl (by decide) rfl
      · exact parseUsize_trim_cons 'C' _ rfl (by decide) rfl
    rw [hoff, hnone, if_neg fun hand => hname hand.1]
    rfl

end LengthHeader

/-! ### The whole request -/

namespace HttpRequest

variable (r : HttpRequest)

theorem blank_not_passable : passable (utf8 r.blank) = false := by
  rw [passable_utf8, List.all_eq_true.mpr fun c hc => isWhitespace_of_isSpace c (r.blank_space c hc)]
  rfl

theorem newline_not_mem_lines : ∀ line ∈ r.lines, 10 ∉ line := by
  intro line hmem
  unfold lines lastLines at hmem
  rw [List.mem_append, List.mem_cons, List.mem_append, List.mem_singleton] at hmem
  rcases hmem with hbefore | rfl | hbehind | rfl
  · exact (r.before_other line hbefore).one_line
  · exact mt (newline_mem_utf8 _) r.contentLength.newline_not_mem
  · exact (r.behind_other line hbehind).one_line
  · exact mt (newline_mem_utf8 _) fun hnl => newline_not_space _ (r.blank_space _ hnl) rfl

/-- The length the loop finds. -/
def found : Nat :=
  if r.before.all passable ∧ r.contentLength.name = "Content-Length".toList ∧
      r.contentLength.value < 2 ^ 64 then r.contentLength.value else 0

theorem lengthAfter_lines : lengthAfter 0 r.lines = r.found := by
  have hlast : ∀ len, lengthAfter len r.lastLines = len := by
    intro len
    rw [lastLines, lengthAfter_other r.behind r.behind_other]
    split
    · rw [lengthAfter, if_neg (by rw [r.blank_not_passable]; exact Bool.false_ne_true)]
    · rfl
  unfold lines found
  rw [lengthAfter_other r.before r.before_other]
  by_cases hbefore : r.before.all passable = true
  · rw [if_pos hbefore, lengthAfter, if_pos r.contentLength.passable_text, fromUtf8_line,
      Option.getD_some, r.contentLength.headerLength_text, hlast]
    simp only [hbefore, true_and]
  · rw [if_neg hbefore, if_neg fun hand => hbefore hand.1]

/-- What the routes are given. -/
theorem toRoute_bytes :
    toRoute r.bytes =
      (fromUtf8 (r.requestLine ++ [10])).bind fun requestLine =>
        (readBody r.found (leftBehind r.lines r.body)).map fun body =>
          ⟨(splitWhitespace requestLine).getD 0 [], (splitWhitespace requestLine).getD 1 [], body⟩ := by
  have hstop : ∃ line ∈ r.lines, passable line = false := by
    refine ⟨utf8 r.blank, ?_, r.blank_not_passable⟩
    unfold lines lastLines
    simp
  unfold toRoute bytes
  rw [readLine_bytes r.requestLine _ r.request_one_line]
  cases htext : fromUtf8 (r.requestLine ++ [10]) with
  | none => rfl
  | some text =>
    have hhead := readHeaders_joinLines r.lines r.body r.newline_not_mem_lines hstop 0
    rw [r.lengthAfter_lines] at hhead
    simp only [if_neg (Nat.not_lt.mpr (r.tokens text htext)), Option.bind_some]
    rw [hhead]

theorem found_le : r.found ≤ (leftBehind r.lines r.body).length := by
  have hlen := length_leftBehind r.lines r.body
  have henough := r.enough
  unfold found
  split
  · omega
  · omega

/-- The body that is passed on, if the request line is UTF-8. -/
theorem body_toRoute :
    (toRoute r.bytes).map Routed.body =
      (fromUtf8 (r.requestLine ++ [10])).bind fun _ =>
        if 2 ^ 63 ≤ r.found then none else some ((leftBehind r.lines r.body).take r.found) := by
  have hread : readBody r.found (leftBehind r.lines r.body) =
      if 2 ^ 63 ≤ r.found then none else some ((leftBehind r.lines r.body).take r.found) := by
    unfold readBody
    simp only [Nat.not_lt.mpr r.found_le, or_false]
  rw [r.toRoute_bytes, hread]
  cases fromUtf8 (r.requestLine ++ [10]) with
  | none => rfl
  | some text =>
    rw [Option.bind_some, Option.bind_some, Option.map_map]
    exact Option.map_id'

/-- With the name in any other case the routes are given an empty body. -/
theorem body_toRoute_of_name (h : r.contentLength.name ≠ "Content-Length".toList) :
    (toRoute r.bytes).map Routed.body = (fromUtf8 (r.requestLine ++ [10])).map fun _ => [] := by
  have hfound : r.found = 0 := if_neg fun hand => h hand.2.1
  rw [r.body_toRoute, hfound]
  cases fromUtf8 (r.requestLine ++ [10]) with
  | none => rfl
  | some text => rfl

theorem leftBehind_lines (h : r.before.all passable = true) :
    leftBehind r.lines r.body = leftBehind r.lastLines r.body := by
  rw [lines, leftBehind_append r.before _ _ h, leftBehind, if_pos r.contentLength.passable_text]

theorem take_value_ne_nil (h : r.contentLength.value ≠ 0) :
    r.body.take r.contentLength.value ≠ [] := by
  intro hnil
  have hlen := congrArg List.length hnil
  rw [List.length_take_of_le r.enough] at hlen
  exact h hlen

end HttpRequest

/-! ### Main theorem -/

/-- The first `N` bytes of the body are passed on exactly if the request line is UTF-8 and
either `N` is 0, or the name of the header is spelled `Content-Length`, `N` is less than 2⁶³, no
line in front of the header ends the header loop, and behind the last line that it reads are
the same `N` bytes as in the body (they are if the blank line is that line). -/
theorem body_passed_iff (r : HttpRequest) :
    BodyPassed r ↔
      (fromUtf8 (r.requestLine ++ [10])).isSome ∧
        (r.contentLength.value = 0 ∨
          r.contentLength.name = "Content-Length".toList ∧ r.contentLength.value < 2 ^ 63 ∧
          (∀ line ∈ r.before, passable line = true) ∧
          (leftBehind r.lastLines r.body).take r.contentLength.value =
            r.body.take r.contentLength.value) := by
  unfold BodyPassed
  rw [r.body_toRoute]
  cases fromUtf8 (r.requestLine ++ [10]) with
  | none => exact ⟨(by rintro ⟨⟩), (by rintro ⟨⟨⟩, -⟩)⟩
  | some text =>
    rw [Option.bind_some, Option.isSome_some, eq_self, true_and]
    by_cases hzero : r.contentLength.value = 0
    · have hfound : r.found = 0 := by
        unfold HttpRequest.found
        split
        · exact hzero
        · rfl
      rw [hfound, hzero]
      exact ⟨fun _ => .inl rfl, fun _ => rfl⟩
    rw [or_iff_right hzero]
    by_cases hcond : r.before.all passable ∧ r.contentLength.name = "Content-Length".toList ∧
        r.contentLength.value < 2 ^ 64
    · obtain ⟨hbefore, hname, hsize⟩ := hcond
      have hfound : r.found = r.contentLength.value := if_pos ⟨hbefore, hname, hsize⟩
      rw [hfound, r.leftBehind_lines hbefore]
      by_cases hbig : 2 ^ 63 ≤ r.contentLength.value
      · rw [if_pos hbig]
        exact ⟨(by rintro ⟨⟩), fun h => absurd h.2.1 (Nat.not_lt.mpr hbig)⟩
      · rw [if_neg hbig, Option.some_inj]
        exact ⟨fun h => ⟨hname, Nat.not_le.mp hbig, List.all_eq_true.mp hbefore, h⟩, fun h => h.2.2.2⟩
    · have hfound : r.found = 0 := if_neg hcond
      rw [hfound, if_neg (by omega), Option.some_inj]
      constructor
      · intro hnil
        exact absurd hnil.symm (r.take_value_ne_nil hzero)
      · rintro ⟨hname, hsize, hbefore, -⟩
        exact absurd ⟨List.all_eq_true.mpr hbefore, hname, by omega⟩ hcond

/-- `content-length: 2`. -/
def lowerCase : LengthHeader where
  name := "content-length".toList
  left := [' ']
  digits := ['2']
  right := ['\r']
  name_eq := by decide
  left_space := List.forall_mem_singleton.mpr rfl
  digits_ne := by decide
  digits_digit := List.forall_mem_singleton.mpr rfl
  right_space := List.forall_mem_singleton.mpr rfl

theorem otherHeader_utf8 (text : List Char) (hline : 10 ∉ utf8 text)
    (hblank : ∃ b ∈ utf8 text, b ≠ 32 ∧ b ≠ 9 ∧ b ≠ 13)
    (hlength : ¬ "content-length:".toList <+: (text ++ ['\n']).map Char.toLower) :
    OtherHeader (utf8 text) := by
  refine ⟨hline, hblank, ?_⟩
  intro text' htext
  rw [fromUtf8_line] at htext
  rw [← Option.some.inj htext]
  exact hlength

/-- A `POST` with two bytes of body, an empty JSON object. -/
def postLowerCase : HttpRequest where
  requestLine := utf8 "POST /api/v1/container HTTP/1.1\r".toList
  before := [utf8 "Host: localhost\r".toList]
  contentLength := lowerCase
  behind := []
  blank := ['\r']
  body := [123, 125]
  request_one_line := by decide
  tokens := by
    intro text htext
    rw [fromUtf8_line] at htext
    rw [← Option.some.inj htext]
    decide
  before_other := by
    intro line hline
    rw [List.mem_singleton.mp hline]
    exact otherHeader_utf8 _ (by decide) (by decide) (by decide)
  behind_other := fun line hline => by cases hline
  blank_space := List.forall_mem_singleton.mpr rfl
  enough := by decide

/-- The body of this request is not passed on: the route is given an empty one. -/
theorem lower_case_body_lost :
    (toRoute postLowerCase.bytes).map Routed.body = some [] ∧ ¬ BodyPassed postLowerCase := by
  have hbody : (toRoute postLowerCase.bytes).map Routed.body = some [] := by
    rw [postLowerCase.body_toRoute_of_name (by decide), postLowerCase, fromUtf8_line]
    rfl
  refine ⟨hbody, fun hpassed => ?_⟩
  rw [BodyPassed, hbody] at hpassed
  exact absurd (Option.some.inj hpassed) (by decide)

end NomadP2P.Http
