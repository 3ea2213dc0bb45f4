import NomadP2P.Api
import NomadP2P.Lib.Text

/-!
# The HTTP end of the API (`handle_api_connection` of `agent/src/api.rs`)

The handler reads a request line, then header lines up to a blank one, keeping
the value of the last `Content-Length` it understands, then that many bytes of
body.  What it sends back for a request with three tokens is the answer of the
route, with no `HTTP/…` in front of the status (`respond_not_http`).

A connection is the bytes the peer writes until it closes its side; `none` stands
for a connection that is closed without an answer.

    readHeaders len (lines, a blank line, rest) = (the lengths set in turn, rest)   (readHeaders_lines)
-/

namespace NomadP2P

open Text

/-! ## Algorithm -/

/-- `serde_json`: the parser and the printer.  The empty input is not a value. -/
structure SerdeJson where
  fromSlice : List UInt8 → Except String Json
  toText : Json → String
  fromSlice_nil : ∃ e, fromSlice [] = .error e

namespace Http

/-- `text.parse::<usize>().ok()`: an optional plus sign, then digits. -/
def parseUsize (text : List Char) : Option Nat :=
  let digits := match text with
    | '+' :: rest => rest
    | _ => text
  if digits.length = 0 then none
  else if !digits.all Char.isDigit then none
  else if 2 ^ 64 ≤ Ipv4Addr.digitsVal digits then none
  else some (Ipv4Addr.digitsVal digits)

/-- The `content_length` after a header line.  The name is found in any case, but
only `Content-Length:` is taken off in front of the value. -/
def headerLength (contentLength : Nat) (header : List Char) : Nat :=
  -- no letter outside ASCII has one of these letters as its lower case
  if "content-length:".toList.isPrefixOf (header.map Char.toLower) then
    (parseUsize (trim (trimStartMatches "Content-Length:".toList header))).getD contentLength
  else contentLength

/-- The header loop: the `content_length` and the rest of the stream.  It ends at the
end of the stream, at a blank line, and at a line that is not UTF-8, where
`read_line` fails and `unwrap_or(0)` is taken. -/
def readHeaders (contentLength : Nat) (stream : List UInt8) : Nat × List UInt8 :=
  if (readLine stream).1.all fun header => (trim header).isEmpty then
    (contentLength, (readLine stream).2)
  else
    readHeaders (headerLength contentLength ((readLine stream).1.getD [])) (readLine stream).2
termination_by stream.length
decreasing_by
  next h =>
    cases stream with
    | nil => exact absurd (by decide +kernel) h
    | cons b bs =>
      have hlen := length_readUntil 10 (b :: bs)
      have hpos : 0 < (readUntil 10 (b :: bs)).1.length := by
        unfold readUntil
        split <;> exact Nat.succ_pos _
      show (readUntil 10 (b :: bs)).2.length < (b :: bs).length
      omega

/-- `read_exact` into `vec![0u8; content_length]`.  A vector has less than 2⁶³ bytes, and to
ask for more is a panic. -/
def readBody (contentLength : Nat) (stream : List UInt8) : Option (List UInt8) :=
  if 2 ^ 63 ≤ contentLength ∨ stream.length < contentLength then none
  else some (stream.take contentLength)

/-- The routes. -/
def respond (json : SerdeJson) (checks : Bool) (agent : Agent) (method path : List Char)
    (body : List UInt8) (ok : Bool) : Agent × Option String :=
  if method = "POST".toList ∧ path = "/api/v1/container".toList then
    handleContainerCmd checks agent (json.fromSlice body) ok
  else if method = "GET".toList ∧ path = "/api/v1/health".toList then
    (agent, some "200 OK\r\n\r\n\x7b\"status\":\"ok\"\x7d")
  else (agent, some "404 Not Found\r\n\r\n\x7b\"error\":\"not found\"\x7d")

/-- `handle_api_connection`. -/
def handleApiConnection (json : SerdeJson) (checks : Bool) (agent : Agent) (stream : List UInt8)
    (ok : Bool) : Agent × Option String :=
  match (readLine stream).1 with
  | none => (agent, none)
  | some requestLine =>
    let parts := splitWhitespace requestLine
    if parts.length < 3 then
      (agent, some "HTTP/1.1 400 Bad Request\r\nContent-Length: 15\r\n\r\ninvalid request")
    else
      let (contentLength, rest) := readHeaders 0 (readLine stream).2
      match readBody contentLength rest with
      | none => (agent, none)
      | some body => respond json checks agent (parts.getD 0 []) (parts.getD 1 []) body ok

/-- The header loop goes on behind the line. -/
def passable (line : List UInt8) : Bool :=
  (fromUtf8 (line ++ [10])).any fun header => !header.all isWhitespace

/-! ## Lemmas -/

/-- One turn of the header loop, on any line. -/
theorem readHeaders_bytes (line rest : List UInt8) (len : Nat) (h : 10 ∉ line) :
    readHeaders len (line ++ 10 :: rest) =
      if passable line then
        readHeaders (headerLength len ((fromUtf8 (line ++ [10])).getD [])) rest
      else (len, rest) := by
  rw [readHeaders, readLine_bytes line rest h]
  unfold passable
  cases fromUtf8 (line ++ [10]) with
  | none => rfl
  | some header =>
    simp only [Option.all_some, Option.any_some, trim_isEmpty]
    by_cases hws : header.all isWhitespace = true
    · rw [if_pos hws, if_neg (by rw [hws]; exact Bool.false_ne_true)]
    · rw [if_neg hws, if_pos (by rw [Bool.eq_false_iff.mpr hws]; rfl)]

theorem passable_utf8 (text : List Char) :
    passable (utf8 text) = !text.all isWhitespace := by
  unfold passable
  rw [fromUtf8_line, Option.any_some, List.all_append]
  have hnl : ['\n'].all isWhitespace = true := by decide
  rw [hnl, Bool.and_true]

/-- One turn of the header loop, on a line of text. -/
theorem readHeaders_line (line : List Char) (rest : List UInt8) (len : Nat) (h : '\n' ∉ line) :
    readHeaders len (utf8 (line ++ ['\n']) ++ rest) =
      if line.all isWhitespace then (len, rest)
      else readHeaders (headerLength len (line ++ ['\n'])) rest := by
  rw [utf8_line_append, readHeaders_bytes _ rest len (mt (newline_mem_utf8 line) h), fromUtf8_line,
    passable_utf8]
  by_cases hws : line.all isWhitespace = true
  · rw [if_pos hws, if_neg (by rw [hws]; exact Bool.false_ne_true)]
  · rw [if_neg hws, if_pos (by rw [Bool.eq_false_iff.mpr hws]; rfl)]
    rfl

/-- The header loop over lines that end with a blank one: each line sets the length
in turn, and the stream is left behind the blank line. -/
theorem readHeaders_lines (lines : List (List Char)) (blank : List Char) (rest : List UInt8)
    (len : Nat) (hlines : ∀ line ∈ lines, '\n' ∉ line ∧ line.all isWhitespace = false)
    (hblank : '\n' ∉ blank) (hws : blank.all isWhitespace = true) :
    readHeaders len (utf8 (lines.flatMap (· ++ ['\n'])) ++ (utf8 (blank ++ ['\n']) ++ rest)) =
      (lines.foldl (fun len line => headerLength len (line ++ ['\n'])) len, rest) := by
  induction lines generalizing len with
  | nil =>
    show readHeaders len (utf8 (blank ++ ['\n']) ++ rest) = _
    rw [readHeaders_line blank rest len hblank, if_pos hws]
    rfl
  | cons line lines ih =>
    obtain ⟨hnl, hfull⟩ := hlines line List.mem_cons_self
    rw [List.flatMap_cons, utf8_append, List.append_assoc, readHeaders_line line _ len hnl, hfull]
    exact ih _ fun l hl => hlines l (List.mem_cons_of_mem _ hl)

/-- A request line of three tokens, header lines, a blank line, and what follows. -/
theorem handleApiConnection_eq (json : SerdeJson) (checks : Bool) (agent : Agent) (ok : Bool)
    (requestLine : List Char) (lines : List (List Char)) (blank : List Char) (rest : List UInt8)
    (hreq : '\n' ∉ requestLine) (hparts : 3 ≤ (splitWhitespace (requestLine ++ ['\n'])).length)
    (hlines : ∀ line ∈ lines, '\n' ∉ line ∧ line.all isWhitespace = false)
    (hblank : '\n' ∉ blank) (hws : blank.all isWhitespace = true) :
    handleApiConnection json checks agent
        (utf8 (requestLine ++ ['\n']) ++
          (utf8 (lines.flatMap (· ++ ['\n'])) ++ (utf8 (blank ++ ['\n']) ++ rest))) ok =
      (readBody (lines.foldl (fun len line => headerLength len (line ++ ['\n'])) 0) rest).elim
        (agent, none) fun body =>
          respond json checks agent ((splitWhitespace (requestLine ++ ['\n'])).getD 0 [])
            ((splitWhitespace (requestLine ++ ['\n'])).getD 1 []) body ok := by
  unfold handleApiConnection
  rw [readLine_line requestLine _ hreq]
  simp only [readHeaders_lines lines blank rest 0 hlines hblank hws,
    if_neg (Nat.not_lt.mpr hparts)]
  cases readBody (lines.foldl (fun len line => headerLength len (line ++ ['\n'])) 0) rest with
  | none => rfl
  | some body => rfl

/-! ### The answers -/

theorem head_append (s t : String) (c : Char) (h : s.toList.head? = some c) :
    (s ++ t).toList.head? = some c := by
  rw [String.toList_append, List.head?_append, h]
  rfl

theorem handleContainerCmd_head (checks : Bool) (agent : Agent) (parsed : Except String Json)
    (ok : Bool) (text : String) (h : (handleContainerCmd checks agent parsed ok).2 = some text) :
    text.toList.head? ≠ some 'H' := by
  unfold handleContainerCmd at h
  cases parsed with
  | error e =>
    rw [← Option.some.inj h, head_append _ _ '4' (head_append _ _ '4' (by decide))]
    decide
  | ok v =>
    simp only at h
    split at h
    · obtain ⟨ip, -, rfl⟩ := Option.map_eq_some_iff.mp h
      rw [head_append _ _ '2' (head_append _ _ '2' (by decide))]
      decide
    · split at h
      · rw [← Option.some.inj h]
        decide
      · split at h <;>
        · rw [← Option.some.inj h]
          decide

/-- No route answers with a status line. -/
theorem respond_not_http (json : SerdeJson) (checks : Bool) (agent : Agent) (method path : List Char)
    (body : List UInt8) (ok : Bool) (text : String)
    (h : (respond json checks agent method path body ok).2 = some text) :
    text.toList.head? ≠ some 'H' := by
  unfold respond at h
  split at h
  · exact handleContainerCmd_head checks agent _ ok text h
  · split at h <;>
    · rw [← Option.some.inj h]
      decide

end Http

end NomadP2P
