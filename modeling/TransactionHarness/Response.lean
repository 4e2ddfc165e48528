import TransactionHarness.Error
import TransactionHarness.Json.Decode
import TransactionHarness.Json.Parser
import TransactionHarness.Text.Blank
/-!
# Responses

A response arrives as one text: a status line, header lines, a blank line and a body, which has to
be JSON. Line ends are CRLF or LF. In front of the final response there may be interim ones, whose
status codes are from 100 to 199 and which have no body.

* `splitHead` cuts a text at its first blank line: two line ends of one kind in direct succession.
* `final` drops the interim responses.
* `parse` reads the whole text for a step, to which its errors belong.
-/

namespace TransactionHarness

/-- A response: its status line and header lines in order, and its body. -/
structure Response where
  headers : List String
  body : Json
  deriving Inhabited

namespace Response

/-- Why a text is not a response. -/
inductive Fault where
  | noBlankLine
  | emptyBody
  /-- The body is not JSON, for the given reason. -/
  | notJson (reason : String) (body : List Char)
  deriving Inhabited

/-- How many characters of an unreadable body are shown. -/
def previewLength : Nat := 120

/-- The beginning of a body, with three points if there is more. -/
def preview (body : List Char) : String :=
  if body.length ≤ previewLength then String.ofList body
  else String.ofList (body.take previewLength) ++ "..."

/-- The words for a fault. -/
def Fault.reason : Fault → String
  | noBlankLine => "no blank line between headers and body"
  | emptyBody => "response body is empty"
  | notJson reason body => "body is not valid JSON (" ++ reason ++ "): " ++ preview body

/-! ### Head and body -/

/-- Cuts a text at the first blank line into what stands in front of it and behind it. -/
def splitHead : List Char → Option (List Char × List Char)
  | [] => none
  | '\r' :: '\n' :: '\r' :: '\n' :: rest => some ([], rest)
  | '\n' :: '\n' :: rest => some ([], rest)
  | c :: rest => (splitHead rest).map fun (head, body) ↦ (c :: head, body)

theorem length_of_splitHead {s head body : List Char} (h : splitHead s = some (head, body)) :
    body.length < s.length := by
  induction s using splitHead.induct generalizing head body with
  | case1 => simp [splitHead] at h
  | case2 rest =>
    simp only [splitHead, Option.some.injEq, Prod.mk.injEq] at h
    obtain ⟨-, rfl⟩ := h
    simp only [List.length_cons]
    omega
  | case3 rest =>
    simp only [splitHead, Option.some.injEq, Prod.mk.injEq] at h
    obtain ⟨-, rfl⟩ := h
    simp only [List.length_cons]
    omega
  | case4 c rest _ _ ih =>
    rw [splitHead] at h
    · obtain ⟨⟨head', body'⟩, h', heq⟩ := Option.map_eq_some_iff.1 h
      simp only [Prod.mk.injEq] at heq
      obtain ⟨-, rfl⟩ := heq
      have := ih h'
      simp only [List.length_cons]
      omega
    · assumption
    · assumption

/-- The header lines of a head, each without white space at its end. -/
def headerLines (head : List Char) : List (List Char) := (Text.lines head).map Text.trimEnd

/-! ### Status codes -/

/-- What the name of the protocol starts with in a status line. -/
def protocolMark : List Char := ['H', 'T', 'T', 'P', '/']

/-- The status code in a status line: the second word, if the first one names the protocol and the
second is a number of sixteen bits. -/
def statusCodeOf (line : List Char) : Option Nat :=
  let isWordChar := fun c ↦ !Text.isBlank c
  let start := Text.trimStart line
  let version := start.takeWhile isWordChar
  let code := (Text.trimStart (start.dropWhile isWordChar)).takeWhile isWordChar
  if protocolMark.isPrefixOf version then Text.readUnsigned? Text.max16 code else none

/-- Whether a status code belongs to an interim response. -/
def isInterimCode (code : Nat) : Bool := 100 ≤ code && code < 200

/-- Whether the header lines are those of an interim response. -/
def isInterim (headers : List (List Char)) : Bool :=
  match headers with
  | [] => false
  | line :: _ => (statusCodeOf line).any isInterimCode

/-! ### The final response -/

/-- The header lines and the text of the body of the final response. An interim response is dropped
if another response follows it. -/
def final (text : List Char) : Option (List (List Char) × List Char) :=
  match h : splitHead text with
  | none => none
  | some (head, body) =>
    if isInterim (headerLines head) && protocolMark.isPrefixOf (Text.trimStart body) then
      have : (Text.trimStart body).length < text.length :=
        Nat.lt_of_le_of_lt (List.dropWhile_suffix _).length_le (length_of_splitHead h)
      final (Text.trimStart body)
    else some (headerLines head, body)
termination_by text.length

/-- Reads the text of a response. -/
def read (text : List Char) : Except Fault Response :=
  match final text with
  | none => .error .noBlankLine
  | some (headers, body) =>
    let body := Text.trim body
    if body.isEmpty then .error .emptyBody
    else match Json.parseChars body with
      | .ok v => .ok ⟨headers.map String.ofList, v⟩
      | .error fault => .error (.notJson (fault.message body) body)

/-- Reads the reply to a step. -/
def parse (step : Step) (text : String) : Except Error Response :=
  match read text.toList with
  | .ok response => .ok response
  | .error fault => .error (.malformedResponse step fault.reason)

/-! ### Parts -/

/-- The first header line. -/
def statusLine? (r : Response) : Option String := r.headers.head?

/-- The status code in the first header line. -/
def statusCode? (r : Response) : Option Nat :=
  r.statusLine?.bind fun line ↦ statusCodeOf line.toList

/-- Whether a line is one of the header lines. -/
def hasLine (r : Response) (line : String) : Bool := r.headers.contains line

/-- The body as a typed value. -/
def bodyAs {α : Type} (decode : Json.Decoder α) (step : Step) (r : Response) : Except Error α :=
  match decode r.body with
  | .ok a => .ok a
  | .error misfit =>
    .error (.malformedResponse step ("unexpected body structure: " ++ misfit.message))

end Response

end TransactionHarness
