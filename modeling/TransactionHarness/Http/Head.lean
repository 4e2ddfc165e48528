import TransactionHarness.Http.Reason
import TransactionHarness.Text.Utf8
/-!
# Heads of responses

The head of a response says which version of the protocol it speaks, how the request went, and more
in header fields. Names of fields are in small letters. `text` writes a head as lines that end in
CRLF; the reason phrase is the standard one, whatever the server put there, and the values of fields
of one name stand together where the first of them was.
-/

namespace TransactionHarness.Http

/-- A version of the protocol. -/
inductive Version where
  | v09
  | v10
  | v11
  | v2
  | v3
  deriving DecidableEq, Repr, Inhabited

/-- The name of a version. -/
def Version.name : Version → String
  | v09 => "HTTP/0.9"
  | v10 => "HTTP/1.0"
  | v11 => "HTTP/1.1"
  | v2 => "HTTP/2.0"
  | v3 => "HTTP/3.0"

/-- A header field. -/
structure Header where
  name : String
  value : List UInt8
  deriving DecidableEq, Repr, Inhabited

/-- The head of a response. -/
structure Head where
  version : Version
  status : Nat
  /-- The fields in the order in which they came. -/
  headers : List Header
  deriving DecidableEq, Repr, Inhabited

/-- The end of a line. -/
def lineEnd : String := "\r\n"

/-- A field as it is written, without the end of the line. -/
def Header.text (h : Header) : String :=
  h.name ++ ": " ++ String.ofList (Text.Utf8.decodeLossy h.value)

namespace Head

/-- The values of the fields of a name, in order. -/
def values (head : Head) (name : String) : List (List UInt8) :=
  (head.headers.filter (·.name = name)).map (·.value)

/-- Whether a status stands for success. -/
def isSuccess (head : Head) : Bool := 200 ≤ head.status && head.status < 300

/-- The names of the fields, each once, in the order of their first appearance. -/
def names (head : Head) : List String := (head.headers.map (·.name)).eraseDups

/-- The fields, those of one name together where the first of them is. -/
def grouped (head : Head) : List Header :=
  head.names.flatMap fun name ↦ head.headers.filter (·.name = name)

/-- The status line, without its end. -/
def statusLine (head : Head) : String :=
  head.version.name ++ " " ++ toString head.status ++ " " ++ reason head.status

/-- The lines of a head, without their ends. -/
def lines (head : Head) : List String := head.statusLine :: head.grouped.map Header.text

/-- The text of a head. -/
def text (head : Head) : String := String.join (head.lines.map (· ++ lineEnd))

/-- The text of a response with the given body. -/
def response (head : Head) (body : String) : String := head.text ++ lineEnd ++ body

end Head

end TransactionHarness.Http
