import TransactionHarness.Disk
import TransactionHarness.Error
import TransactionHarness.Http.Form
import TransactionHarness.Http.Reader
import TransactionHarness.Json.Printer
import TransactionHarness.Request
import TransactionHarness.Url.Parser
/-!
# Requests as messages

A `Message` is what a server sees of a request that `reqwest` sends: the method, the target, who
asks, and the body with its kind. Making one fails if the file to send cannot be read, and then if
the address or the token cannot be sent.
-/

namespace TransactionHarness.Http

/-- What a server sees of a request. -/
structure Message where
  method : Method
  /-- The path and the query of the address. -/
  target : String
  authorization? : Option String
  contentType? : Option String
  body : List UInt8
  deriving Inhabited

namespace Message

/-- The first line of a message. -/
def requestLine (m : Message) : String := m.method.name ++ " " ++ m.target ++ " HTTP/1.1"

/-- The length that a message announces. One without a body announces none. -/
def contentLength? (m : Message) : Option Nat := if m.body.isEmpty then none else some m.body.length

end Message

/-- What a server is asked for at an address. -/
def target? (address : String) : Option String :=
  match Url.parse address with
  | .error _ => none
  | .ok url =>
    if url.host?.isSome ∧ (url.scheme = "http" ∨ url.scheme = "https") then
      some (url.path ++ (url.query?.map ("?" ++ ·)).getD "")
    else none

/-- Whether a text can be the value of a header. -/
def isHeaderText (s : String) : Bool := (Text.Utf8.encode s.toList).all isPlain

/-- The header that carries a token. -/
def authorization (token : String) : String := "Bearer " ++ token

/-- The content of the file to send. -/
def fileContent (disk : Disk) (file : UploadPath) : Except String (List UInt8) :=
  match file.text? with
  | some path => disk.content path
  | none => .error Disk.missing

/-- The kind of a body and its bytes. -/
def encodeBody (boundary : String) (disk : Disk) :
    Payload → Except Error (Option String × List UInt8)
  | .empty => .ok (none, [])
  | .json value => .ok (some "application/json", Text.Utf8.encode value.render.toList)
  | .form fields =>
    .ok (some "application/x-www-form-urlencoded", Text.Utf8.encode (Form.urlEncoded fields).toList)
  | .multipart field file =>
    match fileContent disk file with
    | .ok content =>
      .ok (some ("multipart/form-data; boundary=" ++ boundary),
        Form.multipart boundary field file content)
    | .error reason => .error (.io reason)

/-- The message for a request. -/
def Message.ofRequest (boundary : String) (disk : Disk) (r : Request) : Except Error Message :=
  match encodeBody boundary disk r.body with
  | .error e => .error e
  | .ok (contentType?, body) =>
    let authorization? := r.bearer?.map authorization
    match target? r.url with
    | none => .error .network
    | some target =>
      if authorization?.all isHeaderText then
        .ok { method := r.method, target, authorization?, contentType?, body }
      else .error .network

end TransactionHarness.Http
