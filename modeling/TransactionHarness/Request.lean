import TransactionHarness.Json.Basic
import TransactionHarness.Path.Upload
/-!
# Requests

A request has a method, an address, possibly a token that authorises it, and a body of one of four
kinds. Requests are built from `get` or `post`; of two bodies the later one counts.
-/

namespace TransactionHarness

/-- The method of a request. -/
inductive Method where
  | get
  | post
  deriving DecidableEq, Repr, Inhabited

/-- The spelling of a method. -/
def Method.name : Method → String
  | get => "GET"
  | post => "POST"

/-- What a request carries. -/
inductive Payload where
  | empty
  | json (value : Json)
  /-- The fields of a form, in order. -/
  | form (fields : List (String × String))
  /-- A form with one file in the given field. -/
  | multipart (field : String) (file : UploadPath)
  deriving Inhabited

/-- A request. -/
structure Request where
  method : Method
  url : String
  bearer? : Option String := none
  body : Payload := .empty
  deriving Inhabited

namespace Request

/-- A request to read. -/
def get (url : String) : Request := { method := .get, url }

/-- A request to act. -/
def post (url : String) : Request := { method := .post, url }

/-- The request, authorised by a token. -/
def withBearer (r : Request) (token : String) : Request := { r with bearer? := some token }

/-- The request with a JSON body. -/
def withJson (r : Request) (value : Json) : Request := { r with body := .json value }

/-- The request with a form as its body. -/
def withForm (r : Request) (fields : List (String × String)) : Request :=
  { r with body := .form fields }

/-- The request with a file as its body. -/
def withFile (r : Request) (field : String) (file : UploadPath) : Request :=
  { r with body := .multipart field file }

end Request

/-- What came of a download. -/
structure DownloadOutcome where
  status : Nat
  /-- How many bytes were kept. -/
  bytes : Nat
  deriving DecidableEq, Repr, Inhabited

/-- A download succeeds with a status from 200 to 299. -/
def DownloadOutcome.isSuccess (o : DownloadOutcome) : Bool := 200 ≤ o.status && o.status < 300

end TransactionHarness
