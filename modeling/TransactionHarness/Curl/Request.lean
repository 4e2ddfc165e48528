import TransactionHarness.Curl.Invocation
import TransactionHarness.Curl.Quoted
import TransactionHarness.Error
import TransactionHarness.Instant.Basic
import TransactionHarness.Json.Printer
import TransactionHarness.Request
/-!
# Requests as invocations of curl

`Invocation.ofRequest` has curl send a request and show the response with its head;
`Invocation.ofDownload` has it keep the body at a place and show nothing but the status. The method
is named only where it is not the usual one, and the time limit is in whole seconds and never zero,
which would mean no limit.
-/

namespace TransactionHarness.Curl

/-- The flags for a method. -/
def methodFlags : Method → List Flag
  | .get => []
  | .post => [.method "POST"]

/-- The header line that carries a token. -/
def bearerLine (token : String) : String := "Authorization: Bearer " ++ token

/-- The flags for a token. -/
def bearerFlags : Option String → List Flag
  | some token => [.header (bearerLine token)]
  | none => []

/-- The seconds that everything may take. -/
def limitSeconds (timeout : Span) : Nat := max 1 timeout.seconds

/-- The flags that requests and downloads have in common. -/
def commonFlags (timeout : Span) (r : Request) : List Flag :=
  methodFlags r.method ++ bearerFlags r.bearer? ++ [.maxTime (toString (limitSeconds timeout))]

/-- The header line that announces a JSON body. -/
def jsonLine : String := "Content-Type: application/json"

/-- A field of a form. -/
def fieldText (field : String × String) : String := field.1 ++ "=" ++ field.2

/-- The part of a form that sends a file. The quotes keep curl from reading anything else in the
path. -/
def fileText (field path : String) : String :=
  field ++ "=@" ++ String.ofList (Quoted.encode path.toList)

/-- The flags for a body. Only a path that is a text can be an argument here. -/
def bodyFlags : Payload → Except Error (List Flag)
  | .empty => .ok []
  | .json value => .ok [.header jsonLine, .data value.render]
  | .form fields => .ok (fields.map fun field ↦ .formField (fieldText field))
  | .multipart field file =>
    match file.text? with
    | some path => .ok [.formPart (fileText field path)]
    | none => .error (.config
        ("upload path " ++ file.display ++ " is not valid UTF-8") (some "load_files"))

/-- Sends a request and shows the response with its head. -/
def Invocation.ofRequest (timeout : Span) (r : Request) : Except Error Invocation :=
  match bodyFlags r.body with
  | .ok flags => .ok ⟨[.silent, .showHead] ++ commonFlags timeout r ++ flags, r.url⟩
  | .error e => .error e

/-- What is shown at the end of a download. -/
def statusFormat : String := "%\x7bhttp_code\x7d"

/-- Sends a request without its body, keeps the body of the response, and shows the status. -/
def Invocation.ofDownload (timeout : Span) (r : Request) (place : String) : Invocation :=
  ⟨[.silent] ++ commonFlags timeout r ++ [.output place, .writeOut statusFormat], r.url⟩

end TransactionHarness.Curl
