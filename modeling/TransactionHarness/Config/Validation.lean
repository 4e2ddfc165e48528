import TransactionHarness.Config.Basic
import TransactionHarness.Error
import TransactionHarness.Url.Parser
/-!
# Checking settings

Settings with which no server can be reached are refused before anything is sent: the address of the
service has to be the address of a web server, a user has to log in, and requests need time.
-/

namespace TransactionHarness

/-- Reads the way to send requests, in letters of either case and with white space around it. -/
def TransportKind.read (s : String) : Except Error TransportKind :=
  let name := (Text.trim s.toList).map Domain.lower
  match [TransportKind.http, .curl].find? fun kind ↦ kind.name.toList == name with
  | some kind => .ok kind
  | none => .error (.config ("unknown transport '" ++ String.ofList name ++
      "', expected http or curl") (some "transport"))

namespace Config

/-- The schemes under which a service can be reached. -/
def webSchemes : List String := ["http", "https"]

/-- Checks the address of the service. -/
def validateBaseUrl (baseUrl : String) : Except Error Unit :=
  let key := some "base_url"
  if (Text.trim baseUrl.toList).isEmpty then .error (.config "base URL is empty" key)
  else match Url.parse baseUrl with
    | .error fault =>
      .error (.config ("invalid base URL '" ++ baseUrl ++ "': " ++ fault.message) key)
    | .ok url =>
      if webSchemes.contains url.scheme then .ok ()
      else .error (.config ("unsupported URL scheme '" ++ url.scheme ++ "'") key)

/-- Refuses settings with which no server can be reached. -/
def validate (cfg : Config) : Except Error Unit :=
  match validateBaseUrl cfg.baseUrl with
  | .error e => .error e
  | .ok () =>
    if cfg.credentials.uid.isEmpty then
      .error (.config "login uid is empty" (some "credentials.uid"))
    else if cfg.requestTimeout.seconds = 0 ∧ cfg.requestTimeout.nanos = 0 then
      .error (.config "request timeout must be greater than zero" (some "request_timeout"))
    else .ok ()

end Config

end TransactionHarness
