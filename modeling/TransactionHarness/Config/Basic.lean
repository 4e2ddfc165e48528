import TransactionHarness.Instant.Basic
import TransactionHarness.Text.Blank
import TransactionHarness.Text.Quoted
/-!
# Settings

The settings of a run: where the service is and how to log in, how requests are sent, how long they
may take, when tokens are renewed, and where files are kept. Every setting but the address of the
service has a default.

`apiBase` and `endpoint` join the address, the path prefix of the interface and a path with exactly
one slash at each joint, however many slashes the parts bring along; an empty prefix adds no
segment.
-/

namespace TransactionHarness

/-- What a login takes. -/
structure Credentials where
  uid : String := "tsurugi"
  pw : String := "password"
  deriving DecidableEq, Repr, Inhabited

/-- How requests are sent: from this process, or by the `curl` program. -/
inductive TransportKind where
  | http
  | curl
  deriving DecidableEq, Repr, Inhabited

/-- The spelling of a way to send requests. -/
def TransportKind.name : TransportKind → String
  | http => "http"
  | curl => "curl"

/-- When a token is obtained. -/
inductive TokenPolicy where
  /-- For every step. -/
  | perStep
  /-- When there is none, and when no more than the margin is left until it expires. -/
  | cached (margin : Span)
  deriving DecidableEq, Repr, Inhabited

/-- The margin of the cached policy when none is given. -/
def TokenPolicy.standardMargin : Span := ⟨30, 0⟩

/-- The settings of a run. -/
structure Config where
  baseUrl : String := "http://localhost:8000"
  apiPrefix : String := "/api"
  /-- The program of the command line interface, which no run needs. -/
  cliPath? : Option String := none
  /-- The `curl` program, if it is not the one on the search path. -/
  curlPath? : Option String := none
  credentials : Credentials := {}
  transport : TransportKind := .http
  requestTimeout : Span := ⟨60, 0⟩
  /-- Where downloaded files go. -/
  downloadDir : String := "fs/dl"
  /-- Where the files to load are. -/
  loadDir : String := "fs/load_file"
  tokenPolicy : TokenPolicy := .perStep
  deriving DecidableEq, Repr, Inhabited

namespace Config

/-! ### Addresses -/

/-- A slash. -/
def isSlash (c : Char) : Bool := c == '/'

/-- The address of the interface: the address of the service and the prefix, without a slash at the
end. -/
def apiBaseChars (cfg : Config) : List Char :=
  let base := Text.dropLastWhile isSlash cfg.baseUrl.toList
  let inner := Text.dropLastWhile isSlash (cfg.apiPrefix.toList.dropWhile isSlash)
  Text.dropLastWhile isSlash (base ++ '/' :: inner)

/-- The address of the interface. -/
def apiBase (cfg : Config) : String := String.ofList cfg.apiBaseChars

/-- The address of a path of the interface. -/
def endpoint (cfg : Config) (path : String) : String :=
  String.ofList (cfg.apiBaseChars ++ '/' :: path.toList.dropWhile isSlash)

/-! ### Summary -/

/-- A text that may be absent, in the summary. -/
def summaryOption (path : Option String) : String :=
  match path with
  | some p => "Some(" ++ Text.Quoted.ofText p ++ ")"
  | none => "None"

/-- The login as it may be told: without the password. -/
def summaryCredentials (c : Credentials) : String :=
  "Credentials \x7b uid: " ++ Text.Quoted.ofText c.uid ++ ", pw: \"<redacted>\" \x7d"

/-- The way to send requests, in the summary. -/
def summaryTransport : TransportKind → String
  | .http => "Http"
  | .curl => "Curl"

/-- The token policy, in the summary. -/
def summaryPolicy : TokenPolicy → String
  | .perStep => "PerStep"
  | .cached margin => "Cached \x7b refresh_margin: " ++ margin.display ++ " \x7d"

/-- The settings as they may be told. The password stays out of it. -/
def summary (cfg : Config) : String :=
  "HarnessConfig \x7b base_url: " ++ Text.Quoted.ofText cfg.baseUrl ++
    ", api_prefix: " ++ Text.Quoted.ofText cfg.apiPrefix ++
    ", cli_path: " ++ summaryOption cfg.cliPath? ++
    ", curl_path: " ++ summaryOption cfg.curlPath? ++
    ", credentials: " ++ summaryCredentials cfg.credentials ++
    ", transport: " ++ summaryTransport cfg.transport ++
    ", request_timeout: " ++ cfg.requestTimeout.display ++
    ", download_dir: " ++ Text.Quoted.ofText cfg.downloadDir ++
    ", load_dir: " ++ Text.Quoted.ofText cfg.loadDir ++
    ", token_policy: " ++ summaryPolicy cfg.tokenPolicy ++ " \x7d"

end Config

end TransactionHarness
