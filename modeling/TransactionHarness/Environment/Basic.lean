import TransactionHarness.Config.Validation
/-!
# Environments

An environment gives values to names. The address of the service has to be in it; every other
setting that can be made there has a default, and some cannot be made there.
-/

namespace TransactionHarness

/-- The values of names. Of two values of one name the first counts. -/
abbrev Environment := List (String × String)

namespace Environment

/-- The value of a name. -/
def value? (env : Environment) (name : String) : Option String := env.lookup name

/-- The environment with a value for a name that has none yet. -/
def default (env : Environment) (name value : String) : Environment :=
  if (env.value? name).isSome then env else env ++ [(name, value)]

/-! ### The names of the settings -/

def apiHostName : String := "BELAYER_API_HOST"
def cliPathName : String := "BELAYER_CLI_PATH"
def curlPathName : String := "BELAYER_CURL_PATH"
def uidName : String := "BELAYER_UID"
def pwName : String := "BELAYER_PW"
def transportName : String := "BELAYER_TRANSPORT"
def timeoutName : String := "BELAYER_TIMEOUT_SECS"

/-! ### Settings -/

/-- Reads a number of seconds, with white space around it. -/
def readTimeout (s : String) : Except Error Span :=
  match Text.readUnsigned? Text.max64 (Text.trim s.toList) with
  | some seconds => .ok { seconds }
  | none => .error (.config
      (timeoutName ++ " must be a whole number of seconds, got '" ++ s ++ "'")
      (some "request_timeout"))

/-- Reads the value of a name, if it has one. -/
def readWith {α : Type} (env : Environment) (name : String) (read : String → Except Error α)
    (default : α) : Except Error α :=
  match env.value? name with
  | some s => read s
  | none => .ok default

/-- The settings in an environment, before they are checked. -/
def settings (env : Environment) : Except Error Config := do
  let standard : Config := {}
  let some baseUrl := env.value? apiHostName
    | throw (.config (apiHostName ++ " not set in environment") (some "base_url"))
  let transport ← env.readWith transportName TransportKind.read standard.transport
  let requestTimeout ← env.readWith timeoutName readTimeout standard.requestTimeout
  return { baseUrl
           cliPath? := env.value? cliPathName
           curlPath? := env.value? curlPathName
           credentials := { uid := (env.value? uidName).getD standard.credentials.uid
                            pw := (env.value? pwName).getD standard.credentials.pw }
           transport
           requestTimeout }

/-- The settings in an environment. They have to be usable. -/
def config (env : Environment) : Except Error Config := do
  let cfg ← env.settings
  cfg.validate
  return cfg

end Environment

end TransactionHarness
