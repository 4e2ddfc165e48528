import TransactionHarness.Config.Validation
import TransactionHarness.Exchange
/-!
# Senders

Requests are sent by the client of this library or by a program named curl. The settings choose;
where they choose curl without saying where it is, it has to be found on the search path.

`connect` gives the context of a run for usable settings: the settings, and the world in which the
chosen sender sends.
-/

namespace TransactionHarness

/-- What sends the requests. -/
inductive Sender where
  | http
  /-- The program at a path. -/
  | curl (program : String)
  deriving DecidableEq, Repr, Inhabited

/-- The name of a sender. -/
def Sender.name : Sender → String
  | http => "http"
  | curl _ => "curl"

namespace Config

/-- The sender that the settings choose, given the curl on the search path. -/
def sender (cfg : Config) (found? : Option String) : Except Error Sender :=
  match cfg.transport with
  | .http => .ok .http
  | .curl =>
    match cfg.curlPath? <|> found? with
    | some program => .ok (.curl program)
    | none => .error (.config "curl binary not found in PATH" (some "curl_path"))

/-- The context of a run in which the chosen sender sends. The settings have to be usable. -/
def connect {σ : Type} (cfg : Config) (found? : Option String) (world : Sender → World σ) :
    Except Error (Context σ) := do
  cfg.validate
  let sender ← cfg.sender found?
  return { config := cfg, world := world sender }

end Config

end TransactionHarness
