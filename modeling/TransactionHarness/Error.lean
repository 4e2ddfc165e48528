import TransactionHarness.Step
/-!
# Errors

Every failure ends a run. An error says what went wrong in words (`message`), belongs to a class
(`code`), and names the step whose reply was rejected, if a reply was (`step?`): only unreadable and
unexpected replies do.
-/

namespace TransactionHarness

/-- Why something failed. -/
inductive Error where
  /-- No token could be obtained. -/
  | authentication (message : String)
  /-- A reply could not be read. -/
  | malformedResponse (step : Step) (reason : String)
  /-- A reply is not the one that the step asks for. -/
  | verification (step : Step) (expected actual : String)
  /-- A request got no reply. -/
  | transport (message : String)
  /-- The connection failed in a way that only the network can describe. -/
  | network
  /-- A setting is unusable; the key names it. -/
  | config (message : String) (key : Option String)
  /-- The run is not in a state to go on. -/
  | invalidState (message : String)
  /-- A file could not be used. -/
  | io (message : String)
  /-- A text is not the JSON it should be. -/
  | serialization (message : String)
  deriving DecidableEq, Repr, Inhabited

namespace Error

/-- The class of an error. Both ways to lose a request are one class. -/
def code : Error → String
  | authentication _ => "authentication_error"
  | malformedResponse _ _ => "malformed_response"
  | verification _ _ _ => "verification_failure"
  | transport _ => "transport_error"
  | network => "transport_error"
  | config _ _ => "config_error"
  | invalidState _ => "invalid_state"
  | io _ => "io_error"
  | serialization _ => "serialization_error"

/-- The step whose reply was rejected. -/
def step? : Error → Option Step
  | malformedResponse step _ => some step
  | verification step _ _ => some step
  | _ => none

/-- The words for an error. -/
def message : Error → String
  | authentication message => "authentication failed: " ++ message
  | malformedResponse step reason =>
    "malformed response for step " ++ step.name ++ ": " ++ reason
  | verification step expected actual =>
    "verification failed for step " ++ step.name ++ ": expected " ++ expected ++ ", got " ++ actual
  | transport message => "transport error: " ++ message
  | network => "network error"
  | config message _ => "configuration error: " ++ message
  | invalidState message => "invalid session state: " ++ message
  | io message => "I/O error: " ++ message
  | serialization message => "serialization error: " ++ message

end Error

end TransactionHarness
