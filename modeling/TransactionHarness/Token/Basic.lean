import TransactionHarness.Error
import TransactionHarness.Instant.Timestamp
import TransactionHarness.Json.Decode
/-!
# Access tokens

The service answers a login or a refresh with a token reply (`TokenReply`). It is worth a token
(`AccessToken.ofReply`) if it carries a non-empty access token, and is an authentication error
otherwise. A token may have an instant at which it expires; `needsRenewal` says whether a span
before that instant has been reached.
-/

namespace TransactionHarness

/-- The answer to a login or a refresh. Everything in it is optional. -/
structure TokenReply where
  userId : Option String := none
  accessToken : Option String := none
  accessExpirationTime : Option Json := none
  refreshToken : Option String := none
  refreshExpirationTime : Option Json := none
  errorMessage : Option String := none
  deriving Inhabited

namespace TokenReply

open Json

def textField (name : String) : RecordField (Option String) :=
  .withDefault name (asOption asString) none

def valueField (name : String) : RecordField (Option Json) := .withDefault name (asOption asIs) none

def userIdField : RecordField (Option String) := textField "userId"
def accessTokenField : RecordField (Option String) := textField "accessToken"
def accessExpirationTimeField : RecordField (Option Json) := valueField "accessExpirationTime"
def refreshTokenField : RecordField (Option String) := textField "refreshToken"
def refreshExpirationTimeField : RecordField (Option Json) := valueField "refreshExpirationTime"
def errorMessageField : RecordField (Option String) := textField "errorMessage"

def ofJson : Decoder TokenReply := fun v ↦ do
  let name := "struct AuthResult"
  let record ← Record.ofJson name v
  record.precheck [Record.check userIdField, Record.check accessTokenField,
    Record.check accessExpirationTimeField, Record.check refreshTokenField,
    Record.check refreshExpirationTimeField, Record.check errorMessageField]
  let userId ← record.get name 6 0 userIdField
  let accessToken ← record.get name 6 1 accessTokenField
  let accessExpirationTime ← record.get name 6 2 accessExpirationTimeField
  let refreshToken ← record.get name 6 3 refreshTokenField
  let refreshExpirationTime ← record.get name 6 4 refreshExpirationTimeField
  let errorMessage ← record.get name 6 5 errorMessageField
  record.finish 6
  return { userId, accessToken, accessExpirationTime, refreshToken, refreshExpirationTime,
           errorMessage }

def toJson (r : TokenReply) : Json :=
  .obj [("accessExpirationTime", r.accessExpirationTime.getD .null),
    ("accessToken", .ofString? r.accessToken), ("errorMessage", .ofString? r.errorMessage),
    ("refreshExpirationTime", r.refreshExpirationTime.getD .null),
    ("refreshToken", .ofString? r.refreshToken), ("userId", .ofString? r.userId)]

end TokenReply

/-! ### Expiration times -/

/-- The instant that a number of seconds stands for. The part behind the point counts in
nanoseconds, rounded, but only for positive numbers. -/
def Instant.ofBinary64? (x : Binary64) : Option Instant :=
  let whole : Int := if x.negative then -(x.wholePart : Int) else x.wholePart
  let nanos :=
    if x.negative then 0
    else match x.fraction.mul? (Binary64.ofNat nanosPerSecond) with
      | some y => min y.roundHalfUp (nanosPerSecond - 1)
      | none => 0
  Instant.ofSeconds? whole nanos

/-- The instant that an expiration time names: a timestamp, or a number of seconds. -/
def Instant.ofJson? : Json → Option Instant
  | .str s => Instant.read? s.toList
  | .num n => Instant.ofBinary64? n.toBinary64
  | _ => none

/-! ### Tokens -/

/-- A token with which requests are authorised. -/
structure AccessToken where
  accessToken : String
  expiresAt? : Option Instant
  /-- With this a new token can be had without a login. -/
  refreshToken? : Option String
  deriving DecidableEq, Repr, Inhabited

namespace AccessToken

/-- A text that is not empty. -/
def nonEmpty? (s : Option String) : Option String := s.filter fun t ↦ !t.isEmpty

/-- The token in a reply. Without one, the error message of the reply says why. -/
def ofReply (r : TokenReply) : Except Error AccessToken :=
  match nonEmpty? r.accessToken with
  | some accessToken =>
    .ok { accessToken
          expiresAt? := r.accessExpirationTime.bind Instant.ofJson?
          refreshToken? := nonEmpty? r.refreshToken }
  | none => .error (.authentication (r.errorMessage.getD "response carried no accessToken"))

/-- Whether, at the instant `now`, no more than `margin` is left until the token expires. Where the
calendar does not reach back by the margin, nothing is left. -/
def needsRenewal (token : AccessToken) (now : Instant) (margin : Span) : Bool :=
  match token.expiresAt? with
  | none => false
  | some expiry =>
    match expiry.sub? margin.saturated with
    | some deadline => now.notBefore deadline
    | none => true

/-- What may be told of a token: when it expires and whether it can be refreshed. -/
def summary (token : AccessToken) : String :=
  let expiry := match token.expiresAt? with
    | some t => "Some(" ++ t.display ++ ")"
    | none => "None"
  let refresh := if token.refreshToken?.isSome then "Some(\"<redacted>\")" else "None"
  "AuthToken \x7b access_token: \"<redacted>\", expires_at: " ++ expiry ++ ", refresh_token: " ++
    refresh ++ " \x7d"

end AccessToken

end TransactionHarness
