import TransactionHarness.Config.Basic
import TransactionHarness.Json.Decode
/-!
# The JSON form of settings

Times are whole numbers of seconds. A token policy is an object whose field `mode` names it, or an
array that starts with the name; what else the policy has follows in the same object or array.
-/

namespace TransactionHarness

open Json

/-- Reads a whole number of seconds. -/
def Span.ofJson : Decoder Span := fun v ↦ do
  let seconds ← asNat Text.max64 "u64" v
  return { seconds }

/-- Writes the whole seconds. -/
def Span.toJson (d : Span) : Json := .ofNat d.seconds

namespace Credentials

def uidField : RecordField String := .withDefault "uid" asString ({} : Credentials).uid
def pwField : RecordField String := .withDefault "pw" asString ({} : Credentials).pw

def ofJson : Decoder Credentials := fun v ↦ do
  let name := "struct Credentials"
  let record ← Record.ofJson name v
  record.precheck [Record.check uidField, Record.check pwField]
  let uid ← record.get name 2 0 uidField
  let pw ← record.get name 2 1 pwField
  record.finish 2
  return { uid, pw }

def toJson (c : Credentials) : Json := .obj [("pw", .str c.pw), ("uid", .str c.uid)]

end Credentials

def TransportKind.ofJson : Decoder TransportKind :=
  asAlternative [("http", .http), ("curl", .curl)]

def TransportKind.toJson (k : TransportKind) : Json := .str k.name

namespace TokenPolicy

/-- The names of the policies. -/
inductive Mode where
  | perStep
  | cached
  deriving DecidableEq, Repr, Inhabited

/-- Reads the name of a policy. -/
def readMode : Decoder Mode
  | .str s => lookup [("per_step", .perStep), ("cached", .cached)] s
  | v => .error (.kind v "variant identifier")

def modeName : String := "mode"

def marginField : RecordField Span := .withDefault "refresh_margin" Span.ofJson standardMargin

/-- Refuses items beyond the last one of a policy that is an array. -/
def noFurther (count : Nat) (rest : List Json) : Except Misfit Unit :=
  if rest.length ≤ count then .ok ()
  else .error (.length rest.length (Record.countText count ++ " in sequence"))

/-- Reads what follows the name of a policy. -/
def readRest (mode : Mode) (record : Record) : Except Misfit TokenPolicy := do
  match mode with
  | .perStep =>
    match record with
    | .byName _ => return perStep
    | .byPosition rest =>
      noFurther 0 rest
      return perStep
  | .cached =>
    record.precheck [Record.check marginField]
    let margin ← record.get "struct variant TokenPolicy::Cached" 1 0 marginField
    match record with
    | .byName _ => return cached margin
    | .byPosition rest =>
      noFurther 1 rest
      return cached margin

def ofJson : Decoder TokenPolicy := fun v ↦ do
  match v with
  | .obj fields =>
    match find? modeName fields with
    | none => throw (.missingField modeName)
    | some tag =>
      let mode ← readMode tag
      readRest mode (.byName fields)
  | .arr [] => throw (.missingField modeName)
  | .arr (tag :: rest) =>
    let mode ← readMode tag
    readRest mode (.byPosition rest)
  | v => throw (.kind v "internally tagged enum TokenPolicy")

def toJson : TokenPolicy → Json
  | perStep => .obj [("mode", .str "per_step")]
  | cached margin => .obj [("mode", .str "cached"), ("refresh_margin", margin.toJson)]

end TokenPolicy

namespace Config

def standard : Config := {}

def baseUrlField : RecordField String := .required "base_url" asString
def apiPrefixField : RecordField String := .withDefault "api_prefix" asString standard.apiPrefix
def cliPathField : RecordField (Option String) := .withDefault "cli_path" (asOption asPath) none
def curlPathField : RecordField (Option String) := .withDefault "curl_path" (asOption asPath) none
def credentialsField : RecordField Credentials := .withDefault "credentials" Credentials.ofJson {}
def transportField : RecordField TransportKind :=
  .withDefault "transport" TransportKind.ofJson standard.transport
def requestTimeoutField : RecordField Span :=
  .withDefault "request_timeout" Span.ofJson standard.requestTimeout
def downloadDirField : RecordField String := .withDefault "download_dir" asPath standard.downloadDir
def loadDirField : RecordField String := .withDefault "load_dir" asPath standard.loadDir
def tokenPolicyField : RecordField TokenPolicy :=
  .withDefault "token_policy" TokenPolicy.ofJson standard.tokenPolicy

def ofJson : Decoder Config := fun v ↦ do
  let name := "struct HarnessConfig"
  let record ← Record.ofJson name v
  record.precheck [Record.check baseUrlField, Record.check apiPrefixField,
    Record.check cliPathField, Record.check curlPathField, Record.check credentialsField,
    Record.check transportField, Record.check requestTimeoutField,
    Record.check downloadDirField, Record.check loadDirField, Record.check tokenPolicyField]
  let baseUrl ← record.get name 10 0 baseUrlField
  let apiPrefix ← record.get name 10 1 apiPrefixField
  let cliPath? ← record.get name 10 2 cliPathField
  let curlPath? ← record.get name 10 3 curlPathField
  let credentials ← record.get name 10 4 credentialsField
  let transport ← record.get name 10 5 transportField
  let requestTimeout ← record.get name 10 6 requestTimeoutField
  let downloadDir ← record.get name 10 7 downloadDirField
  let loadDir ← record.get name 10 8 loadDirField
  let tokenPolicy ← record.get name 10 9 tokenPolicyField
  record.finish 10
  return { baseUrl, apiPrefix, cliPath?, curlPath?, credentials, transport, requestTimeout,
           downloadDir, loadDir, tokenPolicy }

def toJson (cfg : Config) : Json :=
  .obj [("api_prefix", .str cfg.apiPrefix), ("base_url", .str cfg.baseUrl),
    ("cli_path", .ofString? cfg.cliPath?), ("credentials", cfg.credentials.toJson),
    ("curl_path", .ofString? cfg.curlPath?), ("download_dir", .str cfg.downloadDir),
    ("load_dir", .str cfg.loadDir), ("request_timeout", cfg.requestTimeout.toJson),
    ("token_policy", cfg.tokenPolicy.toJson), ("transport", cfg.transport.toJson)]

end Config

end TransactionHarness
