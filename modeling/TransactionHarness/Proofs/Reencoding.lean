import TransactionHarness.Config.Codec
import TransactionHarness.Proofs.Codec
import TransactionHarness.Token.Basic
/-!
# Writing what was read

The nine JSON forms (`Schema`) are settled by one decoding: whatever value a typed value was read
from, be it with unknown or without defaulted fields, an object or an array, its JSON form is read
as the same typed value again, and names every field (`Schema.reads_back`).

Not every typed value has that property. A time is written as its whole seconds, so that a part of a
second is lost, and null stands for an expiration time that is absent. The values that can be
written (`Schema.Writable`) are exactly those that are read back (`Schema.decode_encode_iff`), and a
decoder gives no others, because neither the values of its fields nor their defaults are others
(`Json.RecordField.Gives`).
-/

namespace TransactionHarness

open Json

namespace Json

/-! ### What a field can be -/

namespace RecordField

variable {α : Type} {P : α → Prop}

/-- Whatever a field is, it has the property: what is read for it, and what it is without a
value. -/
structure Gives (f : RecordField α) (P : α → Prop) : Prop where
  read : ∀ {v a}, f.decode v = .ok a → P a
  missing : ∀ a ∈ f.missing?, P a
  beyond : ∀ a ∈ f.beyond?, P a

theorem gives_required {name : String} {decode : Decoder α}
    (read : ∀ {v a}, decode v = .ok a → P a) : (required name decode).Gives P :=
  ⟨read, nofun, nofun⟩

theorem gives_withDefault {name : String} {decode : Decoder α} {value : α}
    (read : ∀ {v a}, decode v = .ok a → P a) (default : P value) :
    (withDefault name decode value).Gives P := by
  refine ⟨read, ?_, ?_⟩ <;>
  · rintro a ⟨⟩
    exact default

/-- What is taken from a record has the property. -/
theorem Gives.of_get {f : RecordField α} (gives : f.Gives P) {record : Record} {name : String}
    {count position : Nat} {a : α} (h : record.get name count position f = .ok a) : P a := by
  unfold Record.get at h
  split at h <;> split at h
  · exact gives.read h
  · split at h
    · next hmissing => exact gives.missing a (hmissing.trans (congrArg some (Except.ok.inj h)))
    · cases h
  · exact gives.read h
  · split at h
    · next hbeyond => exact gives.beyond a (hbeyond.trans (congrArg some (Except.ok.inj h)))
    · cases h

end RecordField

/-! ### Simple values -/

theorem asNat_eq_ok_iff {limit n : Nat} {typeName : String} {v : Json} :
    asNat limit typeName v = .ok n ↔ v = .ofNat n ∧ n ≤ limit := by
  unfold asNat
  split
  · next m =>
    simp only [ofNat, ofInt, Json.num.injEq, Number.int.injEq]
    split <;> simp <;> omega
  · next hint =>
    refine iff_of_false nofun ?_
    rintro ⟨rfl, -⟩
    exact hint n rfl

@[simp] theorem asPath_str (s : String) : asPath (.str s) = .ok s := rfl

@[simp] theorem asOption_asPath_ofString? (s? : Option String) :
    asOption asPath (.ofString? s?) = .ok s? := by
  cases s? <;> rfl

/-- Null is nothing, so nothing is null. -/
theorem ne_null_of_asOption {v : Json} {x : Option Json} (h : asOption asIs v = .ok x) :
    x ≠ some .null := by
  cases v <;> cases h <;> simp

theorem asOption_asIs_getD {x : Option Json} (h : x ≠ some .null) :
    asOption asIs (x.getD .null) = .ok x := by
  rcases x with - | v
  · rfl
  · cases v with
    | null => exact absurd rfl h
    | bool | num | str | arr | obj => rfl

end Json

/-! ### Values that can be written -/

/-- A time of whole seconds, as many as fit in sixty-four bits. -/
def Span.IsWhole (d : Span) : Prop := d.nanos = 0 ∧ d.seconds ≤ Text.max64

theorem Span.ofJson_eq_ok_iff {v : Json} {d : Span} :
    Span.ofJson v = .ok d ↔ v = d.toJson ∧ d.IsWhole := by
  obtain ⟨seconds, nanos⟩ := d
  simp only [ofJson, bind_eq_ok_iff, asNat_eq_ok_iff, toJson, IsWhole]
  constructor
  · rintro ⟨n, ⟨rfl, hn⟩, ⟨⟩⟩
    exact ⟨rfl, rfl, hn⟩
  · rintro ⟨rfl, rfl, hn⟩
    exact ⟨seconds, ⟨rfl, hn⟩, rfl⟩

theorem Span.isWhole_of_ofJson {v : Json} {d : Span} (h : Span.ofJson v = .ok d) : d.IsWhole :=
  (ofJson_eq_ok_iff.1 h).2

theorem Credentials.ofJson_toJson (c : Credentials) : Credentials.ofJson c.toJson = .ok c := by
  simp [ofJson, toJson, Record.precheckFields, Record.check, find?, uidField, pwField,
    RecordField.withDefault, Except.map]

@[simp] theorem TransportKind.ofJson_toJson (kind : TransportKind) :
    TransportKind.ofJson kind.toJson = .ok kind := by
  cases kind <;> rfl

/-- A policy whose margin can be written. -/
def TokenPolicy.IsWhole : TokenPolicy → Prop
  | perStep => True
  | cached margin => margin.IsWhole

theorem TokenPolicy.ofJson_toJson {policy : TokenPolicy} (h : policy.IsWhole) :
    TokenPolicy.ofJson policy.toJson = .ok policy := by
  cases policy with
  | perStep => rfl
  | cached margin =>
    have hmargin := Span.ofJson_eq_ok_iff.2 ⟨rfl, h⟩
    simp [ofJson, toJson, readMode, readRest, lookup, find?, modeName, marginField, hmargin,
      Record.precheckFields, Record.check, RecordField.withDefault, Except.map]

theorem TokenPolicy.isWhole_of_readRest {mode : Mode} {record : Json.Record} {policy : TokenPolicy}
    (h : readRest mode record = .ok policy) : policy.IsWhole := by
  cases mode with
  | perStep =>
    cases record with
    | byName _ => exact Except.ok.inj h ▸ trivial
    | byPosition rest =>
      obtain ⟨-, -, hpolicy⟩ := bind_eq_ok_iff.1 h
      exact Except.ok.inj hpolicy ▸ trivial
  | cached =>
    have hgives : marginField.Gives Span.IsWhole :=
      RecordField.gives_withDefault Span.isWhole_of_ofJson ⟨rfl, by decide⟩
    simp only [readRest, bind_eq_ok_iff] at h
    obtain ⟨-, -, margin, hmargin, hrest⟩ := h
    have hwhole : (cached margin).IsWhole := hgives.of_get hmargin
    cases record with
    | byName _ => exact Except.ok.inj hrest ▸ hwhole
    | byPosition rest =>
      obtain ⟨-, -, hpolicy⟩ := bind_eq_ok_iff.1 hrest
      exact Except.ok.inj hpolicy ▸ hwhole

theorem TokenPolicy.isWhole_of_ofJson {v : Json} {policy : TokenPolicy}
    (h : TokenPolicy.ofJson v = .ok policy) : policy.IsWhole := by
  cases v with
  | obj fields =>
    cases hmode : find? modeName fields with
    | none => simp [ofJson, hmode] at h
    | some tag =>
      simp only [ofJson, hmode, bind_eq_ok_iff] at h
      obtain ⟨mode, -, hrest⟩ := h
      exact isWhole_of_readRest hrest
  | arr items =>
    cases items with
    | nil => cases h
    | cons tag rest =>
      obtain ⟨mode, -, hrest⟩ := bind_eq_ok_iff.1 h
      exact isWhole_of_readRest hrest
  | null | bool | num | str => cases h

theorem BeginRequest.ofJson_toJson {r : BeginRequest} (h : r.timeoutMinutes ≤ Text.max32) :
    BeginRequest.ofJson r.toJson = .ok r := by
  have htables : mapItems asString (r.tables.map .str) = .ok r.tables :=
    mapItems_asString_eq_ok_iff.2 rfl
  have htimeout : asNat Text.max32 "u32" (.ofNat r.timeoutMinutes) = .ok r.timeoutMinutes :=
    asNat_eq_ok_iff.2 ⟨rfl, h⟩
  simp [ofJson, toJson, Record.precheckFields, Record.check, find?, typeField, timeoutField,
    tablesField, RecordField.required, asList, htables, htimeout, Except.map]

theorem BeginRequest.timeout_le_of_ofJson {v : Json} {r : BeginRequest}
    (h : BeginRequest.ofJson v = .ok r) : r.timeoutMinutes ≤ Text.max32 := by
  have hgives : timeoutField.Gives (· ≤ Text.max32) :=
    RecordField.gives_required fun hread ↦ (asNat_eq_ok_iff.1 hread).2
  simp only [ofJson, bind_eq_ok_iff] at h
  obtain ⟨record, -, -, -, type, -, timeout, htimeout, tables, -, -, -, hr⟩ := h
  obtain rfl := Except.ok.inj hr
  exact hgives.of_get htimeout

theorem DumpRequest.ofJson_toJson (r : DumpRequest) : DumpRequest.ofJson r.toJson = .ok r := by
  simp [ofJson, toJson, Record.precheckFields, Record.check, find?, formatField,
    RecordField.required, Except.map]

/-- A reply whose expiration times, where it has any, are not null. -/
structure TokenReply.IsWritable (r : TokenReply) : Prop where
  access : r.accessExpirationTime ≠ some .null
  refresh : r.refreshExpirationTime ≠ some .null

theorem TokenReply.ofJson_toJson {r : TokenReply} (h : r.IsWritable) :
    TokenReply.ofJson r.toJson = .ok r := by
  have haccess := asOption_asIs_getD h.access
  have hrefresh := asOption_asIs_getD h.refresh
  simp [ofJson, toJson, Record.precheckFields, Record.check, find?, userIdField, accessTokenField,
    accessExpirationTimeField, refreshTokenField, refreshExpirationTimeField, errorMessageField,
    textField, valueField, RecordField.withDefault, haccess, hrefresh, Except.map]

theorem TokenReply.isWritable_of_ofJson {v : Json} {r : TokenReply}
    (h : TokenReply.ofJson v = .ok r) : r.IsWritable := by
  have hgives (name : String) : (valueField name).Gives (· ≠ some .null) :=
    RecordField.gives_withDefault ne_null_of_asOption nofun
  simp only [ofJson, bind_eq_ok_iff] at h
  obtain ⟨record, -, -, -, _, -, _, -, access, haccess, _, -, refresh, hrefresh, _, -, -, -,
    hr⟩ := h
  obtain rfl := Except.ok.inj hr
  exact ⟨(hgives _).of_get haccess, (hgives _).of_get hrefresh⟩

/-- Settings whose times can be written. -/
structure Config.IsWritable (cfg : Config) : Prop where
  requestTimeout : cfg.requestTimeout.IsWhole
  tokenPolicy : cfg.tokenPolicy.IsWhole

theorem Config.ofJson_toJson {cfg : Config} (h : cfg.IsWritable) :
    Config.ofJson cfg.toJson = .ok cfg := by
  have htimeout := Span.ofJson_eq_ok_iff.2 ⟨rfl, h.requestTimeout⟩
  have hpolicy := TokenPolicy.ofJson_toJson h.tokenPolicy
  have hcredentials := Credentials.ofJson_toJson cfg.credentials
  simp [ofJson, toJson, Record.precheckFields, Record.check, find?, baseUrlField, apiPrefixField,
    cliPathField, curlPathField, credentialsField, transportField, requestTimeoutField,
    downloadDirField, loadDirField, tokenPolicyField, RecordField.required,
    RecordField.withDefault, htimeout, hpolicy, hcredentials, Except.map]

theorem Config.isWritable_of_ofJson {v : Json} {cfg : Config}
    (h : Config.ofJson v = .ok cfg) : cfg.IsWritable := by
  have htimeouts : requestTimeoutField.Gives Span.IsWhole :=
    RecordField.gives_withDefault Span.isWhole_of_ofJson ⟨rfl, by decide⟩
  have hpolicies : tokenPolicyField.Gives TokenPolicy.IsWhole :=
    RecordField.gives_withDefault TokenPolicy.isWhole_of_ofJson trivial
  simp only [ofJson, bind_eq_ok_iff] at h
  obtain ⟨record, -, -, -, _, -, _, -, _, -, _, -, _, -, _, -, timeout, htimeout, _, -, _, -,
    policy, hpolicy, -, -, hcfg⟩ := h
  obtain rfl := Except.ok.inj hcfg
  exact ⟨htimeouts.of_get htimeout, hpolicies.of_get hpolicy⟩

/-! ### The JSON forms -/

/-- The types with a JSON form. -/
inductive Schema where
  | config
  | credentials
  | tokenPolicy
  | beginRequest
  | dumpRequest
  | transaction
  | dumpResult
  | loadResult
  | tokenReply
  deriving DecidableEq, Repr, Inhabited

namespace Schema

/-- The typed values. -/
def Value : Schema → Type
  | config => Config
  | credentials => Credentials
  | tokenPolicy => TokenPolicy
  | beginRequest => BeginRequest
  | dumpRequest => DumpRequest
  | transaction => Transaction
  | dumpResult => DumpResult
  | loadResult => LoadResult
  | tokenReply => TokenReply

/-- Reads a typed value. -/
def decode : (s : Schema) → Decoder s.Value
  | config => Config.ofJson
  | credentials => Credentials.ofJson
  | tokenPolicy => TokenPolicy.ofJson
  | beginRequest => BeginRequest.ofJson
  | dumpRequest => DumpRequest.ofJson
  | transaction => Transaction.ofJson
  | dumpResult => DumpResult.ofJson
  | loadResult => LoadResult.ofJson
  | tokenReply => TokenReply.ofJson

/-- Writes a typed value. -/
def encode : (s : Schema) → s.Value → Json
  | config => Config.toJson
  | credentials => Credentials.toJson
  | tokenPolicy => TokenPolicy.toJson
  | beginRequest => BeginRequest.toJson
  | dumpRequest => DumpRequest.toJson
  | transaction => Transaction.toJson
  | dumpResult => DumpResult.toJson
  | loadResult => LoadResult.toJson
  | tokenReply => TokenReply.toJson

/-- The names of all fields that the type declares; of a token policy, those of its variant. -/
def fieldNames : (s : Schema) → s.Value → List String
  | config, _ =>
    [Config.baseUrlField.name, Config.apiPrefixField.name, Config.cliPathField.name,
      Config.curlPathField.name, Config.credentialsField.name, Config.transportField.name,
      Config.requestTimeoutField.name, Config.downloadDirField.name, Config.loadDirField.name,
      Config.tokenPolicyField.name]
  | credentials, _ => [Credentials.uidField.name, Credentials.pwField.name]
  | tokenPolicy, .perStep => [TokenPolicy.modeName]
  | tokenPolicy, .cached _ => [TokenPolicy.modeName, TokenPolicy.marginField.name]
  | beginRequest, _ =>
    [BeginRequest.typeField.name, BeginRequest.timeoutField.name, BeginRequest.tablesField.name]
  | dumpRequest, _ => [DumpRequest.formatField.name]
  | transaction, _ =>
    [Transaction.typeField.name, Transaction.idField.name, Transaction.statusField.name,
      Transaction.startTimeField.name, Transaction.endTimeField.name]
  | dumpResult, _ =>
    [DumpResult.idField.name, DumpResult.tableField.name, DumpResult.formatField.name,
      DumpResult.downloadPathsField.name]
  | loadResult, _ =>
    [LoadResult.idField.name, LoadResult.dumpFilesField.name, LoadResult.formatField.name,
      LoadResult.tableField.name]
  | tokenReply, _ =>
    [TokenReply.userIdField.name, TokenReply.accessTokenField.name,
      TokenReply.accessExpirationTimeField.name, TokenReply.refreshTokenField.name,
      TokenReply.refreshExpirationTimeField.name, TokenReply.errorMessageField.name]

/-- Nothing of the value is lost when it is written. -/
def Writable : (s : Schema) → s.Value → Prop
  | config => Config.IsWritable
  | tokenPolicy => TokenPolicy.IsWhole
  | beginRequest => fun r ↦ r.timeoutMinutes ≤ Text.max32
  | tokenReply => TokenReply.IsWritable
  | credentials | dumpRequest | transaction | dumpResult | loadResult => fun _ ↦ True

/-- A decoder gives only values that can be written. -/
theorem writable_of_decode (s : Schema) {v : Json} {x : s.Value} (h : s.decode v = .ok x) :
    s.Writable x := by
  cases s with
  | config => exact Config.isWritable_of_ofJson h
  | tokenPolicy => exact TokenPolicy.isWhole_of_ofJson h
  | beginRequest => exact BeginRequest.timeout_le_of_ofJson h
  | tokenReply => exact TokenReply.isWritable_of_ofJson h
  | credentials | dumpRequest | transaction | dumpResult | loadResult => trivial

/-- The values that can be written are those that are read back. -/
theorem decode_encode_iff (s : Schema) {x : s.Value} :
    s.decode (s.encode x) = .ok x ↔ s.Writable x := by
  refine ⟨s.writable_of_decode, fun h ↦ ?_⟩
  cases s with
  | config => exact Config.ofJson_toJson h
  | credentials => exact Credentials.ofJson_toJson x
  | tokenPolicy => exact TokenPolicy.ofJson_toJson h
  | beginRequest => exact BeginRequest.ofJson_toJson h
  | dumpRequest => exact DumpRequest.ofJson_toJson x
  | transaction => exact Transaction.ofJson_toJson x
  | dumpResult => exact DumpResult.ofJson_toJson x
  | loadResult => exact LoadResult.ofJson_toJson x
  | tokenReply => exact TokenReply.ofJson_toJson h

/-- A written value is an object with exactly the fields that the type declares, and so none of them
is left to a default. -/
theorem exists_encode_eq_obj (s : Schema) (x : s.Value) :
    ∃ fields, s.encode x = .obj fields ∧ (fields.map Prod.fst).Perm (s.fieldNames x) := by
  cases s with
  | tokenPolicy => cases x <;> exact ⟨_, rfl, List.isPerm_iff.1 rfl⟩
  | config | credentials | beginRequest | dumpRequest | transaction | dumpResult | loadResult
  | tokenReply => exact ⟨_, rfl, List.isPerm_iff.1 rfl⟩

/-- Different values are written differently. -/
theorem encode_inj (s : Schema) {x y : s.Value} (hx : s.Writable x) (hy : s.Writable y) :
    s.encode x = s.encode y ↔ x = y := by
  constructor
  · intro hsame
    have hread : (.ok x : Except Misfit s.Value) = .ok y := calc
      .ok x = s.decode (s.encode x) := (s.decode_encode_iff.2 hx).symm
      _ = s.decode (s.encode y) := by rw [hsame]
      _ = .ok y := s.decode_encode_iff.2 hy
    exact Except.ok.inj hread
  · exact congrArg s.encode

/-- Reads a value and writes what was read. -/
def normalize (s : Schema) (v : Json) : Except Misfit Json := (s.decode v).map s.encode

/-- **Reading and writing.** What was read, from whatever value, is written in a form that is read
as the same again. That form is a normal form: it is an object with all the fields that the type
declares, reading and writing it once more changes nothing, and two values have one normal form
exactly if they are read as the same. -/
theorem reads_back (s : Schema) {v : Json} {x : s.Value} (h : s.decode v = .ok x) :
    s.decode (s.encode x) = .ok x ∧
      (∃ fields, s.encode x = .obj fields ∧ (fields.map Prod.fst).Perm (s.fieldNames x)) ∧
      s.normalize (s.encode x) = .ok (s.encode x) ∧
      ∀ w y, s.decode w = .ok y → (s.normalize w = s.normalize v ↔ y = x) := by
  have hx : s.Writable x := s.writable_of_decode h
  have hread : s.decode (s.encode x) = .ok x := s.decode_encode_iff.2 hx
  have hnormal {w : Json} {y : s.Value} (hw : s.decode w = .ok y) :
      s.normalize w = .ok (s.encode y) := congrArg (Except.map s.encode) hw
  refine ⟨hread, s.exists_encode_eq_obj x, hnormal hread, fun w y hw ↦ ?_⟩
  rw [hnormal hw, hnormal h, Except.ok.injEq]
  exact s.encode_inj (s.writable_of_decode hw) hx

/-- Settings with an unknown field, of which most are left to their defaults. The credentials are an
array and so is the token policy; the transport is the only key of an object; the time is as long as
a time can be. -/
theorem reads_back_config :
    let v : Json := .obj [("base_url", .str "http://h"), ("credentials", .arr [.str "u"]),
      ("note", .null), ("request_timeout", .ofNat 18446744073709551615),
      ("token_policy", .arr [.str "cached"]), ("transport", .obj [("curl", .null)])]
    let x : Config :=
      { baseUrl := "http://h"
        credentials := { uid := "u" }
        transport := .curl
        requestTimeout := { seconds := 18446744073709551615 }
        tokenPolicy := .cached TokenPolicy.standardMargin }
    config.decode v = .ok x ∧ config.decode (config.encode x) = .ok x := by
  intro v x
  have h : config.decode v = .ok x := rfl
  exact ⟨h, (config.reads_back h).1⟩

end Schema

end TransactionHarness
