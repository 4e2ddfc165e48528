import TransactionHarness.Proofs.Canonical
import TransactionHarness.Proofs.Codec
import TransactionHarness.Proofs.Course
/-!
# Accepted replies

A reply is described twice: by the contract of its step, and by the decoder of the typed value in
it. A contract accepts the JSON forms of the values that fit its terms, and the decoder reads them
back. The two differ in one place: the contract of a dump leaves open what the paths are, and the
decoder asks for texts.

* `Contract.Terms.Result`, `decode`, `encode`, `Fits`: the typed value that belongs to the terms.
* `Contract.Terms.matches_encode_iff`: the JSON forms that a contract accepts.
* `Contract.Terms.eq_encode_of_decode`: an accepted body that is read is the JSON form of the value.
* `Contract.Terms.receive_eq_ok_iff`: the same for the text of a reply.
* `Contract.isOpen_of_receive_begin` and its siblings: the typed value in an accepted reply.
-/

namespace TransactionHarness

open Json

/-! ### Typed conditions -/

/-- The transaction is open and of the given type. -/
structure Transaction.IsOpen (type : TransactionType) (t : Transaction) : Prop where
  type : t.type = type
  status : t.status = .available
  endTime : t.endTime = none

/-- The transaction is the given one, of the given type, and is finished in the given way. -/
structure Transaction.IsFinished (type : TransactionType) (id : TransactionId) (how : Finish)
    (t : Transaction) : Prop where
  type : t.type = type
  id : t.id = id
  status : t.status = how.status

/-- The result is that of the dump of the table in the format, within the transaction. -/
structure DumpResult.Fits (id : TransactionId) (table : String) (format : DumpFormat)
    (d : DumpResult) : Prop where
  id : d.id = id
  table : d.table = table
  format : d.format = format
  paths : d.downloadPaths ≠ []

/-- The result is that of the load of the named file into the table, within the transaction. -/
structure LoadResult.Fits (id : TransactionId) (table name : String) (l : LoadResult) : Prop where
  dumpFiles : l.dumpFiles = [id ++ "/" ++ name]
  id : l.id = id
  format : l.format = Contract.loadFormat
  table : l.table = table

/-! ### Bodies with a transaction -/

namespace Transaction

variable {type : TransactionType} {status : TransactionStatus} {idExpect endExpect : Expect}

/-- What contracts expect of a transaction: its type and its status, an identifier and an end. -/
def expectation (type : TransactionType) (idExpect : Expect) (status : TransactionStatus)
    (endExpect : Expect) : Expect :=
  .object [("type", Contract.text type.name), ("transactionId", idExpect),
    ("status", Contract.text status.name), ("startTime", .nullOrString), ("endTime", endExpect)]

/-- A body that matches is a transaction, if the identifier has to be a text and the end has to be a
text or null. -/
theorem exists_of_matches {body : Json} (canonical : body.IsCanonical)
    (h : (expectation type idExpect status endExpect).Matches body)
    (isText : ∀ v, idExpect.Matches v → ∃ s, v = .str s)
    (isNullable : ∀ v, endExpect.Matches v → ∃ s?, v = .ofString? s?) :
    ∃ t : Transaction, body = t.toJson := by
  have hbody := Expect.eq_of_matches_object h canonical
    ["endTime", "startTime", "status", "transactionId", "type"] (by decide)
    (List.isPerm_iff.1 rfl)
  obtain ⟨actual, rfl, -, hfields⟩ := Expect.matches_object_iff.1 h
  simp only [List.forall_mem_cons] at hfields
  obtain ⟨⟨_, ftype, htype⟩, ⟨_, fid, hid⟩, ⟨_, fstatus, hstatus⟩, ⟨_, fstart, hstart⟩,
    ⟨_, fend, hend⟩, -⟩ := hfields
  obtain rfl := Expect.matches_text_iff.1 htype
  obtain rfl := Expect.matches_text_iff.1 hstatus
  obtain ⟨id, rfl⟩ := isText _ hid
  obtain ⟨startTime, rfl⟩ := Expect.matches_nullOrString_iff.1 hstart
  obtain ⟨endTime, rfl⟩ := isNullable _ hend
  refine ⟨⟨type, id, status, startTime, endTime⟩, hbody.trans ?_⟩
  simp only [List.map_cons, List.map_nil, field?, ftype, fid, fstatus, fstart, fend,
    Option.getD_some]
  rfl

/-- The JSON form of a transaction matches if its type, its identifier, its status and its end are
as expected. -/
theorem matches_toJson_iff {t : Transaction} :
    (expectation type idExpect status endExpect).Matches t.toJson ↔ t.type = type ∧
      idExpect.Matches (.str t.id) ∧ t.status = status ∧
        endExpect.Matches (.ofString? t.endTime) := by
  have hstart : Expect.nullOrString.Matches (.ofString? t.startTime) :=
    Expect.matches_nullOrString_iff.2 ⟨_, rfl⟩
  rw [expectation, toJson, Expect.matches_obj_iff_of_perm (List.isPerm_iff.1 rfl)]
  simp [find?, Expect.matches_text_iff, TransactionType.toJson, TransactionStatus.toJson,
    TransactionType.name_inj, TransactionStatus.name_inj, hstart]

theorem isOpen_iff {t : Transaction} :
    t.IsOpen type ↔ t.type = type ∧ t.status = .available ∧ t.endTime = none :=
  ⟨fun ⟨htype, hstatus, hend⟩ ↦ ⟨htype, hstatus, hend⟩,
    fun ⟨htype, hstatus, hend⟩ ↦ ⟨htype, hstatus, hend⟩⟩

theorem isFinished_iff {t : Transaction} {id : TransactionId} {how : Finish} :
    t.IsFinished type id how ↔ t.type = type ∧ t.id = id ∧ t.status = how.status :=
  ⟨fun ⟨htype, hid, hstatus⟩ ↦ ⟨htype, hid, hstatus⟩,
    fun ⟨htype, hid, hstatus⟩ ↦ ⟨htype, hid, hstatus⟩⟩

end Transaction

theorem Expect.matches_null_ofString?_iff {s? : Option String} :
    null.Matches (.ofString? s?) ↔ s? = none := by
  rw [matches_null_iff]
  cases s? <;> simp [ofString?]

/-! ### Bodies with a result -/

namespace Contract

variable {id : TransactionId} {table : String}

/-- A body that the contract of a dump accepts is a result with paths, be they texts or not. -/
theorem exists_of_matches_dump {format : DumpFormat} {body : Json} (canonical : body.IsCanonical)
    (h : (dump id table format).body.Matches body) :
    ∃ path paths, body = DumpResult.withPaths id table format (path :: paths) := by
  have hbody := Expect.eq_of_matches_object h canonical
    ["downloadPathList", "format", "table", "transactionId"] (by decide) (List.isPerm_iff.1 rfl)
  obtain ⟨actual, rfl, -, hfields⟩ := Expect.matches_object_iff.1 h
  simp only [List.forall_mem_cons] at hfields
  obtain ⟨⟨_, fid, hid⟩, ⟨_, ftable, htable⟩, ⟨_, fformat, hformat⟩, ⟨_, fpaths, hpaths⟩, -⟩ :=
    hfields
  obtain rfl := Expect.matches_text_iff.1 hid
  obtain rfl := Expect.matches_text_iff.1 htable
  obtain rfl := Expect.matches_text_iff.1 hformat
  obtain ⟨path, paths, rfl⟩ := Expect.matches_nonEmptyArray_iff.1 hpaths
  refine ⟨path, paths, hbody.trans ?_⟩
  simp only [List.map_cons, List.map_nil, field?, fid, ftable, fformat, fpaths, Option.getD_some]
  rfl

theorem matches_dump_iff {format : DumpFormat} {d : DumpResult} :
    (dump id table format).body.Matches d.toJson ↔ d.Fits id table format := by
  have hpaths : Expect.nonEmptyArray.Matches (.arr (d.downloadPaths.map .str)) ↔
      d.downloadPaths ≠ [] := by
    rw [Expect.matches_nonEmptyArray_iff]
    cases d.downloadPaths <;> simp
  have hfits : d.Fits id table format ↔
      d.id = id ∧ d.table = table ∧ d.format = format ∧ d.downloadPaths ≠ [] :=
    ⟨fun ⟨hid, htable, hformat, hne⟩ ↦ ⟨hid, htable, hformat, hne⟩,
      fun ⟨hid, htable, hformat, hne⟩ ↦ ⟨hid, htable, hformat, hne⟩⟩
  rw [dump, ok, DumpResult.toJson, Expect.matches_obj_iff_of_perm (List.isPerm_iff.1 rfl), hfits]
  simp [find?, Expect.matches_text_iff, DumpFormat.toJson, DumpFormat.name_inj, hpaths]

/-- A body that the contract of a load accepts is the result of a load. -/
theorem exists_of_matches_load {fileName : String} {body : Json} (canonical : body.IsCanonical)
    (h : (load id table fileName).body.Matches body) : ∃ l : LoadResult, body = l.toJson := by
  have hbody := Expect.eq_of_matches_object h canonical
    ["dumpFiles", "format", "table", "transactionId"] (by decide) (List.isPerm_iff.1 rfl)
  obtain ⟨actual, rfl, -, hfields⟩ := Expect.matches_object_iff.1 h
  simp only [List.forall_mem_cons] at hfields
  obtain ⟨⟨_, fid, hid⟩, ⟨_, ffiles, hfiles⟩, ⟨_, fformat, hformat⟩, ⟨_, ftable, htable⟩, -⟩ :=
    hfields
  obtain rfl := Expect.matches_text_iff.1 hid
  obtain rfl := Expect.matches_text_iff.1 htable
  obtain rfl := Expect.matches_text_iff.1 hformat
  obtain ⟨_, rfl, hfile⟩ := Expect.matches_array_singleton_iff.1 hfiles
  obtain rfl := Expect.matches_text_iff.1 hfile
  refine ⟨⟨id, [id ++ "/" ++ fileName], loadFormat, table⟩, hbody.trans ?_⟩
  simp only [List.map_cons, List.map_nil, field?, fid, ftable, fformat, ffiles, Option.getD_some]
  rfl

theorem matches_load_iff {fileName : String} {l : LoadResult} :
    (load id table fileName).body.Matches l.toJson ↔ l.Fits id table fileName := by
  have hfits : l.Fits id table fileName ↔ l.id = id ∧
      l.dumpFiles = [id ++ "/" ++ fileName] ∧ l.format = loadFormat ∧ l.table = table :=
    ⟨fun ⟨hfiles, hid, hformat, htable⟩ ↦ ⟨hid, hfiles, hformat, htable⟩,
      fun ⟨hid, hfiles, hformat, htable⟩ ↦ ⟨hfiles, hid, hformat, htable⟩⟩
  rw [load, ok, LoadResult.toJson, Expect.matches_obj_iff_of_perm (List.isPerm_iff.1 rfl), hfits]
  simp [find?, Expect.matches_text_iff, Expect.matches_array_singleton_iff]

/-! ### Terms and their values -/

namespace Terms

/-- What the reply tells that is accepted on the terms. -/
abbrev Result : Terms → Type
  | begin _ | status _ _ | finish _ _ _ => Transaction
  | dump _ _ _ => DumpResult
  | load _ _ _ => LoadResult

/-- Reads the value in the reply. -/
def decode : (terms : Terms) → Decoder terms.Result
  | begin _ | status _ _ | finish _ _ _ => Transaction.ofJson
  | dump _ _ _ => DumpResult.ofJson
  | load _ _ _ => LoadResult.ofJson

/-- The JSON form of the value. -/
def encode : (terms : Terms) → terms.Result → Json
  | begin _ | status _ _ | finish _ _ _ => Transaction.toJson
  | dump _ _ _ => DumpResult.toJson
  | load _ _ _ => LoadResult.toJson

/-- The value is as the terms ask for. -/
def Fits : (terms : Terms) → terms.Result → Prop
  | begin type, t => Transaction.IsOpen type t
  | status type id, t => Transaction.IsOpen type t ∧ t.id = id
  | dump id table format, d => DumpResult.Fits id table format d
  | load id table fileName, l => LoadResult.Fits id table fileName l
  | finish type id how, t => Transaction.IsFinished type id how t

theorem decode_encode (terms : Terms) (x : terms.Result) :
    terms.decode (terms.encode x) = .ok x := by
  cases terms with
  | begin | status | finish => exact Transaction.ofJson_toJson x
  | dump => exact DumpResult.ofJson_toJson x
  | load => exact LoadResult.ofJson_toJson x

/-- The contract accepts the JSON form of a value exactly if the value fits. -/
theorem matches_encode_iff {terms : Terms} {x : terms.Result} :
    terms.contract.body.Matches (terms.encode x) ↔ terms.Fits x := by
  cases terms with
  | begin type =>
    have hany : Expect.anyString.Matches (.str x.id) := .anyString x.id
    rw [Fits, Transaction.isOpen_iff, ← Expect.matches_null_ofString?_iff]
    exact Transaction.matches_toJson_iff.trans (by simp [hany])
  | status type id =>
    rw [Fits, Transaction.isOpen_iff, ← Expect.matches_null_ofString?_iff]
    refine Transaction.matches_toJson_iff.trans ?_
    simp only [Expect.matches_text_iff, str.injEq]
    tauto
  | dump id table format => exact matches_dump_iff
  | load id table fileName => exact matches_load_iff
  | finish type id how =>
    have hend : Expect.nullOrString.Matches (.ofString? x.endTime) :=
      Expect.matches_nullOrString_iff.2 ⟨_, rfl⟩
    rw [Fits, Transaction.isFinished_iff]
    exact Transaction.matches_toJson_iff.trans (by simp [hend, Expect.matches_text_iff])

/-- An accepted body is the JSON form of a value, or the result of a dump whose paths may be any
values. -/
theorem exists_encode_of_matches {terms : Terms} {body : Json} (canonical : body.IsCanonical)
    (h : terms.contract.body.Matches body) :
    (∃ x, body = terms.encode x) ∨ ∃ id table format paths,
      terms = dump id table format ∧ body = DumpResult.withPaths id table format paths := by
  have hnull (v : Json) (hv : Expect.null.Matches v) : ∃ s?, v = .ofString? s? :=
    ⟨none, Expect.matches_null_iff.1 hv⟩
  have htext (id : TransactionId) (v : Json) (hv : (text id).Matches v) : ∃ s, v = .str s :=
    ⟨id, Expect.matches_text_iff.1 hv⟩
  cases terms with
  | begin type =>
    exact .inl (Transaction.exists_of_matches canonical h
      (fun _ ↦ Expect.matches_anyString_iff.1) hnull)
  | status type id => exact .inl (Transaction.exists_of_matches canonical h (htext id) hnull)
  | dump id table format =>
    obtain ⟨path, paths, hbody⟩ := exists_of_matches_dump canonical h
    exact .inr ⟨id, table, format, path :: paths, rfl, hbody⟩
  | load id table fileName => exact .inl (exists_of_matches_load canonical h)
  | finish type id how =>
    exact .inl (Transaction.exists_of_matches canonical h (htext id)
      (fun _ ↦ Expect.matches_nullOrString_iff.1))

/-- An accepted body that is read is the JSON form of what is read. -/
theorem eq_encode_of_decode {terms : Terms} {body : Json} {x : terms.Result}
    (canonical : body.IsCanonical) (h : terms.contract.body.Matches body)
    (read : terms.decode body = .ok x) : body = terms.encode x := by
  rcases exists_encode_of_matches canonical h with ⟨y, rfl⟩ | ⟨id, table, format, paths, rfl, rfl⟩
  · rw [decode_encode] at read
    rw [Except.ok.inj read]
  · replace read : DumpResult.ofJson (DumpResult.withPaths id table format paths) = .ok x := read
    rw [DumpResult.ofJson_withPaths] at read
    obtain ⟨ss, hpaths, rfl⟩ := map_eq_ok_iff.1 read
    rw [mapItems_asString_eq_ok_iff.1 hpaths]
    rfl

/-- The body shows a path that is not a text, among the paths of a dump. -/
def HasStrayPath (terms : Terms) (body : Json) : Prop :=
  ∃ id table format paths, terms = dump id table format ∧
    body.field? "downloadPathList" = some (.arr paths) ∧ ∃ path ∈ paths, ∀ s, path ≠ .str s

/-- The only accepted bodies that are not read are those with a path that is not a text. -/
theorem exists_decode_eq_error_iff {terms : Terms} {body : Json} (canonical : body.IsCanonical)
    (h : terms.contract.body.Matches body) :
    (∃ misfit, terms.decode body = .error misfit) ↔ terms.HasStrayPath body := by
  rcases exists_encode_of_matches canonical h with ⟨y, rfl⟩ | ⟨id, table, format, paths, rfl, rfl⟩
  · rw [decode_encode]
    refine ⟨nofun, ?_⟩
    rintro ⟨id, table, format, paths, rfl, hfield, path, hpath, hstray⟩
    -- the paths in the JSON form of a result are texts
    replace hfield : some (Json.arr (y.downloadPaths.map .str)) = some (.arr paths) := hfield
    cases hfield
    obtain ⟨s, -, rfl⟩ := List.mem_map.1 hpath
    exact absurd rfl (hstray s)
  · have hpaths : HasStrayPath (dump id table format) (DumpResult.withPaths id table format paths) ↔
        ∃ path ∈ paths, ∀ s, path ≠ .str s := by
      constructor
      · rintro ⟨_, _, _, _, -, hfield, hstray⟩
        cases hfield
        exact hstray
      · exact fun hstray ↦ ⟨id, table, format, paths, rfl, rfl, hstray⟩
    rw [hpaths, ← exists_mapItems_asString_eq_error_iff]
    show (∃ misfit, DumpResult.ofJson (DumpResult.withPaths id table format paths) =
      .error misfit) ↔ _
    rw [DumpResult.ofJson_withPaths]
    rcases mapItems asString paths with misfit | ss
    · exact iff_of_true ⟨misfit, rfl⟩ ⟨misfit, rfl⟩
    · exact iff_of_false nofun nofun

/-- A body is accepted and read exactly if it is the JSON form of a value that fits. -/
theorem matches_and_decode_iff {terms : Terms} {body : Json} {x : terms.Result}
    (canonical : body.IsCanonical) :
    terms.contract.body.Matches body ∧ terms.decode body = .ok x ↔
      body = terms.encode x ∧ terms.Fits x := by
  constructor
  · rintro ⟨hmatches, hdecode⟩
    obtain rfl := eq_encode_of_decode canonical hmatches hdecode
    exact ⟨rfl, matches_encode_iff.1 hmatches⟩
  · rintro ⟨rfl, hfits⟩
    exact ⟨matches_encode_iff.2 hfits, terms.decode_encode x⟩

end Terms

end Contract

/-! ### Replies -/

theorem Response.bodyAs_eq_ok_iff {α : Type} {decode : Decoder α} {step : Step}
    {response : Response} {a : α} :
    response.bodyAs decode step = .ok a ↔ decode response.body = .ok a := by
  unfold bodyAs
  split <;> simp [*]

/-- A body that is not read is reported for the step. -/
theorem Response.bodyAs_eq_error_iff {α : Type} {decode : Decoder α} {step : Step}
    {response : Response} {e : Error} :
    response.bodyAs decode step = .error e ↔ ∃ misfit, decode response.body = .error misfit ∧
      e = .malformedResponse step ("unexpected body structure: " ++ misfit.message) := by
  unfold bodyAs
  split <;> simp [*, eq_comm]

/-- The body of a response that is read is canonical. -/
theorem Response.isCanonical_of_parse {step : Step} {text : String} {response : Response}
    (h : Response.parse step text = .ok response) : response.body.IsCanonical := by
  obtain ⟨headers, body, v, -, hbody, rfl⟩ := parse_eq_ok_iff.1 h
  exact isCanonical_of_parseChars hbody

namespace Contract.Terms

variable {terms : Terms} {text : String} {x : terms.Result}

/-- A contract that is made from terms asks for success. -/
theorem accepts_iff {headers : List String} {body : Json} :
    terms.contract.verify headers body = .ok () ↔
      terms.contract.body.Matches body ∧ okStatusLine ∈ headers := by
  have hline : terms.contract.statusLine? = some okStatusLine := by cases terms <;> rfl
  rw [verify_eq_ok_iff, hline]
  simp

/-- A value is received from a text exactly if the text is a response of success whose body is the
JSON form of the value, and the value fits. -/
theorem receive_eq_ok_iff :
    terms.contract.receive terms.decode terms.contract.step text = .ok x ↔
      ∃ response, Response.parse terms.contract.step text = .ok response ∧
        okStatusLine ∈ response.headers ∧ response.body = terms.encode x ∧ terms.Fits x := by
  constructor
  · intro h
    obtain ⟨response, hparse, h⟩ := bind_eq_ok_iff.1 h
    obtain ⟨⟨⟩, hverify, hbody⟩ := bind_eq_ok_iff.1 h
    obtain ⟨hmatches, hline⟩ := accepts_iff.1 hverify
    have hcanonical := Response.isCanonical_of_parse hparse
    exact ⟨response, hparse, hline, (matches_and_decode_iff hcanonical).1
      ⟨hmatches, Response.bodyAs_eq_ok_iff.1 hbody⟩⟩
  · rintro ⟨response, hparse, hline, hbody⟩
    have hcanonical := Response.isCanonical_of_parse hparse
    obtain ⟨hmatches, hdecode⟩ := (matches_and_decode_iff hcanonical).2 hbody
    refine bind_eq_ok_iff.2 ⟨response, hparse, bind_eq_ok_iff.2 ⟨(), ?_, ?_⟩⟩
    · exact accepts_iff.2 ⟨hmatches, hline⟩
    · exact Response.bodyAs_eq_ok_iff.2 hdecode

/-- A value that is received fits. -/
theorem fits_of_receive (terms : Terms) {text : String} {x : terms.Result}
    (h : terms.contract.receive terms.decode terms.contract.step text = .ok x) : terms.Fits x := by
  obtain ⟨response, -, -, -, hfits⟩ := receive_eq_ok_iff.1 h
  exact hfits

end Contract.Terms

namespace Contract

variable {id : TransactionId} {text : String}

theorem isOpen_of_receive_begin {type : TransactionType} {t : Transaction}
    (h : (begin type).receive Transaction.ofJson .begin text = .ok t) : t.IsOpen type :=
  Terms.fits_of_receive (Terms.begin type) h

theorem isOpen_of_receive_status {type : TransactionType} {t : Transaction}
    (h : (status type id).receive Transaction.ofJson .status text = .ok t) :
    t.IsOpen type ∧ t.id = id :=
  Terms.fits_of_receive (Terms.status type id) h

theorem fits_of_receive_dump {table : String} {format : DumpFormat} {d : DumpResult}
    (h : (dump id table format).receive DumpResult.ofJson (.dump format) text = .ok d) :
    d.Fits id table format :=
  Terms.fits_of_receive (Terms.dump id table format) h

theorem fits_of_receive_load {table name : String} {l : LoadResult}
    (h : (load id table name).receive LoadResult.ofJson .load text = .ok l) :
    l.Fits id table name :=
  Terms.fits_of_receive (Terms.load id table name) h

theorem isFinished_of_receive_finish {type : TransactionType} {how : Finish} {t : Transaction}
    (h : (finish type id how).receive Transaction.ofJson (.finish how) text = .ok t) :
    t.IsFinished type id how :=
  Terms.fits_of_receive (Terms.finish type id how) h

end Contract

end TransactionHarness
