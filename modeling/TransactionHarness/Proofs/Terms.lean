import TransactionHarness.Proofs.Matching
/-!
# Replies of different steps

The contract of a step is made from its terms: the step itself and all that it already knows about
the transaction. A body that a contract accepts shows the terms: its type, status, table and format,
its identifier and the file in it are those of the terms, and a field that the terms know nothing of
is absent. So one body is accepted on one set of terms only, but for the reply to begin, whose
identifier is not known beforehand.

* `Contract.Terms`: what contracts are made from.
* `Contract.Terms.Shown`: what a body shows of the terms on which it is accepted.
* `Contract.Terms.eq_of_accepted`: two terms on which one body is accepted.
-/

namespace TransactionHarness

/-- The value of a key, if the value is an object that has it. -/
def Json.field? (key : String) : Json → Option Json
  | obj fields => find? key fields
  | _ => none

namespace Expect

variable {fields : List (String × Expect)} {v : Json}

/-- A named key has a value that matches its expectation. -/
theorem field?_of_matches (h : (object fields).Matches v) {k : String} {e : Expect}
    (named : (k, e) ∈ fields) : ∃ w, v.field? k = some w ∧ e.Matches w := by
  obtain ⟨actual, rfl, -, hvalues⟩ := matches_object_iff.1 h
  exact hvalues (k, e) named

/-- A key that is not named is absent. -/
theorem field?_eq_none_of_matches (h : (object fields).Matches v) {k : String}
    (unnamed : k ∉ fields.map Prod.fst) : v.field? k = none := by
  obtain ⟨actual, rfl, hkeys, -⟩ := matches_object_iff.1 h
  exact Json.find?_eq_none_iff.2 fun hk ↦ unnamed ((hkeys k).1 hk)

/-- A key whose text is given has it. -/
theorem field?_eq_text_of_matches (h : (object fields).Matches v) {k s : String}
    (named : (k, Contract.text s) ∈ fields) : v.field? k = some (.str s) := by
  obtain ⟨w, hw, hmatches⟩ := field?_of_matches h named
  rw [hw, matches_text_iff.1 hmatches]

end Expect

theorem TransactionType.name_inj {type type' : TransactionType} :
    type.name = type'.name ↔ type = type' := by
  cases type <;> cases type' <;> decide

theorem TransactionStatus.name_inj {status status' : TransactionStatus} :
    status.name = status'.name ↔ status = status' := by
  cases status <;> cases status' <;> decide

theorem DumpFormat.name_inj {format format' : DumpFormat} :
    format.name = format'.name ↔ format = format' := by
  cases format <;> cases format' <;> decide

theorem Finish.status_ne_available (how : Finish) : how.status ≠ .available := by
  cases how <;> decide

theorem Finish.status_inj {how how' : Finish} : how.status = how'.status ↔ how = how' := by
  cases how <;> cases how' <;> decide

namespace Contract

/-- What the contract of a step is made from. -/
inductive Terms where
  | begin (type : TransactionType)
  | status (type : TransactionType) (id : TransactionId)
  | dump (id : TransactionId) (table : String) (format : DumpFormat)
  | load (id : TransactionId) (table fileName : String)
  | finish (type : TransactionType) (id : TransactionId) (how : Finish)
  deriving DecidableEq, Repr, Inhabited

namespace Terms

/-- The contract that is made from the terms. -/
def contract : Terms → Contract
  | begin type => .begin type
  | status type id => .status type id
  | dump id table format => .dump id table format
  | load id table fileName => .load id table fileName
  | finish type id how => .finish type id how

/-- The type of the transaction, where the reply tells it. -/
def type? : Terms → Option TransactionType
  | begin type | status type _ | finish type _ _ => some type
  | dump _ _ _ | load _ _ _ => none

/-- The status of the transaction, where the reply tells it. -/
def status? : Terms → Option TransactionStatus
  | begin _ | status _ _ => some .available
  | finish _ _ how => some how.status
  | dump _ _ _ | load _ _ _ => none

/-- The identifier of the transaction, once it is known. -/
def id? : Terms → Option TransactionId
  | begin _ => none
  | status _ id | dump id _ _ | load id _ _ | finish _ id _ => some id

/-- The table, where the reply tells it. -/
def table? : Terms → Option String
  | dump _ table _ | load _ table _ => some table
  | begin _ | status _ _ | finish _ _ _ => none

/-- The format, where the reply tells it. -/
def format? : Terms → Option String
  | dump _ _ format => some format.name
  | load _ _ _ => some loadFormat
  | begin _ | status _ _ | finish _ _ _ => none

/-- The file that was loaded, with the transaction it belongs to. -/
def dumpFile? : Terms → Option String
  | load id _ fileName => some (id ++ "/" ++ fileName)
  | begin _ | status _ _ | dump _ _ _ | finish _ _ _ => none

/-- What a body shows of the terms on which it is accepted. -/
structure Shown (terms : Terms) (body : Json) : Prop where
  type : body.field? "type" = terms.type?.map fun type ↦ .str type.name
  status : body.field? "status" = terms.status?.map fun status ↦ .str status.name
  id : ∀ id, terms.id? = some id → body.field? "transactionId" = some (.str id)
  table : body.field? "table" = terms.table?.map .str
  format : body.field? "format" = terms.format?.map .str
  dumpFile : body.field? "dumpFiles" = terms.dumpFile?.map fun file ↦ .arr [.str file]

open Expect in
/-- A body that is accepted shows the terms. -/
theorem shown_of_matches {terms : Terms} {body : Json} (h : terms.contract.body.Matches body) :
    terms.Shown body := by
  cases terms with
  | begin type =>
    exact
      { type := field?_eq_text_of_matches h (by simp)
        status := field?_eq_text_of_matches h (by simp)
        id := nofun
        table := field?_eq_none_of_matches h (by simp)
        format := field?_eq_none_of_matches h (by simp)
        dumpFile := field?_eq_none_of_matches h (by simp) }
  | status type id =>
    exact
      { type := field?_eq_text_of_matches h (by simp)
        status := field?_eq_text_of_matches h (by simp)
        id := by rintro _ ⟨⟩; exact field?_eq_text_of_matches h (by simp)
        table := field?_eq_none_of_matches h (by simp)
        format := field?_eq_none_of_matches h (by simp)
        dumpFile := field?_eq_none_of_matches h (by simp) }
  | dump id table format =>
    exact
      { type := field?_eq_none_of_matches h (by simp)
        status := field?_eq_none_of_matches h (by simp)
        id := by rintro _ ⟨⟩; exact field?_eq_text_of_matches h (by simp)
        table := field?_eq_text_of_matches h (by simp)
        format := field?_eq_text_of_matches h (by simp)
        dumpFile := field?_eq_none_of_matches h (by simp) }
  | load id table fileName =>
    have hfile : body.field? "dumpFiles" = some (.arr [.str (id ++ "/" ++ fileName)]) := by
      obtain ⟨w, hw, hfiles⟩ := field?_of_matches h (List.mem_cons_of_mem _ List.mem_cons_self)
      obtain ⟨_, rfl, hfile⟩ := matches_array_singleton_iff.1 hfiles
      rw [hw, matches_text_iff.1 hfile]
    exact
      { type := field?_eq_none_of_matches h (by simp)
        status := field?_eq_none_of_matches h (by simp)
        id := by rintro _ ⟨⟩; exact field?_eq_text_of_matches h (by simp)
        table := field?_eq_text_of_matches h (by simp)
        format := field?_eq_text_of_matches h (by simp)
        dumpFile := hfile }
  | finish type id how =>
    exact
      { type := field?_eq_text_of_matches h (by simp)
        status := field?_eq_text_of_matches h (by simp)
        id := by rintro _ ⟨⟩; exact field?_eq_text_of_matches h (by simp)
        table := field?_eq_none_of_matches h (by simp)
        format := field?_eq_none_of_matches h (by simp)
        dumpFile := field?_eq_none_of_matches h (by simp) }

/-- Two terms that one body shows agree wherever both know something. -/
theorem agree_of_shown {p q : Terms} {body : Json} (hp : p.Shown body) (hq : q.Shown body) :
    p.type? = q.type? ∧ p.status? = q.status? ∧ p.table? = q.table? ∧ p.format? = q.format? ∧
      p.dumpFile? = q.dumpFile? ∧ ∀ id id', p.id? = some id → q.id? = some id' → id = id' := by
  refine ⟨?_, ?_, ?_, ?_, ?_, ?_⟩
  · refine Option.map_injective (fun type type' h ↦ ?_) (hp.type.symm.trans hq.type)
    exact TransactionType.name_inj.1 (Json.str.inj h)
  · refine Option.map_injective (fun status status' h ↦ ?_) (hp.status.symm.trans hq.status)
    exact TransactionStatus.name_inj.1 (Json.str.inj h)
  · exact Option.map_injective (fun _ _ ↦ Json.str.inj) (hp.table.symm.trans hq.table)
  · exact Option.map_injective (fun _ _ ↦ Json.str.inj) (hp.format.symm.trans hq.format)
  · refine Option.map_injective (fun file file' h ↦ ?_) (hp.dumpFile.symm.trans hq.dumpFile)
    simpa using h
  · intro id id' hid hid'
    simpa using (hp.id id hid).symm.trans (hq.id id' hid')

/-- Two terms that one body shows are the same, or one is of begin and the other one of status, with
the identifier that the body shows. -/
theorem eq_or_opening_of_shown {p q : Terms} {body : Json} (hp : p.Shown body)
    (hq : q.Shown body) :
    p = q ∨ ∃ type id, (p = begin type ∧ q = status type id ∨ p = status type id ∧ q = begin type) ∧
      body.field? "transactionId" = some (.str id) := by
  have hshown : ∀ id, p.id? = some id ∨ q.id? = some id →
      body.field? "transactionId" = some (.str id) :=
    fun id h ↦ h.elim (hp.id id) (hq.id id)
  obtain ⟨htype, hstatus, htable, hformat, hfile, hid⟩ := agree_of_shown hp hq
  -- terms of different steps differ in what they know of, in the status, or in the format
  cases p <;> cases q <;>
    simp_all [type?, status?, table?, format?, dumpFile?, id?, DumpFormat.name_inj,
      Finish.status_inj, Finish.status_ne_available, (Finish.status_ne_available _).symm]

/-- Status accepts the bodies that begin accepts and that have the identifier. -/
theorem matches_status_iff {type : TransactionType} {id : TransactionId} {body : Json} :
    (status type id).contract.body.Matches body ↔
      (begin type).contract.body.Matches body ∧
        body.field? "transactionId" = some (.str id) := by
  show (openTransaction type (text id)).Matches body ↔
    (openTransaction type .anyString).Matches body ∧ _
  simp only [openTransaction, Expect.matches_object_iff, List.forall_mem_cons]
  constructor
  · rintro ⟨actual, rfl, hkeys, htype, ⟨w, hw, hid⟩, hrest⟩
    obtain rfl := Expect.matches_text_iff.1 hid
    exact ⟨⟨actual, rfl, hkeys, htype, ⟨_, hw, .anyString id⟩, hrest⟩, hw⟩
  · rintro ⟨⟨actual, rfl, hkeys, htype, -, hrest⟩, hw⟩
    exact ⟨actual, rfl, hkeys, htype, ⟨_, hw, Expect.matches_text_iff.2 rfl⟩, hrest⟩

/-- **Replies of different steps are told apart.** A body that is accepted on two terms is accepted
on the same terms twice, or it is the reply to begin and to status, with the identifier that it
shows itself. Status accepts the replies to begin that show its identifier, and no others. -/
theorem eq_of_accepted :
    (∀ (p q : Terms) (body : Json), p.contract.body.check body = .ok () →
      q.contract.body.check body = .ok () →
        p = q ∨ ∃ type id,
          (p = begin type ∧ q = status type id ∨ p = status type id ∧ q = begin type) ∧
            body.field? "transactionId" = some (.str id)) ∧
      ∀ type id (body : Json), (status type id).contract.body.check body = .ok () ↔
        (begin type).contract.body.check body = .ok () ∧
          body.field? "transactionId" = some (.str id) := by
  simp only [Expect.check_eq_ok_iff]
  refine ⟨fun p q body hp hq ↦ ?_, fun type id body ↦ matches_status_iff⟩
  exact eq_or_opening_of_shown (shown_of_matches hp) (shown_of_matches hq)

/-- The reply that begins the transaction `T`. -/
def opened : Json :=
  .obj [("endTime", .null), ("startTime", .str "now"), ("status", .str "AVAILABLE"),
    ("transactionId", .str "T"), ("type", .str "read_write")]

theorem eq_of_accepted_opened :
    (begin .readWrite).contract.body.check opened = .ok () ∧
      (status .readWrite "T").contract.body.check opened = .ok () ∧
      (status .readWrite "U").contract.body.check opened ≠ .ok () := by
  have hbegin : (begin .readWrite).contract.body.check opened = .ok () := rfl
  have hstatus := (eq_of_accepted.2 .readWrite "T" opened).2 ⟨hbegin, rfl⟩
  refine ⟨hbegin, hstatus, fun hother ↦ ?_⟩
  -- the two terms would have to be the same
  have hsame := eq_of_accepted.1 _ _ opened hstatus hother
  simp at hsame

end Terms

end Contract

end TransactionHarness
