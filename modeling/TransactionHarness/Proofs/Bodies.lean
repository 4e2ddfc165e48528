import TransactionHarness.Proofs.Canonical
import TransactionHarness.Proofs.Codec
import TransactionHarness.Token.Basic
/-!
# Bodies that are token replies

What a body says is said here from the body itself: a record has a field under the name of the field
if it is an object, and at the position of the field if it is an array. No decoder occurs in that,
so that `TokenReply.ofJson` can be held against it.

* `Json.HasAt`: what a record has in a field, and `Json.Says`: what that is worth where null stands
  for nothing.
* `Json.Record.get_optional_eq_ok_iff`: what is got for an optional field is what the record says.
* `TokenReply.IsIn`: a reply is in a body, field by field.
* `TokenReply.ofJson_eq_ok_iff`: the reply that is read from a body is the one that is in it.
-/

namespace TransactionHarness

namespace Json

/-! ### What a record has -/

/-- An object, or an array with at most so many items. -/
def IsRecord (count : ℕ) : Json → Prop
  | obj _ => True
  | arr items => items.length ≤ count
  | _ => False

/-- The record has this value in a field: under its name in an object, and at its position in an
array. -/
inductive HasAt (name : String) (position : ℕ) : Json → Json → Prop where
  | field {fields : List (String × Json)} {v : Json} (h : (name, v) ∈ fields) :
      HasAt name position (.obj fields) v
  | item {items : List Json} {v : Json} (h : items[position]? = some v) :
      HasAt name position (.arr items) v

/-- What the record says of a field. Null says nothing, and neither does a record that does not have
the field. -/
def Says (body : Json) (name : String) (position : ℕ) : Option Json → Prop
  | none => ∀ v, body.HasAt name position v → v = .null
  | some v => body.HasAt name position v ∧ v ≠ .null

variable {name : String} {position : ℕ}

theorem hasAt_obj_iff {fields : List (String × Json)} {v : Json} :
    (obj fields).HasAt name position v ↔ (name, v) ∈ fields := by
  constructor
  · rintro (h | -)
    exact h
  · exact .field

theorem hasAt_arr_iff {items : List Json} {v : Json} :
    (arr items).HasAt name position v ↔ items[position]? = some v := by
  constructor
  · rintro (- | h)
    exact h
  · exact .item

/-! ### What is got from a record -/

section Optional

variable {α : Type} {decode : Decoder α}

theorem asOption_eq_ok_none_iff {v : Json} : asOption decode v = .ok none ↔ v = .null := by
  have hsome (r : Except Misfit α) : r.map some ≠ .ok none := by
    cases r <;> simp [Except.map]
  cases v <;> simp [asOption, hsome]

theorem asOption_eq_ok_some_iff {v : Json} {a : α} :
    asOption decode v = .ok (some a) ↔ v ≠ .null ∧ decode v = .ok a := by
  have hsome (r : Except Misfit α) : r.map some = .ok (some a) ↔ r = .ok a := by
    cases r <;> simp [Except.map]
  cases v <;> simp [asOption, hsome]

end Optional

namespace Record

variable {α : Type} {record : Record} {recordName key : String} {count : ℕ}

/-- The value whose fields these are. -/
def toJson : Record → Json
  | byName fields => .obj fields
  | byPosition items => .arr items

theorem ofJson_eq_ok_iff {v : Json} : ofJson recordName v = .ok record ↔ v = record.toJson := by
  cases v <;> cases record <;> simp [ofJson, toJson]

theorem exists_toJson_eq {v : Json} (h : v.IsRecord count) :
    ∃ record : Record, v = record.toJson := by
  cases v with
  | obj fields => exact ⟨byName fields, rfl⟩
  | arr items => exact ⟨byPosition items, rfl⟩
  | null | bool | num | str => exact h.elim

theorem finish_eq_ok_iff : record.finish count = .ok () ↔ record.toJson.IsRecord count := by
  cases record <;> simp [finish, toJson, IsRecord]

/-- The value that a look-up in the record finds. -/
def at? (key : String) (position : ℕ) : Record → Option Json
  | byName fields => find? key fields
  | byPosition items => items[position]?

/-- A look-up finds what the record has. -/
theorem at?_eq_some_iff (canonical : record.toJson.IsCanonical) {v : Json} :
    record.at? key position = some v ↔ record.toJson.HasAt key position v := by
  cases record with
  | byName fields =>
    exact ⟨fun h ↦ .field (mem_of_find? h),
      fun h ↦ find?_of_mem (nodup_of_isCanonical canonical) (hasAt_obj_iff.1 h)⟩
  | byPosition items => exact hasAt_arr_iff.symm

theorem get_withDefault (decode : Decoder α) (value : α) :
    record.get recordName count position (.withDefault key decode value) =
      match record.at? key position with
      | some v => decode v
      | none => .ok value := by
  cases record <;> rfl

/-- For an optional field, what is got is what the record says of it. The values that are read are
those that are written for what is read. -/
theorem get_optional_eq_ok_iff (canonical : record.toJson.IsCanonical) {decode : Decoder α}
    {write : α → Json} (reads : ∀ v a, decode v = .ok a ↔ v = write a) {a? : Option α} :
    record.get recordName count position (.withDefault key (asOption decode) none) = .ok a? ↔
      record.toJson.Says key position (a?.map write) := by
  rw [get_withDefault]
  rcases a? with - | a <;>
    simp only [Says, Option.map_none, Option.map_some, ← at?_eq_some_iff canonical] <;>
    rcases record.at? key position with - | v
  · simp
  · simp [asOption_eq_ok_none_iff]
  · simp
  · simp only [asOption_eq_ok_some_iff, reads, Option.some.injEq]
    constructor
    · rintro ⟨hne, rfl⟩
      exact ⟨rfl, hne⟩
    · rintro ⟨rfl, hne⟩
      exact ⟨hne, rfl⟩

/-- In an object, the test passes wherever its field is. -/
def Passes : Record → String × (Json → Except Misfit Unit) → Prop
  | byName fields, test => ∀ v, (test.1, v) ∈ fields → test.2 v = .ok ()
  | byPosition _, _ => True

theorem precheck_eq_ok {checks : List (String × (Json → Except Misfit Unit))}
    (passes : ∀ test ∈ checks, record.Passes test) : record.precheck checks = .ok () := by
  cases record with
  | byPosition items => rfl
  | byName fields =>
    rw [precheck_byName]
    induction fields with
    | nil => rfl
    | cons field rest ih =>
      obtain ⟨k, v⟩ := field
      have hrest : precheckFields checks rest = .ok () := ih fun test htest w hw ↦
        passes test htest w (List.mem_cons_of_mem _ hw)
      rw [precheckFields]
      split
      · next test hfound =>
        have htest : test v = .ok () := passes (k, test) (mem_of_find? hfound) v List.mem_cons_self
        rw [htest]
        exact hrest
      · exact hrest

/-- A field that is got passes its test. -/
theorem passes_of_get (canonical : record.toJson.IsCanonical) {f : RecordField α} {a : α}
    (got : record.get recordName count position f = .ok a) : record.Passes (check f) := by
  cases record with
  | byPosition items => trivial
  | byName fields =>
    intro v hv
    have hfound : find? f.name fields = some v := find?_of_mem (nodup_of_isCanonical canonical) hv
    rw [get_byName, hfound] at got
    have hread : f.decode v = .ok a := got
    simp only [check, hread]
    rfl

end Record

end Json

open Json

/-! ### Token replies -/

/-- The reply is in the body: the body is a record of at most six fields, and the reply has what the
body says of each. All but the expiration times are texts. -/
structure TokenReply.IsIn (reply : TokenReply) (body : Json) : Prop where
  record : body.IsRecord 6
  userId : body.Says "userId" 0 (reply.userId.map .str)
  accessToken : body.Says "accessToken" 1 (reply.accessToken.map .str)
  accessExpirationTime : body.Says "accessExpirationTime" 2 reply.accessExpirationTime
  refreshToken : body.Says "refreshToken" 3 (reply.refreshToken.map .str)
  refreshExpirationTime : body.Says "refreshExpirationTime" 4 reply.refreshExpirationTime
  errorMessage : body.Says "errorMessage" 5 (reply.errorMessage.map .str)

namespace TokenReply

variable {body : Json} {reply : TokenReply} {record : Json.Record} {name key : String}
  {count position : ℕ}

theorem get_textField_eq_ok_iff (canonical : record.toJson.IsCanonical) {s? : Option String} :
    record.get name count position (textField key) = .ok s? ↔
      record.toJson.Says key position (s?.map .str) :=
  Record.get_optional_eq_ok_iff canonical fun _ _ ↦ asString_eq_ok_iff

theorem get_valueField_eq_ok_iff (canonical : record.toJson.IsCanonical) {v? : Option Json} :
    record.get name count position (valueField key) = .ok v? ↔
      record.toJson.Says key position v? := by
  have hreads (v w : Json) : asIs v = .ok w ↔ v = id w := by simp [asIs]
  have hget : record.get name count position (.withDefault key (asOption asIs) none) = .ok v? ↔
      record.toJson.Says key position (v?.map id) :=
    Record.get_optional_eq_ok_iff canonical hreads
  rwa [Option.map_id] at hget

/-- The reply that is read from a body is the one that is in it. -/
theorem ofJson_eq_ok_iff (canonical : body.IsCanonical) :
    ofJson body = .ok reply ↔ reply.IsIn body := by
  constructor
  · intro h
    simp only [ofJson, bind_eq_ok_iff] at h
    obtain ⟨record, hrecord, -, -, userId, huserId, accessToken, haccessToken, accessTime,
      haccessTime, refreshToken, hrefreshToken, refreshTime, hrefreshTime, errorMessage,
      herrorMessage, ⟨⟩, hfinish, hreply⟩ := h
    obtain rfl := Record.ofJson_eq_ok_iff.1 hrecord
    obtain rfl := Except.ok.inj hreply
    exact
      { record := Record.finish_eq_ok_iff.1 hfinish
        userId := (get_textField_eq_ok_iff canonical).1 huserId
        accessToken := (get_textField_eq_ok_iff canonical).1 haccessToken
        accessExpirationTime := (get_valueField_eq_ok_iff canonical).1 haccessTime
        refreshToken := (get_textField_eq_ok_iff canonical).1 hrefreshToken
        refreshExpirationTime := (get_valueField_eq_ok_iff canonical).1 hrefreshTime
        errorMessage := (get_textField_eq_ok_iff canonical).1 herrorMessage }
  · intro h
    obtain ⟨record, rfl⟩ := Record.exists_toJson_eq h.record
    let name := "struct AuthResult"
    have userId : record.get name 6 0 userIdField = .ok reply.userId :=
      (get_textField_eq_ok_iff canonical).2 h.userId
    have accessToken : record.get name 6 1 accessTokenField = .ok reply.accessToken :=
      (get_textField_eq_ok_iff canonical).2 h.accessToken
    have accessTime :
        record.get name 6 2 accessExpirationTimeField = .ok reply.accessExpirationTime :=
      (get_valueField_eq_ok_iff canonical).2 h.accessExpirationTime
    have refreshToken : record.get name 6 3 refreshTokenField = .ok reply.refreshToken :=
      (get_textField_eq_ok_iff canonical).2 h.refreshToken
    have refreshTime :
        record.get name 6 4 refreshExpirationTimeField = .ok reply.refreshExpirationTime :=
      (get_valueField_eq_ok_iff canonical).2 h.refreshExpirationTime
    have errorMessage : record.get name 6 5 errorMessageField = .ok reply.errorMessage :=
      (get_textField_eq_ok_iff canonical).2 h.errorMessage
    -- what is got from an object has passed its test before
    have tests : record.precheck [Record.check userIdField, Record.check accessTokenField,
        Record.check accessExpirationTimeField, Record.check refreshTokenField,
        Record.check refreshExpirationTimeField, Record.check errorMessageField] = .ok () := by
      refine Record.precheck_eq_ok ?_
      simp only [List.forall_mem_cons, List.not_mem_nil, false_implies, implies_true, and_true]
      exact ⟨Record.passes_of_get canonical userId, Record.passes_of_get canonical accessToken,
        Record.passes_of_get canonical accessTime, Record.passes_of_get canonical refreshToken,
        Record.passes_of_get canonical refreshTime, Record.passes_of_get canonical errorMessage⟩
    simp only [ofJson, bind_eq_ok_iff]
    exact ⟨record, Record.ofJson_eq_ok_iff.2 rfl, (), tests, _, userId, _, accessToken, _,
      accessTime, _, refreshToken, _, refreshTime, _, errorMessage, (),
      Record.finish_eq_ok_iff.2 h.record, rfl⟩

end TokenReply

end TransactionHarness
