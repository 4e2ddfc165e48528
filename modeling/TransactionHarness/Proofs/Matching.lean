import Mathlib.Data.List.Forall2
import TransactionHarness.Contract
import TransactionHarness.Proofs.Reading
/-!
# The language of an expectation

Checking a value visits the parts of an expectation in order and stops at the first mismatch.
`Expect.Matches` has no order and no stopping. The two accept the same values, at any depth, with
keys named several times, and with empty objects and arrays.

* `Expect.check_eq_ok_iff`: checking succeeds exactly for the values that match.
* `Expect.matches_object_iff` and its siblings: the values that match an expectation of each form.
* `Contract.verify_eq_ok_iff`: what a contract accepts.
* `Contract.verify_language`: all of this, with the error for a body that does not match.

Values are compared with `Json.same`, for which the two zeros are one number. `Json.same_iff` says
this without the comparison: two values are the same if they are equal once every zero is positive.
-/

namespace TransactionHarness

/-! ### Values that are the same -/

/-- The number, with a zero that is positive. -/
def Number.positiveZero : Number → Number
  | int n => int n
  | float x => float ⟨x.negative && x.scaled != 0, x.scaled⟩

theorem Number.same_iff {m n : Number} : m.same n = true ↔ m.positiveZero = n.positiveZero := by
  cases m with
  | int m => cases n <;> simp [same, positiveZero]
  | float x =>
    cases n with
    | int n => simp [same, positiveZero]
    | float y =>
      obtain ⟨b, k⟩ := x
      obtain ⟨c, l⟩ := y
      -- of two equal magnitudes the signs count, unless both are zero
      by_cases hkl : k = l
      · subst hkl
        by_cases hk : k = 0 <;> simp [same, Binary64.sameValue, positiveZero, hk, bne_iff_ne.2]
      · simp [same, Binary64.sameValue, positiveZero, hkl]

namespace Json

mutual

/-- The value, with zeros that are positive. -/
def positiveZeros : Json → Json
  | null => null
  | bool b => bool b
  | num n => num n.positiveZero
  | str s => str s
  | arr items => arr (positiveZerosOfItems items)
  | obj fields => obj (positiveZerosOfFields fields)

/-- The values, with zeros that are positive. -/
def positiveZerosOfItems : List Json → List Json
  | [] => []
  | x :: xs => positiveZeros x :: positiveZerosOfItems xs

/-- The fields, with zeros that are positive in their values. -/
def positiveZerosOfFields : List (String × Json) → List (String × Json)
  | [] => []
  | (k, x) :: xs => (k, positiveZeros x) :: positiveZerosOfFields xs

end

mutual

/-- Two values are the same if they are equal but for the signs of zeros. -/
theorem same_iff : ∀ v w : Json, v.same w = true ↔ v.positiveZeros = w.positiveZeros
  | null, w => by cases w <;> simp [same, positiveZeros]
  | bool b, w => by cases w <;> simp [same, positiveZeros]
  | num n, w => by cases w <;> simp [same, positiveZeros, Number.same_iff]
  | str s, w => by cases w <;> simp [same, positiveZeros]
  | arr xs, w => by cases w <;> simp [same, positiveZeros, sameItems_iff xs]
  | obj xs, w => by cases w <;> simp [same, positiveZeros, sameFields_iff xs]

theorem sameItems_iff : ∀ xs ys : List Json,
    sameItems xs ys = true ↔ positiveZerosOfItems xs = positiveZerosOfItems ys
  | [], ys => by cases ys <;> simp [sameItems, positiveZerosOfItems]
  | x :: xs, ys => by
    cases ys <;> simp [sameItems, positiveZerosOfItems, same_iff x, sameItems_iff xs]

theorem sameFields_iff : ∀ xs ys : List (String × Json),
    sameFields xs ys = true ↔ positiveZerosOfFields xs = positiveZerosOfFields ys
  | [], ys => by cases ys <;> simp [sameFields, positiveZerosOfFields]
  | (k, x) :: xs, ys => by
    rcases ys with - | ⟨⟨l, y⟩, ys⟩ <;>
      simp [sameFields, positiveZerosOfFields, same_iff x, sameFields_iff xs, and_assoc]

end

/-- A field that is found is there. -/
theorem mem_of_find? {α : Type} {k : String} {a : α} {fields : List (String × α)}
    (h : find? k fields = some a) : (k, a) ∈ fields := by
  induction fields with
  | nil => cases h
  | cons field rest ih =>
    obtain ⟨l, b⟩ := field
    rw [find?] at h
    split at h
    · next hkey =>
      rw [hkey, Option.some.inj h]
      exact List.mem_cons_self
    · exact List.mem_cons_of_mem _ (ih h)

theorem mem_keys_of_find? {α : Type} {k : String} {a : α} {fields : List (String × α)}
    (h : find? k fields = some a) : k ∈ fields.map Prod.fst :=
  List.mem_map_of_mem (mem_of_find? h)

theorem find?_eq_none_iff {α : Type} {k : String} {fields : List (String × α)} :
    find? k fields = none ↔ k ∉ fields.map Prod.fst := by
  induction fields with
  | nil => simp [find?]
  | cons field rest ih =>
    obtain ⟨l, b⟩ := field
    by_cases hkey : l = k
    · simp [find?, hkey]
    · simp [find?, hkey, Ne.symm hkey, ih]

end Json

namespace Expect

/-! ### The forms of an expectation -/

theorem matches_exact_iff {v w : Json} :
    (exact v).Matches w ↔ v.positiveZeros = w.positiveZeros := by
  rw [← Json.same_iff]
  constructor
  · rintro ⟨h⟩
    exact h
  · exact .exact

theorem matches_text_iff {s : String} {v : Json} : (Contract.text s).Matches v ↔ v = .str s := by
  rw [Contract.text, matches_exact_iff]
  cases v <;> simp [Json.positiveZeros, eq_comm]

theorem matches_null_iff {v : Json} : null.Matches v ↔ v = .null := by
  constructor
  · rintro ⟨⟩
    rfl
  · rintro rfl
    exact .null

theorem matches_anyString_iff {v : Json} : anyString.Matches v ↔ ∃ s, v = .str s := by
  constructor
  · rintro ⟨⟩
    exact ⟨_, rfl⟩
  · rintro ⟨s, rfl⟩
    exact .anyString s

theorem matches_nullOrString_iff {v : Json} :
    nullOrString.Matches v ↔ ∃ s?, v = Json.ofString? s? := by
  constructor
  · rintro ⟨⟩
    · exact ⟨none, rfl⟩
    · exact ⟨some _, rfl⟩
  · rintro ⟨- | s, rfl⟩
    · exact .nullOrString_null
    · exact .nullOrString_string s

theorem matches_nonEmptyArray_iff {v : Json} :
    nonEmptyArray.Matches v ↔ ∃ w ws, v = .arr (w :: ws) := by
  constructor
  · rintro ⟨⟩
    exact ⟨_, _, rfl⟩
  · rintro ⟨w, ws, rfl⟩
    exact .nonEmptyArray w ws

theorem fieldsMatch_iff {fields : List (String × Expect)} {actual : List (String × Json)} :
    FieldsMatch fields actual ↔
      ∀ f ∈ fields, ∃ v, Json.find? f.1 actual = some v ∧ f.2.Matches v := by
  induction fields with
  | nil => simp [FieldsMatch.nil]
  | cons field rest ih =>
    obtain ⟨k, e⟩ := field
    rw [List.forall_mem_cons, ← ih]
    constructor
    · rintro ⟨⟩
      exact ⟨⟨_, ‹_›, ‹_›⟩, ‹_›⟩
    · rintro ⟨⟨v, hfound, hv⟩, hrest⟩
      exact .cons hfound hv hrest

/-- A named key is a key of the object. -/
theorem FieldsMatch.mem_keys {fields : List (String × Expect)} {actual : List (String × Json)}
    (h : FieldsMatch fields actual) (k : String) (named : k ∈ fields.map Prod.fst) :
    k ∈ actual.map Prod.fst := by
  obtain ⟨f, hf, rfl⟩ := List.mem_map.1 named
  obtain ⟨v, hfound, -⟩ := fieldsMatch_iff.1 h f hf
  exact Json.mem_keys_of_find? hfound

theorem itemsMatch_iff {items : List Expect} {actual : List Json} :
    ItemsMatch items actual ↔ List.Forall₂ Matches items actual := by
  constructor
  · intro h
    induction items generalizing actual with
    | nil => cases h; exact .nil
    | cons e es ih =>
      rcases h with - | ⟨hv, hrest⟩
      exact .cons hv (ih hrest)
  · intro h
    induction h with
    | nil => exact .nil
    | cons hv _ ih => exact .cons hv ih

/-- An object matches if it has the named keys and no others, and every named key has a value that
matches. -/
theorem matches_object_iff {fields : List (String × Expect)} {v : Json} :
    (object fields).Matches v ↔ ∃ actual, v = .obj actual ∧
      (∀ k, k ∈ actual.map Prod.fst ↔ k ∈ fields.map Prod.fst) ∧
      ∀ f ∈ fields, ∃ w, Json.find? f.1 actual = some w ∧ f.2.Matches w := by
  constructor
  · rintro ⟨⟩
    exact ⟨_, rfl, ‹_›, fieldsMatch_iff.1 ‹_›⟩
  · rintro ⟨actual, rfl, hkeys, hvalues⟩
    exact .object hkeys (fieldsMatch_iff.2 hvalues)

/-- An array matches if it has as many items as are named, each of which matches. -/
theorem matches_array_iff {items : List Expect} {v : Json} :
    (array items).Matches v ↔ ∃ actual, v = .arr actual ∧ List.Forall₂ Matches items actual := by
  constructor
  · rintro ⟨⟩
    exact ⟨_, rfl, itemsMatch_iff.1 ‹_›⟩
  · rintro ⟨actual, rfl, hitems⟩
    exact .array (itemsMatch_iff.2 hitems)

theorem matches_array_singleton_iff {e : Expect} {v : Json} :
    (array [e]).Matches v ↔ ∃ w, v = .arr [w] ∧ e.Matches w := by
  rw [matches_array_iff]
  constructor
  · rintro ⟨_, rfl, - | ⟨hw, ⟨⟩⟩⟩
    exact ⟨_, rfl, hw⟩
  · rintro ⟨w, rfl, hw⟩
    exact ⟨[w], rfl, .cons hw .nil⟩

/-! ### Checking -/

theorem unexpectedField?_eq_none_iff {names : List String} {actual : List (String × Json)} :
    unexpectedField? names actual = none ↔ ∀ k ∈ actual.map Prod.fst, k ∈ names := by
  simp [unexpectedField?]

/-- An object is accepted if its named fields are and it has no others. -/
theorem check_object_eq_ok_iff {fields : List (String × Expect)} {actual : List (String × Json)} :
    check (object fields) (.obj actual) = .ok () ↔
      checkFields fields actual = .ok () ∧ ∀ k ∈ actual.map Prod.fst, k ∈ fields.map Prod.fst := by
  rw [check, bind_eq_ok_iff, ← unexpectedField?_eq_none_iff]
  constructor
  · rintro ⟨⟨⟩, hfields, h⟩
    refine ⟨hfields, ?_⟩
    split at h
    · cases h
    · assumption
  · rintro ⟨hfields, hnone⟩
    exact ⟨(), hfields, by rw [hnone]; rfl⟩

theorem check_array_eq_ok_iff {items : List Expect} {actual : List Json} :
    check (array items) (.arr actual) = .ok () ↔
      actual.length = items.length ∧ checkItems 0 items actual = .ok () := by
  rw [check]
  split <;> simp [*]

mutual

/-- Checking succeeds exactly for the values that match. -/
theorem check_eq_ok_iff : ∀ (e : Expect) (v : Json), check e v = .ok () ↔ e.Matches v
  | exact v, w => by
    rw [matches_exact_iff, ← Json.same_iff]
    cases hsame : v.same w <;> simp [check, acceptsLeaf, hsame]
  | null, v => by
    rw [matches_null_iff]
    cases v <;> simp [check, acceptsLeaf]
  | anyString, v => by
    rw [matches_anyString_iff]
    cases v <;> simp [check, acceptsLeaf]
  | nullOrString, v => by
    rw [matches_nullOrString_iff, Option.exists]
    cases v <;> simp [check, acceptsLeaf, Json.ofString?]
  | nonEmptyArray, v => by
    rw [matches_nonEmptyArray_iff]
    rcases v with - | - | - | - | ⟨- | ⟨w, ws⟩⟩ | - <;> simp [check, acceptsLeaf]
  | object fields, v => by
    cases v
    case obj actual =>
      rw [check_object_eq_ok_iff, checkFields_iff fields actual]
      constructor
      · rintro ⟨hfields, hnamed⟩
        -- the second pass has found no other key, and the first one has found each named key
        exact .object (fun k ↦ ⟨hnamed k, hfields.mem_keys k⟩) hfields
      · intro h
        cases h with
        | object keys values => exact ⟨values, fun k ↦ (keys k).1⟩
    all_goals simp [check, acceptsLeaf, matches_object_iff]
  | array items, v => by
    cases v
    case arr actual =>
      rw [check_array_eq_ok_iff, checkItems_iff 0 items actual]
      exact ⟨.array, fun | .array h => h⟩
    all_goals simp [check, acceptsLeaf, matches_array_iff]

theorem checkFields_iff : ∀ (fields : List (String × Expect)) (actual : List (String × Json)),
    checkFields fields actual = .ok () ↔ FieldsMatch fields actual
  | [], actual => by simp [checkFields, FieldsMatch.nil]
  | (k, e) :: rest, actual => by
    rw [checkFields]
    rcases hfound : Json.find? k actual with - | v
    · refine ⟨nofun, fun h ↦ ?_⟩
      cases h with
      | cons found head tail => cases hfound.symm.trans found
    · simp only [bind_eq_ok_iff, mapError_eq_ok_iff, check_eq_ok_iff e v,
        checkFields_iff rest actual]
      constructor
      · rintro ⟨⟨⟩, hv, hrest⟩
        exact .cons hfound hv hrest
      · intro h
        cases h with
        | cons found head tail =>
          cases hfound.symm.trans found
          exact ⟨(), head, tail⟩

theorem checkItems_iff : ∀ (i : Nat) (items : List Expect) (actual : List Json),
    actual.length = items.length ∧ checkItems i items actual = .ok () ↔ ItemsMatch items actual
  | _, [], [] => by simp [checkItems, ItemsMatch.nil]
  | _, [], _ :: _ => ⟨nofun, nofun⟩
  | _, _ :: _, [] => ⟨nofun, nofun⟩
  | i, e :: es, v :: vs => by
    have hrest := checkItems_iff (i + 1) es vs
    simp only [checkItems, bind_eq_ok_iff, mapError_eq_ok_iff, check_eq_ok_iff e v]
    constructor
    · rintro ⟨hlength, ⟨⟩, hv, hvs⟩
      exact .cons hv (hrest.1 ⟨Nat.succ.inj hlength, hvs⟩)
    · intro h
      cases h with
      | cons head tail =>
        obtain ⟨hlength, hvs⟩ := hrest.2 tail
        exact ⟨congrArg (· + 1) hlength, (), head, hvs⟩

end

end Expect

/-! ### Contracts -/

namespace Contract

/-- A body that matches is accepted if the header line that is asked for is there. -/
theorem verify_eq_ok_iff {contract : Contract} {headers : List String} {body : Json} :
    contract.verify headers body = .ok () ↔ contract.body.Matches body ∧
      (contract.statusLine? = none ∨ ∃ line ∈ headers, contract.statusLine? = some line) := by
  rw [← Expect.check_eq_ok_iff, verify]
  rcases contract.body.check body with m | ⟨⟩
  · simp
  · rcases contract.statusLine? with - | line
    · simp
    · by_cases hline : line ∈ headers <;> simp [hline]

/-- A body that does not match is reported whatever the headers are. -/
theorem verify_eq_error_of_check {contract : Contract} {body : Json} {m : Expect.Mismatch}
    (h : contract.body.check body = .error m) (headers : List String) :
    contract.verify headers body =
      .error (.verification contract.step (m.expected ++ " at " ++ m.pathText) m.actual) := by
  rw [verify, h]

/-- **The language of a contract.** An exact expectation matches the values that are equal to its
own but for the signs of zeros. Checking accepts the values that match and no others, and a contract
accepts a reply if its body matches and the header line that the contract asks for, if any, is
there. A body that does not match is reported by its mismatch, whatever the headers are. -/
theorem verify_language :
    (∀ v w : Json, (Expect.exact v).Matches w ↔ v.positiveZeros = w.positiveZeros) ∧
      (∀ (e : Expect) (v : Json), e.check v = .ok () ↔ e.Matches v) ∧
      ∀ (contract : Contract) (body : Json),
        (∀ headers, contract.verify headers body = .ok () ↔ contract.body.Matches body ∧
          (contract.statusLine? = none ∨ ∃ line ∈ headers, contract.statusLine? = some line)) ∧
        (¬ contract.body.Matches body → ∃ m, contract.body.check body = .error m ∧
          ∀ headers, contract.verify headers body = .error
            (.verification contract.step (m.expected ++ " at " ++ m.pathText) m.actual)) := by
  refine ⟨fun v w ↦ Expect.matches_exact_iff, Expect.check_eq_ok_iff, fun contract body ↦ ?_⟩
  refine ⟨fun headers ↦ verify_eq_ok_iff, fun hunlike ↦ ?_⟩
  rcases hcheck : contract.body.check body with m | ⟨⟩
  · exact ⟨m, rfl, verify_eq_error_of_check hcheck⟩
  · exact absurd ((Expect.check_eq_ok_iff _ _).1 hcheck) hunlike

/-- Without a status line the body is what is reported, if it does not match. -/
theorem verify_language_null :
    ¬ (begin .readWrite).body.Matches .null ∧
      ∃ m, (begin .readWrite).body.check .null = .error m ∧ (begin .readWrite).verify [] .null =
        .error (.verification .begin (m.expected ++ " at " ++ m.pathText) m.actual) := by
  have hunlike : ¬ (begin .readWrite).body.Matches .null := by rintro ⟨⟩
  obtain ⟨m, hm, hverify⟩ := (verify_language.2.2 (begin .readWrite) .null).2 hunlike
  exact ⟨hunlike, m, hm, hverify []⟩

end Contract

end TransactionHarness
