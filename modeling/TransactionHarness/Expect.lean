import TransactionHarness.Json.Printer
/-!
# Expectations

An expectation describes the JSON values that are accepted in some place: one value exactly, a class
of values, or an object or array with an expectation for each of its parts. An object has to have
exactly the keys that are named.

* `check` looks for the first place where a value differs from an expectation (`Mismatch`). It
  visits the fields in the order of the expectation, the items in order, and each part before the
  next one; keys that nobody expects come last.
* `Matches` says independently of any order which values are accepted.
-/

namespace TransactionHarness

/-- What is expected in one place. -/
inductive Expect where
  /-- This value. -/
  | exact (v : Json)
  | null
  | anyString
  | nullOrString
  | nonEmptyArray
  /-- An object with these keys, each with its expectation. A key may be named several times. -/
  | object (fields : List (String × Expect))
  /-- An array of as many items, each with its expectation. -/
  | array (items : List Expect)
  deriving Inhabited

namespace Expect

mutual

/-- The words for an expectation. -/
def display : Expect → String
  | exact v => v.render
  | null => "null"
  | anyString => "any string"
  | nullOrString => "null or string"
  | nonEmptyArray => "non-empty array"
  | object fields => "object with keys [" ++ ", ".intercalate (fields.map Prod.fst) ++ "]"
  | array items => "[" ++ ", ".intercalate (displays items) ++ "]"

/-- The words for several expectations. -/
def displays : List Expect → List String
  | [] => []
  | e :: es => display e :: displays es

end

/-! ### Mismatches -/

/-- One step from a value to a part of it. -/
inductive Segment where
  | key (name : String)
  | index (i : Nat)
  deriving DecidableEq, Repr, Inhabited

/-- A step as it is written in a path. -/
def Segment.text : Segment → String
  | key name => "." ++ name
  | index i => s!"[{i}]"

/-- How a value differs from what is expected, in one place. -/
inductive Difference where
  /-- The value in this place is not of the expected kind. -/
  | unlike (expected : Expect) (actual : Json)
  /-- An expected key is missing. -/
  | missing (expected : Expect)
  /-- There is a key that nobody expects. -/
  | unexpected (actual : Json)
  deriving Inhabited

/-- A difference and where it is. -/
structure Mismatch where
  path : List Segment
  difference : Difference
  deriving Inhabited

namespace Mismatch

/-- The mismatch as seen from the value that the given step leads from. -/
def under (segment : Segment) (m : Mismatch) : Mismatch := { m with path := segment :: m.path }

/-- The path, from the whole value on. -/
def pathText (m : Mismatch) : String := "$" ++ String.join (m.path.map Segment.text)

/-- What was expected. -/
def expected (m : Mismatch) : String :=
  match m.difference with
  | .unlike e _ => e.display
  | .missing e => e.display
  | .unexpected _ => "<absent>"

/-- What was found. -/
def actual (m : Mismatch) : String :=
  match m.difference with
  | .unlike _ v => v.render
  | .missing _ => "<missing>"
  | .unexpected v => v.render

end Mismatch

/-! ### Checking -/

/-- Whether an expectation without parts accepts a value. -/
def acceptsLeaf : Expect → Json → Bool
  | exact v, w => v.same w
  | null, .null => true
  | anyString, .str _ => true
  | nullOrString, .null => true
  | nullOrString, .str _ => true
  | nonEmptyArray, .arr (_ :: _) => true
  | _, _ => false

/-- The first field whose key is not named. -/
def unexpectedField? (names : List String) (fields : List (String × Json)) :
    Option (String × Json) :=
  fields.find? fun field ↦ !names.contains field.1

mutual

/-- Accepts a value or finds the first mismatch. -/
def check : Expect → Json → Except Mismatch Unit
  | object fields, .obj actual => do
    checkFields fields actual
    match unexpectedField? (fields.map Prod.fst) actual with
    | some (k, v) => throw ⟨[.key k], .unexpected v⟩
    | none => return
  | array items, .arr actual =>
    if actual.length = items.length then checkItems 0 items actual
    else .error ⟨[], .unlike (array items) (.arr actual)⟩
  | e, v => if acceptsLeaf e v then .ok () else .error ⟨[], .unlike e v⟩

/-- Checks the named fields of an object in order. -/
def checkFields : List (String × Expect) → List (String × Json) → Except Mismatch Unit
  | [], _ => .ok ()
  | (k, e) :: rest, actual =>
    match Json.find? k actual with
    | none => .error ⟨[.key k], .missing e⟩
    | some v => do
      (check e v).mapError (Mismatch.under (.key k))
      checkFields rest actual

/-- Checks the items of an array in order, of which the first has the given index. -/
def checkItems : Nat → List Expect → List Json → Except Mismatch Unit
  | _, [], _ => .ok ()
  | _, _ :: _, [] => .ok ()
  | i, e :: es, v :: vs => do
    (check e v).mapError (Mismatch.under (.index i))
    checkItems (i + 1) es vs

end

/-! ### Matching -/

mutual

/-- The values that an expectation accepts. -/
inductive Matches : Expect → Json → Prop where
  | exact {v w : Json} (h : v.same w = true) : Matches (exact v) w
  | null : Matches null .null
  | anyString (s : String) : Matches anyString (.str s)
  | nullOrString_null : Matches nullOrString .null
  | nullOrString_string (s : String) : Matches nullOrString (.str s)
  | nonEmptyArray (v : Json) (vs : List Json) : Matches nonEmptyArray (.arr (v :: vs))
  | object {fields : List (String × Expect)} {actual : List (String × Json)}
      (keys : ∀ k, k ∈ actual.map Prod.fst ↔ k ∈ fields.map Prod.fst)
      (values : FieldsMatch fields actual) : Matches (object fields) (.obj actual)
  | array {items : List Expect} {actual : List Json} (h : ItemsMatch items actual) :
      Matches (array items) (.arr actual)

/-- Each named field of an object has a value that is accepted. -/
inductive FieldsMatch : List (String × Expect) → List (String × Json) → Prop where
  | nil (actual : List (String × Json)) : FieldsMatch [] actual
  | cons {k : String} {e : Expect} {v : Json} {fields : List (String × Expect)}
      {actual : List (String × Json)} (found : Json.find? k actual = some v)
      (head : Matches e v) (tail : FieldsMatch fields actual) :
      FieldsMatch ((k, e) :: fields) actual

/-- The items are accepted one by one. -/
inductive ItemsMatch : List Expect → List Json → Prop where
  | nil : ItemsMatch [] []
  | cons {e : Expect} {v : Json} {es : List Expect} {vs : List Json} (head : Matches e v)
      (tail : ItemsMatch es vs) : ItemsMatch (e :: es) (v :: vs)

end

end Expect

end TransactionHarness
