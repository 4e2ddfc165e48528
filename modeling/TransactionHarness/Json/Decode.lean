import TransactionHarness.Json.Printer
import TransactionHarness.Text.Quoted
/-!
# Typed values from JSON

A decoder takes a value and gives a typed one or a `Misfit`, which says what was found and what was
expected in its place.

Records (`Record`) are read from objects and from arrays alike, as `serde_json` reads them:

* From an object, fields count by name and unknown ones are ignored. Of several unreadable fields
  the one whose key comes first is reported; only if there is none, the first missing one.
* From an array, fields count by position in the order of their declaration, and there may be no
  further items. The first unreadable or missing one is reported.

A field without a value takes its default, if it has one. A field that may be null counts as null
where an object does not mention it.
-/

namespace TransactionHarness.Json

/-- Why a value does not fit a type. -/
inductive Misfit where
  /-- A value of another kind. -/
  | kind (found : Json) (expected : String)
  /-- An integer outside the range. -/
  | range (found : Int) (expected : String)
  /-- An object that should name one alternative. -/
  | notSingleKey
  /-- A name that is not among the alternatives. -/
  | unknownName (found : String) (known : List String)
  /-- A field that is needed is absent. -/
  | missingField (name : String)
  /-- An array that is too short or too long. -/
  | length (found : Nat) (expected : String)
  deriving Inhabited

/-- A value as it is named in messages: composite values by their kind only. -/
def description : Json → String
  | null => "null"
  | bool true => "boolean `true`"
  | bool false => "boolean `false`"
  | num (.int n) => "integer `" ++ String.ofList (renderInt n) ++ "`"
  | num (.float x) => "floating point `" ++ String.ofList (x.render floatLayout) ++ "`"
  | str s => "string " ++ Text.Quoted.ofText s
  | arr _ => "sequence"
  | obj _ => "map"

/-- A name between backticks. -/
def ticked (name : String) : String := "`" ++ name ++ "`"

/-- The names of the alternatives as they are listed in messages. -/
def alternatives : List String → String
  | [] => "there are no variants"
  | [a] => "expected " ++ ticked a
  | [a, b] => "expected " ++ ticked a ++ " or " ++ ticked b
  | names => "expected one of " ++ ", ".intercalate (names.map ticked)

/-- The words for a misfit. -/
def Misfit.message : Misfit → String
  | kind found expected => "invalid type: " ++ found.description ++ ", expected " ++ expected
  | range found expected =>
    "invalid value: " ++ (ofInt found).description ++ ", expected " ++ expected
  | notSingleKey => "invalid value: map, expected map with a single key"
  | unknownName found known => "unknown variant " ++ ticked found ++ ", " ++ alternatives known
  | missingField name => "missing field " ++ ticked name
  | length found expected =>
    "invalid length " ++ String.ofList (renderInt found) ++ ", expected " ++ expected

/-- A decoder. -/
abbrev Decoder (α : Type) := Json → Except Misfit α

/-! ### Simple values -/

/-- Reads a text. -/
def asString : Decoder String
  | str s => .ok s
  | v => .error (.kind v "a string")

/-- Reads a file path. -/
def asPath : Decoder String
  | str s => .ok s
  | v => .error (.kind v "path string")

/-- Reads a natural number of at most `limit`, whose type has the given name. -/
def asNat (limit : Nat) (typeName : String) : Decoder Nat
  | num (.int n) =>
    if 0 ≤ n ∧ n ≤ limit then .ok n.toNat else .error (.range n typeName)
  | v => .error (.kind v typeName)

/-- Reads null as nothing. -/
def asOption {α : Type} (decode : Decoder α) : Decoder (Option α)
  | null => .ok none
  | v => (decode v).map some

/-- Reads any value. -/
def asIs : Decoder Json := .ok

/-- Reads the items of an array up to the first that does not fit. -/
def mapItems {α : Type} (decode : Decoder α) : List Json → Except Misfit (List α)
  | [] => .ok []
  | x :: xs => do
    let y ← decode x
    let ys ← mapItems decode xs
    return y :: ys

/-- Reads an array. -/
def asList {α : Type} (decode : Decoder α) : Decoder (List α)
  | arr xs => mapItems decode xs
  | v => .error (.kind v "a sequence")

/-- Looks a name up among alternatives. -/
def lookup {α : Type} (known : List (String × α)) (name : String) : Except Misfit α :=
  match find? name known with
  | some a => .ok a
  | none => .error (.unknownName name (known.map Prod.fst))

/-- Reads one of several alternatives by its name. The name may also be the only key of an object,
with null as its value. -/
def asAlternative {α : Type} (known : List (String × α)) : Decoder α
  | str s => lookup known s
  | obj [(s, v)] => do
    let a ← lookup known s
    match v with
    | null => return a
    | v => throw (.kind v "unit")
  | obj _ => .error .notSingleKey
  | v => .error (.kind v "string or map")

/-! ### Records -/

/-- A field of a record: its name, how its value is read, and what it is without a value. -/
structure RecordField (α : Type) where
  name : String
  decode : Decoder α
  /-- What the field is in an object without its key. -/
  missing? : Option α := none
  /-- What the field is in an array that ends before it. -/
  beyond? : Option α := none

/-- A field that has to be there. -/
def RecordField.required {α : Type} (name : String) (decode : Decoder α) : RecordField α :=
  { name, decode }

/-- A field with a default. -/
def RecordField.withDefault {α : Type} (name : String) (decode : Decoder α) (value : α) :
    RecordField α :=
  { name, decode, missing? := some value, beyond? := some value }

/-- A field that may be null. An object may leave it out, an array may not. -/
def RecordField.nullable {α : Type} (name : String) (decode : Decoder α) :
    RecordField (Option α) :=
  { name, decode := asOption decode, missing? := some none }

/-- Where the fields of a record come from. -/
inductive Record where
  | byName (fields : List (String × Json))
  | byPosition (items : List Json)

namespace Record

/-- The number of fields in words. -/
def countText (n : Nat) : String := if n = 1 then "1 element" else s!"{n} elements"

/-- A record is an object or an array. -/
def ofJson (name : String) : Json → Except Misfit Record
  | obj fields => .ok (byName fields)
  | arr items => .ok (byPosition items)
  | v => .error (.kind v name)

/-- The test that a field's value can be read, under the field's name. -/
def check {α : Type} (f : RecordField α) : String × (Json → Except Misfit Unit) :=
  (f.name, fun v ↦ (f.decode v).map fun _ ↦ ())

/-- Tests the fields of an object in the order of their keys. -/
def precheckFields (checks : List (String × (Json → Except Misfit Unit))) :
    List (String × Json) → Except Misfit Unit
  | [] => .ok ()
  | (k, v) :: rest =>
    match find? k checks with
    | some test => do
      test v
      precheckFields checks rest
    | none => precheckFields checks rest

/-- Tests the fields that are present in an object. -/
def precheck (checks : List (String × (Json → Except Misfit Unit))) : Record → Except Misfit Unit
  | byName fields => precheckFields checks fields
  | byPosition _ => .ok ()

/-- Reads a field, which stands at the given position of the record with the given name and number
of fields. -/
def get {α : Type} (record : Record) (name : String) (count position : Nat)
    (f : RecordField α) : Except Misfit α :=
  match record with
  | byName fields =>
    match find? f.name fields with
    | some v => f.decode v
    | none => match f.missing? with
      | some a => .ok a
      | none => .error (.missingField f.name)
  | byPosition items =>
    match items[position]? with
    | some v => f.decode v
    | none => match f.beyond? with
      | some a => .ok a
      | none => .error (.length position (name ++ " with " ++ countText count))

/-- Refuses items beyond the last field. -/
def finish (record : Record) (count : Nat) : Except Misfit Unit :=
  match record with
  | byName _ => .ok ()
  | byPosition items =>
    if items.length ≤ count then .ok ()
    else .error (.length items.length "fewer elements in array")

end Record

end TransactionHarness.Json
