import TransactionHarness.Number.Binary64
/-!
# JSON values

A number is an integer if it is written as one and fits in sixty-four bits, and a binary64 number
otherwise; the two kinds never equal each other. The fields of an object are kept in ascending order
of their keys, each key once: `insertField` keeps that order and replaces the value of a key that is
there already, and `ofFields` builds an object from fields in any order.

* `find?` looks a key up.
* `same` compares two values. Floating-point numbers compare by value, so that the two zeros are the
  same; everything else compares by structure.
* `IsCanonical` says that the keys of every object in a value ascend.
-/

namespace TransactionHarness

/-- A JSON number. -/
inductive Number where
  /-- An integer of at most sixty-four bits, signed or unsigned. -/
  | int (n : Int)
  /-- Any other number. -/
  | float (x : Binary64)
  deriving DecidableEq, Repr, Inhabited

/-- The number as a binary64 number. -/
def Number.toBinary64 : Number → Binary64
  | int n => Binary64.ofInt n
  | float x => x

/-- Whether two numbers are of one kind and have the same value. -/
def Number.same : Number → Number → Bool
  | int m, int n => m == n
  | float x, float y => x.sameValue y
  | _, _ => false

/-- A JSON value. -/
inductive Json where
  | null
  | bool (b : Bool)
  | num (n : Number)
  | str (s : String)
  | arr (items : List Json)
  | obj (fields : List (String × Json))
  deriving Inhabited

namespace Json

/-- The value of a key in a list of fields: that of its first field. -/
def find? {α : Type} (key : String) : List (String × α) → Option α
  | [] => none
  | (k, v) :: rest => if k = key then some v else find? key rest

/-- Puts a field into a list whose keys ascend. A field with the same key is replaced. -/
def insertField {α : Type} (key : String) (value : α) : List (String × α) → List (String × α)
  | [] => [(key, value)]
  | (k, v) :: rest =>
    if key < k then (key, value) :: (k, v) :: rest
    else if key = k then (key, value) :: rest
    else (k, v) :: insertField key value rest

/-- The object with the given fields, of which a later one replaces an earlier one. -/
def ofFields (fields : List (String × Json)) : Json :=
  obj (fields.foldl (fun sorted field ↦ insertField field.1 field.2 sorted) [])

/-- The integer as a JSON value. -/
def ofInt (n : Int) : Json := num (.int n)

/-- The natural number as a JSON value. -/
def ofNat (n : Nat) : Json := ofInt n

/-- The text, or null. -/
def ofString? : Option String → Json
  | some s => str s
  | none => null

mutual

/-- Whether two values are equal. -/
def same : Json → Json → Bool
  | null, null => true
  | bool a, bool b => a == b
  | num m, num n => m.same n
  | str s, str t => s == t
  | arr xs, arr ys => sameItems xs ys
  | obj xs, obj ys => sameFields xs ys
  | _, _ => false

/-- Whether two lists of values are equal item by item. -/
def sameItems : List Json → List Json → Bool
  | [], [] => true
  | x :: xs, y :: ys => same x y && sameItems xs ys
  | _, _ => false

/-- Whether two lists of fields are equal field by field. -/
def sameFields : List (String × Json) → List (String × Json) → Bool
  | [], [] => true
  | (k, x) :: xs, (l, y) :: ys => k == l && same x y && sameFields xs ys
  | _, _ => false

end

mutual

/-- The keys of every object in the value ascend. -/
def IsCanonical : Json → Prop
  | arr items => AreCanonical items
  | obj fields => (fields.map Prod.fst).Pairwise (· < ·) ∧ FieldsCanonical fields
  | _ => True

/-- The keys of every object in the values ascend. -/
def AreCanonical : List Json → Prop
  | [] => True
  | x :: xs => IsCanonical x ∧ AreCanonical xs

/-- The keys of every object in the values of the fields ascend. -/
def FieldsCanonical : List (String × Json) → Prop
  | [] => True
  | (_, x) :: xs => IsCanonical x ∧ FieldsCanonical xs

end

end Json

end TransactionHarness
