import TransactionHarness.Json.Basic
import TransactionHarness.Number.Shortest
import TransactionHarness.Text.Numeral
/-!
# Compact JSON text

`render` writes a value without white space, the fields of an object in the order they have. Of the
characters of a string only those are escaped that have to be: the quote, the backslash and the
controls below the space.
-/

namespace TransactionHarness.Json

/-- Floating-point numbers have a point while the exponent of the leading digit is from -5 to 15,
and an exponent with its sign otherwise. -/
def floatLayout : Binary64.Layout := ⟨-5, 15, "e+", "e-"⟩

/-- A character as it stands inside the quotes. -/
def escapeChar (c : Char) : List Char :=
  if c = '\"' then ['\\', '\"']
  else if c = '\\' then ['\\', '\\']
  else if c = '\x08' then ['\\', 'b']
  else if c = '\x0c' then ['\\', 'f']
  else if c = '\n' then ['\\', 'n']
  else if c = '\r' then ['\\', 'r']
  else if c = '\t' then ['\\', 't']
  else if c.toNat < 0x20 then
    ['\\', 'u', '0', '0', Text.lowerHex (c.toNat / 16), Text.lowerHex (c.toNat % 16)]
  else [c]

/-- A string with its quotes. -/
def renderString (s : String) : List Char :=
  '\"' :: (s.toList.flatMap escapeChar ++ ['\"'])

/-- An integer in decimal notation. -/
def renderInt (n : Int) : List Char :=
  if n < 0 then '-' :: Nat.toDigits 10 n.natAbs else Nat.toDigits 10 n.natAbs

/-- The text of a number. -/
def renderNumber : Number → List Char
  | .int n => renderInt n
  | .float x => x.render floatLayout

mutual

/-- The characters of the compact text of a value. -/
def renderChars : Json → List Char
  | null => "null".toList
  | bool true => "true".toList
  | bool false => "false".toList
  | num n => renderNumber n
  | str s => renderString s
  | arr [] => ['[', ']']
  | arr (x :: xs) => '[' :: (renderChars x ++ renderItems xs)
  | obj [] => ['\x7b', '\x7d']
  | obj ((k, x) :: xs) => '\x7b' :: (renderString k ++ ':' :: (renderChars x ++ renderFields xs))

/-- The items after the first, each with its comma, and the closing bracket. -/
def renderItems : List Json → List Char
  | [] => [']']
  | x :: xs => ',' :: (renderChars x ++ renderItems xs)

/-- The fields after the first, each with its comma, and the closing brace. -/
def renderFields : List (String × Json) → List Char
  | [] => ['\x7d']
  | (k, x) :: xs => ',' :: (renderString k ++ ':' :: (renderChars x ++ renderFields xs))

end

/-- The compact text of a value. -/
def render (v : Json) : String := String.ofList v.renderChars

end TransactionHarness.Json
