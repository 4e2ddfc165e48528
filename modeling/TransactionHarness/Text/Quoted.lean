import TransactionHarness.Text.Numeral
import TransactionHarness.Text.Printable
/-!
# Quoted texts for diagnostics

A text between double quotes in which everything that could be misread is escaped: the quote and the
backslash by a backslash, tab, line feed, carriage return and NUL by a letter, and every other
character that does not show by its code point in braces.
-/

namespace TransactionHarness.Text.Quoted

/-- The lower-case hexadecimal digits of a number, without leading zeros. -/
def hexDigits (n : Nat) : List Char := Nat.toDigits 16 n

/-- A character as it stands inside the quotes. -/
def escapeChar (c : Char) : List Char :=
  if c = '\x00' then ['\\', '0']
  else if c = '\t' then ['\\', 't']
  else if c = '\n' then ['\\', 'n']
  else if c = '\r' then ['\\', 'r']
  else if c = '\"' then ['\\', '\"']
  else if c = '\\' then ['\\', '\\']
  else if isShown c then [c]
  else ['\\', 'u', '\x7b'] ++ hexDigits c.toNat ++ ['\x7d']

/-- The quoted text. -/
def ofText (s : String) : String :=
  String.ofList ('\"' :: (s.toList.flatMap escapeChar ++ ['\"']))

end TransactionHarness.Text.Quoted
