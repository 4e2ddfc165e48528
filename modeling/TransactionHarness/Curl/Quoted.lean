/-!
# Quoted file names

Where curl expects the name of a file inside a longer argument, the name may stand between double
quotes. Inside them a backslash takes the special meaning from a backslash or a double quote behind
it; in front of anything else it stands for itself. `read?` gives the name and what follows the
closing quote, and `encode` writes a name so that it is read back.

Main statement: `read?_encode_append`.
-/

namespace TransactionHarness.Curl.Quoted

/-- Whether a character needs a backslash in front of it. -/
def isSpecial (c : Char) : Bool := c = '\\' || c = '\"'

/-- A character as it is written between the quotes. -/
def escapeChar (c : Char) : List Char := if isSpecial c then ['\\', c] else [c]

/-- A name between quotes. -/
def encode (name : List Char) : List Char := '\"' :: (name.flatMap escapeChar ++ ['\"'])

/-- Reads up to the closing quote; the character in front was a backslash if `escaped`. -/
def readBody? (escaped : Bool) : List Char → Option (List Char × List Char)
  | [] => none
  | c :: rest =>
    if escaped then
      (readBody? false rest).map fun (name, after) ↦
        (if isSpecial c then c :: name else '\\' :: c :: name, after)
    else if c = '\"' then some ([], rest)
    else if c = '\\' then readBody? true rest
    else (readBody? false rest).map fun (name, after) ↦ (c :: name, after)

/-- Reads a name between quotes and gives what follows it too. -/
def read? : List Char → Option (List Char × List Char)
  | '\"' :: rest => readBody? false rest
  | _ => none

/-! ### Reading what was written -/

theorem readBody?_escapeChar (c : Char) (rest : List Char) :
    readBody? false (escapeChar c ++ rest) =
      (readBody? false rest).map fun (name, after) ↦ (c :: name, after) := by
  by_cases h : isSpecial c = true
  · simp [escapeChar, h, readBody?]
  · have h' : c ≠ '\\' ∧ c ≠ '\"' := by simpa [isSpecial, not_or] using h
    simp [escapeChar, h, readBody?, h'.1, h'.2]

theorem readBody?_flatMap_escapeChar (name after : List Char) :
    readBody? false (name.flatMap escapeChar ++ '\"' :: after) = some (name, after) := by
  induction name with
  | nil => simp [readBody?]
  | cons c name ih => simp [List.append_assoc, readBody?_escapeChar, ih]

/-- What was written is read back, and the closing quote is the last character that was written. -/
theorem read?_encode_append (name after : List Char) :
    read? (encode name ++ after) = some (name, after) := by
  simp [encode, read?, readBody?_flatMap_escapeChar]

end TransactionHarness.Curl.Quoted
