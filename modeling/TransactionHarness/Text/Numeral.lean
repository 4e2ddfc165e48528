/-!
# Numerals

Whole numbers in decimal and hexadecimal notation, with ASCII digits only.

* `readUnsigned?` reads an unsigned decimal numeral that has to stay within a limit. One leading
  plus sign and leading zeros are allowed, and at least one digit is needed.
* `hexDigit?` reads a hexadecimal digit of either case; `upperHex` and `lowerHex` write one.

Main statements: `readDigits?_toDigits`, `readUnsigned?_toDigits` — a number is read from its
digits.
-/

namespace TransactionHarness.Text

/-- The value of a decimal digit. -/
def decimalDigit? (c : Char) : Option Nat :=
  if '0' ≤ c && c ≤ '9' then some (c.toNat - '0'.toNat) else none

/-- A decimal digit. -/
def isDecimalDigit (c : Char) : Bool := (decimalDigit? c).isSome

/-- Reads digits that continue a numeral whose digits so far have the value `n`. -/
def readDigitsFrom (n : Nat) : List Char → Option Nat
  | [] => some n
  | c :: rest =>
    match decimalDigit? c with
    | some d => readDigitsFrom (n * 10 + d) rest
    | none => none

/-- Reads a numeral that consists of digits and has at least one. -/
def readDigits? : List Char → Option Nat
  | [] => none
  | s => readDigitsFrom 0 s

/-- Reads an unsigned numeral of at most `limit`. -/
def readUnsigned? (limit : Nat) (s : List Char) : Option Nat := do
  let digits := match s with
    | '+' :: rest => rest
    | _ => s
  let n ← readDigits? digits
  if n ≤ limit then some n else none

/-- The value of a hexadecimal digit of either case. -/
def hexDigit? (c : Char) : Option Nat :=
  if '0' ≤ c && c ≤ '9' then some (c.toNat - '0'.toNat)
  else if 'a' ≤ c && c ≤ 'f' then some (c.toNat - 'a'.toNat + 10)
  else if 'A' ≤ c && c ≤ 'F' then some (c.toNat - 'A'.toNat + 10)
  else none

/-- The upper-case hexadecimal digit of a value below sixteen. -/
def upperHex (n : Nat) : Char :=
  if n < 10 then Char.ofNat ('0'.toNat + n) else Char.ofNat ('A'.toNat + (n - 10))

/-- The lower-case hexadecimal digit of a value below sixteen. -/
def lowerHex (n : Nat) : Char :=
  if n < 10 then Char.ofNat ('0'.toNat + n) else Char.ofNat ('a'.toNat + (n - 10))

theorem hexDigit?_upperHex {n : Nat} (h : n < 16) : hexDigit? (upperHex n) = some n := by
  have all : ∀ m ∈ List.range 16, hexDigit? (upperHex m) = some m := by decide
  exact all n (List.mem_range.2 h)

/-! ### Numbers and their digits -/

theorem decimalDigit?_digitChar {d : Nat} (hd : d < 10) :
    decimalDigit? (Nat.digitChar d) = some d := by
  have hall : ∀ d < 10, decimalDigit? (Nat.digitChar d) = some d := by decide
  exact hall d hd

/-- The last digit counts once, and those in front of it ten times. -/
theorem readDigitsFrom_concat (n : Nat) (s : List Char) (c : Char) :
    readDigitsFrom n (s ++ [c]) =
      (readDigitsFrom n s).bind fun m ↦ (decimalDigit? c).map fun d ↦ m * 10 + d := by
  induction s generalizing n with
  | nil =>
    show readDigitsFrom n [c] = (decimalDigit? c).map fun d ↦ n * 10 + d
    rw [readDigitsFrom]
    rcases decimalDigit? c with - | d <;> rfl
  | cons b s ih =>
    rw [List.cons_append, readDigitsFrom, readDigitsFrom]
    split
    · exact ih _
    · rfl

/-- A number is read from its digits. -/
theorem readDigits?_toDigits (n : Nat) : readDigits? (Nat.toDigits 10 n) = some n := by
  have hread : readDigitsFrom 0 (Nat.toDigits 10 n) = some n := by
    induction n using Nat.strongRecOn with
    | ind n ih =>
      rcases Nat.lt_or_ge n 10 with hn | hn
      · rw [Nat.toDigits_of_lt_base hn, readDigitsFrom, decimalDigit?_digitChar hn]
        simp [readDigitsFrom]
      · rw [Nat.toDigits_of_base_le (by decide) hn, readDigitsFrom_concat,
          ih (n / 10) (by omega), decimalDigit?_digitChar (by omega)]
        show some (n / 10 * 10 + n % 10) = some n
        rw [Nat.div_add_mod']
  rcases h : Nat.toDigits 10 n with - | ⟨c, cs⟩
  · exact absurd h Nat.toDigits_ne_nil
  · rw [readDigits?, ← h]
    · exact hread
    · nofun

/-- And within a limit, if it is not above it. -/
theorem readUnsigned?_toDigits {limit n : Nat} (hn : n ≤ limit) :
    readUnsigned? limit (Nat.toDigits 10 n) = some n := by
  unfold readUnsigned?
  split
  · next rest heq =>
    -- no sign stands in front of the digits
    have hdigit := Nat.isDigit_of_mem_toDigits (by decide) (by decide) (heq ▸ List.mem_cons_self)
    exact absurd hdigit (by decide)
  · show (readDigits? (Nat.toDigits 10 n) >>= _) = _
    rw [readDigits?_toDigits]
    exact if_pos hn

/-! ### Limits -/

/-- The largest value of sixteen bits. -/
def max16 : Nat := 0xFFFF

/-- The largest value of thirty-two bits. -/
def max32 : Nat := 0xFFFFFFFF

/-- The largest value of sixty-four bits. -/
def max64 : Nat := 0xFFFFFFFFFFFFFFFF

end TransactionHarness.Text
