import TransactionHarness.Text.Ranges
import TransactionHarness.Url.Forms.Letters
import TransactionHarness.Url.Forms.Ligatures
import TransactionHarness.Url.Forms.Signs
/-!
# Forms of characters in domain names

Before a domain name is looked at, every character is replaced by what it stands for: ASCII letters
become small, the wide and the ornamental forms of characters become plain, ligatures are spelled
out, and characters that stand for nothing are dropped. `form` gives what a character stands for.

`form_of_ascii` states that all ASCII characters but the capital letters stand for themselves.
-/

namespace TransactionHarness.Domain

open Text

/-- The characters that stand for nothing. -/
def ignorable : List (Nat × Nat) :=
  [(0xAD, 0xAD), (0x34F, 0x34F), (0x115F, 0x1160), (0x17B4, 0x17B5), (0x180B, 0x180F),
   (0x200B, 0x200B), (0x2060, 0x2064), (0x206A, 0x206F), (0x3164, 0x3164), (0xFE00, 0xFE0F),
   (0xFEFF, 0xFEFF), (0xFFA0, 0xFFA0), (0x1BCA0, 0x1BCA3), (0x1D173, 0x1D17A), (0xE0100, 0xE01EF)]

/-- The small letter of an ASCII letter; any other character itself. -/
def lower (c : Char) : Char := c.toLower

/-- What a code point stands for by a table of runs: the entry at its place in a run. -/
def entryOf? {α : Type} (runs : List (Nat × List α)) (n : Nat) : Option α :=
  runs.findSome? fun run ↦ if run.1 ≤ n then run.2[n - run.1]? else none

/-- The small letter of a code point in a range in which capital and small letters alternate. -/
def smallLetter? (n : Nat) : Option Nat :=
  match alternating.find? fun range ↦ range.1 ≤ n && n ≤ range.2 with
  | some range => if (n - range.1) % 2 = 0 then some (n + 1) else none
  | none => none

/-- What a code point in a range that stands for another range stands for. -/
def shiftedForm? (n : Nat) : Option Nat :=
  (shifted.find? fun range ↦ range.1 ≤ n && n ≤ range.2.1).map fun range ↦
    range.2.2 + (n - range.1)

/-- What a code point beyond ASCII stands for, if it does not stand for itself. -/
def otherForm? (n : Nat) : Option (List Nat) :=
  if inRanges ignorable n then some []
  else match smallLetter? n <|> shiftedForm? n <|> entryOf? listed n with
    | some m => some [m]
    | none => entryOf? spelled n

/-- What a character stands for. -/
def form (c : Char) : List Char :=
  if c.toNat < 0x80 then [lower c]
  else match otherForm? c.toNat with
    | some ns => ns.map Char.ofNat
    | none => [c]

/-- A capital letter apart, an ASCII character stands for itself. -/
theorem form_of_ascii {c : Char} (ascii : c.toNat < 0x80) (h : c.isUpper = false) :
    form c = [c] := by
  have small : ¬(65 ≤ c.val ∧ c.val ≤ 90) := of_decide_eq_false h
  rw [form, if_pos ascii]
  exact congrArg (fun d ↦ [d]) (dif_neg small)

end TransactionHarness.Domain
