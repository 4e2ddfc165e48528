import TransactionHarness.Text.Blank
import TransactionHarness.Text.Marks
/-!
# Directions of characters in domain names

Some scripts are written from right to left, and digits and signs among their letters are put where
the letters on both sides go. A domain name with such a script in it has to be one that cannot be
shown in two ways: every label runs in one direction only, which its first character tells, and the
labels on both sides cannot draw its ends to themselves.

`directionsFit_of_ascii` states that the directions of a name in ASCII do not matter.
-/

namespace TransactionHarness.Domain

open Text

/-- How a character is placed in a line of text. -/
inductive Direction where
  | leftToRight
  | rightToLeft
  /-- A digit that runs from left to right in a text of either direction. -/
  | europeanDigit
  /-- A digit that runs from left to right in an Arabic text. -/
  | arabicDigit
  /-- A mark, which goes with the character in front of it. -/
  | mark
  /-- A character that goes with those on both sides of it. -/
  | undirected
  deriving DecidableEq, Repr, Inhabited

/-- The digits that are written from left to right in a text of either direction. -/
def europeanDigits : List (Nat × Nat) :=
  [(0xB2, 0xB3), (0xB9, 0xB9), (0x6F0, 0x6F9), (0x2070, 0x2070), (0x2074, 0x2079), (0x2080, 0x2089),
   (0x2488, 0x249B), (0xFF10, 0xFF19), (0x102E1, 0x102FB), (0x1CCF0, 0x1CCF9), (0x1D7CE, 0x1D7FF),
   (0x1F100, 0x1F10A), (0x1FBF0, 0x1FBF9)]

/-- The digits that are written from left to right in an Arabic text. -/
def arabicDigits : List (Nat × Nat) :=
  [(0x600, 0x605), (0x660, 0x669), (0x66B, 0x66C), (0x6DD, 0x6DD), (0x890, 0x891), (0x8E2, 0x8E2),
   (0x10D30, 0x10D39), (0x10E60, 0x10E7E)]

/-- The characters that have no direction of their own: separators, signs and what does not show. -/
def undirected : List (Nat × Nat) :=
  [(0x80, 0xA9), (0xAB, 0xB1), (0xB4, 0xB4), (0xB6, 0xB8), (0xBB, 0xBF), (0xD7, 0xD7), (0xF7, 0xF7),
   (0x2B9, 0x2BA), (0x2C2, 0x2CF), (0x2D2, 0x2DF), (0x2E5, 0x2ED), (0x2EF, 0x2FF), (0x374, 0x375),
   (0x37E, 0x37E), (0x384, 0x385), (0x387, 0x387), (0x3F6, 0x3F6), (0x58A, 0x58A), (0x58D, 0x58F),
   (0x606, 0x607), (0x609, 0x60A), (0x60C, 0x60C), (0x60E, 0x60F), (0x66A, 0x66A), (0x6DE, 0x6DE),
   (0x6E9, 0x6E9), (0x7F6, 0x7F9), (0x9F2, 0x9F3), (0x9FB, 0x9FB), (0xAF1, 0xAF1), (0xBF3, 0xBFA),
   (0xC78, 0xC7E), (0xE3F, 0xE3F), (0xF3A, 0xF3D), (0x1390, 0x1399), (0x1400, 0x1400),
   (0x1680, 0x1680), (0x169B, 0x169C), (0x17DB, 0x17DB), (0x17F0, 0x17F9), (0x1800, 0x180A),
   (0x180E, 0x180E), (0x1940, 0x1940), (0x1944, 0x1945), (0x19DE, 0x19FF), (0x1FBD, 0x1FBD),
   (0x1FBF, 0x1FC1), (0x1FCD, 0x1FCF), (0x1FDD, 0x1FDF), (0x1FED, 0x1FEF), (0x1FFD, 0x1FFE),
   (0x2000, 0x200D), (0x2010, 0x2064), (0x2066, 0x206F), (0x207A, 0x207E), (0x208A, 0x208E),
   (0x20A0, 0x20C1), (0x2100, 0x2101), (0x2103, 0x2106), (0x2108, 0x2109), (0x2114, 0x2114),
   (0x2116, 0x2118), (0x211E, 0x2123), (0x2125, 0x2125), (0x2127, 0x2127), (0x2129, 0x2129),
   (0x212E, 0x212E), (0x213A, 0x213B), (0x2140, 0x2144), (0x214A, 0x214D), (0x2150, 0x215F),
   (0x2189, 0x218B), (0x2190, 0x2335), (0x237B, 0x2394), (0x2396, 0x2429), (0x2440, 0x244A),
   (0x2460, 0x2487), (0x24EA, 0x26AB), (0x26AD, 0x27FF), (0x2900, 0x2B73), (0x2B76, 0x2BFF),
   (0x2CE5, 0x2CEA), (0x2CF9, 0x2CFF), (0x2E00, 0x2E5D), (0x2E80, 0x2E99), (0x2E9B, 0x2EF3),
   (0x2F00, 0x2FD5), (0x2FF0, 0x3004), (0x3008, 0x3020), (0x3030, 0x3030), (0x3036, 0x3037),
   (0x303D, 0x303F), (0x309B, 0x309C), (0x30A0, 0x30A0), (0x30FB, 0x30FB), (0x31C0, 0x31E5),
   (0x31EF, 0x31EF), (0x321D, 0x321E), (0x3250, 0x325F), (0x327C, 0x327E), (0x32B1, 0x32BF),
   (0x32CC, 0x32CF), (0x3377, 0x337A), (0x33DE, 0x33DF), (0x33FF, 0x33FF), (0x4DC0, 0x4DFF),
   (0xA490, 0xA4C6), (0xA60D, 0xA60F), (0xA673, 0xA673), (0xA67E, 0xA67F), (0xA700, 0xA721),
   (0xA788, 0xA788), (0xA828, 0xA82B), (0xA838, 0xA839), (0xA874, 0xA877), (0xAB6A, 0xAB6B),
   (0xFB29, 0xFB29), (0xFBC3, 0xFBD2), (0xFD3E, 0xFD4F), (0xFD90, 0xFD91), (0xFDC8, 0xFDCF),
   (0xFDFD, 0xFDFF), (0xFE10, 0xFE19), (0xFE30, 0xFE52), (0xFE54, 0xFE66), (0xFE68, 0xFE6B),
   (0xFEFF, 0xFEFF), (0xFF01, 0xFF0F), (0xFF1A, 0xFF20), (0xFF3B, 0xFF40), (0xFF5B, 0xFF65),
   (0xFFE0, 0xFFE6), (0xFFE8, 0xFFEE), (0xFFF9, 0xFFFD), (0x10101, 0x10101), (0x10140, 0x1018C),
   (0x10190, 0x1019C), (0x101A0, 0x101A0), (0x1091F, 0x1091F), (0x10B39, 0x10B3F),
   (0x10D6E, 0x10D6E), (0x10ED0, 0x10ED8), (0x11052, 0x11065), (0x11660, 0x1166C),
   (0x11FD5, 0x11FF1), (0x16FE2, 0x16FE2), (0x1BCA0, 0x1BCA3), (0x1CC00, 0x1CCEF),
   (0x1CCFA, 0x1CCFC), (0x1CD00, 0x1CEB3), (0x1CEBA, 0x1CED0), (0x1CEE0, 0x1CEF0),
   (0x1D173, 0x1D17A), (0x1D1E9, 0x1D1EA), (0x1D200, 0x1D241), (0x1D245, 0x1D245),
   (0x1D300, 0x1D356), (0x1D6DB, 0x1D6DB), (0x1D715, 0x1D715), (0x1D74F, 0x1D74F),
   (0x1D789, 0x1D789), (0x1D7C3, 0x1D7C3), (0x1E2FF, 0x1E2FF), (0x1EEF0, 0x1EEF1),
   (0x1F000, 0x1F02B), (0x1F030, 0x1F093), (0x1F0A0, 0x1F0AE), (0x1F0B1, 0x1F0BF),
   (0x1F0C1, 0x1F0CF), (0x1F0D1, 0x1F0F5), (0x1F10B, 0x1F10F), (0x1F12F, 0x1F12F),
   (0x1F16A, 0x1F16F), (0x1F1AD, 0x1F1AD), (0x1F260, 0x1F265), (0x1F300, 0x1F6D8),
   (0x1F6DC, 0x1F6EC), (0x1F6F0, 0x1F6FC), (0x1F700, 0x1F7D9), (0x1F7E0, 0x1F7EB),
   (0x1F7F0, 0x1F7F0), (0x1F800, 0x1F80B), (0x1F810, 0x1F847), (0x1F850, 0x1F859),
   (0x1F860, 0x1F887), (0x1F890, 0x1F8AD), (0x1F8B0, 0x1F8BB), (0x1F8C0, 0x1F8C1),
   (0x1F8D0, 0x1F8D8), (0x1F900, 0x1FA57), (0x1FA60, 0x1FA6D), (0x1FA70, 0x1FA7C),
   (0x1FA80, 0x1FA8A), (0x1FA8E, 0x1FAC6), (0x1FAC8, 0x1FAC8), (0x1FACD, 0x1FADC),
   (0x1FADF, 0x1FAEA), (0x1FAEF, 0x1FAF8), (0x1FB00, 0x1FB92), (0x1FB94, 0x1FBEF),
   (0x1FBFA, 0x1FBFA), (0xE0001, 0xE0001), (0xE0020, 0xE007F)]

/-- The ranges of the scripts that are written from right to left. -/
def rightToLeftScripts : List (Nat × Nat) :=
  [(0x590, 0x8FF), (0xFB1D, 0xFDCF), (0xFDF0, 0xFDFF), (0xFE70, 0xFEFF), (0x10800, 0x10FFF),
   (0x1E800, 0x1EFFF)]

/-- The marks that are placed as letters are. -/
def letterMarks : List Nat := [0xCBF, 0xCC6, 0x11A07, 0x11A08, 0x11C3F]

/-- How an ASCII character is placed. -/
def asciiDirection (c : Char) : Direction :=
  if c.isAlpha then .leftToRight else if c.isDigit then .europeanDigit else .undirected

/-- How a character is placed. -/
def direction (c : Char) : Direction :=
  let n := c.toNat
  if n < 0x80 then asciiDirection c
  else if letterMarks.contains n then .leftToRight
  else if inRanges nonspacingMarks n then .mark
  else if inRanges europeanDigits n then .europeanDigit
  else if inRanges arabicDigits n then .arabicDigit
  else if inRanges undirected n then .undirected
  else if inRanges rightToLeftScripts n then .rightToLeft
  else .leftToRight

/-- Whether a label that starts from left to right, with `rest` behind its first character, runs in
one direction: nothing in it runs from right to left, and marks apart it ends with a letter or a
digit. -/
def runsForward (rest : List Direction) : Bool :=
  !rest.contains .rightToLeft && !rest.contains .arabicDigit &&
    match (dropLastWhile (· == .mark) rest).getLast? with
    | none => true
    | some last => last == .leftToRight || last == .europeanDigit

/-- Whether a label that starts from right to left, with `rest` behind its first character, runs in
one direction: it has no letter that runs from left to right and digits of one kind only, and marks
apart it ends with a letter or a digit. -/
def runsBackward (rest : List Direction) : Bool :=
  !rest.contains .leftToRight &&
    !(rest.contains .europeanDigit && rest.contains .arabicDigit) &&
    match (dropLastWhile (· == .mark) rest).getLast? with
    | none => true
    | some last => last != .undirected

/-- Whether a label runs in one direction. -/
def fitsDirection (label : List Char) : Bool :=
  match label.map direction with
  | [] => true
  | .leftToRight :: rest => runsForward rest
  | .rightToLeft :: rest => runsBackward rest
  | _ => false

/-- Whether a character makes the directions of a name matter. -/
def isBackward (c : Char) : Bool :=
  direction c == .rightToLeft || direction c == .arabicDigit

/-- Whether a name, given by its labels, can be shown in one way only. -/
def directionsFit (labels : List (List Char)) : Bool :=
  !labels.any (·.any isBackward) || labels.all fitsDirection

theorem direction_of_ascii {c : Char} (h : c.toNat < 0x80) : direction c = asciiDirection c :=
  if_pos h

/-- The directions of a name in ASCII do not matter. -/
theorem directionsFit_of_ascii {labels : List (List Char)}
    (h : ∀ label ∈ labels, ∀ c ∈ label, c.toNat < 0x80) : directionsFit labels = true := by
  have forward : labels.any (·.any isBackward) = false := by
    rw [List.any_eq_false]
    intro label hl
    rw [Bool.not_eq_true, List.any_eq_false]
    intro c hc
    have ascii := direction_of_ascii (h label hl c hc)
    unfold isBackward
    rw [ascii, asciiDirection]
    split
    · decide
    · split <;> decide
  simp [directionsFit, forward]

end TransactionHarness.Domain
