import TransactionHarness.Json.Basic
import TransactionHarness.Text.Numeral
import TransactionHarness.Text.Utf8
/-!
# Reading JSON text

`parse` reads one value with white space around it. Every reader takes the characters that are left
and gives back what it read together with the rest; a fault (`Fault`) keeps the characters that were
left when it was found, from which `Fault.position` computes line and column.

Where the format leaves a choice, the documented behaviour is that of the JSON reader `serde_json`:

* White space is space, tab, line feed and carriage return.
* Of two fields with one key the later one counts.
* Arrays and objects nest at most `maxDepth` deep.
* A number is an integer if it has neither fraction nor exponent and fits in sixty-four bits; minus
  zero does not. Of a longer number the digits beyond sixty-four bits count as zeros.
* A column is the number of bytes since the last line feed.
-/

namespace TransactionHarness.Json

/-- What can be wrong with a text. -/
inductive FaultKind where
  | endInValue
  | endInList
  | endInObject
  | endInString
  | expectedColon
  | expectedCommaOrBracket
  | expectedCommaOrBrace
  | expectedWord
  | expectedValue
  | invalidEscape
  | invalidNumber
  | numberOutOfRange
  | controlInString
  | keyNotString
  | loneSurrogate
  | missingLowSurrogate
  | trailingComma
  | trailingCharacters
  | tooDeep
  deriving DecidableEq, Repr, Inhabited

/-- The words for a fault. -/
def FaultKind.message : FaultKind → String
  | endInValue => "EOF while parsing a value"
  | endInList => "EOF while parsing a list"
  | endInObject => "EOF while parsing an object"
  | endInString => "EOF while parsing a string"
  | expectedColon => "expected `:`"
  | expectedCommaOrBracket => "expected `,` or `]`"
  | expectedCommaOrBrace => "expected `,` or `\x7d`"
  | expectedWord => "expected ident"
  | expectedValue => "expected value"
  | invalidEscape => "invalid escape"
  | invalidNumber => "invalid number"
  | numberOutOfRange => "number out of range"
  | controlInString => "control character (\\u0000-\\u001F) found while parsing a string"
  | keyNotString => "key must be a string"
  | loneSurrogate => "lone leading surrogate in hex escape"
  | missingLowSurrogate => "unexpected end of hex escape"
  | trailingComma => "trailing comma"
  | trailingCharacters => "trailing characters"
  | tooDeep => "recursion limit exceeded"

/-- A fault in a text. It lies `ahead` bytes behind the start of `unread`. -/
structure Fault where
  kind : FaultKind
  /-- The end of the text, from where the reader stood. -/
  unread : List Char
  /-- How many bytes of `unread` belong to the faulty part. -/
  ahead : Nat
  deriving DecidableEq, Repr, Inhabited

/-- A fault at the character that comes next, or at the end of the text. -/
def Fault.atNext (kind : FaultKind) (unread : List Char) : Fault :=
  ⟨kind, unread, if unread.isEmpty then 0 else 1⟩

/-- A fault just behind what was read. -/
def Fault.behind (kind : FaultKind) (unread : List Char) : Fault := ⟨kind, unread, 0⟩

/-- A line and a column. -/
structure Position where
  line : Nat
  column : Nat
  deriving DecidableEq, Repr, Inhabited

/-- Where one stands after `n` more bytes of a text. -/
def Position.advance (p : Position) : Nat → List Char → Position
  | _, [] => p
  | n, c :: rest =>
    if n < c.utf8Size then ⟨p.line, p.column + n⟩
    else if c = '\n' then advance ⟨p.line + 1, 0⟩ (n - 1) rest
    else advance ⟨p.line, p.column + c.utf8Size⟩ (n - c.utf8Size) rest

/-- The position of a fault in a text. -/
def Fault.position (text : List Char) (f : Fault) : Position :=
  Position.advance ⟨1, 0⟩ (Text.Utf8.size text - Text.Utf8.size f.unread + f.ahead) text

/-- The words for a fault and its position in the text. -/
def Fault.message (text : List Char) (f : Fault) : String :=
  let p := f.position text
  s!"{f.kind.message} at line {p.line} column {p.column}"

/-- What a reader gives: a result and the characters that are left. -/
abbrev Read (α : Type) := α × List Char

/-- A reader of values, from which the readers of arrays and objects are made. -/
abbrev ItemReader := List Char → Except Fault (Read Json)

/-! ### White space and words -/

/-- White space between the parts of a text. -/
def isSpace (c : Char) : Bool := c = ' ' || c = '\t' || c = '\n' || c = '\r'

/-- The text without leading white space. -/
def skipSpace (s : List Char) : List Char := s.dropWhile isSpace

/-- Reads the given characters. -/
def readWord : List Char → List Char → Except Fault (List Char)
  | [], s => .ok s
  | _ :: _, [] => .error (.behind .endInValue [])
  | w :: word, c :: s =>
    if c = w then readWord word s else .error (.atNext .expectedWord (c :: s))

/-! ### Numbers -/

/-- Reads digits for as long as the value, which starts at `n`, stays within sixty-four bits. Gives
the value, the number of digits read and the rest. -/
def readSignificand (n : Nat) : List Char → Nat × Nat × List Char
  | [] => (n, 0, [])
  | c :: s =>
    match Text.decimalDigit? c with
    | none => (n, 0, c :: s)
    | some d =>
      if n * 10 + d ≤ Text.max64 then
        let (m, count, rest) := readSignificand (n * 10 + d) s
        (m, count + 1, rest)
      else (n, 0, c :: s)

/-- The largest exponent that is told apart from infinity. -/
def maxExponent : Nat := 0x7FFFFFFF

/-- The floating-point number with the given parts. -/
def readFloat (negative : Bool) (significand : Nat) (exponent : Int) (rest : List Char) :
    Except Fault (Read Number) :=
  match Binary64.ofDecimal? significand exponent with
  | some x => .ok (.float (if negative then x.neg else x), rest)
  | none => .error (.behind .numberOutOfRange rest)

/-- Reads the digits of an exponent after the first and completes the number. An exponent that is
too large makes the number zero, or is a fault where it was found to be too large. -/
def readExponentDigits (negative : Bool) (significand : Nat) (start : Int) (minus : Bool)
    (e : Nat) : List Char → Except Fault (Read Number)
  | [] => readFloat negative significand (if minus then start - e else start + e) []
  | c :: s =>
    match Text.decimalDigit? c with
    | none => readFloat negative significand (if minus then start - e else start + e) (c :: s)
    | some d =>
      if e * 10 + d ≤ maxExponent then
        readExponentDigits negative significand start minus (e * 10 + d) s
      else if significand ≠ 0 && !minus then .error (.behind .numberOutOfRange s)
      else .ok (.float ⟨negative, 0⟩, s.dropWhile Text.isDecimalDigit)

/-- Reads the digits of an exponent, of which there has to be one, and completes the number. -/
def readExponentFrom (negative : Bool) (significand : Nat) (start : Int) (minus : Bool)
    (s : List Char) : Except Fault (Read Number) :=
  match s with
  | [] => .error (.behind .endInValue [])
  | c :: rest =>
    match Text.decimalDigit? c with
    | none => .error (.atNext .invalidNumber s)
    | some d => readExponentDigits negative significand start minus d rest

/-- Reads the sign and the digits of an exponent and completes the number. -/
def readExponent (negative : Bool) (significand : Nat) (start : Int) (s : List Char) :
    Except Fault (Read Number) :=
  match s with
  | '+' :: rest => readExponentFrom negative significand start false rest
  | '-' :: rest => readExponentFrom negative significand start true rest
  | _ => readExponentFrom negative significand start false s

/-- Reads what may follow the digits of a number with a fraction: an exponent. -/
def readAfterFraction (negative : Bool) (significand : Nat) (exponent : Int) (s : List Char) :
    Except Fault (Read Number) :=
  match s with
  | 'e' :: rest => readExponent negative significand exponent rest
  | 'E' :: rest => readExponent negative significand exponent rest
  | _ => readFloat negative significand exponent s

/-- Reads the digits behind the point, of which there has to be one, and completes the number. -/
def readFraction (negative : Bool) (significand : Nat) (exponent : Int) (s : List Char) :
    Except Fault (Read Number) :=
  match s with
  | [] => .error (.behind .endInValue [])
  | c :: _ =>
    if Text.isDecimalDigit c then
      let (m, count, rest) := readSignificand significand s
      readAfterFraction negative m (exponent - count) (rest.dropWhile Text.isDecimalDigit)
    else .error (.atNext .invalidNumber s)

/-- The number without fraction and exponent. Minus zero and an integer below the signed range are
floating-point numbers. -/
def wholeNumber (negative : Bool) (n : Nat) : Number :=
  if negative then
    if n = 0 ∨ 0x8000000000000000 < n then .float (Binary64.ofNat n).neg else .int (-(n : Int))
  else .int n

/-- Reads what follows the whole part of a number. The digits that did not fit into the significand
count in the exponent. -/
def readAfterWhole (negative : Bool) (significand dropped : Nat) (s : List Char) :
    Except Fault (Read Number) :=
  match s with
  | '.' :: rest => readFraction negative significand dropped rest
  | 'e' :: rest => readExponent negative significand dropped rest
  | 'E' :: rest => readExponent negative significand dropped rest
  | _ =>
    if dropped = 0 then .ok (wholeNumber negative significand, s)
    else readFloat negative significand dropped s

/-- Reads a number behind its sign. A leading zero stands alone. -/
def readNumber (negative : Bool) (s : List Char) : Except Fault (Read Number) :=
  match s with
  | [] => .error (.behind .endInValue [])
  | '0' :: rest =>
    match rest with
    | c :: _ =>
      if Text.isDecimalDigit c then .error (.atNext .invalidNumber rest)
      else readAfterWhole negative 0 0 rest
    | [] => readAfterWhole negative 0 0 rest
  | c :: _ =>
    if Text.isDecimalDigit c then
      let (n, _, rest) := readSignificand 0 s
      let dropped := rest.takeWhile Text.isDecimalDigit
      readAfterWhole negative n dropped.length (rest.dropWhile Text.isDecimalDigit)
    else .error (.atNext .invalidNumber s)

/-! ### Strings -/

/-- Reads four hexadecimal digits. What does not have four bytes left ends too early. -/
def readHex4 (s : List Char) : Except Fault (Read Nat) :=
  if Text.Utf8.size (s.take 4) < 4 then .error (.behind .endInString [])
  else
    match s with
    | a :: b :: c :: d :: rest =>
      match Text.hexDigit? a, Text.hexDigit? b, Text.hexDigit? c, Text.hexDigit? d with
      | some a, some b, some c, some d => .ok (((a * 16 + b) * 16 + c) * 16 + d, rest)
      | _, _, _, _ => .error ⟨.invalidEscape, s, 4⟩
    | _ => .error ⟨.invalidEscape, s, 4⟩

/-- Reads the second half of a surrogate pair, whose first half has the value `high`. -/
def readLowSurrogate (high : Nat) (s : List Char) : Except Fault (Read Char) :=
  match s with
  | [] => .error (.behind .endInString [])
  | '\\' :: [] => .error (.behind .endInString [])
  | '\\' :: 'u' :: rest => do
    let (low, rest) ← readHex4 rest
    if 0xDC00 ≤ low && low ≤ 0xDFFF then
      return (Char.ofNat ((high - 0xD800) * 0x400 + (low - 0xDC00) + 0x10000), rest)
    else throw (.behind .loneSurrogate rest)
  | '\\' :: rest => .error (.atNext .missingLowSurrogate rest)
  | _ => .error (.atNext .missingLowSurrogate s)

/-- Reads a character that is given by its code, behind the letter `u`. -/
def readUnicodeEscape (s : List Char) : Except Fault (Read Char) := do
  let (n, rest) ← readHex4 s
  if 0xDC00 ≤ n && n ≤ 0xDFFF then throw (.behind .loneSurrogate rest)
  else if 0xD800 ≤ n && n ≤ 0xDBFF then readLowSurrogate n rest
  else return (Char.ofNat n, rest)

/-- Reads an escaped character behind its backslash. -/
def readEscape (s : List Char) : Except Fault (Read Char) :=
  match s with
  | [] => .error (.behind .endInString [])
  | '\"' :: rest => .ok ('\"', rest)
  | '\\' :: rest => .ok ('\\', rest)
  | '/' :: rest => .ok ('/', rest)
  | 'b' :: rest => .ok ('\x08', rest)
  | 'f' :: rest => .ok ('\x0c', rest)
  | 'n' :: rest => .ok ('\n', rest)
  | 'r' :: rest => .ok ('\r', rest)
  | 't' :: rest => .ok ('\t', rest)
  | 'u' :: rest => readUnicodeEscape rest
  | _ => .error (.atNext .invalidEscape s)

/-- Reads a string behind its opening quote. Every step reads a character, so as many steps as there
are characters suffice. -/
def readStringFrom : Nat → List Char → Except Fault (Read (List Char))
  | 0, s => .error (.behind .endInString s)
  | fuel + 1, s =>
    match s with
    | [] => .error (.behind .endInString [])
    | '\"' :: rest => .ok ([], rest)
    | '\\' :: rest => do
      let (c, rest) ← readEscape rest
      let (more, rest) ← readStringFrom fuel rest
      return (c :: more, rest)
    | c :: rest =>
      if c.toNat < 0x20 then .error (.atNext .controlInString s)
      else do
        let (more, rest) ← readStringFrom fuel rest
        return (c :: more, rest)

/-- Reads a string behind its opening quote. -/
def readString (s : List Char) : Except Fault (Read String) := do
  let (cs, rest) ← readStringFrom (s.length + 1) s
  return (String.ofList cs, rest)

/-! ### Values -/

/-- Where the item or field behind a comma starts: not at the closing character. -/
def startBehindComma (closing : Char) (s : List Char) : Except Fault (List Char) :=
  match s with
  | [] => .error (.behind .endInValue [])
  | c :: _ => if c = closing then .error (.atNext .trailingComma s) else .ok s

/-- Where the next item of an array or the next field of an object starts, in a text without white
space in front of it. The first one starts at once and every other one behind a comma. -/
def nextStart (closing : Char) (unseparated : FaultKind) (first : Bool) (s : List Char) :
    Except Fault (List Char) :=
  if first then .ok s
  else
    match s with
    | ',' :: rest => startBehindComma closing (skipSpace rest)
    | _ => .error (.atNext unseparated s)

/-- Reads the items of an array and the closing bracket; `first` says that no item was read yet. -/
def readItems (item : ItemReader) : Nat → Bool → List Char → Except Fault (Read (List Json))
  | 0, _, s => .error (.behind .endInList s)
  | fuel + 1, first, s =>
    match skipSpace s with
    | [] => .error (.behind .endInList [])
    | ']' :: rest => .ok ([], rest)
    | next => do
      let start ← nextStart ']' .expectedCommaOrBracket first next
      let (x, rest) ← item start
      let (xs, rest) ← readItems item fuel false rest
      return (x :: xs, rest)

/-- Reads a key, the colon and the value of a field, from the quote of the key on. -/
def readField (item : ItemReader) (s : List Char) : Except Fault (Read (String × Json)) := do
  match s with
  | '\"' :: rest =>
    let (key, rest) ← readString rest
    match skipSpace rest with
    | [] => throw (.behind .endInObject [])
    | ':' :: rest =>
      let (x, rest) ← item rest
      return ((key, x), rest)
    | rest => throw (.atNext .expectedColon rest)
  | _ => throw (.atNext .keyNotString s)

/-- Reads the fields of an object and the closing brace, and puts them into `fields`. -/
def readFields (item : ItemReader) :
    Nat → Bool → List (String × Json) → List Char →
      Except Fault (Read (List (String × Json)))
  | 0, _, _, s => .error (.behind .endInObject s)
  | fuel + 1, first, fields, s =>
    match skipSpace s with
    | [] => .error (.behind .endInObject [])
    | '\x7d' :: rest => .ok (fields, rest)
    | next => do
      let start ← nextStart '\x7d' .expectedCommaOrBrace first next
      let ((key, x), rest) ← readField item start
      readFields item fuel false (insertField key x fields) rest

/-- Reads a value with white space in front of it, in which arrays and objects nest at most `depth`
deep. -/
def readValue : Nat → List Char → Except Fault (Read Json)
  | depth, s =>
    match skipSpace s with
    | [] => .error (.behind .endInValue [])
    | 'n' :: rest => do return (null, ← readWord ['u', 'l', 'l'] rest)
    | 't' :: rest => do return (bool true, ← readWord ['r', 'u', 'e'] rest)
    | 'f' :: rest => do return (bool false, ← readWord ['a', 'l', 's', 'e'] rest)
    | '\"' :: rest => do
      let (t, rest) ← readString rest
      return (str t, rest)
    | '-' :: rest => do
      let (n, rest) ← readNumber true rest
      return (num n, rest)
    | '[' :: rest =>
      match depth with
      | 0 => .error (.atNext .tooDeep ('[' :: rest))
      | depth + 1 => do
        let (xs, rest) ← readItems (readValue depth) (rest.length + 1) true rest
        return (arr xs, rest)
    | '\x7b' :: rest =>
      match depth with
      | 0 => .error (.atNext .tooDeep ('\x7b' :: rest))
      | depth + 1 => do
        let (xs, rest) ← readFields (readValue depth) (rest.length + 1) true [] rest
        return (obj xs, rest)
    | c :: rest =>
      if Text.isDecimalDigit c then do
        let (n, rest) ← readNumber false (c :: rest)
        return (num n, rest)
      else .error (.atNext .expectedValue (c :: rest))

/-- How deep arrays and objects may nest. -/
def maxDepth : Nat := 127

/-- The value that a text consists of, up to white space around it. -/
def parseChars (s : List Char) : Except Fault Json := do
  let (v, rest) ← readValue maxDepth s
  match skipSpace rest with
  | [] => return v
  | rest => throw (.atNext .trailingCharacters rest)

/-- The value that a text consists of, or the words for the fault in it. -/
def parse (text : String) : Except String Json :=
  match parseChars text.toList with
  | .ok v => .ok v
  | .error fault => .error (fault.message text.toList)

end TransactionHarness.Json
