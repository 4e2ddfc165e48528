import TransactionHarness.Http.Reader
import TransactionHarness.Text.Blank
/-!
# Bodies of responses

The head of a response says how far its body goes: there is none, it has a given length, it comes in
chunks, or it goes on to the end of the connection. `Framing.body?` takes the body from the bytes
behind the head; a body that ends too early, or whose chunks are not what they say, is none.

Main statement: `body?_exactly_append` — a body of a given length is taken whatever follows it.
-/

namespace TransactionHarness.Http

/-- How far a body goes. -/
inductive Framing where
  | empty
  | exactly (length : Nat)
  | chunked
  | untilEnd
  deriving DecidableEq, Repr, Inhabited

/-! ### What the head says -/

/-- The text of a value, if it has only characters that show, blanks and tabs. -/
def asText? (value : List UInt8) : Option (List Char) :=
  if value.all fun b ↦ isPlain b && b < 0x80 then
    some (value.map fun b ↦ Char.ofNat b.toNat)
  else none

/-- The parts of a value between its commas. -/
def listed (value : List Char) : List (List Char) := (Text.pieces ',' value).map Text.trim

/-- The longest body that a length can announce. -/
def longestBody : Nat := Text.max64 - 2

/-- Reads a length. -/
def readLength? (s : List Char) : Option Nat := do
  let n ← Text.readDigits? s
  if n ≤ longestBody then some n else none

/-- All lengths that a head announces. -/
def lengths? (head : Head) : Option (List Nat) := do
  let values ← (head.values "content-length").mapM asText?
  (values.flatMap listed).mapM readLength?

/-- Whether the last coding that a head names is the chunked one. -/
def endsChunked (head : Head) : Bool :=
  match ((head.values "transfer-encoding").getLast?).bind asText? with
  | some value => ((listed value).getLast?.getD []).map Char.toLower = "chunked".toList
  | none => false

/-- How far the body behind a head goes. Lengths that differ or cannot be read are refused, and so
are codings in the older version of the protocol. -/
def Head.framing? (head : Head) : Option Framing :=
  if head.status = 101 ∨ head.status = 204 ∨ head.status = 304 then some .empty
  else if head.values "transfer-encoding" ≠ [] then
    if head.version = .v10 then none
    else if endsChunked head then some .chunked
    else some .untilEnd
  else match lengths? head with
    | none => none
    | some [] => some .untilEnd
    | some (n :: more) => if more.all (· = n) then some (.exactly n) else none

/-! ### Chunks -/

/-- Where in a chunked body a byte stands. -/
inductive ChunkPlace where
  /-- At the start of the size of a chunk. -/
  | start
  /-- Behind digits of a size that have the given value. -/
  | size (n : Nat)
  /-- Behind a blank that follows a size. -/
  | sizeBlank (n : Nat)
  /-- In an extension, which says nothing here. -/
  | extension (n : Nat)
  /-- At the end of the line of a size. -/
  | sizeEnd (n : Nat)
  /-- In a chunk of which the given number of bytes, and one more, are left. -/
  | data (left : Nat)
  /-- Behind a chunk. -/
  | dataReturn
  | dataEnd
  /-- At the start of a line behind the last chunk. -/
  | trailerStart
  | trailer
  | trailerEnd
  /-- In the blank line that ends the body. -/
  | lastEnd
  deriving DecidableEq, Repr, Inhabited

/-- The value of a hexadecimal digit. -/
def hexValue? (b : UInt8) : Option Nat :=
  if b < 0x80 then Text.hexDigit? (Char.ofNat b.toNat) else none

/-- Where the next byte stands, if it is not a digit of the size. -/
def afterSize (n : Nat) (b : UInt8) : Option ChunkPlace :=
  if isPadding b then some (.sizeBlank n)
  else if b = byte ';' then some (.extension n)
  else if b = carriageReturn then some (.sizeEnd n)
  else none

/-- Where the next byte stands behind a byte that is no data. -/
def ChunkPlace.next? (place : ChunkPlace) (b : UInt8) : Option ChunkPlace :=
  match place with
  | start => (hexValue? b).map size
  | size n =>
    match hexValue? b with
    | some d => if n * 16 + d ≤ Text.max64 then some (size (n * 16 + d)) else none
    | none => afterSize n b
  | sizeBlank n => afterSize n b
  | extension n =>
    if b = carriageReturn then some (sizeEnd n)
    else if b = lineFeed then none
    else some (extension n)
  | sizeEnd n =>
    if b = lineFeed then some (if n = 0 then trailerStart else data (n - 1)) else none
  | data left => some (if left = 0 then dataReturn else data (left - 1))
  | dataReturn => if b = carriageReturn then some dataEnd else none
  | dataEnd => if b = lineFeed then some start else none
  | trailerStart => some (if b = carriageReturn then lastEnd else trailer)
  | trailer => some (if b = carriageReturn then trailerEnd else trailer)
  | trailerEnd => if b = lineFeed then some trailerStart else none
  | lastEnd => none

/-- The data in the bytes from a place on. -/
def chunkData? (place : ChunkPlace) : List UInt8 → Option (List UInt8)
  | [] => none
  | b :: rest =>
    if place = .lastEnd ∧ b = lineFeed then some []
    else match place.next? b with
      | none => none
      | some next =>
        match place with
        | .data _ => (chunkData? next rest).map (b :: ·)
        | _ => chunkData? next rest

/-! ### Bodies -/

/-- Takes a body from the bytes behind the head. -/
def Framing.body? : Framing → List UInt8 → Option (List UInt8)
  | empty, _ => some []
  | exactly n, bs => if n ≤ bs.length then some (bs.take n) else none
  | chunked, bs => chunkData? .start bs
  | untilEnd, bs => some bs

/-- The mark that texts may begin with. -/
def byteOrderMark : List UInt8 := [0xEF, 0xBB, 0xBF]

/-- The text of a body, which is read as UTF-8. The text that `reqwest` gives of a body also depends
on the character set that the content type names and on the byte order marks of UTF-16. Neither
counts here. -/
def bodyText (body : List UInt8) : String :=
  let body := if byteOrderMark.isPrefixOf body then body.drop byteOrderMark.length else body
  String.ofList (Text.Utf8.decodeLossy body)

/-- A body of a given length is taken whatever follows it. -/
theorem body?_exactly_append (body rest : List UInt8) :
    (Framing.exactly body.length).body? (body ++ rest) = some body := by
  simp [Framing.body?]

end TransactionHarness.Http
