/-!
# UTF-8

Characters as bytes and back, on lists. Reading goes sequence by sequence (`takeSequence`): a
well-formed sequence yields its character, and of an ill-formed one the longest part that could
have begun a well-formed sequence is taken at once.

* `encode` writes a text as bytes, `size` counts them.
* `decode?` refuses ill-formed bytes; `decodeLossy` puts one replacement character for each
  ill-formed part.
-/

namespace TransactionHarness.Text.Utf8

/-- The bytes of a text. -/
def encode (s : List Char) : List UInt8 := s.flatMap String.utf8EncodeChar

/-- The number of bytes of a text. -/
def size (s : List Char) : Nat := s.foldr (fun c n ↦ c.utf8Size + n) 0

/-- The replacement character, which stands for bytes that are no text. -/
def replacement : Char := '\uFFFD'

/-- A byte that continues a sequence. -/
def isContinuation (b : UInt8) : Bool := 0x80 ≤ b && b ≤ 0xBF

/-- Whether `b` may follow the lead byte of a three-byte sequence: surrogates and characters that
fit in two bytes are excluded here. -/
def isSecondOfThree (lead b : UInt8) : Bool :=
  if lead == 0xE0 then 0xA0 ≤ b && b ≤ 0xBF
  else if lead == 0xED then 0x80 ≤ b && b ≤ 0x9F
  else isContinuation b

/-- Whether `b` may follow the lead byte of a four-byte sequence: characters that fit in three bytes
and those above the last one are excluded here. -/
def isSecondOfFour (lead b : UInt8) : Bool :=
  if lead == 0xF0 then 0x90 ≤ b && b ≤ 0xBF
  else if lead == 0xF4 then 0x80 ≤ b && b ≤ 0x8F
  else isContinuation b

/-- The low six bits, which a continuation byte carries. -/
def payload (b : UInt8) : Nat := b.toNat % 64

/-- Reads the sequence that starts with `lead`: its character, or `none` if it is ill-formed, and
the bytes that follow what was read. -/
def takeSequence (lead : UInt8) (rest : List UInt8) : Option Char × List UInt8 :=
  if lead < 0x80 then (some (Char.ofNat lead.toNat), rest)
  else if 0xC2 ≤ lead && lead ≤ 0xDF then
    match rest with
    | b :: r =>
      if isContinuation b then (some (Char.ofNat ((lead.toNat % 32) * 64 + payload b)), r)
      else (none, rest)
    | [] => (none, [])
  else if 0xE0 ≤ lead && lead ≤ 0xEF then
    match rest with
    | b :: r =>
      if isSecondOfThree lead b then
        match r with
        | c :: r' =>
          if isContinuation c then
            (some (Char.ofNat ((lead.toNat % 16) * 4096 + payload b * 64 + payload c)), r')
          else (none, r)
        | [] => (none, [])
      else (none, rest)
    | [] => (none, [])
  else if 0xF0 ≤ lead && lead ≤ 0xF4 then
    match rest with
    | b :: r =>
      if isSecondOfFour lead b then
        match r with
        | c :: r' =>
          if isContinuation c then
            match r' with
            | d :: r'' =>
              if isContinuation d then
                (some (Char.ofNat ((lead.toNat % 8) * 262144 + payload b * 4096 +
                  payload c * 64 + payload d)), r'')
              else (none, r')
            | [] => (none, [])
          else (none, r)
        | [] => (none, [])
      else (none, rest)
    | [] => (none, [])
  else (none, rest)

theorem length_takeSequence_le (lead : UInt8) (rest : List UInt8) :
    (takeSequence lead rest).2.length ≤ rest.length := by
  unfold takeSequence
  repeat' split
  all_goals simp_all <;> omega

/-- The text of the bytes, with one replacement character for each ill-formed part. -/
def decodeLossy : List UInt8 → List Char
  | [] => []
  | b :: rest =>
    ((takeSequence b rest).1.getD replacement) :: decodeLossy (takeSequence b rest).2
termination_by s => s.length
decreasing_by
  have := length_takeSequence_le b rest
  simp only [List.length_cons]
  omega

/-- The text of the bytes, if they are well-formed throughout. -/
def decode? : List UInt8 → Option (List Char)
  | [] => some []
  | b :: rest => do
    let c ← (takeSequence b rest).1
    let more ← decode? (takeSequence b rest).2
    return c :: more
termination_by s => s.length
decreasing_by
  have := length_takeSequence_le b rest
  simp only [List.length_cons]
  omega

end TransactionHarness.Text.Utf8
