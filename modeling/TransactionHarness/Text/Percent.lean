import TransactionHarness.Text.Numeral
import TransactionHarness.Text.Utf8
/-!
# Percent-encoding

The unreserved characters of RFC 3986 stand for themselves. Every other character is written as its
UTF-8 bytes, each as a percent sign and two upper-case hexadecimal digits. `decode` reads such a
text back as bytes; a percent sign that no two hexadecimal digits follow stands for itself there.

Main statement: `decode_encode`.
-/

namespace TransactionHarness.Text.Percent

/-- The characters that are written as they are. -/
def isUnreserved (c : Char) : Bool :=
  ('A' ≤ c && c ≤ 'Z') || ('a' ≤ c && c ≤ 'z') || ('0' ≤ c && c ≤ '9') ||
    c == '-' || c == '.' || c == '_' || c == '~'

/-- A byte as a percent sign and two digits. -/
def encodeByte (b : UInt8) : List Char :=
  ['%', upperHex (b.toNat / 16), upperHex (b.toNat % 16)]

/-- A character as it stands in an encoded text. -/
def encodeChar (c : Char) : List Char :=
  if isUnreserved c then [c] else (String.utf8EncodeChar c).flatMap encodeByte

/-- The encoded text. -/
def encode (s : List Char) : List Char := s.flatMap encodeChar

/-- The bytes that an encoded text stands for. -/
def decode : List Char → List UInt8
  | [] => []
  | '%' :: a :: b :: more =>
    match hexDigit? a, hexDigit? b with
    | some high, some low => UInt8.ofNat (high * 16 + low) :: decode more
    | _, _ => 0x25 :: decode (a :: b :: more)
  | c :: rest => String.utf8EncodeChar c ++ decode rest

/-! ### Reading back -/

theorem decode_encodeByte (b : UInt8) (rest : List Char) :
    decode (encodeByte b ++ rest) = b :: decode rest := by
  have hb : b.toNat < 256 := b.toNat_lt
  have high : b.toNat / 16 < 16 := by omega
  have low : b.toNat % 16 < 16 := by omega
  have value : b.toNat / 16 * 16 + b.toNat % 16 = b.toNat := by omega
  simp only [encodeByte, List.cons_append, List.nil_append, decode, hexDigit?_upperHex high,
    hexDigit?_upperHex low, value, UInt8.ofNat_toNat]

theorem decode_encodeBytes (bs : List UInt8) (rest : List Char) :
    decode (bs.flatMap encodeByte ++ rest) = bs ++ decode rest := by
  induction bs with
  | nil => rfl
  | cons b bs ih =>
    rw [List.flatMap_cons, List.append_assoc, decode_encodeByte, ih, List.cons_append]

theorem decode_unreserved {c : Char} (h : isUnreserved c = true) (rest : List Char) :
    decode (c :: rest) = String.utf8EncodeChar c ++ decode rest := by
  have hc : c ≠ '%' := by
    rintro rfl
    exact absurd h (by decide)
  rw [decode]
  exact fun _ _ _ e ↦ absurd e hc

theorem decode_encodeChar (c : Char) (rest : List Char) :
    decode (encodeChar c ++ rest) = String.utf8EncodeChar c ++ decode rest := by
  unfold encodeChar
  split
  · exact decode_unreserved ‹_› rest
  · exact decode_encodeBytes _ rest

/-- Reading an encoded text gives the bytes of the text, whatever follows. -/
theorem decode_encode_append (s rest : List Char) :
    decode (encode s ++ rest) = Utf8.encode s ++ decode rest := by
  induction s with
  | nil => rfl
  | cons c s ih =>
    rw [encode, List.flatMap_cons, List.append_assoc, decode_encodeChar, ← encode, ih,
      Utf8.encode, Utf8.encode, List.flatMap_cons, List.append_assoc]

/-- Reading an encoded text gives the bytes of the text. -/
theorem decode_encode (s : List Char) : decode (encode s) = Utf8.encode s := by
  have h := decode_encode_append s []
  rw [List.append_nil] at h
  simpa [decode] using h

end TransactionHarness.Text.Percent
