import TransactionHarness.Http.Site
import TransactionHarness.Proofs.Decoding
/-!
# Answers of servers

An `Answer` is a complete response as a server sends it: a status line with any code that is neither
interim nor a redirection and with any reason phrase, fields, and a body that goes as far as the
fields say. `Answer.octets` is what comes over the line.

* `Header.exists_of_read?`: what a line that is read as a field consists of.
* `readStatus?_toDigits`: a status code is read from its digits.
* `Answer.readFinal?_octets`: the head is read, and the body is left.
-/

namespace TransactionHarness.Http

open Text

/-! ### Lines -/

/-- The bytes at the end of each line. -/
def crlf : List UInt8 := [carriageReturn, lineFeed]

theorem linesFrom?_append {line : List UInt8} (noLineFeed : lineFeed ∉ line)
    (current rest : List UInt8) :
    linesFrom? current (line ++ rest) = linesFrom? (line.reverse ++ current) rest := by
  induction line generalizing current with
  | nil => rfl
  | cons b line ih =>
    rw [List.mem_cons, not_or] at noLineFeed
    rw [List.cons_append, linesFrom?, if_neg (Ne.symm noLineFeed.1), ih noLineFeed.2,
      List.reverse_cons, List.append_assoc, List.singleton_append]

/-- A line that is not blank is read as it is. -/
theorem linesFrom?_line {line : List UInt8} (hne : line ≠ []) (noLineFeed : lineFeed ∉ line)
    (rest : List UInt8) :
    linesFrom? [] (line ++ (crlf ++ rest)) =
      (linesFrom? [] rest).map fun x ↦ (line :: x.1, x.2) := by
  have hreturn : carriageReturn ≠ lineFeed := by decide
  rw [linesFrom?_append noLineFeed, List.append_nil]
  show linesFrom? line.reverse (carriageReturn :: lineFeed :: rest) = _
  rw [linesFrom?, if_neg hreturn, linesFrom?, if_pos rfl, closeLine, if_pos rfl,
    List.reverse_reverse]
  rcases line with - | ⟨b, line⟩
  · exact absurd rfl hne
  · rfl

/-- Lines are read up to the blank one. -/
theorem linesFrom?_lines {lines : List (List UInt8)}
    (hlines : ∀ line ∈ lines, line ≠ [] ∧ lineFeed ∉ line) (rest : List UInt8) :
    linesFrom? [] (lines.flatMap (· ++ crlf) ++ (crlf ++ rest)) = some (lines, rest) := by
  induction lines with
  | nil => rfl
  | cons line lines ih =>
    obtain ⟨hne, noLineFeed⟩ := hlines line List.mem_cons_self
    rw [List.flatMap_cons, List.append_assoc, List.append_assoc,
      linesFrom?_line hne noLineFeed, ih fun l hl ↦ hlines l (List.mem_cons_of_mem line hl)]
    rfl

/-! ### Plain bytes -/

/-- What holds of all numbers of eight bits holds of all bytes. -/
theorem forall_byte {p : UInt8 → Prop} (h : ∀ n < 256, p (UInt8.ofNat n)) (b : UInt8) : p b := by
  have hb := h b.toNat b.toNat_lt
  rwa [UInt8.ofNat_toNat] at hb

/-- Names have plain bytes, and no line ends within them as they are written. -/
theorem of_isNameByte {b : UInt8} (hb : isNameByte b = true) : isPlain b = true ∧
    Char.ofNat (toSmall b).toNat ≠ '\n' ∧ Char.ofNat (toSmall b).toNat ≠ '\r' :=
  forall_byte (p := fun b ↦ isNameByte b = true → isPlain b = true ∧
    Char.ofNat (toSmall b).toNat ≠ '\n' ∧ Char.ofNat (toSmall b).toNat ≠ '\r')
    (by decide +kernel) b hb

/-- No line ends within plain bytes. -/
theorem not_mem_of_isPlain {s : List UInt8} (plain : s.all isPlain = true) :
    lineFeed ∉ s ∧ carriageReturn ∉ s := by
  rw [List.all_eq_true] at plain
  exact ⟨fun h ↦ absurd (plain _ h) (by decide), fun h ↦ absurd (plain _ h) (by decide)⟩

theorem not_mem_decodeLossy {s : List UInt8} {c : Char} (hc : c.toNat < 0x80)
    (h : byte c ∉ s) : c ∉ Utf8.decodeLossy s := by
  intro hmem
  obtain ⟨b, hb, heq⟩ := Utf8.exists_of_mem_decodeLossy hc hmem
  have hbyte : byte c = b := by rw [byte, ← heq, UInt8.ofNat_toNat]
  exact h (hbyte ▸ hb)

/-- Nor does one end where they are read. -/
theorem not_mem_decodeLossy_of_isPlain {s : List UInt8} (plain : s.all isPlain = true) :
    '\n' ∉ Utf8.decodeLossy s ∧ '\r' ∉ Utf8.decodeLossy s :=
  ⟨not_mem_decodeLossy (by decide) (not_mem_of_isPlain plain).1,
    not_mem_decodeLossy (by decide) (not_mem_of_isPlain plain).2⟩

/-! ### Fields -/

/-- What a line that is read as a field consists of. -/
theorem Header.exists_of_read? {line : List UInt8} {header : Header}
    (h : read? line = some header) :
    ∃ name value, line = name ++ byte ':' :: value ∧ name ≠ [] ∧ name.all isNameByte = true ∧
      value.all isPlain = true ∧
      header = ⟨String.ofList (name.map fun b ↦ Char.ofNat (toSmall b).toNat), strip value⟩ := by
  obtain ⟨rest, hline⟩ := List.takeWhile_prefix isNameByte (l := line)
  have hall : (line.takeWhile isNameByte).all isNameByte = true := List.all_takeWhile
  have hdrop : line.drop (line.takeWhile isNameByte).length = rest := by
    have hleft : (line.takeWhile isNameByte ++ rest).drop _ = rest := List.drop_left
    rwa [hline] at hleft
  unfold read? at h
  dsimp only at h
  rw [hdrop] at h
  generalize line.takeWhile isNameByte = name at h hline hall
  split at h
  · cases h
  · cases h
  · next hne =>
    split at h
    · next hvalue =>
      obtain ⟨rfl, hplain⟩ := hvalue
      cases h
      exact ⟨_, _, hline.symm, hne, hall, hplain, rfl⟩
    · cases h

/-- A line that is read as a field. -/
structure Field where
  line : List UInt8
  header : Header
  isRead : Header.read? line = some header

theorem Field.plain (field : Field) : field.line ≠ [] ∧ field.line.all isPlain = true := by
  obtain ⟨name, value, hline, -, hname, hvalue, -⟩ := Header.exists_of_read? field.isRead
  rw [hline]
  refine ⟨by simp, ?_⟩
  have hplain : name.all isPlain = true :=
    List.all_eq_true.2 fun b hb ↦ (of_isNameByte (List.all_eq_true.1 hname b hb)).1
  have hcolon : isPlain (byte ':') = true := by decide
  rw [List.all_append, List.all_cons, hplain, hcolon, hvalue]
  rfl

theorem mapM_read? (fields : List Field) :
    (fields.map Field.line).mapM Header.read? = some (fields.map Field.header) := by
  induction fields with
  | nil => rfl
  | cons field fields ih =>
    simp only [List.map_cons, List.mapM_cons, field.isRead, ih, Option.pure_def,
      Option.bind_eq_bind, Option.bind_some]

/-! ### Status codes -/

/-- A decimal digit as a byte. -/
def digitByte (d : Nat) : UInt8 := UInt8.ofNat (48 + d)

theorem encode_digitChar {d : Nat} (hd : d < 10) :
    Utf8.encode [Nat.digitChar d] = [digitByte d] ∧ isDigit (digitByte d) = true ∧
      (digitByte d).toNat = 48 + d := by
  have hall : ∀ d < 10, Utf8.encode [Nat.digitChar d] = [digitByte d] ∧
      isDigit (digitByte d) = true ∧ (digitByte d).toNat = 48 + d := by decide
  exact hall d hd

theorem toDigits_of_lt {n : Nat} (hn : 100 ≤ n ∧ n < 1000) :
    Nat.toDigits 10 n =
      [Nat.digitChar (n / 100), Nat.digitChar (n / 10 % 10), Nat.digitChar (n % 10)] := by
  rw [Nat.toDigits_of_base_le (by decide) (by omega),
    Nat.toDigits_of_base_le (by decide) (by omega), Nat.toDigits_of_lt_base (by omega),
    Nat.div_div_eq_div_mul]
  rfl

/-- The digits of a status code as bytes. -/
theorem encode_toDigits {n : Nat} (hn : 100 ≤ n ∧ n < 1000) :
    Utf8.encode (Nat.toDigits 10 n) =
      [digitByte (n / 100), digitByte (n / 10 % 10), digitByte (n % 10)] := by
  have hsplit (x y z : Char) :
      Utf8.encode [x, y, z] = Utf8.encode [x] ++ Utf8.encode [y] ++ Utf8.encode [z] := by
    simp [Utf8.encode]
  rw [toDigits_of_lt hn, hsplit, (encode_digitChar (by omega)).1,
    (encode_digitChar (by omega)).1, (encode_digitChar (by omega)).1]
  rfl

/-- A status code is read from its digits. -/
theorem readStatus?_toDigits {n : Nat} (hn : 100 ≤ n ∧ n < 1000) :
    readStatus? (Utf8.encode (Nat.toDigits 10 n)) = some n := by
  obtain ⟨-, hx, hx'⟩ := encode_digitChar (show n / 100 < 10 by omega)
  obtain ⟨-, hy, hy'⟩ := encode_digitChar (show n / 10 % 10 < 10 by omega)
  obtain ⟨-, hz, hz'⟩ := encode_digitChar (show n % 10 < 10 by omega)
  have hfirst : digitByte (n / 100) ≠ byte '0' := by
    intro heq
    have hzero : (digitByte (n / 100)).toNat = 48 := by rw [heq]; rfl
    omega
  rw [encode_toDigits hn, readStatus?]
  simp only [hx, hy, hz, hfirst, ne_eq, not_false_eq_true, decide_true, Bool.and_self, if_true,
    Option.some.injEq]
  omega

/-! ### Answers -/

/-- What stands in front of the status code. -/
def statusMark : List Char := "HTTP/1.1 ".toList

/-- A response of which everything arrives. -/
structure Answer where
  status : Nat
  /-- What stands behind the status code: nothing, or a blank and the reason phrase. -/
  tail : List UInt8
  fields : List Field
  body : List Char
  /-- The code is neither that of an interim response nor that of a redirection. -/
  isFinal : 200 ≤ status ∧ status < 300 ∨ 400 ≤ status ∧ status < 1000
  isTail : tail.head?.all (· = byte ' ') = true ∧ tail.all isPlain = true
  areFew : fields.length ≤ mostHeaders
  /-- The fields say that the body goes as far as it does. -/
  isWhole : Site.readBody ⟨.v11, status, fields.map Field.header⟩ (Utf8.encode body) =
    .ok (Utf8.encode body)
  noMark : byteOrderMark.isPrefixOf (Utf8.encode body) = false

namespace Answer

variable (a : Answer)

/-- The head as it is read. -/
def head : Head := ⟨.v11, a.status, a.fields.map Field.header⟩

/-- The digits of the status code. -/
def code : List Char := Nat.toDigits 10 a.status

/-- The bytes of the status line. -/
def statusLine : List UInt8 := Utf8.encode (statusMark ++ a.code) ++ a.tail

/-- The lines of the head. -/
def lines : List (List UInt8) := a.statusLine :: a.fields.map Field.line

/-- All bytes. -/
def octets : List UInt8 := a.lines.flatMap (· ++ crlf) ++ (crlf ++ Utf8.encode a.body)

/-! ### The status line -/

theorem le_status : 200 ≤ a.status := by
  have hfinal := a.isFinal
  omega

/-- The status code has three digits. -/
theorem status_within : 100 ≤ a.status ∧ a.status < 1000 := by
  have hfinal := a.isFinal
  omega

theorem encode_code : Utf8.encode a.code =
    [digitByte (a.status / 100), digitByte (a.status / 10 % 10), digitByte (a.status % 10)] :=
  encode_toDigits a.status_within

theorem statusLine_eq :
    a.statusLine = bytes "HTTP/1.1" ++ byte ' ' :: (Utf8.encode a.code ++ a.tail) := by
  rw [statusLine, Utf8.encode, List.flatMap_append, List.append_assoc]
  rfl

theorem readStatusLine?_statusLine : readStatusLine? a.statusLine = some (.v11, a.status) := by
  have hcode := a.encode_code
  have hstatus : readStatus? (Utf8.encode a.code) = some a.status :=
    readStatus?_toDigits a.status_within
  have hlength : (bytes "HTTP/1.1").length = 8 := by decide
  have hrest : a.statusLine.drop 9 = Utf8.encode a.code ++ a.tail := by
    rw [statusLine_eq, List.append_cons]
    exact List.drop_left' (by decide)
  have hversion : a.statusLine.take 8 = bytes "HTTP/1.1" := by
    rw [statusLine_eq, List.take_left' hlength]
  have hblank : (a.statusLine.drop 8).head? = some (byte ' ') := by
    rw [statusLine_eq, List.drop_left' hlength, List.head?_cons]
  have hdigits : (a.statusLine.drop 9).take 3 = Utf8.encode a.code := by
    rw [hrest, hcode]
    rfl
  have htail : a.statusLine.drop 12 = a.tail := by
    have hdrop : a.statusLine.drop 12 = (a.statusLine.drop 9).drop 3 := by rw [List.drop_drop]
    rw [hdrop, hrest, hcode]
    rfl
  have hread : Version.read? (bytes "HTTP/1.1") = some .v11 := by decide
  simp only [readStatusLine?, hversion, hread, hdigits, hstatus, htail, hblank,
    a.isTail, Option.bind_eq_bind, Option.bind_some, and_self, if_true, Option.pure_def]

theorem plain_statusLine : a.statusLine ≠ [] ∧ a.statusLine.all isPlain = true := by
  have hplain {d : Nat} (hd : d < 10) : isPlain (digitByte d) = true :=
    (of_isNameByte (by rw [isNameByte, (encode_digitChar hd).2.1]; rfl)).1
  have hmark : (bytes "HTTP/1.1").all isPlain = true := by decide
  have hblank : isPlain (byte ' ') = true := by decide
  have hstatus := a.status_within
  rw [statusLine_eq]
  refine ⟨by simp, ?_⟩
  simp only [List.all_append, encode_code, List.all_cons, List.all_nil, hmark, hblank, a.isTail.2,
    hplain (show a.status / 100 < 10 by omega), hplain (show a.status / 10 % 10 < 10 by omega),
    hplain (show a.status % 10 < 10 by omega), Bool.and_self]

/-! ### The head -/

theorem plain_lines : ∀ line ∈ a.lines, line ≠ [] ∧ line.all isPlain = true := by
  intro line hline
  rcases List.mem_cons.1 hline with rfl | hfield
  · exact a.plain_statusLine
  · obtain ⟨field, -, rfl⟩ := List.mem_map.1 hfield
    exact field.plain

theorem dropBlankLines_octets : dropBlankLines a.octets = a.octets := by
  have hstart : ∃ rest, a.octets = byte 'H' :: byte 'T' :: rest := by
    rw [octets, lines, List.flatMap_cons, statusLine_eq]
    exact ⟨_, rfl⟩
  obtain ⟨rest, hrest⟩ := hstart
  rw [hrest, dropBlankLines, if_neg (by decide), if_neg (by decide)]

theorem read?_octets : Head.read? a.octets = some (a.head, Utf8.encode a.body) := by
  have hlines : linesFrom? [] a.octets = some (a.lines, Utf8.encode a.body) :=
    linesFrom?_lines (fun line hline ↦
      ⟨(a.plain_lines line hline).1, (not_mem_of_isPlain (a.plain_lines line hline).2).1⟩) _
  have hfew : (a.fields.map Field.header).length ≤ mostHeaders := by
    rw [List.length_map]
    exact a.areFew
  have hhead : Head.ofLines? a.lines = some a.head := by
    simp only [lines, Head.ofLines?, readStatusLine?_statusLine, mapM_read?, Option.bind_eq_bind,
      Option.bind_some, if_pos hfew, head]
  simp only [Head.read?, dropBlankLines_octets, hlines, hhead, Option.map_some]

/-- The head is read, and the body is left. -/
theorem readFinal?_octets : Head.readFinal? a.octets = some (a.head, Utf8.encode a.body) := by
  have hfinal : a.head.isInterim = false := by
    have hstatus : ¬ a.status < 200 := Nat.not_lt.2 a.le_status
    simp [Head.isInterim, head, hstatus]
  rw [Head.readFinal?]
  split
  · next h => cases h.symm.trans a.read?_octets
  · next h =>
    cases h.symm.trans a.read?_octets
    rw [hfinal]
    rfl

end Answer

end TransactionHarness.Http
