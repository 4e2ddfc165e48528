import TransactionHarness.Proofs.Margin
/-!
# Responses that were put together

A text with any number of interim responses, a final response and a body is read as what it was put
together from: the header lines of the final response and the value of the body. The lines of each
response end in their own way, white space may stand behind each response and behind the body, and
the body may contain blank lines and what looks like a status line.

* `Response.Block`, `Response.Message`: header lines that end in one of two ways, and a whole text.
* `Response.splitHead_text`: the first blank line is the one that closes the block.
* `Response.headerLines_head`: in front of it are the lines of the block.
* `Response.final_interim`: interim responses are dropped, whatever follows them.
* `Response.Message.parse_text`: what is read from a message.
-/

namespace TransactionHarness

namespace Text

/-! ### White space at the ends of a text -/

variable {w : List Char}

/-- White space behind a text stays there, unless there is nothing else. -/
theorem trimStart_append_blank (hw : ∀ c ∈ w, isBlank c = true) (s : List Char) :
    trimStart (s ++ w) = trimStart s ++ w ∨ trimStart s = [] ∧ trimStart (s ++ w) = [] := by
  have happ : trimStart (s ++ w) =
      if (trimStart s).isEmpty then w.dropWhile isBlank else trimStart s ++ w :=
    List.dropWhile_append
  split at happ
  · next hnil =>
    right
    refine ⟨List.isEmpty_iff.1 hnil, ?_⟩
    have hblank : trimStart w = [] := by
      rw [← List.append_nil w, trimStart_blank_append hw]
      rfl
    rw [happ, ← trimStart, hblank]
  · exact .inl happ

theorem trim_blank_append_blank {w' : List Char} (hw : ∀ c ∈ w, isBlank c = true)
    (hw' : ∀ c ∈ w', isBlank c = true) (s : List Char) : trim (w ++ s ++ w') = trim s := by
  rw [trim, List.append_assoc, trimStart_blank_append hw]
  rcases trimStart_append_blank hw' s with h | ⟨hs, h⟩
  · rw [h, trimEnd_append_blank hw', ← trim]
  · rw [h, trim, hs]

/-! ### Lines -/

theorem lines_of_not_mem {l : List Char} (h : '\n' ∉ l) (hne : l ≠ []) : lines l = [l] := by
  unfold lines
  rw [pieces_of_not_mem h]
  cases l with
  | nil => exact absurd rfl hne
  | cons c l => rfl

theorem lines_append_lineFeed {l : List Char} (h : '\n' ∉ l) (s : List Char) :
    lines (l ++ '\n' :: s) = dropCarriageReturn l :: lines s := by
  unfold lines
  rw [pieces_append_cons, pieces_of_not_mem h, List.singleton_append]
  obtain ⟨first, more, hpieces⟩ := List.exists_cons_of_ne_nil (pieces_ne_nil '\n' s)
  rw [hpieces]
  simp only [List.dropLast_cons_cons, List.map_cons, List.getLast?_cons_cons]
  split <;> rfl

end Text

namespace Response

/-! ### Blocks -/

/-- How lines end. -/
inductive LineEnd where
  | crlf
  | lf
  deriving DecidableEq, Repr

def LineEnd.chars : LineEnd → List Char
  | crlf => ['\r', '\n']
  | lf => ['\n']

/-- A line that is not empty, and whose end is where the line end starts. -/
structure IsHeaderLine (line : List Char) : Prop where
  ne_nil : line ≠ []
  noLineFeed : '\n' ∉ line
  noReturn : line.getLast? ≠ some '\r'

instance (line : List Char) : Decidable (IsHeaderLine line) :=
  decidable_of_iff (line ≠ [] ∧ '\n' ∉ line ∧ line.getLast? ≠ some '\r')
    ⟨fun ⟨h₁, h₂, h₃⟩ ↦ ⟨h₁, h₂, h₃⟩, fun h ↦ ⟨h.ne_nil, h.noLineFeed, h.noReturn⟩⟩

/-- Header lines with one kind of line end, the first of which names the protocol. -/
structure Block where
  lineEnd : LineEnd
  first : List Char
  others : List (List Char)
  isHeaderLine : ∀ line ∈ first :: others, IsHeaderLine line
  named : protocolMark <+: first

namespace Block

/-- The header lines. -/
def lines (b : Block) : List (List Char) := b.first :: b.others

/-- The lines with their ends, and the blank line behind them. -/
def text (b : Block) : List Char :=
  b.lines.flatMap (fun line ↦ line ++ b.lineEnd.chars) ++ b.lineEnd.chars

end Block

/-- Text that is white space throughout. -/
structure Gap where
  chars : List Char
  allBlank : chars.all Text.isBlank = true

theorem Gap.blank (gap : Gap) : ∀ c ∈ gap.chars, Text.isBlank c = true :=
  List.all_eq_true.1 gap.allBlank

/-- An interim response, and the white space behind it. -/
structure Interim extends Block where
  code : Nat
  hasCode : statusCodeOf first = some code
  inRange : 100 ≤ code ∧ code < 200
  gap : Gap

/-- Any number of interim responses, and the final one with its body. -/
structure Message where
  interim : List Interim
  last : Block
  before : Gap
  body : List Char
  after : Gap

/-- The text of interim responses, one behind the other. -/
def interimText (interim : List Interim) : List Char :=
  interim.flatMap fun i ↦ i.text ++ i.gap.chars

/-- The text of the body with the white space around it. -/
def Message.bodyText (m : Message) : List Char := m.before.chars ++ m.body ++ m.after.chars

/-- The whole text. -/
def Message.text (m : Message) : List Char :=
  interimText m.interim ++ (m.last.text ++ m.bodyText)

/-! ### The blank line behind a block -/

/-- What no blank line starts with belongs to the head. -/
theorem splitHead_cons {c : Char} {s : List Char} (hcrlf : ¬ ['\r', '\n', '\r', '\n'] <+: c :: s)
    (hlf : ¬ ['\n', '\n'] <+: c :: s) :
    splitHead (c :: s) = (splitHead s).map fun x ↦ (c :: x.1, x.2) := by
  rw [splitHead]
  · rintro rest rfl rfl
    exact hcrlf ⟨rest, rfl⟩
  · rintro rest rfl rfl
    exact hlf ⟨rest, rfl⟩

/-- No blank line starts within a line, unless it ends in a carriage return and another line end
follows its line feed. -/
theorem splitHead_append {l s : List Char} (hlf : '\n' ∉ l)
    (hcr : l.getLast? = some '\r' → ¬ ['\n', '\r', '\n'] <+: s) :
    splitHead (l ++ s) = (splitHead s).map fun x ↦ (l ++ x.1, x.2) := by
  induction l with
  | nil => simp
  | cons c l ih =>
    rw [List.mem_cons, not_or] at hlf
    have hcr' : l.getLast? = some '\r' → ¬ ['\n', '\r', '\n'] <+: s := by
      intro hlast
      exact hcr (by rw [List.getLast?_cons, hlast, Option.getD_some])
    rw [List.cons_append, splitHead_cons, ih hlf.2 hcr', Option.map_map]
    · rfl
    · rw [List.cons_prefix_cons]
      rintro ⟨rfl, hrest⟩
      -- the line goes on behind the carriage return, and not with a line feed
      cases l with
      | nil => exact hcr rfl hrest
      | cons d l =>
        rw [List.cons_append, List.cons_prefix_cons] at hrest
        exact hlf.2 (hrest.1 ▸ List.mem_cons_self)
    · rw [List.cons_prefix_cons]
      rintro ⟨heq, -⟩
      exact hlf.1 heq

theorem splitHead_line {l : List Char} (hl : IsHeaderLine l) (s : List Char) :
    splitHead (l ++ s) = (splitHead s).map fun x ↦ (l ++ x.1, x.2) :=
  splitHead_append hl.noLineFeed fun hlast ↦ absurd hlast hl.noReturn

/-- No blank line starts with the line end in front of a line. -/
theorem splitHead_lineEnd (e : LineEnd) {l : List Char} (hl : IsHeaderLine l) (s : List Char) :
    splitHead (e.chars ++ (l ++ s)) =
      (splitHead (l ++ s)).map fun x ↦ (e.chars ++ x.1, x.2) := by
  obtain ⟨c, l, rfl⟩ := List.exists_cons_of_ne_nil hl.ne_nil
  have hc : '\n' ≠ c := fun heq ↦ hl.noLineFeed (heq ▸ List.mem_cons_self)
  have hfeed : splitHead ('\n' :: c :: (l ++ s)) =
      (splitHead (c :: (l ++ s))).map fun x ↦ ('\n' :: x.1, x.2) := by
    apply splitHead_cons
    · rw [List.cons_prefix_cons]
      rintro ⟨heq, -⟩
      cases heq
    · rw [List.cons_prefix_cons, List.cons_prefix_cons]
      rintro ⟨-, heq, -⟩
      exact hc heq
  cases e with
  | lf => exact hfeed
  | crlf =>
    show splitHead ('\r' :: '\n' :: c :: (l ++ s)) = _
    rw [splitHead_cons, hfeed, Option.map_map]
    · rfl
    · simp only [List.cons_prefix_cons]
      rintro ⟨-, -, rfl, hrest⟩
      cases l with
      | nil => exact hl.noReturn rfl
      | cons d l =>
        rw [List.cons_append, List.cons_prefix_cons] at hrest
        exact hl.noLineFeed (hrest.1 ▸ List.mem_cons_of_mem _ List.mem_cons_self)
    · rw [List.cons_prefix_cons]
      rintro ⟨heq, -⟩
      cases heq

/-- The lines of a block with line ends in between. -/
def Block.head (b : Block) : List Char :=
  b.first ++ b.others.flatMap fun line ↦ b.lineEnd.chars ++ line

theorem splitHead_lineEnds (e : LineEnd) {lines : List (List Char)}
    (hlines : ∀ line ∈ lines, IsHeaderLine line) (s : List Char) :
    splitHead (e.chars ++ (lines.flatMap (fun line ↦ line ++ e.chars) ++ (e.chars ++ s))) =
      some (lines.flatMap fun line ↦ e.chars ++ line, s) := by
  induction lines with
  | nil => cases e <;> rfl
  | cons l ls ih =>
    have hl := hlines l List.mem_cons_self
    have hrest := ih fun line hline ↦ hlines line (List.mem_cons_of_mem l hline)
    simp only [List.flatMap_cons, List.append_assoc]
    rw [splitHead_lineEnd e hl, splitHead_line hl, hrest]
    rfl

/-- A block is cut from what follows it at the blank line that closes it. -/
theorem splitHead_text (b : Block) (s : List Char) :
    splitHead (b.text ++ s) = some (b.head, s) := by
  have hfirst := b.isHeaderLine b.first List.mem_cons_self
  have hothers := splitHead_lineEnds b.lineEnd
    (fun line hline ↦ b.isHeaderLine line (List.mem_cons_of_mem b.first hline)) s
  simp only [Block.text, Block.lines, List.flatMap_cons, List.append_assoc]
  rw [splitHead_line hfirst, hothers]
  rfl

theorem lines_append_lineEnd (e : LineEnd) {l : List Char} (hl : IsHeaderLine l) (s : List Char) :
    Text.lines (l ++ (e.chars ++ s)) = l :: Text.lines s := by
  cases e with
  | lf =>
    show Text.lines (l ++ '\n' :: s) = _
    rw [Text.lines_append_lineFeed hl.noLineFeed, Text.dropCarriageReturn, if_neg hl.noReturn]
  | crlf =>
    have hlf : '\n' ∉ l ++ ['\r'] := by
      rw [List.mem_append, List.mem_singleton]
      exact not_or.2 ⟨hl.noLineFeed, by decide⟩
    show Text.lines (l ++ '\r' :: '\n' :: s) = _
    rw [List.append_cons, Text.lines_append_lineFeed hlf, Text.dropCarriageReturn,
      if_pos List.getLast?_concat, List.dropLast_concat]

/-- The lines in front of the blank line are those of the block. -/
theorem headerLines_head (b : Block) : headerLines b.head = b.lines.map Text.trimEnd := by
  obtain ⟨e, first, others, hlines, hnamed⟩ := b
  simp only [headerLines, Block.head, Block.lines]
  congr 1
  clear hnamed
  induction others generalizing first with
  | nil =>
    have hfirst := hlines first List.mem_cons_self
    rw [List.flatMap_nil, List.append_nil, Text.lines_of_not_mem hfirst.noLineFeed hfirst.ne_nil]
  | cons l ls ih =>
    have hfirst := hlines first List.mem_cons_self
    rw [List.flatMap_cons, List.append_assoc, lines_append_lineEnd e hfirst,
      ih l fun line hline ↦ hlines line (List.mem_cons_of_mem first hline)]

/-! ### Status codes -/

theorem not_not_isBlank {c : Char} (hc : Text.isBlank c = true) : (!Text.isBlank c) = false := by
  rw [hc, Bool.not_true]

/-- White space behind a text adds nothing to its first word. -/
theorem firstWord_append_blank {w : List Char} (hw : ∀ c ∈ w, Text.isBlank c = true)
    (s : List Char) :
    (Text.trimStart (s ++ w)).takeWhile (fun c ↦ !Text.isBlank c) =
      (Text.trimStart s).takeWhile fun c ↦ !Text.isBlank c := by
  rcases Text.trimStart_append_blank hw s with h | ⟨hs, h⟩
  · rw [h, Text.takeWhile_append_blank (fun _ ↦ not_not_isBlank) hw]
  · rw [h, hs]

theorem statusCodeOf_append_blank {w : List Char} (hw : ∀ c ∈ w, Text.isBlank c = true)
    (s : List Char) : statusCodeOf (s ++ w) = statusCodeOf s := by
  simp only [statusCodeOf, firstWord_append_blank hw s]
  -- the code is the first word of what follows the version
  rcases Text.trimStart_append_blank hw s with h | ⟨hs, h⟩
  · rw [h, Text.dropWhile_append_blank (fun _ ↦ not_not_isBlank) hw, firstWord_append_blank hw]
  · rw [h, hs]

theorem statusCodeOf_trimEnd (line : List Char) :
    statusCodeOf (Text.trimEnd line) = statusCodeOf line := by
  obtain ⟨w, hline, hw⟩ := Text.trimEnd_append_rest line
  conv => rhs; rw [hline, statusCodeOf_append_blank hw]

/-- The header lines of an interim response are recognised. -/
theorem isInterim_headerLines (i : Interim) : isInterim (headerLines i.head) = true := by
  rw [headerLines_head, Block.lines, List.map_cons]
  simp only [isInterim, statusCodeOf_trimEnd, i.hasCode, Option.any_some, isInterimCode,
    Bool.and_eq_true, decide_eq_true_eq]
  exact i.inRange

/-! ### The final response -/

theorem final_of_interim {text head body : List Char} (hsplit : splitHead text = some (head, body))
    (hinterim : isInterim (headerLines head) = true)
    (hmark : protocolMark.isPrefixOf (Text.trimStart body) = true) :
    final text = final (Text.trimStart body) := by
  rw [final]
  split
  · next hnone => cases hnone.symm.trans hsplit
  · next head' body' hsome =>
    cases hsome.symm.trans hsplit
    simp only [hinterim, hmark, Bool.and_self, if_true]

theorem final_of_none {text : List Char} (hsplit : splitHead text = none) : final text = none := by
  rw [final]
  split
  · rfl
  · next head body hsome => cases hsome.symm.trans hsplit

theorem final_of_last {text head body : List Char} (hsplit : splitHead text = some (head, body))
    (hlast : isInterim (headerLines head) = true →
      protocolMark.isPrefixOf (Text.trimStart body) = false) :
    final text = some (headerLines head, body) := by
  rw [final]
  split
  · next hnone => cases hnone.symm.trans hsplit
  · next head' body' hsome =>
    cases hsome.symm.trans hsplit
    rw [if_neg]
    rw [Bool.and_eq_true]
    rintro ⟨hinterim, hmark⟩
    rw [hlast hinterim] at hmark
    cases hmark

/-- In front of a text that starts like a response, white space is dropped and no more. -/
theorem trimStart_gap_append (gap : Gap) {s : List Char} (hs : protocolMark <+: s) :
    Text.trimStart (gap.chars ++ s) = s := by
  obtain ⟨rest, rfl⟩ := hs
  rw [Text.trimStart_blank_append gap.blank]
  exact Text.trimStart_of_head rfl _

theorem Block.mark_text (b : Block) (s : List Char) : protocolMark <+: b.text ++ s := by
  simp only [Block.text, Block.lines, List.flatMap_cons, List.append_assoc]
  exact b.named.trans (List.prefix_append _ _)

/-- Interim responses are dropped in front of whatever starts like a response. -/
theorem final_interim (interim : List Interim) {s : List Char} (hs : protocolMark <+: s) :
    protocolMark <+: interimText interim ++ s ∧ final (interimText interim ++ s) = final s := by
  induction interim with
  | nil => exact ⟨hs, rfl⟩
  | cons i is ih =>
    obtain ⟨hmark, hfinal⟩ := ih
    have htext : interimText (i :: is) ++ s = i.text ++ (i.gap.chars ++ (interimText is ++ s)) := by
      simp only [interimText, List.flatMap_cons, List.append_assoc]
    have htrim := trimStart_gap_append i.gap hmark
    rw [htext]
    refine ⟨i.mark_text _, ?_⟩
    rw [final_of_interim (splitHead_text i.toBlock _) (isInterim_headerLines i), htrim, hfinal]
    rw [htrim, List.isPrefixOf_iff_prefix]
    exact hmark

/-! ### The body -/

/-- A text that has a value does not start like a response. -/
theorem not_mark_of_parseChars {s : List Char} {v : Json}
    (h : Json.parseChars (Text.trim s) = .ok v) :
    protocolMark.isPrefixOf (Text.trimStart s) = false := by
  rw [Bool.eq_false_iff, Ne, List.isPrefixOf_iff_prefix]
  rintro ⟨rest, hstart⟩
  obtain ⟨w, hsplit, hw⟩ := Text.trimEnd_append_rest (Text.trimStart s)
  rw [← Text.trim, ← hstart] at hsplit
  cases htrim : Text.trim s with
  | nil =>
    rw [htrim, List.nil_append] at hsplit
    cases hw 'H' (hsplit ▸ List.mem_cons_self)
  | cons c t =>
    rw [htrim] at hsplit
    obtain ⟨rfl, -⟩ := List.cons.inj hsplit
    obtain ⟨r, hread, -⟩ := Json.parseChars_eq_ok_iff.1 (htrim ▸ h)
    rw [Json.readValue] at hread
    cases hread

theorem Message.parseChars_bodyText (m : Message) {v : Json} (h : Json.parseChars m.body = .ok v) :
    Json.parseChars (Text.trim m.bodyText) = .ok v := by
  rw [bodyText, Text.trim_blank_append_blank m.before.blank m.after.blank]
  exact Json.parseChars_trim h

theorem Message.final_text (m : Message) {v : Json} (h : Json.parseChars m.body = .ok v) :
    final m.text = some (m.last.lines.map Text.trimEnd, m.bodyText) := by
  have hmark := not_mark_of_parseChars (m.parseChars_bodyText h)
  have hinterim := (final_interim m.interim (m.last.mark_text m.bodyText)).2
  have hlast := final_of_last (splitHead_text m.last m.bodyText) fun _ ↦ hmark
  rw [text, hinterim, hlast, headerLines_head]

/-- What a message was put together from is what is read from it: the header lines of the final
response and the value of the body. -/
theorem Message.parse_text (m : Message) (step : Step) {v : Json}
    (h : Json.parseChars m.body = .ok v) :
    parse step (String.ofList m.text) =
      .ok ⟨m.last.lines.map fun line ↦ String.ofList (Text.trimEnd line), v⟩ := by
  rw [parse_eq_ok_iff]
  refine ⟨m.last.lines.map Text.trimEnd, m.bodyText, v, ?_, m.parseChars_bodyText h, ?_⟩
  · rw [String.toList_ofList]
    exact m.final_text h
  · rw [List.map_map]
    rfl

/-- Two interim responses, a final one whose status code looks interim as well, white space of all
kinds in between, and a body with blank lines of both kinds and a status line in it. -/
def Message.specimen : Message where
  interim :=
    [{ lineEnd := .crlf, first := "HTTP/1.1 100 Continue".toList, others := []
       isHeaderLine := by decide, named := by decide
       code := 100, hasCode := by decide, inRange := by decide, gap := ⟨['\n'], rfl⟩ },
     { lineEnd := .lf, first := "HTTP/1.1 103".toList, others := ["a: b ".toList]
       isHeaderLine := by decide, named := by decide
       code := 103, hasCode := by decide, inRange := by decide, gap := ⟨[], rfl⟩ }]
  last :=
    { lineEnd := .crlf, first := "HTTP/1.1 150 Odd".toList, others := ["c: d \t".toList]
      isHeaderLine := by decide, named := by decide }
  before := ⟨['\n', ' '], rfl⟩
  body := "[\"HTTP/1.1 100 Continue\",\r\n\r\n\n\n1]".toList
  after := ⟨['\r', '\n', '\u2003'], rfl⟩

theorem Message.parse_specimen :
    parse .begin (String.ofList specimen.text) =
      .ok ⟨["HTTP/1.1 150 Odd", "c: d"],
        .arr [.str "HTTP/1.1 100 Continue", .num (.int 1)]⟩ := by
  have hbody : Json.parseChars specimen.body =
      .ok (.arr [.str "HTTP/1.1 100 Continue", .num (.int 1)]) := by rfl
  exact specimen.parse_text .begin hbody

end Response

end TransactionHarness
