import Mathlib.Data.List.Basic
import TransactionHarness.Proofs.Framing
/-!
# The first blank line

A response has its header lines in front of its first blank line and its body behind it. Here lines
end in a line feed, with or without a carriage return in front of it, each line in its own way, and
a blank line is one with nothing in front of its end.

* `Text.closedLines`: the lines of a text, with the carriage returns of their ends.
* `Response.Cut`: a text cut at its first blank line.
* `Response.splitHead_of_cut`: a text is split there, unless a carriage return makes the end of the
  blank line longer than the one in front of it.
* `Response.splitHead_of_mixed`: there it goes on to be searched.
* `Response.parse_first_blank`: what is read from a text.
-/

namespace TransactionHarness

namespace Text

/-! ### Lines and their ends -/

/-- The lines of a text that end in a line feed, without it. The carriage return in front of the
line feed is still there. -/
def closedLines (s : List Char) : List (List Char) := (pieces '\n' s).dropLast

/-- Nothing is in the line in front of its end. -/
def IsBlankLine (line : List Char) : Prop := dropCarriageReturn line = []

/-- The text does not start with a blank line. -/
def StartsFilled (s : List Char) : Prop :=
  ∀ line, (closedLines s).head? = some line → ¬ IsBlankLine line

theorem isBlankLine_iff {line : List Char} : IsBlankLine line ↔ line = [] ∨ line = ['\r'] := by
  by_cases hlast : line.getLast? = some '\r'
  · obtain ⟨front, rfl⟩ := List.getLast?_eq_some_iff.1 hlast
    simp [IsBlankLine, dropCarriageReturn]
  · have hne : line ≠ ['\r'] := fun heq ↦ hlast (heq ▸ rfl)
    rw [IsBlankLine, dropCarriageReturn, if_neg hlast, or_iff_left hne]

theorem closedLines_of_not_mem {s : List Char} (h : '\n' ∉ s) : closedLines s = [] := by
  rw [closedLines, pieces_of_not_mem h, List.dropLast_singleton]

theorem closedLines_append_cons {l : List Char} (h : '\n' ∉ l) (s : List Char) :
    closedLines (l ++ '\n' :: s) = l :: closedLines s := by
  rw [closedLines, closedLines, pieces_append_cons, pieces_of_not_mem h, List.singleton_append,
    List.dropLast_cons_of_ne_nil (pieces_ne_nil '\n' s)]

theorem closedLines_flatMap {lines : List (List Char)} (h : ∀ line ∈ lines, '\n' ∉ line)
    (s : List Char) : closedLines (lines.flatMap (· ++ ['\n']) ++ s) = lines ++ closedLines s := by
  induction lines with
  | nil => rfl
  | cons l lines ih =>
    obtain ⟨hl, hlines⟩ := List.forall_mem_cons.1 h
    rw [List.flatMap_cons, List.append_assoc, List.append_assoc, List.singleton_append,
      closedLines_append_cons hl, ih hlines, List.cons_append]

/-- A text is a rest without line feeds, behind any number of lines. -/
@[elab_as_elim]
theorem lines_induction {motive : List Char → Prop} (rest : ∀ s, '\n' ∉ s → motive s)
    (line : ∀ l s, '\n' ∉ l → motive s → motive (l ++ '\n' :: s)) (s : List Char) : motive s := by
  by_cases hmem : '\n' ∈ s
  · obtain ⟨l, t, hs, hl⟩ := List.eq_append_cons_of_mem hmem
    have hshort : t.length < s.length := by
      rw [hs, List.length_append, List.length_cons]
      omega
    rw [hs]
    exact line l t hl (lines_induction rest line t)
  · exact rest s hmem
termination_by s.length

/-- A carriage return is white space. -/
theorem trimEnd_append_return (line : List Char) : trimEnd (line ++ ['\r']) = trimEnd line :=
  trimEnd_append_blank (List.forall_mem_singleton.2 rfl) line

theorem trimEnd_dropCarriageReturn (line : List Char) :
    trimEnd (dropCarriageReturn line) = trimEnd line := by
  unfold dropCarriageReturn
  split
  · next hlast =>
    obtain ⟨front, rfl⟩ := List.getLast?_eq_some_iff.1 hlast
    rw [List.dropLast_concat, trimEnd_append_return]
  · rfl

end Text

namespace Response

open Text

/-! ### Cutting at the first blank line -/

/-- The text is cut at its first blank line: something is in each of the lines in front of it, and
the rest of the text is behind it. -/
structure Cut (text : List Char) (front : List (List Char)) (blank rest : List Char) : Prop where
  text_eq : text = front.flatMap (· ++ ['\n']) ++ (blank ++ '\n' :: rest)
  noLineFeed : ∀ line ∈ front, '\n' ∉ line
  filled : ∀ line ∈ front, ¬ IsBlankLine line
  blankLine : IsBlankLine blank

/-- A text with a blank line has a first one. -/
theorem exists_cut {text : List Char} (h : ∃ line ∈ closedLines text, IsBlankLine line) :
    ∃ front blank rest, Cut text front blank rest := by
  induction text using lines_induction with
  | rest s hs =>
    obtain ⟨line, hmem, -⟩ := h
    rw [closedLines_of_not_mem hs] at hmem
    cases hmem
  | line l s hl ih =>
    by_cases hblank : IsBlankLine l
    · exact ⟨[], l, s, rfl, by simp, by simp, hblank⟩
    · rw [closedLines_append_cons hl] at h
      have hlater : ∃ line ∈ closedLines s, IsBlankLine line := by simpa [hblank] using h
      obtain ⟨front, blank, rest, hcut⟩ := ih hlater
      refine ⟨l :: front, blank, rest, ?_, ?_, ?_, hcut.blankLine⟩
      · rw [hcut.text_eq]
        simp
      · exact List.forall_mem_cons.2 ⟨hl, hcut.noLineFeed⟩
      · exact List.forall_mem_cons.2 ⟨hblank, hcut.filled⟩

/-! ### Searching for a blank line -/

/-- A line belongs to the head if the next one is not blank. -/
theorem splitHead_append_cons {l s : List Char} (hl : '\n' ∉ l) (hs : StartsFilled s) :
    splitHead (l ++ '\n' :: s) = (splitHead s).map fun x ↦ (l ++ '\n' :: x.1, x.2) := by
  have hlf : ¬ ['\n'] <+: s := by
    rintro ⟨t, rfl⟩
    have hfirst : (closedLines ([] ++ '\n' :: t)).head? = some [] := by
      rw [closedLines_append_cons List.not_mem_nil, List.head?_cons]
    exact hs [] hfirst (isBlankLine_iff.2 (.inl rfl))
  have hcrlf : ¬ ['\r', '\n'] <+: s := by
    rintro ⟨t, rfl⟩
    have hfirst : (closedLines (['\r'] ++ '\n' :: t)).head? = some ['\r'] := by
      rw [closedLines_append_cons (by decide), List.head?_cons]
    exact hs ['\r'] hfirst (isBlankLine_iff.2 (.inr rfl))
  have hfeed : splitHead ('\n' :: s) = (splitHead s).map fun x ↦ ('\n' :: x.1, x.2) := by
    refine splitHead_cons (by simp) fun hprefix ↦ hlf ?_
    exact (List.cons_prefix_cons.1 hprefix).2
  rw [splitHead_append hl, hfeed, Option.map_map]
  · rfl
  · intro _ hprefix
    exact hcrlf (List.cons_prefix_cons.1 hprefix).2

/-- Nothing is cut from a text without blank lines. -/
theorem splitHead_eq_none {s : List Char} (h : ∀ line ∈ closedLines s, ¬ IsBlankLine line) :
    splitHead s = none := by
  induction s using lines_induction with
  | rest s hs =>
    have happend := splitHead_append (s := []) hs (by simp)
    rwa [List.append_nil] at happend
  | line l s hl ih =>
    rw [closedLines_append_cons hl] at h
    obtain ⟨-, hlater⟩ := List.forall_mem_cons.1 h
    have hs : StartsFilled s := fun line hfirst ↦ hlater line (List.mem_of_head? hfirst)
    rw [splitHead_append_cons hl hs, ih hlater]
    rfl

/-- Lines that are not blank belong to the head, up to the last one of them. -/
theorem splitHead_lines {front : List (List Char)} {last : List Char} (tail : List Char)
    (noLineFeed : ∀ line ∈ front ++ [last], '\n' ∉ line)
    (filled : ∀ line ∈ front ++ [last], ¬ IsBlankLine line) :
    splitHead (front.flatMap (· ++ ['\n']) ++ (last ++ '\n' :: tail)) =
      (splitHead (last ++ '\n' :: tail)).map fun x ↦
        (front.flatMap (· ++ ['\n']) ++ x.1, x.2) := by
  induction front with
  | nil => simp
  | cons l front ih =>
    obtain ⟨hl, hlines⟩ := List.forall_mem_cons.1 noLineFeed
    obtain ⟨-, hfilled⟩ := List.forall_mem_cons.1 filled
    have hs : StartsFilled (front.flatMap (· ++ ['\n']) ++ (last ++ '\n' :: tail)) := by
      have hclosed : closedLines (front.flatMap (· ++ ['\n']) ++ (last ++ '\n' :: tail)) =
          front ++ [last] ++ closedLines tail := by
        rw [closedLines_flatMap (List.forall_mem_append.1 hlines).1,
          closedLines_append_cons (hlines last (by simp)), List.append_cons]
      intro line hfirst
      rw [hclosed, List.head?_append_of_ne_nil _ (by simp)] at hfirst
      exact hfilled line (List.mem_of_head? hfirst)
    rw [List.flatMap_cons, List.append_assoc, List.append_assoc, List.singleton_append,
      splitHead_append_cons hl hs, ih hlines hfilled, Option.map_map]
    congr 1
    funext x
    simp

section Cut

variable {text : List Char} {front : List (List Char)} {last blank rest : List Char}

/-- If the first line is not blank, there is a line in front of the first blank one. -/
theorem Cut.ne_nil {lines : List (List Char)} (cut : Cut text lines blank rest)
    (starts : StartsFilled text) : lines ≠ [] := by
  rintro rfl
  have hblank : '\n' ∉ blank := by
    rcases isBlankLine_iff.1 cut.blankLine with rfl | rfl <;> decide
  have hfirst : (closedLines text).head? = some blank := by
    rw [cut.text_eq, List.flatMap_nil, List.nil_append, closedLines_append_cons hblank,
      List.head?_cons]
  exact starts blank hfirst cut.blankLine

/-- Up to the last line in front of the first blank one, all belongs to the head. -/
theorem Cut.splitHead_eq (cut : Cut text (front ++ [last]) blank rest) :
    splitHead text = (splitHead (last ++ '\n' :: (blank ++ '\n' :: rest))).map fun x ↦
      (front.flatMap (· ++ ['\n']) ++ x.1, x.2) := by
  rw [← splitHead_lines _ cut.noLineFeed cut.filled, cut.text_eq]
  simp

theorem headerLines_lines (noLineFeed : ∀ line ∈ front ++ [last], '\n' ∉ line)
    (hlast : last ≠ []) :
    headerLines (front.flatMap (· ++ ['\n']) ++ last) = (front ++ [last]).map trimEnd := by
  induction front with
  | nil =>
    rw [List.flatMap_nil, List.nil_append, headerLines, lines_of_not_mem (by simpa using noLineFeed)
      hlast, List.nil_append]
  | cons l front ih =>
    obtain ⟨hl, hlines⟩ := List.forall_mem_cons.1 noLineFeed
    rw [headerLines] at ih ⊢
    rw [List.flatMap_cons, List.append_assoc, List.append_assoc, List.singleton_append,
      lines_append_lineFeed hl, List.map_cons, trimEnd_dropCarriageReturn, ih hlines]
    rfl

/-- The text is split at the first blank line, if there is a carriage return in front of it or none
in it. -/
theorem Cut.exists_head (cut : Cut text (front ++ [last]) blank rest)
    (even : blank = ['\r'] → last.getLast? = some '\r') :
    ∃ head, splitHead text = some (head, rest) ∧
      headerLines head = (front ++ [last]).map trimEnd := by
  have hlast : '\n' ∉ last := cut.noLineFeed last (by simp)
  have hfilled : ¬ IsBlankLine last := cut.filled last (by simp)
  rw [cut.splitHead_eq]
  rcases isBlankLine_iff.1 cut.blankLine with rfl | rfl
  · -- two line feeds: a carriage return of the last line stays in the head
    have hblank : splitHead ('\n' :: '\n' :: rest) = some ([], rest) := by simp [splitHead]
    refine ⟨front.flatMap (· ++ ['\n']) ++ last, ?_, headerLines_lines cut.noLineFeed ?_⟩
    · rw [List.nil_append, splitHead_append hlast (by simp), hblank]
      simp
    · exact fun hnil ↦ hfilled (isBlankLine_iff.2 (.inl hnil))
  · -- the carriage return of the last line belongs to the blank line
    obtain ⟨front', rfl⟩ := List.getLast?_eq_some_iff.1 (even rfl)
    have hfront : '\n' ∉ front' := fun hmem ↦ hlast (List.mem_append_left _ hmem)
    have hblank : splitHead ('\r' :: '\n' :: '\r' :: '\n' :: rest) = some ([], rest) := by
      simp [splitHead]
    have hnoLineFeed : ∀ line ∈ front ++ [front'], '\n' ∉ line := by
      rw [List.forall_mem_append, List.forall_mem_singleton]
      exact ⟨(List.forall_mem_append.1 cut.noLineFeed).1, hfront⟩
    refine ⟨front.flatMap (· ++ ['\n']) ++ front', ?_, ?_⟩
    · rw [List.append_assoc, splitHead_append hfront (by simp)]
      simp [hblank]
    · have hne : front' ≠ [] := fun hnil ↦ hfilled (isBlankLine_iff.2 (.inr (by rw [hnil]; rfl)))
      rw [headerLines_lines hnoLineFeed hne]
      simp [trimEnd_append_return]

/-- The first blank line is taken for a part of the head if there is a carriage return in it and
none in front of it. -/
theorem Cut.splitHead_of_mixed (cut : Cut text (front ++ [last]) ['\r'] rest)
    (mixed : last.getLast? ≠ some '\r') :
    splitHead text = (splitHead ('\r' :: '\n' :: rest)).map fun x ↦
      ((front ++ [last]).flatMap (· ++ ['\n']) ++ x.1, x.2) := by
  have hlast : '\n' ∉ last := cut.noLineFeed last (by simp)
  have hfeed : splitHead ('\n' :: '\r' :: '\n' :: rest) =
      (splitHead ('\r' :: '\n' :: rest)).map fun x ↦ ('\n' :: x.1, x.2) :=
    splitHead_cons (by simp) (by simp)
  rw [cut.splitHead_eq, splitHead_append hlast fun hreturn ↦ absurd hreturn mixed,
    List.singleton_append, hfeed, Option.map_map, Option.map_map]
  congr 1
  funext x
  simp

end Cut

/-! ### Reading -/

/-- What is read from header lines and the text of a body: only the body decides. -/
def ofParts (step : Step) (headers : List (List Char)) (body : List Char) :
    Except Error Response :=
  match Json.parseChars (trim body) with
  | .ok v => .ok ⟨headers.map String.ofList, v⟩
  | .error fault =>
    let reason :=
      if (trim body).isEmpty then Fault.emptyBody
      else .notJson (fault.message (trim body)) (trim body)
    .error (.malformedResponse step reason.reason)

theorem ofParts_of_json {step : Step} {headers : List (List Char)} {body : List Char} {v : Json}
    (h : Json.parseChars (trim body) = .ok v) :
    ofParts step headers body = .ok ⟨headers.map String.ofList, v⟩ := by
  rw [ofParts, h]

theorem parse_of_final {step : Step} {text : String} {headers : List (List Char)}
    {body : List Char} (h : final text.toList = some (headers, body)) :
    parse step text = ofParts step headers body := by
  rw [parse, read, h, ofParts]
  rcases hbody : trim body with - | ⟨c, cs⟩
  · simp only [hbody]
    rfl
  · simp only [hbody]
    rcases Json.parseChars (c :: cs) <;> rfl

/-- **The first blank line.** In a text that does not start with a blank line, the lines in front of
the first blank one are the header lines, and what is behind it is the body, unless they are those
of an interim response with another response behind it. Without a blank line nothing is read. There
is one exception: a blank line that ends in a carriage return and a line feed is missed behind a
line that ends in a line feed alone, and the search goes on there. -/
theorem parse_first_blank (step : Step) {text : String} (starts : StartsFilled text.toList) :
    ((∀ line ∈ closedLines text.toList, ¬ IsBlankLine line) →
      parse step text = .error (.malformedResponse step Fault.noBlankLine.reason)) ∧
    ((∃ line ∈ closedLines text.toList, IsBlankLine line) →
      ∃ front last blank rest, Cut text.toList (front ++ [last]) blank rest) ∧
    ∀ front last blank rest, Cut text.toList (front ++ [last]) blank rest →
      ((blank = ['\r'] → last.getLast? = some '\r') →
        (isInterim ((front ++ [last]).map trimEnd) = true → ¬ protocolMark <+: trimStart rest) →
        parse step text = ofParts step ((front ++ [last]).map trimEnd) rest) ∧
      (blank = ['\r'] → last.getLast? ≠ some '\r' →
        splitHead text.toList = (splitHead ('\r' :: '\n' :: rest)).map fun x ↦
          ((front ++ [last]).flatMap (· ++ ['\n']) ++ x.1, x.2)) := by
  refine ⟨fun hnone ↦ ?_, fun hsome ↦ ?_,
    fun front last blank rest cut ↦ ⟨fun even behind ↦ ?_, ?_⟩⟩
  · have hfinal := final_of_none (splitHead_eq_none hnone)
    rw [parse, read, hfinal]
  · obtain ⟨lines, blank, rest, hcut⟩ := exists_cut hsome
    obtain ⟨front, last, rfl⟩ := (List.eq_nil_or_concat' lines).resolve_left (hcut.ne_nil starts)
    exact ⟨front, last, blank, rest, hcut⟩
  · obtain ⟨head, hsplit, hheaders⟩ := cut.exists_head even
    have hmark : isInterim (headerLines head) = true →
        protocolMark.isPrefixOf (trimStart rest) = false := by
      intro hinterim
      rw [Bool.eq_false_iff, Ne, List.isPrefixOf_iff_prefix]
      exact behind (hheaders ▸ hinterim)
    rw [parse_of_final (final_of_last hsplit hmark), hheaders]
  · rintro rfl mixed
    exact cut.splitHead_of_mixed mixed

/-- Line ends of both kinds, and more blank lines in the body. -/
theorem parse_first_blank_both :
    parse .begin "HTTP/1.1 200 OK\r\nA: b\n\n[1,\r\n\r\n2]" =
      .ok ⟨["HTTP/1.1 200 OK", "A: b"], .arr [.num (.int 1), .num (.int 2)]⟩ := by
  have hcut : Cut "HTTP/1.1 200 OK\r\nA: b\n\n[1,\r\n\r\n2]".toList
      (["HTTP/1.1 200 OK\r".toList] ++ ["A: b".toList]) [] "[1,\r\n\r\n2]".toList := by
    refine ⟨by decide, by decide, ?_, rfl⟩
    simp only [isBlankLine_iff]
    decide
  have hstarts : StartsFilled "HTTP/1.1 200 OK\r\nA: b\n\n[1,\r\n\r\n2]".toList := by
    intro line hfirst
    rw [hcut.text_eq, closedLines_flatMap hcut.noLineFeed] at hfirst
    cases hfirst
    exact hcut.filled _ (by simp)
  have hbody : Json.parseChars (trim "[1,\r\n\r\n2]".toList) =
      .ok (.arr [.num (.int 1), .num (.int 2)]) := rfl
  rw [((parse_first_blank .begin hstarts).2.2 _ _ _ _ hcut).1 nofun (by decide),
    ofParts_of_json hbody]
  rfl

/-- A blank line is missed: nothing is read, although there is one with a body behind it. -/
theorem parse_missed_blank :
    Cut "HTTP/1.1 200 OK\n\r\n\x7b\x7d".toList ["HTTP/1.1 200 OK".toList] ['\r']
      "\x7b\x7d".toList ∧
    ofParts .begin ["HTTP/1.1 200 OK".toList] "\x7b\x7d".toList =
      .ok ⟨["HTTP/1.1 200 OK"], .obj []⟩ ∧
    parse .begin "HTTP/1.1 200 OK\n\r\n\x7b\x7d" =
      .error (.malformedResponse .begin "no blank line between headers and body") := by
  refine ⟨⟨by decide, by decide, ?_, rfl⟩, ?_, ?_⟩
  · simp only [isBlankLine_iff]
    decide
  · exact ofParts_of_json rfl
  · have hfinal : final "HTTP/1.1 200 OK\n\r\n\x7b\x7d".toList = none := final_of_none (by decide)
    rw [parse, read, hfinal]
    rfl

end Response

end TransactionHarness
