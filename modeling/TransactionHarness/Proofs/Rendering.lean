import TransactionHarness.Proofs.Answer
import TransactionHarness.Proofs.Framing
/-!
# Responses that were rendered

A head that was read is written out again in front of the body, for the text of a response to be
read from there. That reading undoes the writing: every line of the head is found again, with the
status code in the first one, and so is the value of the body. It takes no more than that no line
ends within a name or a value.

* `Http.Header.IsLine`: fields that take one line.
* `Http.Head.block`: the head as it is rendered, line by line.
* `Http.Head.filter_grouped`, `Http.Head.grouped_of_together`: in which order fields are rendered.
* `Response.statusCodeOf_words`: the status code is the second word of a status line.
* `Http.Head.parse_response`: what is read from a response that was rendered.
-/

namespace TransactionHarness

open Text

/-! ### Status codes -/

/-- Digits are no white space. -/
theorem Text.isBlank_of_mem_toDigits {n : Nat} {c : Char} (hc : c ∈ Nat.toDigits 10 n) :
    isBlank c = false := by
  have hdigit := Nat.isDigit_of_mem_toDigits (by decide) (by decide) hc
  have hsome : (decimalDigit? c).isSome = true := by
    rw [decimalDigit?, if_pos]
    · rfl
    · simpa [Char.isDigit, Char.le_def] using hdigit
  exact isBlank_of_isDecimalDigit hsome

/-- The status code is the second word of a status line, whatever stands behind it. -/
theorem Response.statusCodeOf_words (version : List Char) {rest : List Char} {code : Nat}
    (hversion : version.all (!isBlank ·) = true) (hmark : protocolMark <+: version)
    (hcode : code ≤ max16) (hrest : rest.head?.all isBlank = true) :
    statusCodeOf (version ++ ' ' :: (Nat.toDigits 10 code ++ rest)) = some code := by
  have hwords : ∀ c ∈ version, (!isBlank c) = true := List.all_eq_true.1 hversion
  have hdigits : ∀ c ∈ Nat.toDigits 10 code, (!isBlank c) = true := fun c hc ↦ by
    rw [isBlank_of_mem_toDigits hc]
    rfl
  have hstart : trimStart (version ++ ' ' :: (Nat.toDigits 10 code ++ rest)) =
      version ++ ' ' :: (Nat.toDigits 10 code ++ rest) := by
    obtain ⟨name, rfl⟩ := hmark
    exact trimStart_of_head (by decide) _
  have hsecond : trimStart (' ' :: (Nat.toDigits 10 code ++ rest)) =
      Nat.toDigits 10 code ++ rest := by
    obtain ⟨c, cs, hcs⟩ := List.exists_cons_of_ne_nil (Nat.toDigits_ne_nil (n := code) (b := 10))
    have hc : isBlank c = false := isBlank_of_mem_toDigits (hcs ▸ List.mem_cons_self)
    rw [hcs]
    exact (trimStart_blank_append (w := [' ']) (List.all_eq_true.1 (by decide)) _).trans
      (trimStart_of_head hc _)
  have hend : rest.takeWhile (fun c ↦ !isBlank c) = [] := by
    rcases rest with - | ⟨c, rest⟩
    · rfl
    · have hblank : isBlank c = true := hrest
      simp [hblank]
  have hblank : (!isBlank ' ') = false := by decide
  simp only [statusCodeOf, hstart, List.takeWhile_append_of_pos hwords,
    List.dropWhile_append_of_pos hwords, List.takeWhile_cons, List.dropWhile_cons, hblank,
    Bool.false_eq_true, if_false, hsecond, List.takeWhile_append_of_pos hdigits, hend,
    List.append_nil, readUnsigned?_toDigits hcode]
  exact if_pos (List.isPrefixOf_iff_prefix.2 hmark)

theorem Response.isHeaderLine_of_not_mem {line : List Char} (hne : line ≠ [])
    (h : '\n' ∉ line ∧ '\r' ∉ line) : IsHeaderLine line where
  ne_nil := hne
  noLineFeed := h.1
  noReturn hlast := h.2 (List.mem_of_getLast? hlast)

/-- A status line is a header line that names the protocol. -/
theorem Response.isHeaderLine_words (version : List Char) {rest : List Char} (code : Nat)
    (hversion : version.all (!isBlank ·) = true) (hmark : protocolMark <+: version)
    (hrest : '\n' ∉ rest ∧ '\r' ∉ rest) :
    IsHeaderLine (version ++ ' ' :: (Nat.toDigits 10 code ++ rest)) ∧
      protocolMark <+: version ++ ' ' :: (Nat.toDigits 10 code ++ rest) := by
  have hword {c : Char} (hc : isBlank c = true) : c ∉ version := fun hmem ↦ by
    have hplain := List.all_eq_true.1 hversion c hmem
    rw [hc] at hplain
    exact Bool.false_ne_true hplain
  have hdigits {c : Char} (hc : isBlank c = true) : c ∉ Nat.toDigits 10 code := fun hmem ↦
    Bool.false_ne_true ((isBlank_of_mem_toDigits hmem).symm.trans hc)
  refine ⟨isHeaderLine_of_not_mem (by simp) ⟨?_, ?_⟩, hmark.trans (List.prefix_append _ _)⟩
  · simp [hword (c := '\n') (by decide), hdigits (c := '\n') (by decide), hrest.1]
  · simp [hword (c := '\r') (by decide), hdigits (c := '\r') (by decide), hrest.2]

namespace Http

/-! ### Lines -/

/-- A standard phrase has no line ends in it, and no white space at its end. -/
theorem reason_plain (status : Nat) :
    ('\n' ∉ (reason status).toList ∧ '\r' ∉ (reason status).toList) ∧
      ∃ front last, (reason status).toList = front ++ [last] ∧ isBlank last = false := by
  have hphrases : ∀ phrase ∈ "<unknown status code>" :: reasonPhrases.map Prod.snd,
      ('\n' ∉ phrase.toList ∧ '\r' ∉ phrase.toList) ∧
        phrase.toList.getLast?.any (!isBlank ·) = true := by decide +kernel
  have hmem : reason status ∈ "<unknown status code>" :: reasonPhrases.map Prod.snd := by
    unfold reason
    rcases h : reasonPhrases.lookup status with - | phrase
    · exact List.mem_cons_self
    · obtain ⟨_, _, hsplit, -⟩ := List.lookup_eq_some_iff.1 h
      refine List.mem_cons_of_mem _ (List.mem_map.2 ⟨(status, phrase), ?_, rfl⟩)
      exact hsplit ▸ List.mem_append_right _ List.mem_cons_self
  obtain ⟨hends, hlast⟩ := hphrases _ hmem
  obtain ⟨last, hsome, hblank⟩ := (Option.any_eq_true _ _).1 hlast
  obtain ⟨front, hfront⟩ := List.getLast?_eq_some_iff.1 hsome
  exact ⟨hends, front, last, hfront, by simpa using hblank⟩

/-- A field that takes one line: none ends within its name or its value. -/
structure Header.IsLine (header : Header) : Prop where
  name : '\n' ∉ header.name.toList ∧ '\r' ∉ header.name.toList
  value : lineFeed ∉ header.value ∧ carriageReturn ∉ header.value

theorem Header.toList_text (header : Header) : header.text.toList =
    header.name.toList ++ ':' :: ' ' :: Utf8.decodeLossy header.value := by
  simp [Header.text, String.toList_append]

/-- A field that takes one line is a header line, and has a colon. -/
theorem Header.IsLine.isHeaderLine {header : Header} (isLine : header.IsLine) :
    Response.IsHeaderLine header.text.toList ∧ ':' ∈ header.text.toList := by
  have hfeed : '\n' ∉ Utf8.decodeLossy header.value :=
    not_mem_decodeLossy (by decide) isLine.value.1
  have hreturn : '\r' ∉ Utf8.decodeLossy header.value :=
    not_mem_decodeLossy (by decide) isLine.value.2
  rw [Header.toList_text]
  refine ⟨Response.isHeaderLine_of_not_mem (by simp) ⟨?_, ?_⟩, by simp⟩
  · simp [isLine.name.1, hfeed]
  · simp [isLine.name.2, hreturn]

namespace Head

variable (head : Head)

theorem toList_statusLine : head.statusLine.toList = head.version.name.toList ++
    ' ' :: (Nat.toDigits 10 head.status ++ ' ' :: (reason head.status).toList) := by
  simp [statusLine, String.toList_append]

theorem name_plain (version : Version) :
    version.name.toList.all (!isBlank ·) = true ∧
      Response.protocolMark <+: version.name.toList := by
  rcases version <;> decide

theorem isHeaderLine_statusLine : Response.IsHeaderLine head.statusLine.toList ∧
    Response.protocolMark <+: head.statusLine.toList := by
  obtain ⟨hversion, hmark⟩ := name_plain head.version
  obtain ⟨⟨hfeed, hreturn⟩, -⟩ := reason_plain head.status
  rw [toList_statusLine]
  exact Response.isHeaderLine_words _ head.status hversion hmark (by simp [hfeed, hreturn])

theorem statusCodeOf_statusLine (hstatus : head.status ≤ max16) :
    Response.statusCodeOf head.statusLine.toList = some head.status := by
  obtain ⟨hversion, hmark⟩ := name_plain head.version
  rw [toList_statusLine]
  exact Response.statusCodeOf_words _ hversion hmark hstatus rfl

/-- There is no white space at the end of a status line. -/
theorem trimEnd_statusLine : trimEnd head.statusLine.toList = head.statusLine.toList := by
  obtain ⟨-, front, last, hreason, hlast⟩ := reason_plain head.status
  rw [toList_statusLine, hreason, ← List.cons_append, ← List.append_assoc, ← List.cons_append,
    ← List.append_assoc, trimEnd_of_last hlast]

/-! ### The order of fields -/

theorem mem_headers_of_grouped {header : Header} (h : header ∈ head.grouped) :
    header ∈ head.headers := by
  obtain ⟨_, -, hmem⟩ := List.mem_flatMap.1 h
  exact (List.mem_filter.1 hmem).1

/-- The fields with the name of the first one come first, then all others. -/
theorem grouped_cons (version : Version) (status : Nat) (first : Header) (rest : List Header) :
    grouped ⟨version, status, first :: rest⟩ =
      first :: (rest.filter (·.name = first.name) ++
        grouped ⟨version, status, rest.filter (·.name ≠ first.name)⟩) := by
  have hnames : names ⟨version, status, first :: rest⟩ =
      first.name :: names ⟨version, status, rest.filter (·.name ≠ first.name)⟩ := by
    have hdiffer : (fun name ↦ !name == first.name) ∘ Header.name =
        fun header ↦ decide (header.name ≠ first.name) := by
      funext header
      by_cases heq : header.name = first.name <;> simp [heq]
    simp only [names, List.map_cons, List.eraseDups_cons, List.filter_map, hdiffer]
  -- the name of the first field is not among the others
  have hothers : ∀ name ∈ names ⟨version, status, rest.filter (·.name ≠ first.name)⟩,
      (first :: rest).filter (·.name = name) =
        (rest.filter (·.name ≠ first.name)).filter (·.name = name) := by
    intro name hname
    obtain ⟨header, hmem, rfl⟩ := List.mem_map.1 (List.mem_eraseDups.1 hname)
    have hne : header.name ≠ first.name := by simpa using (List.mem_filter.1 hmem).2
    rw [List.filter_cons, if_neg (by simpa using hne.symm), List.filter_filter]
    refine List.filter_congr fun other _ ↦ ?_
    by_cases heq : other.name = header.name
    · simp [heq, hne]
    · simp [heq]
  simp only [grouped, hnames, List.flatMap_def, List.map_cons, List.flatten_cons]
  rw [List.map_congr_left hothers, List.filter_cons, if_pos (by simp), List.cons_append]

/-- Each field is rendered once, and those of one name are in the order in which they came. -/
theorem filter_grouped (name : String) :
    head.grouped.filter (·.name = name) = head.headers.filter (·.name = name) := by
  obtain ⟨version, status, headers⟩ := head
  induction hlength : headers.length using Nat.strongRecOn generalizing headers with
  | ind n ih =>
    rcases headers with - | ⟨first, rest⟩
    · rfl
    · have hshort : (rest.filter (·.name ≠ first.name)).length < n := by
        have hle := List.length_filter_le (·.name ≠ first.name) rest
        rw [List.length_cons] at hlength
        omega
      have hothers := ih _ hshort (rest.filter (·.name ≠ first.name)) rfl
      rw [grouped_cons, List.filter_cons, List.filter_append, hothers, List.filter_filter,
        List.filter_filter, List.filter_cons]
      by_cases hname : first.name = name
      · subst hname
        simp
      · have hsame : rest.filter (fun h ↦ decide (h.name = name) && decide (h.name = first.name)) =
            [] := by
          rw [List.filter_eq_nil_iff]
          rintro h - heq
          simp only [Bool.and_eq_true, decide_eq_true_eq] at heq
          exact hname (heq.2.symm.trans heq.1)
        simp only [hname, decide_false, Bool.false_eq_true, if_false, hsame, List.nil_append]
        refine List.filter_congr fun h _ ↦ ?_
        by_cases heq : h.name = name
        · simp [heq, Ne.symm hname]
        · simp [heq]

/-- Fields of one name stand together: the first ones have a name that no other field has, and so
on. -/
inductive Together : List Header → Prop
  | nil : Together []
  | run {first : Header} {same others : List Header} (named : ∀ h ∈ same, h.name = first.name)
      (renamed : ∀ h ∈ others, h.name ≠ first.name) (together : Together others) :
      Together (first :: (same ++ others))

/-- Fields that stand together already stay where they are. -/
theorem grouped_of_together (together : Together head.headers) : head.grouped = head.headers := by
  obtain ⟨version, status, headers⟩ := head
  simp only at together ⊢
  induction together with
  | nil => rfl
  | @run first same others named renamed _ ih =>
    have hsame : (same ++ others).filter (·.name = first.name) = same := by
      rw [List.filter_append, List.filter_eq_self.2 (by simpa using named),
        List.filter_eq_nil_iff.2 (by simpa using renamed), List.append_nil]
    have hothers : (same ++ others).filter (·.name ≠ first.name) = others := by
      rw [List.filter_append, List.filter_eq_nil_iff.2 (by simpa using named),
        List.filter_eq_self.2 (by simpa using renamed), List.nil_append]
    rw [grouped_cons, hsame, hothers, ih]

/-! ### What is read -/

/-- The lines of fields have colons, and do not end early. -/
theorem isHeaderLine_grouped (isLine : ∀ header ∈ head.headers, header.IsLine) :
    ∀ line ∈ head.grouped.map (·.text.toList),
      Response.IsHeaderLine line ∧ ':' ∈ line := by
  intro line hline
  obtain ⟨header, hmem, rfl⟩ := List.mem_map.1 hline
  exact (isLine header (head.mem_headers_of_grouped hmem)).isHeaderLine

/-- The head as it is rendered, line by line. -/
def block (isLine : ∀ header ∈ head.headers, header.IsLine) : Response.Block where
  lineEnd := .crlf
  first := head.statusLine.toList
  others := head.grouped.map (·.text.toList)
  isHeaderLine := List.forall_mem_cons.2 ⟨head.isHeaderLine_statusLine.1,
    fun line hline ↦ (head.isHeaderLine_grouped isLine line hline).1⟩
  named := head.isHeaderLine_statusLine.2

/-- The text of a response is that of its head and its body. -/
theorem toList_response (isLine : ∀ header ∈ head.headers, header.IsLine) (body : String) :
    (head.response body).toList = (head.block isLine).text ++ body.toList := by
  have hend : lineEnd.toList = ['\r', '\n'] := rfl
  simp [response, text, lines, block, Response.Block.text, Response.Block.lines,
    Response.LineEnd.chars, String.toList_join, List.flatMap_map, hend]

theorem parse_eq_ok (isLine : ∀ header ∈ head.headers, header.IsLine) (step : Step)
    {body : String} {v : Json} (hbody : Json.parseChars body.toList = .ok v) :
    Response.parse step (head.response body) = .ok ⟨head.statusLine ::
      head.grouped.map (fun header ↦ String.ofList (trimEnd header.text.toList)), v⟩ := by
  -- one response without interim ones, and no white space around its body
  let message : Response.Message :=
    ⟨[], head.block isLine, ⟨[], rfl⟩, body.toList, ⟨[], rfl⟩⟩
  have htext : (head.response body).toList = message.text := by
    rw [head.toList_response isLine]
    simp [message, Response.Message.text, Response.Message.bodyText, Response.interimText]
  have hfinal := message.final_text hbody
  refine Response.parse_eq_ok_iff.2 ⟨_, _, v, htext ▸ hfinal, message.parseChars_bodyText hbody, ?_⟩
  show _ = Response.mk (((head.block isLine).lines.map trimEnd).map String.ofList) v
  simp [block, Response.Block.lines, trimEnd_statusLine, String.ofList_toList]

/-- **Rendered responses.** If no line ends within the fields of a head, a response that was
rendered from it is read as what it was rendered from: a line for the status, which has the status
code, a line for each field, and the value of the body. The fields of one name stand together, and
are otherwise in their order. Over HTTP this text is what a request gives, for the head and the body
that come back. -/
theorem parse_response (isLine : ∀ header ∈ head.headers, header.IsLine)
    (hstatus : head.status ≤ max16) {body : String} {v : Json}
    (hbody : Json.parseChars body.toList = .ok v) (step : Step) :
    (∃ response, Response.parse step (head.response body) = .ok response ∧ response.body = v ∧
      response.headers = head.statusLine ::
        head.grouped.map (fun header ↦ String.ofList (trimEnd header.text.toList)) ∧
      response.statusCode? = some head.status) ∧
    (∀ name, head.grouped.filter (·.name = name) = head.headers.filter (·.name = name)) ∧
    (Together head.headers → head.grouped = head.headers) ∧
    ∀ {σ : Type} (server : Server σ) (timeout : Span) (boundary : String) (r : Request)
      (s s' : Site σ) (rest bytes : List UInt8),
      Site.send server timeout boundary r s = (.ok (head, rest), s') →
      Site.readBody head rest = .ok bytes → bodyText bytes = body →
      Site.execute server timeout boundary r s = (.ok (head.response body), s') := by
  refine ⟨⟨_, head.parse_eq_ok isLine step hbody, rfl, rfl, ?_⟩, head.filter_grouped,
    head.grouped_of_together, ?_⟩
  · exact head.statusCodeOf_statusLine hstatus
  · rintro σ server timeout boundary r s s' rest bytes hsend hread rfl
    simp only [Site.execute, hsend, hread]

/-- A status without a phrase of its own, fields of one name that do not stand together, an empty
value, and one with a byte that is no text. -/
def odd : Head := ⟨.v10, 299, [⟨"a", bytes "1"⟩, ⟨"b", []⟩, ⟨"a", [0xFF]⟩]⟩

/-- The head as a server writes it. -/
def oddBytes : List UInt8 :=
  bytes "HTTP/1.0 299 Odd\r\nA: 1\r\nb:\r\na: " ++ 0xFF :: bytes " \r\n\r\n"

/-- A body with a blank line in it. -/
def oddBody : String := "[1,\r\n\r\n2]"

theorem send_odd : Site.send (fun _ state ↦ (.answered (oddBytes ++ bytes oddBody), state)) ⟨60, 0⟩
    "b" (Request.get "http://h/odd") ⟨(), {}⟩ = (.ok (odd, bytes oddBody), ⟨(), {}⟩) := by
  have hsome : (Message.ofRequest "b" {} (Request.get "http://h/odd")).toOption.isSome = true := by
    decide +kernel
  obtain ⟨message, hsome⟩ := Option.isSome_iff_exists.1 hsome
  have hmessage := toOption_eq_some_iff.1 hsome
  have hread : readFinal? (oddBytes ++ bytes oddBody) = some (odd, bytes oddBody) := by
    decide +kernel
  have hframing : odd.framing?.isSome = true := by decide +kernel
  simp only [Site.send, hmessage, Site.readReaction, hread, hframing, if_true]

theorem parse_response_odd : ∃ text response,
    (Site.execute (fun _ state ↦ (.answered (oddBytes ++ bytes oddBody), state)) ⟨60, 0⟩ "b"
      (Request.get "http://h/odd") ⟨(), {}⟩).1 = .ok text ∧
    Response.parse .begin text = .ok response ∧
    response.body = .arr [.num (.int 1), .num (.int 2)] ∧
    response.headers = ["HTTP/1.0 299 <unknown status code>", "a: 1", "a: \uFFFD", "b:"] ∧
    response.statusCode? = some 299 := by
  have isLine : ∀ header ∈ odd.headers, header.IsLine := by
    refine List.forall_mem_cons.2 ⟨⟨by decide, by decide⟩, ?_⟩
    refine List.forall_mem_cons.2 ⟨⟨by decide, by decide⟩, ?_⟩
    exact List.forall_mem_singleton.2 ⟨by decide, by decide⟩
  have hbody : Json.parseChars oddBody.toList = .ok (.arr [.num (.int 1), .num (.int 2)]) := rfl
  obtain ⟨⟨response, hparse, hvalue, hheaders, hcode⟩, -, -, hexecute⟩ :=
    odd.parse_response isLine (by decide) hbody .begin
  refine ⟨odd.response oddBody, response, ?_, hparse, hvalue, ?_, hcode⟩
  · have hread : Site.readBody odd (bytes oddBody) = .ok (bytes oddBody) :=
      toOption_eq_some_iff.1 (by decide +kernel)
    rw [hexecute _ _ _ _ _ _ _ _ send_odd hread (by decide +kernel)]
  · rw [hheaders]
    decide +kernel

end Head

end Http

end TransactionHarness
