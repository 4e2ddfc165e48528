import TransactionHarness.Curl.Machine
import TransactionHarness.Proofs.Matching
import TransactionHarness.Proofs.Rendering
/-!
# One answer, two senders

A request goes to a server over HTTP, or by a program that shows what the server answers. The same
answer becomes two texts: the head that is rendered from what was read, and the bytes as they came.

* `Answer.rendered`, `Answer.verbatim`: the heads of the two texts as blocks.
* `Contract.judge`: what becomes of a text that is read and held against a contract.
* `Contract.judge_block_iff`: of the head, only the first line matters.
* `Answer.judge_execute`: the two senders lead to the same body, unless the status is that of
  success and the server has put another reason phrase behind it. The rendered head has the standard
  one there.
-/

namespace TransactionHarness

open Text

/-! ### Verdicts -/

/-- What becomes of a text that is read and held against a contract: the body. -/
def Contract.judge (contract : Contract) (text : String) : Except Error Json := do
  let response ← Response.parse contract.step text
  contract.verify response.headers response.body
  return response.body

namespace Response

/-- Behind a status code that is not interim, the text belongs to the body. -/
theorem final_of_code (b : Block) {code : Nat} (hcode : statusCodeOf b.first = some code)
    (hlow : 200 ≤ code) (body : List Char) :
    final (b.text ++ body) = some (b.lines.map trimEnd, body) := by
  have hinterim : isInterim (headerLines b.head) = false := by
    have hrange : isInterimCode code = false := by
      simp [isInterimCode, Nat.not_lt.2 hlow]
    rw [headerLines_head, Block.lines, List.map_cons]
    simp only [isInterim, statusCodeOf_trimEnd, hcode, Option.any_some, hrange]
  have hlast : isInterim (headerLines b.head) = true →
      protocolMark.isPrefixOf (trimStart body) = false := by
    rw [hinterim]
    exact fun h ↦ absurd h Bool.false_ne_true
  rw [final_of_last (splitHead_text b body) hlast, headerLines_head]

/-- A colon is no white space. -/
theorem mem_trimEnd_of_colon {line : List Char} (h : ':' ∈ line) : ':' ∈ trimEnd line := by
  obtain ⟨w, hline, hw⟩ := trimEnd_append_rest line
  rw [hline, List.mem_append] at h
  exact h.resolve_right fun hmem ↦ absurd (hw _ hmem) (by decide)

end Response

namespace Contract

/-- The status line of success is not among lines that have a colon. -/
theorem okStatusLine_mem_iff (b : Response.Block) (colons : ∀ line ∈ b.others, ':' ∈ line) :
    okStatusLine ∈ (b.lines.map trimEnd).map String.ofList ↔
      String.ofList (trimEnd b.first) = okStatusLine := by
  simp only [Response.Block.lines, List.map_cons, List.mem_cons, eq_comm (a := okStatusLine)]
  refine or_iff_left fun hmem ↦ ?_
  obtain ⟨trimmed, hmem, heq⟩ := List.mem_map.1 hmem
  obtain ⟨line, hline, rfl⟩ := List.mem_map.1 hmem
  have hcolon : ':' ∈ okStatusLine.toList := by
    rw [← heq, String.toList_ofList]
    exact Response.mem_trimEnd_of_colon (colons line hline)
  exact absurd hcolon (by decide)

/-- Of the head, only the first line matters, if all others have a colon. -/
theorem judge_block_iff (b : Response.Block) {code : Nat}
    (hcode : Response.statusCodeOf b.first = some code) (hlow : 200 ≤ code)
    (colons : ∀ line ∈ b.others, ':' ∈ line) (body : List Char) (step : Step) (expect : Expect)
    (v : Json) :
    (ok step expect).judge (String.ofList (b.text ++ body)) = .ok v ↔
      String.ofList (trimEnd b.first) = okStatusLine ∧
        Json.parseChars (trim body) = .ok v ∧ expect.Matches v := by
  have hfinal := Response.final_of_code b hcode hlow body
  have hverify (w : Json) :
      (ok step expect).verify ((b.lines.map trimEnd).map String.ofList) w = .ok () ↔
        String.ofList (trimEnd b.first) = okStatusLine ∧ expect.Matches w := by
    rw [verify_eq_ok_iff, ← okStatusLine_mem_iff b colons]
    simp [ok, and_comm]
  constructor
  · intro h
    obtain ⟨response, hparse, h⟩ := bind_eq_ok_iff.1 h
    obtain ⟨⟨⟩, hverified, hbody⟩ := bind_eq_ok_iff.1 h
    obtain ⟨headers, text, w, htext, hjson, rfl⟩ := Response.parse_eq_ok_iff.1 hparse
    rw [String.toList_ofList, hfinal] at htext
    cases htext
    cases hbody
    obtain ⟨hline, hmatches⟩ := (hverify w).1 hverified
    exact ⟨hline, hjson, hmatches⟩
  · rintro ⟨hline, hjson, hmatches⟩
    have hparse : Response.parse step (String.ofList (b.text ++ body)) =
        .ok ⟨(b.lines.map trimEnd).map String.ofList, v⟩ :=
      Response.parse_eq_ok_iff.2 ⟨_, body, v, by rw [String.toList_ofList, hfinal], hjson, rfl⟩
    exact bind_eq_ok_iff.2 ⟨_, hparse, bind_eq_ok_iff.2 ⟨(), (hverify v).2 ⟨hline, hmatches⟩, rfl⟩⟩

end Contract

/-! ### Lines of heads -/

namespace Http

/-- What is left of a value stood in it before. -/
theorem mem_of_mem_strip {bs : List UInt8} {b : UInt8} (h : b ∈ strip bs) : b ∈ bs := by
  rw [strip, List.mem_reverse] at h
  exact (List.dropWhile_suffix _).subset
    (List.mem_reverse.1 ((List.dropWhile_suffix _).subset h))

/-- A field that is read takes one line. -/
theorem Field.isLine (field : Field) : field.header.IsLine := by
  obtain ⟨name, value, -, -, hname, hvalue, hheader⟩ := Header.exists_of_read? field.isRead
  have hstripped : (strip value).all isPlain = true :=
    List.all_eq_true.2 fun b hb ↦ List.all_eq_true.1 hvalue b (mem_of_mem_strip hb)
  have hshown {c : Char} (hc : c = '\n' ∨ c = '\r')
      (h : c ∈ name.map fun b ↦ Char.ofNat (toSmall b).toNat) : False := by
    obtain ⟨b, hb, rfl⟩ := List.mem_map.1 h
    obtain ⟨-, hfeed, hreturn⟩ := of_isNameByte (List.all_eq_true.1 hname b hb)
    exact hc.elim hfeed hreturn
  rw [hheader]
  refine ⟨?_, not_mem_of_isPlain hstripped⟩
  rw [String.toList_ofList]
  exact ⟨hshown (.inl rfl), hshown (.inr rfl)⟩

/-- A field as it came is a line with a colon. -/
theorem Field.isHeaderLine_line (field : Field) :
    Response.IsHeaderLine (Utf8.decodeLossy field.line) ∧
      ':' ∈ Utf8.decodeLossy field.line := by
  obtain ⟨name, value, hline, -⟩ := Header.exists_of_read? field.isRead
  have hcolon : ':' ∈ Utf8.decodeLossy field.line := by
    rw [hline, Utf8.decodeLossy_append_cons _ (by decide)]
    exact List.mem_append_right _ List.mem_cons_self
  exact ⟨Response.isHeaderLine_of_not_mem (List.ne_nil_of_mem hcolon)
    (not_mem_decodeLossy_of_isPlain field.plain.2), hcolon⟩

namespace Answer

variable (a : Answer)

/-! ### Two heads -/

theorem statusLine_verbatim : Utf8.decodeLossy a.statusLine =
    statusMark ++ (a.code ++ Utf8.decodeLossy a.tail) := by
  rw [statusLine, Utf8.decodeLossy_encode_append, List.append_assoc]

theorem isHeaderLine_verbatim : Response.IsHeaderLine (Utf8.decodeLossy a.statusLine) ∧
    Response.protocolMark <+: Utf8.decodeLossy a.statusLine := by
  rw [statusLine_verbatim]
  exact Response.isHeaderLine_words "HTTP/1.1".toList a.status (by decide) (by decide)
    (not_mem_decodeLossy_of_isPlain a.isTail.2)

/-- What is read takes one line for each field. -/
theorem isLine_headers : ∀ header ∈ a.head.headers, header.IsLine := by
  intro header hmem
  obtain ⟨field, -, rfl⟩ := List.mem_map.1 hmem
  exact field.isLine

/-- The lines of fields have colons, and do not end early, as they came. -/
theorem isHeaderLine_fields :
    ∀ line ∈ a.fields.map (Utf8.decodeLossy ·.line), Response.IsHeaderLine line ∧ ':' ∈ line := by
  intro line hline
  obtain ⟨field, -, rfl⟩ := List.mem_map.1 hline
  exact field.isHeaderLine_line

/-- The head as it is rendered. -/
def rendered : Response.Block where
  lineEnd := .crlf
  first := a.head.statusLine.toList
  others := a.head.grouped.map (·.text.toList)
  isHeaderLine := List.forall_mem_cons.2
    ⟨a.head.isHeaderLine_statusLine.1,
      fun line hline ↦ (a.head.isHeaderLine_grouped a.isLine_headers line hline).1⟩
  named := a.head.isHeaderLine_statusLine.2

/-- The head as it came. -/
def verbatim : Response.Block where
  lineEnd := .crlf
  first := Utf8.decodeLossy a.statusLine
  others := a.fields.map (Utf8.decodeLossy ·.line)
  isHeaderLine := List.forall_mem_cons.2
    ⟨a.isHeaderLine_verbatim.1, fun line hline ↦ (a.isHeaderLine_fields line hline).1⟩
  named := a.isHeaderLine_verbatim.2

/-! ### Two texts -/

/-- A line is read up to its end. -/
theorem decodeLossy_crlf_append (line rest : List UInt8) :
    Utf8.decodeLossy (line ++ (crlf ++ rest)) =
      Utf8.decodeLossy line ++ '\r' :: '\n' :: Utf8.decodeLossy rest := by
  show Utf8.decodeLossy (line ++ carriageReturn :: lineFeed :: rest) = _
  rw [Utf8.decodeLossy_append_cons _ (by decide), Utf8.decodeLossy_cons (by decide)]
  rfl

/-- Lines are read one by one. -/
theorem decodeLossy_lines (lines : List (List UInt8)) (rest : List UInt8) :
    Utf8.decodeLossy (lines.flatMap (· ++ crlf) ++ rest) =
      lines.flatMap (fun line ↦ Utf8.decodeLossy line ++ ['\r', '\n']) ++
        Utf8.decodeLossy rest := by
  induction lines with
  | nil => rfl
  | cons line lines ih =>
    simp only [List.flatMap_cons, List.append_assoc, decodeLossy_crlf_append, ih]
    rfl

/-- The text of what is shown. -/
theorem decodeLossy_octets : Utf8.decodeLossy a.octets = a.verbatim.text ++ a.body := by
  have hblank := decodeLossy_crlf_append [] (Utf8.encode a.body)
  rw [List.nil_append, Utf8.decodeLossy, Utf8.decodeLossy_encode] at hblank
  rw [octets, decodeLossy_lines, hblank]
  simp [Response.Block.text, Response.Block.lines, verbatim, lines, Response.LineEnd.chars,
    List.flatMap_map]

/-- The text of the body over HTTP. -/
theorem bodyText_encode : bodyText (Utf8.encode a.body) = String.ofList a.body := by
  simp only [bodyText, a.noMark, Bool.false_eq_true, if_false, Utf8.decodeLossy_encode]

/-! ### The status line of success -/

/-- The status line as it came, without white space at its end. -/
def shownStatusLine : String := String.ofList (trimEnd (Utf8.decodeLossy a.statusLine))

theorem le_max16 : a.status ≤ max16 := by
  have hstatus := a.status_within
  simp only [max16]
  omega

theorem statusCodeOf_rendered : Response.statusCodeOf a.rendered.first = some a.status :=
  a.head.statusCodeOf_statusLine a.le_max16

theorem statusCodeOf_verbatim : Response.statusCodeOf a.verbatim.first = some a.status := by
  show Response.statusCodeOf (Utf8.decodeLossy a.statusLine) = _
  rw [statusLine_verbatim]
  refine Response.statusCodeOf_words "HTTP/1.1".toList (by decide) (by decide)
    a.le_max16 ?_
  -- the tail begins with a blank, if there is one
  have hhead := a.isTail.1
  generalize a.tail = tail at hhead ⊢
  rcases tail with - | ⟨b, tail⟩
  · rw [Utf8.decodeLossy]
    rfl
  · obtain rfl : b = byte ' ' := by simpa using hhead
    rw [Utf8.decodeLossy_cons (by decide)]
    rfl

/-- The status line of success has the status code of success. -/
theorem status_of_okStatusLine {line : List Char}
    (hline : String.ofList (trimEnd line) = Contract.okStatusLine)
    (hcode : Response.statusCodeOf line = some a.status) : a.status = 200 := by
  have htrimmed : trimEnd line = Contract.okStatusLine.toList := by
    rw [← hline, String.toList_ofList]
  have hok : Response.statusCodeOf Contract.okStatusLine.toList = some 200 := by decide
  rw [← Response.statusCodeOf_trimEnd, htrimmed, hok] at hcode
  exact (Option.some.inj hcode).symm

/-- It is what is rendered for this code. -/
theorem rendered_eq_iff :
    String.ofList (trimEnd a.rendered.first) = Contract.okStatusLine ↔ a.status = 200 := by
  refine ⟨fun h ↦ a.status_of_okStatusLine h a.statusCodeOf_rendered, fun h ↦ ?_⟩
  show String.ofList (trimEnd a.head.statusLine.toList) = _
  rw [a.head.trimEnd_statusLine, String.ofList_toList]
  show Version.v11.name ++ " " ++ toString a.status ++ " " ++ reason a.status = _
  rw [h]
  decide

theorem judge_rendered_iff (step : Step) (expect : Expect) (v : Json) :
    (Contract.ok step expect).judge (String.ofList (a.rendered.text ++ a.body)) = .ok v ↔
      a.status = 200 ∧ Json.parseChars (trim a.body) = .ok v ∧ expect.Matches v := by
  have hcolons := fun line hline ↦ (a.head.isHeaderLine_grouped a.isLine_headers line hline).2
  rw [Contract.judge_block_iff a.rendered a.statusCodeOf_rendered a.le_status hcolons,
    rendered_eq_iff]

theorem judge_verbatim_iff (step : Step) (expect : Expect) (v : Json) :
    (Contract.ok step expect).judge (String.ofList (a.verbatim.text ++ a.body)) = .ok v ↔
      a.shownStatusLine = Contract.okStatusLine ∧ Json.parseChars (trim a.body) = .ok v ∧
        expect.Matches v :=
  Contract.judge_block_iff a.verbatim a.statusCodeOf_verbatim a.le_status
    (fun line hline ↦ (a.isHeaderLine_fields line hline).2) a.body step expect v

end Answer

/-! ### Two senders -/

/-- The server answers the request with `a`. -/
def Site.Answers {σ : Type} (server : Server σ) (boundary : String) (r : Request) (s : Site σ)
    (a : Answer) : Prop :=
  ∃ message, Message.ofRequest boundary s.disk r = .ok message ∧
    (server message s.server).1 = .answered a.octets

end Http

/-- The program shows `a` in reply to the request, and comes to a good end. -/
def Curl.Machine.Shows {σ : Type} (program : Program σ) (timeout : Span) (r : Request)
    (m : Machine σ) (a : Http.Answer) : Prop :=
  ∃ invocation completed, Invocation.ofRequest timeout r = .ok invocation ∧
    (start program invocation.arguments m).1 = .ok completed ∧
      completed.ending = .exited 0 ∧ completed.shown = a.octets

namespace Http.Answer

variable {σ τ : Type} {server : Server σ} {program : Curl.Program τ} {timeout : Span}
  {boundary : String} {r : Request} {s : Site σ} {m : Curl.Machine τ} {a : Answer}

/-- Over HTTP, the text is that of the head as it is rendered, and of the body. -/
theorem execute_of_answers (answers : Site.Answers server boundary r s a) (timeout : Span) :
    (Site.execute server timeout boundary r s).1 =
      .ok (String.ofList (a.rendered.text ++ a.body)) := by
  obtain ⟨message, hmessage, hreaction⟩ := answers
  have hbody : Site.readBody a.head (Utf8.encode a.body) = .ok (Utf8.encode a.body) := a.isWhole
  have hframing : a.head.framing?.isSome = true := by
    rcases h : a.head.framing? with - | framing
    · rw [Site.readBody, h] at hbody
      cases hbody
    · rfl
  have hread : Site.readReaction timeout r (.answered a.octets) =
      .ok (a.head, Utf8.encode a.body) := by
    simp only [Site.readReaction, readFinal?_octets, hframing, if_true]
  have htext : a.head.response (String.ofList a.body) =
      String.ofList (a.rendered.text ++ a.body) := by
    rw [← String.toList_inj, a.head.toList_response a.isLine_headers, String.toList_ofList,
      String.toList_ofList]
    rfl
  simp only [Site.execute, Site.send, hmessage, hreaction, hread, hbody, bodyText_encode, htext]

/-- By the program, it is that of the head as it came, and of the body. -/
theorem execute_of_shows (shows : Curl.Machine.Shows program timeout r m a) :
    (Curl.Machine.execute program timeout r m).1 =
      .ok (String.ofList (a.verbatim.text ++ a.body)) := by
  obtain ⟨invocation, completed, hinvocation, hstart, hending, hshown⟩ := shows
  rcases hstarted : Curl.Machine.start program invocation.arguments m with ⟨result, m'⟩
  obtain rfl : result = .ok completed := by rw [← hstart, hstarted]
  have hgood : Curl.Machine.shownBy completed = .ok a.octets := by
    rw [Curl.Machine.shownBy, if_pos hending, hshown]
  simp only [Curl.Machine.execute, Curl.Machine.run, hinvocation, hstarted, hgood,
    decodeLossy_octets]

/-! ### A phrase of the server's own -/

/-- The body of a reply to status. -/
def openBody : String :=
  "\x7b\"type\":\"read_only\",\"transactionId\":\"T\"," ++
    "\"status\":\"AVAILABLE\",\"startTime\":null,\"endTime\":null\x7d"

/-- An answer with the status code of success and a phrase that is not the standard one. -/
def fine : Answer where
  status := 200
  tail := Http.bytes " Fine"
  fields := [⟨Http.bytes "content-length: 93", ⟨"content-length", Http.bytes "93"⟩, by decide⟩]
  body := openBody.toList
  isFinal := by decide
  isTail := by decide
  areFew := by decide
  isWhole := by decide +kernel
  noMark := by decide +kernel

/-- The request for the status of the transaction. -/
def fineRequest : Request := Request.get "http://h/transaction/status/T"

theorem answers_fine :
    Site.Answers (fun _ state ↦ (.answered fine.octets, state)) "b" fineRequest ⟨(), {}⟩ fine := by
  have hsome : (Message.ofRequest "b" {} fineRequest).toOption.isSome = true := by decide +kernel
  obtain ⟨message, hmessage⟩ := Option.isSome_iff_exists.1 hsome
  exact ⟨message, toOption_eq_some_iff.1 hmessage, rfl⟩

theorem shows_fine :
    Curl.Machine.Shows (fun _ state ↦ (.ok { shown := fine.octets }, state)) ⟨60, 0⟩ fineRequest
      ⟨(), {}⟩ fine := by
  have hany : (Curl.Invocation.ofRequest ⟨60, 0⟩ fineRequest).toOption.any (fun invocation ↦
      !invocation.arguments.any fun word ↦ word.toList.contains '\x00') = true := by decide +kernel
  obtain ⟨invocation, hinvocation, hwords⟩ := (Option.any_eq_true _ _).1 hany
  refine ⟨invocation, { shown := fine.octets }, toOption_eq_some_iff.1 hinvocation, ?_, rfl, rfl⟩
  rw [Bool.not_eq_true'] at hwords
  rw [Curl.Machine.start, hwords]
  rfl

theorem shownStatusLine_fine : fine.shownStatusLine ≠ Contract.okStatusLine := by
  decide +kernel

/-- The body is what the contract of the step expects. -/
theorem matches_fine : ∃ v, Json.parseChars (trim fine.body) = .ok v ∧
    (Contract.status .readOnly "T").body.Matches v := by
  have hany : (Json.parseChars (trim fine.body)).toOption.any (fun v ↦
      ((Contract.status .readOnly "T").body.check v).toOption.isSome) = true := by decide +kernel
  obtain ⟨v, hv, hcheck⟩ := (Option.any_eq_true _ _).1 hany
  obtain ⟨⟨⟩, hok⟩ := Option.isSome_iff_exists.1 hcheck
  exact ⟨v, toOption_eq_some_iff.1 hv, (Expect.check_eq_ok_iff _ v).1 (toOption_eq_some_iff.1 hok)⟩

/-! ### Verdicts on an answer -/

/-- **Verdicts on an answer.** A server answers a request with any status code that is neither
interim nor a redirection, any reason phrase, any fields that are read and any body that they
frame, and a program shows the same answer. Both senders give a text, and whatever is expected of
the body, the two texts are judged in the same way, except that the program's is never accepted
where the status is that of success and the server has put another reason phrase behind it. -/
theorem judge_execute (answers : Site.Answers server boundary r s a)
    (shows : Curl.Machine.Shows program timeout r m a) :
    ∃ text text', (Site.execute server timeout boundary r s).1 = .ok text ∧
      (Curl.Machine.execute program timeout r m).1 = .ok text' ∧
      ∀ step expect, ((Contract.ok step expect).judge text').toOption =
        if a.status = 200 ∧ a.shownStatusLine ≠ Contract.okStatusLine then none
        else ((Contract.ok step expect).judge text).toOption := by
  refine ⟨_, _, execute_of_answers answers timeout, execute_of_shows shows, fun step expect ↦ ?_⟩
  have hok (h : a.shownStatusLine = Contract.okStatusLine) : a.status = 200 :=
    a.status_of_okStatusLine h a.statusCodeOf_verbatim
  refine Option.ext fun v ↦ ?_
  split
  · next hother =>
    rw [toOption_eq_some_iff, judge_verbatim_iff]
    exact iff_of_false (fun h ↦ hother.2 h.1) nofun
  · next hsame =>
    rw [toOption_eq_some_iff, toOption_eq_some_iff, judge_verbatim_iff, judge_rendered_iff]
    have hiff : a.shownStatusLine = Contract.okStatusLine ↔ a.status = 200 := by
      refine ⟨hok, fun hstatus ↦ ?_⟩
      by_contra hne
      exact hsame ⟨hstatus, hne⟩
    exact and_congr_left' hiff

theorem judge_execute_fine : ∃ text',
    (Curl.Machine.execute (fun _ state ↦ (.ok { shown := fine.octets }, state)) ⟨60, 0⟩
      fineRequest ⟨(), {}⟩).1 = .ok text' ∧
    ((Contract.status .readOnly "T").judge text').toOption = none := by
  obtain ⟨text, text', -, hexecute, hjudge⟩ := judge_execute answers_fine shows_fine
  exact ⟨text', hexecute, (hjudge .status _).trans (if_pos ⟨rfl, shownStatusLine_fine⟩)⟩

/-- The two senders differ: the reply is accepted over HTTP, and not by the program. -/
theorem judge_fine : ∃ text text',
    (Site.execute (fun _ state ↦ (.answered fine.octets, state)) ⟨60, 0⟩ "b" fineRequest
      ⟨(), {}⟩).1 = .ok text ∧
    (Curl.Machine.execute (fun _ state ↦ (.ok { shown := fine.octets }, state)) ⟨60, 0⟩
      fineRequest ⟨(), {}⟩).1 = .ok text' ∧
    ((Contract.status .readOnly "T").judge text).toOption ≠
      ((Contract.status .readOnly "T").judge text').toOption := by
  refine ⟨_, _, execute_of_answers answers_fine _, execute_of_shows shows_fine, fun h ↦ ?_⟩
  obtain ⟨v, hv, hmatches⟩ := matches_fine
  have haccepted := (fine.judge_rendered_iff .status _ v).2 ⟨rfl, hv, hmatches⟩
  have hshown := toOption_eq_some_iff.1 (h.symm.trans (congrArg Except.toOption haccepted))
  exact shownStatusLine_fine ((fine.judge_verbatim_iff .status _ v).1 hshown).1

end Http.Answer

end TransactionHarness
