import TransactionHarness.Proofs.Spares
/-!
# White space around a JSON text

White space at the ends of a text is no part of the value in it, be it white space of JSON or any
other. In front of the value this is how a reader starts. Behind it, no reader goes on into white
space, which is shown here of arrays, objects and so of all values.

* `Json.Comes`: an item or field comes next, and not the end of the array or object.
* `Json.spares_readValue`: a value is read without the white space behind it.
* `Json.parseChars_trim`: a text without the white space around it has the same value.
-/

namespace TransactionHarness

namespace Json

open Text (isBlank isDecimalDigit)

/-! ### White space in front -/

theorem isBlank_of_isSpace {c : Char} (h : isSpace c = true) : isBlank c = true := by
  simp only [isSpace, Bool.or_eq_true, decide_eq_true_eq] at h
  rcases h with ((rfl | rfl) | rfl) | rfl <;> rfl

theorem skipSpace_of_not {c : Char} (h : isSpace c = false) (s : List Char) :
    skipSpace (c :: s) = c :: s :=
  List.dropWhile_cons_of_neg (h ▸ Bool.false_ne_true)

theorem isSpace_of_skipSpace {s t : List Char} {c : Char} (h : skipSpace s = c :: t) :
    isSpace c = false := by
  have hhead := List.head?_dropWhile_not isSpace s
  rw [← skipSpace, h] at hhead
  exact hhead

theorem length_skipSpace_le (s : List Char) : (skipSpace s).length ≤ s.length :=
  (List.dropWhile_suffix isSpace).length_le

theorem skipSpace_skipSpace (s : List Char) : skipSpace (skipSpace s) = skipSpace s := by
  cases h : skipSpace s with
  | nil => rfl
  | cons c t => exact skipSpace_of_not (isSpace_of_skipSpace h) t

/-- White space behind a text stays behind what is left, unless there is nothing else. -/
theorem skipSpace_append (s w : List Char) :
    skipSpace (s ++ w) = if (skipSpace s).isEmpty then skipSpace w else skipSpace s ++ w :=
  List.dropWhile_append

theorem blank_of_mem_skipSpace {w : List Char} (hw : ∀ c ∈ w, isBlank c = true) :
    ∀ c ∈ skipSpace w, isBlank c = true :=
  fun c hc ↦ hw c ((List.dropWhile_sublist _).mem hc)

/-- A character that is no white space comes next with white space behind the text if it does
without. -/
theorem skipSpace_append_eq_cons_iff {s w t : List Char} {c : Char}
    (hw : ∀ c ∈ w, isBlank c = true) (hc : isBlank c = false) :
    skipSpace (s ++ w) = c :: t ↔ ∃ r, skipSpace s = c :: r ∧ t = r ++ w := by
  rw [skipSpace_append]
  cases hs : skipSpace s with
  | nil =>
    rw [if_pos List.isEmpty_nil]
    constructor
    · intro h
      have hblank := blank_of_mem_skipSpace hw c (h ▸ List.mem_cons_self)
      cases hblank.symm.trans hc
    · rintro ⟨r, h, -⟩
      cases h
  | cons d r =>
    simp only [List.isEmpty_cons, Bool.false_eq_true, if_false, List.cons_append, List.cons.injEq]
    constructor
    · rintro ⟨rfl, rfl⟩
      exact ⟨r, ⟨rfl, rfl⟩, rfl⟩
    · rintro ⟨_, ⟨rfl, rfl⟩, rfl⟩
      exact ⟨rfl, rfl⟩

/-- A reader behind white space. -/
theorem Spares.skip {α : Type} {n : Nat} {read : List Char → Except Fault (Read α)}
    (h : Spares (n + 1) read) : Spares (n + 1) fun s ↦ read (skipSpace s) := by
  intro s w hw a t (hread : read (skipSpace (s ++ w)) = .ok (a, t))
  rw [skipSpace_append] at hread
  split at hread
  · exact absurd hread (h.ne_ok (blank_of_mem_skipSpace hw) a t)
  · obtain ⟨r, ht, hlength, hr⟩ := h (skipSpace s) w hw a t hread
    exact ⟨r, ht, Nat.le_trans hlength (length_skipSpace_le s), hr⟩

/-- A reader that skips white space, fails in front of some characters, and goes on behind all
others. -/
theorem Spares.of_skip {α : Type} {n : Nat} {read : List Char → Except Fault (Read α)}
    (skip : ∀ s, read (skipSpace s) = read s) (nil : ∀ x, read [] ≠ .ok x)
    (cons : ∀ c, isSpace c = false → (∀ s x, read (c :: s) ≠ .ok x) ∨
      isBlank c = false ∧ Spares n fun s ↦ read (c :: s)) : Spares (n + 1) read := by
  intro s w hw a t hread
  rw [← skip, skipSpace_append] at hread
  cases hs : skipSpace s with
  | nil =>
    rw [hs, if_pos List.isEmpty_nil] at hread
    cases hrest : skipSpace w with
    | nil => exact absurd (hrest ▸ hread) (nil _)
    | cons c w' =>
      rcases cons c (isSpace_of_skipSpace hrest) with hfail | ⟨hc, -⟩
      · exact absurd (hrest ▸ hread) (hfail w' _)
      · cases hc.symm.trans (blank_of_mem_skipSpace hw c (hrest ▸ List.mem_cons_self))
  | cons c s' =>
    rw [hs, if_neg nofun] at hread
    rcases cons c (isSpace_of_skipSpace hs) with hfail | ⟨-, hcons⟩
    · exact absurd hread (hfail (s' ++ w) _)
    · obtain ⟨r, ht, hlength, hr⟩ := hcons s' w hw a t hread
      have hlength' := length_skipSpace_le s
      rw [hs, List.length_cons] at hlength'
      exact ⟨r, ht, by omega, by rw [← skip, hs]; exact hr⟩

/-! ### Items and fields -/

theorem spares_startBehindComma {α : Type} {item : List Char → Except Fault (Read α)}
    (hitem : Spares 1 item) (closing : Char) :
    Spares 1 fun s ↦ startBehindComma closing s >>= item := by
  intro s w hw v t hread
  obtain ⟨start, hstart, hv⟩ := bind_eq_ok_iff.1 hread
  have heq : start = s ++ w := by
    unfold startBehindComma at hstart
    split at hstart
    · cases hstart
    · split at hstart
      · cases hstart
      · exact (Except.ok.inj hstart).symm
  subst heq
  obtain ⟨r, ht, hlength, hr⟩ := hitem s w hw v t hv
  refine ⟨r, ht, hlength, bind_eq_ok_iff.2 ⟨s, ?_, hr⟩⟩
  -- the first character is the same with white space behind the text
  cases s with
  | nil => exact absurd hlength (by simp)
  | cons c s =>
    by_cases hc : c = closing
    · rw [List.cons_append, startBehindComma, if_pos hc] at hstart
      cases hstart
    · rw [startBehindComma, if_neg hc]

theorem spares_nextStart {α : Type} {item : List Char → Except Fault (Read α)}
    (hitem : Spares 1 item) (closing : Char) (unseparated : FaultKind) (first : Bool) :
    Spares 1 fun s ↦ nextStart closing unseparated first s >>= item := by
  cases first with
  | true => exact hitem
  | false =>
    refine Spares.of_cons ?_ fun c ↦ ?_
    · rintro x ⟨⟩
    by_cases hcomma : c = ','
    · subst hcomma
      exact .inr ⟨rfl, (spares_startBehindComma hitem closing).skip.weaken (Nat.zero_le 1)⟩
    · left
      intro s x
      rw [nextStart, if_neg Bool.false_ne_true]
      · rintro ⟨⟩
      · exact fun _ h ↦ hcomma (List.cons.inj h).1

/-- An item or field comes next, not the closing character: `x`, and behind it `r` is left. -/
structure Comes {α : Type} (item : List Char → Except Fault (Read α)) (closing : Char)
    (unseparated : FaultKind) (first : Bool) (s : List Char) (x : α) (r : List Char) : Prop where
  notEnd : skipSpace s ≠ []
  notClosing : ∀ rest, skipSpace s ≠ closing :: rest
  read : nextStart closing unseparated first (skipSpace s) >>= item = .ok (x, r)

theorem Comes.spare {α : Type} {item : List Char → Except Fault (Read α)} {closing : Char}
    {unseparated : FaultKind} {first : Bool} {s w t : List Char} {x : α}
    (hitem : Spares 1 item) (hclosing : isBlank closing = false) (hw : ∀ c ∈ w, isBlank c = true)
    (h : Comes item closing unseparated first (s ++ w) x t) :
    ∃ r, t = r ++ w ∧ r.length + 1 ≤ s.length ∧ Comes item closing unseparated first s x r := by
  have hnext := spares_nextStart hitem closing unseparated first
  obtain ⟨r, ht, hlength, hr⟩ := hnext.skip s w hw x t h.read
  refine ⟨r, ht, hlength, fun hnil ↦ ?_, fun rest hrest ↦ ?_, hr⟩
  · exact hnext.ne_ok (w := skipSpace s) (hnil ▸ nofun) x r hr
  · exact h.notClosing _ ((skipSpace_append_eq_cons_iff hw hclosing).2 ⟨rest, hrest, rfl⟩)

/-- The closing character comes next, with white space behind the text as without. -/
theorem exists_of_closing {closing : Char} {s w t : List Char} (hclosing : isBlank closing = false)
    (hw : ∀ c ∈ w, isBlank c = true) (h : skipSpace (s ++ w) = closing :: t) :
    ∃ r, t = r ++ w ∧ r.length + 1 ≤ s.length ∧ skipSpace s = closing :: r := by
  obtain ⟨r, hr, rfl⟩ := (skipSpace_append_eq_cons_iff hw hclosing).1 h
  have hlength := length_skipSpace_le s
  rw [hr, List.length_cons] at hlength
  exact ⟨r, rfl, hlength, hr⟩

/-! ### Arrays and objects -/

/-- An array ends here, or an item comes and then the rest of the array. -/
theorem readItems_eq_ok_iff {item : ItemReader} {fuel : Nat} {first : Bool} {s t : List Char}
    {xs : List Json} :
    readItems item (fuel + 1) first s = .ok (xs, t) ↔ (skipSpace s = ']' :: t ∧ xs = []) ∨
      ∃ x r ys, Comes item ']' .expectedCommaOrBracket first s x r ∧
        readItems item fuel false r = .ok (ys, t) ∧ xs = x :: ys := by
  rw [readItems]
  constructor
  · intro h
    split at h
    · cases h
    · next hs =>
      cases h
      exact .inl ⟨hs, rfl⟩
    · next hnil hclosing =>
      obtain ⟨start, hstart, h⟩ := bind_eq_ok_iff.1 h
      obtain ⟨⟨x, r⟩, hx, h⟩ := bind_eq_ok_iff.1 h
      obtain ⟨⟨ys, _⟩, hys, ⟨⟩⟩ := bind_eq_ok_iff.1 h
      have hread := bind_eq_ok_iff.2 ⟨start, hstart, hx⟩
      exact .inr ⟨x, r, ys, ⟨hnil, hclosing, hread⟩, hys, rfl⟩
  · rintro (⟨hs, rfl⟩ | ⟨x, r, ys, hcomes, hys, rfl⟩)
    · rw [hs]
      rfl
    · obtain ⟨start, hstart, hx⟩ := bind_eq_ok_iff.1 hcomes.read
      split
      · next hs => exact absurd hs hcomes.notEnd
      · next hs => exact absurd hs (hcomes.notClosing _)
      · refine bind_eq_ok_iff.2 ⟨start, hstart, bind_eq_ok_iff.2 ⟨(x, r), hx, ?_⟩⟩
        exact bind_eq_ok_iff.2 ⟨(ys, t), hys, rfl⟩

theorem sparesWithFuel_readItems {item : ItemReader} (hitem : Spares 1 item) (first : Bool) :
    SparesWithFuel 1 fun fuel ↦ readItems item fuel first := by
  intro fuel s w hw xs t hread
  induction fuel generalizing first s xs t with
  | zero => cases hread
  | succ fuel ih =>
    rcases readItems_eq_ok_iff.1 hread with ⟨hend, rfl⟩ | ⟨x, t', ys, hcomes, hys, rfl⟩
    · obtain ⟨r, rfl, hlength, hr⟩ := exists_of_closing rfl hw hend
      refine ⟨r, rfl, hlength, fun fuel' hfuel ↦ ?_⟩
      obtain ⟨fuel', rfl⟩ := Nat.exists_eq_succ_of_ne_zero (Nat.ne_zero_of_lt hfuel)
      exact readItems_eq_ok_iff.2 (.inl ⟨hr, rfl⟩)
    · obtain ⟨r', rfl, hlength', hr'⟩ := hcomes.spare hitem rfl hw
      obtain ⟨r, rfl, hlength, hr⟩ := ih false r' ys t hys
      refine ⟨r, rfl, by omega, fun fuel' hfuel ↦ ?_⟩
      obtain ⟨fuel', rfl⟩ := Nat.exists_eq_succ_of_ne_zero (Nat.ne_zero_of_lt hfuel)
      exact readItems_eq_ok_iff.2 (.inr ⟨x, r', ys, hr', hr fuel' (by omega), rfl⟩)

theorem spares_readField {item : ItemReader} (hitem : Spares 1 item) :
    Spares 1 (readField item) := by
  refine Spares.of_cons ?_ fun c ↦ ?_
  · rintro x ⟨⟩
  by_cases hquote : c = '\"'
  · subst hquote
    refine .inr ⟨rfl, (spares_readString.bind (n := 1) fun key ↦ ?_).weaken (Nat.zero_le _)⟩
    refine Spares.of_skip (n := 0) (fun s ↦ by simp only [skipSpace_skipSpace]) ?_ fun c hc ↦ ?_
    · rintro x ⟨⟩
    by_cases hcolon : c = ':'
    · subst hcolon
      exact .inr ⟨rfl, (hitem.map fun x ↦ (key, x)).weaken (Nat.zero_le _)⟩
    · left
      intro s x
      simp [skipSpace_of_not hc, hcolon]
  · left
    intro s x
    simp [readField, hquote]

/-- An object ends here, or a field comes and then the rest of the object. -/
theorem readFields_eq_ok_iff {item : ItemReader} {fuel : Nat} {first : Bool}
    {fields result : List (String × Json)} {s t : List Char} :
    readFields item (fuel + 1) first fields s = .ok (result, t) ↔
      (skipSpace s = '\x7d' :: t ∧ result = fields) ∨
      ∃ f r, Comes (readField item) '\x7d' .expectedCommaOrBrace first s f r ∧
        readFields item fuel false (insertField f.1 f.2 fields) r = .ok (result, t) := by
  rw [readFields]
  constructor
  · intro h
    split at h
    · cases h
    · next hs =>
      cases h
      exact .inl ⟨hs, rfl⟩
    · next hnil hclosing =>
      obtain ⟨start, hstart, h⟩ := bind_eq_ok_iff.1 h
      obtain ⟨⟨f, r⟩, hf, h⟩ := bind_eq_ok_iff.1 h
      exact .inr ⟨f, r, ⟨hnil, hclosing, bind_eq_ok_iff.2 ⟨start, hstart, hf⟩⟩, h⟩
  · rintro (⟨hs, rfl⟩ | ⟨f, r, hcomes, hresult⟩)
    · rw [hs]
      rfl
    · obtain ⟨start, hstart, hf⟩ := bind_eq_ok_iff.1 hcomes.read
      split
      · next hs => exact absurd hs hcomes.notEnd
      · next hs => exact absurd hs (hcomes.notClosing _)
      · exact bind_eq_ok_iff.2 ⟨start, hstart, bind_eq_ok_iff.2 ⟨(f, r), hf, hresult⟩⟩

theorem sparesWithFuel_readFields {item : ItemReader} (hitem : Spares 1 item) (first : Bool)
    (fields : List (String × Json)) :
    SparesWithFuel 1 fun fuel ↦ readFields item fuel first fields := by
  intro fuel s w hw result t hread
  induction fuel generalizing first fields s t with
  | zero => cases hread
  | succ fuel ih =>
    rcases readFields_eq_ok_iff.1 hread with ⟨hend, rfl⟩ | ⟨f, t', hcomes, hresult⟩
    · obtain ⟨r, rfl, hlength, hr⟩ := exists_of_closing rfl hw hend
      refine ⟨r, rfl, hlength, fun fuel' hfuel ↦ ?_⟩
      obtain ⟨fuel', rfl⟩ := Nat.exists_eq_succ_of_ne_zero (Nat.ne_zero_of_lt hfuel)
      exact readFields_eq_ok_iff.2 (.inl ⟨hr, rfl⟩)
    · obtain ⟨r', rfl, hlength', hr'⟩ := hcomes.spare (spares_readField hitem) rfl hw
      obtain ⟨r, rfl, hlength, hr⟩ := ih false _ r' t hresult
      refine ⟨r, rfl, by omega, fun fuel' hfuel ↦ ?_⟩
      obtain ⟨fuel', rfl⟩ := Nat.exists_eq_succ_of_ne_zero (Nat.ne_zero_of_lt hfuel)
      exact readFields_eq_ok_iff.2 (.inr ⟨f, r', hr', hr fuel' (by omega)⟩)

/-! ### Values -/

theorem readValue_skipSpace (depth : Nat) (s : List Char) :
    readValue depth (skipSpace s) = readValue depth s := by
  rw [readValue, skipSpace_skipSpace, ← readValue]

/-- Values are read so if arrays and objects are. -/
theorem spares_readValue_of {depth : Nat} (harr : Spares 0 fun s ↦ readValue depth ('[' :: s))
    (hobj : Spares 0 fun s ↦ readValue depth ('\x7b' :: s)) : Spares 1 (readValue depth) := by
  refine Spares.of_skip (readValue_skipSpace depth) ?_ fun c hspace ↦ ?_
  · intro x
    rw [readValue]
    rintro ⟨⟩
  by_cases hbracket : c = '['
  · exact hbracket ▸ .inr ⟨rfl, harr⟩
  by_cases hbrace : c = '\x7b'
  · exact hbrace ▸ .inr ⟨rfl, hobj⟩
  -- what is read behind the other characters does not depend on the depth
  have hdepth : ∀ s, readValue depth (c :: s) = readValue 0 (c :: s) := by
    intro s
    rw [readValue, readValue, skipSpace_of_not hspace]
    split <;> rename_i h <;> cases h <;> first | rfl | contradiction
  simp only [hdepth]
  by_cases hn : c = 'n'
  · subst hn
    exact .inr ⟨rfl, spares_readWord null rfl⟩
  by_cases ht : c = 't'
  · subst ht
    exact .inr ⟨rfl, spares_readWord (bool true) rfl⟩
  by_cases hf : c = 'f'
  · subst hf
    exact .inr ⟨rfl, spares_readWord (bool false) rfl⟩
  by_cases hquote : c = '\"'
  · subst hquote
    exact .inr ⟨rfl, (spares_readString.map str).weaken (Nat.zero_le 1)⟩
  by_cases hminus : c = '-'
  · subst hminus
    exact .inr ⟨rfl, ((spares_readNumber true).map num).weaken (Nat.zero_le 1)⟩
  have helse : ∀ s, readValue 0 (c :: s) = if isDecimalDigit c then
      readNumber false (c :: s) >>= fun x ↦ .ok (num x.1, x.2)
      else .error (.atNext .expectedValue (c :: s)) := by
    intro s
    rw [readValue, skipSpace_of_not hspace]
    split <;> rename_i h <;> cases h <;> first | rfl | contradiction
  simp only [helse]
  by_cases hdigit : isDecimalDigit c = true
  · simp only [if_pos hdigit]
    exact .inr ⟨Text.isBlank_of_isDecimalDigit hdigit, (spares_readNumber false).behind.map num⟩
  · left
    intro s x
    rw [if_neg hdigit]
    rintro ⟨⟩

theorem spares_readValue (depth : Nat) : Spares 1 (readValue depth) := by
  induction depth with
  | zero => exact spares_readValue_of (Spares.fail _) (Spares.fail _)
  | succ depth ih =>
    have hitems := (sparesWithFuel_readItems ih true).spares.map arr
    have hfields := (sparesWithFuel_readFields ih true []).spares.map obj
    exact spares_readValue_of (hitems.weaken (Nat.zero_le 1)) (hfields.weaken (Nat.zero_le 1))

/-! ### Whole texts -/

theorem readValue_blank {depth : Nat} {c : Char} (hspace : isSpace c = false)
    (hblank : isBlank c = true) (s : List Char) :
    readValue depth (c :: s) = .error (.atNext .expectedValue (c :: s)) := by
  rw [readValue, skipSpace_of_not hspace]
  split <;> rename_i h <;> cases h <;> try cases hblank
  rw [Text.isDecimalDigit_of_isBlank hblank, if_neg Bool.false_ne_true]

/-- White space in front of a value is white space of JSON. -/
theorem trimStart_of_readValue {depth : Nat} {s : List Char} {x : Read Json}
    (h : readValue depth s = .ok x) : Text.trimStart s = skipSpace s := by
  rw [← readValue_skipSpace] at h
  have hsplit : s.takeWhile isSpace ++ skipSpace s = s := List.takeWhile_append_dropWhile
  have hfront : ∀ c ∈ s.takeWhile isSpace, isBlank c = true := fun c hc ↦
    isBlank_of_isSpace (List.all_eq_true.1 List.all_takeWhile c hc)
  rw [← hsplit, Text.trimStart_blank_append hfront, hsplit]
  cases hs : skipSpace s with
  | nil => rfl
  | cons c t =>
    rw [Text.trimStart_of_head]
    rw [Bool.eq_false_iff]
    intro hblank
    rw [hs, readValue_blank (isSpace_of_skipSpace hs) hblank] at h
    cases h

/-- The white space around a text may be removed: the text without it has the same value. -/
theorem parseChars_trim {s : List Char} {v : Json} (h : parseChars s = .ok v) :
    parseChars (Text.trim s) = .ok v := by
  obtain ⟨rest, hread, hrest⟩ := parseChars_eq_ok_iff.1 h
  have hstart := trimStart_of_readValue hread
  obtain ⟨w, hsplit, hw⟩ := Text.trimEnd_append_rest (skipSpace s)
  rw [← readValue_skipSpace, hsplit] at hread
  obtain ⟨r, rfl, -, hr⟩ := spares_readValue maxDepth _ w hw v rest hread
  refine parseChars_eq_ok_iff.2 ⟨r, ?_, ?_⟩
  · rw [Text.trim, hstart]
    exact hr
  · rw [skipSpace_append] at hrest
    split at hrest
    · next hnil => exact List.isEmpty_iff.1 hnil
    · exact (List.append_eq_nil_iff.1 hrest).1

end Json

end TransactionHarness
