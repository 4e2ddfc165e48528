import TransactionHarness.Proofs.Reading
/-!
# Readers and the white space behind a text

No reader goes on into white space at the end of a text, be it white space of JSON or any other.
`Json.Spares` says so of one reader. Here it is shown of the readers of words, numbers and strings,
each from the readers it is made of: a number ends in front of white space as it does at the end of
the text, and a string that is not closed is not closed by white space.

* `Json.Spares`: a reader that succeeds on a text with white space behind it takes nothing of it.
* `Json.Spares.of_cons`, `Json.Spares.of_stop`, `Json.Spares.bind`: how readers are put together.
* `Json.SparesWithFuel`: the same of a reader with fuel, of which a shorter text needs less.
* `Json.spares_readNumber`, `Json.spares_readString`: numbers and strings are read so.

`Spares` counts the characters that are taken at least. A reader that has to take one fails where
only white space is left.
-/

namespace TransactionHarness

namespace Text

/-! ### White space is nothing else -/

theorem toNat_of_isBlank {c : Char} (h : isBlank c = true) : c.toNat ≤ 32 ∨ 133 ≤ c.toNat := by
  simp only [isBlank, Bool.or_eq_true, Bool.and_eq_true, decide_eq_true_eq, beq_iff_eq] at h
  omega

theorem ne_of_isBlank {c d : Char} (h : isBlank c = true) (hd : isBlank d = false) : c ≠ d := by
  rintro rfl
  cases h.symm.trans hd

theorem decimalDigit?_of_isBlank {c : Char} (h : isBlank c = true) : decimalDigit? c = none := by
  have hrange := toNat_of_isBlank h
  rw [decimalDigit?, if_neg]
  simp only [Bool.and_eq_true, decide_eq_true_eq, Char.le_def, UInt32.le_iff_toNat_le]
  rintro ⟨hlower, hupper⟩
  have hzero : ('0' : Char).val.toNat = 48 := rfl
  have hnine : ('9' : Char).val.toNat = 57 := rfl
  have hc : c.val.toNat = c.toNat := rfl
  omega

theorem isDecimalDigit_of_isBlank {c : Char} (h : isBlank c = true) : isDecimalDigit c = false := by
  rw [isDecimalDigit, decimalDigit?_of_isBlank h]
  rfl

theorem isBlank_of_decimalDigit? {c : Char} {d : Nat} (h : decimalDigit? c = some d) :
    isBlank c = false := by
  rw [Bool.eq_false_iff]
  intro hc
  cases h.symm.trans (decimalDigit?_of_isBlank hc)

theorem isBlank_of_isDecimalDigit {c : Char} (h : isDecimalDigit c = true) :
    isBlank c = false := by
  obtain ⟨d, hd⟩ := Option.isSome_iff_exists.1 h
  exact isBlank_of_decimalDigit? hd

theorem hexDigit?_of_isBlank {c : Char} (h : isBlank c = true) : hexDigit? c = none := by
  have hrange := toNat_of_isBlank h
  simp only [hexDigit?, Bool.and_eq_true, decide_eq_true_eq, Char.le_def, UInt32.le_iff_toNat_le]
  have h1 : ('0' : Char).val.toNat = 48 := rfl
  have h2 : ('9' : Char).val.toNat = 57 := rfl
  have h3 : ('a' : Char).val.toNat = 97 := rfl
  have h4 : ('f' : Char).val.toNat = 102 := rfl
  have h5 : ('A' : Char).val.toNat = 65 := rfl
  have h6 : ('F' : Char).val.toNat = 70 := rfl
  have hc : c.val.toNat = c.toNat := rfl
  rw [if_neg, if_neg, if_neg] <;> omega

theorem isBlank_of_hexDigit? {c : Char} {d : Nat} (h : hexDigit? c = some d) :
    isBlank c = false := by
  rw [Bool.eq_false_iff]
  intro hc
  cases h.symm.trans (hexDigit?_of_isBlank hc)

/-! ### White space behind what is taken or dropped -/

variable {p : Char → Bool} {w : List Char}

theorem dropWhile_append_blank (hp : ∀ c, isBlank c = true → p c = false)
    (hw : ∀ c ∈ w, isBlank c = true) (s : List Char) :
    (s ++ w).dropWhile p = s.dropWhile p ++ w := by
  induction s with
  | nil =>
    cases w with
    | nil => rfl
    | cons c w =>
      show (c :: w).dropWhile p = c :: w
      rw [List.dropWhile_cons_of_neg]
      rw [hp c (hw c List.mem_cons_self)]
      exact Bool.false_ne_true
  | cons c s ih =>
    rw [List.cons_append, List.dropWhile_cons, List.dropWhile_cons]
    split
    · exact ih
    · rfl

theorem takeWhile_append_blank (hp : ∀ c, isBlank c = true → p c = false)
    (hw : ∀ c ∈ w, isBlank c = true) (s : List Char) :
    (s ++ w).takeWhile p = s.takeWhile p := by
  have hsplit := List.takeWhile_append_dropWhile (p := p) (l := s ++ w)
  rw [dropWhile_append_blank hp hw] at hsplit
  have hsplit' := List.takeWhile_append_dropWhile (p := p) (l := s)
  rw [← List.append_assoc, List.append_cancel_right_eq] at hsplit
  exact List.append_cancel_right (hsplit.trans hsplit'.symm)

theorem trimEnd_append_rest (s : List Char) :
    ∃ w, s = trimEnd s ++ w ∧ ∀ c ∈ w, isBlank c = true := by
  refine ⟨(s.reverse.takeWhile isBlank).reverse, ?_, ?_⟩
  · rw [trimEnd, dropLastWhile, ← List.reverse_append, List.takeWhile_append_dropWhile,
      List.reverse_reverse]
  · intro c hc
    exact List.all_eq_true.1 List.all_takeWhile c (List.mem_reverse.1 hc)

end Text

namespace Json

open Text (isBlank isDecimalDigit decimalDigit? hexDigit?)

/-- On a text with white space behind it, the reader takes at least `n` characters of the text but
nothing of the white space, and reads what it reads of the text alone. -/
def Spares {α : Type} (n : Nat) (read : List Char → Except Fault (Read α)) : Prop :=
  ∀ s w, (∀ c ∈ w, isBlank c = true) → ∀ a t, read (s ++ w) = .ok (a, t) →
    ∃ r, t = r ++ w ∧ r.length + n ≤ s.length ∧ read s = .ok (a, r)

namespace Spares

variable {α β : Type} {m n : Nat} {read : List Char → Except Fault (Read α)}

theorem pure (a : α) : Spares 0 fun s ↦ .ok (a, s) := by
  rintro s w - _ _ ⟨⟩
  exact ⟨s, rfl, Nat.le_refl _, rfl⟩

theorem fail (fault : List Char → Fault) :
    Spares n fun s ↦ (.error (fault s) : Except Fault (Read α)) :=
  nofun

theorem weaken (h : Spares n read) (le : m ≤ n) : Spares m read := by
  intro s w hw a t hread
  obtain ⟨r, ht, hlength, hr⟩ := h s w hw a t hread
  exact ⟨r, ht, by omega, hr⟩

/-- What a reader that has to take a character does behind one. -/
theorem behind (h : Spares (n + 1) read) {c : Char} : Spares n fun s ↦ read (c :: s) := by
  intro s w hw a t hread
  obtain ⟨r, ht, hlength, hr⟩ := h (c :: s) w hw a t hread
  exact ⟨r, ht, Nat.le_of_succ_le_succ hlength, hr⟩

/-- One reader behind another. -/
theorem bind {next : Read α → Except Fault (Read β)} (h : Spares m read)
    (hnext : ∀ a, Spares n fun s ↦ next (a, s)) : Spares (m + n) fun s ↦ read s >>= next := by
  intro s w hw b t hread
  obtain ⟨⟨a, t'⟩, hfirst, hrest⟩ := bind_eq_ok_iff.1 hread
  obtain ⟨r', rfl, hlength', hr'⟩ := h s w hw a t' hfirst
  obtain ⟨r, rfl, hlength, hr⟩ := hnext a r' w hw b t hrest
  exact ⟨r, rfl, by omega, bind_eq_ok_iff.2 ⟨(a, r'), hr', hr⟩⟩

/-- A reader whose result is put into another form. -/
theorem map (h : Spares n read) (f : α → β) :
    Spares n fun s ↦ read s >>= fun x ↦ .ok (f x.1, x.2) :=
  h.bind (n := 0) fun a ↦ pure (f a)

theorem ite {next : List Char → Except Fault (Read α)} {p : Prop} [Decidable p]
    (h : Spares n read) (hnext : Spares n next) :
    Spares n fun s ↦ if p then read s else next s := by
  by_cases hp : p
  · simpa only [if_pos hp] using h
  · simpa only [if_neg hp] using hnext

/-- A reader that has to take a character takes none of white space. -/
theorem ne_ok (h : Spares (n + 1) read) {w : List Char} (hw : ∀ c ∈ w, isBlank c = true) (a : α)
    (t : List Char) : read w ≠ .ok (a, t) := by
  intro hread
  obtain ⟨r, -, hlength, -⟩ := h [] w hw a t hread
  exact absurd hlength (by simp)

/-- A reader that fails in front of some characters, and goes on behind all others. -/
theorem of_cons (nil : ∀ x, read [] ≠ .ok x)
    (cons : ∀ c, (∀ s x, read (c :: s) ≠ .ok x) ∨
      isBlank c = false ∧ Spares n fun s ↦ read (c :: s)) : Spares (n + 1) read := by
  intro s w hw a t hread
  cases s with
  | nil =>
    cases w with
    | nil => exact absurd hread (nil _)
    | cons c w =>
      rcases cons c with hfail | ⟨hc, -⟩
      · exact absurd hread (hfail w _)
      · cases hc.symm.trans (hw c List.mem_cons_self)
  | cons c s =>
    rcases cons c with hfail | ⟨-, hcons⟩
    · exact absurd hread (hfail (s ++ w) _)
    · obtain ⟨r, ht, hlength, hr⟩ := hcons s w hw a t hread
      exact ⟨r, ht, Nat.succ_le_succ hlength, hr⟩

/-- A reader that goes on behind some characters, and does something else in front of all others. -/
theorem of_stop {stop : List Char → Except Fault (Read α)} (hstop : Spares n stop)
    (nil : read [] = stop [])
    (cons : ∀ c, (∀ s, read (c :: s) = stop (c :: s)) ∨
      isBlank c = false ∧ Spares n fun s ↦ read (c :: s)) : Spares n read := by
  intro s w hw a t hread
  cases s with
  | nil =>
    have hsame : read w = stop w := by
      cases w with
      | nil => exact nil
      | cons c w =>
        rcases cons c with hsame | ⟨hc, -⟩
        · exact hsame w
        · cases hc.symm.trans (hw c List.mem_cons_self)
    rw [nil]
    exact hstop [] w hw a t (hsame ▸ hread)
  | cons c s =>
    rcases cons c with hsame | ⟨-, hcons⟩
    · rw [hsame]
      exact hstop (c :: s) w hw a t (hsame (s ++ w) ▸ hread)
    · obtain ⟨r, ht, hlength, hr⟩ := hcons s w hw a t hread
      exact ⟨r, ht, Nat.le_succ_of_le hlength, hr⟩

end Spares

/-! ### Words -/

theorem spares_readWord {α : Type} (a : α) {word : List Char} (hword : word.any isBlank = false) :
    Spares 0 fun s ↦ readWord word s >>= fun rest ↦ .ok (a, rest) := by
  induction word with
  | nil => exact Spares.pure a
  | cons d word ih =>
    rw [List.any_cons, Bool.or_eq_false_iff] at hword
    refine (Spares.of_cons (n := 0) ?_ fun c ↦ ?_).weaken (Nat.zero_le _)
    · rintro x ⟨⟩
    · by_cases heq : c = d
      · refine .inr ⟨heq ▸ hword.1, ?_⟩
        simpa only [readWord, if_pos heq] using ih hword.2
      · left
        intro s x
        rw [readWord, if_neg heq]
        rintro ⟨⟩

/-! ### Numbers -/

theorem spares_readFloat (negative : Bool) (significand : Nat) (exponent : Int) :
    Spares 0 (readFloat negative significand exponent) := by
  unfold readFloat
  split
  · exact Spares.pure _
  · exact Spares.fail _

theorem dropDigits_append_blank {w : List Char} (hw : ∀ c ∈ w, isBlank c = true) (s : List Char) :
    (s ++ w).dropWhile isDecimalDigit = s.dropWhile isDecimalDigit ++ w :=
  Text.dropWhile_append_blank (fun _ ↦ Text.isDecimalDigit_of_isBlank) hw s

theorem takeDigits_append_blank {w : List Char} (hw : ∀ c ∈ w, isBlank c = true) (s : List Char) :
    (s ++ w).takeWhile isDecimalDigit = s.takeWhile isDecimalDigit :=
  Text.takeWhile_append_blank (fun _ ↦ Text.isDecimalDigit_of_isBlank) hw s

theorem readSignificand_append_blank {w : List Char} (hw : ∀ c ∈ w, isBlank c = true) (n : Nat)
    (s : List Char) :
    readSignificand n (s ++ w) = ((readSignificand n s).1, (readSignificand n s).2.1,
      (readSignificand n s).2.2 ++ w) := by
  induction s generalizing n with
  | nil =>
    cases w with
    | nil => rfl
    | cons c w =>
      have hc := Text.decimalDigit?_of_isBlank (hw c List.mem_cons_self)
      simp only [List.nil_append, readSignificand, hc]
  | cons c s ih =>
    simp only [List.cons_append, readSignificand]
    cases decimalDigit? c with
    | none => rfl
    | some d =>
      by_cases hfits : n * 10 + d ≤ Text.max64
      · simp only [if_pos hfits, ih]
      · simp only [if_neg hfits]
        rfl

/-- What is left behind a significand starts with the digits that did not fit into it. -/
theorem dropDigits_readSignificand (n : Nat) (s : List Char) :
    (readSignificand n s).2.2.dropWhile isDecimalDigit = s.dropWhile isDecimalDigit := by
  induction s generalizing n with
  | nil => rfl
  | cons c s ih =>
    rw [readSignificand]
    cases hdigit : decimalDigit? c with
    | none => rfl
    | some d =>
      by_cases hfits : n * 10 + d ≤ Text.max64
      · have hc : isDecimalDigit c = true := by rw [isDecimalDigit, hdigit, Option.isSome_some]
        simp only [if_pos hfits, ih, List.dropWhile_cons_of_pos hc]
      · simp only [if_neg hfits]

theorem spares_readExponentDigits (negative : Bool) (significand : Nat) (start : Int)
    (minus : Bool) (e : Nat) :
    Spares 0 (readExponentDigits negative significand start minus e) := by
  intro s w hw a t hread
  have hfloat := spares_readFloat negative significand
  induction s generalizing e with
  | nil =>
    -- white space completes the number, as the end of the text does
    have hstop : readExponentDigits negative significand start minus e w =
        readFloat negative significand (if minus then start - e else start + e) w := by
      cases w with
      | nil => rfl
      | cons c w =>
        have hc := Text.decimalDigit?_of_isBlank (hw c List.mem_cons_self)
        simp only [readExponentDigits, hc]
    exact hfloat _ [] w hw a t (hstop ▸ hread)
  | cons c s ih =>
    rw [List.cons_append, readExponentDigits] at hread
    rw [readExponentDigits]
    cases hdigit : decimalDigit? c with
    | none =>
      rw [hdigit] at hread
      exact hfloat _ (c :: s) w hw a t hread
    | some d =>
      by_cases hfits : e * 10 + d ≤ maxExponent
      · simp only [hdigit, if_pos hfits] at hread ⊢
        obtain ⟨r, ht, hlength, hr⟩ := ih _ hread
        exact ⟨r, ht, Nat.le_succ_of_le hlength, hr⟩
      by_cases hlarge : (significand ≠ 0 && !minus) = true
      · simp only [hdigit, if_neg hfits, if_pos hlarge] at hread
        cases hread
      · simp only [hdigit, if_neg hfits, if_neg hlarge] at hread ⊢
        cases hread
        exact ⟨_, dropDigits_append_blank hw s,
          Nat.le_succ_of_le (List.dropWhile_suffix _).length_le, rfl⟩

theorem spares_readExponentFrom (negative : Bool) (significand : Nat) (start : Int)
    (minus : Bool) : Spares 1 (readExponentFrom negative significand start minus) := by
  refine Spares.of_cons ?_ fun c ↦ ?_
  · rintro x ⟨⟩
  · cases hdigit : decimalDigit? c with
    | none =>
      left
      intro s x
      simp only [readExponentFrom, hdigit]
      rintro ⟨⟩
    | some d =>
      simp only [readExponentFrom, hdigit]
      exact .inr ⟨Text.isBlank_of_decimalDigit? hdigit,
        spares_readExponentDigits negative significand start minus d⟩

theorem spares_readExponent (negative : Bool) (significand : Nat) (start : Int) :
    Spares 1 (readExponent negative significand start) := by
  have hfrom := spares_readExponentFrom negative significand start
  refine Spares.of_stop (hfrom false) rfl fun c ↦ ?_
  by_cases hplus : c = '+'
  · subst hplus
    exact .inr ⟨rfl, hfrom false⟩
  by_cases hminus : c = '-'
  · subst hminus
    exact .inr ⟨rfl, hfrom true⟩
  · exact .inl fun s ↦ by simp [readExponent, hplus, hminus]

theorem spares_readAfterFraction (negative : Bool) (significand : Nat) (exponent : Int) :
    Spares 0 (readAfterFraction negative significand exponent) := by
  have hexponent := (spares_readExponent negative significand exponent).weaken (Nat.zero_le 1)
  refine Spares.of_stop (spares_readFloat negative significand exponent) rfl fun c ↦ ?_
  by_cases hlower : c = 'e'
  · subst hlower
    exact .inr ⟨rfl, hexponent⟩
  by_cases hupper : c = 'E'
  · subst hupper
    exact .inr ⟨rfl, hexponent⟩
  · exact .inl fun s ↦ by simp [readAfterFraction, hlower, hupper]

theorem spares_readFraction (negative : Bool) (significand : Nat) (exponent : Int) :
    Spares 1 (readFraction negative significand exponent) := by
  refine Spares.of_cons ?_ fun c ↦ ?_
  · rintro x ⟨⟩
  by_cases hc : isDecimalDigit c = true
  · refine .inr ⟨Text.isBlank_of_isDecimalDigit hc, ?_⟩
    -- the digits that are left behind the significand are dropped, so all digits are
    have heq : ∀ s, readFraction negative significand exponent (c :: s) =
        readAfterFraction negative (readSignificand significand (c :: s)).1
          (exponent - (readSignificand significand (c :: s)).2.1)
          (s.dropWhile isDecimalDigit) := by
      intro s
      simp only [readFraction, if_pos hc, dropDigits_readSignificand, List.dropWhile_cons_of_pos hc]
    intro s w hw a t (hread : readFraction negative significand exponent (c :: (s ++ w)) = _)
    have hdigits := readSignificand_append_blank hw significand (c :: s)
    rw [List.cons_append] at hdigits
    rw [heq, hdigits, dropDigits_append_blank hw] at hread
    obtain ⟨r, ht, hlength, hr⟩ := spares_readAfterFraction _ _ _ _ w hw a t hread
    exact ⟨r, ht, Nat.le_trans hlength (List.dropWhile_suffix _).length_le, (heq s).trans hr⟩
  · left
    intro s x
    rw [readFraction, if_neg hc]
    rintro ⟨⟩

theorem spares_readAfterWhole (negative : Bool) (significand dropped : Nat) :
    Spares 0 (readAfterWhole negative significand dropped) := by
  have hfraction := (spares_readFraction negative significand dropped).weaken (Nat.zero_le 1)
  have hexponent := (spares_readExponent negative significand dropped).weaken (Nat.zero_le 1)
  have hstop := Spares.ite (p := dropped = 0) (Spares.pure (wholeNumber negative significand))
    (spares_readFloat negative significand dropped)
  refine Spares.of_stop hstop rfl fun c ↦ ?_
  by_cases hpoint : c = '.'
  · subst hpoint
    exact .inr ⟨rfl, hfraction⟩
  by_cases hlower : c = 'e'
  · subst hlower
    exact .inr ⟨rfl, hexponent⟩
  by_cases hupper : c = 'E'
  · subst hupper
    exact .inr ⟨rfl, hexponent⟩
  · exact .inl fun s ↦ by simp [readAfterWhole, hpoint, hlower, hupper]

theorem spares_readNumber (negative : Bool) : Spares 1 (readNumber negative) := by
  refine Spares.of_cons ?_ fun c ↦ ?_
  · rintro x ⟨⟩
  by_cases hzero : c = '0'
  · subst hzero
    refine .inr ⟨rfl, Spares.of_stop (spares_readAfterWhole negative 0 0) rfl fun c ↦ ?_⟩
    by_cases hc : isDecimalDigit c = true
    · simp only [readNumber, if_pos hc]
      exact .inr ⟨Text.isBlank_of_isDecimalDigit hc, Spares.fail _⟩
    · exact .inl fun s ↦ by simp only [readNumber, if_neg hc]
  by_cases hc : isDecimalDigit c = true
  · refine .inr ⟨Text.isBlank_of_isDecimalDigit hc, ?_⟩
    have heq : ∀ s, readNumber negative (c :: s) =
        readAfterWhole negative (readSignificand 0 (c :: s)).1
          ((readSignificand 0 (c :: s)).2.2.takeWhile isDecimalDigit).length
          (s.dropWhile isDecimalDigit) := by
      intro s
      simp [readNumber, hc, dropDigits_readSignificand, List.dropWhile_cons_of_pos hc]
    intro s w hw a t (hread : readNumber negative (c :: (s ++ w)) = _)
    have hdigits := readSignificand_append_blank hw 0 (c :: s)
    rw [List.cons_append] at hdigits
    rw [heq, hdigits, takeDigits_append_blank hw, dropDigits_append_blank hw] at hread
    obtain ⟨r, ht, hlength, hr⟩ := spares_readAfterWhole _ _ _ _ w hw a t hread
    exact ⟨r, ht, Nat.le_trans hlength (List.dropWhile_suffix _).length_le, (heq s).trans hr⟩
  · left
    intro s x
    simp [readNumber, hc]

/-! ### Strings -/

/-- Four digits are read whatever follows them. -/
theorem exists_of_readHex4 {s t : List Char} {n : Nat} (h : readHex4 s = .ok (n, t)) :
    ∃ digits, s = digits ++ t ∧ (∀ c ∈ digits, isBlank c = false) ∧
      ∀ rest, readHex4 (digits ++ rest) = .ok (n, rest) := by
  unfold readHex4 at h
  split at h
  · cases h
  split at h
  · next a b c d rest hsize =>
    split at h
    · next ha hb hc hd =>
      cases h
      refine ⟨[a, b, c, d], rfl, ?_, fun rest ↦ ?_⟩
      · simp only [List.forall_mem_cons]
        exact ⟨Text.isBlank_of_hexDigit? ha, Text.isBlank_of_hexDigit? hb,
          Text.isBlank_of_hexDigit? hc, Text.isBlank_of_hexDigit? hd, nofun⟩
      · have hsize' : ¬ Text.Utf8.size (List.take 4 ([a, b, c, d] ++ rest)) < 4 := hsize
        unfold readHex4
        rw [if_neg hsize']
        simp only [List.cons_append, ha, hb, hc, hd, List.nil_append]
    · cases h
  · cases h

theorem spares_readHex4 : Spares 0 readHex4 := by
  intro s w hw n t hread
  obtain ⟨digits, hs, hdigits, hagain⟩ := exists_of_readHex4 hread
  rcases List.append_eq_append_iff.1 hs with ⟨more, hmore, hw'⟩ | ⟨r, rfl, rfl⟩
  · -- what is left of the digits behind `s` belongs to the white space
    have hnil : more = [] := by
      rw [List.eq_nil_iff_forall_not_mem]
      intro c hc
      have hblank := hw c (hw' ▸ List.mem_append_left t hc)
      cases hblank.symm.trans (hdigits c (hmore ▸ List.mem_append_right s hc))
    subst hnil
    rw [List.append_nil] at hmore
    refine ⟨[], hw'.symm, Nat.zero_le _, ?_⟩
    simpa only [hmore, List.append_nil] using hagain []
  · exact ⟨r, rfl, by simp, hagain r⟩

theorem spares_readLowSurrogate (high : Nat) : Spares 1 (readLowSurrogate high) := by
  refine Spares.of_cons ?_ fun c ↦ ?_
  · rintro x ⟨⟩
  by_cases hslash : c = '\\'
  · subst hslash
    refine .inr ⟨rfl, (Spares.of_cons (n := 0) ?_ fun c ↦ ?_).weaken (Nat.zero_le _)⟩
    · rintro x ⟨⟩
    by_cases hu : c = 'u'
    · subst hu
      refine .inr ⟨rfl, ?_⟩
      exact spares_readHex4.bind (n := 0) fun low ↦ (Spares.pure _).ite (Spares.fail _)
    · left
      intro s x
      simp [readLowSurrogate, hu]
  · left
    intro s x
    simp [readLowSurrogate, hslash]

theorem spares_readUnicodeEscape : Spares 0 readUnicodeEscape := by
  refine spares_readHex4.bind (n := 0) fun n ↦ (Spares.fail _).ite (Spares.ite ?_ (Spares.pure _))
  exact (spares_readLowSurrogate n).weaken (Nat.zero_le _)

theorem spares_readEscape : Spares 1 readEscape := by
  refine Spares.of_cons ?_ fun c ↦ ?_
  · rintro x ⟨⟩
  by_cases hu : c = 'u'
  · subst hu
    exact .inr ⟨rfl, spares_readUnicodeEscape⟩
  by_cases hplain : c ∈ ['\"', '\\', '/', 'b', 'f', 'n', 'r', 't']
  · right
    simp only [List.mem_cons, List.not_mem_nil, or_false] at hplain
    rcases hplain with rfl | rfl | rfl | rfl | rfl | rfl | rfl | rfl <;>
      exact ⟨rfl, Spares.pure _⟩
  · left
    intro s x hread
    unfold readEscape at hread
    split at hread <;> simp_all

/-- A reader with fuel spares white space, and for the text alone any fuel suffices that is more
than the number of its characters. -/
def SparesWithFuel {α : Type} (n : Nat) (read : Nat → List Char → Except Fault (Read α)) : Prop :=
  ∀ fuel s w, (∀ c ∈ w, isBlank c = true) → ∀ a t, read fuel (s ++ w) = .ok (a, t) →
    ∃ r, t = r ++ w ∧ r.length + n ≤ s.length ∧
      ∀ fuel', s.length < fuel' → read fuel' s = .ok (a, r)

theorem SparesWithFuel.spares {α : Type} {n : Nat}
    {read : Nat → List Char → Except Fault (Read α)} (h : SparesWithFuel n read) :
    Spares n fun s ↦ read (s.length + 1) s := by
  intro s w hw a t hread
  obtain ⟨r, ht, hlength, hr⟩ := h ((s ++ w).length + 1) s w hw a t hread
  exact ⟨r, ht, hlength, hr (s.length + 1) (Nat.lt_succ_self _)⟩

theorem readStringFrom_plain {c : Char} (hquote : c ≠ '\"') (hslash : c ≠ '\\') (fuel : Nat)
    (s : List Char) :
    readStringFrom (fuel + 1) (c :: s) =
      if c.toNat < 0x20 then .error (.atNext .controlInString (c :: s))
      else readStringFrom fuel s >>= fun x ↦ .ok (c :: x.1, x.2) := by
  rw [readStringFrom]
  · rfl
  · exact hquote
  · exact hslash

/-- White space does not end a string. -/
theorem readStringFrom_blank {w : List Char} (hw : ∀ c ∈ w, isBlank c = true) (fuel : Nat)
    (x : Read (List Char)) : readStringFrom fuel w ≠ .ok x := by
  induction fuel generalizing w x with
  | zero => rintro ⟨⟩
  | succ fuel ih =>
    cases w with
    | nil => rintro ⟨⟩
    | cons c w =>
      have hc := hw c List.mem_cons_self
      rw [readStringFrom_plain (Text.ne_of_isBlank hc rfl) (Text.ne_of_isBlank hc rfl)]
      intro hread
      split at hread
      · cases hread
      · obtain ⟨y, hy, -⟩ := bind_eq_ok_iff.1 hread
        exact ih (fun d hd ↦ hw d (List.mem_cons_of_mem c hd)) y hy

theorem sparesWithFuel_readStringFrom : SparesWithFuel 1 readStringFrom := by
  intro fuel s w hw cs t hread
  induction fuel generalizing s cs t with
  | zero => cases hread
  | succ fuel ih =>
    cases s with
    | nil => exact absurd hread (readStringFrom_blank hw _ _)
    | cons c s =>
      by_cases hquote : c = '\"'
      · -- the end of the string
        subst hquote
        cases hread
        refine ⟨s, rfl, Nat.le_refl _, fun fuel' hfuel ↦ ?_⟩
        obtain ⟨fuel', rfl⟩ := Nat.exists_eq_succ_of_ne_zero (Nat.ne_zero_of_lt hfuel)
        rfl
      by_cases hslash : c = '\\'
      · subst hslash
        obtain ⟨⟨d, t'⟩, hescape, hmore⟩ := bind_eq_ok_iff.1 hread
        obtain ⟨r', rfl, hlength', hr'⟩ := spares_readEscape s w hw d t' hescape
        obtain ⟨⟨ds, _⟩, hrest, heq⟩ := bind_eq_ok_iff.1 hmore
        cases heq
        obtain ⟨r, rfl, hlength, hr⟩ := ih r' ds _ hrest
        refine ⟨r, rfl, ?_, fun fuel' hfuel ↦ ?_⟩
        · simp only [List.length_cons]
          omega
        · simp only [List.length_cons] at hfuel
          obtain ⟨fuel', rfl⟩ := Nat.exists_eq_succ_of_ne_zero (Nat.ne_zero_of_lt hfuel)
          refine bind_eq_ok_iff.2 ⟨(d, r'), hr', bind_eq_ok_iff.2 ⟨(ds, r), hr fuel' ?_, rfl⟩⟩
          omega
      · rw [List.cons_append, readStringFrom_plain hquote hslash] at hread
        split at hread
        · cases hread
        next hprintable =>
        obtain ⟨⟨ds, _⟩, hrest, heq⟩ := bind_eq_ok_iff.1 hread
        cases heq
        obtain ⟨r, rfl, hlength, hr⟩ := ih s ds _ hrest
        refine ⟨r, rfl, Nat.le_succ_of_le hlength, fun fuel' hfuel ↦ ?_⟩
        obtain ⟨fuel', rfl⟩ := Nat.exists_eq_succ_of_ne_zero (Nat.ne_zero_of_lt hfuel)
        rw [readStringFrom_plain hquote hslash, if_neg hprintable]
        exact bind_eq_ok_iff.2 ⟨(ds, r), hr fuel' (Nat.lt_of_succ_lt_succ hfuel), rfl⟩

theorem spares_readString : Spares 1 readString :=
  sparesWithFuel_readStringFrom.spares.map String.ofList

end Json

end TransactionHarness
