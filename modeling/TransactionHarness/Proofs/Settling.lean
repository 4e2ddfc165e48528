import Mathlib.Data.List.Infix
import TransactionHarness.Proofs.Escapes
import TransactionHarness.Proofs.Front
import TransactionHarness.Proofs.Joints
/-!
# Settled paths

A path is read segment by segment. The segments that stand for places are carried out, and what
cannot stand in a path is escaped. So what has been read of a path can stand in one, and
says where the segments that follow it go.

* `Url.IsPathText`: a text that can stand in a path, and `Url.isPathText_readPath`: what has been
  read of a path is one.
* `Url.enter`: what one segment does to the segments in front, and `Url.settle_concat`: what all
  segments do.
* `Url.directory`: where the segments behind a text go, and `Url.readPath_of_isPathText`: a text
  that can stand in a path is found there as it is.
-/

namespace TransactionHarness.Url

open Text

/-! ### Texts of paths -/

/-- A segment that stands for itself. -/
def IsPlain (segment : List Char) : Prop := isDoubleDot segment = false ∧ isDot segment = false

/-- A character that stands in a path as it is. -/
def IsPathCharacter (c : Char) : Prop := isEscapedInPath c = false ∧ c ≠ '\\'

/-- A text that stands in a path as it is. -/
structure IsPathText (s : List Char) : Prop where
  characters : ∀ c ∈ s, IsPathCharacter c
  segments : ∀ segment ∈ pieces '/' s, IsPlain segment

instance (segment : List Char) : Decidable (IsPlain segment) :=
  inferInstanceAs (Decidable (_ ∧ _))

instance (c : Char) : Decidable (IsPathCharacter c) := inferInstanceAs (Decidable (_ ∧ _))

instance (s : List Char) : Decidable (IsPathText s) :=
  decidable_of_iff (s.all (IsPathCharacter ·) = true ∧ (pieces '/' s).all (IsPlain ·) = true) <| by
    simp only [List.all_eq_true, decide_eq_true_eq]
    exact ⟨fun h ↦ ⟨h.1, h.2⟩, fun h ↦ ⟨h.1, h.2⟩⟩

theorem isPathCharacter_slash : IsPathCharacter '/' := by decide

theorem isPlain_nil : IsPlain [] := by decide

theorem isPathText_nil : IsPathText [] :=
  ⟨nofun, fun _ h ↦ List.mem_singleton.1 h ▸ isPlain_nil⟩

theorem isPathText_append_cons_iff {s t : List Char} :
    IsPathText (s ++ '/' :: t) ↔ IsPathText s ∧ IsPathText t := by
  constructor
  · rintro ⟨hcharacters, hsegments⟩
    rw [pieces_append_cons] at hsegments
    exact ⟨⟨fun c hc ↦ hcharacters c (by simp [hc]),
        fun segment h ↦ hsegments segment (by simp [h])⟩,
      ⟨fun c hc ↦ hcharacters c (by simp [hc]), fun segment h ↦ hsegments segment (by simp [h])⟩⟩
  · rintro ⟨hs, ht⟩
    refine ⟨fun c hc ↦ ?_, fun segment h ↦ ?_⟩
    · rcases List.mem_append.1 hc with hc | hc
      · exact hs.characters c hc
      · rcases List.mem_cons.1 hc with rfl | hc
        · exact isPathCharacter_slash
        · exact ht.characters c hc
    · rw [pieces_append_cons] at h
      exact (List.mem_append.1 h).elim (hs.segments segment) (ht.segments segment)

theorem isPathText_slashes_append_iff (n : Nat) {s : List Char} :
    IsPathText (slashes n ++ s) ↔ IsPathText s := by
  induction n with
  | zero => rfl
  | succ n ih =>
    have hcons : slashes (n + 1) ++ s = [] ++ '/' :: (slashes n ++ s) := rfl
    rw [hcons, isPathText_append_cons_iff, ih]
    exact and_iff_right isPathText_nil

theorem isPathText_slashes (n : Nat) : IsPathText (slashes n) :=
  List.append_nil (slashes n) ▸ (isPathText_slashes_append_iff n).2 isPathText_nil

theorem isPathText_append_slashes_iff (n : Nat) {s : List Char} :
    IsPathText (s ++ slashes n) ↔ IsPathText s := by
  rcases n with - | n
  · rw [slashes, List.replicate_zero, List.append_nil]
  · have hcons : s ++ slashes (n + 1) = s ++ '/' :: slashes n := rfl
    rw [hcons, isPathText_append_cons_iff]
    exact and_iff_left (isPathText_slashes n)

theorem isPathText_append_pathOf {s : List Char} {words : List (List Char)} (hs : IsPathText s)
    (hwords : ∀ word ∈ words, IsPathText word) : IsPathText (s ++ pathOf words) := by
  induction words generalizing s with
  | nil => rwa [pathOf, List.flatMap_nil, List.append_nil]
  | cons word words ih =>
    obtain ⟨hword, hwords⟩ := List.forall_mem_cons.1 hwords
    exact isPathText_append_cons_iff.2 ⟨hs, ih hword hwords⟩

/-- Put together again, the segments of a text are the text. -/
theorem pathOf_pieces (s : List Char) : pathOf (pieces '/' s) = '/' :: s := by
  induction s with
  | nil => rfl
  | cons c s ih =>
    by_cases hc : c = '/'
    · rw [pieces, if_pos hc, hc, ← ih]
      rfl
    · rw [pieces, if_neg hc]
      rcases hpieces : pieces '/' s with - | ⟨first, more⟩
      · exact absurd hpieces (pieces_ne_nil '/' s)
      · rw [hpieces] at ih
        have hfirst : '/' :: (first ++ pathOf more) = '/' :: s := ih
        rw [← (List.cons.inj hfirst).2]
        rfl

/-! ### Segments that stand for places -/

/-- What a segment does to the segments in front of it, the nearest one first. -/
def enter (above : List (List Char)) (segment : List Char) : List (List Char) :=
  if isDoubleDot segment then above.tail else if isDot segment then above else segment :: above

variable {above segments : List (List Char)}

/-- A last segment that stands for a place leaves an empty one. -/
theorem settle_concat (above segments : List (List Char)) (last : List Char) :
    settle above (segments ++ [last]) =
      ((segments ++ [last]).foldl enter above).reverse ++
        if isDoubleDot last || isDot last then [[]] else [] := by
  induction segments generalizing above with
  | nil =>
    simp only [List.nil_append, settle, List.foldl_cons, List.foldl_nil, enter]
    by_cases hup : isDoubleDot last <;> by_cases hhere : isDot last <;> simp [hup, hhere]
  | cons segment segments ih =>
    obtain ⟨next, rest, hnext⟩ := List.exists_cons_of_ne_nil
      (show segments ++ [last] ≠ [] by simp)
    rw [List.cons_append, List.foldl_cons, ← ih, hnext,
      settle.eq_3 _ _ _ (List.cons_ne_nil next rest), enter]
    split
    · rfl
    split <;> rfl

theorem foldl_enter_of_plain (hplain : ∀ segment ∈ segments, IsPlain segment) :
    segments.foldl enter above = segments.reverse ++ above := by
  induction segments generalizing above with
  | nil => rfl
  | cons segment segments ih =>
    obtain ⟨⟨hup, hhere⟩, hplain⟩ := List.forall_mem_cons.1 hplain
    simp [ih hplain, enter, hup, hhere]

/-- A segment that is left was there before, or stands for itself. -/
theorem mem_foldl_enter {segment : List Char} (h : segment ∈ segments.foldl enter above) :
    segment ∈ above ∨ segment ∈ segments ∧ IsPlain segment := by
  induction segments generalizing above with
  | nil => exact .inl h
  | cons first segments ih =>
    rcases ih h with h | ⟨h, hplain⟩
    · unfold enter at h
      split at h
      · exact .inl (List.mem_of_mem_tail h)
      split at h
      · exact .inl h
      · next hup hhere =>
        rcases List.mem_cons.1 h with rfl | h
        · exact .inr ⟨List.mem_cons_self, Bool.eq_false_iff.2 hup, Bool.eq_false_iff.2 hhere⟩
        · exact .inl h
    · exact .inr ⟨List.mem_cons_of_mem _ h, hplain⟩

/-- Every segment that is left in the end is one that stands for itself, or an empty one. -/
theorem mem_settle {segment : List Char} (h : segment ∈ settle above segments) :
    segment ∈ above ∨ segment ∈ segments ∧ IsPlain segment ∨ segment = [] := by
  rcases segments.eq_nil_or_concat with rfl | ⟨segments, last, rfl⟩
  · exact .inl (List.mem_reverse.1 h)
  · rw [List.concat_eq_append, settle_concat] at h
    rw [List.concat_eq_append]
    rcases List.mem_append.1 h with h | h
    · exact (mem_foldl_enter (List.mem_reverse.1 h)).imp_right .inl
    · refine .inr (.inr ?_)
      split at h
      · exact List.mem_singleton.1 h
      · cases h

/-- Segments that stand for themselves behind others that are carried out. -/
theorem settle_append_of_plain (above segments : List (List Char)) {rest : List (List Char)}
    (hne : rest ≠ []) (hplain : ∀ segment ∈ rest, IsPlain segment) :
    settle above (segments ++ rest) = (segments.foldl enter above).reverse ++ rest := by
  obtain rfl | ⟨rest, last, rfl⟩ := rest.eq_nil_or_concat
  · exact absurd rfl hne
  · rw [List.concat_eq_append] at hplain ⊢
    obtain ⟨hup, hhere⟩ := hplain last (by simp)
    rw [← List.append_assoc, settle_concat, List.append_assoc, List.foldl_append,
      foldl_enter_of_plain hplain]
    simp [hup, hhere]

/-! ### Escapes -/

/-- An unreserved character or a percent sign can stand in a path, and is no slash. -/
theorem isPathCharacter_of_isUnreserved {c : Char}
    (h : Percent.isUnreserved c = true ∨ c = '%') : IsPathCharacter c ∧ c ≠ '/' := by
  have hrange : 0x20 < c.toNat ∧ c.toNat < 0x7F ∧ ∀ d ∈ [0x22, 0x23, 0x2F, 0x3C, 0x3E, 0x3F, 0x5C,
      0x60, 0x7B, 0x7D], c.toNat ≠ d := by
    rcases h with h | rfl
    · rw [Percent.isUnreserved_iff] at h
      simp only [List.forall_mem_cons, List.not_mem_nil, false_implies, implies_true, and_true]
      omega
    · decide
  obtain ⟨hlow, hhigh, hne⟩ := hrange
  have hcontrol : isControl c = false := by
    simp only [isControl, Bool.or_eq_false_iff, decide_eq_false_iff_not]
    omega
  have hother (d : Char) (hd : d.toNat ∈ [0x22, 0x23, 0x2F, 0x3C, 0x3E, 0x3F, 0x5C, 0x60, 0x7B,
      0x7D]) : c ≠ d := fun heq ↦ hne d.toNat hd (congrArg Char.toNat heq)
  have hspace : c ≠ ' ' := fun heq ↦ absurd hlow (heq ▸ by decide)
  refine ⟨⟨?_, hother _ (by decide)⟩, hother _ (by decide)⟩
  simp [isEscapedInPath, isEscapedInFragment, hcontrol, hspace, hother _]

/-- A character of an escaped text is one of the text, or stands for one of its bytes. -/
theorem mem_escape {s : List Char} {c : Char} (h : c ∈ escape isEscapedInPath s) :
    (c ∈ s ∧ isEscapedInPath c = false) ∨ IsPathCharacter c ∧ c ≠ '/' := by
  obtain ⟨d, hd, hc⟩ := List.mem_flatMap.1 h
  split at hc
  · obtain ⟨b, -, hb⟩ := List.mem_flatMap.1 hc
    exact .inr (isPathCharacter_of_isUnreserved ((Percent.isEncoded_encodeByte b).of_mem c hb))
  · next hplain =>
    obtain rfl := List.mem_singleton.1 hc
    exact .inl ⟨hd, Bool.eq_false_iff.2 hplain⟩

theorem escape_eq_self {s : List Char} (h : ∀ c ∈ s, isEscapedInPath c = false) :
    escape isEscapedInPath s = s := by
  have hone : ∀ c ∈ s, (if isEscapedInPath c then
      (String.utf8EncodeChar c).flatMap Percent.encodeByte else [c]) = [c] := fun c hc ↦ by
    simp [h c hc]
  rw [escape, List.flatMap_congr hone, List.flatMap_singleton']

/-- What ends a path is escaped in one. -/
theorem endsPath_of_not_escaped {c : Char} (h : isEscapedInPath c = false) :
    endsPath c = false := by
  simp_all [isEscapedInPath, endsPath]

/-- An escaped character begins with a percent sign, behind which no dot is written. -/
theorem exists_escape_suffix {s : List Char} {c : Char} (hmem : c ∈ s)
    (hc : isEscapedInPath c = true) :
    ∃ (b : UInt8) (rest : List Char), b ≠ 0x2E ∧
      Percent.encodeByte b ++ rest <:+ escape isEscapedInPath s := by
  obtain ⟨before, after, rfl⟩ := List.append_of_mem hmem
  obtain ⟨lead, tail, hencode, htake⟩ := Utf8.takeSequence_encodeChar c []
  refine ⟨lead, tail.flatMap Percent.encodeByte ++ escape isEscapedInPath after, ?_,
    escape isEscapedInPath before, ?_⟩
  · rintro rfl
    rw [Utf8.takeSequence_of_lt (by decide)] at htake
    obtain rfl := Option.some.inj (Prod.mk.inj htake).1
    cases hc
  · simp [escape, hc, hencode]

theorem eq_dot_of_digits {b : UInt8}
    (h : [Domain.lower (upperHex (b.toNat / 16)), Domain.lower (upperHex (b.toNat % 16))] =
      ['2', 'e']) : b = 0x2E := by
  have hhigh : ∀ n < 16, Domain.lower (upperHex n) = '2' → n = 2 := by decide
  have hlow : ∀ n < 16, Domain.lower (upperHex n) = 'e' → n = 14 := by decide
  obtain ⟨htwo, hrest⟩ := List.cons.inj h
  have hb : b.toNat < 256 := b.toNat_lt
  have hdiv := hhigh _ (by omega) htwo
  have hmod := hlow _ (by omega) (List.cons.inj hrest).1
  exact UInt8.toNat_inj.1 (show b.toNat = 46 by omega)

/-- The words for places have nothing but dots behind their percent signs, so a text that was none
of them is none when it has been escaped. -/
theorem contains_lower_escape {words : List String} {s : List Char}
    (hwords : ∀ word ∈ words, ∀ rest ∈ word.toList.tails, rest.head? = some '%' →
      (rest.drop 1).take 2 = ['2', 'e'])
    (h : words.contains (String.ofList (s.map Domain.lower)) = false) :
    words.contains (String.ofList ((escape isEscapedInPath s).map Domain.lower)) = false := by
  by_cases hescaped : ∃ c ∈ s, isEscapedInPath c = true
  · obtain ⟨c, hmem, hc⟩ := hescaped
    obtain ⟨b, rest, hb, hsuffix⟩ := exists_escape_suffix hmem hc
    refine Bool.eq_false_iff.2 fun hword ↦ hb ?_
    have hlower := hsuffix.map Domain.lower
    rw [← String.toList_ofList (l := (escape isEscapedInPath s).map _)] at hlower
    have hdot : [Domain.lower (upperHex (b.toNat / 16)), Domain.lower (upperHex (b.toNat % 16))] =
        ['2', 'e'] :=
      hwords _ (List.contains_iff_mem.1 hword) _ ((List.mem_tails _ _).2 hlower) rfl
    exact eq_dot_of_digits hdot
  · rwa [escape_eq_self (by simpa using hescaped)]

theorem isPlain_escape {s : List Char} (h : IsPlain s) : IsPlain (escape isEscapedInPath s) :=
  ⟨contains_lower_escape (by decide) h.1, contains_lower_escape (by decide) h.2⟩

/-- What has been escaped can stand in a path. -/
theorem isPathText_escape {s : List Char} (hs : ∀ c ∈ s, c ≠ '/' ∧ c ≠ '\\') (hplain : IsPlain s) :
    IsPathText (escape isEscapedInPath s) := by
  have hcharacters : ∀ c ∈ escape isEscapedInPath s, IsPathCharacter c ∧ c ≠ '/' := by
    intro c hc
    rcases mem_escape hc with ⟨hmem, hescaped⟩ | hwritten
    · exact ⟨⟨hescaped, (hs c hmem).2⟩, (hs c hmem).1⟩
    · exact hwritten
  have hpieces : pieces '/' (escape isEscapedInPath s) = [escape isEscapedInPath s] :=
    pieces_of_not_mem fun h ↦ (hcharacters '/' h).2 rfl
  refine ⟨fun c hc ↦ (hcharacters c hc).1, ?_⟩
  rw [hpieces, List.forall_mem_singleton]
  exact isPlain_escape hplain

/-! ### Paths -/

/-- A slash of the usual direction for one of either direction. -/
def straighten (c : Char) : Char := if c == '\\' then '/' else c

/-- The segments of a path as they are written, behind the slash that it begins with. -/
def written (s : List Char) : List (List Char) := (pieces '/' (s.map straighten)).tail

/-- The segments in front of a text that follows. -/
def standing (s : List Char) : List (List Char) := ((written s).foldl enter []).reverse

/-- What is read of a text when another segment follows. -/
def directory (s : List Char) : List Char :=
  pathOf ((standing s).map (escape isEscapedInPath))

theorem map_straighten {s : List Char} (h : ∀ c ∈ s, IsPathCharacter c) :
    s.map straighten = s := by
  have hone : ∀ c ∈ s, straighten c = c := fun c hc ↦ by simp [straighten, (h c hc).2]
  rw [List.map_congr_left hone, List.map_id']

theorem written_append (s t : List Char) :
    written (s ++ '/' :: t) = written s ++ pieces '/' (t.map straighten) := by
  have hmap : (s ++ '/' :: t).map straighten = s.map straighten ++ '/' :: t.map straighten := by
    simp [straighten]
  rw [written, written, hmap, pieces_append_cons, List.tail_append_of_ne_nil (pieces_ne_nil _ _)]

/-- The text behind the slash that a path begins with. -/
def behindSlash (s : List Char) : List Char :=
  match s with
  | '/' :: rest => rest
  | _ => s

theorem mem_of_mem_behindSlash {s : List Char} {c : Char} (h : c ∈ behindSlash s) : c ∈ s := by
  unfold behindSlash at h
  split at h
  · exact List.mem_cons_of_mem _ h
  · exact h

theorem readPath_eq_pieces (s : List Char) :
    readPath true s = pathOf ((settle [] (pieces '/' (behindSlash (s.map straighten)))).map
      (escape isEscapedInPath)) := rfl

/-- **What has been read of a path** can stand in one. -/
theorem isPathText_readPath (s : List Char) : IsPathText (readPath true s) := by
  have hne : ∀ c ∈ behindSlash (s.map straighten), c ≠ '\\' := by
    intro c hc
    obtain ⟨d, -, rfl⟩ := List.mem_map.1 (mem_of_mem_behindSlash hc)
    unfold straighten
    split
    · decide
    · next hd => simpa using hd
  rw [readPath_eq_pieces, ← List.nil_append (pathOf _)]
  refine isPathText_append_pathOf isPathText_nil (List.forall_mem_map.2 fun segment hsegment ↦ ?_)
  rcases mem_settle hsegment with hnone | ⟨hpiece, hplain⟩ | rfl
  · exact absurd hnone List.not_mem_nil
  · refine isPathText_escape (fun c hc ↦ ?_) hplain
    obtain ⟨hmem, hslash⟩ := mem_of_mem_pieces hpiece c hc
    exact ⟨hslash, hne c hmem⟩
  · exact isPathText_nil

theorem readPath_eq {s : List Char} (hne : s ≠ [])
    (hslash : ∀ c ∈ s.head?, isEitherSlash c = true) :
    readPath true s = pathOf ((settle [] (written s)).map (escape isEscapedInPath)) := by
  obtain ⟨c, s, rfl⟩ := List.exists_cons_of_ne_nil hne
  have hc : straighten c = '/' := by
    rcases isEitherSlash_iff.1 (hslash c rfl) with rfl | rfl <;> rfl
  have hmap : (c :: s).map straighten = '/' :: s.map straighten := by rw [List.map_cons, hc]
  have hwritten : written (c :: s) = pieces '/' (s.map straighten) := by
    rw [written, hmap, pieces, if_pos rfl, List.tail_cons]
  rw [hwritten, readPath_eq_pieces, hmap, behindSlash]

section

variable {s t : List Char}

/-- A path that goes on behind a text, segment by segment. -/
theorem readPath_append (hslash : ∀ c ∈ s.head?, isEitherSlash c = true) (t : List Char) :
    readPath true (s ++ '/' :: t) = pathOf
      ((settle [] (written s ++ pieces '/' (t.map straighten))).map (escape isEscapedInPath)) := by
  have hhead : ∀ c ∈ (s ++ '/' :: t).head?, isEitherSlash c = true := by
    rcases s with - | ⟨d, s⟩
    · intro c hc
      obtain rfl := Option.some.inj hc
      rfl
    · exact hslash
  rw [readPath_eq (by simp) hhead, written_append]

/-- A text that can stand in a path is found behind another one as it is. -/
theorem readPath_of_isPathText (hslash : ∀ c ∈ s.head?, isEitherSlash c = true)
    (ht : IsPathText t) : readPath true (s ++ '/' :: t) = directory s ++ '/' :: t := by
  have hone : ∀ segment ∈ pieces '/' t, escape isEscapedInPath segment = segment :=
    fun segment hsegment ↦ escape_eq_self fun c hc ↦
      (ht.characters c (mem_of_mem_pieces hsegment c hc).1).1
  rw [readPath_append hslash, map_straighten ht.characters,
    settle_append_of_plain _ _ (pieces_ne_nil '/' t) ht.segments, List.map_append,
    List.map_congr_left hone, List.map_id', ← pathOf_pieces t, directory, standing, pathOf, pathOf,
    pathOf, List.flatMap_append]

/-- With nothing but slashes behind it, what is read of a text is the same up to slashes. -/
theorem exists_readPath_eq (hslash : ∀ c ∈ s.head?, isEitherSlash c = true) (n : Nat) :
    ∃ m, readPath true (s ++ slashes n) = directory s ++ slashes m := by
  rcases n with - | n
  · rw [slashes, List.replicate_zero, List.append_nil]
    rcases s with - | ⟨d, s⟩
    · exact ⟨1, rfl⟩
    · rw [readPath_eq (List.cons_ne_nil d s) hslash]
      rcases (written (d :: s)).eq_nil_or_concat with hnone | ⟨segments, last, hsegments⟩
      · exact ⟨0, by rw [directory, standing, hnone]; rfl⟩
      · rw [directory, standing, hsegments, List.concat_eq_append, settle_concat, List.map_append,
          pathOf, List.flatMap_append]
        split
        · exact ⟨1, rfl⟩
        · exact ⟨0, rfl⟩
  · exact ⟨n + 1, readPath_of_isPathText hslash (isPathText_slashes n)⟩

end

end TransactionHarness.Url
