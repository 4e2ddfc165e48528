import Mathlib.Data.List.DropRight
import TransactionHarness.Proofs.Settling
/-!
# Addresses that are gone on with

A text is put behind a slash behind an address. What has been read of the address alone says what is
read of both: the same place, and a path that goes on where the path of the address does. What is
taken away at the end of an address must not count, though, since it is not taken away in the
middle.

* `Url.EndsVisibly`: a text at whose end nothing is taken away that would count if it went on.
* `Url.HasOnlyPath`: an address has a path, and neither query nor fragment.
* `Url.withPath_hasOnlyPath_iff`: when a text is found in the path behind another one as it is.
* `Url.IsStem`: what is read of an address with anything behind it, and `Url.exists_isStem`: every
  address with a special scheme has a stem.
-/

namespace TransactionHarness

open Text

namespace Url

/-! ### Texts that go on -/

/-- No character is taken away at the end of the text but those that count nowhere. -/
def EndsVisibly (s : List Char) : Prop := ∀ c ∈ s.rtakeWhile isEdge, isSkipped c = true

instance (s : List Char) : Decidable (EndsVisibly s) :=
  decidable_of_iff ((s.rtakeWhile isEdge).all isSkipped = true) List.all_eq_true

/-- What counts of a text, if it goes on. -/
def opening (s : List Char) : List Char := (s.dropWhile isEdge).filter (!isSkipped ·)

/-- What is taken away at the end of a text is taken away with anything in front of it. -/
theorem mem_rtakeWhile_append {s t : List Char} {c : Char} (h : c ∈ t.rtakeWhile isEdge) :
    c ∈ (s ++ t).rtakeWhile isEdge := by
  have hmem := List.mem_reverse.1 h
  rw [List.rtakeWhile, List.mem_reverse, List.reverse_append, List.takeWhile_append]
  split
  · exact List.mem_append_left _ ((List.takeWhile_prefix isEdge).subset hmem)
  · exact hmem

theorem significant_eq_opening {s : List Char} (h : EndsVisibly s) :
    significant s = opening s := by
  have hsplit : dropLastWhile isEdge (s.dropWhile isEdge) ++
      (s.dropWhile isEdge).rtakeWhile isEdge = s.dropWhile isEdge :=
    List.rdropWhile_append_rtakeWhile
  have hnone : ((s.dropWhile isEdge).rtakeWhile isEdge).filter (!isSkipped ·) = [] := by
    rw [List.filter_eq_nil_iff]
    intro c hc
    have hmem : c ∈ (s.takeWhile isEdge ++ s.dropWhile isEdge).rtakeWhile isEdge :=
      mem_rtakeWhile_append hc
    rw [List.takeWhile_append_dropWhile] at hmem
    simp [h c hmem]
  rw [opening, ← hsplit, List.filter_append, hnone, List.append_nil, significant]

theorem opening_append {s t : List Char} (ht : ∀ c ∈ t.head?, isEdge c = false) :
    opening (s ++ t) = opening s ++ t.filter (!isSkipped ·) := by
  have hdrop : t.dropWhile isEdge = t := by
    rcases t with - | ⟨c, t⟩
    · rfl
    · exact List.dropWhile_cons_of_neg (by simp [ht c rfl])
  rw [opening, opening, List.dropWhile_append, hdrop]
  split
  · next hempty =>
    rw [List.isEmpty_iff.1 hempty, List.filter_nil, List.nil_append]
  · exact List.filter_append _ _

theorem forall_endsPath_iff {s : List Char} :
    (∀ c ∈ s, endsPath c = false) ↔ '?' ∉ s ∧ '#' ∉ s := by
  constructor
  · intro h
    exact ⟨fun hmem ↦ absurd (h _ hmem) (by decide), fun hmem ↦ absurd (h _ hmem) (by decide)⟩
  · rintro ⟨hquery, hfragment⟩ c hc
    refine Bool.eq_false_iff.2 fun hends ↦ ?_
    rcases endsPath_iff.1 hends with rfl | rfl
    · exact hquery hc
    · exact hfragment hc

theorem mem_opening {s : List Char} {c : Char} (hc : isEdge c = false)
    (hcounts : isSkipped c = false) : c ∈ opening s ↔ c ∈ s := by
  constructor
  · exact fun h ↦ (List.dropWhile_suffix isEdge).subset (List.mem_of_mem_filter h)
  · intro h
    rw [← List.takeWhile_append_dropWhile (p := isEdge) (l := s)] at h
    rcases List.mem_append.1 h with h | h
    · exact absurd (List.mem_takeWhile_imp h) (by simp [hc])
    · exact List.mem_filter.2 ⟨h, by simp [hcounts]⟩

/-- What ends a path counts everywhere. -/
theorem forall_endsPath_opening {s : List Char} :
    (∀ c ∈ opening s, endsPath c = false) ↔ ∀ c ∈ s, endsPath c = false := by
  rw [forall_endsPath_iff, forall_endsPath_iff, mem_opening rfl rfl, mem_opening rfl rfl]

theorem endsVisibly_append {s t : List Char} (hne : t ≠ []) (ht : ∀ c ∈ t, isEdge c = false) :
    EndsVisibly (s ++ t) := by
  rcases t.eq_nil_or_concat with rfl | ⟨t, c, rfl⟩
  · exact absurd rfl hne
  · have hc : ¬isEdge c = true := by simp [ht c (by simp)]
    intro d hd
    rw [List.concat_eq_append, ← List.append_assoc, List.rtakeWhile_concat_neg _ _ _ hc] at hd
    cases hd

theorem IsPathCharacter.counts {c : Char} (h : IsPathCharacter c) :
    isEdge c = false ∧ isSkipped c = false := by
  have hedge : isEdge c = false := by
    obtain ⟨⟨hlow, -⟩, hspace⟩ : (0x20 ≤ c.toNat ∧ c.toNat < 0x7F) ∧ c ≠ ' ' := by
      have hplain := h.1
      simp only [isEscapedInPath, isEscapedInFragment, isControl, Bool.or_eq_false_iff,
        decide_eq_false_iff_not, List.contains_cons, beq_eq_false_iff_ne] at hplain
      exact ⟨by omega, hplain.1.2.1⟩
    have hne : c.toNat ≠ 0x20 := fun heq ↦ hspace (Char.toNat_inj.1 heq)
    rw [isEdge, decide_eq_false_iff_not]
    omega
  refine ⟨hedge, Bool.eq_false_iff.2 fun hskipped ↦ ?_⟩
  have hkind : (c = '\t' ∨ c = '\n') ∨ c = '\r' := by simpa [isSkipped] using hskipped
  rcases hkind with (rfl | rfl) | rfl <;> cases hedge

theorem filter_of_characters {s : List Char} (h : ∀ c ∈ s, IsPathCharacter c) :
    s.filter (!isSkipped ·) = s :=
  List.filter_eq_self.2 fun c hc ↦ by simp [(h c hc).counts.2]

/-! ### Paths -/

theorem IsPathText.endsPath {s : List Char} (h : IsPathText s) : ∀ c ∈ s, endsPath c = false :=
  fun c hc ↦ endsPath_of_not_escaped (h.characters c hc).1

/-- The address has the path, and neither query nor fragment. -/
def HasOnlyPath (url : Url) (path : List Char) : Prop :=
  url.path.toList = path ∧ url.query? = none ∧ url.fragment? = none

instance (url : Url) (path : List Char) : Decidable (url.HasOnlyPath path) :=
  inferInstanceAs (Decidable (_ ∧ _))

variable {s t : List Char} (url : Url)

theorem withPath_append (hs : ∀ c ∈ s, endsPath c = false) (ht : ∀ c ∈ t.head?, endsPath c = true) :
    withPath true (s ++ t) url =
      withQuery true t { url with path := String.ofList (readPath true s) } := by
  have htake : (s ++ t).takeWhile (!endsPath ·) = s :=
    takeWhile_append_of_head (fun c hc ↦ by simp [hs c hc]) (fun c hc ↦ by simp [ht c hc])
  simp [withPath, htake]

/-- A text without query and fragment is a path. -/
theorem withPath_hasOnlyPath (hs : ∀ c ∈ s, endsPath c = false) :
    (withPath true s url).HasOnlyPath (readPath true s) := by
  rw [← List.append_nil s, withPath_append url hs (by simp), List.append_nil]
  exact ⟨String.toList_ofList, rfl, rfl⟩

/-- A question mark or a number sign begins a query or a fragment. -/
theorem not_endsPath_of_hasOnlyPath {path : List Char}
    (h : (withPath true s url).HasOnlyPath path) : ∀ c ∈ s, endsPath c = false := by
  have hsplit : s.takeWhile (!endsPath ·) ++ s.dropWhile (!endsPath ·) = s :=
    List.takeWhile_append_dropWhile
  have hpath : ∀ c ∈ s.takeWhile (!endsPath ·), endsPath c = false := fun c hc ↦ by
    simpa using List.mem_takeWhile_imp hc
  have hhead := List.head?_dropWhile_not (!endsPath ·) s
  generalize s.takeWhile (!endsPath ·) = path at hsplit hpath
  generalize s.dropWhile (!endsPath ·) = rest at hsplit hhead
  rcases rest with - | ⟨c, rest⟩
  · rwa [← hsplit, List.append_nil]
  · have hc : endsPath c = true := by simpa using hhead
    obtain ⟨-, hquery, hfragment⟩ := h
    rw [← hsplit, withPath_append url hpath (by simpa using hc)] at hquery hfragment
    rcases endsPath_iff.1 hc with rfl | rfl
    · cases hquery
    · cases hfragment

theorem isPathText_of_hasOnlyPath {path : List Char}
    (h : (withPath true s url).HasOnlyPath path) : IsPathText path := by
  have hs := not_endsPath_of_hasOnlyPath url h
  rw [← h.1, (withPath_hasOnlyPath url hs).1]
  exact isPathText_readPath s

/-- Behind the path of an address, without the slashes at its end, a text is read as it is exactly
if it can stand in a path and there is no such slash. -/
theorem withPath_hasOnlyPath_iff (hslash : ∀ c ∈ s.head?, isEitherSlash c = true)
    (hs : ∀ c ∈ s, endsPath c = false) :
    (withPath true (s ++ '/' :: t.filter (!isSkipped ·)) url).HasOnlyPath
        (dropLastWhile Config.isSlash (directory s) ++ '/' :: t) ↔
      (directory s).getLast? ≠ some '/' ∧ IsPathText t := by
  have hread (ht : IsPathText t) :
      (withPath true (s ++ '/' :: t.filter (!isSkipped ·)) url).HasOnlyPath
        (directory s ++ '/' :: t) := by
    rw [filter_of_characters ht.characters, ← readPath_of_isPathText hslash ht]
    have hall := isPathText_append_cons_iff.2 ⟨isPathText_nil, ht⟩
    exact withPath_hasOnlyPath url (List.forall_mem_append.2 ⟨hs, hall.endsPath⟩)
  constructor
  · intro h
    have ht := (isPathText_append_cons_iff.1 (isPathText_of_hasOnlyPath url h)).2
    have heq := (hread ht).1.symm.trans h.1
    have hcore := dropLastWhile_isSlash_eq_iff.1 (List.append_cancel_right heq).symm
    exact ⟨hcore.last, ht⟩
  · rintro ⟨hlast, ht⟩
    have hcore : IsCoreBefore (directory s) (directory s) := ⟨⟨0, (List.append_nil _).symm⟩, hlast⟩
    rw [dropLastWhile_isSlash_eq_iff.2 hcore]
    exact hread ht

/-! ### Addresses that are gone on with -/

/-- Both addresses lead to the same place, whoever asks there. -/
def SamePlace (url base : Url) : Prop :=
  url.scheme = base.scheme ∧ url.host? = base.host? ∧ url.port? = base.port?

instance (url base : Url) : Decidable (url.SamePlace base) := inferInstanceAs (Decidable (_ ∧ _))

theorem samePlace_withPath (special : Bool) (s : List Char) (url : Url) :
    (withPath special s url).SamePlace url := ⟨rfl, rfl, rfl⟩

/-- A text without slashes at its end, what of it is behind the front of the address, and the
address. What is put behind a slash behind the text is read behind the same front. -/
structure IsStem (core s : List Char) (base : Url) : Prop where
  behind : IsBehind s
  endsPath_iff : (∀ c ∈ s, endsPath c = false) ↔ ∀ c ∈ core, endsPath c = false
  base_eq : ∃ n, base = withPath true (s ++ slashes n) base
  parse_append : ∀ {text : String} {t : List Char}, text.toList = core ++ '/' :: t →
    EndsVisibly text.toList →
    parse text = .ok (withPath true (s ++ '/' :: t.filter (!isSkipped ·)) base)

/-- Slashes at the end of a text are behind the front of it. -/
theorem exists_of_append_slashes {s front behind : List Char} {n : Nat}
    (h : s ++ slashes n = front ++ behind) (hlast : front.getLast? ≠ some '/') :
    ∃ t, s = front ++ t ∧ behind = t ++ slashes n := by
  rcases List.append_eq_append_iff.1 h with ⟨more, rfl, hslashes⟩ | ⟨t, hs, hbehind⟩
  · rcases more.eq_nil_or_concat with rfl | ⟨more, c, rfl⟩
    · exact ⟨[], by simp, by simpa using hslashes.symm⟩
    · have hc : c ∈ slashes n := by simp [hslashes]
      refine absurd ?_ hlast
      simp [isSlash_iff.1 (isSlash_of_mem_slashes c hc)]
  · exact ⟨t, hs, hbehind⟩

theorem exists_isStem {text : String} {core : List Char} {base : Url}
    (hparse : parse text = .ok base) (special : (usualPort? base.scheme).isSome)
    (hends : EndsVisibly text.toList) (hcore : IsCoreBefore text.toList core) :
    ∃ s, IsStem core s base := by
  obtain ⟨⟨n, htext⟩, -⟩ := hcore
  have hslashes : ∀ c ∈ slashes n, IsPathCharacter c := (isPathText_slashes n).characters
  have hopening : significant text.toList = opening core ++ slashes n := by
    have hhead : ∀ c ∈ (slashes n).head?, isEdge c = false := fun c hc ↦
      (hslashes c (List.mem_of_mem_head? hc)).counts.1
    rw [significant_eq_opening hends, htext, opening_append hhead, filter_of_characters hslashes]
  rw [parse_eq_read, hopening] at hparse
  obtain ⟨front, behind, heq, hbehind, hfront⟩ := exists_isFront hparse special
  obtain ⟨s, hs, rfl⟩ := exists_of_append_slashes heq hfront.last
  have hsbehind : IsBehind s := by
    rcases s with - | ⟨c, s⟩
    · exact isBehind_nil
    · exact isBehind_cons.2 (isBehind_cons.1 hbehind)
  refine ⟨s, hsbehind, ?_, ⟨n, ?_⟩, fun {text' t} htext' hends' ↦ ?_⟩
  · have hopened := forall_endsPath_opening (s := core)
    rw [hs, List.forall_mem_append] at hopened
    exact (and_iff_right hfront.characters).symm.trans hopened
  · have hread := hfront.read_append _ hbehind
    rw [← heq, hparse] at hread
    exact Except.ok.inj hread
  · have hhead : ∀ c ∈ ('/' :: t).head?, isEdge c = false := by
      intro c hc
      obtain rfl := Option.some.inj hc
      rfl
    rw [parse_eq_read, significant_eq_opening hends', htext', opening_append hhead, hs,
      List.append_assoc]
    exact hfront.read_append _ (hsbehind.append (isBehind_cons.2 rfl))

/-- Behind the front of an address there is nothing or a path. -/
theorem IsStem.isEitherSlash {core s : List Char} {base : Url} (stem : IsStem core s base)
    (hs : ∀ c ∈ s, Url.endsPath c = false) : ∀ c ∈ s.head?, Url.isEitherSlash c = true := by
  intro c hc
  have hends := stem.behind c hc
  have hpath := hs c (List.mem_of_mem_head? hc)
  simp_all [endsAuthority, Url.endsPath, Url.isEitherSlash]

/-- The path of the address, up to slashes at its end. -/
theorem IsStem.core_path {core s : List Char} {base : Url} (stem : IsStem core s base)
    (hs : ∀ c ∈ s, Url.endsPath c = false) :
    dropLastWhile Config.isSlash base.path.toList =
      dropLastWhile Config.isSlash (directory s) := by
  obtain ⟨n, hbase⟩ := stem.base_eq
  obtain ⟨m, hpath⟩ := exists_readPath_eq (stem.isEitherSlash hs) n
  have hends : ∀ c ∈ s ++ slashes n, Url.endsPath c = false :=
    List.forall_mem_append.2 ⟨hs, (isPathText_slashes n).endsPath⟩
  rw [hbase, (withPath_hasOnlyPath base hends).1, hpath, dropLastWhile_isSlash_eq_iff]
  exact (dropLastWhile_isSlash_eq_iff.1 rfl).append_slashes m

end Url

end TransactionHarness
