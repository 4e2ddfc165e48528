import Mathlib.Data.List.Basic
import Mathlib.Data.List.TakeWhile
import TransactionHarness.Config.Codec
import TransactionHarness.Proofs.Address
import TransactionHarness.Url.Parser
/-!
# Segments of addresses

The address of a step is the base of the interface and words behind it, each behind a slash. Some of
the words are fixed, and the others are the identifier of the transaction and the name of a table.
These stand in the address as they are, so a slash in them begins another segment, and a question
mark or a number sign ends the path.

All of this is about the address as it is written. Whoever sends the request reads it first, and
then segments such as `.` and `..` are carried out and backslashes count as slashes
(`Url.readPath`). So an identifier such as `..` is a segment here, but takes away the fixed word in
front of it there: what is said below of two addresses that differ need not hold of what is reached.

* `Url.segments`: the segments of a path, and `Url.segments_pathOf_iff`: which words are segments.
* `Config.address`: the address that words make.
* `Target`: what a step is about, and `Target.Asks`: the request of the step.
* `Target.url_of_asks`: which targets have one address.
-/

namespace TransactionHarness

open Text

/-! ### Segments of a path -/

namespace Text

variable {α : Type} [DecidableEq α] {separator : α}

/-- A piece holds nothing that is not in the text, and no separator. -/
theorem mem_of_mem_pieces {s piece : List α} (h : piece ∈ pieces separator s) :
    ∀ c ∈ piece, c ∈ s ∧ c ≠ separator := by
  induction s generalizing piece with
  | nil =>
    obtain rfl := List.mem_singleton.1 h
    nofun
  | cons d s ih =>
    rw [pieces] at h
    intro c hc
    split at h
    · rcases List.mem_cons.1 h with rfl | hpiece
      · cases hc
      · exact ⟨List.mem_cons_of_mem _ (ih hpiece c hc).1, (ih hpiece c hc).2⟩
    · next hd =>
      split at h
      · next hempty => exact absurd hempty (pieces_ne_nil separator s)
      · next first more hpieces =>
        rw [hpieces] at ih
        rcases List.mem_cons.1 h with rfl | hpiece
        · rcases List.mem_cons.1 hc with rfl | hc
          · exact ⟨List.mem_cons_self, hd⟩
          · have hfirst := ih List.mem_cons_self c hc
            exact ⟨List.mem_cons_of_mem _ hfirst.1, hfirst.2⟩
        · have hmore := ih (List.mem_cons_of_mem _ hpiece) c hc
          exact ⟨List.mem_cons_of_mem _ hmore.1, hmore.2⟩

end Text

namespace Url

/-- The segments of the path that a text starts with, which begins with a slash. They are those of
the text as it is written: neither are `.` and `..` carried out nor do backslashes count as slashes,
as they do when an address is read. -/
def segments (s : List Char) : List (List Char) :=
  (pieces '/' (s.takeWhile (!endsPath ·))).tail

/-- A word that can be a segment as it is. -/
def IsSegment (word : List Char) : Prop := ∀ c ∈ word, c ≠ '/' ∧ endsPath c = false

theorem pieces_append_pathOf (s : List Char) (words : List (List Char)) :
    pieces '/' (s ++ pathOf words) = pieces '/' s ++ words.flatMap (pieces '/') := by
  induction words generalizing s with
  | nil => simp [pathOf]
  | cons word words ih =>
    have hcons : pathOf (word :: words) = '/' :: (word ++ pathOf words) := rfl
    rw [hcons, pieces_append_cons, ih, List.flatMap_cons]

/-- The words behind each other are the segments of a path exactly if each of them can be one. -/
theorem segments_pathOf_iff {words : List (List Char)} :
    segments (pathOf words) = words ↔ ∀ word ∈ words, IsSegment word := by
  constructor
  · intro hsegments word hword c hc
    rw [← hsegments] at hword
    obtain ⟨hpath, hslash⟩ := mem_of_mem_pieces (List.mem_of_mem_tail hword) c hc
    exact ⟨hslash, by simpa using List.mem_takeWhile_imp hpath⟩
  · intro hwords
    have hpath : ∀ c ∈ pathOf words, (!endsPath c) = true := by
      intro c hc
      obtain ⟨word, hword, hmem⟩ := List.mem_flatMap.1 hc
      rcases List.mem_cons.1 hmem with rfl | hmem
      · rfl
      · simp [(hwords word hword c hmem).2]
    have hpieces : words.flatMap (pieces '/') = words := by
      have hone : ∀ word ∈ words, pieces '/' word = [word] := fun word hword ↦
        pieces_of_not_mem fun hslash ↦ (hwords word hword _ hslash).1 rfl
      rw [List.flatMap_congr hone, List.flatMap_singleton']
    rw [segments, List.takeWhile_eq_self_iff.2 hpath, ← List.nil_append (pathOf words),
      pieces_append_pathOf, hpieces]
    rfl

end Url

namespace Config

variable (cfg : Config)

/-- The address that the words make, each behind a slash. -/
def address (words : List String) : String :=
  cfg.apiBase ++ String.ofList (Url.pathOf (words.map String.toList))

theorem address_eq_iff {words words' : List String} :
    cfg.address words = cfg.address words' ↔
      Url.pathOf (words.map String.toList) = Url.pathOf (words'.map String.toList) := by
  rw [address, address, ← String.toList_inj]
  simp

/-- The slashes in front of a path are as good as one. -/
theorem endpoint_eq_address {path word : String} {words : List String}
    (hpath : path.toList = Url.pathOf ((word :: words).map String.toList))
    (hword : ∃ c rest, word.toList = c :: rest ∧ isSlash c = false) :
    cfg.endpoint path = cfg.address (word :: words) := by
  obtain ⟨c, rest, hword, hc⟩ := hword
  have hslash : isSlash '/' = true := rfl
  rw [endpoint, address, ← String.toList_inj, hpath]
  simp [Url.pathOf, hword, hc, hslash, apiBase]

end Config

/-! ### Targets of steps -/

/-- What a step is about, once a transaction has begun. -/
inductive Target where
  | status (id : TransactionId)
  | dump (id : TransactionId) (table : String)
  | load (id : TransactionId) (table : String)
  | finish (how : Finish) (id : TransactionId)
  deriving DecidableEq

namespace Target

/-- The word for what is done. -/
def verb : Target → String
  | status _ => "status"
  | dump _ _ => "dump"
  | load _ _ => "load"
  | finish how _ => how.name

/-- The transaction. -/
def id : Target → TransactionId
  | status id => id
  | dump id _ => id
  | load id _ => id
  | finish _ id => id

/-- The names that somebody else has chosen. -/
def names : Target → List String
  | status id => [id]
  | dump id table => [id, table]
  | load id table => [id, table]
  | finish _ id => [id]

/-- The words in the address. -/
def words (t : Target) : List String := "transaction" :: t.verb :: t.names

/-- The request of a step about the target. -/
inductive Asks (cfg : Config) : Target → Request → Prop where
  | status (id : TransactionId) : Asks cfg (.status id) (cfg.statusRequest id)
  | dump (id : TransactionId) (table : String) (format? : Option DumpFormat) :
      Asks cfg (.dump id table) (cfg.dumpRequest id table format?)
  | load (id : TransactionId) (table : String) (file : UploadPath) :
      Asks cfg (.load id table) (cfg.loadRequest id table file)
  | finish (how : Finish) (id : TransactionId) :
      Asks cfg (.finish how id) (cfg.finishRequest id how)

/-- What is in front of a slash in the name of the table is taken for the end of the identifier. -/
def Shifted (t t' : Target) : Prop :=
  t.verb = t'.verb ∧ ∃ id part table, t.names = [id, part ++ "/" ++ table] ∧
    t'.names = [id ++ "/" ++ part, table]

/-- A request goes to the address that the words of its target make. -/
theorem Asks.url_eq {cfg : Config} {t : Target} {request : Request} (asks : t.Asks cfg request) :
    request.url = cfg.address t.words := by
  have hword : ∃ c rest, "transaction".toList = c :: rest ∧ Config.isSlash c = false :=
    ⟨_, _, rfl, rfl⟩
  cases asks with
  | status id => exact cfg.endpoint_eq_address (by simp [Url.pathOf, verb, names]) hword
  | dump id table format? =>
    have hurl : cfg.endpoint ("/transaction/dump/" ++ id ++ "/" ++ table) =
        cfg.address (words (.dump id table)) :=
      cfg.endpoint_eq_address (by simp [Url.pathOf, verb, names]) hword
    cases format? <;> exact hurl
  | load id table file => exact cfg.endpoint_eq_address (by simp [Url.pathOf, verb, names]) hword
  | finish how id => exact cfg.endpoint_eq_address (by simp [Url.pathOf, verb, names]) hword

/-! ### Targets with one address -/

/-- The fixed words are segments. -/
theorem isSegment_fixed (t : Target) :
    Url.IsSegment "transaction".toList ∧ Url.IsSegment t.verb.toList := by
  cases t with
  | finish how => cases how <;> simp [Url.IsSegment, Url.endsPath, verb, Finish.name]
  | status | dump | load => simp [Url.IsSegment, Url.endsPath, verb]

theorem noSlash_verb (t : Target) : '/' ∉ t.verb.toList := fun hslash ↦
  (t.isSegment_fixed.2 '/' hslash).1 rfl

/-- A target is known from its verb and its names. -/
theorem eq_of_verb_of_names {t t' : Target} (hverb : t.verb = t'.verb)
    (hnames : t.names = t'.names) : t = t' := by
  have hfinish (how : Finish) : how.name ≠ "status" := by cases how <;> decide
  have hinj {how how' : Finish} : how.name = how'.name → how = how' := by
    cases how <;> cases how' <;> decide
  cases t <;> cases t' <;> simp_all [verb, names, (hfinish _).symm]
  exact hinj hverb

/-- The verb says whether there is a table. -/
theorem length_names_of_verb {t t' : Target} (hverb : t.verb = t'.verb) :
    t.names.length = t'.names.length := by
  have hfinish (how : Finish) : how.name ≠ "dump" ∧ how.name ≠ "load" := by
    cases how <;> decide
  cases t <;> cases t' <;> simp_all [verb, names, (hfinish _).1.symm, (hfinish _).2.symm]

/-- Names between slashes, in one way only unless a name has a slash itself. -/
theorem append_slash_eq_iff {s t s' t' : List Char} :
    s ++ '/' :: t = s' ++ '/' :: t' ↔ (s = s' ∧ t = t') ∨
      (∃ part, s' = s ++ '/' :: part ∧ t = part ++ '/' :: t') ∨
        ∃ part, s = s' ++ '/' :: part ∧ t' = part ++ '/' :: t := by
  constructor
  · intro h
    rcases List.append_eq_append_iff.1 h with ⟨part, rfl, hrest⟩ | ⟨part, rfl, hrest⟩
    · rcases part with - | ⟨c, part⟩
      · exact .inl ⟨(List.append_nil s).symm, (List.cons.inj hrest).2⟩
      · obtain ⟨rfl, rfl⟩ := List.cons.inj hrest
        exact .inr (.inl ⟨part, rfl, rfl⟩)
    · rcases part with - | ⟨c, part⟩
      · exact .inl ⟨List.append_nil s', (List.cons.inj hrest).2.symm⟩
      · obtain ⟨rfl, rfl⟩ := List.cons.inj hrest
        exact .inr (.inr ⟨part, rfl, rfl⟩)
  · rintro (⟨rfl, rfl⟩ | ⟨part, rfl, rfl⟩ | ⟨part, rfl, rfl⟩)
    · rfl
    · simp
    · simp

theorem exists_names (t : Target) :
    (∃ id, t.names = [id]) ∨ ∃ id table, t.names = [id, table] := by
  cases t with
  | status id => exact .inl ⟨id, rfl⟩
  | dump id table => exact .inr ⟨id, table, rfl⟩
  | load id table => exact .inr ⟨id, table, rfl⟩
  | finish how id => exact .inl ⟨id, rfl⟩

theorem eq_iff_of_verb {t t' : Target} (hverb : t.verb = t'.verb) : t = t' ↔ t.names = t'.names :=
  ⟨congrArg names, eq_of_verb_of_names hverb⟩

/-- A table begins elsewhere in the same text. -/
theorem shifted_iff {t t' : Target} (hverb : t.verb = t'.verb) {id table id' table' : String}
    (hnames : t.names = [id, table]) (hnames' : t'.names = [id', table']) :
    t.Shifted t' ↔ ∃ part, id'.toList = id.toList ++ '/' :: part ∧
      table.toList = part ++ '/' :: table'.toList := by
  have htext (s u : String) : (s ++ "/" ++ u).toList = s.toList ++ '/' :: u.toList := by simp
  rw [Shifted, hnames, hnames']
  constructor
  · rintro ⟨-, _, part, _, ⟨⟩, ⟨⟩⟩
    exact ⟨part.toList, htext _ _, htext _ _⟩
  · rintro ⟨part, hid, htable⟩
    obtain rfl : table = String.ofList part ++ "/" ++ table' := by
      simp [← String.toList_inj, htable]
    obtain rfl : id' = id ++ "/" ++ String.ofList part := by simp [← String.toList_inj, hid]
    exact ⟨hverb, id, _, table', rfl, rfl⟩

/-- The same names make the same path, and so do names that differ in where the table begins. -/
theorem pathOf_names_eq_iff {t t' : Target} (hverb : t.verb = t'.verb) :
    Url.pathOf (t.names.map String.toList) = Url.pathOf (t'.names.map String.toList) ↔
      t = t' ∨ t.Shifted t' ∨ t'.Shifted t := by
  have hlength := length_names_of_verb hverb
  rw [eq_iff_of_verb hverb]
  rcases t.exists_names with ⟨id, hnames⟩ | ⟨id, table, hnames⟩ <;>
    rcases t'.exists_names with ⟨id', hnames'⟩ | ⟨id', table', hnames'⟩ <;>
    rw [hnames, hnames'] at hlength ⊢
  · have hshifted : ¬ t.Shifted t' ∧ ¬ t'.Shifted t := by
      simp [Shifted, hnames, hnames']
    simp [Url.pathOf, hshifted, String.toList_inj]
  · cases hlength
  · cases hlength
  · have hpath (s u : String) :
        Url.pathOf ([s, u].map String.toList) = '/' :: (s.toList ++ '/' :: u.toList) := by
      simp [Url.pathOf]
    rw [hpath, hpath, List.cons_inj_right, append_slash_eq_iff,
      shifted_iff hverb hnames hnames', shifted_iff hverb.symm hnames' hnames]
    simp [String.toList_inj]

theorem address_words_eq_iff (cfg : Config) {t t' : Target} :
    cfg.address t.words = cfg.address t'.words ↔ t = t' ∨ t.Shifted t' ∨ t'.Shifted t := by
  have hpath (t : Target) : Url.pathOf (t.words.map String.toList) =
      Url.pathOf ["transaction".toList] ++
        '/' :: (t.verb.toList ++ Url.pathOf (t.names.map String.toList)) := rfl
  have hnames (t : Target) : ∃ rest, Url.pathOf (t.names.map String.toList) = '/' :: rest := by
    rcases t.exists_names with ⟨id, hnames⟩ | ⟨id, table, hnames⟩ <;> exact ⟨_, by rw [hnames]; rfl⟩
  rw [cfg.address_eq_iff, hpath, hpath, List.append_cancel_left_eq, List.cons_inj_right]
  constructor
  · intro h
    obtain ⟨rest, hrest⟩ := hnames t
    obtain ⟨rest', hrest'⟩ := hnames t'
    have hverb : t.verb = t'.verb := by
      rw [hrest, hrest', append_slash_eq_iff] at h
      rcases h with ⟨hverb, -⟩ | ⟨part, hverb, -⟩ | ⟨part, hverb, -⟩
      · exact String.toList_inj.1 hverb
      · exact absurd (hverb ▸ by simp) (noSlash_verb t')
      · exact absurd (hverb ▸ by simp) (noSlash_verb t)
    rw [hverb, List.append_cancel_left_eq] at h
    exact (pathOf_names_eq_iff hverb).1 h
  · intro h
    have hverb : t.verb = t'.verb := by
      rcases h with rfl | h | h
      · rfl
      · exact h.1
      · exact h.1.symm
    rw [hverb, (pathOf_names_eq_iff hverb).2 h]

/-- Without a slash in an identifier, nothing in front of a slash can be taken for one. -/
theorem not_shifted {t t' : Target} (noSlash : '/' ∉ t'.id.toList) : ¬ t.Shifted t' := by
  rintro ⟨-, id, part, table, -, hnames⟩
  have hid : t'.id = id ++ "/" ++ part := by
    cases t' <;> simp_all [names, Target.id]
  exact noSlash (hid ▸ by simp)

/-- **Addresses of steps.** Behind the base of the interface, the address of a step about a
transaction has the fixed words of the step, the identifier, and the table if there is one, each
behind a slash and as it is. These words are the segments of the path exactly if no slash, no
question mark and no number sign is in the identifier and the table. Two steps have one address
exactly if they are about the same or if a slash in the table of one stands for the slash behind the
identifier of the other. So without slashes in identifiers an address belongs to one target. This is
about addresses as they are written; where they are read, an identifier such as `..` makes two of
them one as well. -/
theorem url_of_asks {cfg : Config} {t : Target} {request : Request} (asks : t.Asks cfg request) :
    (∃ path, request.url = cfg.apiBase ++ String.ofList path ∧
      path = Url.pathOf (t.words.map String.toList) ∧
      (Url.segments path = t.words.map String.toList ↔
        ∀ name ∈ t.names, Url.IsSegment name.toList)) ∧
    ∀ {t' : Target} {request' : Request}, t'.Asks cfg request' →
      (request'.url = request.url ↔ t' = t ∨ t'.Shifted t ∨ t.Shifted t') ∧
      ('/' ∉ t.id.toList → '/' ∉ t'.id.toList → request'.url = request.url → t' = t) := by
  refine ⟨⟨_, asks.url_eq, rfl, ?_⟩, fun asks' ↦ ?_⟩
  · obtain ⟨htransaction, hverb⟩ := t.isSegment_fixed
    rw [Url.segments_pathOf_iff, List.forall_mem_map, words, List.forall_mem_cons,
      List.forall_mem_cons]
    exact ⟨fun h ↦ h.2.2, fun h ↦ ⟨htransaction, hverb, h⟩⟩
  · rw [asks.url_eq, asks'.url_eq]
    refine ⟨address_words_eq_iff cfg, fun hslash hslash' hsame ↦ ?_⟩
    rcases (address_words_eq_iff cfg).1 hsame with heq | hshifted | hshifted
    · exact heq
    · exact absurd hshifted (not_shifted hslash)
    · exact absurd hshifted (not_shifted hslash')

theorem url_of_asks_slashes :
    (Config.standard.dumpRequest "T/a" "b" none).url =
        (Config.standard.dumpRequest "T" "a/b" (some .csv)).url ∧
      (Config.standard.finishRequest "T" .commit).url ≠
        (Config.standard.finishRequest "T?" .commit).url := by
  have hshifted : (dump "T" "a/b").Shifted (dump "T/a" "b") := ⟨rfl, "T", "a", "b", rfl, rfl⟩
  have hasks : (dump "T" "a/b").Asks Config.standard _ := .dump "T" "a/b" (some .csv)
  have hasks' : (finish .commit "T?").Asks Config.standard _ := .finish .commit "T?"
  have hdump := (url_of_asks hasks).2 (.dump "T/a" "b" none)
  have hfinish := (url_of_asks hasks').2 (.finish .commit "T")
  refine ⟨hdump.1.2 (.inr (.inr hshifted)), fun hsame ↦ ?_⟩
  exact absurd (hfinish.2 (by decide) (by decide) hsame) (by decide)

/-- Two dumps about different transactions and tables have one address. -/
theorem dump_url_not_injective :
    ¬ ∀ (cfg : Config) (id id' table table' : String) (format? : Option DumpFormat),
      table ≠ "" → table' ≠ "" →
      (cfg.dumpRequest id table format?).url = (cfg.dumpRequest id' table' format?).url →
      id = id' ∧ table = table' := by
  intro h
  have hsame : (Config.standard.dumpRequest "T/a" "b" none).url =
      (Config.standard.dumpRequest "T" "a/b" none).url := by decide
  exact absurd (h Config.standard "T/a" "T" "b" "a/b" none (by decide) (by decide) hsame).1
    (by decide)

end Target

end TransactionHarness
