import Mathlib.Data.List.Sort
import Mathlib.Data.String.Basic
import TransactionHarness.Proofs.Terms
/-!
# Objects with ascending keys

A JSON value keeps the fields of each of its objects in ascending order of their keys. Reading a
text brings that about, whatever order the text has them in, so `Json.IsCanonical` holds of every
body of a response (`Json.isCanonical_of_parseChars`). It makes the fields of an object a function
of its keys and their values, so that an expectation that names all keys and pins down all values
accepts one value only (`Expect.eq_of_matches_object`).
-/

namespace TransactionHarness

namespace Json

/-! ### Putting a field in its place -/

theorem mem_insertField {α : Type} {k : String} {a : α} {fields : List (String × α)}
    {field : String × α} (h : field ∈ insertField k a fields) :
    field = (k, a) ∨ field ∈ fields := by
  induction fields with
  | nil => exact .inl (List.mem_singleton.1 h)
  | cons first rest ih =>
    obtain ⟨l, b⟩ := first
    rw [insertField] at h
    split at h
    · exact List.mem_cons.1 h
    split at h
    · exact (List.mem_cons.1 h).imp_right (List.mem_cons_of_mem _)
    · rcases List.mem_cons.1 h with rfl | h
      · exact .inr List.mem_cons_self
      · exact (ih h).imp_right (List.mem_cons_of_mem _)

/-- Ascending keys still ascend with another field put in its place. -/
theorem ascending_insertField {α : Type} {fields : List (String × α)}
    (h : (fields.map Prod.fst).Pairwise (· < ·)) (k : String) (a : α) :
    ((insertField k a fields).map Prod.fst).Pairwise (· < ·) := by
  induction fields with
  | nil => simp [insertField]
  | cons first rest ih =>
    obtain ⟨l, b⟩ := first
    obtain ⟨hfirst, hrest⟩ := List.pairwise_cons.1 h
    rw [insertField]
    split
    · next hless =>
      -- the new key is in front of the first one, and so of all
      have hall : ∀ m ∈ l :: rest.map Prod.fst, k < m :=
        List.forall_mem_cons.2 ⟨hless, fun m hm ↦ lt_trans hless (hfirst m hm)⟩
      exact List.pairwise_cons.2 ⟨hall, h⟩
    split
    · next hsame => exact hsame ▸ h
    · next hless hne =>
      have hgreater : l < k := lt_of_le_of_ne (not_lt.1 hless) (Ne.symm hne)
      refine List.pairwise_cons.2 ⟨fun m hm ↦ ?_, ih hrest⟩
      obtain ⟨field, hfield, rfl⟩ := List.mem_map.1 hm
      rcases mem_insertField hfield with rfl | hfield
      · exact hgreater
      · exact hfirst _ (List.mem_map_of_mem hfield)

theorem fieldsCanonical_iff {fields : List (String × Json)} :
    FieldsCanonical fields ↔ ∀ field ∈ fields, field.2.IsCanonical := by
  induction fields with
  | nil => simp [FieldsCanonical]
  | cons first rest ih => simp [FieldsCanonical, ih]

theorem isCanonical_of_find? {k : String} {v : Json} {fields : List (String × Json)}
    (h : (obj fields).IsCanonical) (found : find? k fields = some v) : v.IsCanonical :=
  fieldsCanonical_iff.1 h.2 (k, v) (mem_of_find? found)

theorem isCanonical_of_item {v : Json} {before after : List Json}
    (h : (arr (before ++ v :: after)).IsCanonical) : v.IsCanonical := by
  induction before with
  | nil => exact h.1
  | cons w ws ih => exact ih h.2

theorem isCanonical_obj_nil : (obj []).IsCanonical := ⟨.nil, fieldsCanonical_iff.2 nofun⟩

/-! ### Reading -/

section Readers

variable {item : ItemReader} (canonical : ∀ s v rest, item s = .ok (v, rest) → v.IsCanonical)

include canonical

theorem areCanonical_of_readItems {fuel : Nat} {first : Bool} {s rest : List Char}
    {items : List Json} (h : readItems item fuel first s = .ok (items, rest)) :
    AreCanonical items := by
  induction fuel generalizing first s items rest with
  | zero => cases h
  | succ fuel ih =>
    rw [readItems] at h
    split at h
    · cases h
    · cases h
      trivial
    · obtain ⟨start, -, h⟩ := bind_eq_ok_iff.1 h
      obtain ⟨⟨x, _⟩, hx, h⟩ := bind_eq_ok_iff.1 h
      obtain ⟨⟨xs, _⟩, hxs, h⟩ := bind_eq_ok_iff.1 h
      cases h
      exact ⟨canonical _ _ _ hx, ih hxs⟩

theorem isCanonical_of_readField {s rest : List Char} {key : String} {v : Json}
    (h : readField item s = .ok ((key, v), rest)) : v.IsCanonical := by
  unfold readField at h
  split at h
  · obtain ⟨⟨_, _⟩, -, h⟩ := bind_eq_ok_iff.1 h
    dsimp only at h
    split at h
    · cases h
    · obtain ⟨⟨x, _⟩, hx, h⟩ := bind_eq_ok_iff.1 h
      cases h
      exact canonical _ _ _ hx
    · cases h
  · cases h

theorem isCanonical_of_readFields {fuel : Nat} {first : Bool} {s rest : List Char}
    {fields fields' : List (String × Json)} (start : (obj fields).IsCanonical)
    (h : readFields item fuel first fields s = .ok (fields', rest)) :
    (obj fields').IsCanonical := by
  induction fuel generalizing first s fields with
  | zero => cases h
  | succ fuel ih =>
    rw [readFields] at h
    split at h
    · cases h
    · cases h
      exact start
    · obtain ⟨_, -, h⟩ := bind_eq_ok_iff.1 h
      obtain ⟨⟨⟨key, x⟩, _⟩, hx, h⟩ := bind_eq_ok_iff.1 h
      refine ih ⟨ascending_insertField start.1 key x, fieldsCanonical_iff.2 fun field hfield ↦ ?_⟩ h
      rcases mem_insertField hfield with rfl | hfield
      · exact isCanonical_of_readField canonical hx
      · exact fieldsCanonical_iff.1 start.2 field hfield

end Readers

/-- What is read is canonical if what is read one level deeper is. -/
theorem isCanonical_of_readValue_of_nested {depth : Nat} {s rest : List Char} {v : Json}
    (nested : ∀ d, depth = d + 1 → ∀ s v rest, readValue d s = .ok (v, rest) → v.IsCanonical)
    (h : readValue depth s = .ok (v, rest)) : v.IsCanonical := by
  unfold readValue at h
  split at h
  · cases h
  case h_7 =>
    split at h
    · cases h
    · next d =>
      obtain ⟨⟨xs, _⟩, hxs, h⟩ := bind_eq_ok_iff.1 h
      cases h
      exact areCanonical_of_readItems (nested d rfl) hxs
  case h_8 =>
    split at h
    · cases h
    · next d =>
      obtain ⟨⟨xs, _⟩, hxs, h⟩ := bind_eq_ok_iff.1 h
      cases h
      exact isCanonical_of_readFields (nested d rfl) isCanonical_obj_nil hxs
  case h_9 =>
    split at h
    · obtain ⟨_, -, h⟩ := bind_eq_ok_iff.1 h
      cases h
      trivial
    · cases h
  -- a word, a string or a negative number has no fields
  all_goals
    obtain ⟨_, -, h⟩ := bind_eq_ok_iff.1 h
    cases h
    trivial

theorem isCanonical_of_readValue {depth : Nat} {s rest : List Char} {v : Json}
    (h : readValue depth s = .ok (v, rest)) : v.IsCanonical := by
  induction depth generalizing s v rest with
  | zero =>
    refine isCanonical_of_readValue_of_nested (fun d hd ↦ ?_) h
    cases hd
  | succ depth ih =>
    refine isCanonical_of_readValue_of_nested (fun d hd s v rest ↦ ?_) h
    cases hd
    exact ih

/-- A text that is read gives a value in which the keys of every object ascend. -/
theorem isCanonical_of_parseChars {s : List Char} {v : Json} (h : parseChars s = .ok v) :
    v.IsCanonical := by
  obtain ⟨rest, hread, -⟩ := parseChars_eq_ok_iff.1 h
  exact isCanonical_of_readValue hread

/-! ### Objects with given keys -/

/-- Keys that ascend differ from each other. -/
theorem nodup_of_isCanonical {fields : List (String × Json)} (h : (obj fields).IsCanonical) :
    (fields.map Prod.fst).Nodup :=
  h.1.imp fun hlt ↦ ne_of_lt hlt

/-- A field is found by its key if no other field has the key. -/
theorem find?_of_mem {α : Type} {k : String} {a : α} {fields : List (String × α)}
    (nodup : (fields.map Prod.fst).Nodup) (h : (k, a) ∈ fields) : find? k fields = some a := by
  induction fields with
  | nil => cases h
  | cons field rest ih =>
    obtain ⟨l, b⟩ := field
    obtain ⟨hfirst, hrest⟩ := List.nodup_cons.1 nodup
    rcases List.mem_cons.1 h with heq | hmem
    · obtain ⟨rfl, rfl⟩ := Prod.mk.inj heq
      exact if_pos rfl
    · have hk : k ∈ rest.map Prod.fst := List.mem_map_of_mem hmem
      have hne : l ≠ k := fun heq ↦ hfirst (heq ▸ hk)
      rw [find?, if_neg hne]
      exact ih hrest hmem

/-- The fields of an object are its keys with their values. -/
theorem eq_map_find? {fields : List (String × Json)} (nodup : (fields.map Prod.fst).Nodup) :
    fields = (fields.map Prod.fst).map fun k ↦ (k, (find? k fields).getD null) := by
  induction fields with
  | nil => rfl
  | cons first rest ih =>
    obtain ⟨l, b⟩ := first
    obtain ⟨hfirst, hrest⟩ := List.nodup_cons.1 nodup
    have hskip : ∀ k ∈ rest.map Prod.fst, find? k ((l, b) :: rest) = find? k rest := by
      intro k hk
      rw [find?, if_neg]
      rintro rfl
      exact hfirst hk
    have hself : find? l ((l, b) :: rest) = some b := by simp [find?]
    rw [List.map_cons, List.map_cons, hself, Option.getD_some]
    congr 1
    refine (ih hrest).trans (List.map_congr_left fun k hk ↦ ?_)
    rw [hskip k hk]

end Json

namespace Expect

variable {fields : List (String × Expect)}

/-- An object that has just the named keys matches if their values do. -/
theorem matches_obj_iff_of_perm {actual : List (String × Json)}
    (named : (actual.map Prod.fst).Perm (fields.map Prod.fst)) :
    (object fields).Matches (.obj actual) ↔
      ∀ f ∈ fields, ∃ w, Json.find? f.1 actual = some w ∧ f.2.Matches w := by
  rw [matches_object_iff]
  constructor
  · rintro ⟨_, ⟨⟩, -, hvalues⟩
    exact hvalues
  · intro hvalues
    exact ⟨actual, rfl, fun k ↦ named.mem_iff, hvalues⟩

/-- A canonical object that matches has the named keys in ascending order, with the values that it
has. -/
theorem eq_of_matches_object {v : Json} (h : (object fields).Matches v)
    (canonical : v.IsCanonical) (keys : List String) (ascending : keys.Pairwise (· < ·))
    (named : keys.Perm (fields.map Prod.fst)) :
    v = .obj (keys.map fun k ↦ (k, (v.field? k).getD .null)) := by
  obtain ⟨actual, rfl, hkeys, -⟩ := matches_object_iff.1 h
  have heq : actual.map Prod.fst = keys :=
    canonical.1.eq_of_mem_iff ascending fun k ↦ (hkeys k).trans named.mem_iff.symm
  rw [← heq]
  exact congrArg Json.obj (Json.eq_map_find? (Json.nodup_of_isCanonical canonical))

end Expect

end TransactionHarness
