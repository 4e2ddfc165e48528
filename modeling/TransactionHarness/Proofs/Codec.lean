import TransactionHarness.Proofs.Reading
import TransactionHarness.Transaction.Codec
/-!
# Answers read back

The decoder of each answer reads the JSON form of the answer back (`ofJson_toJson`). Of the result
of a dump more is said, since its contract leaves the items of one of its fields open: its decoder
reads exactly the bodies whose items are texts (`DumpResult.ofJson_withPaths`,
`Json.mapItems_asString_eq_ok_iff`).
-/

namespace TransactionHarness

open Json

namespace Json

/-! ### Records that are objects -/

namespace Record

variable (fields : List (String × Json))

@[simp] theorem ofJson_obj (name : String) : ofJson name (.obj fields) = .ok (byName fields) := rfl

@[simp] theorem precheck_byName (checks : List (String × (Json → Except Misfit Unit))) :
    precheck checks (byName fields) = precheckFields checks fields := rfl

@[simp] theorem get_byName {α : Type} (name : String) (count position : Nat)
    (f : RecordField α) :
    (byName fields).get name count position f =
      match find? f.name fields with
      | some v => f.decode v
      | none => match f.missing? with
        | some a => .ok a
        | none => .error (.missingField f.name) := rfl

@[simp] theorem finish_byName (count : Nat) : (byName fields).finish count = .ok () := rfl

end Record

/-! ### Simple values -/

@[simp] theorem asString_str (s : String) : asString (.str s) = .ok s := rfl

@[simp] theorem asOption_ofString? (s? : Option String) :
    asOption asString (.ofString? s?) = .ok s? := by
  cases s? <;> rfl

theorem asString_eq_ok_iff {v : Json} {s : String} : asString v = .ok s ↔ v = .str s := by
  cases v <;> simp [asString]

/-- A list of values is read as texts exactly if it is a list of texts. -/
theorem mapItems_asString_eq_ok_iff {items : List Json} {ss : List String} :
    mapItems asString items = .ok ss ↔ items = ss.map .str := by
  induction items generalizing ss with
  | nil => cases ss <;> simp [mapItems]
  | cons v vs ih =>
    simp only [mapItems, bind_eq_ok_iff, asString_eq_ok_iff, ih]
    constructor
    · rintro ⟨s, rfl, ss', rfl, h⟩
      exact Except.ok.inj h ▸ rfl
    · intro h
      cases ss with
      | nil => cases h
      | cons s ss =>
        obtain ⟨rfl, rfl⟩ := List.cons.inj h
        exact ⟨s, rfl, ss, rfl, rfl⟩

/-- A list of values is not read as texts exactly if one of them is none. -/
theorem exists_mapItems_asString_eq_error_iff {items : List Json} :
    (∃ misfit, mapItems asString items = .error misfit) ↔ ∃ v ∈ items, ∀ s, v ≠ .str s := by
  induction items with
  | nil => simp [mapItems]
  | cons v vs ih =>
    cases v
    case str s =>
      have hrest : (∃ v ∈ str s :: vs, ∀ s, v ≠ str s) ↔ ∃ v ∈ vs, ∀ s, v ≠ str s := by simp
      rw [hrest, ← ih, mapItems, asString_str]
      rcases mapItems asString vs with misfit | ss
      · exact iff_of_true ⟨misfit, rfl⟩ ⟨misfit, rfl⟩
      · apply iff_of_false <;>
        · rintro ⟨misfit, ⟨⟩⟩
    all_goals
      refine iff_of_true ⟨_, rfl⟩ ⟨_, List.mem_cons_self, ?_⟩
      rintro s ⟨⟩

end Json

@[simp] theorem TransactionType.ofJson_toJson (type : TransactionType) :
    TransactionType.ofJson type.toJson = .ok type := by
  cases type <;> rfl

@[simp] theorem TransactionStatus.ofJson_toJson (status : TransactionStatus) :
    TransactionStatus.ofJson status.toJson = .ok status := by
  cases status <;> rfl

@[simp] theorem DumpFormat.ofJson_toJson (format : DumpFormat) :
    DumpFormat.ofJson format.toJson = .ok format := by
  cases format <;> rfl

/-! ### Answers -/

theorem Transaction.ofJson_toJson (t : Transaction) : Transaction.ofJson t.toJson = .ok t := by
  simp [ofJson, toJson, Record.precheckFields, Record.check, find?, typeField, idField,
    statusField, startTimeField, endTimeField, RecordField.required, RecordField.nullable,
    Except.map]

/-- The JSON form of the result of a dump, but for its paths, which may be any values. -/
def DumpResult.withPaths (id : TransactionId) (table : String) (format : DumpFormat)
    (paths : List Json) : Json :=
  .obj [("downloadPathList", .arr paths), ("format", format.toJson), ("table", .str table),
    ("transactionId", .str id)]

/-- The result of a dump is read if its paths are. -/
theorem DumpResult.ofJson_withPaths (id : TransactionId) (table : String) (format : DumpFormat)
    (paths : List Json) :
    DumpResult.ofJson (withPaths id table format paths) =
      (mapItems asString paths).map fun paths ↦ ⟨id, table, format, paths⟩ := by
  cases hpaths : mapItems asString paths <;>
    simp [ofJson, withPaths, Record.precheckFields, Record.check, find?, idField, tableField,
      formatField, downloadPathsField, RecordField.required, asList, hpaths, Except.map]

theorem DumpResult.ofJson_toJson (d : DumpResult) : DumpResult.ofJson d.toJson = .ok d := by
  have hpaths : mapItems asString (d.downloadPaths.map .str) = .ok d.downloadPaths :=
    mapItems_asString_eq_ok_iff.2 rfl
  have h := ofJson_withPaths d.id d.table d.format (d.downloadPaths.map .str)
  rwa [hpaths] at h

theorem LoadResult.ofJson_toJson (l : LoadResult) : LoadResult.ofJson l.toJson = .ok l := by
  have hfiles : mapItems asString (l.dumpFiles.map .str) = .ok l.dumpFiles :=
    mapItems_asString_eq_ok_iff.2 rfl
  simp [ofJson, toJson, Record.precheckFields, Record.check, find?, idField, dumpFilesField,
    formatField, tableField, RecordField.required, asList, hfiles, Except.map]

end TransactionHarness
