import TransactionHarness.Proofs.Canonical
/-!
# The first divergence

A mismatch tells where a value diverges from an expectation. Two things are kept apart here: the way
to the part of the value in which something is wrong, and what is wrong there. In both, everything
that is visited earlier matches.

* `Expect.Leads`: the way to a part, past parts that match.
* `Expect.Differs`: what is wrong in a part, with the words for it.
* `Expect.exists_leads_of_check`: a mismatch has a way and something wrong at its end.
* `Expect.Leads.exists_check` and `Expect.Differs.exists_check`: the converse, so that a value has
  one first divergence.
* `Expect.first_divergence`: both, with the path as it is shown.

That a key which nobody expects is the least one needs the keys of the object to ascend
(`Json.IsCanonical`), as they do in every value that is read.
-/

namespace TransactionHarness

namespace Expect

/-! ### Where a value diverges, and how -/

/-- From the outside the value is as expected: of an object or an array, the parts are not looked
at. -/
def Admits : Expect → Json → Prop
  | object _, v => ∃ fields, v = .obj fields
  | array items, v => ∃ values, v = .arr values ∧ values.length = items.length
  | e, v => e.Matches v

/-- The path leads from an expectation and a value to a part of each, and all parts that come before
match: the fields that are named earlier, the items in front. -/
inductive Leads : Expect → Json → List Segment → Expect → Json → Prop where
  | here (e : Expect) (v : Json) : Leads e v [] e v
  | field {before after : List (String × Expect)} {k : String} {e s : Expect}
      {actual : List (String × Json)} {v w : Json} {path : List Segment}
      (earlier : FieldsMatch before actual) (found : Json.find? k actual = some v)
      (rest : Leads e v path s w) :
      Leads (object (before ++ (k, e) :: after)) (.obj actual) (.key k :: path) s w
  | item {before after : List Expect} {e s : Expect} {values values' : List Json} {v w : Json}
      {path : List Segment} (earlier : ItemsMatch before values)
      (sameLength : after.length = values'.length) (rest : Leads e v path s w) :
      Leads (array (before ++ e :: after)) (.arr (values ++ v :: values'))
        (.index before.length :: path) s w

/-- What is wrong in a part: the last piece of the path, and the words for what was expected and
what was found. -/
inductive Differs : Expect → Json → List Segment → String → String → Prop where
  /-- The value itself is not as expected. -/
  | unlike {e : Expect} {v : Json} (unlike : ¬ e.Admits v) : Differs e v [] e.display v.render
  /-- An object lacks a key, and has all that are named earlier. -/
  | missing {before after : List (String × Expect)} {k : String} {e : Expect}
      {actual : List (String × Json)} (earlier : FieldsMatch before actual)
      (missing : k ∉ actual.map Prod.fst) :
      Differs (object (before ++ (k, e) :: after)) (.obj actual) [.key k] e.display "<missing>"
  /-- An object has all that is expected and another key. It is the least such key. -/
  | unexpected {fields : List (String × Expect)} {actual : List (String × Json)} {k : String}
      {v : Json} (earlier : FieldsMatch fields actual) (found : Json.find? k actual = some v)
      (unnamed : k ∉ fields.map Prod.fst)
      (least : ∀ l ∈ actual.map Prod.fst, l ∉ fields.map Prod.fst → k ≤ l) :
      Differs (object fields) (.obj actual) [.key k] "<absent>" v.render

/-! ### The parts that come before -/

theorem fieldsMatch_cons_iff {k : String} {e : Expect} {fields : List (String × Expect)}
    {actual : List (String × Json)} :
    FieldsMatch ((k, e) :: fields) actual ↔
      (∃ v, Json.find? k actual = some v ∧ e.Matches v) ∧ FieldsMatch fields actual := by
  rw [fieldsMatch_iff, fieldsMatch_iff, List.forall_mem_cons]

/-- Fields that match are passed. -/
theorem checkFields_append {before : List (String × Expect)} {actual : List (String × Json)}
    (h : FieldsMatch before actual) (fields : List (String × Expect)) :
    checkFields (before ++ fields) actual = checkFields fields actual := by
  induction before with
  | nil => rfl
  | cons field before ih =>
    obtain ⟨k, e⟩ := field
    obtain ⟨⟨v, hfound, hv⟩, hrest⟩ := fieldsMatch_cons_iff.1 h
    have hcheck : check e v = .ok () := (check_eq_ok_iff e v).2 hv
    rw [List.cons_append, checkFields, hfound]
    dsimp only
    rw [mapError_eq_ok_iff.2 hcheck, ok_bind]
    exact ih hrest

/-- The first field that does not match is missing, or its value has the mismatch. -/
theorem checkFields_eq_error_iff {fields : List (String × Expect)}
    {actual : List (String × Json)} {m : Mismatch} :
    checkFields fields actual = .error m ↔
      ∃ before k e after, fields = before ++ (k, e) :: after ∧ FieldsMatch before actual ∧
        ((Json.find? k actual = none ∧ m = ⟨[.key k], .missing e⟩) ∨
          ∃ v m', Json.find? k actual = some v ∧ check e v = .error m' ∧
            m = m'.under (.key k)) := by
  constructor
  · intro h
    induction fields with
    | nil => cases h
    | cons field fields ih =>
      obtain ⟨k, e⟩ := field
      rw [checkFields] at h
      rcases hfound : Json.find? k actual with - | v
      · rw [hfound] at h
        have hm : m = ⟨[.key k], .missing e⟩ := (Except.error.inj h).symm
        exact ⟨[], k, e, fields, rfl, .nil _, .inl ⟨hfound, hm⟩⟩
      simp only [hfound] at h
      rcases hcheck : check e v with m' | ⟨⟩
      · rw [hcheck] at h
        have hm : m = m'.under (.key k) := (Except.error.inj h).symm
        exact ⟨[], k, e, fields, rfl, .nil _, .inr ⟨v, m', hfound, hcheck, hm⟩⟩
      · -- the field matches, and so it is one of those in front of the first that does not
        have hv : e.Matches v := (check_eq_ok_iff e v).1 hcheck
        rw [hcheck] at h
        obtain ⟨before, l, e', after, rfl, hbefore, hl⟩ := ih h
        exact ⟨(k, e) :: before, l, e', after, rfl, .cons hfound hv hbefore, hl⟩
  · rintro ⟨before, k, e, after, rfl, hbefore, ⟨hmissing, rfl⟩ | ⟨v, m', hfound, hcheck, rfl⟩⟩
    · rw [checkFields_append hbefore, checkFields, hmissing]
    · rw [checkFields_append hbefore, checkFields, hfound]
      dsimp only
      rw [hcheck]
      rfl

/-- Items that match are passed. -/
theorem checkItems_append {before : List Expect} {values : List Json} (h : ItemsMatch before values)
    (i : Nat) (items : List Expect) (values' : List Json) :
    checkItems i (before ++ items) (values ++ values') =
      checkItems (i + before.length) items values' := by
  induction before generalizing i values with
  | nil =>
    cases h
    rfl
  | cons e before ih =>
    cases h with
    | cons head tail =>
      have hcheck := (check_eq_ok_iff _ _).2 head
      rw [List.cons_append, List.cons_append, checkItems, mapError_eq_ok_iff.2 hcheck, ok_bind,
        ih tail, List.length_cons, Nat.add_right_comm, Nat.add_assoc]

/-- The first item that does not match has the mismatch. -/
theorem checkItems_eq_error_iff {i : Nat} {items : List Expect} {values : List Json}
    {m : Mismatch} (sameLength : values.length = items.length) :
    checkItems i items values = .error m ↔
      ∃ before e after values₁ v values₂ m', items = before ++ e :: after ∧
        values = values₁ ++ v :: values₂ ∧ ItemsMatch before values₁ ∧
        after.length = values₂.length ∧ check e v = .error m' ∧
        m = m'.under (.index (i + before.length)) := by
  constructor
  · intro h
    induction items generalizing i values with
    | nil => cases h
    | cons e items ih =>
      rcases values with - | ⟨v, values⟩
      · cases sameLength
      have hlength : values.length = items.length := Nat.succ.inj sameLength
      rw [checkItems] at h
      rcases hcheck : check e v with m' | ⟨⟩
      · rw [hcheck] at h
        have hm : m = m'.under (.index i) := (Except.error.inj h).symm
        exact ⟨[], e, items, [], v, values, m', rfl, rfl, .nil, hlength.symm, hcheck, hm⟩
      · have hv : e.Matches v := (check_eq_ok_iff e v).1 hcheck
        rw [hcheck] at h
        obtain ⟨before, e', after, values₁, w, values₂, m', rfl, rfl, hbefore, hafter, hw, rfl⟩ :=
          ih hlength h
        refine ⟨e :: before, e', after, v :: values₁, w, values₂, m', rfl, rfl, .cons hv hbefore,
          hafter, hw, ?_⟩
        rw [List.length_cons, Nat.add_right_comm, Nat.add_assoc]
  · rintro ⟨before, e, after, values₁, v, values₂, m', rfl, rfl, hbefore, -, hcheck, rfl⟩
    rw [checkItems_append hbefore, checkItems, hcheck]
    rfl

/-! ### Mismatches of each kind -/

/-- A value that is not as expected from the outside is the mismatch itself. -/
theorem check_of_not_admits {e : Expect} {v : Json} (h : ¬ e.Admits v) :
    check e v = .error ⟨[], .unlike e v⟩ := by
  -- a leaf that does not match is not accepted, and nothing else is looked at
  have hleaf : ∀ (hcheck : check e v = if acceptsLeaf e v then .ok () else
      .error ⟨[], .unlike e v⟩), ¬ e.Matches v → check e v = .error ⟨[], .unlike e v⟩ := by
    intro hcheck hunlike
    rw [← check_eq_ok_iff, hcheck] at hunlike
    rw [hcheck, if_neg]
    intro haccepts
    exact hunlike (if_pos haccepts)
  cases e with
  | object fields =>
    cases v with
    | obj actual => exact absurd ⟨actual, rfl⟩ h
    | null | bool | num | str | arr => rfl
  | array items =>
    cases v with
    | arr values =>
      have hlength : values.length ≠ items.length := fun hlength ↦ h ⟨values, rfl, hlength⟩
      rw [check, if_neg hlength]
    | null | bool | num | str | obj => rfl
  | exact | null | anyString | nullOrString | nonEmptyArray => exact hleaf (by cases v <;> rfl) h

/-- The least of the unexpected keys is the first one that is found. -/
theorem unexpectedField?_eq_some_iff {names : List String} {actual : List (String × Json)}
    {k : String} {v : Json} (canonical : (Json.obj actual).IsCanonical) :
    unexpectedField? names actual = some (k, v) ↔
      Json.find? k actual = some v ∧ k ∉ names ∧
        ∀ l ∈ actual.map Prod.fst, l ∉ names → k ≤ l := by
  have hunnamed (l : String) : (!names.contains l) = true ↔ l ∉ names := by simp
  rw [unexpectedField?, List.find?_eq_some_iff_append, hunnamed]
  constructor
  · rintro ⟨hk, front, back, rfl, hfront⟩
    have hmem : (k, v) ∈ front ++ (k, v) :: back :=
      List.mem_append_right _ List.mem_cons_self
    refine ⟨Json.find?_of_mem (Json.nodup_of_isCanonical canonical) hmem, hk, ?_⟩
    intro l hl hln
    have hascending := canonical.1
    rw [List.map_append, List.map_cons] at hl hascending
    rcases List.mem_append.1 hl with hl | hl
    · -- all keys in front of the first unexpected one are named
      obtain ⟨field, hfield, rfl⟩ := List.mem_map.1 hl
      have hnamed : (! !names.contains field.1) = true := hfront field hfield
      rw [(hunnamed field.1).2 hln] at hnamed
      cases hnamed
    · rcases List.mem_cons.1 hl with rfl | hl
      · exact le_refl _
      · have hbehind := (List.pairwise_append.1 hascending).2.1
        exact le_of_lt (List.rel_of_pairwise_cons hbehind hl)
  · rintro ⟨hfound, hk, hleast⟩
    obtain ⟨front, back, rfl⟩ := List.append_of_mem (Json.mem_of_find? hfound)
    refine ⟨hk, front, back, rfl, fun field hfield ↦ ?_⟩
    have hascending := canonical.1
    rw [List.map_append, List.map_cons] at hascending
    have hless : field.1 < k := (List.pairwise_append.1 hascending).2.2 field.1
      (List.mem_map_of_mem hfield) k List.mem_cons_self
    have hmem : field.1 ∈ (front ++ (k, v) :: back).map Prod.fst :=
      List.mem_map_of_mem (List.mem_append_left _ hfield)
    rw [Bool.not_eq_true', ← Bool.not_eq_true, hunnamed]
    exact fun hln ↦ absurd hless (not_lt.2 (hleast field.1 hmem hln))

/-- An object that is not accepted has a field that is not, or a key that nobody expects. -/
theorem check_object_eq_error_iff {fields : List (String × Expect)}
    {actual : List (String × Json)} {m : Mismatch} :
    check (object fields) (.obj actual) = .error m ↔
      checkFields fields actual = .error m ∨ FieldsMatch fields actual ∧
        ∃ k v, unexpectedField? (fields.map Prod.fst) actual = some (k, v) ∧
          m = ⟨[.key k], .unexpected v⟩ := by
  rw [check, ← checkFields_iff]
  rcases checkFields fields actual with m' | ⟨⟩
  · simp
  · rcases unexpectedField? (fields.map Prod.fst) actual with - | ⟨k, v⟩
    · simp [pure, Except.pure]
    · simp [throw, throwThe, MonadExceptOf.throw, eq_comm]

theorem check_array_eq_error_iff {items : List Expect} {values : List Json} {m : Mismatch}
    (sameLength : values.length = items.length) :
    check (array items) (.arr values) = .error m ↔ checkItems 0 items values = .error m := by
  rw [check, if_pos sameLength]

/-! ### The first mismatch -/

/-- What is wrong in a part is found when the part is checked. -/
theorem Differs.exists_check {s : Expect} {w : Json} {rest : List Segment}
    {expected actual : String} (differs : s.Differs w rest expected actual)
    (canonical : w.IsCanonical) :
    ∃ m, s.check w = .error m ∧ m.path = rest ∧ m.expected = expected ∧ m.actual = actual := by
  cases differs with
  | unlike unlike => exact ⟨_, check_of_not_admits unlike, rfl, rfl, rfl⟩
  | @missing before after k e actual earlier missing =>
    have hfields : checkFields (before ++ (k, e) :: after) actual =
        .error ⟨[.key k], .missing e⟩ :=
      checkFields_eq_error_iff.2
        ⟨before, k, e, after, rfl, earlier, .inl ⟨Json.find?_eq_none_iff.2 missing, rfl⟩⟩
    exact ⟨_, check_object_eq_error_iff.2 (.inl hfields), rfl, rfl, rfl⟩
  | unexpected earlier found unnamed least =>
    have hunexpected := (unexpectedField?_eq_some_iff canonical).2 ⟨found, unnamed, least⟩
    exact ⟨_, check_object_eq_error_iff.2 (.inr ⟨earlier, _, _, hunexpected, rfl⟩), rfl, rfl, rfl⟩

/-- The mismatch of a part is the mismatch of the whole, at the end of the way to the part. -/
theorem Leads.exists_check {e s : Expect} {v w : Json} {front : List Segment} {m : Mismatch}
    (leads : e.Leads v front s w) (h : s.check w = .error m) :
    e.check v = .error { m with path := front ++ m.path } := by
  induction leads with
  | here => exact h
  | field earlier found _ ih =>
    refine check_object_eq_error_iff.2 (.inl (checkFields_eq_error_iff.2 ?_))
    exact ⟨_, _, _, _, rfl, earlier, .inr ⟨_, _, found, ih h, rfl⟩⟩
  | @item before after e s values values' v w path earlier sameLength _ ih =>
    have hbefore : before.length = values.length := (itemsMatch_iff.1 earlier).length_eq
    have hlength : (values ++ v :: values').length = (before ++ e :: after).length := by
      simp only [List.length_append, List.length_cons]
      omega
    refine (check_array_eq_error_iff hlength).2 ((checkItems_eq_error_iff hlength).2 ?_)
    refine ⟨before, e, after, values, v, values', _, rfl, rfl, earlier, sameLength, ih h, ?_⟩
    rw [Nat.zero_add]
    rfl

theorem Leads.isCanonical {e s : Expect} {v w : Json} {front : List Segment}
    (leads : e.Leads v front s w) (canonical : v.IsCanonical) : w.IsCanonical := by
  induction leads with
  | here => exact canonical
  | field _ found _ ih => exact ih (Json.isCanonical_of_find? canonical found)
  | item _ _ _ ih => exact ih (Json.isCanonical_of_item canonical)

theorem sizeOf_lt_of_field {k : String} {e : Expect} {fields : List (String × Expect)}
    (h : (k, e) ∈ fields) : sizeOf e < sizeOf (object fields) := by
  have hfield := List.sizeOf_lt_of_mem h
  rw [Prod.mk.sizeOf_spec] at hfield
  rw [object.sizeOf_spec]
  omega

theorem sizeOf_lt_of_item {e : Expect} {items : List Expect} (h : e ∈ items) :
    sizeOf e < sizeOf (array items) := by
  have hitem := List.sizeOf_lt_of_mem h
  rw [array.sizeOf_spec]
  omega

/-- A mismatch has a way to a part in which something is wrong. -/
theorem exists_leads_of_check (e : Expect) (v : Json) (m : Mismatch) (canonical : v.IsCanonical)
    (h : e.check v = .error m) :
    ∃ front rest s w, m.path = front ++ rest ∧ e.Leads v front s w ∧
      s.Differs w rest m.expected m.actual := by
  by_cases hadmits : e.Admits v
  case neg =>
    rw [check_of_not_admits hadmits] at h
    cases h
    exact ⟨[], [], e, v, rfl, .here e v, .unlike hadmits⟩
  match e, hadmits with
  | object fields, hadmits =>
    obtain ⟨actual, rfl⟩ := hadmits
    rcases check_object_eq_error_iff.1 h with hfields | ⟨hmatch, k, w, hunexpected, rfl⟩
    · obtain ⟨before, k, e', after, hsplit, hbefore, hwrong⟩ := checkFields_eq_error_iff.1 hfields
      rcases hwrong with ⟨hmissing, rfl⟩ | ⟨w, m', hfound, hcheck, rfl⟩
      · rw [hsplit]
        exact ⟨[], [.key k], _, _, rfl, .here _ _,
          .missing hbefore (Json.find?_eq_none_iff.1 hmissing)⟩
      · have hmem : (k, e') ∈ fields := hsplit ▸ List.mem_append_right _ List.mem_cons_self
        have hsize := sizeOf_lt_of_field hmem
        obtain ⟨front, rest, s, u, hpath, hleads, hdiffers⟩ :=
          exists_leads_of_check e' w m' (Json.isCanonical_of_find? canonical hfound) hcheck
        rw [hsplit]
        exact ⟨.key k :: front, rest, s, u, congrArg (Segment.key k :: ·) hpath,
          .field hbefore hfound hleads, hdiffers⟩
    · obtain ⟨hfound, hunnamed, hleast⟩ := (unexpectedField?_eq_some_iff canonical).1 hunexpected
      exact ⟨[], [.key k], _, _, rfl, .here _ _, .unexpected hmatch hfound hunnamed hleast⟩
  | array items, hadmits =>
    obtain ⟨values, rfl, hlength⟩ := hadmits
    have hitems := (check_array_eq_error_iff hlength).1 h
    obtain ⟨before, e', after, values₁, w, values₂, m', hsplit, rfl, hbefore, hafter, hcheck,
      rfl⟩ := (checkItems_eq_error_iff hlength).1 hitems
    have hmem : e' ∈ items := hsplit ▸ List.mem_append_right _ List.mem_cons_self
    have hsize := sizeOf_lt_of_item hmem
    obtain ⟨front, rest, s, u, hpath, hleads, hdiffers⟩ :=
      exists_leads_of_check e' w m' (Json.isCanonical_of_item canonical) hcheck
    rw [hsplit, Nat.zero_add]
    exact ⟨.index before.length :: front, rest, s, u,
      congrArg (Segment.index before.length :: ·) hpath, .item hbefore hafter hleads, hdiffers⟩
  | exact _, hmatches | null, hmatches | anyString, hmatches | nullOrString, hmatches
  | nonEmptyArray, hmatches =>
    -- the value matches, so that its check has no mismatch
    rw [(check_eq_ok_iff _ _).2 hmatches] at h
    cases h
termination_by sizeOf e
decreasing_by
  · exact hsize
  · exact hsize

/-- **The first divergence.** A mismatch shows the way to a part of the value, past parts that match
all, and what is wrong in that part: the part is not as expected from the outside, or lacks a key,
or has a key that nobody expects. What is wrong at the end of such a way is always what is shown. -/
theorem first_divergence (e : Expect) {v : Json} (canonical : v.IsCanonical) :
    (∀ m, e.check v = .error m → ∃ front rest s w,
      m.pathText = "$" ++ String.join ((front ++ rest).map Segment.text) ∧
        e.Leads v front s w ∧ s.Differs w rest m.expected m.actual) ∧
    ∀ front rest s w expected actual,
      e.Leads v front s w → s.Differs w rest expected actual → ∃ m, e.check v = .error m ∧
        m.pathText = "$" ++ String.join ((front ++ rest).map Segment.text) ∧
        m.expected = expected ∧ m.actual = actual := by
  constructor
  · intro m h
    obtain ⟨front, rest, s, w, hpath, hleads, hdiffers⟩ := exists_leads_of_check e v m canonical h
    refine ⟨front, rest, s, w, ?_, hleads, hdiffers⟩
    rw [Mismatch.pathText, hpath]
  · intro front rest s w expected actual hleads hdiffers
    obtain ⟨m, hcheck, rfl, hexpected, hactual⟩ :=
      hdiffers.exists_check (hleads.isCanonical canonical)
    exact ⟨_, hleads.exists_check hcheck, rfl, hexpected, hactual⟩

/-- The second item of an array in a field is another text. -/
theorem first_divergence_dumpFiles : ∃ m,
    (object [("dumpFiles", array [nonEmptyArray, exact (.str "T1")])]).check
      (.obj [("dumpFiles", .arr [.arr [.null], .str "T2"])]) = .error m ∧
    m.pathText = "$.dumpFiles[1]" ∧ m.expected = "\"T1\"" ∧ m.actual = "\"T2\"" := by
  have hfirst : ItemsMatch [nonEmptyArray] [.arr [.null]] := .cons (.nonEmptyArray _ _) .nil
  have hitems : (array ([nonEmptyArray] ++ [exact (.str "T1")])).Leads
      (.arr ([.arr [.null]] ++ [.str "T2"])) [.index 1] (exact (.str "T1")) (.str "T2") :=
    .item hfirst (show ([] : List Expect).length = ([] : List Json).length from rfl) (.here _ _)
  have hfields : (object ([] ++ [("dumpFiles", array [nonEmptyArray, exact (.str "T1")])])).Leads
      (.obj [("dumpFiles", .arr [.arr [.null], .str "T2"])]) [.key "dumpFiles", .index 1]
      (exact (.str "T1")) (.str "T2") :=
    .field (.nil _) (show Json.find? "dumpFiles" _ = some _ from rfl) hitems
  have hunlike : ¬ (exact (.str "T1")).Admits (.str "T2") := by
    rintro ⟨hsame⟩
    exact absurd hsame (by decide)
  obtain ⟨m, hcheck, hpath, hexpected, hactual⟩ :=
    (first_divergence _ (by simp [Json.IsCanonical, Json.AreCanonical, Json.FieldsCanonical])).2
      _ _ _ _ _ _ hfields (.unlike hunlike)
  exact ⟨m, hcheck, hpath.trans (by decide), hexpected.trans (by decide), hactual.trans (by decide)⟩

end Expect

end TransactionHarness
