import TransactionHarness.Response
/-!
# Results of reading

A reader gives a result or an error. A result of readers one behind the other is opened into the
results of each (`bind_eq_ok_iff`), down to what it means for a text that a value or a response is
read from it.

* `Json.parseChars_eq_ok_iff`: when a text is JSON.
* `Response.parse_eq_ok_iff`: when a text is a response.
-/

namespace TransactionHarness

/-! ### Results -/

section Results

variable {ε ε' α β : Type}

@[simp] theorem ok_bind (a : α) (f : α → Except ε β) : Except.ok a >>= f = f a := rfl

@[simp] theorem error_bind (e : ε) (f : α → Except ε β) : Except.error e >>= f = .error e := rfl

@[simp] theorem map_ok (f : α → β) (a : α) : f <$> (Except.ok a : Except ε α) = .ok (f a) := rfl

/-- A bind succeeds through a success of its first part. -/
theorem bind_eq_ok_iff {x : Except ε α} {f : α → Except ε β} {b : β} :
    x >>= f = .ok b ↔ ∃ a, x = .ok a ∧ f a = .ok b := by
  constructor
  · intro h
    rcases x with e | a
    · cases h
    · exact ⟨a, rfl, h⟩
  · rintro ⟨a, rfl, hf⟩
    exact hf

theorem map_eq_ok_iff {f : α → β} {x : Except ε α} {b : β} :
    f <$> x = .ok b ↔ ∃ a, x = .ok a ∧ f a = b := by
  constructor
  · intro h
    rcases x with e | a
    · cases h
    · exact ⟨a, rfl, Except.ok.inj h⟩
  · rintro ⟨a, rfl, rfl⟩
    rfl

/-- Errors in another form leave a success as it is. -/
theorem mapError_eq_ok_iff {f : ε → ε'} {x : Except ε α} {a : α} :
    x.mapError f = .ok a ↔ x = .ok a := by
  rcases x with e | b
  · show Except.error (f e) = .ok a ↔ Except.error e = .ok a
    simp
  · show Except.ok b = .ok a ↔ Except.ok b = .ok a
    rw [Except.ok.injEq, Except.ok.injEq]

/-- Of a success, its value is what is left without the errors. -/
theorem toOption_eq_some_iff {x : Except ε α} {a : α} : x.toOption = some a ↔ x = .ok a := by
  cases x <;> simp [Except.toOption]

end Results

/-! ### Texts that are read -/

/-- A text is JSON if a value is read from it and only white space is left. -/
theorem Json.parseChars_eq_ok_iff {s : List Char} {v : Json} :
    Json.parseChars s = .ok v ↔
      ∃ rest, Json.readValue Json.maxDepth s = .ok (v, rest) ∧ Json.skipSpace rest = [] := by
  unfold parseChars
  rw [bind_eq_ok_iff]
  constructor
  · rintro ⟨⟨w, rest⟩, hread, h⟩
    dsimp only at h
    split at h
    · next hrest =>
      cases h
      exact ⟨rest, hread, hrest⟩
    · cases h
  · rintro ⟨rest, hread, hrest⟩
    refine ⟨(v, rest), hread, ?_⟩
    dsimp only
    rw [hrest]
    rfl

/-- A text is read if its final response has a body that is JSON up to white space around it. -/
theorem Response.parse_eq_ok_iff {step : Step} {text : String} {response : Response} :
    parse step text = .ok response ↔ ∃ headers body v, final text.toList = some (headers, body) ∧
      Json.parseChars (Text.trim body) = .ok v ∧ response = ⟨headers.map String.ofList, v⟩ := by
  have hempty : ∀ v, Json.parseChars [] ≠ .ok v := nofun
  unfold parse read
  rcases final text.toList with - | ⟨headers, body⟩
  · simp
  · rcases hbody : Text.trim body with - | ⟨c, cs⟩
    · simp [hbody, hempty]
    · rcases hjson : Json.parseChars (c :: cs) with fault | v
      · simp [hbody, hjson]
      · simp only [hbody, hjson, List.isEmpty_cons, Option.some.injEq, Prod.mk.injEq]
        constructor
        · intro h
          exact ⟨headers, body, v, ⟨rfl, rfl⟩, hbody ▸ hjson, (Except.ok.inj h).symm⟩
        · rintro ⟨_, _, w, ⟨rfl, rfl⟩, hw, rfl⟩
          rw [hbody, hjson] at hw
          rw [Except.ok.inj hw]
          rfl

end TransactionHarness
