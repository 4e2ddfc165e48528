import TransactionHarness.Lifecycle.Steps
import TransactionHarness.Proofs.Errand
/-!
# Paths between quotes

In the word for a part of a form, the path of a file is followed by what else is said of the file
and by further files. A path between quotes can hold whatever would end it otherwise: the first
quote that no backslash protects closes it.

* `Quoted.Reads`: the rule of the quotes, and `Quoted.readBody?_eq_some_iff`: reading follows it.
* `Quoted.flatMap_escapeChar`: what stands between the quotes comes from two replacements. The
  backslashes that the first one brings in are left alone by the second.
* `Part.read?`: what is taken from the word for a part.
* `Part.read?_quoted`: of a quoted path all is read, and nothing else is.
-/

namespace TransactionHarness.Curl

namespace Quoted

/-! ### The rule -/

/-- Behind an opening quote stands a name, and behind its closing quote the rest. -/
inductive Reads : List Char → List Char → List Char → Prop where
  /-- A quote closes, unless a backslash protects it. -/
  | close (after : List Char) : Reads ('\"' :: after) [] after
  /-- A backslash that protects something is no part of the name. -/
  | escaped {c : Char} {text name after : List Char} (special : isSpecial c = true)
      (rest : Reads text name after) : Reads ('\\' :: c :: text) (c :: name) after
  /-- Anything else stands for itself, as does a backslash that protects nothing. -/
  | plain {c : Char} {text name after : List Char} (inside : c ≠ '\"')
      (lone : c = '\\' → ∀ d ∈ text.head?, isSpecial d = false)
      (rest : Reads text name after) : Reads (c :: text) (c :: name) after

theorem reads_close_iff {text name after : List Char} :
    Reads ('\"' :: text) name after ↔ name = [] ∧ after = text := by
  constructor
  · intro h
    cases h with
    | close => exact ⟨rfl, rfl⟩
    | plain inside => exact absurd rfl inside
  · rintro ⟨rfl, rfl⟩
    exact .close after

theorem reads_escaped_iff {c : Char} (special : isSpecial c = true) {text name after : List Char} :
    Reads ('\\' :: c :: text) name after ↔ ∃ name', Reads text name' after ∧ c :: name' = name := by
  constructor
  · intro h
    cases h with
    | escaped _ rest => exact ⟨_, rest, rfl⟩
    | plain _ lone => exact absurd special (Bool.eq_false_iff.1 (lone rfl c rfl))
  · rintro ⟨name', rest, rfl⟩
    exact .escaped special rest

theorem reads_plain_iff {c : Char} (inside : c ≠ '\"') {text name after : List Char}
    (lone : c = '\\' → ∀ d ∈ text.head?, isSpecial d = false) :
    Reads (c :: text) name after ↔ ∃ name', Reads text name' after ∧ c :: name' = name := by
  constructor
  · intro h
    cases h with
    | close => exact absurd rfl inside
    | @escaped d _ _ _ special => exact absurd special (Bool.eq_false_iff.1 (lone rfl d rfl))
    | plain _ _ rest => exact ⟨_, rest, rfl⟩
  · rintro ⟨name', rest, rfl⟩
    exact .plain inside lone rest

/-- Reading with another beginning of the name. -/
theorem map_eq_some_iff {read? : Option (List Char × List Char)} {f : List Char → List Char}
    {name after : List Char} :
    (read?.map fun (name, after) ↦ (f name, after)) = some (name, after) ↔
      ∃ name', read? = some (name', after) ∧ f name' = name := by
  rcases read? with - | ⟨name', after'⟩
  · simp
  · simp only [Option.map_some, Option.some.injEq, Prod.mk.injEq]
    constructor
    · rintro ⟨hname, rfl⟩
      exact ⟨name', ⟨rfl, rfl⟩, hname⟩
    · rintro ⟨_, ⟨rfl, rfl⟩, hname⟩
      exact ⟨hname, rfl⟩

/-- Reading follows the rule, also behind a backslash that has been read already. -/
theorem readBody?_eq_some_iff (text : List Char) :
    (∀ name after, readBody? false text = some (name, after) ↔ Reads text name after) ∧
      ∀ name after, readBody? true text = some (name, after) ↔ Reads ('\\' :: text) name after := by
  induction text with
  | nil =>
    have hnone : ∀ name after, ¬ Reads [] name after := nofun
    have hlone : ∀ d ∈ ([] : List Char).head?, isSpecial d = false := by simp
    constructor <;> intro name after
    · simp [readBody?, hnone]
    · rw [reads_plain_iff (by decide) fun _ ↦ hlone]
      simp [readBody?, hnone]
  | cons c text ih =>
    obtain ⟨ih, ihBackslash⟩ := ih
    constructor <;> intro name after
    · rw [readBody?, if_neg Bool.false_ne_true]
      by_cases hquote : c = '\"'
      · rw [if_pos hquote, hquote, reads_close_iff]
        simp [eq_comm]
      by_cases hbackslash : c = '\\'
      · rw [if_neg hquote, if_pos hbackslash, hbackslash]
        exact ihBackslash name after
      · rw [if_neg hquote, if_neg hbackslash, map_eq_some_iff,
          reads_plain_iff hquote fun h ↦ absurd h hbackslash]
        simp only [ih]
    · rw [readBody?, if_pos rfl,
        map_eq_some_iff (f := fun name ↦ if isSpecial c then c :: name else '\\' :: c :: name)]
      by_cases hspecial : isSpecial c = true
      · simp only [if_pos hspecial, reads_escaped_iff hspecial, ih]
      · -- the backslash protects nothing, and neither of the two characters closes
        have hne : c ≠ '\\' ∧ c ≠ '\"' := by simpa [isSpecial, not_or] using hspecial
        have hlone : ∀ d ∈ (c :: text).head?, isSpecial d = false := by simpa using hspecial
        rw [reads_plain_iff (by decide) fun _ ↦ hlone]
        simp only [if_neg hspecial, reads_plain_iff hne.2 fun h ↦ absurd h hne.1, ih]
        constructor
        · rintro ⟨name', hreads, rfl⟩
          exact ⟨_, ⟨name', hreads, rfl⟩, rfl⟩
        · rintro ⟨_, ⟨name', hreads, rfl⟩, rfl⟩
          exact ⟨name', hreads, rfl⟩

/-- Whatever follows the closing quote, a name that was written has one reading. -/
theorem reads_escaped_name_iff {written following name after : List Char} :
    Reads (written.flatMap escapeChar ++ '\"' :: following) name after ↔
      name = written ∧ after = following := by
  rw [← (readBody?_eq_some_iff _).1, readBody?_flatMap_escapeChar]
  simp [eq_comm]

/-! ### Two replacements -/

/-- The text with something else for each occurrence of a character. -/
def replaced (c : Char) (new : List Char) (text : List Char) : List Char :=
  text.flatMap fun d ↦ if d = c then new else [d]

/-- Backslashes are doubled first, and then each quote gets one. -/
theorem flatMap_escapeChar (name : List Char) :
    name.flatMap escapeChar =
      replaced '\"' ['\\', '\"'] (replaced '\\' ['\\', '\\'] name) := by
  rw [replaced, replaced, List.flatMap_assoc]
  congr 1
  funext c
  by_cases hbackslash : c = '\\'
  · subst hbackslash
    rfl
  by_cases hquote : c = '\"'
  · subst hquote
    rfl
  · simp [escapeChar, isSpecial, hbackslash, hquote]

end Quoted

/-! ### Words for parts -/

/-- What is taken from the word for a part with a file. -/
structure Part where
  name : String
  path : String
  /-- What else is said of the file, and further files. -/
  more : String
  deriving DecidableEq, Repr

namespace Part

/-- What ends a path: something is said of the file, or another file follows. -/
def isEnd (c : Char) : Bool := c == ';' || c == ','

/-- The path of a file, and what follows it. Without quotes, or if they are not closed, it goes up
to the first character that ends one. -/
def readPath (text : List Char) : List Char × List Char :=
  match Quoted.read? text with
  | some (path, after) => (path, after.dropWhile fun c ↦ !isEnd c)
  | none => (text.takeWhile fun c ↦ !isEnd c, text.dropWhile fun c ↦ !isEnd c)

/-- Reads the word for a part: its name in front of the first equals sign, and a file behind an at
sign. -/
def read? (word : String) : Option Part :=
  (nameAndValue? word).bind fun (name, value) ↦
    match value.toList with
    | '@' :: text =>
      some ⟨name, String.ofList (readPath text).1, String.ofList (readPath text).2⟩
    | _ => none

theorem readPath_encode (path : String) :
    readPath (Quoted.encode path.toList) = (path.toList, []) := by
  have hread := Quoted.read?_encode_append path.toList []
  rw [List.append_nil] at hread
  simp only [readPath, hread, List.dropWhile_nil]

theorem read?_fileText {field : String} (hfield : '=' ∉ field.toList) (path : String) :
    read? (fileText field path) = some ⟨field, path, ""⟩ := by
  simp [read?, fileText_eq, nameAndValue?_append hfield, readPath_encode]

/-- **Quoted paths.** Between the quotes of a path stands what two replacements make of it, and
whatever follows the closing quote, the rule of the quotes gives the path and nothing but what
follows. So in the word that uploads the file the path is all that is read behind the name of the
part, and different paths have different texts between quotes. -/
theorem read?_quoted (path : String) :
    (∃ between, Quoted.encode path.toList = '\"' :: (between ++ ['\"']) ∧
      between = Quoted.replaced '\"' ['\\', '\"'] (Quoted.replaced '\\' ['\\', '\\'] path.toList) ∧
      ∀ following name after, Quoted.Reads (between ++ '\"' :: following) name after ↔
        name = path.toList ∧ after = following) ∧
    (∀ cfg id table, ∃ word,
      bodyFlags (Config.loadRequest cfg id table (.text path)).body = .ok [.formPart word] ∧
        read? word = some ⟨Config.uploadField, path, ""⟩) ∧
    ∀ path' : String,
      Quoted.encode path'.toList = Quoted.encode path.toList → path' = path := by
  refine ⟨⟨_, rfl, Quoted.flatMap_escapeChar _, fun _ _ _ ↦ Quoted.reads_escaped_name_iff⟩,
    fun cfg id table ↦ ⟨_, rfl, read?_fileText (by decide) path⟩, fun path' hsame ↦ ?_⟩
  have hread := readPath_encode path'
  rw [hsame, readPath_encode, Prod.mk.injEq, String.toList_inj] at hread
  exact hread.1.symm

/-- Without quotes a comma and a semicolon in a path are taken for what they are elsewhere. -/
example : read? "file=@a,b;type=c" = some ⟨"file", "a", ",b;type=c"⟩ := by decide

end Part

end TransactionHarness.Curl
