import TransactionHarness.Text.Blank
/-!
# File paths

A path is a list of characters or of bytes whose segments are separated by slashes. Empty segments
and single dots at its end say nothing about the file that it names.

* `join` puts a path behind a directory.
* `fileName?` is the last segment that names something; two dots name no file.
* `parentSegments` are the segments in front of it.

Main statements: `join_eq_append` and `fileName?_append_slash`.
-/

namespace TransactionHarness.Path

/-- A path with a slash at its start replaces the directory; any other is put behind it, with a
slash in between unless there is one. -/
def join (directory path : List Char) : List Char :=
  if path.head? = some '/' then path
  else if directory.isEmpty || directory.getLast? == some '/' then directory ++ path
  else directory ++ '/' :: path

section Names

variable {α : Type} [DecidableEq α]

/-- Whether a segment leaves a path where it is. -/
def isIdle (dot : α) (segment : List α) : Bool := segment.isEmpty || segment == [dot]

/-- The segments of a path without those at its end that say nothing, the last one first. -/
def namingSegments (slash dot : α) (path : List α) : List (List α) :=
  (Text.pieces slash path).reverse.dropWhile (isIdle dot)

/-- The name of the file that a path leads to. -/
def fileName? (slash dot : α) (path : List α) : Option (List α) :=
  (namingSegments slash dot path).head?.filter (· != [dot, dot])

/-- The segments in front of the name of the file, in order. -/
def parentSegments (slash dot : α) (path : List α) : List (List α) :=
  (namingSegments slash dot path).tail.reverse

end Names

/-! ### Joining and naming -/

/-- A name without slashes is put behind the directory, whatever the directory is. -/
theorem join_eq_append {directory name : List Char} (h : '/' ∉ name) :
    ∃ between, join directory name = directory ++ between ++ name ∧
      (between = [] ∨ between = ['/']) := by
  have hhead : name.head? ≠ some '/' := fun e ↦ h (List.mem_of_head? e)
  unfold join
  rw [if_neg hhead]
  split
  · exact ⟨[], by simp, .inl rfl⟩
  · exact ⟨['/'], by simp, .inr rfl⟩

/-- A slash at the end does not change which file is named. -/
theorem fileName?_append_slash {α : Type} [DecidableEq α] (slash dot : α) (path : List α) :
    fileName? slash dot (path ++ [slash]) = fileName? slash dot path := by
  simp [fileName?, namingSegments, Text.pieces_append_separator, isIdle]

end TransactionHarness.Path
