import TransactionHarness.Path.Artifact
import TransactionHarness.Path.Tree
/-!
# Files on a disk

A `Disk` knows the content of the files that were written to it, each under the path it was written
to. A path has to end in a name to lead to a file. Some paths cannot lead to anything, whatever is
on the disk; `fault?` says why.

Main statements: `read?_write_self` and `read?_write_of_ne`, `read?_remove_self` and
`read?_remove_of_ne` — what is read back after a change.
-/

namespace TransactionHarness

/-- The files that were written, each with its content. -/
structure Disk where
  files : List (String × List UInt8) := []
  deriving DecidableEq, Repr, Inhabited

namespace Disk

/-- Why a path cannot lead to anything. -/
def fault? (path : List Char) : Option String :=
  if path.contains '\x00' then some "file name contained an unexpected NUL byte"
  else if Path.longestPath < Path.byteSize path ∨
      ((Text.pieces '/' path).any fun segment ↦ Path.longestSegment < Path.byteSize segment) then
    some Path.Fault.tooLong.message
  else none

/-- Why the directory in front of a path cannot be made. -/
def directoryFault? (path : String) : Option String :=
  fault? (['/'].intercalate (Path.parentSegments '/' '.' path.toList))

/-- Whether a path ends in a name. -/
def endsInName (path : String) : Bool := Artifact.isName (Artifact.lastSegment path.toList)

/-- The content of a file. -/
def read? (d : Disk) (path : String) : Option (List UInt8) := d.files.lookup path

/-- The disk without a file. -/
def remove (d : Disk) (path : String) : Disk := ⟨d.files.filter (·.1 != path)⟩

/-- What is said about a file that is not there. -/
def missing : String := Path.Fault.missing.message

/-- Why no file can be written at a path. -/
def writeFault? (path : String) : Option String :=
  match fault? path.toList with
  | some reason => some reason
  | none =>
    if endsInName path then none
    else if path.isEmpty then some missing
    else some "Is a directory (os error 21)"

/-- The disk with a file, if one can be written at the path. -/
def write (d : Disk) (path : String) (content : List UInt8) : Disk :=
  match writeFault? path with
  | none => ⟨(path, content) :: d.files⟩
  | some _ => d

/-- The content of a file, or why there is none. -/
def content (d : Disk) (path : String) : Except String (List UInt8) :=
  match fault? path.toList with
  | some reason => .error reason
  | none =>
    match d.read? path with
    | some content => .ok content
    | none => .error missing

/-! ### What is read back -/

theorem read?_write_self {d : Disk} {path : String} (content : List UInt8)
    (h : writeFault? path = none) : (d.write path content).read? path = some content := by
  simp [write, h, read?]

theorem read?_write_of_ne {d : Disk} {path other : String} (content : List UInt8)
    (h : other ≠ path) : (d.write path content).read? other = d.read? other := by
  unfold write
  split
  · simp [read?, List.lookup_cons, beq_false_of_ne h]
  · rfl

theorem read?_remove_self (d : Disk) (path : String) : (d.remove path).read? path = none := by
  rw [read?, List.lookup_eq_none_iff]
  intro entry h
  have kept : entry.1 ≠ path := by simpa using (List.mem_filter.1 h).2
  exact bne_iff_ne.2 kept.symm

theorem read?_remove_of_ne {d : Disk} {path other : String} (h : other ≠ path) :
    (d.remove path).read? other = d.read? other := by
  obtain ⟨files⟩ := d
  simp only [read?, remove]
  induction files with
  | nil => rfl
  | cons entry rest ih =>
    obtain ⟨p, content⟩ := entry
    by_cases hp : p = path
    · subst hp
      simp [List.lookup_cons, beq_false_of_ne h, ih]
    · by_cases ho : other = p
      · simp [hp, ho]
      · simp [List.lookup_cons, hp, beq_false_of_ne ho, ih]

end Disk

end TransactionHarness
