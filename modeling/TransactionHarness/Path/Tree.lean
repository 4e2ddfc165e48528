import TransactionHarness.Path.Basic
import TransactionHarness.Text.Utf8
/-!
# Following paths

A path is followed segment by segment, from the root if it starts with a slash and from the working
directory otherwise. An empty segment and a single dot stay where they are, two dots go back, and
every other segment has to be the name of a directory or, at the end, of a file.

* `FileTree.follow` gives the place that a path leads to, or why it leads nowhere.
* `FileTree.startFault` tells why no program starts under a path. A name without a slash is not a
  path: programs of that name are looked for in other directories.

Main statements: `follow_append_slash_of_file` — nothing is below a file, not even an empty segment
— and `follow_of_long` — the length of a path is looked at first.
-/

namespace TransactionHarness

namespace Path

/-- The most bytes that a segment of a path may have. -/
def longestSegment : Nat := 255

/-- The most bytes that a path may have. -/
def longestPath : Nat := 4095

/-- The size of a text in bytes. -/
def byteSize (s : List Char) : Nat := (Text.Utf8.encode s).length

/-- Why a path leads nowhere, or what it leads to cannot be started. -/
inductive Fault where
  | tooLong
  | missing
  | notDirectory
  | denied
  /-- A NUL in a name, which nothing can be named. -/
  | nul
  deriving DecidableEq, Repr, Inhabited

/-- What is said about a fault. -/
def Fault.message : Fault → String
  | tooLong => "File name too long (os error 36)"
  | missing => "No such file or directory (os error 2)"
  | notDirectory => "Not a directory (os error 20)"
  | denied => "Permission denied (os error 13)"
  | nul => "nul byte found in provided data"

/-- Where a path leads. -/
inductive Place where
  /-- A directory, as its segments from the root. -/
  | directory (segments : List String)
  | file
  deriving DecidableEq, Repr, Inhabited

end Path

/-- The directories and files that are there, each as its segments from the root, and the directory
in which relative paths start. -/
structure FileTree where
  directories : List (List String)
  files : List (List String)
  working : List String
  deriving DecidableEq, Repr, Inhabited

namespace FileTree

open TransactionHarness.Path

/-- Where the next segment of a path leads. -/
def step (tree : FileTree) (place : Place) (segment : List Char) : Except Fault Place :=
  match place with
  | .file => .error .notDirectory
  | .directory here =>
    if isIdle '.' segment then .ok (.directory here)
    else if segment = ['.', '.'] then .ok (.directory here.dropLast)
    else if longestSegment < byteSize segment then .error .tooLong
    else
      let there := here ++ [String.ofList segment]
      if tree.directories.contains there then .ok (.directory there)
      else if tree.files.contains there then .ok .file
      else .error .missing

/-- Where a path starts. -/
def start (tree : FileTree) (path : List Char) : Place :=
  .directory (if path.head? = some '/' then [] else tree.working)

/-- Where a path leads. -/
def follow (tree : FileTree) (path : List Char) : Except Fault Place :=
  if path.isEmpty then .error .missing
  else if longestPath < byteSize path then .error .tooLong
  else (Text.pieces '/' path).foldlM tree.step (tree.start path)

/-- Why no program starts under a name or a path. What is there cannot be started. -/
def startFault (tree : FileTree) (program : List Char) : Fault :=
  if program.contains '\x00' then .nul
  else if program.contains '/' then
    match tree.follow program with
    | .error fault => fault
    | .ok _ => .denied
  else if program = ['.'] ∨ program = ['.', '.'] then .denied
  else if longestSegment < byteSize program then .tooLong
  else .missing

/-! ### What follows from a path alone -/

/-- The length of a path is looked at first. -/
theorem follow_of_long {tree : FileTree} {path : List Char} (h : longestPath < byteSize path) :
    tree.follow path = .error .tooLong := by
  cases path with
  | nil => exact absurd h (by decide)
  | cons c rest => exact if_pos h

/-- Nothing is below a file, not even an empty segment. -/
theorem follow_append_slash_of_file {tree : FileTree} {path : List Char}
    (short : byteSize (path ++ ['/']) ≤ longestPath) (h : tree.follow path = .ok .file) :
    tree.follow (path ++ ['/']) = .error .notDirectory := by
  cases path with
  | nil => exact absurd h (by simp [follow])
  | cons c rest =>
    unfold follow at h ⊢
    split at h
    · simp at h
    · split at h
      · simp at h
      · have same : tree.start (c :: rest ++ ['/']) = tree.start (c :: rest) := rfl
        rw [if_neg (by simp), if_neg (Nat.not_lt.2 short), Text.pieces_append_separator, same,
          List.foldlM_append, h]
        rfl

end FileTree

end TransactionHarness
