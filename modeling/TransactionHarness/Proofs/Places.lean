import Mathlib.Data.List.Basic
import Mathlib.Data.List.TakeWhile
import TransactionHarness.Path.Artifact
/-!
# Places for downloads

A place is a directory with the name of a file behind it. The directory is any text that comes from
the settings, and the name is the end of a path that the service has chosen.

* `Path.components`: what a path says, segment by segment. Two paths with the same components are
  the same path, and `Path.parent?` gives all components but the last.
* `Path.components_join`: a name behind a directory is one component more, whatever the directory.
* `Path.join_inj`: different names are at different places.
* `Artifact.EndsIn` and `Artifact.IsFileName`: the end of a path, and which ends name a file.
* `Artifact.localPath_eq_ok_iff` and `Artifact.localPath_eq_error_iff`: a path has a place exactly
  if its end names a file.
-/

namespace TransactionHarness

namespace Path

/-! ### Components -/

/-- What a segment of a path stands for. -/
inductive Component where
  | root
  | here
  | up
  | name (segment : List Char)
  deriving DecidableEq, Repr

/-- The component that a segment stands for. An empty segment and a single dot stand for none. -/
def Component.ofSegment? (segment : List Char) : Option Component :=
  if isIdle '.' segment then none
  else if segment = ['.', '.'] then some up
  else some (name segment)

/-- Where a path starts: at the root, or at a dot if there is one in front. -/
def startComponents (path : List Char) : List Component :=
  if path.head? = some '/' then [.root]
  else if (Text.pieces '/' path).head? = some ['.'] then [.here]
  else []

/-- The components of a path, in order. -/
def components (path : List Char) : List Component :=
  startComponents path ++ (Text.pieces '/' path).filterMap Component.ofSegment?

/-- The components of the directory that a path is in. The root is in none. -/
def parent? (path : List Char) : Option (List Component) :=
  match (components path).getLast? with
  | none | some .root => none
  | some _ => some (components path).dropLast

/-- A slash at the end adds a segment that stands for nothing. -/
theorem filterMap_pieces_append_separator (s : List Char) :
    (Text.pieces '/' (s ++ ['/'])).filterMap Component.ofSegment? =
      (Text.pieces '/' s).filterMap Component.ofSegment? := by
  have hidle : [[]].filterMap Component.ofSegment? = [] := rfl
  rw [Text.pieces_append_separator, List.filterMap_append, hidle, List.append_nil]

/-- What is behind a slash does not change where a path starts. -/
theorem startComponents_append_slash (s t : List Char) :
    startComponents (s ++ '/' :: t) = startComponents (s ++ ['/']) := by
  obtain ⟨first, more, hs⟩ := List.exists_cons_of_ne_nil (Text.pieces_ne_nil '/' s)
  have hhead : (s ++ '/' :: t).head? = (s ++ ['/']).head? := by cases s <;> rfl
  have hpiece : (Text.pieces '/' (s ++ '/' :: t)).head? =
      (Text.pieces '/' (s ++ ['/'])).head? := by
    rw [Text.pieces_append_cons, Text.pieces_append_separator, hs]
    rfl
  rw [startComponents, startComponents, hhead, hpiece]

/-- A slash has the components in front of it and those of the segments behind it. -/
theorem components_append_slash (s t : List Char) :
    components (s ++ '/' :: t) =
      components (s ++ ['/']) ++ (Text.pieces '/' t).filterMap Component.ofSegment? := by
  rw [components, components, startComponents_append_slash, filterMap_pieces_append_separator,
    Text.pieces_append_cons, List.filterMap_append, List.append_assoc]

/-- A slash at the end of a path is no component, unless it is the root. -/
theorem components_append_separator {s : List Char} (h : s ≠ []) :
    components (s ++ ['/']) = components s := by
  obtain ⟨first, more, hs⟩ := List.exists_cons_of_ne_nil (Text.pieces_ne_nil '/' s)
  have hhead : (s ++ ['/']).head? = s.head? := List.head?_append_of_ne_nil _ h
  have hpiece : (Text.pieces '/' (s ++ ['/'])).head? = (Text.pieces '/' s).head? := by
    rw [Text.pieces_append_separator, hs]
    rfl
  have hstart : startComponents (s ++ ['/']) = startComponents s := by
    rw [startComponents, startComponents, hhead, hpiece]
  rw [components, components, hstart, filterMap_pieces_append_separator]

end Path

namespace Artifact

/-! ### Names -/

/-- The segment is behind the last slash of the path, or is the path. -/
def EndsIn (segment path : List Char) : Prop :=
  '/' ∉ segment ∧ (path = segment ∨ ∃ front, path = front ++ '/' :: segment)

/-- A segment that can be the name of a file. -/
structure IsFileName (segment : List Char) : Prop where
  ne_nil : segment ≠ []
  noSlash : '/' ∉ segment
  ne_dot : segment ≠ ['.']
  ne_dots : segment ≠ ['.', '.']

/-- A path that does not end in the name of a file. -/
def Nameless (path : String) : Prop := ¬ ∃ name, IsFileName name ∧ EndsIn name path.toList

theorem EndsIn.lastSegment_eq {segment path : List Char} (h : EndsIn segment path) :
    lastSegment path = segment := by
  obtain ⟨hslash, hpath⟩ := h
  have hall : ∀ c ∈ segment.reverse, (c != '/') = true := by
    intro c hc
    have hne : c ≠ '/' := fun heq ↦ hslash (heq ▸ List.mem_reverse.1 hc)
    exact bne_iff_ne.2 hne
  rcases hpath with rfl | ⟨front, rfl⟩
  · rw [lastSegment, List.takeWhile_eq_self_iff.2 hall, List.reverse_reverse]
  · have hreverse : (front ++ '/' :: segment).reverse =
        segment.reverse ++ '/' :: front.reverse := by
      simp
    have hstop : ('/' :: front.reverse).takeWhile (· != '/') = [] := rfl
    rw [lastSegment, hreverse, List.takeWhile_append_of_pos hall, hstop, List.append_nil,
      List.reverse_reverse]

theorem endsIn_lastSegment (path : List Char) : EndsIn (lastSegment path) path := by
  have hslash : '/' ∉ lastSegment path := by
    intro hmem
    have hmem' : '/' ∈ path.reverse.takeWhile (· != '/') := List.mem_reverse.1 hmem
    have hne := List.mem_takeWhile_imp hmem'
    exact absurd rfl (bne_iff_ne.1 hne)
  have hsplit : path = (path.reverse.dropWhile (· != '/')).reverse ++ lastSegment path := by
    rw [lastSegment, ← List.reverse_append, List.takeWhile_append_dropWhile, List.reverse_reverse]
  refine ⟨hslash, ?_⟩
  -- what is in front of the segment is nothing, or ends in a slash
  rcases hfront : path.reverse.dropWhile (· != '/') with - | ⟨c, rest⟩
  · rw [hfront] at hsplit
    exact .inl hsplit
  · have hc : c = '/' := by
      have hstop : (c != '/') = false := by
        have h := List.head?_dropWhile_not (· != '/') path.reverse
        rw [hfront] at h
        exact h
      simpa using hstop
    refine .inr ⟨rest.reverse, ?_⟩
    rw [hfront, hc] at hsplit
    simpa using hsplit

theorem isName_iff {segment : List Char} (noSlash : '/' ∉ segment) :
    isName segment = true ↔ IsFileName segment := by
  have hiff : isName segment = true ↔
      segment ≠ [] ∧ segment ≠ ['.'] ∧ segment ≠ ['.', '.'] := by
    simp [isName, and_assoc]
  rw [hiff]
  exact ⟨fun ⟨h₁, h₂, h₃⟩ ↦ ⟨h₁, noSlash, h₂, h₃⟩, fun h ↦ ⟨h.ne_nil, h.ne_dot, h.ne_dots⟩⟩

end Artifact

namespace Path

/-! ### A name behind a directory -/

/-- A name behind a directory is one component more. -/
theorem components_join {name : List Char} (h : Artifact.IsFileName name)
    (directory : List Char) :
    components (join directory name) = components directory ++ [.name name] := by
  have hsegment : Component.ofSegment? name = some (.name name) := by
    have hidle : isIdle '.' name = false := by simp [isIdle, h.ne_nil, h.ne_dot]
    rw [Component.ofSegment?, hidle, if_neg Bool.false_ne_true, if_neg h.ne_dots]
  have hpieces : (Text.pieces '/' name).filterMap Component.ofSegment? = [.name name] := by
    rw [Text.pieces_of_not_mem h.noSlash, List.filterMap_cons, hsegment]
    rfl
  have hhead : name.head? ≠ some '/' := fun e ↦ h.noSlash (List.mem_of_head? e)
  rw [join, if_neg hhead]
  -- the directory is nothing, ends in a slash, or needs one
  rcases List.eq_nil_or_concat' directory with rfl | ⟨front, last, rfl⟩
  · have hstart : startComponents name = [] := by
      have hfirst : (Text.pieces '/' name).head? ≠ some ['.'] := by
        rw [Text.pieces_of_not_mem h.noSlash]
        exact fun e ↦ h.ne_dot (Option.some.inj e)
      rw [startComponents, if_neg hhead, if_neg hfirst]
    show components name = [.name name]
    rw [components, hstart, hpieces]
    rfl
  by_cases hlast : last = '/'
  · rw [if_pos (by simp [hlast]), hlast, List.append_assoc, List.singleton_append,
      components_append_slash, hpieces]
  · have hne : front ++ [last] ≠ [] := by simp
    rw [if_neg (by simp [hlast]), components_append_slash, hpieces,
      components_append_separator hne]

/-- A name behind a directory is in the directory. -/
theorem parent?_join {name : List Char} (h : Artifact.IsFileName name) (directory : List Char) :
    parent? (join directory name) = some (components directory) := by
  rw [parent?, components_join h, List.getLast?_concat, List.dropLast_concat]

/-- A directory has one place for each name. -/
theorem join_inj {name name' : List Char} (h : Artifact.IsFileName name)
    (h' : Artifact.IsFileName name') {directory : List Char}
    (same : join directory name = join directory name') : name = name' := by
  have hcomponents := components_join h directory
  rw [same, components_join h'] at hcomponents
  have hlast := (List.append_inj' hcomponents rfl).2
  exact (Component.name.inj (List.cons.inj hlast).1).symm

end Path

namespace Artifact

/-! ### Places -/

theorem isName_lastSegment_iff {path : List Char} :
    isName (lastSegment path) = true ↔ ∃ name, IsFileName name ∧ EndsIn name path := by
  have hends := endsIn_lastSegment path
  rw [isName_iff hends.1]
  constructor
  · intro hfile
    exact ⟨_, hfile, hends⟩
  · rintro ⟨name, hfile, hend⟩
    rwa [hend.lastSegment_eq]

/-- The place for a path is the name at its end, in the directory. -/
theorem localPath_eq_ok_iff {directory path place : String} :
    localPath directory path = .ok place ↔ ∃ name, IsFileName name ∧ EndsIn name path.toList ∧
      place = String.ofList (Path.join directory.toList name) := by
  rw [localPath, fileName]
  split_ifs with hname
  · obtain ⟨name, hfile, hend⟩ := isName_lastSegment_iff.1 hname
    simp only [hend.lastSegment_eq, String.toList_ofList, Except.ok.injEq]
    constructor
    · intro hplace
      exact ⟨name, hfile, hend, hplace.symm⟩
    · rintro ⟨name', -, hend', hplace⟩
      rw [hplace, ← hend'.lastSegment_eq, hend.lastSegment_eq]
  · refine iff_of_false nofun ?_
    rintro ⟨name, hfile, hend, -⟩
    exact hname (isName_lastSegment_iff.2 ⟨name, hfile, hend⟩)

/-- A path without such a name has no place. -/
theorem localPath_eq_error_iff {directory path : String} {e : Error} :
    localPath directory path = .error e ↔
      Nameless path ∧ e = .invalidState ("download path '" ++ path ++ "' has no file name") := by
  rw [localPath, fileName, Nameless, ← isName_lastSegment_iff]
  split_ifs with hname
  · exact iff_of_false nofun fun h ↦ h.1 hname
  · simp only [Except.error.injEq]
    exact ⟨fun h ↦ ⟨hname, h.symm⟩, fun h ↦ h.2.symm⟩

end Artifact

end TransactionHarness
