import Mathlib.Data.List.DropRight
import TransactionHarness.Config.Basic
/-!
# Joints of addresses

An address is put together from the address of the service, the prefix of the interface and a path.
Each of the three may bring along slashes at the ends where it is joined; they do not count.

A text has one *core*, which is what is left without these slashes, and an address is known from
cores alone. So there are two facts to prove about texts, that a core exists and that it is the one
that is computed (`dropWhile_isSlash_eq_iff`, `dropLastWhile_isSlash_eq_iff`,
`trimmed_isSlash_eq_iff`), and one about addresses (`Config.toList_endpoint_of_cores`). Everything
else in `Config.endpoint_of_cores` follows from these.
-/

namespace TransactionHarness

open Config (isSlash)

/-! ### Cores -/

namespace Text

/-- As many slashes. -/
def slashes (n : Nat) : List Char := List.replicate n '/'

/-- The core of a text at whose start slashes do not count. -/
structure IsCoreBehind (s core : List Char) : Prop where
  eq : ∃ n, s = slashes n ++ core
  head : core.head? ≠ some '/'

/-- The core of a text at whose end slashes do not count. -/
structure IsCoreBefore (s core : List Char) : Prop where
  eq : ∃ n, s = core ++ slashes n
  last : core.getLast? ≠ some '/'

/-- The core of a text at whose start and end slashes do not count. -/
structure IsCoreWithin (s core : List Char) : Prop where
  eq : ∃ m n, s = slashes m ++ core ++ slashes n
  head : core.head? ≠ some '/'
  last : core.getLast? ≠ some '/'

/-- There is a slash at a place and none beside it. -/
def IsLoneSlash (s : List Char) (i : Nat) : Prop :=
  s[i]? = some '/' ∧ s[i + 1]? ≠ some '/' ∧ ∀ j, j + 1 = i → s[j]? ≠ some '/'

@[simp] theorem isSlash_iff {c : Char} : isSlash c = true ↔ c = '/' := beq_iff_eq

theorem slashes_add (m n : Nat) : slashes m ++ slashes n = slashes (m + n) :=
  List.replicate_append_replicate

theorem reverse_slashes (n : Nat) : (slashes n).reverse = slashes n := List.reverse_replicate

theorem isSlash_of_mem_slashes {n : Nat} : ∀ c ∈ slashes n, isSlash c = true := fun _ hc ↦
  isSlash_iff.2 (List.eq_of_mem_replicate hc)

/-- Nothing but slashes is as many slashes. -/
theorem eq_slashes {s : List Char} (h : ∀ c ∈ s, isSlash c = true) : s = slashes s.length :=
  List.eq_replicate_iff.2 ⟨rfl, fun c hc ↦ isSlash_iff.1 (h c hc)⟩

theorem dropWhile_isSlash_of_head {s : List Char} (h : s.head? ≠ some '/') :
    s.dropWhile isSlash = s := by
  rcases s with - | ⟨c, s⟩
  · rfl
  · have hc : ¬isSlash c = true := fun hslash ↦ h (congrArg some (isSlash_iff.1 hslash))
    exact List.dropWhile_cons_of_neg hc

theorem dropWhile_isSlash_eq_iff {s core : List Char} :
    s.dropWhile isSlash = core ↔ IsCoreBehind s core := by
  constructor
  · rintro rfl
    refine ⟨⟨(s.takeWhile isSlash).length, ?_⟩, fun hhead ↦ ?_⟩
    · rw [← eq_slashes fun c hc ↦ List.mem_takeWhile_imp hc, List.takeWhile_append_dropWhile]
    · have hnot := List.head?_dropWhile_not isSlash s
      rw [hhead] at hnot
      cases hnot
  · rintro ⟨⟨n, rfl⟩, hhead⟩
    rw [List.dropWhile_append_of_pos isSlash_of_mem_slashes, dropWhile_isSlash_of_head hhead]

theorem isCoreBefore_reverse_iff {s core : List Char} :
    IsCoreBehind s.reverse core.reverse ↔ IsCoreBefore s core := by
  constructor
  · rintro ⟨⟨n, heq⟩, hhead⟩
    refine ⟨⟨n, ?_⟩, by rwa [List.head?_reverse] at hhead⟩
    rw [← List.reverse_reverse s, heq, List.reverse_append, List.reverse_reverse, reverse_slashes]
  · rintro ⟨⟨n, rfl⟩, hlast⟩
    refine ⟨⟨n, ?_⟩, by rwa [List.head?_reverse]⟩
    rw [List.reverse_append, reverse_slashes]

theorem dropLastWhile_isSlash_eq_iff {s core : List Char} :
    dropLastWhile isSlash s = core ↔ IsCoreBefore s core := by
  rw [← isCoreBefore_reverse_iff, ← dropWhile_isSlash_eq_iff, dropLastWhile,
    List.reverse_eq_iff]

theorem trimmed_isSlash_eq_iff {s core : List Char} :
    dropLastWhile isSlash (s.dropWhile isSlash) = core ↔ IsCoreWithin s core := by
  constructor
  · intro h
    obtain ⟨⟨m, hs⟩, hhead⟩ := dropWhile_isSlash_eq_iff.1 (rfl : s.dropWhile isSlash = _)
    obtain ⟨⟨n, hrest⟩, hlast⟩ := dropLastWhile_isSlash_eq_iff.1 h
    refine ⟨⟨m, n, ?_⟩, fun hcore ↦ hhead ?_, hlast⟩
    · rw [List.append_assoc, ← hrest]
      exact hs
    · rw [hrest, List.head?_append, hcore]
      rfl
  · rintro ⟨⟨m, n, rfl⟩, hhead, hlast⟩
    rw [List.append_assoc, List.dropWhile_append_of_pos isSlash_of_mem_slashes]
    rcases core with - | ⟨c, core⟩
    · -- slashes and nothing else
      rw [List.nil_append, List.dropWhile_eq_nil_iff.2 isSlash_of_mem_slashes]
      rfl
    · rw [dropWhile_isSlash_of_head (by rwa [List.cons_append]), dropLastWhile_isSlash_eq_iff]
      exact ⟨⟨n, rfl⟩, hlast⟩

/-- Slashes at the start change the text and not the core. -/
theorem IsCoreBehind.slashes_append {s core : List Char} (h : IsCoreBehind s core) (n : Nat) :
    IsCoreBehind (slashes n ++ s) core := by
  obtain ⟨⟨m, rfl⟩, hhead⟩ := h
  exact ⟨⟨n + m, by rw [← List.append_assoc, slashes_add]⟩, hhead⟩

theorem IsCoreBefore.append_slashes {s core : List Char} (h : IsCoreBefore s core) (n : Nat) :
    IsCoreBefore (s ++ slashes n) core := by
  obtain ⟨⟨m, rfl⟩, hlast⟩ := h
  exact ⟨⟨m + n, by rw [List.append_assoc, slashes_add]⟩, hlast⟩

theorem IsCoreWithin.slashes_append {s core : List Char} (h : IsCoreWithin s core) (j k : Nat) :
    IsCoreWithin (slashes j ++ s ++ slashes k) core := by
  obtain ⟨⟨m, n, rfl⟩, hhead, hlast⟩ := h
  refine ⟨⟨j + m, n + k, ?_⟩, hhead, hlast⟩
  simp only [← slashes_add, List.append_assoc]

/-- A slash between texts that do not bring along one stands alone. -/
theorem isLoneSlash_length {s t : List Char} (hs : s.getLast? ≠ some '/')
    (ht : t.head? ≠ some '/') : IsLoneSlash (s ++ '/' :: t) s.length := by
  refine ⟨by simp, fun hnext ↦ ht ?_, fun j hj hbefore ↦ hs ?_⟩
  · rw [List.getElem?_append_right (Nat.le_succ _), Nat.succ_sub (Nat.le_refl _),
      Nat.sub_self] at hnext
    rwa [List.head?_eq_getElem?]
  · rw [List.getElem?_append_left (by omega)] at hbefore
    rwa [List.getLast?_eq_getElem?, ← hj]

end Text

/-! ### Addresses -/

namespace Config

open Text

/-- What stands between the address of the service and the last joint: the prefix behind a slash,
unless there is none. -/
def joined (inner : List Char) : List Char := if inner = [] then [] else '/' :: inner

variable {cfg : Config} {base inner rest : List Char}

theorem getLast?_append_joined (hbase : base.getLast? ≠ some '/')
    (hinner : inner.getLast? ≠ some '/') : (base ++ joined inner).getLast? ≠ some '/' := by
  rcases inner with - | ⟨c, inner⟩
  · simpa [joined] using hbase
  · simpa [joined, List.getLast?_append] using hinner

/-- The address of the interface, from the cores of its parts. -/
theorem apiBaseChars_of_cores (hbase : IsCoreBefore cfg.baseUrl.toList base)
    (hinner : IsCoreWithin cfg.apiPrefix.toList inner) :
    cfg.apiBaseChars = base ++ joined inner := by
  rw [apiBaseChars, dropLastWhile_isSlash_eq_iff.2 hbase, trimmed_isSlash_eq_iff.2 hinner,
    dropLastWhile_isSlash_eq_iff]
  refine ⟨?_, getLast?_append_joined hbase.last hinner.last⟩
  -- without a prefix, the slash in front of it is at the end and goes
  rcases inner with - | ⟨c, inner⟩
  · exact ⟨1, by simp [joined, slashes]⟩
  · exact ⟨0, by simp [joined, slashes]⟩

/-- An address, from the cores of its parts. -/
theorem toList_endpoint_of_cores {path : String} (hbase : IsCoreBefore cfg.baseUrl.toList base)
    (hinner : IsCoreWithin cfg.apiPrefix.toList inner) (hrest : IsCoreBehind path.toList rest) :
    (cfg.endpoint path).toList = base ++ joined inner ++ '/' :: rest := by
  rw [endpoint, String.toList_ofList, apiBaseChars_of_cores hbase hinner,
    dropWhile_isSlash_eq_iff.2 hrest]

/-- Both joints of an address, which are one if there is no prefix, are slashes that stand alone. -/
theorem isLoneSlash_of_cores (hbase : IsCoreBefore cfg.baseUrl.toList base)
    (hinner : IsCoreWithin cfg.apiPrefix.toList inner) (hrest : rest.head? ≠ some '/') :
    ∀ i ∈ [base.length, (base ++ joined inner).length],
      IsLoneSlash (base ++ joined inner ++ '/' :: rest) i := by
  have hlast := isLoneSlash_length (getLast?_append_joined hbase.last hinner.last) hrest
  refine List.forall_mem_cons.2 ⟨?_, List.forall_mem_singleton.2 hlast⟩
  rcases inner with - | ⟨c, inner⟩
  · simpa [joined] using hlast
  · have hfirst : IsLoneSlash (base ++ '/' :: (c :: inner ++ '/' :: rest)) base.length :=
      isLoneSlash_length hbase.last hinner.head
    simpa [joined] using hfirst

/-- **Joints of addresses.** The address of a path is the address of the service, the prefix if
there is one, and the path, each without the slashes at the ends where they are joined, with one
slash at each joint. No slash stands beside the one at a joint, so slashes that are added to a part
there or taken from it change nothing. An address that is taken for the address of the service, with
no prefix, gives the same addresses, and paths have different addresses exactly if they differ
behind the slashes at their start. -/
theorem endpoint_of_cores (cfg : Config) (path : String) :
    ∃ base inner rest, IsCoreBefore cfg.baseUrl.toList base ∧
      IsCoreWithin cfg.apiPrefix.toList inner ∧ IsCoreBehind path.toList rest ∧
      (cfg.endpoint path).toList = base ++ joined inner ++ '/' :: rest ∧
      (∀ i ∈ [base.length, (base ++ joined inner).length],
        IsLoneSlash (cfg.endpoint path).toList i) ∧
      (∀ i j k l : Nat, Config.endpoint
        { cfg with
          baseUrl := cfg.baseUrl ++ String.ofList (slashes i)
          apiPrefix :=
            String.ofList (slashes j) ++ cfg.apiPrefix ++ String.ofList (slashes k) }
        (String.ofList (slashes l) ++ path) = cfg.endpoint path) ∧
      Config.endpoint { cfg with baseUrl := cfg.apiBase, apiPrefix := "" } path =
        cfg.endpoint path ∧
      ∀ path' rest', IsCoreBehind path'.toList rest' →
        (cfg.endpoint path' = cfg.endpoint path ↔ rest' = rest) := by
  obtain ⟨base, hbase⟩ : ∃ base, IsCoreBefore cfg.baseUrl.toList base :=
    ⟨_, dropLastWhile_isSlash_eq_iff.1 rfl⟩
  obtain ⟨inner, hinner⟩ : ∃ inner, IsCoreWithin cfg.apiPrefix.toList inner :=
    ⟨_, trimmed_isSlash_eq_iff.1 rfl⟩
  obtain ⟨rest, hrest⟩ : ∃ rest, IsCoreBehind path.toList rest :=
    ⟨_, dropWhile_isSlash_eq_iff.1 rfl⟩
  have heq := toList_endpoint_of_cores hbase hinner hrest
  refine ⟨base, inner, rest, hbase, hinner, hrest, heq, ?_, fun i j k l ↦ ?_, ?_, ?_⟩
  · rw [heq]
    exact isLoneSlash_of_cores hbase hinner hrest.head
  · rw [← String.toList_inj, heq]
    refine toList_endpoint_of_cores ?_ ?_ ?_
    · rw [String.toList_append, String.toList_ofList]
      exact hbase.append_slashes i
    · simp only [String.toList_append, String.toList_ofList]
      exact hinner.slashes_append j k
    · rw [String.toList_append, String.toList_ofList]
      exact hrest.slashes_append l
  · -- the address of the interface has no slash at its end, so it is its own core
    have hapi : IsCoreBefore cfg.apiBase.toList (base ++ joined inner) := by
      rw [apiBase, String.toList_ofList, apiBaseChars_of_cores hbase hinner]
      exact ⟨⟨0, (List.append_nil _).symm⟩, getLast?_append_joined hbase.last hinner.last⟩
    have hnone : IsCoreWithin "".toList [] := ⟨⟨0, 0, by simp [slashes]⟩, by simp, by simp⟩
    have hjoined : base ++ joined inner ++ joined [] = base ++ joined inner := List.append_nil _
    rw [← String.toList_inj, heq, ← hjoined]
    exact toList_endpoint_of_cores hapi hnone hrest
  · intro path' rest' hrest'
    rw [← String.toList_inj, heq, toList_endpoint_of_cores hbase hinner hrest',
      List.append_cancel_left_eq, List.cons_inj_right]

end Config

end TransactionHarness
