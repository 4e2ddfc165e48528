import TransactionHarness.Config.Validation
import TransactionHarness.Proofs.Stem
/-!
# Where addresses lead

The address of the service is checked by reading it, and the addresses of the interface are texts
that are put together from it. So what has been checked is not the text that is read when a request
is sent. The place is the same nevertheless, which is what stems are for; whether the path is the
one of the service with the prefix and the path of the interface behind it is decided by what can
stand in a path.

* `Config.IsPlainPath`: the paths of the interface.
* `Config.Lands`: an address leads where it should.
* `Config.EndsInPath`: the address of the service can be gone on with.
* `Config.landing_of_validate`: where the addresses of the interface lead.
-/

namespace TransactionHarness

open Text

namespace Config

/-! ### Paths of the interface -/

/-- A path of unreserved characters and slashes, in which no segment stands for a place. -/
structure IsPlainPath (path : String) : Prop where
  characters : ∀ c ∈ path.toList, Percent.isUnreserved c = true ∨ c = '/'
  segments : ∀ segment ∈ pieces '/' path.toList, segment ≠ ['.'] ∧ segment ≠ ['.', '.']

instance (path : String) : Decidable (IsPlainPath path) :=
  decidable_of_iff (path.toList.all (fun c ↦ Percent.isUnreserved c || c == '/') = true ∧
      (pieces '/' path.toList).all (fun segment ↦ segment != ['.'] && segment != ['.', '.']) =
        true) <| by
    simp only [Bool.and_eq_true, List.all_eq_true, Bool.or_eq_true, beq_iff_eq, bne_iff_ne]
    exact ⟨fun h ↦ ⟨h.1, h.2⟩, fun h ↦ ⟨h.1, h.2⟩⟩

/-- In small letters, a character that comes before them is what it was. -/
theorem eq_of_lower {c d : Char} (h : Domain.lower c = d) (hd : d.toNat < 0x61) : c = d := by
  unfold Domain.lower Char.toLower at h
  split at h
  · next hc =>
    have hlow : 0x41 ≤ c.toNat := UInt32.le_iff_toNat_le.1 hc.1
    have hhigh : c.toNat ≤ 0x5A := UInt32.le_iff_toNat_le.1 hc.2
    have hnat : d.toNat = (c.toNat + 0x20) % 2 ^ 32 := by
      rw [← h]
      exact UInt32.toNat_add _ _
    omega
  · exact h

theorem eq_of_map_lower {segment word : List Char} (h : segment.map Domain.lower = word)
    (hword : ∀ c ∈ word, c.toNat < 0x61) : segment = word := by
  subst h
  rw [List.forall_mem_map] at hword
  have hone : ∀ c ∈ segment, Domain.lower c = c := fun c hc ↦ (eq_of_lower rfl (hword c hc)).symm
  rw [List.map_congr_left hone, List.map_id']

/-- A segment of unreserved characters stands for a place only if it is one or two dots. -/
theorem isPlain_of_isUnreserved {segment : List Char}
    (hcharacters : ∀ c ∈ segment, Percent.isUnreserved c = true) (hdot : segment ≠ ['.'])
    (hup : segment ≠ ['.', '.']) : Url.IsPlain segment := by
  have hpercent : '%' ∉ segment.map Domain.lower := by
    intro h
    obtain ⟨c, hc, heq⟩ := List.mem_map.1 h
    obtain rfl := eq_of_lower heq (by decide)
    exact absurd (hcharacters '%' hc) (by decide)
  have hnone {words : List String} (hwords : ∀ word ∈ words,
      '%' ∈ word.toList ∨ segment ≠ word.toList ∧ ∀ c ∈ word.toList, c.toNat < 0x61) :
      words.contains (String.ofList (segment.map Domain.lower)) = false := by
    refine Bool.eq_false_iff.2 fun hmem ↦ ?_
    have hword := hwords _ (List.contains_iff_mem.1 hmem)
    rw [String.toList_ofList] at hword
    exact hword.elim hpercent fun h ↦ h.1 (eq_of_map_lower rfl h.2)
  exact ⟨hnone (by simp [hup]), hnone (by simp [hdot])⟩

theorem IsPlainPath.isPathText {path : String} (h : IsPlainPath path) :
    Url.IsPathText path.toList := by
  refine ⟨fun c hc ↦ ?_, fun segment hsegment ↦ ?_⟩
  · rcases h.characters c hc with hc | rfl
    · exact (Url.isPathCharacter_of_isUnreserved (.inl hc)).1
    · exact Url.isPathCharacter_slash
  · obtain ⟨hdot, hup⟩ := h.segments segment hsegment
    refine isPlain_of_isUnreserved (fun c hc ↦ ?_) hdot hup
    obtain ⟨hmem, hslash⟩ := mem_of_mem_pieces hsegment c hc
    exact (h.characters c hmem).resolve_right hslash

/-- A text that can stand in a path is known by its core. -/
theorem isPathText_iff_of_isCoreWithin {s core : List Char} (h : IsCoreWithin s core) :
    Url.IsPathText s ↔ Url.IsPathText core := by
  obtain ⟨⟨m, n, rfl⟩, -, -⟩ := h
  rw [Url.isPathText_append_slashes_iff, Url.isPathText_slashes_append_iff]

theorem isPathText_iff_of_isCoreBehind {s core : List Char} (h : IsCoreBehind s core) :
    Url.IsPathText s ↔ Url.IsPathText core := by
  obtain ⟨⟨n, rfl⟩, -⟩ := h
  rw [Url.isPathText_slashes_append_iff]

/-- Prefix and path as one text behind a slash. -/
theorem exists_joined (inner : List Char) {rest : List Char} (hrest : Url.IsPathText rest) :
    ∃ t, joined inner ++ '/' :: rest = '/' :: t ∧ (Url.IsPathText t ↔ Url.IsPathText inner) := by
  rcases inner with - | ⟨c, inner⟩
  · exact ⟨rest, rfl, iff_of_true hrest Url.isPathText_nil⟩
  · refine ⟨c :: inner ++ '/' :: rest, rfl, ?_⟩
    rw [Url.isPathText_append_cons_iff]
    exact and_iff_left hrest

/-! ### Addresses of the interface -/

variable (cfg : Config)

/-- The path of the service without slashes at its end, and the prefix, if there is one, and a path
of the interface behind it. -/
def pathBehind (base : Url) (path : String) : List Char :=
  dropLastWhile isSlash base.path.toList ++
    joined (dropLastWhile isSlash (cfg.apiPrefix.toList.dropWhile isSlash)) ++
      '/' :: path.toList.dropWhile isSlash

/-- The address of a path is read, and leads to the place of the service and to the path there. -/
def Lands (path : String) : Prop :=
  ∃ base url, Url.parse cfg.baseUrl = .ok base ∧ Url.parse (cfg.endpoint path) = .ok url ∧
    url.SamePlace base ∧ url.HasOnlyPath (cfg.pathBehind base path)

instance (path : String) : Decidable (cfg.Lands path) :=
  decidable_of_iff (∃ base ∈ (Url.parse cfg.baseUrl).toOption,
      ∃ url ∈ (Url.parse (cfg.endpoint path)).toOption,
        url.SamePlace base ∧ url.HasOnlyPath (cfg.pathBehind base path)) <| by
    constructor
    · rintro ⟨base, hbase, url, hurl, hlands⟩
      exact ⟨base, url, toOption_eq_some_iff.1 hbase, toOption_eq_some_iff.1 hurl, hlands⟩
    · rintro ⟨base, url, hbase, hurl, hlands⟩
      exact ⟨base, toOption_eq_some_iff.2 hbase, url, toOption_eq_some_iff.2 hurl, hlands⟩

/-- The address of the service with one slash at its end. -/
def site : String := String.ofList (dropLastWhile isSlash cfg.baseUrl.toList ++ ['/'])

/-- The address of the service ends in a path: there is no query and no fragment, and one slash at
its end is not read as two. -/
structure EndsInPath : Prop where
  noQuery : '?' ∉ cfg.baseUrl.toList
  noFragment : '#' ∉ cfg.baseUrl.toList
  oneSlash : ∀ site, Url.parse cfg.site = .ok site → ¬['/', '/'] <:+ site.path.toList

variable {cfg}

theorem exists_parse_of_validate (valid : cfg.validate = .ok ()) :
    ∃ base, Url.parse cfg.baseUrl = .ok base ∧ (Url.usualPort? base.scheme).isSome := by
  have hbase : validateBaseUrl cfg.baseUrl = .ok () := by
    unfold validate at valid
    split at valid
    · cases valid
    · next hbase => exact hbase
  unfold validateBaseUrl at hbase
  dsimp only at hbase
  split at hbase
  · cases hbase
  split at hbase
  · cases hbase
  · next base hparse =>
    refine ⟨base, hparse, ?_⟩
    split at hbase
    · next hscheme =>
      have hweb : ∀ scheme ∈ webSchemes, (Url.usualPort? scheme).isSome = true := by decide
      exact hweb _ (List.contains_iff_mem.1 hscheme)
    · cases hbase

variable {core s : List Char} {base : Url}

theorem noQuery_and_noFragment_iff (hcore : IsCoreBefore cfg.baseUrl.toList core) :
    ('?' ∉ cfg.baseUrl.toList ∧ '#' ∉ cfg.baseUrl.toList) ↔ ∀ c ∈ core, Url.endsPath c = false := by
  obtain ⟨⟨n, htext⟩, -⟩ := hcore
  rw [← Url.forall_endsPath_iff, htext, List.forall_mem_append]
  exact and_iff_left (Url.isPathText_slashes n).endsPath

/-- Whether the address of the service ends in a path is known from its stem. -/
theorem endsInPath_iff (hcore : IsCoreBefore cfg.baseUrl.toList core)
    (stem : Url.IsStem core s base) :
    cfg.EndsInPath ↔ (∀ c ∈ s, Url.endsPath c = false) ∧ (Url.directory s).getLast? ≠ some '/' := by
  have hsite : cfg.site.toList = core ++ ['/'] := by
    rw [site, String.toList_ofList, dropLastWhile_isSlash_eq_iff.2 hcore]
  have hvisible : Url.EndsVisibly cfg.site.toList := by
    rw [hsite]
    exact Url.endsVisibly_append (List.cons_ne_nil _ _) (List.forall_mem_singleton.2 rfl)
  have hparse := stem.parse_append hsite hvisible
  have hpath (hs : ∀ c ∈ s, Url.endsPath c = false) :
      (Url.withPath true (s ++ ['/']) base).path.toList = Url.directory s ++ ['/'] := by
    have hends : ∀ c ∈ s ++ ['/'], Url.endsPath c = false :=
      List.forall_mem_append.2 ⟨hs, List.forall_mem_singleton.2 rfl⟩
    rw [(Url.withPath_hasOnlyPath base hends).1]
    exact Url.readPath_of_isPathText (stem.isEitherSlash hs) Url.isPathText_nil
  constructor
  · rintro ⟨hquery, hfragment, hslash⟩
    have hs := stem.endsPath_iff.2 ((noQuery_and_noFragment_iff hcore).1 ⟨hquery, hfragment⟩)
    refine ⟨hs, fun hlast ↦ hslash _ hparse ?_⟩
    obtain ⟨d, hd⟩ := List.getLast?_eq_some_iff.1 hlast
    rw [List.filter_nil, hpath hs, hd, List.append_assoc]
    exact List.suffix_append d ['/', '/']
  · rintro ⟨hs, hlast⟩
    obtain ⟨hquery, hfragment⟩ := (noQuery_and_noFragment_iff hcore).2 (stem.endsPath_iff.1 hs)
    refine ⟨hquery, hfragment, fun site hread ⟨d, hd⟩ ↦ hlast ?_⟩
    obtain rfl := Except.ok.inj (hparse.symm.trans hread)
    rw [List.filter_nil, hpath hs] at hd
    have hdirectory : d ++ ['/'] = Url.directory s :=
      List.append_cancel_right (show d ++ ['/'] ++ ['/'] = _ by simpa using hd)
    rw [← hdirectory]
    simp

/-- The address of a path is read, and what has been read of it. -/
theorem exists_parse_endpoint {path : String} (valid : cfg.validate = .ok ())
    (ends : Url.EndsVisibly cfg.baseUrl.toList) (plain : IsPlainPath path) :
    ∃ base url, Url.parse cfg.baseUrl = .ok base ∧ Url.parse (cfg.endpoint path) = .ok url ∧
      url.SamePlace base ∧ url.userInfo? = base.userInfo? ∧
      (url.HasOnlyPath (cfg.pathBehind base path) ↔
        cfg.EndsInPath ∧ Url.IsPathText cfg.apiPrefix.toList) := by
  obtain ⟨base, hbase, hspecial⟩ := exists_parse_of_validate valid
  have hcore := dropLastWhile_isSlash_eq_iff.1 (rfl : dropLastWhile isSlash cfg.baseUrl.toList = _)
  have hinner := trimmed_isSlash_eq_iff.1
    (rfl : dropLastWhile isSlash (cfg.apiPrefix.toList.dropWhile isSlash) = _)
  have hrest := dropWhile_isSlash_eq_iff.1 (rfl : path.toList.dropWhile isSlash = _)
  have htext := (isPathText_iff_of_isCoreBehind hrest).1 plain.isPathText
  obtain ⟨s, stem⟩ := Url.exists_isStem hbase hspecial ends hcore
  obtain ⟨t, ht, hiff⟩ := exists_joined
    (dropLastWhile isSlash (cfg.apiPrefix.toList.dropWhile isSlash)) htext
  have heq := toList_endpoint_of_cores hcore hinner hrest
  have hvisible : Url.EndsVisibly (cfg.endpoint path).toList := by
    rw [heq]
    refine Url.endsVisibly_append (List.cons_ne_nil _ _) fun c hc ↦ ?_
    exact ((Url.isPathText_append_cons_iff.2 ⟨Url.isPathText_nil, htext⟩).characters c hc).counts.1
  rw [List.append_assoc, ht] at heq
  refine ⟨base, _, hbase, stem.parse_append heq hvisible, Url.samePlace_withPath _ _ _, rfl, ?_⟩
  rw [isPathText_iff_of_isCoreWithin hinner, ← hiff, endsInPath_iff hcore stem, pathBehind,
    List.append_assoc, ht, and_assoc]
  constructor
  · intro hpath
    have hs := (List.forall_mem_append.1 (Url.not_endsPath_of_hasOnlyPath base hpath)).1
    rw [stem.core_path hs] at hpath
    exact ⟨hs, (Url.withPath_hasOnlyPath_iff base (stem.isEitherSlash hs) hs).1 hpath⟩
  · rintro ⟨hs, hrest⟩
    rw [stem.core_path hs]
    exact (Url.withPath_hasOnlyPath_iff base (stem.isEitherSlash hs) hs).2 hrest

/-- **Where addresses lead.** If the settings are accepted, and the address of the service does not
end in something that is only taken away because it is at the end, then whatever the prefix, the
address of every path is read, and leads to the place of the service for the same user. It leads to
the path of the service there, with the prefix and the path behind it and with neither query nor
fragment, exactly if the address of the service ends in a path and the prefix can stand in one. -/
theorem landing_of_validate {path : String} (valid : cfg.validate = .ok ())
    (ends : Url.EndsVisibly cfg.baseUrl.toList) (plain : IsPlainPath path) :
    (∃ base url, Url.parse cfg.baseUrl = .ok base ∧ Url.parse (cfg.endpoint path) = .ok url ∧
      url.SamePlace base ∧ url.userInfo? = base.userInfo?) ∧
    (cfg.Lands path ↔ cfg.EndsInPath ∧ Url.IsPathText cfg.apiPrefix.toList) := by
  obtain ⟨base, url, hbase, hurl, hplace, huser, hpath⟩ := exists_parse_endpoint valid ends plain
  refine ⟨⟨base, url, hbase, hurl, hplace, huser⟩, ?_⟩
  rw [← hpath]
  constructor
  · rintro ⟨base', url', hbase', hurl', -, hlands⟩
    obtain rfl := Except.ok.inj (hbase.symm.trans hbase')
    obtain rfl := Except.ok.inj (hurl.symm.trans hurl')
    exact hlands
  · intro hlands
    exact ⟨base, url, hbase, hurl, hplace, hlands⟩

/-- Settings with a user, a port, a segment that stands for a place, and slashes to spare. -/
def roundabout : Config := { baseUrl := " http://u@h:81/a/./b//", apiPrefix := "v1/x/" }

theorem endsInPath_roundabout : roundabout.EndsInPath := by
  refine ⟨by decide, by decide, fun site hsite ↦ ?_⟩
  have hpath : (Url.parse roundabout.site).map Url.path = .ok "/a/b/" := by decide +kernel
  rw [hsite] at hpath
  rw [show site.path = "/a/b/" from Except.ok.inj hpath]
  decide

theorem landing_of_validate_roundabout :
    roundabout.validate = .ok () ∧ Url.EndsVisibly roundabout.baseUrl.toList ∧
      IsPlainPath "/auth" ∧ roundabout.Lands "/auth" := by
  have valid : roundabout.validate = .ok () := by decide +kernel
  have ends : Url.EndsVisibly roundabout.baseUrl.toList := by decide
  have plain : IsPlainPath "/auth" := by decide
  exact ⟨valid, ends, plain, (landing_of_validate valid ends plain).2.2
    ⟨endsInPath_roundabout, by decide⟩⟩

/-- Settings that are accepted and lead elsewhere: the prefix goes up, the address of the service
has a query or a fragment, it has a slash of the other direction at its end, or a space. -/
def strays : List Config :=
  [{ baseUrl := "http://h", apiPrefix := "/v1/../v2" }, { baseUrl := "http://h?x" },
    { baseUrl := "http://h#x" }, { baseUrl := "http://h/a\\" }, { baseUrl := "http://h " }]

theorem not_lands_of_stray :
    IsPlainPath "/auth" ∧ ∀ cfg ∈ strays, cfg.validate = .ok () ∧ ¬cfg.Lands "/auth" := by
  decide +kernel

end Config

end TransactionHarness
