import Mathlib.Data.List.Basic
import Mathlib.Data.List.TakeWhile
import TransactionHarness.Proofs.Reading
import TransactionHarness.Url.Parser
/-!
# Fronts of addresses

The front of an address with a special scheme is the scheme and the authority, up to the first slash
of either direction, question mark or number sign. What it says, which is where the address leads,
does not depend on what follows; and what follows is the path, the query and the fragment.

* `Url.IsBehind`: a text that can follow a front.
* `Url.readPlace_append`: host and port are read from the authority alone.
* `Url.IsFront`: the front of an address, with what it says whatever follows, and
  `Url.exists_isFront`: every address with a special scheme has one.
-/

namespace TransactionHarness.Url

open Text

/-- A text that can follow an authority: none, or one that begins with a character that ends it. -/
def IsBehind (s : List Char) : Prop := ∀ c ∈ s.head?, endsAuthority true c = true

/-- A text in which nothing ends an authority. -/
def IsAuthority (s : List Char) : Prop := ∀ c ∈ s, endsAuthority true c = false

theorem isBehind_nil : IsBehind [] := nofun

theorem isBehind_cons {c : Char} {s : List Char} :
    IsBehind (c :: s) ↔ endsAuthority true c = true := by simp [IsBehind]

theorem IsBehind.append {s t : List Char} (hs : IsBehind s) (ht : IsBehind t) :
    IsBehind (s ++ t) := by
  rcases s with - | ⟨c, s⟩
  · exact ht
  · exact isBehind_cons.2 (isBehind_cons.1 hs)

/-- The start of a text whose continuation does not begin with a character that goes on with it. -/
theorem takeWhile_append_of_head {p : Char → Bool} {s t : List Char} (hs : ∀ c ∈ s, p c = true)
    (ht : ∀ c ∈ t.head?, p c = false) : (s ++ t).takeWhile p = s := by
  rw [List.takeWhile_append_of_pos hs]
  rcases t with - | ⟨c, t⟩
  · simp
  · simp [ht c rfl]

/-- A character that ends an authority is no colon, no digit and no commercial at. -/
theorem ne_of_endsAuthority {c : Char} (h : endsAuthority true c = true) :
    c ≠ ':' ∧ isDecimalDigit c = false := by
  simp only [endsAuthority, Bool.true_and, Bool.or_eq_true, beq_iff_eq] at h
  rcases h with ((rfl | rfl) | rfl) | rfl <;> decide

theorem endsPath_of_endsAuthority {c : Char} (h : endsAuthority true c = false) :
    endsPath c = false := by
  simp_all [endsAuthority, endsPath]

theorem endsPath_iff {c : Char} : endsPath c = true ↔ c = '?' ∨ c = '#' := by simp [endsPath]

theorem isEitherSlash_iff {c : Char} : isEitherSlash c = true ↔ c = '/' ∨ c = '\\' := by
  simp [isEitherSlash]

theorem endsPath_of_isEitherSlash {c : Char} (h : isEitherSlash c = true) :
    endsPath c = false := by
  rcases isEitherSlash_iff.1 h with rfl | rfl <;> rfl

/-! ### Host and port -/

section

variable {authority behind : List Char}

theorem splitHost_append (hauthority : IsAuthority authority) (hbehind : IsBehind behind)
    (inBrackets : Bool) : splitHost true inBrackets (authority ++ behind) =
      ((splitHost true inBrackets authority).1,
        (splitHost true inBrackets authority).2 ++ behind) := by
  induction authority generalizing inBrackets with
  | nil =>
    rcases behind with - | ⟨c, behind⟩
    · rfl
    · simp [splitHost, isBehind_cons.1 hbehind]
  | cons c authority ih =>
    obtain ⟨-, hrest⟩ := List.forall_mem_cons.1 hauthority
    simp only [List.cons_append, splitHost, ih hrest]
    split <;> rfl

/-- Behind the host there is nothing or a colon. -/
theorem splitHost_behind (hauthority : IsAuthority authority) (inBrackets : Bool) :
    IsAuthority (splitHost true inBrackets authority).2 ∧
      ∀ c ∈ (splitHost true inBrackets authority).2.head?, c = ':' := by
  induction authority generalizing inBrackets with
  | nil => exact ⟨hauthority, nofun⟩
  | cons c authority ih =>
    obtain ⟨hc, hrest⟩ := List.forall_mem_cons.1 hauthority
    rw [splitHost]
    split
    · next hends =>
      refine ⟨hauthority, fun d hd ↦ ?_⟩
      obtain rfl := Option.some.inj hd
      rw [hc, Bool.or_false, Bool.and_eq_true, beq_iff_eq] at hends
      exact hends.1
    · exact ih hrest _

/-- The port that digits are for. -/
def portOf (usual? : Option Nat) (digits : List Char) : Except Fault (Option Nat) :=
  match readDigits? digits with
  | none => .ok none
  | some n =>
    if max16 < n then .error .badPort else .ok (if usual? = some n then none else some n)

/-- The port is read from the digits behind the colon, and nothing but the end of the authority may
follow them. -/
theorem readPort_digits {digits rest : List Char} (hdigits : ∀ c ∈ digits, isDecimalDigit c = true)
    (hrest : ∀ c ∈ rest.head?, isDecimalDigit c = false) (usual? : Option Nat) :
    readPort usual? (':' :: (digits ++ rest)) =
      if rest.head?.any fun c ↦ !endsAuthority true c then .error .badPort
      else (fun port? ↦ (port?, rest)) <$> portOf usual? digits := by
  have htake : (digits ++ rest).takeWhile isDecimalDigit = digits :=
    takeWhile_append_of_head hdigits hrest
  unfold readPort portOf
  simp only [htake, List.drop_left]
  congr 1
  rcases readDigits? digits with - | n
  · rfl
  · by_cases hn : max16 < n <;> simp [hn]

/-- Whatever follows the authority is left over by the port, which does not depend on it. -/
theorem exists_readPort {s : List Char} (hs : IsAuthority s) (hcolon : ∀ c ∈ s.head?, c = ':')
    (usual? : Option Nat) : ∃ port, ∀ behind, IsBehind behind →
      readPort usual? (s ++ behind) = (fun port? ↦ (port?, behind)) <$> port := by
  rcases s with - | ⟨c, s⟩
  · refine ⟨.ok none, fun behind hbehind ↦ ?_⟩
    -- what follows does not begin with a colon
    rcases behind with - | ⟨d, behind⟩
    · rfl
    · have hd := (ne_of_endsAuthority (isBehind_cons.1 hbehind)).1
      rw [List.nil_append, readPort.eq_2 _ _ fun s heq ↦ hd (List.cons.inj heq).1]
      rfl
  · obtain rfl := hcolon c rfl
    have hdigits : ∀ c ∈ s.takeWhile isDecimalDigit, isDecimalDigit c = true := fun c hc ↦
      List.mem_takeWhile_imp hc
    have hsplit : s.takeWhile isDecimalDigit ++ s.dropWhile isDecimalDigit = s :=
      List.takeWhile_append_dropWhile
    have hmore := List.head?_dropWhile_not isDecimalDigit s
    generalize s.takeWhile isDecimalDigit = digits at hdigits hsplit
    generalize s.dropWhile isDecimalDigit = more at hsplit hmore
    subst hsplit
    rcases more with - | ⟨d, more⟩
    · -- the digits go on to the end of the authority
      refine ⟨portOf usual? digits, fun behind hbehind ↦ ?_⟩
      have hnone : ∀ c ∈ behind.head?, isDecimalDigit c = false := fun c hc ↦
        (ne_of_endsAuthority (hbehind c hc)).2
      have hends : (behind.head?.any fun c ↦ !endsAuthority true c) = false := by
        rcases behind with - | ⟨c, behind⟩
        · rfl
        · simp [isBehind_cons.1 hbehind]
      rw [List.append_nil, List.cons_append, readPort_digits hdigits hnone, hends]
      rfl
    · refine ⟨.error .badPort, fun behind _ ↦ ?_⟩
      have hd : endsAuthority true d = false := hs d (by simp)
      have hnone : ∀ c ∈ (d :: (more ++ behind)).head?, isDecimalDigit c = false := by
        simpa using hmore
      rw [List.cons_append, List.append_assoc, List.cons_append, readPort_digits hdigits hnone]
      simp [hd]

/-! ### Authorities -/

/-- Reads the host and all that follows it. -/
def readPlace (scheme : String) (userInfo? : Option (List Char)) (s : List Char) :
    Except Fault Url := do
  let (hostText, s) := splitHost true false s
  if hostText.isEmpty then throw .emptyHost
  let host ← readHost hostText
  let (port?, s) ← readPort (usualPort? scheme) s
  return withPath true s
    { scheme, userInfo? := userInfo?.map String.ofList, host? := some host, port? }

theorem readSpecial_eq (scheme : String) (s : List Char) :
    readSpecial scheme s = splitUserInfo true (s.dropWhile isEitherSlash) >>= fun split ↦
      readPlace scheme split.1 split.2 := rfl

/-- The place is known from the authority. -/
theorem exists_readPlace (hauthority : IsAuthority authority) (scheme : String)
    (userInfo? : Option (List Char)) : ∃ place, ∀ behind, IsBehind behind →
      readPlace scheme userInfo? (authority ++ behind) = withPath true behind <$> place := by
  obtain ⟨hremains, hcolon⟩ := splitHost_behind hauthority false
  obtain ⟨port, hport⟩ := exists_readPort hremains hcolon (usualPort? scheme)
  refine ⟨readPlace scheme userInfo? authority, fun behind hbehind ↦ ?_⟩
  have halone := hport [] isBehind_nil
  rw [List.append_nil] at halone
  simp only [readPlace, splitHost_append hauthority hbehind, hport behind hbehind, halone]
  by_cases hempty : (splitHost true false authority).1.isEmpty
  · simp [hempty]
    rfl
  · rcases readHost (splitHost true false authority).1 with fault | host
    · simp [hempty]
    · rcases port with fault | port?
      · simp [hempty]
      · simp [hempty]
        rfl

/-- The user information ends at the last commercial at of the authority. -/
theorem splitUserInfo_at {info host : List Char} (hauthority : IsAuthority (info ++ '@' :: host))
    (hhost : '@' ∉ host) (hbehind : IsBehind behind) :
    splitUserInfo true (info ++ '@' :: host ++ behind) =
      if info.isEmpty && (host ++ behind).head?.any (endsAuthority true) then .error .emptyHost
      else .ok (if (userInfoText info).isEmpty then none else some (userInfoText info),
        host ++ behind) := by
  have htake : (info ++ '@' :: host ++ behind).takeWhile (!endsAuthority true ·) =
      info ++ '@' :: host :=
    takeWhile_append_of_head (fun c hc ↦ by simp [hauthority c hc])
      (fun c hc ↦ by simp [hbehind c hc])
  have hmem : (info ++ '@' :: host).contains '@' = true := by simp
  have hlast : ((info ++ '@' :: host).reverse.takeWhile (· != '@')).reverse = host := by
    have hne : ∀ c ∈ host.reverse, (c != '@') = true := by
      intro c hc
      rw [List.mem_reverse] at hc
      exact bne_iff_ne.2 fun heq ↦ hhost (heq ▸ hc)
    rw [List.reverse_append, List.reverse_cons, List.append_assoc,
      List.takeWhile_append_of_pos hne]
    simp
  have hlength : (info ++ '@' :: host).length - host.length - 1 = info.length := by
    simp only [List.length_append, List.length_cons]
    omega
  have hdrop : (info ++ '@' :: host ++ behind).drop (info.length + 1) = host ++ behind := by
    rw [List.append_assoc, List.drop_append]
    simp
  simp only [splitUserInfo, htake, hmem, hlast, hlength, List.take_left, hdrop, if_true]

/-- Whatever follows the authority is left over by the user information. Without a host behind the
information, though, it may be refused at once. -/
theorem exists_splitUserInfo (hauthority : IsAuthority authority) :
    ∃ info? host, IsAuthority host ∧ ∀ behind, IsBehind behind →
      splitUserInfo true (authority ++ behind) = .ok (info?, host ++ behind) ∨
        host = [] ∧ splitUserInfo true (authority ++ behind) = .error .emptyHost := by
  by_cases hmem : '@' ∈ authority
  · obtain ⟨info, host, rfl, hhost⟩ :
        ∃ info host, authority = info ++ '@' :: host ∧ '@' ∉ host := by
      obtain ⟨s, t, heq, hs⟩ := List.eq_append_cons_of_mem (List.mem_reverse.2 hmem)
      refine ⟨t.reverse, s.reverse, ?_, by simpa using hs⟩
      rw [← List.reverse_reverse authority, heq]
      simp
    refine ⟨if (userInfoText info).isEmpty then none else some (userInfoText info), host,
      fun c hc ↦ hauthority c (by simp [hc]), fun behind hbehind ↦ ?_⟩
    rw [splitUserInfo_at hauthority hhost hbehind]
    split
    · next hrefused =>
      refine .inr ⟨?_, rfl⟩
      -- a host does not begin with the end of the authority
      rcases host with - | ⟨c, host⟩
      · rfl
      · have hc : endsAuthority true c = false := hauthority c (by simp)
        simp [hc] at hrefused
    · exact .inl rfl
  · refine ⟨none, authority, hauthority, fun behind hbehind ↦ .inl ?_⟩
    have htake : (authority ++ behind).takeWhile (!endsAuthority true ·) = authority :=
      takeWhile_append_of_head (fun c hc ↦ by simp [hauthority c hc])
        (fun c hc ↦ by simp [hbehind c hc])
    simp [splitUserInfo, htake, hmem]

/-- Slashes of either direction may stand in front of an authority; what it says does not depend on
what follows. -/
theorem exists_readSpecial (hauthority : IsAuthority authority) (hne : authority ≠ [])
    {lead : List Char} (hlead : ∀ c ∈ lead, isEitherSlash c = true) (scheme : String) :
    ∃ place, ∀ behind, IsBehind behind →
      readSpecial scheme (lead ++ authority ++ behind) = withPath true behind <$> place := by
  obtain ⟨info?, host, hhost, hsplit⟩ := exists_splitUserInfo hauthority
  obtain ⟨place, hplace⟩ := exists_readPlace hhost scheme info?
  refine ⟨place, fun behind hbehind ↦ ?_⟩
  have hdrop : (lead ++ authority ++ behind).dropWhile isEitherSlash = authority ++ behind := by
    obtain ⟨c, rest, rfl⟩ := List.exists_cons_of_ne_nil hne
    have hc : isEitherSlash c = false := by
      have hends := hauthority c List.mem_cons_self
      simp_all [endsAuthority, isEitherSlash]
    rw [List.append_assoc, List.dropWhile_append_of_pos hlead]
    simp [hc]
  rw [readSpecial_eq, hdrop, ← hplace behind hbehind]
  rcases hsplit behind hbehind with hok | ⟨rfl, herror⟩
  · rw [hok]
    rfl
  · -- without a host there is no place either
    rw [herror]
    rcases behind with - | ⟨c, behind⟩
    · rfl
    · simp [readPlace, splitHost, isBehind_cons.1 hbehind]
      rfl

end

/-! ### Fronts -/

/-- Reads the text of an address in which every character counts. -/
def read (s : List Char) : Except Fault Url :=
  match splitScheme? s with
  | none => .error .noScheme
  | some (scheme, rest) =>
    let scheme := String.ofList scheme
    if scheme = fileScheme then readFile rest
    else if (usualPort? scheme).isSome then readSpecial scheme rest
    else readPlain scheme rest

theorem parse_eq_read (text : String) : parse text = read (significant text.toList) := rfl

/-- A text that says where an address leads, and the address, up to path, query and fragment. -/
structure IsFront (front : List Char) (url : Url) : Prop where
  last : front.getLast? ≠ some '/'
  characters : ∀ c ∈ front, endsPath c = false
  read_append : ∀ behind, IsBehind behind → read (front ++ behind) = .ok (withPath true behind url)

theorem endsPath_of_isSchemeCharacter {c : Char} (h : isSchemeCharacter c = true) :
    endsPath c = false := by
  refine Bool.eq_false_iff.2 fun hends ↦ ?_
  rcases endsPath_iff.1 hends with rfl | rfl <;> cases h

/-- The scheme does not depend on what follows its colon. -/
theorem exists_splitScheme {s scheme rest : List Char} (h : splitScheme? s = some (scheme, rest)) :
    ∃ name, s = name ++ ':' :: rest ∧ (∀ c ∈ name, endsPath c = false) ∧
      ∀ rest', splitScheme? (name ++ ':' :: rest') = some (scheme, rest') := by
  rcases s with - | ⟨c, s⟩
  · cases h
  · rw [splitScheme?] at h
    by_cases hc : isLetter c
    · rw [if_pos hc] at h
      dsimp only at h
      split at h
      · next behind hbehind =>
        obtain ⟨rfl, rfl⟩ := Prod.mk.inj (Option.some.inj h)
        have hname : ∀ d ∈ c :: s.takeWhile isSchemeCharacter, isSchemeCharacter d = true :=
          List.forall_mem_cons.2 ⟨by simp [isSchemeCharacter, hc],
            fun d hd ↦ List.mem_takeWhile_imp hd⟩
        refine ⟨c :: s.takeWhile isSchemeCharacter, ?_,
          fun d hd ↦ endsPath_of_isSchemeCharacter (hname d hd), fun rest' ↦ ?_⟩
        · rw [List.cons_append, ← hbehind,
            List.prefix_iff_eq_append.1 (List.takeWhile_prefix isSchemeCharacter)]
        · have htake : (s.takeWhile isSchemeCharacter ++ ':' :: rest').takeWhile isSchemeCharacter =
              s.takeWhile isSchemeCharacter :=
            takeWhile_append_of_head (fun c hc ↦ List.mem_takeWhile_imp hc) (by simp; decide)
          simp [splitScheme?, hc, htake]
      · cases h
    · rw [if_neg hc] at h
      cases h

theorem scheme_of_readFile {s : List Char} {url : Url} (h : readFile s = .ok url) :
    url.scheme = fileScheme := by
  unfold readFile at h
  split at h
  · next a b rest =>
    by_cases hslashes : isEitherSlash a && isEitherSlash b
    · rw [if_pos hslashes] at h
      dsimp only at h
      split at h
      · obtain rfl := Except.ok.inj h
        rfl
      · obtain ⟨host, -, h⟩ := bind_eq_ok_iff.1 h
        obtain rfl := Except.ok.inj h
        rfl
    · rw [if_neg hslashes] at h
      obtain rfl := Except.ok.inj h
      rfl
  · obtain rfl := Except.ok.inj h
    rfl

theorem scheme_of_readPlain {scheme : String} {s : List Char} {url : Url}
    (h : readPlain scheme s = .ok url) : url.scheme = scheme := by
  unfold readPlain at h
  split at h
  · obtain ⟨⟨userInfo?, s⟩, -, h⟩ := bind_eq_ok_iff.1 h
    obtain ⟨host?, -, h⟩ := bind_eq_ok_iff.1 h
    dsimp only at h
    split at h
    · cases h
    · obtain ⟨⟨port?, s⟩, -, h⟩ := bind_eq_ok_iff.1 h
      obtain rfl := Except.ok.inj h
      rfl
  · obtain rfl := Except.ok.inj h
    rfl
  · obtain rfl := Except.ok.inj h
    rfl

/-- A special scheme needs an authority. -/
theorem readSpecial_of_isBehind {s : List Char} (h : IsBehind (s.dropWhile isEitherSlash))
    (scheme : String) : readSpecial scheme s = .error .emptyHost := by
  rw [readSpecial_eq]
  generalize s.dropWhile isEitherSlash = s at h
  rcases s with - | ⟨c, s⟩
  · rfl
  · have hc := isBehind_cons.1 h
    simp [splitUserInfo, readPlace, splitHost, hc]
    rfl

/-- Behind the scheme of an address there are slashes and an authority. -/
theorem exists_authority {scheme : String} {s : List Char} {url : Url}
    (h : readSpecial scheme s = .ok url) :
    ∃ lead authority behind, s = lead ++ authority ++ behind ∧
      (∀ c ∈ lead, isEitherSlash c = true) ∧ IsAuthority authority ∧ authority ≠ [] ∧
      IsBehind behind := by
  have hsplit : s.takeWhile isEitherSlash ++ s.dropWhile isEitherSlash = s :=
    List.takeWhile_append_dropWhile
  have hbehind : IsBehind ((s.dropWhile isEitherSlash).dropWhile (!endsAuthority true ·)) := by
    intro c hc
    have hnot := List.head?_dropWhile_not (!endsAuthority true ·) (s.dropWhile isEitherSlash)
    rw [Option.mem_def.1 hc] at hnot
    simpa using hnot
  refine ⟨s.takeWhile isEitherSlash, (s.dropWhile isEitherSlash).takeWhile (!endsAuthority true ·),
    (s.dropWhile isEitherSlash).dropWhile (!endsAuthority true ·), ?_,
    fun c hc ↦ List.mem_takeWhile_imp hc,
    fun c hc ↦ by simpa using List.mem_takeWhile_imp hc, fun hempty ↦ ?_, hbehind⟩
  · rw [List.append_assoc, List.takeWhile_append_dropWhile, hsplit]
  · have hnone := List.takeWhile_append_dropWhile (p := (!endsAuthority true ·))
      (l := s.dropWhile isEitherSlash)
    rw [hempty, List.nil_append] at hnone
    rw [hnone] at hbehind
    rw [readSpecial_of_isBehind hbehind] at h
    cases h

/-- A scheme with its colon, slashes and an authority are a front. -/
theorem isFront_of_authority {name scheme lead authority : List Char} {url : Url}
    (hname : ∀ c ∈ name, endsPath c = false)
    (hscheme : ∀ rest, splitScheme? (name ++ ':' :: rest) = some (scheme, rest))
    (hfile : String.ofList scheme ≠ fileScheme)
    (hspecial : (usualPort? (String.ofList scheme)).isSome)
    (hlead : ∀ c ∈ lead, isEitherSlash c = true) (hauthority : IsAuthority authority)
    (hne : authority ≠ [])
    (hplace : ∀ behind, IsBehind behind → readSpecial (String.ofList scheme)
      (lead ++ authority ++ behind) = .ok (withPath true behind url)) :
    IsFront (name ++ ':' :: (lead ++ authority)) url := by
  refine ⟨?_, fun c hc ↦ ?_, fun behind hbehind ↦ ?_⟩
  · have hlast : (name ++ ':' :: (lead ++ authority)).getLast? = some (authority.getLast hne) := by
      simp [List.getLast?_append, List.getLast?_cons, List.getLast?_eq_some_getLast hne]
    rw [hlast]
    intro hslash
    have hends := hauthority _ (List.getLast_mem hne)
    rw [Option.some.inj hslash] at hends
    cases hends
  · simp only [List.mem_append, List.mem_cons] at hc
    rcases hc with hc | rfl | hc | hc
    · exact hname c hc
    · rfl
    · exact endsPath_of_isEitherSlash (hlead c hc)
    · exact endsPath_of_endsAuthority (hauthority c hc)
  · rw [List.append_assoc, List.cons_append, read, hscheme]
    simp only [hfile, hspecial, if_true, if_false, hplace behind hbehind]

/-- **Fronts.** An address with a special scheme has a front, and is the same up to path, query and
fragment with anything else behind it. -/
theorem exists_isFront {s : List Char} {url : Url} (hread : read s = .ok url)
    (special : (usualPort? url.scheme).isSome) :
    ∃ front behind, s = front ++ behind ∧ IsBehind behind ∧ IsFront front url := by
  unfold read at hread
  split at hread
  · cases hread
  · next scheme rest hscheme =>
    dsimp only at hread
    split at hread
    · rw [scheme_of_readFile hread] at special
      cases special
    split at hread
    · next hfile hspecial =>
      obtain ⟨name, rfl, hcharacters, hname⟩ := exists_splitScheme hscheme
      obtain ⟨lead, authority, behind, rfl, hlead, hauthority, hne, hbehind⟩ :=
        exists_authority hread
      obtain ⟨place, hplace⟩ := exists_readSpecial hauthority hne hlead (String.ofList scheme)
      rw [hplace behind hbehind] at hread
      obtain ⟨url, rfl, rfl⟩ := map_eq_ok_iff.1 hread
      exact ⟨name ++ ':' :: (lead ++ authority), behind, by simp, hbehind,
        isFront_of_authority hcharacters hname hfile hspecial hlead hauthority hne hplace⟩
    · next hplain =>
      rw [scheme_of_readPlain hread] at special
      exact absurd special hplain

end TransactionHarness.Url
