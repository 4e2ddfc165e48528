import TransactionHarness.Proofs.Decoding
import TransactionHarness.Proofs.Segments
import TransactionHarness.Proofs.Spares
/-!
# Escaped paths

A file is asked for by its whole path, which the service has chosen and which may be any text. In
the address it is one segment: what is not unreserved stands there as percent signs with two
hexadecimal digits behind each.

* `Text.Percent.IsEncoded`: what an encoded text looks like.
* `Text.Percent.isEncoded_encode`: encoded texts look so, and `Text.Percent.encode_inj`: different
  texts are encoded differently.
* `Config.url_fetchRequest`: the address of a download.
-/

namespace TransactionHarness

open Text

namespace Text

/-- Different texts have different bytes. -/
theorem Utf8.encode_inj {s t : List Char} : Utf8.encode s = Utf8.encode t ↔ s = t := by
  constructor
  · intro h
    have hdecoded := congrArg Utf8.decodeLossy h
    rwa [Utf8.decodeLossy_encode, Utf8.decodeLossy_encode] at hdecoded
  · exact congrArg Utf8.encode

namespace Percent

/-! ### Encoded texts -/

/-- A hexadecimal digit that is no small letter. -/
def isUpperHexDigit (c : Char) : Bool := ('0' ≤ c && c ≤ '9') || ('A' ≤ c && c ≤ 'F')

/-- A text of unreserved characters and of percent signs with two digits behind each. -/
inductive IsEncoded : List Char → Prop where
  | nil : IsEncoded []
  | unreserved {c : Char} {s : List Char} (h : isUnreserved c = true) (rest : IsEncoded s) :
      IsEncoded (c :: s)
  | escaped {high low : Char} {s : List Char} (hhigh : isUpperHexDigit high = true)
      (hlow : isUpperHexDigit low = true) (rest : IsEncoded s) : IsEncoded ('%' :: high :: low :: s)

theorem IsEncoded.append {s t : List Char} (hs : IsEncoded s) (ht : IsEncoded t) :
    IsEncoded (s ++ t) := by
  induction hs with
  | nil => exact ht
  | unreserved h _ ih => exact .unreserved h ih
  | escaped hhigh hlow _ ih => exact .escaped hhigh hlow ih

/-- Texts that are encoded one by one are encoded together. -/
theorem IsEncoded.flatMap {α : Type} {f : α → List Char} {s : List α}
    (h : ∀ a ∈ s, IsEncoded (f a)) : IsEncoded (s.flatMap f) := by
  induction s with
  | nil => exact .nil
  | cons a s ih =>
    rw [List.forall_mem_cons] at h
    exact h.1.append (ih h.2)

theorem isUpperHexDigit_upperHex {n : Nat} (hn : n < 16) : isUpperHexDigit (upperHex n) = true := by
  have hall : ∀ m < 16, isUpperHexDigit (upperHex m) = true := by decide
  exact hall n hn

theorem isEncoded_encodeByte (b : UInt8) : IsEncoded (encodeByte b) := by
  have hb : b.toNat < 256 := b.toNat_lt
  exact .escaped (isUpperHexDigit_upperHex (by omega)) (isUpperHexDigit_upperHex (by omega)) .nil

theorem isEncoded_encode (s : List Char) : IsEncoded (encode s) := by
  refine IsEncoded.flatMap fun c _ ↦ ?_
  unfold encodeChar
  split
  · exact .unreserved ‹_› .nil
  · exact IsEncoded.flatMap fun b _ ↦ isEncoded_encodeByte b

/-! ### Their characters -/

theorem isUnreserved_iff {c : Char} : isUnreserved c = true ↔
    (0x41 ≤ c.toNat ∧ c.toNat ≤ 0x5A) ∨ (0x61 ≤ c.toNat ∧ c.toNat ≤ 0x7A) ∨
      (0x30 ≤ c.toNat ∧ c.toNat ≤ 0x39) ∨ c.toNat = 0x2D ∨ c.toNat = 0x2E ∨ c.toNat = 0x5F ∨
        c.toNat = 0x7E := by
  simp only [isUnreserved, Bool.or_eq_true, Bool.and_eq_true, decide_eq_true_eq, beq_iff_eq,
    Char.le_def, UInt32.le_iff_toNat_le, Char.ext_iff, ← UInt32.toNat_inj, or_assoc]
  exact Iff.rfl

theorem isUnreserved_of_isUpperHexDigit {c : Char} (h : isUpperHexDigit c = true) :
    isUnreserved c = true := by
  simp only [isUpperHexDigit, Bool.or_eq_true, Bool.and_eq_true, decide_eq_true_eq, Char.le_def,
    UInt32.le_iff_toNat_le] at h
  have hrange : (0x30 ≤ c.toNat ∧ c.toNat ≤ 0x39) ∨ (0x41 ≤ c.toNat ∧ c.toNat ≤ 0x46) := h
  rw [isUnreserved_iff]
  omega

/-- The characters of an encoded text stand for themselves, percent signs apart. -/
theorem IsEncoded.of_mem {s : List Char} (h : IsEncoded s) :
    ∀ c ∈ s, isUnreserved c = true ∨ c = '%' := by
  induction h with
  | nil => nofun
  | unreserved h _ ih => exact List.forall_mem_cons.2 ⟨.inl h, ih⟩
  | escaped hhigh hlow _ ih =>
    have hdigits := And.intro (isUnreserved_of_isUpperHexDigit hhigh)
      (isUnreserved_of_isUpperHexDigit hlow)
    rw [List.forall_mem_cons, List.forall_mem_cons, List.forall_mem_cons]
    exact ⟨.inr rfl, .inl hdigits.1, .inl hdigits.2, ih⟩

/-- An encoded text is ASCII without white space, and can be a segment. -/
theorem IsEncoded.plain {s : List Char} (h : IsEncoded s) :
    (∀ c ∈ s, c.toNat < 128 ∧ isBlank c = false) ∧ Url.IsSegment s := by
  have hrange {c : Char} (hc : c ∈ s) : 36 < c.toNat ∧ c.toNat < 127 ∧ c.toNat ≠ 0x2F ∧
      c.toNat ≠ 0x3F := by
    rcases h.of_mem c hc with hplain | rfl
    · rw [isUnreserved_iff] at hplain
      omega
    · decide
  constructor
  · intro c hc
    have hbounds := hrange hc
    refine ⟨by omega, Bool.eq_false_iff.2 fun hblank ↦ ?_⟩
    have hblank := toNat_of_isBlank hblank
    omega
  · intro c hc
    obtain ⟨hlow, -, hslash, hquestion⟩ := hrange hc
    have hne (d : Char) (hd : c.toNat ≠ d.toNat) : c ≠ d := fun heq ↦ hd (congrArg Char.toNat heq)
    refine ⟨hne '/' hslash, ?_⟩
    simp [Url.endsPath, hne '?' hquestion, hne '#' (show c.toNat ≠ 35 by omega)]

/-- Different texts are encoded differently. -/
theorem encode_inj {s t : List Char} : encode s = encode t ↔ s = t := by
  constructor
  · intro h
    have hbytes := congrArg decode h
    rwa [decode_encode, decode_encode, Utf8.encode_inj] at hbytes
  · exact congrArg encode

end Percent

end Text

namespace Config

variable (cfg : Config)

theorem url_fetchRequest_eq (token path : String) :
    (cfg.fetchRequest token path).url = cfg.address ["download", Artifact.segment path] :=
  cfg.endpoint_eq_address (by simp [Url.pathOf]) ⟨_, _, rfl, rfl⟩

theorem address_eq_append (word name : String) :
    cfg.address [word, name] = cfg.apiBase ++ "/" ++ word ++ "/" ++ name := by
  simp [address, Url.pathOf, ← String.toList_inj]

/-- **Addresses of downloads.** Behind the base of the interface and the fixed word, the address of
a download has one segment. It consists of unreserved characters and of percent signs with two
upper-case hexadecimal digits behind each, and it stands for the bytes of the path, whatever the
path is. So different paths are asked for at different addresses. -/
theorem url_fetchRequest (token path : String) :
    (∃ segment, (cfg.fetchRequest token path).url =
        cfg.apiBase ++ "/download/" ++ String.ofList segment ∧
      Percent.IsEncoded segment ∧ Url.IsSegment segment ∧
      (∀ c ∈ segment, c.toNat < 128 ∧ isBlank c = false) ∧
      Percent.decode segment = Utf8.encode path.toList) ∧
    ∀ token' path', (cfg.fetchRequest token' path').url = (cfg.fetchRequest token path).url →
      path' = path := by
  have hencoded := Percent.isEncoded_encode path.toList
  refine ⟨⟨_, ?_, hencoded, hencoded.plain.2, hencoded.plain.1, Percent.decode_encode _⟩, ?_⟩
  · rw [url_fetchRequest_eq, address_eq_append]
    simp [← String.toList_inj, Artifact.segment]
  · intro token' path' hsame
    rw [url_fetchRequest_eq, url_fetchRequest_eq, address_eq_iff] at hsame
    have hsegment : Percent.encode path'.toList = Percent.encode path.toList := by
      simpa [Url.pathOf, Artifact.segment] using hsame
    exact String.toList_inj.1 (Percent.encode_inj.1 hsegment)

end Config

end TransactionHarness
