import Mathlib.Tactic.SplitIfs
import TransactionHarness.Http.Body
/-!
# Reading UTF-8

What `decodeLossy` makes of bytes, whether or not they are well-formed.

* `decodeLossy_append_cons`: a byte below 128 is read by itself, wherever it stands.
* `exists_of_mem_decodeLossy`: a character below 128 comes from its own byte.
* `decodeLossy_encode`: the bytes of a text are read back as the text.
-/

namespace TransactionHarness.Text.Utf8

/-! ### Bytes within bounds -/

/-- The bounds of a byte in numbers. -/
theorem within_iff {low high b : UInt8} :
    (low ≤ b && b ≤ high) = true ↔ low.toNat ≤ b.toNat ∧ b.toNat ≤ high.toNat := by
  simp only [Bool.and_eq_true, decide_eq_true_eq, UInt8.le_iff_toNat_le]

theorem isContinuation_iff {b : UInt8} :
    isContinuation b = true ↔ 0x80 ≤ b.toNat ∧ b.toNat ≤ 0xBF := within_iff

theorem isSecondOfThree_iff {lead b : UInt8} :
    isSecondOfThree lead b = true ↔ (0x80 ≤ b.toNat ∧ b.toNat ≤ 0xBF) ∧
      (lead.toNat = 0xE0 → 0xA0 ≤ b.toNat) ∧ (lead.toNat = 0xED → b.toNat ≤ 0x9F) := by
  simp only [isSecondOfThree, beq_iff_eq, ← UInt8.toNat_inj, UInt8.reduceToNat]
  split_ifs <;> simp only [within_iff, isContinuation_iff, UInt8.reduceToNat] <;> omega

theorem isSecondOfFour_iff {lead b : UInt8} :
    isSecondOfFour lead b = true ↔ (0x80 ≤ b.toNat ∧ b.toNat ≤ 0xBF) ∧
      (lead.toNat = 0xF0 → 0x90 ≤ b.toNat) ∧ (lead.toNat = 0xF4 → b.toNat ≤ 0x8F) := by
  simp only [isSecondOfFour, beq_iff_eq, ← UInt8.toNat_inj, UInt8.reduceToNat]
  split_ifs <;> simp only [within_iff, isContinuation_iff, UInt8.reduceToNat] <;> omega

/-- A byte below 128 continues no sequence. -/
theorem not_continues {b : UInt8} (hb : b < 0x80) (lead : UInt8) :
    isContinuation b = false ∧ isSecondOfThree lead b = false ∧ isSecondOfFour lead b = false := by
  simp only [UInt8.lt_iff_toNat_lt, UInt8.reduceToNat] at hb
  simp only [Bool.eq_false_iff, Ne, isContinuation_iff, isSecondOfThree_iff, isSecondOfFour_iff]
  omega

/-! ### Bytes that stand for themselves -/

theorem takeSequence_of_lt {b : UInt8} (hb : b < 0x80) (rest : List UInt8) :
    takeSequence b rest = (some (Char.ofNat b.toNat), rest) := by
  simp only [takeSequence, hb, if_true]

/-- A sequence ends in front of a byte below 128. -/
theorem takeSequence_append (lead : UInt8) (s : List UInt8) {b : UInt8} (hb : b < 0x80)
    (rest : List UInt8) :
    takeSequence lead (s ++ b :: rest) =
      ((takeSequence lead s).1, (takeSequence lead s).2 ++ b :: rest) := by
  obtain ⟨hcontinuation, hthree, hfour⟩ := not_continues hb lead
  rcases s with - | ⟨c, - | ⟨d, - | ⟨e, s⟩⟩⟩ <;>
    simp only [takeSequence, List.nil_append, List.cons_append, hcontinuation, hthree, hfour,
      Bool.false_eq_true, if_false] <;>
    split_ifs <;> rfl

theorem decodeLossy_cons {b : UInt8} (hb : b < 0x80) (rest : List UInt8) :
    decodeLossy (b :: rest) = Char.ofNat b.toNat :: decodeLossy rest := by
  rw [decodeLossy, takeSequence_of_lt hb, Option.getD_some]

/-- A byte below 128 is read by itself, wherever it stands. -/
theorem decodeLossy_append_cons (s : List UInt8) {b : UInt8} (hb : b < 0x80) (rest : List UInt8) :
    decodeLossy (s ++ b :: rest) = decodeLossy s ++ Char.ofNat b.toNat :: decodeLossy rest := by
  induction s using decodeLossy.induct with
  | case1 =>
    rw [List.nil_append, decodeLossy_cons hb, decodeLossy, List.nil_append]
  | case2 lead s ih =>
    rw [List.cons_append, decodeLossy, decodeLossy, takeSequence_append lead s hb rest, ih,
      List.cons_append]

/-! ### Characters that stand for a byte -/

theorem toNat_ofNat {n : Nat} (hn : n.isValidChar) : (Char.ofNat n).toNat = n := by
  rw [Char.ofNat, dif_pos hn]
  rfl

/-- What two bytes stand for is above what one byte does. -/
theorem le_toNat_of_two {b c : UInt8} (hb : (0xC2 ≤ b && b ≤ 0xDF) = true) :
    0x80 ≤ (Char.ofNat ((b.toNat % 32) * 64 + payload c)).toNat := by
  simp only [within_iff, UInt8.reduceToNat] at hb
  have hc : payload c < 64 := Nat.mod_lt _ (by decide)
  rw [toNat_ofNat (.inl (by omega))]
  omega

theorem le_toNat_of_three {b c d : UInt8} (hb : (0xE0 ≤ b && b ≤ 0xEF) = true)
    (hc : isSecondOfThree b c = true) :
    0x80 ≤ (Char.ofNat ((b.toNat % 16) * 4096 + payload c * 64 + payload d)).toNat := by
  simp only [within_iff, UInt8.reduceToNat] at hb
  obtain ⟨hrange, hfirst, hlast⟩ := isSecondOfThree_iff.1 hc
  have hd : payload d < 64 := Nat.mod_lt _ (by decide)
  have hvalid : ((b.toNat % 16) * 4096 + payload c * 64 + payload d).isValidChar := by
    simp only [Nat.isValidChar, payload] at hd ⊢
    omega
  rw [toNat_ofNat hvalid, payload]
  omega

theorem le_toNat_of_four {b c d e : UInt8} (hb : (0xF0 ≤ b && b ≤ 0xF4) = true)
    (hc : isSecondOfFour b c = true) :
    0x80 ≤ (Char.ofNat ((b.toNat % 8) * 262144 + payload c * 4096 + payload d * 64 +
      payload e)).toNat := by
  simp only [within_iff, UInt8.reduceToNat] at hb
  obtain ⟨hrange, hfirst, hlast⟩ := isSecondOfFour_iff.1 hc
  have hd : payload d < 64 := Nat.mod_lt _ (by decide)
  have he : payload e < 64 := Nat.mod_lt _ (by decide)
  have hvalid : ((b.toNat % 8) * 262144 + payload c * 4096 + payload d * 64 +
      payload e).isValidChar := by
    simp only [Nat.isValidChar, payload] at hd he ⊢
    omega
  rw [toNat_ofNat hvalid, payload]
  omega

/-- A longer sequence is not read as a character below 128. -/
theorem le_of_takeSequence {lead : UInt8} {rest : List UInt8} {c : Char}
    (hlead : ¬ lead < 0x80) (h : (takeSequence lead rest).1 = some c) : 0x80 ≤ c.toNat := by
  unfold takeSequence at h
  rw [if_neg hlead] at h
  repeat' split at h
  all_goals cases h
  · exact le_toNat_of_two ‹_›
  · exact le_toNat_of_three ‹_› ‹_›
  · exact le_toNat_of_four ‹_› ‹_›

/-- What is left behind a sequence stood behind its first byte. -/
theorem takeSequence_suffix (lead : UInt8) (rest : List UInt8) :
    (takeSequence lead rest).2 <:+ rest := by
  unfold takeSequence
  repeat' split
  all_goals simp [List.suffix_cons_iff]

/-- A character below 128 comes from its own byte. -/
theorem exists_of_mem_decodeLossy {s : List UInt8} {c : Char} (hc : c.toNat < 0x80)
    (h : c ∈ decodeLossy s) : ∃ b ∈ s, b.toNat = c.toNat := by
  induction s using decodeLossy.induct with
  | case1 =>
    rw [decodeLossy] at h
    cases h
  | case2 lead rest ih =>
    rw [decodeLossy, List.mem_cons] at h
    rcases h with h | h
    · by_cases hlead : lead < 0x80
      · rw [takeSequence_of_lt hlead, Option.getD_some] at h
        refine ⟨lead, List.mem_cons_self, ?_⟩
        rw [UInt8.lt_iff_toNat_lt] at hlead
        rw [h, toNat_ofNat (.inl (Nat.lt_trans hlead (by decide)))]
      · exfalso
        rcases htake : (takeSequence lead rest).1 with - | c'
        · rw [h, htake] at hc
          exact absurd hc (by decide)
        · rw [htake, Option.getD_some] at h
          exact absurd (le_of_takeSequence hlead htake) (h ▸ Nat.not_le.2 hc)
    · obtain ⟨b, hb, heq⟩ := ih h
      exact ⟨b, List.mem_cons_of_mem _ ((takeSequence_suffix lead rest).subset hb), heq⟩

/-! ### Texts and their bytes -/

theorem not_lt_of_le (low : UInt8) {b : UInt8} (hlow : 0x80 ≤ low) (hb : low.toNat ≤ b.toNat) :
    ¬ b < 0x80 :=
  UInt8.not_lt.2 (UInt8.le_trans hlow (UInt8.le_iff_toNat_le.2 hb))

theorem takeSequence_of_two {b c : UInt8} (hb : 0xC2 ≤ b.toNat ∧ b.toNat ≤ 0xDF)
    (hc : isContinuation c = true) (rest : List UInt8) :
    takeSequence b (c :: rest) =
      (some (Char.ofNat ((b.toNat % 32) * 64 + payload c)), rest) := by
  have hlead : ¬ b < 0x80 := not_lt_of_le 0xC2 (by decide) hb.1
  have htwo : (0xC2 ≤ b && b ≤ 0xDF) = true := within_iff.2 hb
  simp only [takeSequence, hlead, htwo, hc, if_true, if_false]

theorem takeSequence_of_three {b c d : UInt8} (hb : 0xE0 ≤ b.toNat ∧ b.toNat ≤ 0xEF)
    (hc : isSecondOfThree b c = true) (hd : isContinuation d = true) (rest : List UInt8) :
    takeSequence b (c :: d :: rest) =
      (some (Char.ofNat ((b.toNat % 16) * 4096 + payload c * 64 + payload d)), rest) := by
  have hlead : ¬ b < 0x80 := not_lt_of_le 0xE0 (by decide) hb.1
  have htwo : ¬ (0xC2 ≤ b && b ≤ 0xDF) = true := by
    simp only [within_iff, UInt8.reduceToNat]
    omega
  have hthree : (0xE0 ≤ b && b ≤ 0xEF) = true := within_iff.2 hb
  simp only [takeSequence, hlead, htwo, hthree, hc, hd, Bool.false_eq_true, if_true, if_false]

theorem takeSequence_of_four {b c d e : UInt8} (hb : 0xF0 ≤ b.toNat ∧ b.toNat ≤ 0xF4)
    (hc : isSecondOfFour b c = true) (hd : isContinuation d = true)
    (he : isContinuation e = true) (rest : List UInt8) :
    takeSequence b (c :: d :: e :: rest) =
      (some (Char.ofNat ((b.toNat % 8) * 262144 + payload c * 4096 + payload d * 64 +
        payload e)), rest) := by
  have hlead : ¬ b < 0x80 := not_lt_of_le 0xF0 (by decide) hb.1
  have htwo : ¬ (0xC2 ≤ b && b ≤ 0xDF) = true := by
    simp only [within_iff, UInt8.reduceToNat]
    omega
  have hthree : ¬ (0xE0 ≤ b && b ≤ 0xEF) = true := by
    simp only [within_iff, UInt8.reduceToNat]
    omega
  have hfour : (0xF0 ≤ b && b ≤ 0xF4) = true := within_iff.2 hb
  simp only [takeSequence, hlead, htwo, hthree, hfour, hc, hd, he, Bool.false_eq_true, if_true,
    if_false]

/-- The bytes of a character are read as the character. -/
theorem takeSequence_encodeChar (c : Char) (rest : List UInt8) :
    ∃ lead tail, String.utf8EncodeChar c = lead :: tail ∧
      takeSequence lead (tail ++ rest) = (some c, rest) := by
  have hread {n : Nat} (hn : n = c.toNat) : Char.ofNat n = c := by rw [hn, Char.ofNat_toNat]
  have hvalid : c.val.toNat < 0xD800 ∨ 0xDFFF < c.val.toNat ∧ c.val.toNat < 0x110000 := c.valid
  have hval : c.val.toNat = c.toNat := rfl
  unfold String.utf8EncodeChar
  generalize c.val.toNat = v at hvalid hval
  dsimp only
  split_ifs with h₁ h₂ h₃
  · refine ⟨_, _, rfl, ?_⟩
    rw [List.nil_append, takeSequence_of_lt, hread]
    · simp only [UInt8.toNat_ofNat']
      omega
    · simp only [UInt8.lt_iff_toNat_lt, UInt8.toNat_ofNat', UInt8.reduceToNat]
      omega
  · refine ⟨_, _, rfl, ?_⟩
    rw [List.singleton_append, takeSequence_of_two, hread]
    · simp only [UInt8.toNat_ofNat', payload]
      omega
    · simp only [UInt8.toNat_ofNat']
      omega
    · simp only [isContinuation_iff, UInt8.toNat_ofNat']
      omega
  · refine ⟨_, _, rfl, ?_⟩
    rw [List.cons_append, List.singleton_append, takeSequence_of_three, hread]
    · simp only [UInt8.toNat_ofNat', payload]
      omega
    · simp only [UInt8.toNat_ofNat']
      omega
    · simp only [isSecondOfThree_iff, UInt8.toNat_ofNat']
      omega
    · simp only [isContinuation_iff, UInt8.toNat_ofNat']
      omega
  · refine ⟨_, _, rfl, ?_⟩
    rw [List.cons_append, List.cons_append, List.singleton_append, takeSequence_of_four, hread]
    · simp only [UInt8.toNat_ofNat', payload]
      omega
    · simp only [UInt8.toNat_ofNat']
      omega
    · simp only [isSecondOfFour_iff, UInt8.toNat_ofNat']
      omega
    · simp only [isContinuation_iff, UInt8.toNat_ofNat']
      omega
    · simp only [isContinuation_iff, UInt8.toNat_ofNat']
      omega

/-- The bytes of a text are read back as the text, whatever follows them. -/
theorem decodeLossy_encode_append (s : List Char) (rest : List UInt8) :
    decodeLossy (encode s ++ rest) = s ++ decodeLossy rest := by
  induction s with
  | nil => rfl
  | cons c s ih =>
    obtain ⟨lead, tail, hencode, htake⟩ := takeSequence_encodeChar c (encode s ++ rest)
    have hcons : encode (c :: s) ++ rest = lead :: (tail ++ (encode s ++ rest)) := by
      simp only [encode, List.flatMap_cons, hencode, List.cons_append, List.append_assoc]
    rw [hcons, decodeLossy, htake, Option.getD_some, ih, List.cons_append]

theorem decodeLossy_encode (s : List Char) : decodeLossy (encode s) = s := by
  have hread := decodeLossy_encode_append s []
  rwa [List.append_nil, decodeLossy, List.append_nil] at hread

end TransactionHarness.Text.Utf8
