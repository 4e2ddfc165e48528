import TransactionHarness.Token.Basic
/-!
# When a token has to be renewed

A token has to be renewed as soon as the margin reaches from the present to its expiry. Counted in
nanoseconds, without any limit, that is one inequality (`AccessToken.needsRenewal_iff`): neither the
cut-off of long margins nor the end of the calendar changes the answer.

The present may lie in a leap second. Its nanoseconds then run into the second behind it, in front
of which it nevertheless is, so it counts as the last nanosecond of its own second
(`Instant.clipped`).

* `Instant.exists_sub?`: what is left when a span is subtracted, in the calendar or not.
* `Instant.notBefore_iff`: the order of instants.
* `AccessToken.renewal_exact`: the answer, and that it stays once it has been given.
* `AccessToken.renewal_in_leap_second`: in a leap second its own nanoseconds do not count.
-/

namespace TransactionHarness

/-! ### Nanoseconds -/

/-- The nanoseconds of a span. -/
def Span.inNanos (d : Span) : Int := d.seconds * nanosPerSecond + d.nanos

/-- The nanoseconds up to an instant, those of a leap second included. -/
def Instant.inNanos (t : Instant) : Int := t.seconds * nanosPerSecond + t.nanos

/-- The instant, or the last nanosecond in front of the leap second in which it lies. -/
def Instant.clipped (t : Instant) : Instant := { t with nanos := min t.nanos (nanosPerSecond - 1) }

namespace Span

variable {d d' : Span}

theorem atMost_iff (hd : d.nanos < nanosPerSecond) (hd' : d'.nanos < nanosPerSecond) :
    d.atMost d' = true ↔ d.inNanos ≤ d'.inNanos := by
  simp only [atMost, inNanos, nanosPerSecond, Bool.or_eq_true, Bool.and_eq_true, beq_iff_eq,
    decide_eq_true_eq] at *
  omega

theorem nanos_saturated_lt (hd : d.nanos < nanosPerSecond) :
    d.saturated.nanos < nanosPerSecond := by
  unfold saturated
  split
  · exact hd
  · decide

/-- A span is cut off only if it is longer than the longest one. -/
theorem saturated_eq_or (hd : d.nanos < nanosPerSecond) :
    d.saturated = d ∨ d.saturated = longest ∧ longest.inNanos ≤ d.inNanos := by
  unfold saturated
  split
  · exact .inl rfl
  · next hlong =>
    have hlong' : ¬ d.inNanos ≤ longest.inNanos :=
      fun hle ↦ hlong ((atMost_iff hd (by decide)).2 hle)
    exact .inr ⟨rfl, by omega⟩

end Span

namespace Instant

variable {t u : Instant}

theorem clipped_of_lt (ht : t.nanos < nanosPerSecond) : t.clipped = t := by
  have hmin : min t.nanos (nanosPerSecond - 1) = t.nanos := by omega
  rw [clipped, hmin]

/-- The last nanosecond in front of a leap second. -/
theorem inNanos_clipped_of_le (ht : nanosPerSecond ≤ t.nanos) :
    t.clipped.inNanos + 1 = (t.seconds + 1) * nanosPerSecond := by
  simp only [inNanos, clipped, nanosPerSecond] at *
  omega

/-- Instants come in the order of their nanoseconds, if a leap second is clipped. -/
theorem notBefore_iff (hu : u.nanos < nanosPerSecond) :
    t.notBefore u = true ↔ u.inNanos ≤ t.clipped.inNanos := by
  simp only [notBefore, inNanos, clipped, nanosPerSecond, Bool.or_eq_true, Bool.and_eq_true,
    beq_iff_eq, decide_eq_true_eq] at *
  omega

/-- What is earlier stays earlier when both are clipped. -/
theorem clipped_le (h : t.notBefore u = true) : u.clipped.inNanos ≤ t.clipped.inNanos := by
  simp only [notBefore, inNanos, clipped, nanosPerSecond, Bool.or_eq_true, Bool.and_eq_true,
    beq_iff_eq, decide_eq_true_eq] at *
  omega

/-- What is left when a span is subtracted from an instant: its nanoseconds are the difference, and
it is given unless the calendar does not have it. -/
theorem exists_sub? {d : Span} (ht : t.nanos < nanosPerSecond) (hd : d.nanos < nanosPerSecond) :
    ∃ u : Instant, u.nanos < nanosPerSecond ∧ u.inNanos + d.inNanos = t.inNanos ∧
      t.sub? d = if u.inCalendar then some u else none := by
  have hleap : ¬ (nanosPerSecond ≤ t.nanos ∧ d.seconds = 0) := by omega
  have hsub : t.sub? d =
      if d.nanos ≤ t.nanos then ofSeconds? (t.seconds - d.seconds) (t.nanos - d.nanos)
      else ofSeconds? (t.seconds - d.seconds - 1) (t.nanos + nanosPerSecond - d.nanos) := by
    rw [sub?, if_neg hleap]
    simp only [Nat.div_eq_of_lt ht, Nat.mod_eq_of_lt ht, Int.natCast_zero, Int.add_zero]
  rw [hsub]
  split
  · refine ⟨⟨t.seconds - d.seconds, t.nanos - d.nanos⟩, ?_, ?_, rfl⟩
    · show t.nanos - d.nanos < nanosPerSecond
      omega
    · simp only [inNanos, Span.inNanos, nanosPerSecond]
      omega
  · refine ⟨⟨t.seconds - d.seconds - 1, t.nanos + nanosPerSecond - d.nanos⟩, ?_, ?_, rfl⟩
    · show t.nanos + nanosPerSecond - d.nanos < nanosPerSecond
      omega
    · simp only [inNanos, Span.inNanos, nanosPerSecond] at *
      omega

theorem inCalendar_iff :
    t.inCalendar = true ↔ firstSecond ≤ t.seconds ∧ t.seconds ≤ lastSecond := by
  simp [inCalendar]

/-- An instant that is not behind one in the calendar is missing there only if the calendar begins
later. -/
theorem le_clipped_of_not_inCalendar {e : Instant} (hu : u.nanos < nanosPerSecond)
    (hcalendar : u.inCalendar = false) (he : e.inCalendar = true) (hle : u.inNanos ≤ e.inNanos)
    (hnanos : e.nanos < nanosPerSecond) (ht : t.inCalendar = true) :
    u.inNanos ≤ t.clipped.inNanos := by
  rw [inCalendar_iff] at he ht
  have hout : ¬ (firstSecond ≤ u.seconds ∧ u.seconds ≤ lastSecond) := by
    rw [← inCalendar_iff, hcalendar]
    exact Bool.false_ne_true
  simp only [inNanos, clipped, nanosPerSecond] at *
  omega

/-- The longest span reaches over the whole calendar. -/
theorem le_add_longest (hu : u.inCalendar = true) (hnanos : u.nanos < nanosPerSecond)
    (ht : t.inCalendar = true) : u.inNanos ≤ t.clipped.inNanos + Span.longest.inNanos := by
  rw [inCalendar_iff] at hu ht
  simp only [inNanos, Span.inNanos, clipped, nanosPerSecond, firstSecond, lastSecond,
    Span.longest] at *
  omega

end Instant

/-! ### Renewal -/

namespace AccessToken

variable {token : AccessToken} {expiry now : Instant} {margin : Span}

/-- A token has to be renewed exactly if the margin reaches from the present to the expiry. -/
theorem needsRenewal_iff (hexpiry : token.expiresAt? = some expiry)
    (hcalendar : expiry.inCalendar = true) (hnanos : expiry.nanos < nanosPerSecond)
    (hnow : now.inCalendar = true) (hmargin : margin.nanos < nanosPerSecond) :
    token.needsRenewal now margin = true ↔
      expiry.inNanos ≤ now.clipped.inNanos + margin.inNanos := by
  have hshort := Span.nanos_saturated_lt hmargin
  obtain ⟨deadline, hdeadline, hsum, hsub⟩ := Instant.exists_sub? hnanos hshort
  have hspan : 0 ≤ margin.saturated.inNanos := by
    unfold Span.inNanos nanosPerSecond
    omega
  -- a deadline in front of the calendar has passed, as the answer says
  have hreached : token.needsRenewal now margin = true ↔
      deadline.inNanos ≤ now.clipped.inNanos := by
    rw [needsRenewal, hexpiry]
    simp only [hsub]
    by_cases hin : deadline.inCalendar = true
    · simp only [if_pos hin, Instant.notBefore_iff hdeadline]
    · rw [if_neg hin]
      exact iff_of_true rfl (Instant.le_clipped_of_not_inCalendar hdeadline
        (Bool.eq_false_iff.2 hin) hcalendar (by omega) hnanos hnow)
  rw [hreached]
  rcases Span.saturated_eq_or hmargin with heq | ⟨heq, hlong⟩
  · rw [heq] at hsum
    omega
  · have hwhole := Instant.le_add_longest hcalendar hnanos hnow
    rw [heq] at hsum
    omega

/-- **Renewal.** A token without an expiry is never renewed. Any other one has to be renewed
exactly if the margin reaches from the present to the expiry, all counted in nanoseconds without any
limit. If the present lies in a leap second, the margin is counted from the end of the second in
front of it. Once a token has to be renewed, it does so at every later instant and with every longer
margin. -/
theorem renewal_exact (token : AccessToken) :
    (token.expiresAt? = none → ∀ now margin, token.needsRenewal now margin = false) ∧
    ∀ expiry, token.expiresAt? = some expiry → expiry.inCalendar = true →
      expiry.nanos < nanosPerSecond →
      ∀ now margin, now.inCalendar = true → margin.nanos < nanosPerSecond →
        (now.nanos < nanosPerSecond →
          (token.needsRenewal now margin = true ↔
            expiry.inNanos ≤ now.inNanos + margin.inNanos)) ∧
        (nanosPerSecond ≤ now.nanos →
          (token.needsRenewal now margin = true ↔
            expiry.inNanos < (now.seconds + 1) * nanosPerSecond + margin.inNanos)) ∧
        ∀ later longer, later.inCalendar = true → longer.nanos < nanosPerSecond →
          later.notBefore now = true → margin.atMost longer = true →
          token.needsRenewal now margin = true → token.needsRenewal later longer = true := by
  refine ⟨fun hnone now margin ↦ by rw [needsRenewal, hnone], ?_⟩
  intro expiry hexpiry hcalendar hnanos now margin hnow hmargin
  have hiff := needsRenewal_iff hexpiry hcalendar hnanos hnow hmargin
  refine ⟨fun hplain ↦ ?_, fun hleap ↦ ?_, ?_⟩
  · rw [hiff, Instant.clipped_of_lt hplain]
  · have hclipped := Instant.inNanos_clipped_of_le hleap
    rw [hiff]
    omega
  · intro later longer hlater hlonger hafter hatMost hrenewal
    have hdue := hiff.1 hrenewal
    have hinstants := Instant.clipped_le hafter
    have hspans := (Span.atMost_iff hmargin hlonger).1 hatMost
    exact (needsRenewal_iff hexpiry hcalendar hnanos hlater hlonger).2 (by omega)

/-- A margin from the first nanosecond of the calendar to the last, and one that is too short by a
nanosecond. -/
theorem renewal_exact_whole_calendar :
    needsRenewal ⟨"a", some ⟨Instant.lastSecond, 999999999⟩, none⟩ ⟨Instant.firstSecond, 0⟩
        ⟨16544868105599, 999999999⟩ = true ∧
      needsRenewal ⟨"a", some ⟨Instant.lastSecond, 999999999⟩, none⟩ ⟨Instant.firstSecond, 0⟩
        ⟨16544868105599, 999999998⟩ = false := by
  have hexact (margin : Span) (hmargin : margin.nanos < nanosPerSecond) :=
    ((renewal_exact ⟨"a", some ⟨Instant.lastSecond, 999999999⟩, none⟩).2 _ rfl (by decide)
      (by decide) ⟨Instant.firstSecond, 0⟩ margin (by decide) hmargin).1 (by decide)
  refine ⟨(hexact _ (by decide)).2 (by decide), ?_⟩
  rw [Bool.eq_false_iff, Ne, hexact _ (by decide)]
  decide

/-- In a leap second its own nanoseconds do not count: half of it has passed, the expiry is a fifth
of the next second away from its start, and still nothing is renewed. -/
theorem renewal_in_leap_second :
    (⟨59, 1500000000⟩ : Instant).inCalendar = true ∧ (⟨60, 200000000⟩ : Instant).inCalendar = true ∧
      (⟨60, 200000000⟩ : Instant).inNanos ≤
        (⟨59, 1500000000⟩ : Instant).inNanos + (⟨0, 0⟩ : Span).inNanos ∧
      needsRenewal ⟨"a", some ⟨60, 200000000⟩, none⟩ ⟨59, 1500000000⟩ ⟨0, 0⟩ = false := by
  decide

end AccessToken

end TransactionHarness
