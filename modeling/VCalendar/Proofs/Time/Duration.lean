import VCalendar.Proofs.Number.Truncation
import VCalendar.Proofs.Time.Compact
import VCalendar.Proofs.Time.DayNumber
import VCalendar.Time.Duration

/-!
# Spans of time

The microseconds of a span are rounded as seconds of 53 bits and then cut toward zero.
Main statement: the count that is written is the exact number of seconds cut toward zero
or one more, and it is exact for whole seconds and for spans of less than `2 ^ 34` seconds.
-/

namespace VCalendar

open VCalendar.Number

variable {span : Int} {start finish : Instant}

/-! ## Counts of seconds -/

/-- The binary places to which so many microseconds are rounded as seconds. -/
def secondPlaces (microseconds : Nat) : Nat :=
  (-Binary64.exponentFor microseconds 1000000).toNat

theorem signed_eq_sign_mul (hne : span ≠ 0) (n : Nat) :
    Binary64.signed (span < 0) n = span.sign * n := by
  unfold Binary64.signed
  rcases Int.lt_or_gt_of_ne hne with hneg | hpos
  · rw [if_pos (decide_eq_true hneg), Int.sign_eq_neg_one_of_neg hneg, Int.neg_one_mul]
  · have hnot : ¬ span < 0 := by omega
    simp [hnot, Int.sign_eq_one_of_pos hpos]

/-- The rounded seconds of a span that is not immensely long. -/
theorem wholeSeconds_eq (h : span.natAbs < 2 ^ 52 * 1000000) :
    wholeSeconds span =
      span.sign * wholeRounded span.natAbs 1000000 (secondPlaces span.natAbs) := by
  by_cases hzero : span = 0
  · subst hzero
    rw [wholeSeconds, Int.natAbs_zero, Binary64.truncate?_ofRatio_zero, Int.sign_zero,
      Int.zero_mul]
    rfl
  · have hpos : 0 < span.natAbs := Int.natAbs_pos.mpr hzero
    have hexponent : Binary64.exponentFor span.natAbs 1000000 ≤ -((1 : Nat) : Int) :=
      Binary64.exponentFor_le hpos (by decide) (by simpa using by omega)
    have hplaces :
        Binary64.exponentFor span.natAbs 1000000 = -(secondPlaces span.natAbs : Int) := by
      unfold secondPlaces
      omega
    have hsome : 0 < secondPlaces span.natAbs := by omega
    rw [wholeSeconds, Binary64.truncate?_ofRatio _ hpos hsome hplaces, Option.getD_some,
      signed_eq_sign_mul hzero]

theorem tdiv_eq_sign_mul (span : Int) (d : Nat) :
    span.tdiv d = span.sign * ((span.natAbs / d : Nat) : Int) := by
  obtain ⟨n, rfl | rfl⟩ := span.eq_nat_or_neg
  · rcases Nat.eq_zero_or_pos n with rfl | hpos
    · simp
    · simp [Int.sign_natCast_of_ne_zero hpos.ne']
  · rcases Nat.eq_zero_or_pos n with rfl | hpos
    · simp
    · simp [Int.neg_tdiv, Int.sign_natCast_of_ne_zero hpos.ne']

/-- A count of seconds stands for a span of microseconds: it is cut toward zero, or one
more where rounding has reached the next second. -/
structure CutTowardZero (span count : Int) : Prop where
  near : count = span.tdiv 1000000 ∨ count = span.tdiv 1000000 + span.sign
  exact : 1000000 ∣ span ∨ span.natAbs < 2 ^ 34 * 1000000 → count = span.tdiv 1000000

/-- Seconds below `2 ^ 34` leave 19 places, and half of the last place is less than a
microsecond. -/
theorem fine_secondPlaces {microseconds : Nat} (hpos : 0 < microseconds)
    (h : microseconds < 2 ^ 34 * 1000000) :
    1000000 < 2 * Nat.pow 2 (secondPlaces microseconds) := by
  have hexponent : Binary64.exponentFor microseconds 1000000 ≤ -((19 : Nat) : Int) :=
    Binary64.exponentFor_le hpos (by decide) (by simpa using by omega)
  have hplaces : 19 ≤ secondPlaces microseconds := by
    unfold secondPlaces
    omega
  calc 1000000 < 2 * 2 ^ 19 := by decide
    _ ≤ 2 * 2 ^ secondPlaces microseconds :=
      Nat.mul_le_mul_left 2 (Nat.pow_le_pow_right (by decide) hplaces)

theorem cutTowardZero_wholeSeconds (h : span.natAbs < 2 ^ 52 * 1000000) :
    CutTowardZero span (wholeSeconds span) := by
  have hsize : 0 < 1000000 := by decide
  have hexact : wholeRounded span.natAbs 1000000 (secondPlaces span.natAbs) =
      span.natAbs / 1000000 → wholeSeconds span = span.tdiv 1000000 := by
    intro hwhole
    rw [wholeSeconds_eq h, hwhole]
    exact (tdiv_eq_sign_mul span 1000000).symm
  refine ⟨?_, ?_⟩
  · rcases wholeRounded_eq_or span.natAbs (secondPlaces span.natAbs) hsize with hwhole | hwhole
    · exact Or.inl (hexact hwhole)
    · refine Or.inr ?_
      rw [wholeSeconds_eq h, hwhole, Int.natCast_add, Int.mul_add]
      rw [show span.tdiv 1000000 = _ from tdiv_eq_sign_mul span 1000000]
      simp
  · intro h
    by_cases hwhole : 1000000 ∣ span.natAbs
    · exact hexact (wholeRounded_of_dvd hsize hwhole)
    · have hsmall := h.resolve_left fun hdvd => hwhole (Int.natCast_dvd.mp hdvd)
      have hpos : 0 < span.natAbs := Nat.pos_of_ne_zero fun hzero => hwhole (hzero ▸ dvd_zero _)
      exact hexact (wholeRounded_of_fine hsize (fine_secondPlaces hpos hsmall))

/-- Of `2 ^ 34` seconds the last microsecond is already rounded up. -/
example : wholeSeconds (2 ^ 34 * 1000000 + 999999) = 2 ^ 34 + 1 := by decide +kernel

theorem wholeSeconds_neg (h : span.natAbs < 2 ^ 52 * 1000000) :
    wholeSeconds (-span) = -wholeSeconds span := by
  rw [wholeSeconds_eq h, wholeSeconds_eq (by rwa [Int.natAbs_neg]), Int.natAbs_neg, Int.sign_neg,
    Int.neg_mul]

theorem wholeSeconds_mul {seconds : Int} (h : seconds.natAbs < 2 ^ 52) :
    wholeSeconds (1000000 * seconds) = seconds := by
  have hspan : (1000000 * seconds).natAbs < 2 ^ 52 * 1000000 := by omega
  rw [(cutTowardZero_wholeSeconds hspan).exact (Or.inl (Int.dvd_mul_right _ _)),
    Int.mul_tdiv_cancel_left seconds (by decide)]

/-! ## Instants -/

namespace Instant

/-- The microseconds from one instant to another. -/
def microsecondsTo (start finish : Instant) : Int :=
  finish.utcMicroseconds - start.utcMicroseconds

/-- An instant that a compact date stands for. -/
def Compact (i : Instant) : Prop :=
  ∃ value zone reading, readCompact value zone = .ok reading ∧ reading.instant = i

theorem Compact.microsecond_eq_zero {i : Instant} (h : i.Compact) :
    i.wall.time.microsecond = 0 := by
  obtain ⟨value, zone, reading, hreading, rfl⟩ := h
  have haccepted := CompactDate.Accepted.of_readCompact hreading
  generalize value.toList = cs at haccepted
  cases haccepted with
  | date d => rfl
  | dateTime w _ _ hfraction _ => exact hfraction

theorem inCalendar_congr {i i' : Instant} (h : i'.utcMicroseconds = i.utcMicroseconds) :
    i'.InCalendar ↔ i.InCalendar := by
  have hfraction := i.wall.time.valid.2.2.2
  have hfraction' := i'.wall.time.valid.2.2.2
  unfold utcMicroseconds at h
  have hseconds : i'.utcSeconds = i.utcSeconds := by omega
  rw [InCalendar, InCalendar, hseconds]

theorem InCalendar.bounds {i : Instant} (h : i.InCalendar) :
    0 ≤ i.utcMicroseconds ∧ i.utcMicroseconds < 2 ^ 52 * 1000000 := by
  have hcalendar : (calendarSeconds : Int) < 2 ^ 52 := by decide
  have hfraction := i.wall.time.valid.2.2.2
  obtain ⟨hfirst, hlast⟩ := h
  unfold utcMicroseconds
  omega

end Instant

theorem natAbs_microsecondsTo_lt (hstart : start.InCalendar) (hfinish : finish.InCalendar) :
    (start.microsecondsTo finish).natAbs < 2 ^ 52 * 1000000 := by
  have hstartBounds := hstart.bounds
  have hfinishBounds := hfinish.bounds
  unfold Instant.microsecondsTo
  omega

theorem durationText_eq (hstart : start.InCalendar) (hfinish : finish.InCalendar) :
    durationText start finish =
      .ok ("+P" ++ toString (wholeSeconds (start.microsecondsTo finish)) ++ "S") :=
  if_pos ⟨hstart, hfinish⟩

/-- Instants with the same fraction of a second lie whole seconds apart. -/
theorem wholeSeconds_microsecondsTo (hstart : start.InCalendar) (hfinish : finish.InCalendar)
    (h : start.wall.time.microsecond = finish.wall.time.microsecond) :
    wholeSeconds (start.microsecondsTo finish) = finish.utcSeconds - start.utcSeconds := by
  have hspan : start.microsecondsTo finish = 1000000 * (finish.utcSeconds - start.utcSeconds) := by
    unfold Instant.microsecondsTo Instant.utcMicroseconds
    omega
  have hsize := natAbs_microsecondsTo_lt hstart hfinish
  rw [hspan] at hsize ⊢
  exact wholeSeconds_mul (by omega)

/-- **The count of seconds is the span cut toward zero.** Between two instants in the
calendar the count is exact or, unless the span is whole or shorter than `2 ^ 34` seconds,
one too far from zero. Exchanging the instants negates it, and the zones that they are
expressed in do not matter. Between two instants of compact dates it is exact. -/
theorem durationText_cuts (hstart : start.InCalendar) (hfinish : finish.InCalendar) :
    ∃ count : Int, durationText start finish = .ok ("+P" ++ toString count ++ "S") ∧
      CutTowardZero (start.microsecondsTo finish) count ∧
      durationText finish start = .ok ("+P" ++ toString (-count) ++ "S") ∧
      (∀ start' finish' : Instant, start'.utcMicroseconds = start.utcMicroseconds →
        finish'.utcMicroseconds = finish.utcMicroseconds →
          durationText start' finish' = durationText start finish) ∧
      (start.Compact → finish.Compact → count = finish.utcSeconds - start.utcSeconds) := by
  have hspan := natAbs_microsecondsTo_lt hstart hfinish
  refine ⟨wholeSeconds (start.microsecondsTo finish), durationText_eq hstart hfinish,
    cutTowardZero_wholeSeconds hspan, ?_, ?_, ?_⟩
  · have hback : finish.microsecondsTo start = -start.microsecondsTo finish := by
      unfold Instant.microsecondsTo
      omega
    rw [durationText_eq hfinish hstart, hback, wholeSeconds_neg hspan]
  · intro start' finish' hstart' hfinish'
    rw [durationText_eq hstart hfinish, durationText_eq
      ((Instant.inCalendar_congr hstart').mpr hstart)
      ((Instant.inCalendar_congr hfinish').mpr hfinish), Instant.microsecondsTo, hstart', hfinish']
    rfl
  · intro hstartCompact hfinishCompact
    refine wholeSeconds_microsecondsTo hstart hfinish ?_
    rw [hstartCompact.microsecond_eq_zero, hfinishCompact.microsecond_eq_zero]

/-- The first moment of the calendar and the last one, a microsecond before it ends. -/
def firstMoment : Instant where
  wall := ⟨.first, .midnight⟩
  zone := .utc

def lastMoment : Instant where
  wall := ⟨⟨9999, 12, 31, by decide⟩, ⟨23, 59, 59, 999999, by decide⟩⟩
  zone := .utc

/-- Over the whole calendar the last fraction is rounded up to a second. -/
theorem durationText_cuts_wholeCalendar :
    firstMoment.InCalendar ∧ lastMoment.InCalendar ∧
      (∃ count : Int, durationText firstMoment lastMoment = .ok ("+P" ++ toString count ++ "S") ∧
        CutTowardZero 315537897599999999 count ∧
        durationText lastMoment firstMoment = .ok ("+P" ++ toString (-count) ++ "S")) ∧
      durationText firstMoment lastMoment = .ok "+P315537897600S" := by
  have hfirst : firstMoment.InCalendar := by decide +kernel
  have hlast : lastMoment.InCalendar := by decide +kernel
  have hspan : firstMoment.microsecondsTo lastMoment = 315537897599999999 := by decide +kernel
  obtain ⟨count, htext, hcut, hback, -⟩ := durationText_cuts hfirst hlast
  exact ⟨hfirst, hlast, ⟨count, htext, hspan ▸ hcut, hback⟩, by decide +kernel⟩

end VCalendar
