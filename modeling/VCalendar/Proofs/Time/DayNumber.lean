import Mathlib.Order.Monotone.Basic
import VCalendar.Proofs.Time.Compact

/-!
# Day numbers

The days of the calendar are counted one by one from the first day of year 1. Main
statement: the number of a day, which is computed from its year and month, is its place in
this count, so days that follow each other have numbers that follow each other.
-/

namespace VCalendar

variable {year month month' : Nat} {d d' : Date}

/-! ## Months and years -/

theorem daysInMonth_pos (year month : Nat) : 0 < daysInMonth year month := by
  unfold daysInMonth
  split_ifs <;> decide

theorem daysBeforeMonth_succ (year : Nat) (h : 1 ≤ month) :
    daysBeforeMonth year (month + 1) = daysBeforeMonth year month + daysInMonth year month := by
  obtain ⟨before, rfl⟩ := Nat.exists_eq_add_of_le' h
  rfl

theorem daysBeforeMonth_le (year : Nat) (h : 1 ≤ month) (hle : month ≤ month') :
    daysBeforeMonth year month ≤ daysBeforeMonth year month' := by
  induction month', hle using Nat.le_induction with
  | base => exact Nat.le_refl _
  | succ last hlast ih =>
      rw [daysBeforeMonth_succ year (Nat.le_trans h hlast)]
      exact Nat.le_trans ih (Nat.le_add_right _ _)

theorem daysInYear (year : Nat) :
    daysBeforeMonth year 13 = if isLeapYear year then 366 else 365 := by
  simp only [daysBeforeMonth, daysInMonth]
  cases isLeapYear year <;> rfl

/-- A year has the days that its thirteenth month would have before it. -/
theorem daysBeforeYear_succ (h : 1 ≤ year) :
    daysBeforeYear (year + 1) = daysBeforeYear year + daysBeforeMonth year 13 := by
  obtain ⟨past, rfl⟩ := Nat.exists_eq_add_of_le' h
  have hcenturies : past / 100 ≤ past / 4 := Nat.div_le_div_left (by decide) (by decide)
  have hfour : 100 ∣ past + 1 → 4 ∣ past + 1 := Nat.dvd_trans (by decide)
  have hhundred : 400 ∣ past + 1 → 100 ∣ past + 1 := Nat.dvd_trans (by decide)
  have hleap : isLeapYear (past + 1) = true ↔
      4 ∣ past + 1 ∧ (¬ 100 ∣ past + 1 ∨ 400 ∣ past + 1) := by
    simp [isLeapYear, Nat.dvd_iff_mod_eq_zero]
  simp only [daysInYear, hleap, daysBeforeYear, Nat.add_sub_cancel, Nat.succ_div]
  -- the leap days grow by one where the year is a leap year
  split_ifs <;> omega

theorem daysBeforeYear_le (h : 1 ≤ year) {year' : Nat} (hle : year ≤ year') :
    daysBeforeYear year ≤ daysBeforeYear year' := by
  induction year', hle using Nat.le_induction with
  | base => exact Nat.le_refl _
  | succ last hlast ih =>
      rw [daysBeforeYear_succ (Nat.le_trans h hlast)]
      exact Nat.le_trans ih (Nat.le_add_right _ _)

/-! ## The order of days -/

namespace Date

/-- A day comes before another one: by its year, else its month, else its day. -/
def Precedes (d d' : Date) : Prop :=
  d.year < d'.year ∨ d.year = d'.year ∧
    (d.month < d'.month ∨ d.month = d'.month ∧ d.day < d'.day)

theorem dayNumber_pos (d : Date) : 0 < d.dayNumber :=
  Nat.lt_of_lt_of_le d.valid.2.2.2.2.1 (Nat.le_add_left _ _)

/-- The days up to a day of a month are no more than those before the next month. -/
theorem dayOfYear_le (d : Date) :
    daysBeforeMonth d.year d.month + d.day ≤ daysBeforeMonth d.year (d.month + 1) := by
  rw [daysBeforeMonth_succ d.year d.valid.2.2.1]
  exact Nat.add_le_add_left d.valid.2.2.2.2.2 _

theorem dayNumber_le_yearEnd (d : Date) : d.dayNumber ≤ daysBeforeYear (d.year + 1) := by
  have hmonth : daysBeforeMonth d.year (d.month + 1) ≤ daysBeforeMonth d.year 13 :=
    daysBeforeMonth_le d.year (Nat.le_add_left 1 _) (Nat.succ_le_succ d.valid.2.2.2.1)
  rw [daysBeforeYear_succ d.valid.1, dayNumber, Nat.add_assoc]
  exact Nat.add_le_add_left (Nat.le_trans d.dayOfYear_le hmonth) _

theorem Precedes.dayNumber_lt (h : d.Precedes d') : d.dayNumber < d'.dayNumber := by
  have hday := d'.valid.2.2.2.2.1
  rcases h with hyear | ⟨hyear, hmonth | ⟨hmonth, hday'⟩⟩
  · calc d.dayNumber ≤ daysBeforeYear (d.year + 1) := d.dayNumber_le_yearEnd
      _ ≤ daysBeforeYear d'.year := daysBeforeYear_le (Nat.le_add_left 1 _) hyear
      _ < d'.dayNumber := by
        unfold dayNumber
        omega
  · have hbefore : daysBeforeMonth d.year (d.month + 1) ≤ daysBeforeMonth d.year d'.month :=
      daysBeforeMonth_le d.year (Nat.le_add_left 1 _) hmonth
    have hsame := d.dayOfYear_le
    unfold dayNumber
    rw [← hyear]
    omega
  · unfold dayNumber
    rw [← hyear, ← hmonth]
    exact Nat.add_lt_add_left hday' _

theorem precedes_or_eq (d d' : Date) : d.Precedes d' ∨ d = d' ∨ d'.Precedes d := by
  by_cases hsame : d.year = d'.year ∧ d.month = d'.month ∧ d.day = d'.day
  · refine Or.inr (Or.inl ?_)
    obtain ⟨year, month, day, hvalid⟩ := d
    obtain ⟨rfl, rfl, rfl⟩ := hsame
    rfl
  · unfold Precedes
    omega

/-- **Days are numbered in their order.** -/
theorem dayNumber_lt_iff : d.dayNumber < d'.dayNumber ↔ d.Precedes d' := by
  refine ⟨?_, Precedes.dayNumber_lt⟩
  intro h
  rcases d.precedes_or_eq d' with hbefore | rfl | hafter
  · exact hbefore
  · exact absurd h (Nat.lt_irrefl _)
  · exact absurd h (Nat.lt_asymm hafter.dayNumber_lt)

theorem dayNumber_inj : d.dayNumber = d'.dayNumber ↔ d = d' := by
  refine ⟨?_, fun h => h ▸ rfl⟩
  intro h
  rcases d.precedes_or_eq d' with hbefore | rfl | hafter
  · exact absurd h hbefore.dayNumber_lt.ne
  · rfl
  · exact absurd h hafter.dayNumber_lt.ne'

/-! ## Counting days -/

/-- The first day of the calendar. -/
def first : Date := ⟨1, 1, 1, by decide⟩

/-- The day after a day: in the same month, else the first of the next month or year. The
last day of the calendar has none. -/
def next? (d : Date) : Option Date :=
  if d.day < daysInMonth d.year d.month then ofNumbers? d.year d.month (d.day + 1)
  else if d.month < 12 then ofNumbers? d.year (d.month + 1) 1
  else ofNumbers? (d.year + 1) 1 1

/-- The day with a number, found by counting from the first day, which has number 1. -/
def counted? : Nat → Option Date
  | 0 => none
  | 1 => some first
  | n + 2 => (counted? (n + 1)).bind next?

theorem dayNumber_of_next? (h : d.next? = some d') : d'.dayNumber = d.dayNumber + 1 := by
  have hmonthStart := d.valid.2.2.1
  have hmonthEnd := d.valid.2.2.2.2.2
  unfold next? at h
  split at h
  · obtain ⟨hyear, hmonth, hday⟩ := ofNumbers?_eq_some_iff.mp h
    rw [dayNumber, dayNumber, ← hyear, ← hmonth, ← hday, Nat.add_assoc _ d.day]
  · have hlastDay : d.day = daysInMonth d.year d.month := by omega
    have hmonthLength := daysBeforeMonth_succ d.year hmonthStart
    split at h
    · obtain ⟨hyear, hmonth, hday⟩ := ofNumbers?_eq_some_iff.mp h
      rw [dayNumber, dayNumber, ← hyear, ← hmonth, ← hday, hmonthLength, hlastDay, ← Nat.add_assoc]
    · obtain ⟨hyear, hmonth, hday⟩ := ofNumbers?_eq_some_iff.mp h
      have hlastMonth : d.month + 1 = 13 := by
        have hle := d.valid.2.2.2.1
        omega
      rw [hlastMonth] at hmonthLength
      rw [dayNumber, dayNumber, ← hyear, ← hmonth, ← hday, daysBeforeYear_succ d.valid.1,
        hmonthLength, hlastDay, ← Nat.add_assoc]
      rfl

/-- Every day but the first is the day after another one. -/
theorem exists_next?_eq (h : d ≠ first) : ∃ earlier : Date, earlier.next? = some d := by
  obtain ⟨hyear, hyearEnd, hmonth, hmonthEnd, hday, hdayEnd⟩ := d.valid
  by_cases hinside : 1 < d.day
  · refine ⟨⟨d.year, d.month, d.day - 1, hyear, hyearEnd, hmonth, hmonthEnd, by omega, by omega⟩,
      ?_⟩
    have hbefore : d.day - 1 < daysInMonth d.year d.month := by omega
    rw [next?, if_pos hbefore]
    exact ofNumbers?_eq_some_iff.mpr ⟨rfl, rfl, Nat.sub_add_cancel hday⟩
  · have hfirstDay : 1 = d.day := by omega
    by_cases hlater : 1 < d.month
    · refine ⟨⟨d.year, d.month - 1, daysInMonth d.year (d.month - 1), hyear, hyearEnd, by omega,
        by omega, daysInMonth_pos _ _, Nat.le_refl _⟩, ?_⟩
      have hnotLast : d.month - 1 < 12 := by omega
      rw [next?, if_neg (Nat.lt_irrefl _), if_pos hnotLast]
      exact ofNumbers?_eq_some_iff.mpr ⟨rfl, Nat.sub_add_cancel hmonth, hfirstDay⟩
    · have hfirstMonth : 1 = d.month := by omega
      have hlaterYear : d.year ≠ 1 := by
        intro hfirstYear
        refine h (dayNumber_inj.mp ?_)
        rw [dayNumber, ← hfirstMonth, ← hfirstDay, hfirstYear]
        rfl
      refine ⟨⟨d.year - 1, 12, daysInMonth (d.year - 1) 12, by omega, by omega, by decide,
        by decide, daysInMonth_pos _ _, Nat.le_refl _⟩, ?_⟩
      rw [next?, if_neg (Nat.lt_irrefl _), if_neg (Nat.lt_irrefl 12)]
      exact ofNumbers?_eq_some_iff.mpr ⟨Nat.sub_add_cancel hyear, hfirstMonth, hfirstDay⟩

theorem dayNumber_of_counted? {n : Nat} (h : counted? n = some d) : d.dayNumber = n := by
  induction n using counted?.induct generalizing d with
  | case1 => cases h
  | case2 =>
      cases h
      rfl
  | case3 n ih =>
      obtain ⟨earlier, hearlier, hnext⟩ := Option.bind_eq_some_iff.mp h
      rw [dayNumber_of_next? hnext, ih hearlier]

theorem counted?_dayNumber (d : Date) : counted? d.dayNumber = some d := by
  generalize hn : d.dayNumber = n
  induction n using counted?.induct generalizing d with
  | case1 => exact absurd hn d.dayNumber_pos.ne'
  | case2 =>
      have hfirst : d = first := dayNumber_inj.mp hn
      rw [hfirst]
      rfl
  | case3 n ih =>
      have hlater : d ≠ first := by
        rintro rfl
        cases hn
      obtain ⟨earlier, hnext⟩ := exists_next?_eq hlater
      have hearlier : earlier.dayNumber = n + 1 := by
        rw [dayNumber_of_next? hnext] at hn
        exact Nat.succ.inj hn
      rw [counted?, ih earlier hearlier]
      exact hnext

/-- **The number of a day is its place in the count of days.** -/
theorem counted?_eq_some_iff {n : Nat} : counted? n = some d ↔ d.dayNumber = n :=
  ⟨dayNumber_of_counted?, fun h => h ▸ counted?_dayNumber d⟩

end Date

end VCalendar
