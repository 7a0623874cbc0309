import Mathlib.Data.List.Basic
import VCalendar.Proofs.Text.Digits
import VCalendar.Time.Compact

/-!
# Compact dates

Three forms are documented: a date, a date-time, and a date-time with a Z behind it. Main
statement: these forms are read back to what they write, and what is read besides them is a
date-time whose digits are of another script, or that has a line feed at its end.
-/

namespace VCalendar

open VCalendar.Text

/-! ## Digits of dates and times -/

namespace Date

/-- The eight digits of a date. -/
def digits (d : Date) : List Nat :=
  groupedDigits 4 d.year d.month d.day

theorem day_lt (d : Date) : d.day < 100 := by
  have hday := d.valid.2.2.2.2.2
  have hmonth : daysInMonth d.year d.month ≤ 31 := by
    unfold daysInMonth
    split_ifs <;> omega
  omega

theorem ofNumbers?_eq_some_iff {d : Date} {year month day : Nat} :
    ofNumbers? year month day = some d ↔ year = d.year ∧ month = d.month ∧ day = d.day := by
  unfold ofNumbers?
  constructor
  · intro h
    split at h
    · cases h
      exact ⟨rfl, rfl, rfl⟩
    · cases h
  · rintro ⟨rfl, rfl, rfl⟩
    exact dif_pos d.valid

end Date

namespace TimeOfDay

/-- The six digits of a time, without its fraction. -/
def digits (t : TimeOfDay) : List Nat :=
  groupedDigits 2 t.hour t.minute t.second

theorem ofNumbers?_eq_some_iff {t : TimeOfDay} {hour minute second microsecond : Nat} :
    ofNumbers? hour minute second microsecond = some t ↔
      (hour = t.hour ∧ minute = t.minute ∧ second = t.second) ∧ microsecond = t.microsecond := by
  unfold ofNumbers?
  constructor
  · intro h
    split at h
    · cases h
      exact ⟨⟨rfl, rfl, rfl⟩, rfl⟩
    · cases h
  · rintro ⟨⟨rfl, rfl, rfl⟩, rfl⟩
    exact dif_pos t.valid

end TimeOfDay

namespace CompactDate

variable {zone z : Zone} {cs cs' date time ending : List Char} {d : Date} {t : TimeOfDay}
  {w : WallTime} {reading : DateReading} {value : String}

/-- Eight digits name the date whose digits they spell; what follows them does not matter. -/
theorem date?_eq_some_iff (cs' : List Char) (hlen : cs.length = 8)
    (hcs : cs.all isDecimalDigit = true) :
    date? (cs ++ cs') = some d ↔ Spells cs d.digits := by
  obtain ⟨year, month, day, rfl, hyear, hmonth, hday⟩ : ∃ year month day,
      cs = year ++ (month ++ day) ∧ year.length = 4 ∧ month.length = 2 ∧ day.length = 2 :=
    exists_groups hlen
  have hyearBound : d.year < 10 ^ 4 := Nat.lt_of_le_of_lt d.valid.2.1 (by decide)
  have hmonthBound : d.month < 100 := Nat.lt_of_le_of_lt d.valid.2.2.2.1 (by decide)
  have hdate : date? (year ++ (month ++ day) ++ cs') =
      Date.ofNumbers? (number year) (number month) (number day) := by
    have hdrop : year.drop 6 = [] := List.drop_eq_nil_of_le (by omega)
    simp [date?, List.drop_append, hyear, hmonth, hday, hdrop]
  rw [hdate, Date.ofNumbers?_eq_some_iff]
  exact ofDigits_groups_iff hcs hyear hmonth hday hyearBound hmonthBound d.day_lt

/-- Six digits name the time whose digits they spell. -/
theorem time?_eq_some_iff (hlen : cs.length = 6) (hcs : cs.all isDecimalDigit = true) :
    time? cs = some t ↔ Spells cs t.digits ∧ t.microsecond = 0 := by
  obtain ⟨hour, minute, second, rfl, hhour, hminute, hsecond⟩ : ∃ hour minute second,
      cs = hour ++ (minute ++ second) ∧ hour.length = 2 ∧ minute.length = 2 ∧
        second.length = 2 :=
    exists_groups hlen
  have hhourBound : t.hour < 10 ^ 2 := Nat.lt_trans t.valid.1 (by decide)
  have hminuteBound : t.minute < 100 := Nat.lt_trans t.valid.2.1 (by decide)
  have hsecondBound : t.second < 100 := Nat.lt_trans t.valid.2.2.1 (by decide)
  have htime : time? (hour ++ (minute ++ second)) =
      TimeOfDay.ofNumbers? (number hour) (number minute) (number second) 0 := by
    have hdrop : hour.drop 4 = [] := List.drop_eq_nil_of_le (by omega)
    have htake : second.take 2 = second := List.take_of_length_le (by omega)
    simp [time?, List.drop_append, hhour, hminute, hdrop, htake]
  rw [htime, TimeOfDay.ofNumbers?_eq_some_iff, @eq_comm _ 0]
  exact and_congr_left' <|
    ofDigits_groups_iff hcs hhour hminute hsecond hhourBound hminuteBound hsecondBound

theorem spells_dateDigits (d : Date) : Spells (asciiDigits d.digits) d.digits :=
  spells_asciiDigits fun _ => lt_ten_of_mem_groupedDigits

theorem spells_timeDigits (t : TimeOfDay) : Spells (asciiDigits t.digits) t.digits :=
  spells_asciiDigits fun _ => lt_ten_of_mem_groupedDigits

/-! ## Shapes -/

/-- The digits in front of the T and behind it. -/
structure Pieces (date time : List Char) : Prop where
  date_length : date.length = 8
  date_digits : date.all isDecimalDigit = true
  time_length : time.length = 6
  time_digits : time.all isDecimalDigit = true

theorem getLast?_ne_of_all {c : Char} (hc : isDecimalDigit c = false)
    (h : cs.all isDecimalDigit = true) : cs.getLast? ≠ some c := by
  intro hlast
  have hdigit := List.all_eq_true.mp h c (List.mem_of_getLast? hlast)
  exact Bool.false_ne_true (hc.symm.trans hdigit)

namespace Pieces

theorem of_spells (hdate : Spells date w.date.digits) (htime : Spells time w.time.digits) :
    Pieces date time where
  date_length := hdate.length_eq.trans (length_groupedDigits ..)
  date_digits := hdate.all_isDecimalDigit
  time_length := htime.length_eq.trans (length_groupedDigits ..)
  time_digits := htime.all_isDecimalDigit

theorem length_eq (h : Pieces date time) : (date ++ 'T' :: time).length = 15 := by
  rw [List.length_append, List.length_cons, h.date_length, h.time_length]

/-- The last character in front of an ending is a digit. -/
theorem getLast?_ne (h : Pieces date time) {c : Char} (hc : isDecimalDigit c = false) :
    (date ++ 'T' :: time).getLast? ≠ some c := by
  rcases List.eq_nil_or_concat' time with rfl | ⟨front, digit, rfl⟩
  · cases h.time_length
  · rw [← List.cons_append, ← List.append_assoc, List.getLast?_concat]
    rintro ⟨⟩
    exact getLast?_ne_of_all hc h.time_digits List.getLast?_concat

theorem wallTime?_eq_some_iff (h : Pieces date time) :
    wallTime? (date ++ 'T' :: time) = some w ↔
      Spells date w.date.digits ∧ Spells time w.time.digits ∧ w.time.microsecond = 0 := by
  have hdrop : (date ++ 'T' :: time).drop 9 = time := by
    simp [List.drop_append, h.date_length]
  rw [← time?_eq_some_iff h.time_length h.time_digits,
    ← date?_eq_some_iff ('T' :: time) h.date_length h.date_digits, wallTime?, hdrop]
  cases w
  simp [Option.bind_eq_some_iff]

end Pieces

theorem isDateShape_eq_false (h : 'T' ∈ cs) : isDateShape cs = false := by
  rw [isDateShape, Bool.and_eq_false_iff, List.all_eq_false]
  exact Or.inr ⟨'T', h, by decide +kernel⟩

theorem isDateTimeShape_iff :
    isDateTimeShape cs = true ↔ ∃ date time ending, Pieces date time ∧
      (ending = [] ∨ ending = ['Z']) ∧ cs = date ++ 'T' :: time ++ ending := by
  constructor
  · intro h
    simp only [isDateTimeShape, Bool.and_eq_true, Bool.or_eq_true, decide_eq_true_eq] at h
    obtain ⟨⟨⟨hlen, hdate⟩, hmark⟩, htime⟩ := h
    obtain ⟨hlt, hmark⟩ := List.getElem?_eq_some_iff.mp hmark
    refine ⟨cs.take 8, (cs.take 15).drop 9, cs.drop 15, ⟨by simp; omega, hdate, by simp; omega,
      htime⟩, ?_, ?_⟩
    · rcases hlen with hlen | ⟨hlen, hlast⟩
      · exact Or.inl (List.drop_eq_nil_of_le (by omega))
      · right
        rw [List.drop_eq_getElem_cons (by omega), List.drop_eq_nil_of_le (by omega)]
        rw [List.getLast?_eq_getElem?, hlen, List.getElem?_eq_getElem (by omega)] at hlast
        rw [Option.some.inj hlast]
    · -- the first fifteen characters are the date, the T and the time
      have hfront : (cs.take 15).take 8 ++ (cs.take 15).drop 8 = cs.take 15 :=
        List.take_append_drop 8 _
      rw [List.take_take, List.drop_eq_getElem_cons (by simp; omega), List.getElem_take,
        hmark] at hfront
      conv_lhs => rw [← List.take_append_drop 15 cs, ← hfront]
      rfl
  · rintro ⟨date, time, ending, hp, hending, rfl⟩
    have htake : (date ++ 'T' :: time ++ ending).take 15 = date ++ 'T' :: time := by
      rw [← hp.length_eq, List.take_left]
    have hdate : (date ++ 'T' :: time ++ ending).take 8 = date := by
      rw [← hp.date_length, List.append_assoc, List.take_left]
    have htime : (date ++ 'T' :: time).drop 9 = time := by
      simp [List.drop_append, hp.date_length]
    have hmark : (date ++ 'T' :: time ++ ending)[8]? = some 'T' := by
      simp [hp.date_length]
    rw [isDateTimeShape, hdate, htake, htime, hmark, hp.date_digits, hp.time_digits,
      List.length_append, hp.length_eq]
    rcases hending with rfl | rfl
    · rfl
    · rw [List.getLast?_concat]
      rfl

theorem midnight?_eq_some_iff :
    midnight? cs = some w ↔ cs = asciiDigits w.date.digits ∧ w.time = .midnight := by
  obtain ⟨d, t⟩ := w
  constructor
  · intro h
    unfold midnight? at h
    split at h
    next hcs =>
      obtain ⟨hlen, hdigits⟩ := hcs
      rw [List.all_eq_true] at hdigits
      have hdecimal : cs.all isDecimalDigit = true :=
        List.all_eq_true.mpr fun c hc => isDecimalDigit_of_isDigit (hdigits c hc)
      obtain ⟨d', hdate, heq⟩ := Option.map_eq_some_iff.mp h
      cases heq
      rw [← List.append_nil cs, date?_eq_some_iff [] hlen hdecimal] at hdate
      exact ⟨hdate.eq_asciiDigits fun c hc => toNat_lt_of_isDigit (hdigits c hc), rfl⟩
    next => cases h
  · rintro ⟨rfl, htime⟩
    have hspells := spells_dateDigits d
    have hlen : (asciiDigits d.digits).length = 8 := hspells.length_eq.trans (length_groupedDigits ..)
    have hdate : date? (asciiDigits d.digits) = some d := by
      rw [← List.append_nil (asciiDigits d.digits),
        date?_eq_some_iff [] hlen hspells.all_isDecimalDigit]
      exact hspells
    have hdigits : (asciiDigits d.digits).all Char.isDigit = true :=
      all_isDigit_asciiDigits fun _ => lt_ten_of_mem_groupedDigits
    rw [midnight?, if_pos ⟨hlen, hdigits⟩, hdate, ← htime]
    rfl

/-! ## What is read -/

/-- What may stand behind a date-time, and the zone that it is read in. -/
inductive Ending (zone : Zone) : List Char → Zone → Prop
  | nothing : Ending zone [] zone
  | universal : Ending zone ['Z'] .utc
  | lineFeed : Ending zone ['\n'] zone
  | universalLineFeed : Ending zone ['Z', '\n'] zone

/-- A text is read in a zone: a date in ASCII digits, or a date-time in digits of any script
with an ending. -/
inductive Accepted (zone : Zone) : List Char → DateReading → Prop
  | date (d : Date) : Accepted zone (asciiDigits d.digits) ⟨⟨⟨d, .midnight⟩, zone⟩, true⟩
  | dateTime {date time ending : List Char} {z : Zone} (w : WallTime) :
      Spells date w.date.digits → Spells time w.time.digits → w.time.microsecond = 0 →
        Ending zone ending z → Accepted zone (date ++ 'T' :: time ++ ending) ⟨⟨w, z⟩, false⟩

/-- A text is one of the documented forms. -/
inductive Documented (zone : Zone) : List Char → DateReading → Prop
  | date (d : Date) : Documented zone (asciiDigits d.digits) ⟨⟨⟨d, .midnight⟩, zone⟩, true⟩
  | dateTime (w : WallTime) : w.time.microsecond = 0 →
      Documented zone (asciiDigits w.date.digits ++ 'T' :: asciiDigits w.time.digits)
        ⟨⟨w, zone⟩, false⟩
  | universal (w : WallTime) : w.time.microsecond = 0 →
      Documented zone (asciiDigits w.date.digits ++ 'T' :: asciiDigits w.time.digits ++ ['Z'])
        ⟨⟨w, .utc⟩, false⟩

/-! ## Reading -/

theorem not_isDecimalDigit_lineFeed : isDecimalDigit '\n' = false := by
  decide +kernel

theorem not_isDecimalDigit_universal : isDecimalDigit 'Z' = false := by
  decide +kernel

theorem dropFinalLineFeed_concat (cs : List Char) : dropFinalLineFeed (cs ++ ['\n']) = cs := by
  rw [dropFinalLineFeed, List.getLast?_concat, if_pos rfl, List.dropLast_concat]

theorem dropFinalLineFeed_of_ne (h : cs.getLast? ≠ some '\n') : dropFinalLineFeed cs = cs :=
  if_neg h

theorem eq_dropFinalLineFeed (cs : List Char) :
    cs = dropFinalLineFeed cs ∨ cs = dropFinalLineFeed cs ++ ['\n'] := by
  by_cases h : cs.getLast? = some '\n'
  · rcases List.eq_nil_or_concat' cs with rfl | ⟨front, c, rfl⟩
    · exact Or.inl rfl
    · rw [List.getLast?_concat] at h
      cases h
      exact Or.inr (by rw [dropFinalLineFeed_concat])
  · exact Or.inl (dropFinalLineFeed_of_ne h).symm

/-- The shape of an ending, and the zone that is read off its last character. -/
theorem Ending.shape (h : Ending zone ending z) (hp : Pieces date time) :
    ∃ mark, (mark = [] ∨ mark = ['Z']) ∧
      dropFinalLineFeed (date ++ 'T' :: time ++ ending) = date ++ 'T' :: time ++ mark ∧
      (if (date ++ 'T' :: time ++ ending).getLast? = some 'Z' then .utc else zone) = z := by
  cases h with
  | nothing =>
      rw [List.append_nil]
      refine ⟨[], Or.inl rfl, ?_, if_neg (hp.getLast?_ne not_isDecimalDigit_universal)⟩
      rw [dropFinalLineFeed_of_ne (hp.getLast?_ne not_isDecimalDigit_lineFeed), List.append_nil]
  | universal =>
      rw [dropFinalLineFeed, List.getLast?_concat]
      exact ⟨['Z'], Or.inr rfl, if_neg (by decide), if_pos rfl⟩
  | lineFeed =>
      rw [dropFinalLineFeed_concat, List.getLast?_concat]
      exact ⟨[], Or.inl rfl, (List.append_nil _).symm, if_neg (by decide)⟩
  | universalLineFeed =>
      rw [List.append_cons _ 'Z' ['\n'], dropFinalLineFeed_concat, List.getLast?_concat]
      exact ⟨['Z'], Or.inr rfl, rfl, if_neg (by decide)⟩

/-- A date-time is read in the zone of its ending. -/
theorem Pieces.readCompact_eq (hp : Pieces date time) (h : Ending zone ending z)
    (hvalue : value.toList = date ++ 'T' :: time ++ ending) :
    readCompact value zone =
      match wallTime? (date ++ 'T' :: time) with
      | some w => .ok ⟨⟨w, z⟩, false⟩
      | none => .error (.wrongDateTime (String.ofList (date ++ 'T' :: time))) := by
  obtain ⟨mark, hmark, hbody, hzone⟩ := h.shape hp
  have hdate : isDateShape (date ++ 'T' :: time ++ mark) = false := isDateShape_eq_false (by simp)
  have hshape : isDateTimeShape (date ++ 'T' :: time ++ mark) = true :=
    isDateTimeShape_iff.mpr ⟨date, time, mark, hp, hmark, rfl⟩
  have htake : (date ++ 'T' :: time ++ ending).take 15 = date ++ 'T' :: time := by
    rw [← hp.length_eq, List.take_left]
  cases hwall : wallTime? (date ++ 'T' :: time) <;>
    simp only [readCompact, hvalue, hbody, hdate, hshape, htake, hzone, hwall, if_true,
      Bool.false_eq_true, if_false]

theorem Accepted.of_readCompact (h : readCompact value zone = .ok reading) :
    Accepted zone value.toList reading := by
  have hread := h
  simp only [readCompact] at h
  split at h
  next =>
    split at h
    next w hw =>
      cases h
      obtain ⟨d, t⟩ := w
      obtain ⟨hvalue, rfl⟩ := midnight?_eq_some_iff.mp hw
      exact hvalue ▸ .date d
    next => cases h
  next =>
    split at h
    next hshape =>
      obtain ⟨date, time, mark, hp, hmark, hbody⟩ := isDateTimeShape_iff.mp hshape
      -- the shape has lost a line feed at the end, which belongs to the ending
      obtain ⟨ending, z, hending, hvalue⟩ : ∃ ending z, Ending zone ending z ∧
          value.toList = date ++ 'T' :: time ++ ending := by
        rcases eq_dropFinalLineFeed value.toList with hvalue | hvalue <;> rw [hbody] at hvalue <;>
          rcases hmark with rfl | rfl
        · exact ⟨[], zone, .nothing, hvalue⟩
        · exact ⟨['Z'], .utc, .universal, hvalue⟩
        · exact ⟨['\n'], zone, .lineFeed, by rw [hvalue, List.append_nil]⟩
        · exact ⟨['Z', '\n'], zone, .universalLineFeed, by rw [hvalue, List.append_assoc]; rfl⟩
      rw [hp.readCompact_eq hending hvalue] at hread
      split at hread
      next w hw =>
        cases hread
        obtain ⟨hdate, htime, hfraction⟩ := hp.wallTime?_eq_some_iff.mp hw
        exact hvalue ▸ .dateTime w hdate htime hfraction hending
      next => cases hread
    next => cases h

theorem Accepted.readCompact (h : Accepted zone value.toList reading) :
    readCompact value zone = .ok reading := by
  generalize hvalue : value.toList = cs at h
  cases h with
  | date d =>
      have hspells := spells_dateDigits d
      have hbody : dropFinalLineFeed (asciiDigits d.digits) = asciiDigits d.digits :=
        dropFinalLineFeed_of_ne
          (getLast?_ne_of_all not_isDecimalDigit_lineFeed hspells.all_isDecimalDigit)
      have hshape : isDateShape (asciiDigits d.digits) = true := by
        rw [isDateShape, hspells.all_isDecimalDigit, hspells.length_eq, Date.digits,
          length_groupedDigits]
        rfl
      have hmidnight : midnight? (asciiDigits d.digits) = some ⟨d, .midnight⟩ :=
        midnight?_eq_some_iff.mpr ⟨rfl, rfl⟩
      simp only [VCalendar.readCompact, hvalue, hbody, hshape, hmidnight, if_true]
  | dateTime w hdate htime hfraction hending =>
      have hp := Pieces.of_spells hdate htime
      rw [hp.readCompact_eq hending hvalue,
        hp.wallTime?_eq_some_iff.mpr ⟨hdate, htime, hfraction⟩]

/-! ## Documented forms -/

namespace Documented

theorem accepted (h : Documented zone cs reading) : Accepted zone cs reading := by
  cases h with
  | date d => exact .date d
  | dateTime w hfraction =>
      rw [← List.append_nil (_ ++ _)]
      exact .dateTime w (spells_dateDigits _) (spells_timeDigits _) hfraction .nothing
  | universal w hfraction =>
      exact .dateTime w (spells_dateDigits _) (spells_timeDigits _) hfraction .universal

theorem ascii (h : Documented zone cs reading) : ∀ c ∈ cs, c.toNat < 128 := by
  have hdate (d : Date) : ∀ c ∈ asciiDigits d.digits, c.toNat < 128 :=
    toNat_lt_of_mem_asciiDigits fun _ => lt_ten_of_mem_groupedDigits
  have htime (t : TimeOfDay) : ∀ c ∈ asciiDigits t.digits, c.toNat < 128 :=
    toNat_lt_of_mem_asciiDigits fun _ => lt_ten_of_mem_groupedDigits
  cases h with
  | date d => exact hdate d
  | dateTime w => simpa [or_imp, forall_and] using ⟨hdate w.date, htime w.time⟩
  | universal w => simpa [or_imp, forall_and] using ⟨hdate w.date, htime w.time⟩

theorem getLast?_ne (h : Documented zone cs reading) : cs.getLast? ≠ some '\n' := by
  cases h with
  | date d =>
      exact getLast?_ne_of_all not_isDecimalDigit_lineFeed (spells_dateDigits d).all_isDecimalDigit
  | dateTime w =>
      exact (Pieces.of_spells (spells_dateDigits w.date) (spells_timeDigits w.time)).getLast?_ne
        not_isDecimalDigit_lineFeed
  | universal w =>
      rw [List.getLast?_concat]
      decide

end Documented

/-- Only other scripts and a line feed at the end lead beyond the documented forms. -/
theorem Accepted.documented (h : Accepted zone cs reading) (hascii : ∀ c ∈ cs, c.toNat < 128)
    (hlast : cs.getLast? ≠ some '\n') : Documented zone cs reading := by
  cases h with
  | date d => exact .date d
  | @dateTime date time ending z w hdate htime hfraction hending =>
      have hdate' := hdate.eq_asciiDigits fun c hc => hascii c (by simp [hc])
      have htime' := htime.eq_asciiDigits fun c hc => hascii c (by simp [hc])
      subst hdate' htime'
      cases hending with
      | nothing => exact (List.append_nil _).symm ▸ .dateTime w hfraction
      | universal => exact .universal w hfraction
      | lineFeed => exact absurd List.getLast?_concat hlast
      | universalLineFeed =>
          rw [List.append_cons _ 'Z' ['\n']] at hlast
          exact absurd List.getLast?_concat hlast

end CompactDate

open CompactDate in
/-- **What is read as a compact date.** A value is read if and only if it is accepted, to the
date and time that its digits spell; every other value is an error. The documented forms are
what is read among the values of ASCII characters that do not end in a line feed. -/
theorem readCompact_iff (value : String) (zone : Zone) :
    (∀ reading, readCompact value zone = .ok reading ↔ Accepted zone value.toList reading) ∧
    ((∃ flaw, readCompact value zone = .error flaw) ↔
      ¬ ∃ reading, Accepted zone value.toList reading) ∧
    ∀ reading, Documented zone value.toList reading ↔
      readCompact value zone = .ok reading ∧ (∀ c ∈ value.toList, c.toNat < 128) ∧
        value.toList.getLast? ≠ some '\n' := by
  have hiff (reading : DateReading) :
      readCompact value zone = .ok reading ↔ Accepted zone value.toList reading :=
    ⟨.of_readCompact, Accepted.readCompact⟩
  refine ⟨hiff, ?_, fun reading => ?_⟩
  · simp only [← hiff]
    cases readCompact value zone with
    | error flaw => exact iff_of_true ⟨flaw, rfl⟩ nofun
    | ok reading => exact iff_of_false nofun (not_not_intro ⟨reading, rfl⟩)
  · rw [hiff]
    exact ⟨fun h => ⟨h.accepted, h.ascii, h.getLast?_ne⟩, fun h => h.1.documented h.2.1 h.2.2⟩

/-! ## Values beyond the documented forms -/

/-- A time on a leap day. -/
def leapEvening : WallTime where
  date := ⟨2024, 2, 29, by decide⟩
  time := ⟨23, 30, 45, 0, by decide⟩

open CompactDate in
/-- Digits of another script are read, and a Z in front of a line feed is overlooked. -/
theorem readCompact_undocumented :
    (readCompact "２０２４０２２９T２３３０４５" (.fixed 7200) =
        .ok ⟨⟨leapEvening, .fixed 7200⟩, false⟩ ∧
      ¬ ∃ reading, Documented (.fixed 7200) "２０２４０２２９T２３３０４５".toList reading) ∧
    readCompact "20240229T233045Z\n" (.fixed 7200) =
        .ok ⟨⟨leapEvening, .fixed 7200⟩, false⟩ ∧
      ¬ ∃ reading, Documented (.fixed 7200) "20240229T233045Z\n".toList reading := by
  refine ⟨⟨by decide +kernel, ?_⟩, by decide +kernel, ?_⟩
  · rintro ⟨reading, h⟩
    exact absurd (h.ascii '２' (by decide +kernel)) (by decide)
  · rintro ⟨reading, h⟩
    exact h.getLast?_ne (by decide +kernel)

end VCalendar
