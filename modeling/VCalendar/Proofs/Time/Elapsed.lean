import Mathlib.Data.List.Forall2
import Mathlib.Data.String.Basic
import VCalendar.Proofs.Text.Order
import VCalendar.Proofs.Time.DayNumber
import VCalendar.Proofs.Time.Duration

/-!
# Compact dates in order

Values of one documented form compare like the times that they stand for. Main statement:
in a zone of one offset the span between two of them is the days between their dates and
the seconds between their times of day, so it is negative exactly if the second value comes
first as a text. Other zones may have, by their rules, any offset at any second.
-/

namespace VCalendar

open VCalendar.Text

variable {d d' : Date} {t t' : TimeOfDay} {w w' : WallTime}

/-! ## Dates and times -/

theorem eq_iff_of_lt_iff {α β : Type} [LinearOrder α] [LinearOrder β] {a b : α} {x y : β}
    (h : a < b ↔ x < y) (h' : b < a ↔ y < x) : a = b ↔ x = y := by
  rw [le_antisymm_iff, le_antisymm_iff, ← not_lt, ← not_lt, ← not_lt, ← not_lt, h, h']

theorem Date.digits_lt_iff :
    asciiDigits d.digits < asciiDigits d'.digits ↔ d.dayNumber < d'.dayNumber := by
  have hyear (d : Date) : d.year < 10 ^ 4 := Nat.lt_of_le_of_lt d.valid.2.1 (by decide)
  have hmonth (d : Date) : d.month < 10 ^ 2 := Nat.lt_of_le_of_lt d.valid.2.2.2.1 (by decide)
  have hten (d : Date) : ∀ n ∈ d.digits, n < 10 := fun _ => lt_ten_of_mem_groupedDigits
  rw [asciiDigits_lt_iff (hten d) (hten d'), Date.digits, Date.digits,
    groupedDigits_lt_iff (hyear d) (hyear d') (hmonth d) (hmonth d') d.day_lt d'.day_lt,
    Date.dayNumber_lt_iff]
  rfl

theorem Date.digits_inj : asciiDigits d.digits = asciiDigits d'.digits ↔
    d.dayNumber = d'.dayNumber :=
  eq_iff_of_lt_iff Date.digits_lt_iff Date.digits_lt_iff

theorem TimeOfDay.digits_lt_iff :
    asciiDigits t.digits < asciiDigits t'.digits ↔ t.secondOfDay < t'.secondOfDay := by
  obtain ⟨hhour, hminute, hsecond, -⟩ := t.valid
  obtain ⟨hhour', hminute', hsecond', -⟩ := t'.valid
  have hten (t : TimeOfDay) : ∀ n ∈ t.digits, n < 10 := fun _ => lt_ten_of_mem_groupedDigits
  rw [asciiDigits_lt_iff (hten t) (hten t'), TimeOfDay.digits, TimeOfDay.digits,
    groupedDigits_lt_iff (by omega) (by omega) (by omega) (by omega) (by omega) (by omega)]
  unfold secondOfDay
  omega

theorem TimeOfDay.secondOfDay_lt (t : TimeOfDay) : t.secondOfDay < 86400 := by
  obtain ⟨hhour, hminute, hsecond, -⟩ := t.valid
  unfold secondOfDay
  omega

/-- Wall times compare by their days first. -/
theorem WallTime.seconds_lt_iff :
    w.seconds < w'.seconds ↔ w.date.dayNumber < w'.date.dayNumber ∨
      w.date.dayNumber = w'.date.dayNumber ∧ w.time.secondOfDay < w'.time.secondOfDay := by
  have hday := w.date.dayNumber_pos
  have hday' := w'.date.dayNumber_pos
  have htime := w.time.secondOfDay_lt
  have htime' := w'.time.secondOfDay_lt
  unfold seconds
  omega

theorem WallTime.seconds_lt (w : WallTime) : w.seconds < calendarSeconds := by
  have hday : w.date.dayNumber ≤ daysBeforeYear 10000 :=
    Nat.le_trans w.date.dayNumber_le_yearEnd
      (daysBeforeYear_le (Nat.le_add_left 1 _) (Nat.succ_le_succ w.date.valid.2.1))
  have hpositive := w.date.dayNumber_pos
  have htime := w.time.secondOfDay_lt
  unfold seconds calendarSeconds
  omega

/-! ## Offsets -/

/-- A zone that has one offset at all times. -/
def Zone.Steady (zone : Zone) : Prop :=
  ∃ offset, ∀ w, zone.offset w = offset

theorem Zone.steady_fixed (offset : Int) : (Zone.fixed offset).Steady :=
  ⟨offset, fun _ => rfl⟩

namespace ZoneRules

/-- Transitions at the seconds behind a first one, each to the offset of its second. -/
def everySecond (f : Nat → Int) (first : Nat) : Nat → List Transition
  | 0 => []
  | count + 1 =>
    ⟨(first + 1 : Nat) - epochSeconds - max (f first) (f (first + 1)), f (first + 1)⟩ ::
      everySecond f (first + 1) count

theorem offsetAmong_everySecond (f : Nat → Int) (year : Nat) {first count second : Nat}
    (hfirst : first ≤ second) (hlast : second ≤ first + count) :
    offsetAmong (.constant (f (first + count))) year (second - epochSeconds) (f first)
      (everySecond f first count) = f second := by
  induction count generalizing first with
  | zero =>
      obtain rfl : second = first := Nat.le_antisymm hlast hfirst
      rfl
  | succ count ih =>
      rcases Nat.eq_or_lt_of_le hfirst with rfl | hlater
      · cases count <;> simp [everySecond, offsetAmong, Transition.wallSeconds]
      · cases count with
        | zero =>
            obtain rfl : second = first + 1 := Nat.le_antisymm hlast hlater
            simp [everySecond, offsetAmong, Transition.wallSeconds]
        | succ count =>
            -- the first transition is over, so the others decide
            have hnot : ¬ (second : Int) - epochSeconds < (first + 1 : Nat) - epochSeconds := by
              omega
            have hrest := ih hlater (by omega)
            rw [Nat.succ_eq_add_one, Nat.add_right_comm first 1] at hrest
            rw [everySecond, everySecond, offsetAmong, Transition.wallSeconds,
              Int.sub_add_cancel, if_neg hnot]
            · exact hrest
            · exact List.cons_ne_nil _ _

/-- **Rules can give any offset at any second.** -/
theorem exists_offset_eq (f : Nat → Int) :
    ∃ rules : ZoneRules, ∀ w, rules.offset w = f w.seconds := by
  have hall : ∀ count, ∃ rules : ZoneRules, ∀ w : WallTime, w.seconds ≤ count →
      rules.offset w = f w.seconds := by
    intro count
    refine ⟨⟨f 0, everySecond f 0 count, .constant (f (0 + count))⟩, fun w hw => ?_⟩
    exact offsetAmong_everySecond f w.date.year (Nat.zero_le _) (hw.trans_eq (Nat.zero_add _).symm)
  obtain ⟨rules, hrules⟩ := hall calendarSeconds
  exact ⟨rules, fun w => hrules w w.seconds_lt.le⟩

end ZoneRules

namespace CompactDate

variable {zone : Zone} {cs : List Char} {reading reading' : DateReading} {value value' : String}

/-! ## Forms -/

/-- The documented forms of a compact date. -/
inductive Form where
  | date
  | dateTime
  | universal
deriving DecidableEq, Repr

namespace Form

variable {form : Form}

/-- The form as it is documented: T and Z stand for themselves, other letters for digits. -/
def template : Form → String
  | date => "YYYYMMDD"
  | dateTime => "YYYYMMDDTHHMMSS"
  | universal => "YYYYMMDDTHHMMSSZ"

/-- A character may stand in the place of a letter of a template. -/
def Place (letter c : Char) : Prop :=
  if letter = 'T' ∨ letter = 'Z' then c = letter else c.isDigit = true

def Fits (form : Form) (cs : List Char) : Prop :=
  List.Forall₂ Place form.template.toList cs

/-- The text of a wall time in a form. -/
def text (w : WallTime) : Form → List Char
  | date => asciiDigits w.date.digits
  | dateTime => asciiDigits w.date.digits ++ 'T' :: asciiDigits w.time.digits
  | universal => asciiDigits w.date.digits ++ 'T' :: asciiDigits w.time.digits ++ ['Z']

/-- The zone in which a value of a form is read. -/
def zoneOf (zone : Zone) : Form → Zone
  | universal => .utc
  | _ => zone

/-- A wall time is written in a form as a whole: a date alone stands for its midnight. -/
def Shows (form : Form) (w : WallTime) : Prop :=
  w.time.microsecond = 0 ∧ (form = date → w.time = .midnight)

instance (letter c : Char) : Decidable (Place letter c) := by
  unfold Place
  infer_instance

instance (cs : List Char) : Decidable (form.Fits cs) := by
  unfold Fits
  infer_instance

theorem length_dateTime (w : WallTime) : (dateTime.text w).length = 15 :=
  (Pieces.of_spells (spells_dateDigits w.date) (spells_timeDigits w.time)).length_eq

theorem length_text (form : Form) (w : WallTime) :
    (form.text w).length = form.template.toList.length := by
  cases form with
  | date => exact (spells_dateDigits w.date).length_eq.trans (length_groupedDigits ..)
  | dateTime => exact length_dateTime w
  | universal => exact (List.length_append ..).trans (congrArg (· + 1) (length_dateTime w))

theorem Place.plain {letter c : Char} (h : Place letter c) : c.toNat < 128 ∧ c ≠ '\n' := by
  unfold Place at h
  split at h
  · next hletter => rcases hletter with rfl | rfl <;> subst h <;> decide
  · refine ⟨toNat_lt_of_isDigit h, ?_⟩
    rintro rfl
    cases h

theorem Fits.length_eq (h : form.Fits cs) : cs.length = form.template.toList.length :=
  List.Forall₂.length_eq h |>.symm

theorem Fits.plain (h : form.Fits cs) : ∀ c ∈ cs, c.toNat < 128 ∧ c ≠ '\n' := by
  unfold Fits at h
  generalize form.template.toList = letters at h
  induction h with
  | nil => exact nofun
  | cons hplace _ ih => exact List.forall_mem_cons.mpr ⟨hplace.plain, ih⟩

/-- What the reading of a text of a form comes to. -/
structure Reads (form : Form) (zone : Zone) (cs : List Char) (reading : DateReading) : Prop where
  text_eq : cs = form.text reading.instant.wall
  shows : form.Shows reading.instant.wall
  zone_eq : reading.instant.zone = form.zoneOf zone

/-- Texts of one form compare like the times that they show. -/
theorem text_lt_iff (hw : form.Shows w) (hw' : form.Shows w') :
    form.text w < form.text w' ↔ w.seconds < w'.seconds := by
  have hdateLength : (asciiDigits w.date.digits).length = (asciiDigits w'.date.digits).length :=
    (length_text date w).trans (length_text date w').symm
  have hdateTime : dateTime.text w < dateTime.text w' ↔ w.seconds < w'.seconds := by
    rw [text, text, append_lt_append_iff hdateLength, List.cons_lt_cons_iff, Date.digits_lt_iff,
      Date.digits_inj, TimeOfDay.digits_lt_iff, WallTime.seconds_lt_iff]
    simp
  cases form with
  | date =>
      rw [text, text, Date.digits_lt_iff, WallTime.seconds_lt_iff, hw.2 rfl, hw'.2 rfl]
      simp
  | dateTime => exact hdateTime
  | universal =>
      have hlength : (dateTime.text w).length = (dateTime.text w').length :=
        (length_dateTime w).trans (length_dateTime w').symm
      rw [← hdateTime]
      refine (append_lt_append_iff hlength).trans ?_
      simp

theorem text_inj (hw : form.Shows w) (hw' : form.Shows w') :
    form.text w = form.text w' ↔ w.seconds = w'.seconds :=
  eq_iff_of_lt_iff (text_lt_iff hw hw') (text_lt_iff hw' hw)

end Form

theorem Documented.exists_reads (h : Documented zone cs reading) :
    ∃ form : Form, form.Reads zone cs reading := by
  cases h with
  | date d => exact ⟨.date, rfl, ⟨rfl, fun _ => rfl⟩, rfl⟩
  | dateTime w hfraction => exact ⟨.dateTime, rfl, ⟨hfraction, nofun⟩, rfl⟩
  | universal w hfraction => exact ⟨.universal, rfl, ⟨hfraction, nofun⟩, rfl⟩

/-- The length of a text tells its form. -/
theorem Form.template_length_inj :
    ∀ form form' : Form, form.template.length = form'.template.length → form = form' := by
  rintro (_ | _ | _) (_ | _ | _) <;> decide

theorem Form.Fits.reads {form : Form} (h : form.Fits value.toList)
    (hread : readCompact value zone = .ok reading) :
    Documented zone value.toList reading ∧ form.Reads zone value.toList reading := by
  have hlast : value.toList.getLast? ≠ some '\n' :=
    fun hlast => (h.plain _ (List.mem_of_getLast? hlast)).2 rfl
  have hascii : ∀ c ∈ value.toList, c.toNat < 128 := fun c hc => (h.plain c hc).1
  have hdocumented := (Accepted.of_readCompact hread).documented hascii hlast
  obtain ⟨form', hreads⟩ := hdocumented.exists_reads
  have hlength : form.template.length = form'.template.length := by
    rw [← String.length_toList, ← String.length_toList,
      ← length_text form' reading.instant.wall, ← hreads.text_eq]
    exact h.length_eq.symm
  obtain rfl := template_length_inj form form' hlength
  exact ⟨hdocumented, hreads⟩

end CompactDate

/-! ## Durations -/

/-- A count of seconds agrees with the days and times of two values, and with the order of
their texts. -/
structure Elapsed (value value' : String) (w w' : WallTime) (seconds : Int) : Prop where
  counted : ∃ days days', Date.counted? days = some w.date ∧ Date.counted? days' = some w'.date ∧
    seconds = 86400 * (days' - days : Int) + (w'.time.secondOfDay - w.time.secondOfDay)
  negative_iff : seconds < 0 ↔ value' < value
  zero_iff : seconds = 0 ↔ value = value'

namespace CompactDate.Form.Reads

variable {form : Form} {zone zone' : Zone} {reading reading' : DateReading}
  {value value' : String}

theorem elapsed (h : form.Reads zone value.toList reading)
    (h' : form.Reads zone value'.toList reading') :
    Elapsed value value' reading.instant.wall reading'.instant.wall
      (reading'.instant.wall.seconds - reading.instant.wall.seconds) where
  counted := by
    refine ⟨_, _, Date.counted?_eq_some_iff.mpr rfl, Date.counted?_eq_some_iff.mpr rfl, ?_⟩
    have hday := reading.instant.wall.date.dayNumber_pos
    have hday' := reading'.instant.wall.date.dayNumber_pos
    unfold WallTime.seconds
    omega
  negative_iff := by
    rw [sub_neg, Int.ofNat_lt, ← text_lt_iff h'.shows h.shows, ← h.text_eq, ← h'.text_eq]
    exact String.lt_iff_toList_lt.symm
  zero_iff := by
    rw [Int.sub_eq_zero, Int.ofNat_inj, ← text_inj h'.shows h.shows, ← h.text_eq, ← h'.text_eq]
    exact String.toList_inj.trans eq_comm

/-- The offset of a steady zone cancels. -/
theorem utcSeconds_sub (hzone : zone.Steady) (h : form.Reads zone value.toList reading)
    (h' : form.Reads zone value'.toList reading') :
    reading'.instant.utcSeconds - reading.instant.utcSeconds =
      reading'.instant.wall.seconds - reading.instant.wall.seconds := by
  have hsteady : (form.zoneOf zone).Steady := by
    cases form with
    | universal => exact Zone.steady_fixed 0
    | _ => exact hzone
  obtain ⟨offset, hoffset⟩ := hsteady
  unfold Instant.utcSeconds Instant.offset
  rw [h.zone_eq, h'.zone_eq, hoffset, hoffset]
  omega

theorem durationText_eq (hzone : zone.Steady) (h : form.Reads zone value.toList reading)
    (h' : form.Reads zone value'.toList reading') (hstart : reading.instant.InCalendar)
    (hfinish : reading'.instant.InCalendar) :
    durationText reading.instant reading'.instant = .ok ("+P" ++
      toString (reading'.instant.wall.seconds - reading.instant.wall.seconds : Int) ++ "S") := by
  have hfraction := h.shows.1.trans h'.shows.1.symm
  rw [VCalendar.durationText_eq hstart hfinish,
    wholeSeconds_microsecondsTo hstart hfinish hfraction, utcSeconds_sub hzone h h']

theorem seconds_nextDay (h : Reads .date zone value.toList reading)
    (h' : Reads .date zone value'.toList reading')
    (hnext : reading.instant.wall.date.next? = some reading'.instant.wall.date) :
    (reading'.instant.wall.seconds - reading.instant.wall.seconds : Int) = 86400 := by
  have hday := reading.instant.wall.date.dayNumber_pos
  unfold WallTime.seconds
  rw [h.shows.2 rfl, h'.shows.2 rfl, Date.dayNumber_of_next? hnext]
  omega

end CompactDate.Form.Reads

open CompactDate in
/-- **The duration between two values of one form.** In a zone of one offset it is the days
between their dates and the seconds between their times of day, whatever the offset. It is
negative exactly if the second value comes first as a text, and zero exactly if the values
are the same. From a date to the day after it there are 86400 seconds. -/
theorem durationText_elapsed {form : Form} {zone : Zone} {value value' : String}
    {reading reading' : DateReading} (hzone : zone.Steady)
    (hform : form.Fits value.toList) (hform' : form.Fits value'.toList)
    (hread : readCompact value zone = .ok reading)
    (hread' : readCompact value' zone = .ok reading')
    (hstart : reading.instant.InCalendar) (hfinish : reading'.instant.InCalendar) :
    Documented zone value.toList reading ∧ Documented zone value'.toList reading' ∧
    ∃ seconds : Int,
      durationText reading.instant reading'.instant = .ok ("+P" ++ toString seconds ++ "S") ∧
      Elapsed value value' reading.instant.wall reading'.instant.wall seconds ∧
      (form = .date → reading.instant.wall.date.next? = some reading'.instant.wall.date →
        seconds = 86400) ∧
      ∀ (zone₂ : Zone) (reading₂ reading₂' : DateReading), zone₂.Steady →
        readCompact value zone₂ = .ok reading₂ → readCompact value' zone₂ = .ok reading₂' →
        reading₂.instant.InCalendar → reading₂'.instant.InCalendar →
        durationText reading₂.instant reading₂'.instant =
          .ok ("+P" ++ toString seconds ++ "S") := by
  obtain ⟨hdocumented, hreads⟩ := hform.reads hread
  obtain ⟨hdocumented', hreads'⟩ := hform'.reads hread'
  refine ⟨hdocumented, hdocumented', _, hreads.durationText_eq hzone hreads' hstart hfinish,
    hreads.elapsed hreads', ?_, ?_⟩
  · rintro rfl
    exact hreads.seconds_nextDay hreads'
  · intro zone₂ reading₂ reading₂' hzone₂ hread₂ hread₂' hstart₂ hfinish₂
    have hreads₂ := (hform.reads hread₂).2
    have hreads₂' := (hform'.reads hread₂').2
    have hsame : reading₂.instant.wall.seconds = reading.instant.wall.seconds :=
      (Form.text_inj hreads₂.shows hreads.shows).mp (hreads₂.text_eq.symm.trans hreads.text_eq)
    have hsame' : reading₂'.instant.wall.seconds = reading'.instant.wall.seconds :=
      (Form.text_inj hreads₂'.shows hreads'.shows).mp (hreads₂'.text_eq.symm.trans hreads'.text_eq)
    rw [hreads₂.durationText_eq hzone₂ hreads₂' hstart₂ hfinish₂, hsame, hsame']

/-- Two days in a zone far to the east, read from their texts. -/
def lastOfFebruary : DateReading where
  instant := ⟨⟨⟨1900, 2, 28, by decide⟩, .midnight⟩, .fixed 50400⟩
  dateOnly := true

def firstOfMarch : DateReading where
  instant := ⟨⟨⟨1900, 3, 1, by decide⟩, .midnight⟩, .fixed 50400⟩
  dateOnly := true

open CompactDate in
/-- The year 1900 has no leap day, so February ends with its day 28. -/
theorem durationText_elapsed_commonCentury :
    readCompact "19000228" (.fixed 50400) = .ok lastOfFebruary ∧
    readCompact "19000301" (.fixed 50400) = .ok firstOfMarch ∧
    durationText lastOfFebruary.instant firstOfMarch.instant = .ok "+P86400S" ∧
    Elapsed "19000228" "19000301" lastOfFebruary.instant.wall firstOfMarch.instant.wall
      86400 := by
  have hform : Form.date.Fits "19000228".toList := by decide +kernel
  have hform' : Form.date.Fits "19000301".toList := by decide +kernel
  have hread : readCompact "19000228" (.fixed 50400) = .ok lastOfFebruary := by decide +kernel
  have hread' : readCompact "19000301" (.fixed 50400) = .ok firstOfMarch := by decide +kernel
  obtain ⟨-, -, seconds, htext, helapsed, hnextDay, -⟩ :=
    durationText_elapsed (Zone.steady_fixed 50400) hform hform' hread hread' (by decide +kernel)
      (by decide +kernel)
  obtain rfl := hnextDay rfl (by decide +kernel)
  exact ⟨hread, hread', htext, helapsed⟩

end VCalendar
