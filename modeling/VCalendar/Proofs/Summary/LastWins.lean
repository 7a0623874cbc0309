import VCalendar.Proofs.Positions
import VCalendar.Summary

/-!
# The last one wins

The fields of a summary in words of the nodes that it was filled from: each field is
decided by the last node of a kind, together with what stands before it. Main
statements: nodes without a flaw are summed up as they mean, and otherwise the first flaw
decides the error.

The summary is filled step by step, so the fields are related to the nodes that have
been taken in, and one step adds one node at the end.
-/

namespace VCalendar

/-! ## The last element of a kind -/

/-- The last element that passes a test, and what stands before it. -/
def lastWith {α : Type} (p : α → Bool) : List α → Option (List α × α)
  | [] => none
  | x :: xs =>
    match lastWith p xs with
    | some (before, y) => some (x :: before, y)
    | none => if p x then some ([], x) else none

variable {α : Type} {p : α → Bool} {xs before : List α} {x y : α}

@[simp] theorem lastWith_concat :
    lastWith p (xs ++ [x]) = if p x then some (xs, x) else lastWith p xs := by
  induction xs with
  | nil => rfl
  | cons y xs ih =>
      rw [List.cons_append, lastWith, ih, lastWith]
      by_cases hx : p x
      · rw [if_pos hx, if_pos hx]
      · rw [if_neg hx, if_neg hx]

theorem eq_append_of_lastWith (h : lastWith p xs = some (before, y)) :
    p y = true ∧ ∃ after, xs = before ++ y :: after ∧ ∀ z ∈ after, p z = false := by
  induction xs using List.reverseRecOn with
  | nil => cases h
  | append_singleton xs x ih =>
      rw [lastWith_concat] at h
      split at h
      · rename_i hx
        cases h
        exact ⟨hx, [], rfl, by simp⟩
      · rename_i hx
        obtain ⟨hy, after, rfl, hafter⟩ := ih h
        refine ⟨hy, after ++ [x], by simp, ?_⟩
        intro z hz
        rcases List.mem_append.mp hz with hz | hz
        · exact hafter z hz
        · rw [List.mem_singleton.mp hz]
          exact Bool.not_eq_true _ ▸ hx

/-! ## The fields in words of the nodes -/

namespace Node

def isStart (n : Node) : Bool := n.name = "DTSTART"

def isFinish (n : Node) : Bool := n.name = "DTEND"

def isDate (n : Node) : Bool := n.isStart || n.isFinish

def isRule (n : Node) : Bool := n.name = "RRULE"

/-- Whether a node decides the duration. -/
def isSpan (n : Node) : Bool := n.isFinish || n.name = "DURATION"

end Node

/-- The zone identifier in effect behind some nodes: that of the last date that has one. -/
def zoneAfter (ns : List Node) : Option String :=
  (lastWith (fun n => n.isDate && (n.parameter? "TZID").isSome) ns).bind
    fun (_, n) => n.parameter? "TZID"

/-- The reading of a date behind other nodes. -/
def readingAt (zones : Zones) (before : List Node) (n : Node) : Except DateFlaw DateReading :=
  zones.reading n.value (zoneAfter (before ++ [n]))

def instantAt (zones : Zones) (before : List Node) (n : Node) : Option Instant :=
  (readingAt zones before n).toOption.map (·.instant)

/-- The instant of the last start. -/
def startAfter (zones : Zones) (ns : List Node) : Option Instant :=
  (lastWith Node.isStart ns).bind fun (before, n) => instantAt zones before n

/-- The duration told by a node behind others: the text of a duration, or the span from
the last start before an end. -/
def durationAt (zones : Zones) (before : List Node) (n : Node) : Option String :=
  if n.isFinish then
    match lastWith Node.isStart before with
    | none => some "+P0S"
    | some (earlier, start) => do
      let start ← instantAt zones earlier start
      let finish ← instantAt zones before n
      (durationText start finish).toOption
  else some n.value

/-- Some node starts the event on a whole day. -/
def StartsAllDay (ns : List Node) : Prop :=
  ∃ n ∈ ns, n.isStart = true ∧ n.value.length = 8

/-- A summary says what some nodes mean. -/
structure Summary.Means (s : Summary) (zones : Zones) (ns : List Node) : Prop where
  tzid : s.tzid = zoneAfter ns
  dtstart : s.dtstart = (lastWith Node.isStart ns).map fun (_, n) => n.value
  start : s.start = startAfter zones ns
  allDay : s.allDay = true ↔ StartsAllDay ns
  rrule : s.rrule = (lastWith Node.isRule ns).map fun (_, n) => n.value
  duration : s.duration =
    (lastWith Node.isSpan ns).bind fun (before, n) => durationAt zones before n

/-- The error of a date that is not read: it shows the date, unless the lookup of its zone
fails. -/
def Node.dateError (n : Node) : DateFlaw → ReadError
  | .unanswered cause => .lookup cause
  | _ => .badDate ⟨n.lineNumber, n.name, n.value⟩

/-- What is wrong with a node behind others: a date that is not read, or an end whose
distance from the last start cannot be measured. -/
def flawAt (zones : Zones) (before : List Node) (n : Node) : Option ReadError :=
  if n.isDate then
    match readingAt zones before n with
    | .error flaw => some (n.dateError flaw)
    | .ok reading =>
      if n.isFinish then
        (startAfter zones before).bind fun start =>
          match durationText start reading.instant with
          | .ok _ => none
          | .error cause => some (.badSpan cause)
      else none
  else none

/-- Nothing is wrong with any of the nodes. -/
def Flawless (zones : Zones) (ns : List Node) : Prop :=
  ∀ before n after, ns = before ++ n :: after → flawAt zones before n = none

variable {zones : Zones} {ns : List Node} {n : Node} {s : Summary}

theorem flawless_concat :
    Flawless zones (ns ++ [n]) ↔ Flawless zones ns ∧ flawAt zones ns n = none :=
  forall_position_concat

/-- A flaw that lies in the text of a date. -/
def DateFlaw.OfText (flaw : DateFlaw) : Prop :=
  ∀ cause, flaw ≠ .unanswered cause

/-- The error of a node behind others, by its cause. -/
inductive FlawOf (zones : Zones) (before : List Node) (n : Node) : ReadError → Prop
  | date (flaw : DateFlaw) : n.isDate = true → readingAt zones before n = .error flaw →
      flaw.OfText → FlawOf zones before n (.badDate ⟨n.lineNumber, n.name, n.value⟩)
  | lookup (cause : HostError) : n.isDate = true →
      readingAt zones before n = .error (.unanswered cause) →
      FlawOf zones before n (.lookup cause)
  | span (start : Instant) (reading : DateReading) : n.isFinish = true →
      startAfter zones before = some start → readingAt zones before n = .ok reading →
      ¬ (start.InCalendar ∧ reading.instant.InCalendar) →
      FlawOf zones before n (.badSpan .outOfCalendar)

theorem durationText_eq_error_iff {start finish : Instant} {cause : SpanError} :
    durationText start finish = .error cause ↔
      cause = .outOfCalendar ∧ ¬ (start.InCalendar ∧ finish.InCalendar) := by
  unfold durationText
  by_cases h : start.InCalendar ∧ finish.InCalendar
  · rw [if_pos h]
    exact iff_of_false nofun fun hcause => hcause.2 h
  · rw [if_neg h]
    constructor
    · intro herror
      cases herror
      exact ⟨rfl, h⟩
    · rintro ⟨rfl, -⟩
      rfl

theorem Node.dateError_of_text {flaw : DateFlaw} (h : flaw.OfText) (n : Node) :
    n.dateError flaw = .badDate ⟨n.lineNumber, n.name, n.value⟩ := by
  cases flaw with
  | unanswered cause => exact absurd rfl (h cause)
  | unrecognized => rfl
  | wrongDate => rfl
  | wrongDateTime => rfl

theorem FlawOf.of_reading {flaw : DateFlaw} (hdate : n.isDate = true)
    (hreading : readingAt zones ns n = .error flaw) : FlawOf zones ns n (n.dateError flaw) := by
  cases flaw with
  | unanswered cause => exact .lookup cause hdate hreading
  | unrecognized => exact .date _ hdate hreading nofun
  | wrongDate => exact .date _ hdate hreading nofun
  | wrongDateTime => exact .date _ hdate hreading nofun

theorem flawAt_eq_some_iff {e : ReadError} :
    flawAt zones ns n = some e ↔ FlawOf zones ns n e := by
  constructor
  · intro h
    unfold flawAt at h
    split at h
    · rename_i hdate
      split at h
      · rename_i flaw hreading
        cases h
        exact .of_reading hdate hreading
      · rename_i reading hreading
        split at h
        · rename_i hfinish
          obtain ⟨start, hstart, hspan⟩ := Option.bind_eq_some_iff.mp h
          split at hspan
          · cases hspan
          · rename_i cause herror
            obtain ⟨rfl, houtside⟩ := durationText_eq_error_iff.mp herror
            cases hspan
            exact .span start reading hfinish hstart hreading houtside
        · cases h
    · cases h
  · intro h
    cases h with
    | date flaw hdate hreading htext =>
        rw [flawAt, if_pos hdate, hreading]
        simp only [n.dateError_of_text htext]
    | lookup cause hdate hreading =>
        rw [flawAt, if_pos hdate, hreading]
        rfl
    | span start reading hfinish hstart hreading houtside =>
        have hdate : n.isDate = true := by simp [Node.isDate, hfinish]
        have herror := durationText_eq_error_iff.mpr ⟨rfl, houtside⟩
        rw [flawAt, if_pos hdate, hreading]
        simp only [if_pos hfinish, hstart, Option.bind_some, herror]

/-! ## Dates -/

/-- A text that can be read is a date alone exactly if it has eight characters. -/
theorem dateOnly_of_readCompact {value : String} {zone : Zone} {reading : DateReading}
    (h : readCompact value zone = .ok reading) : reading.dateOnly = true ↔ value.length = 8 := by
  rw [← String.length_toList]
  have hbody : (CompactDate.dropFinalLineFeed value.toList).length ≤ value.toList.length := by
    unfold CompactDate.dropFinalLineFeed
    split
    · rw [List.length_dropLast]
      exact Nat.sub_le _ _
    · exact Nat.le_refl _
  simp only [readCompact] at h
  split at h
  · split at h
    · rename_i wall hmidnight
      cases h
      unfold CompactDate.midnight? at hmidnight
      split at hmidnight
      · rename_i hdigits
        exact iff_of_true rfl hdigits.1
      · cases hmidnight
    · cases h
  · split at h
    · rename_i hshape
      split at h
      · cases h
        -- a time of day makes fifteen characters at least
        simp only [CompactDate.isDateTimeShape, Bool.and_eq_true, Bool.or_eq_true,
          decide_eq_true_eq] at hshape
        exact iff_of_false Bool.false_ne_true (by omega)
      · cases h
    · cases h

theorem ofText_of_readCompact {value : String} {zone : Zone} {flaw : DateFlaw}
    (h : readCompact value zone = .error flaw) : flaw.OfText := by
  rintro cause rfl
  simp only [readCompact] at h
  split at h
  · split at h <;> cases h
  · split at h
    · split at h <;> cases h
    · cases h

namespace Zones

variable {value : String} {tzid : Option String}

/-- A date is read once its zone is known. -/
theorem reading_of_answer {zone : Zone} (h : zones.answer tzid = .ok zone) :
    zones.reading value tzid = readCompact value zone := by
  rw [reading, h]
  rfl

theorem reading_of_failure {cause : HostError} (h : zones.answer tzid = .error cause) :
    zones.reading value tzid = .error (.unanswered cause) := by
  rw [reading, h]
  rfl

theorem reading_eq_ok {reading : DateReading} (h : zones.reading value tzid = .ok reading) :
    ∃ zone, zones.answer tzid = .ok zone ∧ readCompact value zone = .ok reading := by
  cases hanswer : zones.answer tzid with
  | error cause => cases h.symm.trans (reading_of_failure hanswer)
  | ok zone => exact ⟨zone, rfl, reading_of_answer hanswer ▸ h⟩

theorem reading_eq_unanswered_iff {cause : HostError} :
    zones.reading value tzid = .error (.unanswered cause) ↔ zones.answer tzid = .error cause := by
  cases hanswer : zones.answer tzid with
  | error cause' =>
      rw [reading_of_failure hanswer]
      exact ⟨fun h => by cases h; rfl, fun h => by cases h; rfl⟩
  | ok zone =>
      rw [reading_of_answer hanswer]
      exact iff_of_false (fun h => ofText_of_readCompact h cause rfl) nofun

theorem dateOnly_of_reading {reading : DateReading} (h : zones.reading value tzid = .ok reading) :
    reading.dateOnly = true ↔ value.length = 8 := by
  obtain ⟨zone, -, hcompact⟩ := reading_eq_ok h
  exact dateOnly_of_readCompact hcompact

theorem outcome_readDate (zones : Zones) (value : String) (tzid : Option String) :
    (zones.readDate value tzid).outcome = zones.reading value tzid := by
  unfold readDate
  simp only [Report.outcome_bind]
  show (zones.reading value tzid >>= fun reading => _) = _
  cases zones.reading value tzid <;> rfl

end Zones

theorem Summary.outcome_readDate (zones : Zones) (s : Summary) (n : Node) :
    (readDate zones s n).outcome = (zones.reading n.value s.tzid).mapError n.dateError := by
  rw [← zones.outcome_readDate]
  simp only [readDate]
  cases (zones.readDate n.value s.tzid).outcome with
  | error flaw => cases flaw <;> rfl
  | ok reading => rfl

/-! ## One more node -/

theorem zoneAfter_concat_date (h : n.isDate = true) :
    zoneAfter (ns ++ [n]) = (n.parameter? "TZID").or (zoneAfter ns) := by
  unfold zoneAfter
  rw [lastWith_concat]
  cases hparameter : n.parameter? "TZID" <;> simp [h, hparameter]

theorem zoneAfter_concat_other (h : n.isDate = false) : zoneAfter (ns ++ [n]) = zoneAfter ns := by
  unfold zoneAfter
  rw [lastWith_concat]
  simp [h]

theorem startAfter_concat_start (h : n.isStart = true) :
    startAfter zones (ns ++ [n]) = instantAt zones ns n := by
  rw [startAfter, lastWith_concat, if_pos h]
  rfl

theorem startAfter_concat_other (h : n.isStart = false) :
    startAfter zones (ns ++ [n]) = startAfter zones ns := by
  rw [startAfter, lastWith_concat, h]
  rfl

theorem startsAllDay_concat :
    StartsAllDay (ns ++ [n]) ↔ StartsAllDay ns ∨ n.isStart = true ∧ n.value.length = 8 := by
  simp [StartsAllDay, or_and_right, exists_or]

theorem instantAt_of_reading {reading : DateReading} (h : readingAt zones ns n = .ok reading) :
    instantAt zones ns n = some reading.instant := by
  rw [instantAt, h]
  rfl

/-- Among nodes without a flaw the last start has an instant. -/
theorem startAfter_eq_instantAt (hns : Flawless zones ns) {before : List Node}
    (h : lastWith Node.isStart ns = some (before, n)) :
    ∃ start, startAfter zones ns = some start ∧ instantAt zones before n = some start := by
  obtain ⟨hstart, after, hsplit, -⟩ := eq_append_of_lastWith h
  have hdate : n.isDate = true := by simp [Node.isDate, hstart]
  have hflaw := hns before n after hsplit
  rw [flawAt, if_pos hdate] at hflaw
  cases hreading : readingAt zones before n with
  | error flaw =>
      rw [hreading] at hflaw
      cases hflaw
  | ok reading =>
      refine ⟨reading.instant, ?_, instantAt_of_reading hreading⟩
      rw [startAfter, h]
      exact instantAt_of_reading hreading

namespace Summary

theorem Means.takeZone (h : s.Means zones ns) (hn : n.isDate = true) :
    (s.takeZone n).tzid = zoneAfter (ns ++ [n]) := by
  rw [zoneAfter_concat_date hn, ← h.tzid]
  rfl

/-- The zone in effect is that of the date itself or an earlier one. -/
theorem Means.readDate (h : s.Means zones ns) (hn : n.isDate = true) :
    (readDate zones (s.takeZone n) n).outcome = (readingAt zones ns n).mapError n.dateError := by
  rw [outcome_readDate, h.takeZone hn]
  rfl

/-- What taking a further node into a summary comes to. -/
def Takes (s : Summary) (zones : Zones) (ns : List Node) (n : Node) : Prop :=
  match flawAt zones ns n with
  | some e => (s.add zones n).outcome = .error e
  | none => ∃ s', (s.add zones n).outcome = .ok s' ∧ s'.Means zones (ns ++ [n])

theorem Means.takes_start (h : s.Means zones ns) (hname : n.name = "DTSTART") :
    s.Takes zones ns n := by
  have hstart : n.isStart = true := decide_eq_true hname
  have hfinish : n.isFinish = false := by simp [Node.isFinish, hname]
  have hdate : n.isDate = true := by simp [Node.isDate, hstart]
  have hrule : n.isRule = false := by simp [Node.isRule, hname]
  have hspan : n.isSpan = false := by simp [Node.isSpan, hfinish, hname]
  rw [Takes, add, if_pos hname]
  simp only [Report.outcome_bind, h.readDate hdate, flawAt, hdate, hfinish]
  cases hreading : readingAt zones ns n with
  | error flaw => rfl
  | ok reading =>
      refine ⟨_, rfl, h.takeZone hdate, ?_, ?_, ?_, ?_, ?_⟩
      · rw [lastWith_concat, if_pos hstart]
        rfl
      · rw [startAfter_concat_start hstart, instantAt_of_reading hreading]
      · rw [startsAllDay_concat, ← h.allDay, ← Zones.dateOnly_of_reading hreading]
        simp [hstart, Summary.takeZone]
      · rw [lastWith_concat, hrule]
        exact h.rrule
      · rw [lastWith_concat, hspan]
        exact h.duration

/-- A finish changes the zone in effect and the duration. -/
theorem Means.concat_finish (h : s.Means zones ns) (hname : n.name = "DTEND") {text : String}
    (htext : durationAt zones ns n = some text) :
    Means { s.takeZone n with duration := some text } zones (ns ++ [n]) := by
  have hstart : n.isStart = false := by simp [Node.isStart, hname]
  have hfinish : n.isFinish = true := decide_eq_true hname
  have hrule : n.isRule = false := by simp [Node.isRule, hname]
  refine ⟨h.takeZone (by simp [Node.isDate, hfinish]), ?_, ?_, ?_, ?_, ?_⟩
  · rw [lastWith_concat, hstart]
    exact h.dtstart
  · rw [startAfter_concat_other hstart]
    exact h.start
  · rw [startsAllDay_concat, ← h.allDay]
    simp [hstart, Summary.takeZone]
  · rw [lastWith_concat, hrule]
    exact h.rrule
  · rw [lastWith_concat, if_pos (by simp [Node.isSpan, hfinish])]
    exact htext.symm

theorem Means.takes_finish (h : s.Means zones ns) (hns : Flawless zones ns)
    (hname : n.name = "DTEND") : s.Takes zones ns n := by
  have hfinish : n.isFinish = true := decide_eq_true hname
  have hdate : n.isDate = true := by simp [Node.isDate, hfinish]
  have hnot : n.name ≠ "DTSTART" := by simp [hname]
  cases hreading : readingAt zones ns n with
  | error flaw =>
      rw [Takes, flawAt, if_pos hdate, hreading, add, if_neg hnot, if_pos hname]
      simp only [Report.outcome_bind, h.readDate hdate, hreading]
      rfl
  | ok reading =>
      have hadd : (s.add zones n).outcome = s.durationTo reading.instant >>= fun text =>
          .ok { s.takeZone n with duration := some text } := by
        rw [add, if_neg hnot, if_pos hname]
        simp only [Report.outcome_bind, h.readDate hdate, hreading]
        rfl
      rw [Takes, flawAt, if_pos hdate, hreading, hadd, durationTo, h.start]
      simp only [if_pos hfinish]
      cases hlast : lastWith Node.isStart ns with
      | none =>
          rw [startAfter, hlast]
          refine ⟨_, rfl, h.concat_finish hname ?_⟩
          rw [durationAt, if_pos hfinish, hlast]
          rfl
      | some last =>
          obtain ⟨earlier, m⟩ := last
          obtain ⟨start, hafter, hinstant⟩ := startAfter_eq_instantAt hns hlast
          rw [hafter]
          simp only [Option.bind_some]
          cases htext : durationText start reading.instant with
          | error cause => rfl
          | ok text =>
              refine ⟨_, rfl, h.concat_finish hname ?_⟩
              rw [durationAt, if_pos hfinish, hlast]
              simp only [hinstant, instantAt_of_reading hreading]
              show (durationText start reading.instant).toOption = some text
              rw [htext]
              rfl

/-- A node that is no date changes nothing but the recurrence rule or the duration. -/
theorem Means.concat_other (h : s.Means zones ns) (hdate : n.isDate = false) :
    Means { s with
      rrule := if n.isRule then some n.value else s.rrule
      duration := if n.isSpan then some n.value else s.duration } zones (ns ++ [n]) := by
  have hstart : n.isStart = false := (Bool.or_eq_false_iff.mp hdate).1
  have hfinish : n.isFinish = false := (Bool.or_eq_false_iff.mp hdate).2
  refine ⟨?_, ?_, ?_, ?_, ?_, ?_⟩
  · rw [zoneAfter_concat_other hdate]
    exact h.tzid
  · rw [lastWith_concat, hstart]
    exact h.dtstart
  · rw [startAfter_concat_other hstart]
    exact h.start
  · rw [startsAllDay_concat, ← h.allDay]
    simp [hstart]
  · rw [lastWith_concat]
    by_cases hrule : n.isRule = true
    · simp [hrule]
    · simp [hrule, h.rrule]
  · rw [lastWith_concat]
    by_cases hspan : n.isSpan = true
    · simp [hspan, durationAt, hfinish]
    · simp [hspan, h.duration]

theorem Means.takes_other (h : s.Means zones ns) (hdate : n.isDate = false) :
    s.Takes zones ns n := by
  have hstart : n.name ≠ "DTSTART" := of_decide_eq_false (Bool.or_eq_false_iff.mp hdate).1
  have hfinish : n.name ≠ "DTEND" := of_decide_eq_false (Bool.or_eq_false_iff.mp hdate).2
  have hmeans := h.concat_other hdate
  rw [Takes, flawAt, if_neg (Bool.not_eq_true _ ▸ hdate), add, if_neg hstart, if_neg hfinish]
  by_cases hduration : n.name = "DURATION"
  · rw [if_pos hduration]
    refine ⟨_, rfl, ?_⟩
    simpa [Node.isSpan, Node.isRule, hduration] using hmeans
  · rw [if_neg hduration]
    have hspan : n.isSpan = false := by simp [Node.isSpan, Node.isFinish, hfinish, hduration]
    by_cases hrule : n.name = "RRULE"
    · rw [if_pos hrule]
      refine ⟨_, rfl, ?_⟩
      simpa [hspan, Node.isRule, hrule] using hmeans
    · rw [if_neg hrule]
      refine ⟨_, rfl, ?_⟩
      simpa [hspan, Node.isRule, hrule] using hmeans

theorem Means.takes (h : s.Means zones ns) (hns : Flawless zones ns) (n : Node) :
    s.Takes zones ns n := by
  by_cases hstart : n.name = "DTSTART"
  · exact h.takes_start hstart
  · by_cases hfinish : n.name = "DTEND"
    · exact h.takes_finish hns hfinish
    · refine h.takes_other ?_
      simp [Node.isDate, Node.isStart, Node.isFinish, hstart, hfinish]

theorem means_empty : ({} : Summary).Means zones [] := by
  refine ⟨rfl, rfl, rfl, iff_of_false Bool.false_ne_true ?_, rfl, rfl⟩
  rintro ⟨n, hn, -⟩
  cases hn

/-! ## All nodes -/

theorem outcome_addAll_append (zones : Zones) (s : Summary) (ns ns' : List Node) :
    (s.addAll zones (ns ++ ns')).outcome =
      (s.addAll zones ns).outcome >>= fun s => (s.addAll zones ns').outcome := by
  induction ns generalizing s with
  | nil => rfl
  | cons n ns ih =>
      rw [List.cons_append, addAll, addAll, Report.outcome_bind, Report.outcome_bind]
      cases (s.add zones n).outcome with
      | error e => rfl
      | ok s' => exact ih s'

theorem outcome_addAll_cons (zones : Zones) (s : Summary) (n : Node) (ns : List Node) :
    (s.addAll zones (n :: ns)).outcome =
      (s.add zones n).outcome >>= fun s => (s.addAll zones ns).outcome := by
  rw [addAll, Report.outcome_bind]

/-- **Flawless nodes are summed up as they mean.** -/
theorem addAll_of_flawless (h : Flawless zones ns) :
    ∃ s, (addAll zones {} ns).outcome = .ok s ∧ s.Means zones ns := by
  induction ns using List.reverseRecOn with
  | nil => exact ⟨{}, rfl, means_empty⟩
  | append_singleton ns n ih =>
      obtain ⟨hns, hn⟩ := flawless_concat.mp h
      obtain ⟨s, hok, hmeans⟩ := ih hns
      have htakes := hmeans.takes hns n
      rw [Takes, hn] at htakes
      obtain ⟨s', hok', hmeans'⟩ := htakes
      refine ⟨s', ?_, hmeans'⟩
      rw [outcome_addAll_append, hok]
      show (s.addAll zones [n]).outcome = .ok s'
      rw [outcome_addAll_cons, hok']
      rfl

end Summary

/-- The first node with a flaw, what stands before it and what is wrong with it. -/
structure FirstFlaw (zones : Zones) (ns before : List Node) (n : Node) (e : ReadError) : Prop where
  split : ∃ after, ns = before ++ n :: after
  flawless : Flawless zones before
  flaw : flawAt zones before n = some e

theorem flawless_or_firstFlaw (zones : Zones) (ns : List Node) :
    Flawless zones ns ∨ ∃ before n e, FirstFlaw zones ns before n e := by
  rcases forall_position_or_first (fun before n => flawAt zones before n = none) ns with
    hns | ⟨before, n, hsplit, hbefore, hn⟩
  · exact Or.inl hns
  · obtain ⟨e, he⟩ := Option.ne_none_iff_exists'.mp hn
    exact Or.inr ⟨before, n, e, hsplit, hbefore, he⟩

/-- **The first flaw decides the error.** -/
theorem FirstFlaw.outcome_addAll {before : List Node} {e : ReadError}
    (h : FirstFlaw zones ns before n e) : (Summary.addAll zones {} ns).outcome = .error e := by
  obtain ⟨⟨after, rfl⟩, hbefore, hn⟩ := h
  obtain ⟨s, hok, hmeans⟩ := Summary.addAll_of_flawless hbefore
  have htakes := hmeans.takes hbefore n
  rw [Summary.Takes, hn] at htakes
  rw [Summary.outcome_addAll_append, hok]
  show (s.addAll zones (n :: after)).outcome = .error e
  rw [Summary.outcome_addAll_cons, htakes]
  rfl

end VCalendar
