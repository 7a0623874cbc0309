import Mathlib.Logic.Function.Basic
import VCalendar.Proofs.Positions
import VCalendar.Proofs.Summary.Dates

/-!
# What a lookup of zones decides

A zone is looked up when a date in no block is read, and the identifier that is asked for is
the first TZID parameter of this date or an earlier one. Main statement: lookups that agree
on these identifiers read a content the same, and no lookup decides more than the instants,
the duration and whether there is a document at all.
-/

namespace VCalendar

variable {zones zones' : Zones} {ns : List Node} {n : Node} {s : Summary}

/-! ## Dates read alike -/

/-- Two lookups read all dates among some nodes the same. -/
def ReadAlike (zones zones' : Zones) (ns : List Node) : Prop :=
  ∀ before n after, ns = before ++ n :: after → n.isDate = true →
    readingAt zones before n = readingAt zones' before n

namespace Summary

theorem means_of_addAll (h : (addAll zones {} ns).outcome = .ok s) : s.Means zones ns := by
  rcases flawless_or_firstFlaw zones ns with hns | ⟨before, n, e, hfirst⟩
  · obtain ⟨s', hok, hmeans⟩ := addAll_of_flawless hns
    cases h.symm.trans hok
    exact hmeans
  · cases h.symm.trans hfirst.outcome_addAll

theorem Means.readDate_congr (h : s.Means zones ns) (hdate : n.isDate = true)
    (hreading : readingAt zones ns n = readingAt zones' ns n) :
    (Summary.readDate zones (s.takeZone n) n).outcome =
      (Summary.readDate zones' (s.takeZone n) n).outcome := by
  unfold readingAt at hreading
  rw [outcome_readDate, outcome_readDate, h.takeZone hdate, hreading]

theorem Means.add_congr (h : s.Means zones ns)
    (hreading : n.isDate = true → readingAt zones ns n = readingAt zones' ns n) :
    (s.add zones n).outcome = (s.add zones' n).outcome := by
  by_cases hstart : n.name = "DTSTART"
  · have hdate : n.isDate = true := by simp [Node.isDate, Node.isStart, hstart]
    rw [add, add, if_pos hstart, if_pos hstart]
    simp only [Report.outcome_bind, h.readDate_congr hdate (hreading hdate)]
  · by_cases hfinish : n.name = "DTEND"
    · have hdate : n.isDate = true := by simp [Node.isDate, Node.isFinish, hfinish]
      rw [add, add, if_neg hstart, if_neg hstart, if_pos hfinish, if_pos hfinish]
      simp only [Report.outcome_bind, h.readDate_congr hdate (hreading hdate)]
    · rw [add, add, if_neg hstart, if_neg hstart, if_neg hfinish, if_neg hfinish]

/-- **Dates that are read alike are summed up alike.** -/
theorem addAll_congr (h : ReadAlike zones zones' ns) :
    (addAll zones {} ns).outcome = (addAll zones' {} ns).outcome := by
  induction ns using List.reverseRecOn with
  | nil => rfl
  | append_singleton ns n ih =>
      obtain ⟨hns, hn⟩ := forall_position_concat.mp h
      rw [outcome_addAll_append, outcome_addAll_append, ← ih hns]
      cases hok : (addAll zones {} ns).outcome with
      | error e => rfl
      | ok s =>
          show (s.addAll zones [n]).outcome = (s.addAll zones' [n]).outcome
          rw [outcome_addAll_cons, outcome_addAll_cons, (means_of_addAll hok).add_congr hn]
          rfl

end Summary

/-! ## Identifiers that are asked for -/

/-- The zone in effect is that of an identifier that some date gives. -/
theorem answer_zoneAfter_congr
    (h : ∀ n ∈ ns, n.isDate = true → ∀ tzid, n.parameter? "TZID" = some tzid → tzid ≠ "" →
      zones.answer (some tzid) = zones'.answer (some tzid)) :
    zones.answer (zoneAfter ns) = zones'.answer (zoneAfter ns) := by
  unfold zoneAfter
  cases hlast : lastWith (fun n => n.isDate && (n.parameter? "TZID").isSome) ns with
  | none => rfl
  | some last =>
      obtain ⟨before, n⟩ := last
      obtain ⟨hn, after, rfl, -⟩ := eq_append_of_lastWith hlast
      obtain ⟨hdate, hparameter⟩ := Bool.and_eq_true_iff.mp hn
      obtain ⟨tzid, htzid⟩ := Option.isSome_iff_exists.mp hparameter
      show zones.answer (n.parameter? "TZID") = zones'.answer (n.parameter? "TZID")
      rw [htzid]
      by_cases hempty : tzid = ""
      · simp [Zones.answer, hempty]
      · exact h n (by simp) hdate tzid htzid hempty

/-- A value that ends in a Z is read in universal time, or not at all. -/
theorem readCompact_universal {value : String} (h : value.toList.getLast? = some 'Z')
    (zone zone' : Zone) : readCompact value zone = readCompact value zone' := by
  have hbody : CompactDate.dropFinalLineFeed value.toList = value.toList := by
    rw [CompactDate.dropFinalLineFeed, h, if_neg (by decide)]
  have hshape : CompactDate.isDateShape value.toList = false := by
    have hmem : 'Z' ∈ value.toList := List.mem_of_getLast? h
    rw [CompactDate.isDateShape, Bool.and_eq_false_iff, List.all_eq_false]
    exact Or.inr ⟨'Z', hmem, by decide +kernel⟩
  simp only [readCompact, hbody, hshape, h, if_true, Bool.false_eq_true, if_false]

/-! ## Readers -/

namespace Zones

/-- The lookup with another answer for one identifier. -/
def answering (zones : Zones) (tzid : String) (found : Except HostError (Option Zone)) : Zones :=
  { zones with
    resolver := { zones.resolver with find := Function.update zones.resolver.find tzid found } }

theorem answer_answering {tzid other : String} (hne : other ≠ tzid)
    (found : Except HostError (Option Zone)) :
    (zones.answering tzid found).answer (some other) = zones.answer (some other) := by
  simp only [answer, answering, Function.update_of_ne hne]

end Zones

namespace Reader

variable {r : Reader} {content : Content}

/-- The reader of the same settings with another lookup of zones. -/
def withZones (r : Reader) (zones : Zones) : Reader :=
  { r with zones }

theorem read_withZones_congr (h : ReadAlike zones zones' content.roots) :
    ((r.withZones zones).read content).outcome = ((r.withZones zones').read content).outcome := by
  rcases content.fits_cases r.settings.maxContentBytes with
    ⟨flaw, hbroken⟩ | ⟨size, hsize, hlarge⟩ | hfits
  · rw [read_of_broken hbroken, read_of_broken hbroken]
  · have hread : ∀ zones, (r.withZones zones).read content = _ :=
      fun zones => read_of_tooLarge (r := r.withZones zones) hsize hlarge
    rw [hread, hread]
    rfl
  · cases hnest : (nest r.settings.strictBlocks content.lines).outcome with
    | error e =>
        have hread : ∀ zones, ((r.withZones zones).read content).outcome = .error e := by
          intro zones
          rw [outcome_read_of_fits (r := r.withZones zones) hfits, withZones, hnest]
          rfl
        rw [hread, hread]
    | ok nesting =>
        have hnests : ∀ zones, (r.withZones zones).Nests content nesting :=
          fun _ => ⟨hfits, hnest⟩
        rw [(hnests zones).outcome_read_roots, (hnests zones').outcome_read_roots]
        exact congrArg _ (Summary.addAll_congr h)

/-- The identifiers that dates in no block give first are the only ones that matter. -/
theorem read_withZones_of_agree
    (h : ∀ n ∈ content.rootDates, ∀ tzid, n.parameter? "TZID" = some tzid → tzid ≠ "" →
      zones.answer (some tzid) = zones'.answer (some tzid)) :
    ((r.withZones zones).read content).outcome = ((r.withZones zones').read content).outcome := by
  refine read_withZones_congr ?_
  intro before n after hsplit hdate
  have hzone : zones.answer (zoneAfter (before ++ [n])) =
      zones'.answer (zoneAfter (before ++ [n])) := by
    refine answer_zoneAfter_congr fun m hm hmdate => h m (List.mem_filter.mpr ⟨?_, hmdate⟩)
    rw [hsplit, List.append_cons]
    exact List.mem_append_left after hm
  rw [readingAt, readingAt, Zones.reading, Zones.reading, hzone]

/-- All that does not depend on instants is the same in two documents. -/
theorem same_but_instants {d d' : Document}
    (h : ((r.withZones zones).read content).outcome = .ok d)
    (h' : ((r.withZones zones').read content).outcome = .ok d') :
    d.nodes = d'.nodes ∧ d.root = d'.root ∧ d.summary.dtstart = d'.summary.dtstart ∧
      d.summary.tzid = d'.summary.tzid ∧ d.summary.rrule = d'.summary.rrule ∧
      d.summary.allDay = d'.summary.allDay := by
  obtain ⟨nesting, s, hnests, -, hmeans, rfl⟩ := summed_of_read h
  obtain ⟨nesting', s', hnests', -, hmeans', rfl⟩ := summed_of_read h'
  obtain rfl : nesting = nesting' := Except.ok.inj (hnests.nest.symm.trans hnests'.nest)
  refine ⟨rfl, rfl, hmeans.dtstart.trans hmeans'.dtstart.symm,
    hmeans.tzid.trans hmeans'.tzid.symm, hmeans.rrule.trans hmeans'.rrule.symm, ?_⟩
  exact Bool.eq_iff_iff.mpr (hmeans.allDay.trans hmeans'.allDay.symm)

/-- **A lookup of zones decides the dates in no block, and nothing else.** Two lookups that
give the same zone for every identifier that such a date gives first read a content to the
same document or the same error; no other identifier matters. If the values of these dates
end in a Z, any two lookups that never fail do. Two documents that are read from one content
by different lookups differ in instants and durations only. -/
theorem read_withZones (r : Reader) (content : Content) (zones zones' : Zones) :
    ((∀ n ∈ content.rootDates, ∀ tzid, n.parameter? "TZID" = some tzid → tzid ≠ "" →
        zones.answer (some tzid) = zones'.answer (some tzid)) →
      ((r.withZones zones).read content).outcome =
        ((r.withZones zones').read content).outcome) ∧
    (zones.resolver.Answers → zones'.resolver.Answers →
      (∀ n ∈ content.rootDates, n.value.toList.getLast? = some 'Z') →
      ((r.withZones zones).read content).outcome =
        ((r.withZones zones').read content).outcome) ∧
    (∀ tzid answer, (∀ n ∈ content.rootDates, n.parameter? "TZID" ≠ some tzid) →
      ((r.withZones (zones.answering tzid answer)).read content).outcome =
        ((r.withZones zones).read content).outcome) ∧
    ∀ d d', ((r.withZones zones).read content).outcome = .ok d →
      ((r.withZones zones').read content).outcome = .ok d' →
        d.nodes = d'.nodes ∧ d.root = d'.root ∧ d.summary.dtstart = d'.summary.dtstart ∧
          d.summary.tzid = d'.summary.tzid ∧ d.summary.rrule = d'.summary.rrule ∧
          d.summary.allDay = d'.summary.allDay := by
  refine ⟨read_withZones_of_agree, ?_, ?_, fun d d' => same_but_instants⟩
  · intro hanswers hanswers' huniversal
    refine read_withZones_congr ?_
    intro before n after hsplit hdate
    obtain ⟨zone, hzone⟩ := Zones.exists_answer hanswers (zoneAfter (before ++ [n]))
    obtain ⟨zone', hzone'⟩ := Zones.exists_answer hanswers' (zoneAfter (before ++ [n]))
    rw [readingAt, readingAt, Zones.reading_of_answer hzone, Zones.reading_of_answer hzone']
    refine readCompact_universal (huniversal n (List.mem_filter.mpr ⟨?_, hdate⟩)) _ _
    rw [hsplit]
    exact List.mem_append_right before List.mem_cons_self
  · intro tzid answer hnever
    refine read_withZones_of_agree ?_
    intro n hn other hother _
    refine Zones.answer_answering ?_ answer
    rintro rfl
    exact hnever n hn hother

end Reader

/-! ## Lookups that differ -/

/-- A lookup that knows one zone, and the offset of the fallback zone. -/
def tokyoZones (fallback : Int) : Zones where
  resolver.find tzid := .ok (if tzid = "Asia/Tokyo" then some (.fixed 32400) else none)
  fallback := .fixed fallback

theorem answers_tokyoZones (fallback : Int) : (tokyoZones fallback).resolver.Answers :=
  fun _ => ⟨_, rfl⟩

/-- An unknown zone in a block, on a property that is no date, and in second place. -/
def hiddenZonesText : String :=
  "BEGIN:A\r\nDTSTART;TZID=Mars:20240101T080000\r\nEND:A\r\nX;TZID=Mars:1\r\n" ++
    "DTSTART;TZID=Asia/Tokyo;TZID=Mars:20240101T090000"

/-- Unknown zones on dates in universal time. -/
def universalText : String :=
  "DTSTART;TZID=Mars:20240101T090000Z\r\nDTEND;TZID=Venus:20240101T100000Z"

/-- An unknown zone that is looked up. -/
def unknownZoneText : String := "DTSTART;TZID=Mars:20240101T090000"

theorem rootDates_hiddenZones :
    (Content.text hiddenZonesText).rootDates.map (·.parameter? "TZID") = [some "Asia/Tokyo"] := by
  decide +kernel

theorem parameter?_of_hiddenZones {n : Node} (hn : n ∈ (Content.text hiddenZonesText).rootDates) :
    n.parameter? "TZID" = some "Asia/Tokyo" := by
  have hmem := List.mem_map_of_mem hn (f := (·.parameter? "TZID"))
  rw [rootDates_hiddenZones] at hmem
  exact List.mem_singleton.mp hmem

theorem Reader.read_withZones_mars :
    (tokyoZones 0).answer (some "Mars") ≠ (tokyoZones 7200).answer (some "Mars") ∧
      (((Reader.zoneless {}).withZones (tokyoZones 0)).read (.text hiddenZonesText)).outcome =
        (((Reader.zoneless {}).withZones (tokyoZones 7200)).read (.text hiddenZonesText)).outcome ∧
      (((Reader.zoneless {}).withZones (tokyoZones 0)).read (.text universalText)).outcome =
        (((Reader.zoneless {}).withZones (tokyoZones 7200)).read (.text universalText)).outcome ∧
      (((Reader.zoneless {}).withZones ((tokyoZones 0).answering "Mars" (.ok (some (.fixed 3600))))).read
          (.text hiddenZonesText)).outcome =
        (((Reader.zoneless {}).withZones (tokyoZones 0)).read (.text hiddenZonesText)).outcome ∧
      ∃ d d',
        (((Reader.zoneless {}).withZones (tokyoZones 0)).read (.text unknownZoneText)).outcome = .ok d ∧
        (((Reader.zoneless {}).withZones (tokyoZones 7200)).read (.text unknownZoneText)).outcome =
          .ok d' ∧
        d.summary.start ≠ d'.summary.start ∧ d.nodes = d'.nodes ∧ d.root = d'.root ∧
          d.summary.dtstart = d'.summary.dtstart ∧ d.summary.tzid = d'.summary.tzid ∧
          d.summary.rrule = d'.summary.rrule ∧ d.summary.allDay = d'.summary.allDay := by
  refine ⟨by decide, ?_, ?_, ?_, ?_⟩
  · refine (read_withZones (.zoneless {}) _ _ _).1 ?_
    intro n hn tzid htzid _
    cases htzid.symm.trans (parameter?_of_hiddenZones hn)
    rfl
  · exact (read_withZones (.zoneless {}) _ _ _).2.1 (answers_tokyoZones 0)
      (answers_tokyoZones 7200) (by decide +kernel)
  · refine (read_withZones (.zoneless {}) _ _ (tokyoZones 0)).2.2.1 "Mars" _ ?_
    intro n hn
    rw [parameter?_of_hiddenZones hn]
    decide
  · obtain ⟨d, hd⟩ : ∃ d,
        (((Reader.zoneless {}).withZones (tokyoZones 0)).read (.text unknownZoneText)).outcome = .ok d :=
      exists_eq_ok (by decide +kernel)
    obtain ⟨d', hd'⟩ : ∃ d,
        (((Reader.zoneless {}).withZones (tokyoZones 7200)).read (.text unknownZoneText)).outcome =
          .ok d :=
      exists_eq_ok (by decide +kernel)
    have hstart : (((Reader.zoneless {}).withZones (tokyoZones 0)).read
        (.text unknownZoneText)).outcome.map (·.summary.start) ≠
          (((Reader.zoneless {}).withZones (tokyoZones 7200)).read
            (.text unknownZoneText)).outcome.map (·.summary.start) := by
      decide +kernel
    rw [hd, hd'] at hstart
    refine ⟨d, d', hd, hd', ?_, (read_withZones (.zoneless {}) _ _ _).2.2.2 d d' hd hd'⟩
    exact fun heq => hstart (congrArg Except.ok heq)

end VCalendar
