import Mathlib.Control.Monad.Basic
import VCalendar.Proofs.Document.Navigation
import VCalendar.Proofs.Summary.LastWins
import VCalendar.Proofs.Time.ZoneNames

/-!
# Reading a content

What becomes of a content, in the order in which it is looked at: its encoding and size, its
lines, the blocks that they nest in, and the dates among its root-level nodes. Main statements:
the summary of a document that has been read says what its root-level nodes mean, and
every error has a diagnostic except that of a text without an encoding, of a span that leaves
the calendar, and of a lookup of zones that fails.
-/

namespace VCalendar

variable {r : Reader} {content : Content} {nesting : Nesting} {d : Document}

/-! ## Root-level nodes -/

/-- The root-level nodes of a finished nesting. -/
def Nesting.rootNodes (n : Nesting) : List Node :=
  n.roots.filterMap fun i => n.nodes[i.toNat]?

theorem Document.nodesAt_eq_filterMap {positions : List Int}
    (h : ∀ x ∈ positions, ∃ (i : Nat) (n : Node), x = i ∧ d.nodes[i]? = some n) :
    d.nodesAt positions = .ok (positions.filterMap fun i => d.nodes[i.toNat]?) := by
  induction positions with
  | nil => rfl
  | cons x positions ih =>
      obtain ⟨⟨i, n, rfl, hi⟩, hrest⟩ := List.forall_mem_cons.mp h
      have hnodes := ih hrest
      unfold nodesAt at hnodes ⊢
      rw [List.mapM_cons, node_eq_ok hi, hnodes, List.filterMap_cons, Int.toNat_natCast, hi]
      rfl

theorem Document.Arena.properties_eq_rootNodes {s : Summary}
    (h : (⟨nesting.nodes, nesting.roots, s⟩ : Document).Arena) :
    (⟨nesting.nodes, nesting.roots, s⟩ : Document).properties = .ok nesting.rootNodes := by
  apply Document.nodesAt_eq_filterMap
  intro x hx
  rw [h.root] at hx
  obtain ⟨i, n, hxi, hi, -⟩ := mem_positionsIn.mp hx
  exact ⟨i, n, hxi, hi⟩

/-! ## What becomes of a content -/

/-- Whether an error is about dates, which are looked at last. -/
def ReadError.concernsDates : ReadError → Bool
  | .badDate _ | .badSpan _ | .lookup _ => true
  | _ => false

theorem FirstFlaw.concernsDates {zones : Zones} {ns before : List Node} {n : Node} {e : ReadError}
    (h : FirstFlaw zones ns before n e) : e.concernsDates = true := by
  cases flawAt_eq_some_iff.mp h.flaw <;> rfl

namespace Reader

/-- A content fits, and its lines nest. -/
structure Nests (r : Reader) (content : Content) (nesting : Nesting) : Prop where
  fits : content.Fits r.settings.maxContentBytes
  nest : (nest r.settings.strictBlocks content.lines).outcome = .ok nesting

/-- What a reader makes of a content, in the order in which it looks for errors. -/
inductive Reads (r : Reader) (content : Content) (read : Except ReadError Document) : Prop
  | unencodable (flaw : Text.EncodingFlaw) : content.size = .error flaw →
      read = .error (.unencodable flaw) → Reads r content read
  | tooLarge (size : Nat) : content.size = .ok size → r.settings.maxContentBytes < size →
      read = .error (.tooLarge size r.settings.maxContentBytes) → Reads r content read
  | malformed (cause : MalformedLine) : content.Fits r.settings.maxContentBytes →
      (Reader.nest r.settings.strictBlocks content.lines).outcome = .error (.malformed cause) →
      read = .error (.malformed cause) → Reads r content read
  | unbalanced (cause : Imbalance) : content.Fits r.settings.maxContentBytes →
      (Reader.nest r.settings.strictBlocks content.lines).outcome = .error (.unbalanced cause) →
      read = .error (.unbalanced cause) → Reads r content read
  | flawed (nesting : Nesting) (before : List Node) (n : Node) (e : ReadError) :
      r.Nests content nesting → FirstFlaw r.zones nesting.rootNodes before n e →
      read = .error e → Reads r content read
  | summed (nesting : Nesting) (s : Summary) : r.Nests content nesting →
      Flawless r.zones nesting.rootNodes → s.Means r.zones nesting.rootNodes →
      read = .ok ⟨nesting.nodes, nesting.roots, s⟩ → Reads r content read

theorem outcome_documentOf (zones : Zones) (n : Nesting) :
    (documentOf zones n).outcome =
      (Summary.addAll zones {} n.rootNodes).outcome.map fun s => ⟨n.nodes, n.roots, s⟩ := by
  rw [documentOf, documentFrom, Report.outcome_bind]
  show (Summary.addAll zones {} n.rootNodes).outcome >>= _ = _
  cases (Summary.addAll zones {} n.rootNodes).outcome <;> rfl

theorem Nests.outcome_read (h : r.Nests content nesting) :
    (r.read content).outcome =
      (Summary.addAll r.zones {} nesting.rootNodes).outcome.map
        fun s => ⟨nesting.nodes, nesting.roots, s⟩ := by
  rw [outcome_read_of_fits h.fits, h.nest]
  exact outcome_documentOf r.zones nesting

theorem reads (r : Reader) (content : Content) : r.Reads content (r.read content).outcome := by
  rcases content.fits_cases r.settings.maxContentBytes with
    ⟨flaw, hbroken⟩ | ⟨size, hsize, hlarge⟩ | hfits
  · exact .unencodable flaw hbroken (congrArg Report.outcome (read_of_broken hbroken))
  · exact .tooLarge size hsize hlarge (congrArg Report.outcome (read_of_tooLarge hsize hlarge))
  · cases hnest : (nest r.settings.strictBlocks content.lines).outcome with
    | error e =>
        have hread : (r.read content).outcome = .error e := by
          rw [outcome_read_of_fits hfits, hnest]
          rfl
        rcases nest_eq_error hnest with ⟨cause, rfl⟩ | ⟨cause, rfl⟩
        · exact .malformed cause hfits hnest hread
        · exact .unbalanced cause hfits hnest hread
    | ok nesting =>
        have hnests : r.Nests content nesting := ⟨hfits, hnest⟩
        have hread := hnests.outcome_read
        rcases flawless_or_firstFlaw r.zones nesting.rootNodes with hns | ⟨before, n, e, hfirst⟩
        · obtain ⟨s, hok, hmeans⟩ := Summary.addAll_of_flawless hns
          rw [hok] at hread
          exact .summed nesting s hnests hns hmeans hread
        · rw [hfirst.outcome_addAll] at hread
          exact .flawed nesting before n e hnests hfirst hread

theorem summed_of_read (h : (r.read content).outcome = .ok d) :
    ∃ nesting s, r.Nests content nesting ∧ Flawless r.zones nesting.rootNodes ∧
      s.Means r.zones nesting.rootNodes ∧ d = ⟨nesting.nodes, nesting.roots, s⟩ := by
  cases r.reads content with
  | unencodable _ _ herror => cases h.symm.trans herror
  | tooLarge _ _ _ herror => cases h.symm.trans herror
  | malformed _ _ _ herror => cases h.symm.trans herror
  | unbalanced _ _ _ herror => cases h.symm.trans herror
  | flawed _ _ _ _ _ _ herror => cases h.symm.trans herror
  | summed nesting s hnests hns hmeans hok =>
      cases h.symm.trans hok
      exact ⟨nesting, s, hnests, hns, hmeans, rfl⟩

/-- An error about dates is that of the first root-level node with a flaw. -/
theorem flawed_of_read {e : ReadError} (h : (r.read content).outcome = .error e)
    (hdates : e.concernsDates = true) :
    ∃ nesting before n after, r.Nests content nesting ∧
      nesting.rootNodes = before ++ n :: after ∧ Flawless r.zones before ∧
      FlawOf r.zones before n e := by
  cases r.reads content with
  | unencodable _ _ herror =>
      cases h.symm.trans herror
      cases hdates
  | tooLarge _ _ _ herror =>
      cases h.symm.trans herror
      cases hdates
  | malformed _ _ _ herror =>
      cases h.symm.trans herror
      cases hdates
  | unbalanced _ _ _ herror =>
      cases h.symm.trans herror
      cases hdates
  | flawed nesting before n _ hnests hfirst herror =>
      cases h.symm.trans herror
      obtain ⟨⟨after, hsplit⟩, hbefore, hn⟩ := hfirst
      exact ⟨nesting, before, n, after, hnests, hsplit, hbefore, flawAt_eq_some_iff.mp hn⟩
  | summed _ _ _ _ _ hok => cases h.symm.trans hok

/-- There is a content, so it is not missing. -/
theorem read_ne_missing (r : Reader) (content : Content) :
    (r.read content).outcome ≠ .error .missing := by
  intro h
  cases r.reads content with
  | unencodable _ _ herror => cases h.symm.trans herror
  | tooLarge _ _ _ herror => cases h.symm.trans herror
  | malformed _ _ _ herror => cases h.symm.trans herror
  | unbalanced _ _ _ herror => cases h.symm.trans herror
  | flawed _ _ _ _ _ hfirst herror =>
      cases h.symm.trans herror
      cases hfirst.concernsDates
  | summed _ _ _ _ _ hok => cases h.symm.trans hok

end Reader

/-- **The last one wins.** All dates among the root-level nodes of a document that has
been read can be read, and its summary says what these nodes mean. The error of a date
that cannot be read is that of the first such root-level node, and its diagnostic shows
the name and the line of the node. -/
theorem Reader.summary_means_of_read (r : Reader) (content : Content) :
    (∀ d, (r.read content).outcome = .ok d →
        ∃ ns, d.properties = .ok ns ∧ Flawless r.zones ns ∧ d.summary.Means r.zones ns) ∧
      ∀ cause, (r.read content).outcome = .error (.badDate cause) →
        ∃ nesting before n after, r.Nests content nesting ∧
          nesting.rootNodes = before ++ n :: after ∧ Flawless r.zones before ∧
          n.isDate = true ∧ (∃ flaw, readingAt r.zones before n = .error flaw ∧ flaw.OfText) ∧
          ∃ d, (ReadError.badDate cause).diagnostic? = some d ∧ d.kind = .dateTime ∧
            d.property = some n.name ∧ d.lineNumber = some n.lineNumber := by
  constructor
  · intro d hd
    have harena := arena_of_read hd
    obtain ⟨nesting, s, -, hns, hmeans, rfl⟩ := summed_of_read hd
    exact ⟨nesting.rootNodes, harena.properties_eq_rootNodes, hns, hmeans⟩
  · intro cause hcause
    obtain ⟨nesting, before, n, after, hnests, hsplit, hbefore, hn⟩ := flawed_of_read hcause rfl
    cases hn with
    | date flaw hdate hreading htext =>
        exact ⟨nesting, before, n, after, hnests, hsplit, hbefore, hdate,
          ⟨flaw, hreading, htext⟩, _, rfl, rfl, rfl, rfl⟩

/-! ## A zone that stays in effect -/

/-- A lookup that knows one zone, nine hours east. -/
def eastZones : Zones where
  resolver.find tzid := .ok (if tzid = "East" then some (.fixed 32400) else none)
  fallback := .utc

def eastReader : Reader := ⟨{}, eastZones⟩

/-- A whole day and a time of another day, both in the zone given first, and two ends and
a duration, of which the last counts. -/
def eastText : String :=
  "DTSTART;TZID=East:20230615\r\nDTEND:20230615T100000\r\nDTSTART:20230616T090000\r\n" ++
    "DURATION:PT5M\r\nBEGIN:X\r\nDTSTART:none\r\nEND:X\r\nDTEND:20230616T000100Z\r\n" ++
    "RRULE:FREQ=DAILY\r\n"

def eastSummary : Summary where
  dtstart := some "20230616T090000"
  tzid := some "East"
  duration := some "+P60S"
  rrule := some "FREQ=DAILY"
  allDay := true
  start := some ⟨⟨⟨2023, 6, 16, by decide⟩, ⟨9, 0, 0, 0, by decide⟩⟩, .fixed 32400⟩

/-- An end on a day that June does not have. -/
def longJuneText : String :=
  "BEGIN:X\r\nDTSTART:none\r\nEND:X\r\nDTSTART:20230615\r\nDTEND:20230631\r\nDTEND:none"

theorem Reader.summary_means_of_read_east :
    (∃ d ns, (eastReader.read (.text eastText)).outcome = .ok d ∧ d.summary = eastSummary ∧
        d.properties = .ok ns ∧ eastSummary.Means eastReader.zones ns) ∧
      ∃ nesting before n after, eastReader.Nests (.text longJuneText) nesting ∧
        nesting.rootNodes = before ++ n :: after ∧ Flawless eastReader.zones before ∧
        n.isDate = true ∧ n.name = "DTEND" ∧ n.lineNumber = 5 := by
  have heast : (eastReader.read (.text eastText)).outcome.map (·.summary) = .ok eastSummary := by
    decide +kernel
  have hjune : (eastReader.read (.text longJuneText)).outcome =
      .error (.badDate ⟨5, "DTEND", "20230631"⟩) := by
    decide +kernel
  constructor
  · cases hread : (eastReader.read (.text eastText)).outcome with
    | error e =>
        rw [hread] at heast
        cases heast
    | ok d =>
        rw [hread] at heast
        have hsummary : d.summary = eastSummary := Except.ok.inj heast
        obtain ⟨ns, hns, -, hmeans⟩ := (Reader.summary_means_of_read eastReader _).1 d hread
        exact ⟨d, ns, rfl, hsummary, hns, hsummary ▸ hmeans⟩
  · obtain ⟨nesting, before, n, after, hnests, hsplit, hbefore, hdate, -, d, hd, -, hname, hline⟩ :=
      (Reader.summary_means_of_read eastReader _).2 _ hjune
    cases hd
    exact ⟨nesting, before, n, after, hnests, hsplit, hbefore, hdate,
      (Option.some.inj hname).symm, (Option.some.inj hline).symm⟩

/-! ## Errors without a diagnostic -/

/-- The first flaw of a content is a span that leaves the calendar: all dates up to some
end can be read, but this end or the last start before it lies outside the calendar once
it is expressed in universal time. -/
def Reader.LeavesCalendar (r : Reader) (content : Content) : Prop :=
  ∃ nesting before finish after start reading,
    r.Nests content nesting ∧ nesting.rootNodes = before ++ finish :: after ∧
      Flawless r.zones before ∧ finish.isFinish = true ∧ startAfter r.zones before = some start ∧
      readingAt r.zones before finish = .ok reading ∧
      ¬ (start.InCalendar ∧ reading.instant.InCalendar)

/-- The first flaw of a content is a lookup that fails: it is asked for the identifier in
effect at some date. -/
def Reader.FailsToLookUp (r : Reader) (content : Content) (cause : HostError) : Prop :=
  ∃ nesting before n after tzid,
    r.Nests content nesting ∧ nesting.rootNodes = before ++ n :: after ∧
      Flawless r.zones before ∧ n.isDate = true ∧ zoneAfter (before ++ [n]) = some tzid ∧
      tzid ≠ "" ∧ r.zones.resolver.find tzid = .error cause

/-- A lookup that never fails. -/
def Resolver.Answers (resolver : Resolver) : Prop :=
  ∀ tzid, ∃ zone, resolver.find tzid = .ok zone

namespace Zones

variable {zones : Zones} {tzid : Option String} {cause : HostError}

theorem answer_eq_error_iff :
    zones.answer tzid = .error cause ↔
      ∃ name, tzid = some name ∧ name ≠ "" ∧ zones.resolver.find name = .error cause := by
  cases tzid with
  | none => exact iff_of_false nofun nofun
  | some name =>
      unfold answer
      by_cases hempty : name = ""
      · simp [hempty]
      · cases hfind : zones.resolver.find name <;> simp [hempty, hfind, Except.map]

theorem exists_answer (h : zones.resolver.Answers) (tzid : Option String) :
    ∃ zone, zones.answer tzid = .ok zone := by
  cases hanswer : zones.answer tzid with
  | ok zone => exact ⟨zone, rfl⟩
  | error cause =>
      obtain ⟨name, -, -, hfails⟩ := answer_eq_error_iff.mp hanswer
      obtain ⟨zone, hzone⟩ := h name
      cases hfails.symm.trans hzone

end Zones

namespace Reader

/-- An error that ends the reading in the dates is that of a first flaw, and the other way
around. -/
theorem read_eq_error_iff_flawOf {e : ReadError} (hdates : e.concernsDates = true) :
    (r.read content).outcome = .error e ↔
      ∃ nesting before n after, r.Nests content nesting ∧
        nesting.rootNodes = before ++ n :: after ∧ Flawless r.zones before ∧
        FlawOf r.zones before n e := by
  refine ⟨fun h => flawed_of_read h hdates, ?_⟩
  rintro ⟨nesting, before, n, after, hnests, hsplit, hbefore, hn⟩
  have hfirst : FirstFlaw r.zones nesting.rootNodes before n e :=
    ⟨⟨after, hsplit⟩, hbefore, flawAt_eq_some_iff.mpr hn⟩
  rw [hnests.outcome_read, hfirst.outcome_addAll]
  rfl

theorem badSpan_iff_leavesCalendar (r : Reader) (content : Content) :
    (r.read content).outcome = .error (.badSpan .outOfCalendar) ↔ r.LeavesCalendar content := by
  rw [read_eq_error_iff_flawOf rfl]
  constructor
  · rintro ⟨nesting, before, n, after, hnests, hsplit, hbefore, hn⟩
    cases hn with
    | span start reading hfinish hstart hreading houtside =>
        exact ⟨nesting, before, n, after, start, reading, hnests, hsplit, hbefore, hfinish,
          hstart, hreading, houtside⟩
  · rintro ⟨nesting, before, n, after, start, reading, hnests, hsplit, hbefore, hfinish, hstart,
      hreading, houtside⟩
    exact ⟨nesting, before, n, after, hnests, hsplit, hbefore,
      .span start reading hfinish hstart hreading houtside⟩

theorem lookup_iff_failsToLookUp (r : Reader) (content : Content) (cause : HostError) :
    (r.read content).outcome = .error (.lookup cause) ↔ r.FailsToLookUp content cause := by
  rw [read_eq_error_iff_flawOf rfl]
  constructor
  · rintro ⟨nesting, before, n, after, hnests, hsplit, hbefore, hn⟩
    cases hn with
    | lookup _ hdate hreading =>
        obtain ⟨tzid, htzid, hne, hfails⟩ :=
          Zones.answer_eq_error_iff.mp (Zones.reading_eq_unanswered_iff.mp hreading)
        exact ⟨nesting, before, n, after, tzid, hnests, hsplit, hbefore, hdate, htzid, hne,
          hfails⟩
  · rintro ⟨nesting, before, n, after, tzid, hnests, hsplit, hbefore, hdate, htzid, hne, hfails⟩
    have hanswer : r.zones.answer (zoneAfter (before ++ [n])) = .error cause :=
      Zones.answer_eq_error_iff.mpr ⟨tzid, htzid, hne, hfails⟩
    exact ⟨nesting, before, n, after, hnests, hsplit, hbefore,
      .lookup cause hdate (Zones.reading_of_failure hanswer)⟩

/-- Only a text with a surrogate has no encoding. -/
theorem unencodable_iff_broken (r : Reader) (content : Content) (flaw : Text.EncodingFlaw) :
    (r.read content).outcome = .error (.unencodable flaw) ↔
      ∃ s : Text.BrokenText, content = .broken s ∧ s.flaw = flaw := by
  constructor
  · intro h
    cases r.reads content with
    | unencodable flaw' hbroken herror =>
        cases h.symm.trans herror
        cases content with
        | broken s =>
            cases hbroken
            exact ⟨s, rfl, rfl⟩
        | text | bytes => cases hbroken
    | tooLarge _ _ _ herror => cases h.symm.trans herror
    | malformed _ _ _ herror => cases h.symm.trans herror
    | unbalanced _ _ _ herror => cases h.symm.trans herror
    | flawed _ _ _ _ _ hfirst herror =>
        cases h.symm.trans herror
        cases hfirst.concernsDates
    | summed _ _ _ _ _ hok => cases h.symm.trans hok
  · rintro ⟨s, rfl, rfl⟩
    rfl

end Reader

/-- The rules of the zone of Tokyo: local mean time, then nine hours east, with an hour of
daylight time in the summers of four years. -/
def tokyoRules : ZoneRules where
  initial := 33539
  transitions :=
    [⟨-2587712400, 32400⟩, ⟨-683802000, 36000⟩, ⟨-672310800, 32400⟩, ⟨-654771600, 36000⟩,
      ⟨-640861200, 32400⟩, ⟨-620298000, 36000⟩, ⟨-609411600, 32400⟩, ⟨-588848400, 36000⟩,
      ⟨-577962000, 32400⟩]
  tail := .constant 32400

/-- A database that knows Tokyo. -/
def ZoneName.Database.tokyo : Database HostError :=
  single "Asia/Tokyo" tokyoRules

/-- An hour in Tokyo at the beginning of the calendar. -/
def firstHourText : String :=
  "DTSTART;TZID=Asia/Tokyo:00010101T000000\r\nDTEND;TZID=Asia/Tokyo:00010101T010000\r\n"

/-- A text of one surrogate. -/
def loneSurrogate : Text.BrokenText :=
  ⟨[], ⟨0xd800, by decide, by decide⟩, []⟩

end VCalendar
