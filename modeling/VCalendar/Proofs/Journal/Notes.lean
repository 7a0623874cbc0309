import VCalendar.Reader

/-!
# What a reading notes

A property of events carries over from the parts of a report to the whole. Main statement:
the events of a reading are those of the reader, of the dates and of the zones.
-/

namespace VCalendar

variable {ε ε' α β : Type} {p : Event → Prop}

/-! ## Reports -/

/-- Every event of a report has a property. -/
def Report.Notes (p : Event → Prop) (r : Report ε α) : Prop :=
  ∀ event ∈ r.events, p event

namespace Report

theorem notes_pure (a : α) : (pure a : Report ε α).Notes p :=
  fun _ h => nomatch h

theorem notes_fail (e : ε) : (fail e : Report ε α).Notes p :=
  fun _ h => nomatch h

theorem notes_ofExcept (x : Except ε α) : (ofExcept x).Notes p :=
  fun _ h => nomatch h

theorem notes_note {event : Event} (h : p event) : (note event : Report ε Unit).Notes p :=
  List.forall_mem_singleton.mpr h

theorem Notes.mapError {r : Report ε α} (h : r.Notes p) (f : ε → ε') : (r.mapError f).Notes p :=
  h

theorem Notes.bind_outcome {r : Report ε α} {f : α → Report ε β} (hr : r.Notes p)
    (hf : ∀ a, r.outcome = .ok a → (f a).Notes p) : (r >>= f).Notes p := by
  intro event hevent
  rw [events_bind] at hevent
  split at hevent
  · exact hr event hevent
  · rename_i a ha
    rcases List.mem_append.mp hevent with hevent | hevent
    · exact hr event hevent
    · exact hf a ha event hevent

theorem Notes.bind {r : Report ε α} {f : α → Report ε β} (hr : r.Notes p)
    (hf : ∀ a, (f a).Notes p) : (r >>= f).Notes p :=
  hr.bind_outcome fun a _ => hf a

end Report

/-! ## Dates -/

section Dates

variable {zones : Zones}

/-- Whatever the dates of a document give to note has a property. -/
structure Zones.Notes (zones : Zones) (p : Event → Prop) : Prop where
  trace : ∀ tzid, ∀ event ∈ zones.resolver.trace tzid, p event
  unknownZone : ∀ tzid substitute, p (.unknownZone tzid substitute)
  dateRead : ∀ value tzid instant, p (.dateRead value tzid instant)
  badDate : ∀ name value line, p (.badDate name value line)

theorem Zones.Notes.zoneEvents (h : zones.Notes p) (tzid : Option String) :
    ∀ event ∈ zones.zoneEvents tzid, p event := by
  intro event hevent
  unfold Zones.zoneEvents at hevent
  split at hevent
  · cases hevent
  · split at hevent
    · cases hevent
    · rcases List.mem_append.mp hevent with hevent | hevent
      · exact h.trace _ event hevent
      · split at hevent
        · rw [List.mem_singleton.mp hevent]
          exact h.unknownZone _ _
        · cases hevent
        · cases hevent

theorem Zones.Notes.readDate (h : zones.Notes p) (value : String) (tzid : Option String) :
    (zones.readDate value tzid).Notes p := by
  refine Report.Notes.bind (r := Report.noteAll _) (h.zoneEvents tzid) fun _ => ?_
  refine (Report.notes_ofExcept _).bind fun reading => ?_
  exact (Report.notes_note (h.dateRead _ _ _)).bind fun _ => Report.notes_pure reading

theorem Summary.notes_readDate (h : zones.Notes p) (s : Summary) (n : Node) :
    (Summary.readDate zones s n).Notes p := by
  have hreport := h.readDate n.value s.tzid
  unfold Summary.readDate
  dsimp only
  split
  · exact hreport
  · exact hreport
  · intro event hevent
    rcases List.mem_append.mp hevent with hevent | hevent
    · exact hreport event hevent
    · rw [List.mem_singleton.mp hevent]
      exact h.badDate _ _ _

theorem Summary.notes_add (h : zones.Notes p) (s : Summary) (n : Node) :
    (s.add zones n).Notes p := by
  unfold Summary.add
  split
  · exact (Summary.notes_readDate h _ n).bind fun reading => Report.notes_pure _
  · split
    · refine (Summary.notes_readDate h _ n).bind fun reading => ?_
      exact (Report.notes_ofExcept _).bind fun duration => Report.notes_pure _
    · split
      · exact Report.notes_pure _
      · split <;> exact Report.notes_pure _

theorem Summary.notes_addAll (h : zones.Notes p) (s : Summary) (nodes : List Node) :
    (s.addAll zones nodes).Notes p := by
  induction nodes generalizing s with
  | nil => exact Report.notes_pure s
  | cons n rest ih => exact (s.notes_add h n).bind ih

theorem Reader.notes_documentFrom (h : zones.Notes p) (hread : ∀ digest, p (.documentRead digest))
    (nodes : Array Node) (root : List Int) : (documentFrom zones nodes root).Notes p := by
  refine (Summary.notes_addAll h {} _).bind fun summary => ?_
  exact (Report.notes_note (hread _)).bind fun _ => Report.notes_pure _

end Dates

/-- A lookup of a zone name gives only the question to the database to note. -/
theorem ZoneName.Database.eq_zoneLookup {db : Database ε} {name : String} {event : Event}
    (h : event ∈ db.lookupEvents name) : ∃ c known, event = .zoneLookup c known := by
  unfold lookupEvents at h
  dsimp only at h
  split at h
  · cases h
  · split at h
    · exact ⟨_, _, List.mem_singleton.mp h⟩
    · cases h

/-! ## Lines -/

section Lines

variable {strict : Bool}

theorem Builder.notes_add (hstray : ∀ name line, p (.strayEnd name line)) (b : Builder)
    (token : Token) (number : Nat) (line : String) : (b.add strict token number line).Notes p := by
  unfold add close
  split
  · split
    · split
      · exact Report.notes_fail _
      · exact (Report.notes_note (hstray _ _)).bind fun _ => Report.notes_pure b
    · dsimp only
      split
      · exact Report.notes_fail _
      · exact Report.notes_pure _
  · exact Report.notes_pure _

theorem Builder.notes_finish (hopen : ∀ blocks, p (.stillOpen blocks)) (b : Builder) :
    (b.finish strict).Notes p := by
  unfold finish
  split
  · exact Report.notes_pure ()
  · split
    · exact Report.notes_fail _
    · exact Report.notes_note (hopen _)

theorem Reader.notes_buildLines (hstray : ∀ name line, p (.strayEnd name line)) (b : Builder)
    (lines : List (String × Nat)) : (buildLines strict b lines).Notes p := by
  induction lines generalizing b with
  | nil => exact Report.notes_pure b
  | cons numbered rest ih =>
      unfold buildLines
      split
      · exact ih b
      · refine Report.Notes.bind ?_ ih
        unfold buildLine
        split
        · exact Report.notes_fail _
        · exact (b.notes_add hstray _ _ _).mapError _

theorem Reader.notes_build (hstray : ∀ name line, p (.strayEnd name line))
    (hopen : ∀ blocks, p (.stillOpen blocks)) (lines : List String) :
    (build strict lines).Notes p := by
  refine (notes_buildLines hstray _ _).bind fun b => ?_
  exact ((b.notes_finish hopen).mapError _).bind fun _ => Report.notes_pure b

end Lines

/-! ## Readings -/

/-- Whether an event belongs to the reader, to the dates or to the zones. -/
def Event.concernsReading (event : Event) : Bool :=
  match event.logger with
  | .reader | .dates | .zones => true
  | .root | .settings | .logging | .command => false

theorem ZoneName.Database.concernsReading_lookupEvents (db : Database ε) (name : String) :
    ∀ event ∈ db.lookupEvents name, event.concernsReading = true := by
  intro event hevent
  obtain ⟨c, known, rfl⟩ := eq_zoneLookup hevent
  rfl

theorem ZoneName.Database.concernsReading_fallback (db : Database ε) (name : String) :
    (db.fallback name).Notes (·.concernsReading = true) := by
  refine Report.Notes.bind (r := Report.noteAll _) (db.concernsReading_lookupEvents name)
    fun _ => ?_
  refine (Report.notes_ofExcept _).bind fun zone => ?_
  cases zone with
  | none =>
      exact Report.Notes.bind (r := Report.note _) (Report.notes_note rfl)
        fun _ => Report.notes_pure _
  | some zone => exact Report.notes_pure zone

/-- **What a reading notes.** -/
theorem Reader.concernsReading_read {r : Reader}
    (htrace : ∀ tzid, ∀ event ∈ r.zones.resolver.trace tzid, event.concernsReading = true)
    (content : Content) : (r.read content).Notes (·.concernsReading = true) := by
  have hzones : r.zones.Notes (·.concernsReading = true) :=
    ⟨htrace, fun _ _ => rfl, fun _ _ _ => rfl, fun _ _ _ => rfl⟩
  unfold read
  split
  · exact Report.notes_fail _
  · split
    · refine Report.Notes.bind ?_ fun _ => Report.notes_fail _
      exact Report.notes_note rfl
    · refine Report.Notes.bind ?_ fun _ => ?_
      · exact Report.notes_note rfl
      · refine Report.Notes.bind ?_ fun b => ?_
        · exact notes_build (fun _ _ => rfl) (fun _ => rfl) _
        · exact notes_documentFrom hzones (fun _ => rfl) _ _

theorem Reader.resolver_of_configured {db : ZoneName.Database HostError} {settings : Settings}
    {resolver : Resolver} {r : Reader}
    (h : (((configured db settings resolver).mapError ReadError.lookup).outcome = .ok r)) :
    r.zones.resolver = resolver := by
  have h : (configured db settings resolver).outcome.mapError ReadError.lookup = .ok r := h
  rw [configured, Report.outcome_bind] at h
  cases hfallback : (db.fallback settings.fallbackTimezone).outcome with
  | error e =>
      rw [hfallback] at h
      cases h
  | ok zone =>
      rw [hfallback] at h
      cases h
      rfl

/-- What a reader notes that looks for zones in a database. -/
theorem Reader.concernsReading_configured (db : ZoneName.Database HostError)
    (settings : Settings) (content : Content) :
    ((configured db settings db.resolver).mapError ReadError.lookup >>=
      fun r => r.read content).Notes (·.concernsReading = true) := by
  have hconfigured : (configured db settings db.resolver).Notes (·.concernsReading = true) :=
    (db.concernsReading_fallback _).bind fun _ => Report.notes_pure _
  refine (hconfigured.mapError _).bind_outcome fun r hr => ?_
  refine concernsReading_read (fun tzid => ?_) content
  rw [resolver_of_configured hr]
  exact db.concernsReading_lookupEvents tzid

end VCalendar
