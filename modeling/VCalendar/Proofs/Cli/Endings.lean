import VCalendar.Cli.Command
import VCalendar.Proofs.Document.Outline
import VCalendar.Proofs.Settings.Stability
import VCalendar.Proofs.Summary.Reading
import VCalendar.Standard.Platform

/-!
# How a run ends

A run loads its settings, takes its input, reads the document and prints the outline; what
it logs on the way changes nothing. Main statement: on every platform, a run whose arguments
make sense prints the whole outline of its document and ends with 0, or prints nothing, says
why and ends with 1, unless one of a few faults goes unreported.

The fallback zone of loaded settings was looked up when they were made, so looking it up once
more cannot fail: behind the settings there always is a reader.
-/

namespace VCalendar.Cli

variable {p : Platform} {w : Surroundings} {stdin : Content} {o : Options} {s : Settings}
  {bytes : ByteArray} {d : Document} {r : Reader}

/-! ## Outlines -/

theorem outline_of_read {content : Content} (h : (r.read content).outcome = .ok d) :
    ∃ lines, d.outline = .ok lines := by
  obtain ⟨_, hpreordered⟩ := Document.preordered_of_read h
  exact ⟨_, hpreordered.outline_eq (arena_of_read h)⟩

/-! ## What a run goes through -/

/-- The reader of a run: it has the loaded settings, strict if this is asked for, the lookup
of the platform, and the zone that the settings name to fall back on. -/
inductive HasReader (p : Platform) (w : Surroundings) (o : Options) : Reader → Prop
  | intro {s : Settings} {zone : Zone} : (Settings.loadOn p w o.config).outcome = .ok s →
      p.host.database.resolve s.fallbackTimezone = .ok (some zone) →
      HasReader p w o ⟨effectiveSettings o s, p.host.database.resolver, zone⟩

/-- A run gets at a document: its settings can be loaded, there is an input, and their reader
makes a document of it. -/
inductive Obtains (p : Platform) (w : Surroundings) (stdin : Content) (o : Options)
    (d : Document) : Prop
  | intro {r : Reader} {bytes : ByteArray} : HasReader p w o r → input w stdin o = .ok bytes →
      (r.read (.bytes bytes)).outcome = .ok d → Obtains p w stdin o d

theorem fallbackTimezone_effectiveSettings (o : Options) (s : Settings) :
    (effectiveSettings o s).fallbackTimezone = s.fallbackTimezone := by
  unfold effectiveSettings
  split <;> rfl

/-- Settings that have been loaded name a known zone. -/
theorem fallback_of_loadOn (hload : (Settings.loadOn p w o.config).outcome = .ok s) :
    ∃ zone, p.host.database.resolve s.fallbackTimezone = .ok (some zone) ∧
      p.host.database.fallback s.fallbackTimezone =
        ⟨p.host.database.lookupEvents s.fallbackTimezone, .ok zone⟩ := by
  cases Settings.loads p w o.config with
  | unread cause _ herror => cases hload.symm.trans herror
  | refused m cause _ _ herror => cases hload.symm.trans herror
  | loaded m s' _ hsettings hok =>
      cases hload.symm.trans hok
      exact (Settings.Made.of_coerce hsettings).coerced.fallback_eq

theorem exists_hasReader (hload : (Settings.loadOn p w o.config).outcome = .ok s) :
    ∃ zone, HasReader p w o ⟨effectiveSettings o s, p.host.database.resolver, zone⟩ ∧
      ∀ bytes, (readInput p.host.database (effectiveSettings o s) bytes).outcome =
        (Reader.read ⟨effectiveSettings o s, p.host.database.resolver, zone⟩
          (.bytes bytes)).outcome := by
  obtain ⟨zone, hresolve, hfallback⟩ := fallback_of_loadOn hload
  refine ⟨zone, .intro hload hresolve, fun bytes => ?_⟩
  have hconfigured : ((Reader.configured p.host.database (effectiveSettings o s)
      p.host.database.resolver).mapError ReadError.lookup).outcome =
        .ok ⟨effectiveSettings o s, p.host.database.resolver, zone⟩ := by
    rw [Reader.configured, fallbackTimezone_effectiveSettings, hfallback]
    rfl
  rw [readInput, Report.outcome_bind, hconfigured]
  rfl

theorem HasReader.unique {r' : Reader} (hr : HasReader p w o r) (hr' : HasReader p w o r') :
    r = r' := by
  obtain ⟨hload, hresolve⟩ := hr
  obtain ⟨hload', hresolve'⟩ := hr'
  cases hload.symm.trans hload'
  cases hresolve.symm.trans hresolve'
  rfl

theorem obtains_iff (hr : HasReader p w o r) (hinput : input w stdin o = .ok bytes) :
    Obtains p w stdin o d ↔ (r.read (.bytes bytes)).outcome = .ok d := by
  constructor
  · rintro ⟨hr', hinput', hread⟩
    cases hr.unique hr'
    cases hinput.symm.trans hinput'
    exact hread
  · exact .intro hr hinput

/-- A fault that a run does not report: a flaw of the settings that is not about their file,
a path of the input with a NUL character, a text for an input that has no encoding, a span
that leaves the calendar, or a lookup of a zone that fails. Failures of the operating system
are reported. -/
inductive Unreported (p : Platform) (w : Surroundings) (stdin : Content) (o : Options) :
    Fault → Prop
  | settings {cause : LoadError} : Settings.Flaw p w o.config cause →
      (∀ words, cause ≠ .host (.system words)) → Unreported p w stdin o (.settings cause)
  | path {r : Reader} : HasReader p w o r → o.path ≠ "-" → w.read o.path = .error .nulInPath →
      Unreported p w stdin o (.input .nulInPath)
  | text {r : Reader} {text : Text.BrokenText} : HasReader p w o r → o.path = "-" →
      stdin = .broken text → Unreported p w stdin o (.document (.unencodable text.flaw))
  | span {r : Reader} {bytes : ByteArray} : HasReader p w o r → input w stdin o = .ok bytes →
      r.LeavesCalendar (.bytes bytes) →
      Unreported p w stdin o (.document (.badSpan .outOfCalendar))
  | lookup {r : Reader} {bytes : ByteArray} {kind words : String} : HasReader p w o r →
      input w stdin o = .ok bytes → r.FailsToLookUp (.bytes bytes) (.other kind words) →
      Unreported p w stdin o (.document (.lookup (.other kind words)))

/-- How far a run gets. -/
inductive Course (p : Platform) (w : Surroundings) (stdin : Content) (o : Options) : Prop
  | noSettings (cause : LoadError) : (Settings.loadOn p w o.config).outcome = .error cause →
      Course p w stdin o
  | noInput (s : Settings) (cause : InputError) :
      (Settings.loadOn p w o.config).outcome = .ok s → input w stdin o = .error cause →
      Course p w stdin o
  | noDocument (s : Settings) (bytes : ByteArray) (cause : ReadError) :
      (Settings.loadOn p w o.config).outcome = .ok s → input w stdin o = .ok bytes →
      (readInput p.host.database (effectiveSettings o s) bytes).outcome = .error cause →
      Course p w stdin o
  | document (s : Settings) (bytes : ByteArray) (d : Document) :
      (Settings.loadOn p w o.config).outcome = .ok s → input w stdin o = .ok bytes →
      (readInput p.host.database (effectiveSettings o s) bytes).outcome = .ok d →
      Course p w stdin o

theorem course (p : Platform) (w : Surroundings) (stdin : Content) (o : Options) :
    Course p w stdin o := by
  cases hload : (Settings.loadOn p w o.config).outcome with
  | error cause => exact .noSettings cause hload
  | ok s =>
      cases hinput : input w stdin o with
      | error cause => exact .noInput s cause hload hinput
      | ok bytes =>
          cases hread : (readInput p.host.database (effectiveSettings o s) bytes).outcome with
          | error cause => exact .noDocument s bytes cause hload hinput hread
          | ok d => exact .document s bytes d hload hinput hread

/-! ## Logging changes nothing -/

theorem runOptions_of_load_error (time : String) {cause : LoadError}
    (h : (Settings.loadOn p w o.config).outcome = .error cause) :
    ∃ t, runOptions p w stdin time o = endWithoutSettings t o cause := by
  simp only [runOptions, h]
  exact ⟨_, rfl⟩

/-- The transcript of a run that has loaded its settings. -/
def loadedTranscript (p : Platform) (w : Surroundings) (time : String) (o : Options)
    (s : Settings) : Transcript :=
  let configured := LogState.configure {} w.environment o.debug none
  let t := ({ log := configured.1 } : Transcript).write time configured.2
  let t := t.write time (Settings.loadOn p w o.config).events
  let applied := if o.debug then (t.log, true, []) else t.log.applyRootLevel s.logLevel
  { t with log := applied.1 }.write time applied.2.2

theorem runOptions_of_load (time : String)
    (h : (Settings.loadOn p w o.config).outcome = .ok s) :
    runOptions p w stdin time o =
      runReader p w stdin time o (effectiveSettings o s) (loadedTranscript p w time o s) := by
  simp only [runOptions, h]
  rfl

theorem runReader_of_input_error (time : String) (t : Transcript) {cause : InputError}
    (h : input w stdin o = .error cause) :
    runReader p w stdin time o s t = endWithoutInput t o cause := by
  rw [runReader, h]

/-- The transcript of a run that has read its document, or failed to. -/
def readTranscript (p : Platform) (time : String) (s : Settings) (bytes : ByteArray)
    (t : Transcript) : Transcript :=
  t.write time (readInput p.host.database s bytes).events

theorem runReader_of_read_error (time : String) (t : Transcript) {cause : ReadError}
    (hinput : input w stdin o = .ok bytes)
    (h : (readInput p.host.database s bytes).outcome = .error cause) :
    runReader p w stdin time o s t =
      endWithoutDocument (readTranscript p time s bytes t) o cause := by
  simp only [runReader, hinput, h]
  rfl

theorem runReader_of_read (time : String) (t : Transcript)
    (hinput : input w stdin o = .ok bytes)
    (h : (readInput p.host.database s bytes).outcome = .ok d) :
    runReader p w stdin time o s t =
      endWithDocument (readTranscript p time s bytes t) time o d := by
  simp only [runReader, hinput, h]
  rfl

theorem endWithDocument_of_outline (t : Transcript) (time : String) (o : Options)
    {lines : List String} (h : d.outline = .ok lines) :
    endWithDocument t time o d =
      .exit 0 lines (t.write time [.inputRead o.path d.nodes.size]).lines := by
  simp only [endWithDocument, h]

/-! ## What is reported

The refusals of the operating system are, other failures from outside are not. -/

end VCalendar.Cli

namespace VCalendar

/-- Whether a run that fails for its settings says why. -/
def LoadError.isReported : LoadError → Bool
  | .unreadable .. | .notMapping .. | .malformed .. | .host (.system _) => true
  | .notUtf8 | .coercion _ | .host (.other ..) => false

theorem LoadError.isReported_eq_false_iff {cause : LoadError} :
    cause.isReported = false ↔
      cause.ofFile = false ∧ ∀ words, cause ≠ .host (.system words) := by
  cases cause with
  | host cause => cases cause <;> simp [isReported, ofFile]
  | unreadable | notMapping | malformed | notUtf8 | coercion => simp [isReported, ofFile]

/-- Whether a run that fails for its input says why. -/
def Cli.InputError.isReported : Cli.InputError → Bool
  | .unreadable .nulInPath | .unencodable _ => false
  | .unreadable _ => true

/-- Whether a run that fails for its document says why. -/
def ReadError.isReported : ReadError → Bool
  | .tooLarge .. | .malformed _ | .unbalanced _ | .badDate _ | .lookup (.system _) => true
  | .missing | .unencodable _ | .badSpan _ | .lookup (.other ..) => false

end VCalendar

namespace VCalendar.Cli

variable {p : Platform} {w : Surroundings} {stdin : Content} {o : Options} {s : Settings}
  {bytes : ByteArray} {d : Document} {r : Reader}

theorem endWithoutSettings_of_reported (t : Transcript) (o : Options) {cause : LoadError}
    (h : cause.isReported = true) :
    ∃ message, endWithoutSettings t o cause = t.failWith message := by
  cases cause with
  | unreadable | notMapping | malformed => exact ⟨_, rfl⟩
  | notUtf8 | coercion => cases h
  | host cause =>
      cases cause with
      | system words => exact ⟨_, rfl⟩
      | other => cases h

theorem endWithoutSettings_of_not_reported (t : Transcript) (o : Options) {cause : LoadError}
    (h : cause.isReported = false) : endWithoutSettings t o cause = .fault (.settings cause) := by
  cases cause with
  | unreadable | notMapping | malformed => cases h
  | notUtf8 | coercion => rfl
  | host cause =>
      cases cause with
      | system words => cases h
      | other => rfl

/-- The fault of an input that is missing without a word. -/
def InputError.fault : InputError → Fault
  | .unreadable cause => .input cause
  | .unencodable flaw => .document (.unencodable flaw)

theorem endWithoutInput_of_reported (t : Transcript) (o : Options) {cause : InputError}
    (h : cause.isReported = true) :
    ∃ message, endWithoutInput t o cause = t.failWith message := by
  cases cause with
  | unencodable flaw => cases h
  | unreadable cause =>
      cases cause with
      | nulInPath => cases h
      | absent | notDirectory | isDirectory | nameTooLong | other => exact ⟨_, rfl⟩

theorem endWithoutInput_of_not_reported (t : Transcript) (o : Options) {cause : InputError}
    (h : cause.isReported = false) : endWithoutInput t o cause = .fault cause.fault := by
  cases cause with
  | unencodable flaw => rfl
  | unreadable cause =>
      cases cause with
      | nulInPath => rfl
      | absent | notDirectory | isDirectory | nameTooLong | other => cases h

theorem endWithoutDocument_of_reported (t : Transcript) (o : Options) {cause : ReadError}
    (h : cause.isReported = true) :
    ∃ message, endWithoutDocument t o cause = t.failWith message := by
  cases cause with
  | tooLarge | malformed | unbalanced | badDate => exact ⟨_, rfl⟩
  | missing | unencodable | badSpan => cases h
  | lookup cause =>
      cases cause with
      | system words => exact ⟨_, rfl⟩
      | other => cases h

theorem endWithoutDocument_of_not_reported (t : Transcript) (o : Options) {cause : ReadError}
    (h : cause.isReported = false) : endWithoutDocument t o cause = .fault (.document cause) := by
  cases cause with
  | tooLarge | malformed | unbalanced | badDate => cases h
  | missing | unencodable | badSpan => rfl
  | lookup cause =>
      cases cause with
      | system words => cases h
      | other => rfl

/-! ## What goes unreported -/

variable {f : Fault}

theorem hasReader_loadOn (hr : HasReader p w o r) :
    ∃ s, (Settings.loadOn p w o.config).outcome = .ok s := by
  obtain ⟨hload, -⟩ := hr
  exact ⟨_, hload⟩

theorem unreported_iff_of_load_error {cause : LoadError}
    (h : (Settings.loadOn p w o.config).outcome = .error cause) :
    Unreported p w stdin o f ↔ f = .settings cause ∧ cause.isReported = false := by
  have hnone : ∀ r, ¬ HasReader p w o r := fun r hr => by
    obtain ⟨s, hload⟩ := hasReader_loadOn hr
    cases h.symm.trans hload
  rw [LoadError.isReported_eq_false_iff]
  constructor
  · intro hf
    cases hf with
    | settings hflaw hother =>
        obtain ⟨hload, hcause⟩ := Settings.flaw_iff.mp hflaw
        cases h.symm.trans hload
        exact ⟨rfl, hcause, hother⟩
    | path hr => exact absurd hr (hnone _)
    | text hr => exact absurd hr (hnone _)
    | span hr => exact absurd hr (hnone _)
    | lookup hr => exact absurd hr (hnone _)
  · rintro ⟨rfl, hcause, hother⟩
    exact .settings (Settings.flaw_iff.mpr ⟨h, hcause⟩) hother

theorem not_flaw_of_hasReader (hr : HasReader p w o r) (cause : LoadError) :
    ¬ Settings.Flaw p w o.config cause := by
  intro hflaw
  obtain ⟨s, hload⟩ := hasReader_loadOn hr
  cases hload.symm.trans (Settings.flaw_iff.mp hflaw).1

theorem unreported_iff_of_input_error {cause : InputError} (hr : HasReader p w o r)
    (h : input w stdin o = .error cause) :
    Unreported p w stdin o f ↔ f = cause.fault ∧ cause.isReported = false := by
  constructor
  · intro hf
    cases hf with
    | settings hflaw => exact absurd hflaw (not_flaw_of_hasReader hr _)
    | path _ hpath hnul =>
        rw [input, if_neg hpath, hnul] at h
        cases h
        exact ⟨rfl, rfl⟩
    | text _ hpath hstdin =>
        rw [input, if_pos hpath, hstdin] at h
        cases h
        exact ⟨rfl, rfl⟩
    | span _ hinput => cases h.symm.trans hinput
    | lookup _ hinput => cases h.symm.trans hinput
  · rintro ⟨rfl, hcause⟩
    unfold input at h
    split at h
    next hpath =>
      cases stdin with
      | text | bytes => cases h
      | broken text =>
          cases h
          exact .text hr hpath rfl
    next hpath =>
      cases hread : w.read o.path with
      | ok bytes =>
          rw [hread] at h
          cases h
      | error failure =>
          rw [hread] at h
          cases h
          cases failure with
          | nulInPath => exact .path hr hpath hread
          | absent | notDirectory | isDirectory | nameTooLong | other => cases hcause

theorem unreported_iff_of_input (hr : HasReader p w o r) (h : input w stdin o = .ok bytes) :
    Unreported p w stdin o f ↔ ∃ cause, (r.read (.bytes bytes)).outcome = .error cause ∧
      f = .document cause ∧ cause.isReported = false := by
  constructor
  · intro hf
    cases hf with
    | settings hflaw => exact absurd hflaw (not_flaw_of_hasReader hr _)
    | path _ hpath hnul =>
        rw [input, if_neg hpath, hnul] at h
        cases h
    | text _ hpath hstdin =>
        rw [input, if_pos hpath, hstdin] at h
        cases h
    | span hr' hinput hleaves =>
        cases hr.unique hr'
        cases h.symm.trans hinput
        exact ⟨_, (r.badSpan_iff_leavesCalendar _).mpr hleaves, rfl, rfl⟩
    | lookup hr' hinput hfails =>
        cases hr.unique hr'
        cases h.symm.trans hinput
        exact ⟨_, (r.lookup_iff_failsToLookUp _ _).mpr hfails, rfl, rfl⟩
  · rintro ⟨cause, hread, rfl, hcause⟩
    cases cause with
    | tooLarge | malformed | unbalanced | badDate => cases hcause
    | missing => exact absurd hread (r.read_ne_missing _)
    | unencodable flaw =>
        obtain ⟨text, hbroken, -⟩ := (r.unencodable_iff_broken _ flaw).mp hread
        cases hbroken
    | badSpan cause =>
        cases cause
        exact .span hr h ((r.badSpan_iff_leavesCalendar _).mp hread)
    | lookup cause =>
        cases cause with
        | system words => cases hcause
        | other => exact .lookup hr h ((r.lookup_iff_failsToLookUp _ _).mp hread)

/-! ## Endings -/

/-- An ending is the right one: the outline of the document and 0; or 1, nothing printed
and a message of the command; or a fault that is not reported. -/
structure Answers (p : Platform) (w : Surroundings) (stdin : Content) (o : Options)
    (e : Ending) : Prop where
  prints : ∀ d, Obtains p w stdin o d → ∃ lines errors, d.outline = .ok lines ∧
    e = .exit 0 lines errors
  exits : ∀ status output errors, e = .exit status output errors →
    (status = 0 ∧ ∃ d, Obtains p w stdin o d ∧ d.outline = .ok output) ∨
      (status = 1 ∧ output = [] ∧ (¬ ∃ d, Obtains p w stdin o d) ∧
        ∃ message, "vcal-lite: " ++ message ∈ errors)
  faults : ∀ cause, e = .fault cause ↔ Unreported p w stdin o cause

namespace Answers

theorem exit {lines : List String} (hobtains : ∀ d', Obtains p w stdin o d' ↔ d' = d)
    (hunreported : ∀ cause, ¬ Unreported p w stdin o cause) (hlines : d.outline = .ok lines)
    (errors : List String) : Answers p w stdin o (.exit 0 lines errors) where
  prints d' hd' := by
    obtain rfl := (hobtains d').mp hd'
    exact ⟨lines, errors, hlines, rfl⟩
  exits status output errors' h := by
    cases h
    exact Or.inl ⟨rfl, d, (hobtains d).mpr rfl, hlines⟩
  faults cause := iff_of_false (fun h => nomatch h) (hunreported cause)

theorem failWith (hobtains : ∀ d, ¬ Obtains p w stdin o d)
    (hunreported : ∀ cause, ¬ Unreported p w stdin o cause) (t : Transcript)
    (message : String) : Answers p w stdin o (t.failWith message) where
  prints d hd := absurd hd (hobtains d)
  exits status output errors h := by
    cases h
    exact Or.inr ⟨rfl, rfl, fun ⟨d, hd⟩ => hobtains d hd, message, by simp⟩
  faults cause := iff_of_false (fun h => nomatch h) (hunreported cause)

theorem fault {cause : Fault} (hobtains : ∀ d, ¬ Obtains p w stdin o d)
    (hunreported : ∀ f, Unreported p w stdin o f ↔ f = cause) :
    Answers p w stdin o (.fault cause) where
  prints d hd := absurd hd (hobtains d)
  exits _ _ _ h := nomatch h
  faults f := by rw [hunreported, Ending.fault.injEq, eq_comm]

end Answers

theorem answers_runOptions (p : Platform) (w : Surroundings) (stdin : Content) (time : String)
    (o : Options) : Answers p w stdin o (runOptions p w stdin time o) := by
  cases course p w stdin o with
  | noSettings cause hload =>
      have hobtains : ∀ d, ¬ Obtains p w stdin o d := fun d ⟨hr, _, _⟩ => by
        obtain ⟨s, hload'⟩ := hasReader_loadOn hr
        cases hload.symm.trans hload'
      obtain ⟨t, ht⟩ := runOptions_of_load_error time hload
      rw [ht]
      cases hcause : cause.isReported with
      | true =>
          obtain ⟨message, hmessage⟩ := endWithoutSettings_of_reported t o hcause
          rw [hmessage]
          refine .failWith hobtains (fun f hf => ?_) t message
          cases hcause.symm.trans ((unreported_iff_of_load_error hload).mp hf).2
      | false =>
          rw [endWithoutSettings_of_not_reported t o hcause]
          exact .fault hobtains fun f => by simp [unreported_iff_of_load_error hload, hcause]
  | noInput s cause hload hinput =>
      obtain ⟨zone, hr, -⟩ := exists_hasReader hload
      have hobtains : ∀ d, ¬ Obtains p w stdin o d :=
        fun d ⟨_, hinput', _⟩ => nomatch hinput.symm.trans hinput'
      rw [runOptions_of_load time hload, runReader_of_input_error time _ hinput]
      cases hcause : cause.isReported with
      | true =>
          obtain ⟨message, hmessage⟩ := endWithoutInput_of_reported _ o hcause
          rw [hmessage]
          refine .failWith hobtains (fun f hf => ?_) _ message
          cases hcause.symm.trans ((unreported_iff_of_input_error hr hinput).mp hf).2
      | false =>
          rw [endWithoutInput_of_not_reported _ o hcause]
          exact .fault hobtains fun f => by
            simp [unreported_iff_of_input_error hr hinput, hcause]
  | noDocument s bytes cause hload hinput hread =>
      obtain ⟨zone, hr, hreader⟩ := exists_hasReader hload
      have houtcome := (hreader bytes).symm.trans hread
      have hobtains : ∀ d, ¬ Obtains p w stdin o d :=
        fun d hd => nomatch houtcome.symm.trans ((obtains_iff hr hinput).mp hd)
      rw [runOptions_of_load time hload, runReader_of_read_error time _ hinput hread]
      cases hcause : cause.isReported with
      | true =>
          obtain ⟨message, hmessage⟩ := endWithoutDocument_of_reported _ o hcause
          rw [hmessage]
          refine .failWith hobtains (fun f hf => ?_) _ message
          obtain ⟨cause', hread', -, hcause'⟩ := (unreported_iff_of_input hr hinput).mp hf
          cases houtcome.symm.trans hread'
          cases hcause.symm.trans hcause'
      | false =>
          rw [endWithoutDocument_of_not_reported _ o hcause]
          exact .fault hobtains fun f => by
            simp [unreported_iff_of_input hr hinput, houtcome, hcause]
  | document s bytes d hload hinput hread =>
      obtain ⟨zone, hr, hreader⟩ := exists_hasReader hload
      have houtcome := (hreader bytes).symm.trans hread
      obtain ⟨lines, hlines⟩ := outline_of_read houtcome
      rw [runOptions_of_load time hload, runReader_of_read time _ hinput hread,
        endWithDocument_of_outline _ time o hlines]
      refine .exit (fun d' => ?_) (fun f hf => ?_) hlines _
      · rw [obtains_iff hr hinput, houtcome, Except.ok.injEq, eq_comm]
      · obtain ⟨cause, hread', -⟩ := (unreported_iff_of_input hr hinput).mp hf
        cases houtcome.symm.trans hread'

/-- **A run prints all or nothing and says why.** Whatever the platform, the files, the
environment and the input, be it bytes or text, a run whose arguments make sense ends with 0
exactly if it gets at a document, and prints the whole outline of it then. If it ends with 1,
it has printed nothing, there is no document, and it has said something in its own name. It
ends in no other way, except for a fault that it does not report, and these faults are
named. -/
theorem answers_runOn (p : Platform) (w : Surroundings) (stdin : Content) {arguments : List String}
    (time : String) (h : Options.ofArguments p.dashIsArgument arguments = .ok o) :
    Answers p w stdin o (runOn p w stdin time arguments) := by
  rw [runOn, h]
  exact answers_runOptions p w stdin time o

/-- The standard platform with a database that knows Tokyo. -/
def tokyoPlatform : Platform :=
  { Platform.standard with host := .tireless .tokyo }

/-- Nothing but the input: no file is there and no variable is set. -/
def bareSurroundings : Surroundings where
  directory := "/"
  read _ := .error .absent
  environment _ := none

/-- A block that is closed under another name. -/
def swappedText : Content := .text "BEGIN:A\nDTSTART:20240101\nEND:B"

def swappedOutline : List String :=
  ["BEGIN:A", "  DTSTART", "dtstart=None", "tzid=None", "duration=None", "rrule=None",
    "all_day=False"]

def absentLine : String :=
  "[now] INFO - vcal_lite.config_loader - Config file /vcal_lite.yaml not found; using defaults"

/-- Without a document for the strict run only. -/
theorem answers_runOn_swapped :
    Options.ofArguments false ["-"] = .ok ⟨"-", none, false, false⟩ ∧
      Options.ofArguments false ["--st", "-"] = .ok ⟨"-", none, true, false⟩ ∧
      (∃ d errors, Obtains tokyoPlatform bareSurroundings swappedText ⟨"-", none, false, false⟩ d ∧
        d.outline = .ok swappedOutline ∧
        runOn tokyoPlatform bareSurroundings swappedText "now" ["-"] =
          .exit 0 swappedOutline errors) ∧
      (¬ ∃ d, Obtains tokyoPlatform bareSurroundings swappedText ⟨"-", none, true, false⟩ d) ∧
      runOn tokyoPlatform bareSurroundings swappedText "now" ["--st", "-"] = .exit 1 []
        [absentLine, "vcal-lite: parse failed: Line 3: END:B closes BEGIN:A from line 1"] := by
  have hplain : Options.ofArguments false ["-"] = .ok ⟨"-", none, false, false⟩ := by
    decide +kernel
  have hstrict : Options.ofArguments false ["--st", "-"] = .ok ⟨"-", none, true, false⟩ := by
    decide +kernel
  have hprinted : runOn tokyoPlatform bareSurroundings swappedText "now" ["-"] =
      .exit 0 swappedOutline [absentLine] := by
    decide +kernel
  have hfailed : runOn tokyoPlatform bareSurroundings swappedText "now" ["--st", "-"] =
      .exit 1 []
        [absentLine, "vcal-lite: parse failed: Line 3: END:B closes BEGIN:A from line 1"] := by
    decide +kernel
  refine ⟨hplain, hstrict, ?_, ?_, hfailed⟩
  · rcases (answers_runOn tokyoPlatform bareSurroundings swappedText "now" hplain).exits _ _ _
      hprinted with ⟨-, d, hd, hlines⟩ | ⟨hone, -⟩
    · exact ⟨d, _, hd, hlines, hprinted⟩
    · cases hone
  · rcases (answers_runOn tokyoPlatform bareSurroundings swappedText "now" hstrict).exits _ _ _
      hfailed with ⟨hzero, -⟩ | ⟨-, -, hnone, -⟩
    · cases hzero
    · exact hnone

/-- A span that leaves the calendar ends a run with neither 0 nor 1, and so does a text that
has no encoding. -/
theorem runOn_firstHour_unreported :
    Options.ofArguments false ["-"] = .ok ⟨"-", none, false, false⟩ ∧
      runOn tokyoPlatform bareSurroundings (.bytes firstHourText.toUTF8) "now" ["-"] =
        .fault (.document (.badSpan .outOfCalendar)) ∧
      runOn tokyoPlatform bareSurroundings (.broken loneSurrogate) "now" ["-"] =
        .fault (.document (.unencodable loneSurrogate.flaw)) ∧
      ¬ ∃ status output errors,
        runOn tokyoPlatform bareSurroundings (.bytes firstHourText.toUTF8) "now" ["-"] =
          .exit status output errors := by
  have hrun : runOn tokyoPlatform bareSurroundings (.bytes firstHourText.toUTF8) "now" ["-"] =
      .fault (.document (.badSpan .outOfCalendar)) := by
    decide +kernel
  refine ⟨by decide +kernel, hrun, by decide +kernel, ?_⟩
  rintro ⟨status, output, errors, hexit⟩
  cases hrun.symm.trans hexit

end VCalendar.Cli
