import VCalendar.Proofs.Cli.Endings
import VCalendar.Proofs.Journal.Notes
import VCalendar.Proofs.Logging.Configuration

/-!
# The log level of a run

The settings name a log level, and a run gives it to the root logger once it has loaded them.
By then the loggers of the program and the handler have a level of their own. Main statement:
whatever level the settings name, a run that is not asked for debug logging writes what is
noted while it reads its document exactly from information on.
-/

namespace VCalendar

/-! ## Records of events -/

namespace Event

variable {recent : RecentNames} {events : List Event} {event : Event} {r : Record}

theorem record?_eq_some (h : (event.record? recent).1 = some r) :
    r = ⟨event.level.number, event.logger.name, event.message⟩ := by
  unfold record? at h
  split at h
  · dsimp only at h
    split at h
    · cases h
    · exact (Option.some.inj h).symm
  · exact (Option.some.inj h).symm

theorem mem_records (h : r ∈ records recent events) :
    ∃ event ∈ events, r = ⟨event.level.number, event.logger.name, event.message⟩ := by
  induction events generalizing recent with
  | nil => cases h
  | cons event rest ih =>
      rcases List.mem_append.mp h with h | h
      · exact ⟨event, List.mem_cons_self, record?_eq_some (Option.mem_toList.mp h)⟩
      · obtain ⟨event', hevent', hr⟩ := ih h
        exact ⟨event', List.mem_cons_of_mem event hevent', hr⟩

theorem logger_mem_of_concernsReading (h : event.concernsReading = true) :
    event.logger.name ∈ LogState.programLoggers := by
  unfold concernsReading at h
  cases hlogger : event.logger with
  | reader | dates | zones => decide
  | root | settings | logging | command =>
      rw [hlogger] at h
      cases h

/-- Reading notes no mere information. -/
theorem level_ne_info_of_concernsReading (h : event.concernsReading = true) :
    event.level ≠ .info := by
  cases event with
  | contentTooLarge | reading | strayEnd | stillOpen | badDate | documentRead | unknownZone
  | dateRead | zoneLookup | invalidFallback => nofun
  | limitNotInt | limitBelowMinimum | fallbackUnknown | settingsSought | settingsNotMapping
  | settingsLoaded | settingsAbsent | settingOverridden | settingsResult | debugEnabled
  | loggersReset | unknownLevel | inputRead => cases h

end Event

namespace Cli

variable {p : Platform} {w : Surroundings} {stdin : Content} {o : Options} {s : Settings}
  {bytes : ByteArray}

/-! ## Transcripts -/

theorem Transcript.lines_write (t : Transcript) (time : String) (events : List Event) :
    (t.write time events).lines =
      t.lines ++ (t.log.writeAll time (Event.records t.recent events)).2 := rfl

theorem Transcript.log_write (t : Transcript) (time : String) (events : List Event) :
    (t.write time events).log = (t.log.writeAll time (Event.records t.recent events)).1 := rfl

theorem Transcript.writesFrom_write {t : Transcript} {level : Int} (h : t.log.WritesFrom level)
    (time : String) (events : List Event) : (t.write time events).log.WritesFrom level := by
  rw [log_write]
  exact h.writeAll time _

/-- What is noted while a document is read, the lookup of the fallback zone included. -/
def readingEvents (p : Platform) (s : Settings) (bytes : ByteArray) : List Event :=
  (readInput p.host.database s bytes).events

theorem concernsReading_readingEvents (p : Platform) (s : Settings) (bytes : ByteArray) :
    ∀ event ∈ readingEvents p s bytes, event.concernsReading = true :=
  Reader.concernsReading_configured p.host.database s (.bytes bytes)

/-- The lines of the records from a level on. -/
def linesFrom (level : Level) (time : String) (records : List Record) : List String :=
  (records.filter (level.number ≤ ·.level)).map (Record.line time)

theorem lines_write_of_concernsReading {t : Transcript} {events : List Event}
    (ht : t.log.WritesFrom Level.info.number)
    (hevents : ∀ event ∈ events, event.concernsReading = true) (time : String) :
    (t.write time events).lines =
      t.lines ++ linesFrom .info time (Event.records t.recent events) := by
  have hloggers : ∀ r ∈ Event.records t.recent events, r.logger ∈ LogState.programLoggers := by
    intro r hr
    obtain ⟨event, hevent, rfl⟩ := Event.mem_records hr
    exact Event.logger_mem_of_concernsReading (hevents event hevent)
  rw [Transcript.lines_write, ht.lines_writeAll (by decide) hloggers]
  rfl

theorem writesFrom_loadedTranscript (time : String) (hdebug : o.debug = false)
    (hvariable : w.environment LogState.debugVariable = none)
    (hlevel : w.environment LogState.levelVariable = none) :
    (loadedTranscript p w time o s).log.WritesFrom Level.info.number := by
  have hwants : LogState.wantsDebug w.environment o.debug none = false := by
    simp [LogState.wantsDebug, hvariable, hdebug]
  have hroot : LogState.rootLevelFor w.environment false = Level.info.number := by
    simp only [LogState.rootLevelFor, hlevel]
    decide +kernel
  have hconfigured := LogState.writesFrom_configure (s := {}) rfl hwants hroot
  unfold loadedTranscript
  dsimp only
  rw [hdebug, if_neg Bool.false_ne_true]
  refine Transcript.writesFrom_write ?_ time _
  refine LogState.WritesFrom.applyRootLevel ?_ s.logLevel
  refine Transcript.writesFrom_write ?_ time _
  refine Transcript.writesFrom_write ?_ time _
  rwa [hdebug] at hconfigured

theorem log_readTranscript {t : Transcript} (time : String) (s : Settings) (bytes : ByteArray)
    (h : t.log.WritesFrom Level.info.number) :
    (readTranscript p time s bytes t).log.WritesFrom Level.info.number :=
  Transcript.writesFrom_write h time _

theorem lines_readTranscript {t : Transcript} (time : String) (s : Settings) (bytes : ByteArray)
    (h : t.log.WritesFrom Level.info.number) :
    (readTranscript p time s bytes t).lines =
      t.lines ++ linesFrom .info time (Event.records t.recent (readingEvents p s bytes)) :=
  lines_write_of_concernsReading h (concernsReading_readingEvents p s bytes) time

/-- No event of a reading is at the level of information, so leaving that level out changes
nothing. -/
theorem linesFrom_warning_readingEvents (time : String) (recent : RecentNames) (s : Settings)
    (bytes : ByteArray) :
    linesFrom .warning time (Event.records recent (readingEvents p s bytes)) =
      linesFrom .info time (Event.records recent (readingEvents p s bytes)) := by
  unfold linesFrom
  congr 1
  refine List.filter_congr fun r hr => ?_
  obtain ⟨event, hevent, rfl⟩ := Event.mem_records hr
  have hne := Event.level_ne_info_of_concernsReading
    (concernsReading_readingEvents p s bytes event hevent)
  cases hlevel : event.level with
  | debug | warning | error => rfl
  | info => exact absurd hlevel hne

/-- The last record of a run that has a document is not written. -/
theorem lines_write_inputRead {t : Transcript} (h : t.log.WritesFrom Level.info.number)
    (time path : String) (nodes : Nat) :
    (t.write time [.inputRead path nodes]).lines = t.lines := by
  have hbelow : ∀ r ∈ Event.records t.recent [.inputRead path nodes],
      r.level < Level.info.number := by
    intro r hr
    obtain ⟨event, hevent, rfl⟩ := Event.mem_records hr
    rw [List.mem_singleton.mp hevent]
    show Level.debug.number < Level.info.number
    decide
  rw [Transcript.lines_write, LogState.lines_writeAll_below h.handlers hbelow, List.append_nil]

/-! ## Runs -/

/-- **The log level decides nothing about the document.** On every platform, a run that is not
asked for debug logging, by its arguments or by the environment, loads its settings and reads
its input. Of what is noted while the document is read it writes exactly what is at the level of
information or above, whatever level the settings name; behind that there is a message of the
command or nothing. As there is no mere information among it, the level of the settings is kept
if it is that of information or of warnings. -/
theorem runOn_writes_from_info {arguments : List String} (time : String)
    (ho : Options.ofArguments p.dashIsArgument arguments = .ok o) (hdebug : o.debug = false)
    (hvariable : w.environment LogState.debugVariable = none)
    (hlevel : w.environment LogState.levelVariable = none)
    (hload : (Settings.loadOn p w o.config).outcome = .ok s)
    (hinput : input w stdin o = .ok bytes) :
    let before := loadedTranscript p w time o s
    let records := Event.records before.recent (readingEvents p (effectiveSettings o s) bytes)
    (readTranscript p time (effectiveSettings o s) bytes before).lines =
      before.lines ++ linesFrom .info time records ∧
    (∀ status output errors, runOn p w stdin time arguments = .exit status output errors →
      errors = before.lines ++ linesFrom .info time records ∨
        ∃ message, errors =
          before.lines ++ linesFrom .info time records ++ ["vcal-lite: " ++ message]) ∧
    linesFrom .warning time records = linesFrom .info time records := by
  intro before records
  have hbefore : before.log.WritesFrom Level.info.number :=
    writesFrom_loadedTranscript time hdebug hvariable hlevel
  have hlines := @lines_readTranscript p before time (effectiveSettings o s) bytes hbefore
  refine ⟨hlines, fun status output errors hrun => ?_,
    linesFrom_warning_readingEvents time before.recent (effectiveSettings o s) bytes⟩
  have hreader : runReader p w stdin time o (effectiveSettings o s) before =
      .exit status output errors := by
    rw [← hrun, runOn, ho]
    exact (runOptions_of_load time hload).symm
  cases hread : (readInput p.host.database (effectiveSettings o s) bytes).outcome with
  | error cause =>
      rw [runReader_of_read_error time before hinput hread] at hreader
      cases hcause : cause.isReported with
      | true =>
          obtain ⟨message, hmessage⟩ := endWithoutDocument_of_reported
            (readTranscript p time (effectiveSettings o s) bytes before) o hcause
          rw [hmessage] at hreader
          cases hreader
          exact Or.inr ⟨message, by rw [hlines]⟩
      | false =>
          rw [endWithoutDocument_of_not_reported _ o hcause] at hreader
          cases hreader
  | ok d =>
      -- the number of nodes is noted behind the reading, but below the handler's level
      obtain ⟨zone, -, houtcome⟩ := exists_hasReader hload
      obtain ⟨lines, houtline⟩ := outline_of_read ((houtcome bytes).symm.trans hread)
      rw [runReader_of_read time before hinput hread, endWithDocument_of_outline _ time o houtline,
        lines_write_inputRead (log_readTranscript time _ bytes hbefore), hlines] at hreader
      cases hreader
      exact Or.inl rfl

/-- A settings file that names a log level. -/
def levelSurroundings (level : String) : Surroundings where
  directory := "/"
  read path := if path = Settings.usualName then .ok ("log_level: " ++ level).toUTF8
    else .error .absent
  environment _ := none

/-- An END line with nothing to close. -/
def strayBytes : ByteArray := "END:A".toUTF8

def strayOutline : List String :=
  ["dtstart=None", "tzid=None", "duration=None", "rrule=None", "all_day=False"]

def loadedLine : String :=
  "[now] INFO - vcal_lite.config_loader - Loaded configuration from /vcal_lite.yaml"

def strayLine : String :=
  "[now] WARNING - vcal_lite.parser.vcal_parser - Ignoring END:A on line 1 with no open block"

/-- No line is at the level that the settings name, and one is written. -/
theorem runOn_writes_from_info_error :
    Options.ofArguments false ["-"] = .ok ⟨"-", none, false, false⟩ ∧
      (Settings.loadOn tokyoPlatform (levelSurroundings "Error") none).outcome =
        .ok { logLevel := "ERROR" } ∧
      linesFrom .error "now" (Event.records [] (readingEvents tokyoPlatform {} strayBytes)) = [] ∧
      ∀ status output errors,
        runOn tokyoPlatform (levelSurroundings "Error") (.bytes strayBytes) "now" ["-"] =
            .exit status output errors →
          strayLine ∈ errors := by
  have ho : Options.ofArguments false ["-"] = .ok ⟨"-", none, false, false⟩ := by decide +kernel
  have hload : (Settings.loadOn tokyoPlatform (levelSurroundings "Error") none).outcome =
      .ok { logLevel := "ERROR" } := by
    decide +kernel
  have hinput : input (levelSurroundings "Error") (.bytes strayBytes) ⟨"-", none, false, false⟩ =
      .ok strayBytes := rfl
  refine ⟨ho, hload, by decide +kernel, fun status output errors hrun => ?_⟩
  obtain ⟨-, hwritten, -⟩ :=
    @runOn_writes_from_info tokyoPlatform _ _ _ _ _ _ "now" ho rfl rfl rfl hload hinput
  have hstray : strayLine ∈ linesFrom .info "now"
      (Event.records
        (loadedTranscript tokyoPlatform (levelSurroundings "Error") "now"
          ⟨"-", none, false, false⟩ { logLevel := "ERROR" }).recent
        (readingEvents tokyoPlatform
          (effectiveSettings ⟨"-", none, false, false⟩ { logLevel := "ERROR" }) strayBytes)) := by
    decide +kernel
  rcases hwritten status output errors hrun with herrors | ⟨message, herrors⟩
  · rw [herrors]
    exact List.mem_append_right _ hstray
  · rw [herrors]
    exact List.mem_append_left _ (List.mem_append_right _ hstray)

/-- The same surroundings with a level in the environment. -/
def variableSurroundings (level : String) : Surroundings :=
  { levelSurroundings level with
    environment := fun name => if name = LogState.levelVariable then some level else none }

/-- Neither is the warning left out under ERROR, nor the first debug record written under
DEBUG. A variable of the environment that names ERROR leaves the warning out. -/
theorem runOn_ignores_named_level :
    runOn tokyoPlatform (levelSurroundings "ERROR") (.bytes strayBytes) "now" ["-"] =
        .exit 0 strayOutline [loadedLine, strayLine] ∧
      runOn tokyoPlatform (levelSurroundings "DEBUG") (.bytes strayBytes) "now" ["-"] =
        .exit 0 strayOutline [loadedLine, strayLine] ∧
      linesFrom .error "now" (Event.records [] (readingEvents tokyoPlatform {} strayBytes)) = [] ∧
      "[now] DEBUG - vcal_lite.parser.vcal_parser - Parsing VCAL content: 1 logical lines" ∈
        linesFrom .debug "now" (Event.records [] (readingEvents tokyoPlatform {} strayBytes)) ∧
      runOn tokyoPlatform (variableSurroundings "ERROR") (.bytes strayBytes) "now" ["-"] =
        .exit 0 strayOutline [] := by
  decide +kernel

end Cli

end VCalendar
