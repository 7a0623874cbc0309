import VCalendar.Proofs.Logging.Configuration

/-!
# Runs of logging calls

The log of a program is configured, reset and asked about, and records are logged, in any
order and in any environment. Main statements: handlers that were there stay alone, and
otherwise the first configuration adds the only one, so nothing is written twice; until the
next reset a configuration keeps the libraries quiet; and the levels behind a configuration
do not depend on what came before, but that of the handler does.
-/

namespace VCalendar

/-- What is done to the log of a program: a call of its setup, a change of the environment,
or a record that any part of the program or of a library logs. -/
inductive LogCall where
  | configure (mode : Bool) (forced : Option Bool)
  | applyRootLevel (name : String)
  | reset
  | status
  | setEnvironment (environment : String → Option String)
  | write (record : Record)

namespace LogCall

def isConfigure : LogCall → Bool
  | .configure .. => true
  | _ => false

def isReset : LogCall → Bool
  | .reset => true
  | _ => false

/-- The level that a call gives the root if it is a configuration. -/
def configuredLevel? (environment : String → Option String) : LogCall → Option Int
  | .configure mode forced =>
    some (LogState.rootLevelFor environment (LogState.wantsDebug environment mode forced))
  | _ => none

theorem configuredLevel?_eq_none_iff {environment : String → Option String} {call : LogCall} :
    call.configuredLevel? environment = none ↔ call.isConfigure = false := by
  cases call <;> simp [configuredLevel?, isConfigure]

/-- The environment behind a call. -/
def environmentAfter (environment : String → Option String) : LogCall → String → Option String
  | .setEnvironment environment' => environment'
  | _ => environment

end LogCall

/-- The log and the environment that calls work on, and what has come of each record: the
lines that were written for it. -/
structure LogSession where
  log : LogState := {}
  environment : String → Option String := fun _ => none
  written : List (Record × List String) := []

namespace LogSession

variable {time : String} {s start : LogSession} {call : LogCall} {calls : List LogCall}

/-- Logs a record. -/
def write (time : String) (s : LogSession) (r : Record) : LogSession :=
  let result := s.log.write time r
  { s with log := result.1, written := s.written ++ [(r, result.2)] }

/-- The session once a call has left a log and events, which are logged. -/
def proceed (s : LogSession) (time : String) (log : LogState) (events : List Event) : LogSession :=
  (Event.records [] events).foldl (write time) { s with log }

/-- Makes a call. Asking for the status changes nothing. -/
def step (time : String) (s : LogSession) : LogCall → LogSession
  | .configure mode forced =>
    let result := s.log.configure s.environment mode forced
    s.proceed time result.1 result.2
  | .applyRootLevel name =>
    let result := s.log.applyRootLevel name
    s.proceed time result.1 result.2.2
  | .reset =>
    let result := s.log.reset
    s.proceed time result.1 result.2
  | .status => s
  | .setEnvironment environment => { s with environment := environment }
  | .write r => s.write time r

/-- Makes calls one after the other. -/
def run (time : String) (s : LogSession) (calls : List LogCall) : LogSession :=
  calls.foldl (step time) s

theorem run_cons (time : String) (s : LogSession) (call : LogCall) (calls : List LogCall) :
    s.run time (call :: calls) = (s.step time call).run time calls := rfl

theorem run_append (time : String) (s : LogSession) (calls more : List LogCall) :
    s.run time (calls ++ more) = (s.run time calls).run time more :=
  List.foldl_append

theorem log_foldl_write (time : String) (s : LogSession) (records : List Record) :
    (records.foldl (write time) s).log = (s.log.writeAll time records).1 := by
  induction records generalizing s with
  | nil => rfl
  | cons r rest ih =>
      rw [List.foldl_cons, ih]
      rfl

/-- The log behind a call is the one that it left, once its own records are logged. -/
theorem log_proceed (s : LogSession) (time : String) (log : LogState) (events : List Event) :
    (s.proceed time log events).log = (log.writeAll time (Event.records [] events)).1 :=
  log_foldl_write time { s with log } _

theorem environment_proceed (s : LogSession) (time : String) (log : LogState)
    (events : List Event) : (s.proceed time log events).environment = s.environment := by
  have hwrite : ∀ (records : List Record) (s : LogSession),
      (records.foldl (write time) s).environment = s.environment := by
    intro records
    induction records with
    | nil => exact fun _ => rfl
    | cons r rest ih => exact fun s => ih (s.write time r)
  exact hwrite _ { s with log }

theorem environment_step (time : String) (s : LogSession) (call : LogCall) :
    (s.step time call).environment = call.environmentAfter s.environment := by
  cases call with
  | configure | applyRootLevel | reset => exact environment_proceed s time _ _
  | status | setEnvironment | write => rfl

/-! ## Handlers -/

theorem handlers_proceed (s : LogSession) (time : String) (log : LogState)
    (events : List Event) : (s.proceed time log events).log.handlers = log.handlers := by
  rw [log_proceed]
  exact log.handlers_writeAll time _

/-- Only a configuration adds a handler, and only where there is none. -/
theorem handlers_step (time : String) (s : LogSession) (call : LogCall) :
    (s.step time call).log.handlers =
      if s.log.handlers = [] then (call.configuredLevel? s.environment).toList.map .stream
      else s.log.handlers := by
  have hkept : ∀ handlers : List Handler, handlers = if handlers = [] then [] else handlers := by
    intro handlers
    cases handlers <;> rfl
  cases call with
  | configure mode forced =>
      rw [step, handlers_proceed]
      exact s.log.handlers_configure s.environment mode forced
  | applyRootLevel name =>
      rw [step, handlers_proceed]
      exact (s.log.handlers_applyRootLevel name).trans (hkept _)
  | reset =>
      rw [step, handlers_proceed]
      exact s.log.handlers_reset.trans (hkept _)
  | status | setEnvironment => exact hkept _
  | write r => exact (s.log.handlers_write time r).trans (hkept _)

/-- Handlers that are there stay, and no other comes to them. -/
theorem handlers_run_of_ne (h : s.log.handlers ≠ []) (calls : List LogCall) :
    (s.run time calls).log.handlers = s.log.handlers := by
  induction calls generalizing s with
  | nil => rfl
  | cons call calls ih =>
      have hstep := handlers_step time s call
      rw [if_neg h] at hstep
      rw [run_cons, ih (hstep ▸ h), hstep]

/-- The level that the first configuration among calls gives the root. -/
def firstLevel? (environment : String → Option String) : List LogCall → Option Int
  | [] => none
  | call :: rest =>
    (call.configuredLevel? environment).or (firstLevel? (call.environmentAfter environment) rest)

theorem firstLevel?_eq_none_iff (environment : String → Option String) (calls : List LogCall) :
    firstLevel? environment calls = none ↔ ∀ call ∈ calls, call.isConfigure = false := by
  induction calls generalizing environment with
  | nil => simp [firstLevel?]
  | cons call calls ih =>
      rw [firstLevel?, Option.or_eq_none_iff, ih, LogCall.configuredLevel?_eq_none_iff,
        List.forall_mem_cons]

/-- Without a configuration before it, a configuration is the first. -/
theorem firstLevel?_concat (h : ∀ call ∈ calls, call.isConfigure = false) (s : LogSession)
    (time : String) (mode : Bool) (forced : Option Bool) :
    firstLevel? s.environment (calls ++ [.configure mode forced]) =
      some (LogState.rootLevelFor (s.run time calls).environment
        (LogState.wantsDebug (s.run time calls).environment mode forced)) := by
  induction calls generalizing s with
  | nil => rfl
  | cons call calls ih =>
      obtain ⟨hcall, hcalls⟩ := List.forall_mem_cons.mp h
      rw [List.cons_append, firstLevel?, LogCall.configuredLevel?_eq_none_iff.mpr hcall,
        Option.none_or, ← environment_step time, ih hcalls, run_cons]

/-- **There is one handler from the first configuration on**, and it has the level that this
configuration gave the root. -/
theorem handlers_run (time : String) (h : start.log.handlers = []) (calls : List LogCall) :
    (start.run time calls).log.handlers =
      (firstLevel? start.environment calls).toList.map .stream := by
  induction calls generalizing start with
  | nil => exact h
  | cons call calls ih =>
      have hstep := handlers_step time start call
      rw [if_pos h] at hstep
      rw [run_cons, firstLevel?]
      cases hcall : call.configuredLevel? start.environment with
      | none =>
          rw [hcall] at hstep
          rw [ih hstep, environment_step, Option.none_or]
      | some level =>
          rw [hcall] at hstep
          have hne : (start.step time call).log.handlers ≠ [] := by
            rw [hstep]
            exact List.cons_ne_nil _ _
          rw [handlers_run_of_ne hne, hstep, Option.some_or]

/-! ## Levels -/

theorem settled_step {name : String} {level : Int} (h : s.log.tree.Settled name level)
    (hconfigure : call.isConfigure = false) (hreset : call.isReset = false) :
    (s.step time call).log.tree.Settled name level := by
  cases call with
  | configure => cases hconfigure
  | reset => cases hreset
  | applyRootLevel rootName =>
      rw [step, log_proceed]
      exact LogState.settled_writeAll (s.log.settled_applyRootLevel h rootName) _
  | status | setEnvironment => exact h
  | write r => exact h.ask r.logger r.level

theorem configured_step (s : LogSession) (mode : Bool) (forced : Option Bool) :
    (s.step time (.configure mode forced)).log.Configured
      (LogState.rootLevelFor s.environment (LogState.wantsDebug s.environment mode forced))
      (LogState.wantsDebug s.environment mode forced) := by
  rw [step, log_proceed]
  exact (s.log.configured_configure s.environment mode forced).writeAll time _

/-- The libraries are kept quiet until the next reset. -/
theorem quiet_run {name : String} (hname : name ∈ LogState.libraryLoggers)
    (h : s.log.tree.Settled name Level.warning.number)
    (hcalls : ∀ call ∈ calls, call.isReset = false) :
    (s.run time calls).log.tree.Settled name Level.warning.number := by
  induction calls generalizing s with
  | nil => exact h
  | cons call calls ih =>
      obtain ⟨hreset, hcalls⟩ := List.forall_mem_cons.mp hcalls
      rw [run_cons]
      refine ih ?_ hcalls
      cases hconfigure : call.isConfigure with
      | false => exact settled_step h hconfigure hreset
      | true =>
          cases call with
          | configure mode forced => exact (configured_step s mode forced).libraries name hname
          | applyRootLevel | reset | status | setEnvironment | write => cases hconfigure

/-- The latest call that sets the levels of all loggers is a configuration. -/
def ConfiguredLast (calls : List LogCall) : Prop :=
  ∃ before mode forced after, calls = before ++ .configure mode forced :: after ∧
    ∀ call ∈ after, call.isReset = false

theorem quiet_of_configuredLast {name : String} (hname : name ∈ LogState.libraryLoggers)
    (h : ConfiguredLast calls) (time : String) (start : LogSession) :
    (start.run time calls).log.tree.Settled name Level.warning.number := by
  obtain ⟨before, mode, forced, after, rfl, hafter⟩ := h
  rw [run_append, run_cons]
  exact quiet_run hname ((configured_step _ mode forced).libraries name hname) hafter

/-! ## What is written -/

theorem length_lines_write_le (h : s.log.handlers.length ≤ 1) (now : String) (r : Record) :
    (s.log.write now r).2.length ≤ 1 := by
  show (if (s.log.tree.ask r.logger r.level).2 then s.log.handled now r else []).length ≤ 1
  have hhandled : (s.log.handled now r).length ≤ 1 := by
    unfold LogState.handled
    split
    · split <;> simp
    · exact Nat.le_trans (List.length_filterMap_le _ _) h
  split
  · exact hhandled
  · exact Nat.zero_le 1

/-- What has come of each record since some session: it has been written at most once. -/
def WrittenOnce (start s : LogSession) : Prop :=
  ∀ entry ∈ s.written, entry ∈ start.written ∨ entry.2.length ≤ 1

theorem writtenOnce_foldl_write (hs : WrittenOnce start s) (h : s.log.handlers.length ≤ 1)
    (time : String) (records : List Record) :
    WrittenOnce start (records.foldl (write time) s) := by
  induction records generalizing s with
  | nil => exact hs
  | cons r rest ih =>
      refine ih ?_ ((s.log.handlers_write time r).symm ▸ h)
      intro entry hentry
      rcases List.mem_append.mp hentry with hentry | hentry
      · exact hs entry hentry
      · rw [List.mem_singleton.mp hentry]
        exact .inr (length_lines_write_le h time r)

theorem length_handlers_step_le (h : s.log.handlers.length ≤ 1) (time : String)
    (call : LogCall) : (s.step time call).log.handlers.length ≤ 1 := by
  rw [handlers_step]
  split
  · rw [List.length_map]
    exact Option.length_toList_le
  · exact h

/-- A call has its own records written at most once, too. -/
theorem writtenOnce_step (hs : WrittenOnce start s) (h : s.log.handlers.length ≤ 1)
    (time : String) (call : LogCall) : WrittenOnce start (s.step time call) := by
  have hproceed : ∀ (log : LogState) (events : List Event), log.handlers.length ≤ 1 →
      WrittenOnce start (s.proceed time log events) :=
    fun log events hlog => writtenOnce_foldl_write (s := { s with log }) hs hlog time _
  cases call with
  | configure mode forced =>
      refine hproceed _ _ ?_
      rw [LogState.handlers_configure]
      split
      · exact Nat.le_refl 1
      · exact h
  | applyRootLevel name => exact hproceed _ _ ((s.log.handlers_applyRootLevel name).symm ▸ h)
  | reset => exact hproceed _ _ (s.log.handlers_reset.symm ▸ h)
  | status | setEnvironment => exact hs
  | write r => exact writtenOnce_foldl_write hs h time [r]

theorem writtenOnce_run (hs : WrittenOnce start s) (h : s.log.handlers.length ≤ 1)
    (time : String) (calls : List LogCall) : WrittenOnce start (s.run time calls) := by
  induction calls generalizing s with
  | nil => exact hs
  | cons call calls ih =>
      exact ih (writtenOnce_step hs h time call) (length_handlers_step_le h time call)

/-- **Output is never doubled, and libraries are kept quiet.** Whatever calls are made, and in
whatever environment: handlers that were there at the start stay alone. Where there were none,
there is none until the first configuration and exactly one from then on, so a record is
written at most once, be it one that the calls log themselves or one that follows them. As long
as the latest configuration is not undone by a reset, no record below a warning that a library
logs is written. -/
theorem run_handlers_and_libraries (time : String) (start : LogSession) (calls : List LogCall) :
    (start.log.handlers ≠ [] →
      (start.run time calls).log.handlers = start.log.handlers) ∧
    (start.log.handlers = [] →
      ((∀ call ∈ calls, call.isConfigure = false) → (start.run time calls).log.handlers = []) ∧
      ((∃ call ∈ calls, call.isConfigure = true) →
        ∃ level, (start.run time calls).log.handlers = [.stream level]) ∧
      WrittenOnce start (start.run time calls) ∧
      ∀ now r, ((start.run time calls).log.write now r).2.length ≤ 1) ∧
    (ConfiguredLast calls →
      ∀ now, ∀ r : Record, r.logger ∈ LogState.libraryLoggers →
        r.level < Level.warning.number → ((start.run time calls).log.write now r).2 = []) := by
  refine ⟨fun hstart => handlers_run_of_ne hstart calls, fun hstart => ?_, ?_⟩
  · have hhandlers := handlers_run time hstart calls
    have honce : WrittenOnce start (start.run time calls) :=
      writtenOnce_run (fun entry hentry => .inl hentry) (hstart ▸ Nat.zero_le 1) time calls
    refine ⟨fun hnone => ?_, fun ⟨call, hcall, hconfigure⟩ => ?_, honce, fun now r => ?_⟩
    · rw [hhandlers, (firstLevel?_eq_none_iff _ _).mpr hnone]
      rfl
    · cases hfirst : firstLevel? start.environment calls with
      | none =>
          have hnot := (firstLevel?_eq_none_iff _ _).mp hfirst call hcall
          exact absurd hconfigure (by simp [hnot])
      | some level =>
          rw [hfirst] at hhandlers
          exact ⟨level, hhandlers⟩
    · refine length_lines_write_le ?_ now r
      rw [hhandlers, List.length_map]
      exact Option.length_toList_le
  · intro hlast now r hlogger hlevel
    have hsettled := quiet_of_configuredLast hlogger hlast time start
    rw [LogState.lines_write hsettled, if_neg]
    exact fun hpasses => absurd hpasses.2 (Int.not_le.mpr hlevel)

/-- Debug logging, an unknown root level, and a record of a library in between. -/
def debugCalls : List LogCall :=
  [.configure true none, .write ⟨10, "yaml", "token"⟩, .applyRootLevel "trace", .status]

theorem run_handlers_and_libraries_debug :
    ConfiguredLast debugCalls ∧
      (∃ level, (({} : LogSession).run "then" debugCalls).log.handlers = [.stream level]) ∧
      (({} : LogSession).run "then" debugCalls).written =
        [(⟨10, "root", "Debug logging enabled for vcal_lite modules"⟩,
            ["[then] DEBUG - root - Debug logging enabled for vcal_lite modules"]),
          (⟨10, "yaml", "token"⟩, []),
          (⟨30, "vcal_lite.lite_logging", "Ignoring unknown log level 'TRACE'"⟩,
            ["[then] WARNING - vcal_lite.lite_logging - Ignoring unknown log level 'TRACE'"])] ∧
      WrittenOnce {} (({} : LogSession).run "then" debugCalls) ∧
      ((({} : LogSession).run "then" debugCalls).log.write "now" ⟨20, "yaml", "token"⟩).2 = [] := by
  have hlast : ConfiguredLast debugCalls := ⟨[], true, none, _, rfl, by simp [LogCall.isReset]⟩
  obtain ⟨-, hhandlers, hquiet⟩ := run_handlers_and_libraries "then" {} debugCalls
  refine ⟨hlast, (hhandlers rfl).2.1 ⟨.configure true none, List.mem_cons_self, rfl⟩,
    by decide +kernel, (hhandlers rfl).2.2.1, ?_⟩
  exact hquiet hlast "now" ⟨20, "yaml", "token"⟩ (by decide) (by decide)

/-! ## Behind a configuration -/

/-- **Where a configuration leaves the levels.** Behind any calls, on a log that nobody else
has given a handler, a configuration sets the levels of the root, of the libraries and of the
program as its arguments and the environment ask for. The handler has another level: the
one that the first configuration of all gave the root. A record from the level of the program
on is written exactly if it reaches that one. -/
theorem run_configured (time : String) {start : LogSession} (hstart : start.log.handlers = [])
    (calls : List LogCall) (mode : Bool) (forced : Option Bool) :
    let environment := (start.run time calls).environment
    let debug := LogState.wantsDebug environment mode forced
    let log := (start.run time (calls ++ [.configure mode forced])).log
    log.tree.ownLevel LoggerTree.rootName = LogState.rootLevelFor environment debug ∧
    (∀ name ∈ LogState.libraryLoggers, log.tree.ownLevel name = Level.warning.number) ∧
    (∀ name ∈ LogState.programLoggers, log.tree.ownLevel name = LogState.programLevel debug) ∧
    ∃ level, firstLevel? start.environment (calls ++ [.configure mode forced]) = some level ∧
      ((∀ call ∈ calls, call.isConfigure = false) →
        level = LogState.rootLevelFor environment debug) ∧
      log.handlers = [.stream level] ∧
      ∀ now, ∀ r : Record, r.logger ∈ LogState.programLoggers →
        LogState.programLevel debug ≤ r.level →
        (log.write now r).2 = if level ≤ r.level then [r.line now] else [] := by
  intro environment debug log
  -- the levels are those of the last configuration, the handler is that of the first
  have hconfigured : log.Configured (LogState.rootLevelFor environment debug) debug := by
    show ((start.run time (calls ++ [.configure mode forced])).log).Configured _ _
    rw [run_append]
    exact configured_step (start.run time calls) mode forced
  refine ⟨hconfigured.root, fun name hname => (hconfigured.libraries name hname).ownLevel_eq,
    fun name hname => (hconfigured.programs name hname).ownLevel_eq, ?_⟩
  have hhandlers : log.handlers = _ := handlers_run time hstart (calls ++ [.configure mode forced])
  cases hfirst : firstLevel? start.environment (calls ++ [.configure mode forced]) with
  | none =>
      have hnot := (firstLevel?_eq_none_iff _ _).mp hfirst (.configure mode forced)
        (List.mem_append_right _ (List.mem_singleton_self _))
      cases hnot
  | some level =>
      rw [hfirst] at hhandlers
      refine ⟨level, rfl, fun hnone => ?_, hhandlers, fun now r hlogger hlevel => ?_⟩
      · exact Option.some.inj (hfirst.symm.trans (firstLevel?_concat hnone start time mode forced))
      · have hpositive : 0 < LogState.programLevel debug := by cases debug <;> decide
        have hsettled := hconfigured.programs r.logger hlogger
        rw [LogState.lines_write hsettled, if_pos ⟨Int.lt_of_lt_of_le hpositive hlevel, hlevel⟩,
          LogState.handled_stream hhandlers]

/-- A first configuration without debug logging, then calls that ask for it. -/
def lateCalls : List LogCall :=
  [.configure false none, .reset,
    .setEnvironment fun name => if name = LogState.debugVariable then some "Yes" else none]

/-- The log once debug logging is asked for late. -/
def lateLog : LogState :=
  (({} : LogSession).run "then" (lateCalls ++ [.configure false none])).log

theorem run_configured_late :
    ({} : LogSession).log.handlers = [] ∧
      LogState.wantsDebug (({} : LogSession).run "then" lateCalls).environment false none = true ∧
      lateLog.tree.ownLevel "vcal_lite" = 10 ∧
      lateLog.handlers = [.stream 20] ∧
      (lateLog.write "now" ⟨10, "vcal_lite", "hello"⟩).2 = [] ∧
      (lateLog.write "now" ⟨20, "vcal_lite", "hello"⟩).2 = ["[now] INFO - vcal_lite - hello"] := by
  have hstart : ({} : LogSession).log.handlers = [] := rfl
  have hdebug :
      LogState.wantsDebug (({} : LogSession).run "then" lateCalls).environment false none = true := by
    decide +kernel
  obtain ⟨-, -, hprograms, level, hfirst, -, hhandlers, hwritten⟩ :=
    run_configured "then" hstart lateCalls false none
  obtain rfl : level = 20 := Option.some.inj (hfirst.symm.trans (by decide +kernel))
  rw [hdebug] at hprograms hwritten
  refine ⟨hstart, hdebug, hprograms "vcal_lite" (by decide), hhandlers, ?_, ?_⟩
  · exact hwritten "now" ⟨10, "vcal_lite", "hello"⟩ (by decide) (by decide)
  · exact (hwritten "now" ⟨20, "vcal_lite", "hello"⟩ (by decide) (by decide)).trans
      (by decide +kernel)

/-- A record that is written behind a configuration may not be if another configuration
came before. -/
theorem debug_record_swallowed :
    LogState.wantsDebug (fun _ => none) false (some true) = true ∧
      ((({} : LogSession).run "then" [.configure false (some true)]).log.write "now"
        ⟨10, "vcal_lite", "hello"⟩).2 = ["[now] DEBUG - vcal_lite - hello"] ∧
      ((({} : LogSession).run "then" [.configure false none,
        .configure false (some true)]).log.write "now" ⟨10, "vcal_lite", "hello"⟩).2 = [] ∧
      (({} : LogSession).run "then" [.configure false (some true)]).log.handlers = [.stream 10] ∧
      (({} : LogSession).run "then" [.configure false none,
        .configure false (some true)]).log.handlers = [.stream 20] := by
  decide +kernel

end LogSession

end VCalendar
