import VCalendar.Proofs.Logging.Levels

/-!
# What configuring sets

A configuration sets the level of the root and those of eight loggers, and adds a handler
only where there is none. What is logged afterwards changes neither. Main statements: the
levels behind a configuration are those that its arguments and the environment ask for, and
what a configured logger writes is decided by its level and that of the handler.
-/

namespace VCalendar

namespace LogState

variable {s : LogState} {time name : String} {level : Int} {r : Record}

/-! ## Writing -/

theorem writeAll_cons (s : LogState) (time : String) (r : Record) (rest : List Record) :
    s.writeAll time (r :: rest) =
      (((s.write time r).1.writeAll time rest).1,
        (s.write time r).2 ++ ((s.write time r).1.writeAll time rest).2) := rfl

/-- What writing one record keeps, writing many keeps. -/
theorem writeAll_induction {P : LogState → Prop} (hwrite : ∀ s r, P s → P (s.write time r).1)
    (records : List Record) (h : P s) : P (s.writeAll time records).1 := by
  induction records generalizing s with
  | nil => exact h
  | cons r rest ih =>
      rw [writeAll_cons]
      exact ih (hwrite s r h)

theorem handlers_write (s : LogState) (time : String) (r : Record) :
    (s.write time r).1.handlers = s.handlers := rfl

theorem handlers_writeAll (s : LogState) (time : String) (records : List Record) :
    (s.writeAll time records).1.handlers = s.handlers :=
  writeAll_induction (P := fun s' => s'.handlers = s.handlers) (fun _ _ h => h) records rfl

theorem rootLevel_write (s : LogState) (time : String) (r : Record) :
    (s.write time r).1.tree.rootLevel = s.tree.rootLevel := by
  show (s.tree.ask r.logger r.level).1.rootLevel = _
  unfold LoggerTree.ask
  dsimp only
  split <;> exact LoggerTree.rootLevel_register s.tree r.logger

theorem rootLevel_writeAll (s : LogState) (time : String) (records : List Record) :
    (s.writeAll time records).1.tree.rootLevel = s.tree.rootLevel :=
  writeAll_induction (P := fun s' => s'.tree.rootLevel = s.tree.rootLevel)
    (fun s' r h => (rootLevel_write s' time r).trans h) records rfl

theorem settled_writeAll (h : s.tree.Settled name level) (records : List Record) :
    (s.writeAll time records).1.tree.Settled name level :=
  writeAll_induction (P := fun s' => s'.tree.Settled name level)
    (fun _ r h => h.ask r.logger r.level) records h

theorem lines_write (h : s.tree.Settled r.logger level) :
    (s.write time r).2 = if 0 < r.level ∧ level ≤ r.level then s.handled time r else [] := by
  show (if (s.tree.ask r.logger r.level).2 then s.handled time r else []) = _
  simp [h.ask_eq]

/-- A single handler writes a record at most once. -/
theorem handled_stream (h : s.handlers = [.stream level]) (time : String) (r : Record) :
    s.handled time r = if level ≤ r.level then [r.line time] else [] := by
  rw [handled, h]
  by_cases hle : level ≤ r.level <;> simp [hle]

theorem lines_write_below (h : s.handlers = [.stream level]) (hlevel : r.level < level) :
    (s.write time r).2 = [] := by
  show (if (s.tree.ask r.logger r.level).2 then s.handled time r else []) = _
  rw [handled_stream h, if_neg (Int.not_le.mpr hlevel), ite_self]

theorem lines_writeAll_below {records : List Record} (h : s.handlers = [.stream level])
    (hrecords : ∀ r ∈ records, r.level < level) (time : String) :
    (s.writeAll time records).2 = [] := by
  induction records generalizing s with
  | nil => rfl
  | cons r rest ih =>
      obtain ⟨hr, hrest⟩ := List.forall_mem_cons.mp hrecords
      have hnext := ih ((handlers_write s time r).trans h) hrest
      rw [writeAll_cons, lines_write_below h hr, hnext]
      rfl

/-! ## Setting levels -/

theorem setLevels_cons (s : LogState) (name : String) (names : List String) (level : Int) :
    s.setLevels (name :: names) level = (s.setLevel name level).setLevels names level := rfl

theorem handlers_setLevels (s : LogState) (names : List String) (level : Int) :
    (s.setLevels names level).handlers = s.handlers := by
  induction names generalizing s with
  | nil => rfl
  | cons name names ih =>
      rw [setLevels_cons, ih]
      rfl

theorem rootLevel_setLevels {names : List String}
    (h : ∀ name ∈ names, LoggerTree.isRoot name = false) (s : LogState) (level : Int) :
    (s.setLevels names level).tree.rootLevel = s.tree.rootLevel := by
  induction names generalizing s with
  | nil => rfl
  | cons name names ih =>
      obtain ⟨hname, hnames⟩ := List.forall_mem_cons.mp h
      rw [setLevels_cons, ih hnames]
      exact LoggerTree.rootLevel_setLevel s.tree hname level

theorem settled_setLevels_of_notMem {names : List String} (h : s.tree.Settled name level)
    (hnot : name ∉ names) (level' : Int) : (s.setLevels names level').tree.Settled name level := by
  induction names generalizing s with
  | nil => exact h
  | cons other names ih =>
      rw [List.mem_cons, not_or] at hnot
      exact ih (h.setLevel hnot.1 level') hnot.2

theorem settled_setLevels_of_mem {names : List String} (hroot : LoggerTree.isRoot name = false)
    (hlevel : level ≠ 0) (hmem : name ∈ names) (s : LogState) :
    (s.setLevels names level).tree.Settled name level := by
  induction names generalizing s with
  | nil => cases hmem
  | cons other names ih =>
      rw [setLevels_cons]
      by_cases hrest : name ∈ names
      · exact ih hrest (s.setLevel other level)
      · -- the last name that is set is this one
        rcases List.mem_cons.mp hmem with rfl | hmem
        · exact settled_setLevels_of_notMem
            (LoggerTree.settled_setLevel s.tree hroot hlevel) hrest level
        · exact absurd hmem hrest

/-! ## Configuring -/

/-- The level of the loggers of the program. -/
def programLevel (debug : Bool) : Int :=
  if debug then Level.debug.number else Level.info.number

theorem programLevel_ne_zero (debug : Bool) : programLevel debug ≠ 0 := by
  cases debug <;> decide

theorem isRoot_libraryLogger : ∀ name ∈ libraryLoggers, LoggerTree.isRoot name = false := by
  decide

theorem isRoot_programLogger : ∀ name ∈ programLoggers, LoggerTree.isRoot name = false := by
  decide

theorem libraryLogger_notMem : ∀ name ∈ libraryLoggers, name ∉ programLoggers := by
  decide

/-- The levels that a configuration leaves: that of the root, and those of the libraries
and of the program. -/
structure Configured (s : LogState) (rootLevel : Int) (debug : Bool) : Prop where
  root : s.tree.rootLevel = rootLevel
  libraries : ∀ name ∈ libraryLoggers, s.tree.Settled name Level.warning.number
  programs : ∀ name ∈ programLoggers, s.tree.Settled name (programLevel debug)

variable {environment : String → Option String} {mode : Bool} {forced : Option Bool}

theorem configured_configure (s : LogState) (environment : String → Option String) (mode : Bool)
    (forced : Option Bool) :
    (s.configure environment mode forced).1.Configured
      (rootLevelFor environment (wantsDebug environment mode forced))
      (wantsDebug environment mode forced) where
  root := by
    unfold configure
    dsimp only
    rw [rootLevel_setLevels isRoot_programLogger, rootLevel_setLevels isRoot_libraryLogger]
    rfl
  libraries name hname :=
    settled_setLevels_of_notMem
      (settled_setLevels_of_mem (isRoot_libraryLogger name hname) (by decide) hname _)
      (libraryLogger_notMem name hname) _
  programs name hname :=
    settled_setLevels_of_mem (isRoot_programLogger name hname) (programLevel_ne_zero _) hname _

/-- Handlers that are there stay, and the first one has the level of the root. -/
theorem handlers_configure (s : LogState) (environment : String → Option String) (mode : Bool)
    (forced : Option Bool) :
    (s.configure environment mode forced).1.handlers =
      if s.handlers = [] then
        [.stream (rootLevelFor environment (wantsDebug environment mode forced))]
      else s.handlers := by
  unfold configure
  dsimp only
  rw [handlers_setLevels, handlers_setLevels]
  simp

theorem Configured.writeAll {rootLevel : Int} {debug : Bool} (h : s.Configured rootLevel debug)
    (time : String) (records : List Record) :
    (s.writeAll time records).1.Configured rootLevel debug where
  root := (rootLevel_writeAll s time records).trans h.root
  libraries name hname := settled_writeAll (h.libraries name hname) records
  programs name hname := settled_writeAll (h.programs name hname) records

/-! ## The other calls -/

theorem handlers_applyRootLevel (s : LogState) (name : String) :
    (s.applyRootLevel name).1.handlers = s.handlers := by
  unfold applyRootLevel
  dsimp only
  split <;> rfl

theorem handlers_reset (s : LogState) : s.reset.1.handlers = s.handlers := by
  unfold reset
  exact handlers_setLevels _ _ _

/-- Levels that are set below the root stay in force. -/
theorem settled_applyRootLevel (h : s.tree.Settled name level) (rootName : String) :
    (s.applyRootLevel rootName).1.tree.Settled name level := by
  have hne : name ≠ LoggerTree.rootName := by
    rintro rfl
    exact absurd h.notRoot (by decide)
  unfold applyRootLevel
  dsimp only
  split
  · exact h.setLevel hne _
  · exact h

/-! ## One level for all -/

/-- The program and the only handler have the same level. -/
structure WritesFrom (s : LogState) (level : Int) : Prop where
  handlers : s.handlers = [.stream level]
  programs : ∀ name ∈ programLoggers, s.tree.Settled name level

/-- A first configuration without debug logging lets information pass. -/
theorem writesFrom_configure (hhandlers : s.handlers = [])
    (hdebug : wantsDebug environment mode forced = false)
    (hlevel : rootLevelFor environment false = Level.info.number) :
    (s.configure environment mode forced).1.WritesFrom Level.info.number where
  handlers := by rw [handlers_configure, if_pos hhandlers, hdebug, hlevel]
  programs name hname := by
    have hsettled := (configured_configure s environment mode forced).programs name hname
    rw [hdebug] at hsettled
    exact hsettled

namespace WritesFrom

theorem writeAll (h : s.WritesFrom level) (time : String) (records : List Record) :
    (s.writeAll time records).1.WritesFrom level where
  handlers := (handlers_writeAll s time records).trans h.handlers
  programs name hname := settled_writeAll (h.programs name hname) records

/-- The level of the root decides nothing for the program. -/
theorem applyRootLevel (h : s.WritesFrom level) (name : String) :
    (s.applyRootLevel name).1.WritesFrom level where
  handlers := (handlers_applyRootLevel s name).trans h.handlers
  programs other hother := settled_applyRootLevel (h.programs other hother) name

theorem lines_write (h : s.WritesFrom level) (hpositive : 0 < level)
    (hlogger : r.logger ∈ programLoggers) (time : String) :
    (s.write time r).2 = if level ≤ r.level then [r.line time] else [] := by
  rw [LogState.lines_write (h.programs r.logger hlogger), handled_stream h.handlers]
  by_cases hlevel : level ≤ r.level
  · rw [if_pos ⟨Int.lt_of_lt_of_le hpositive hlevel, hlevel⟩]
  · rw [if_neg hlevel, ite_self]

/-- **What the program logs is written from this level on**, in order and once each. -/
theorem lines_writeAll (h : s.WritesFrom level) (hpositive : 0 < level) {records : List Record}
    (hloggers : ∀ r ∈ records, r.logger ∈ programLoggers) (time : String) :
    (s.writeAll time records).2 = (records.filter (level ≤ ·.level)).map (Record.line time) := by
  induction records generalizing s with
  | nil => rfl
  | cons r rest ih =>
      obtain ⟨hlogger, hrest⟩ := List.forall_mem_cons.mp hloggers
      have hnext : (s.write time r).1.WritesFrom level := h.writeAll time [r]
      rw [writeAll_cons, ih hnext hrest, h.lines_write hpositive hlogger, List.filter_cons]
      by_cases hlevel : level ≤ r.level <;> simp [hlevel]

end WritesFrom

end LogState

end VCalendar
