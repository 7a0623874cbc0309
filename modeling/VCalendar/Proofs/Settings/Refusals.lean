import VCalendar.Proofs.Nesting.Steps
import VCalendar.Proofs.Settings.Values
import VCalendar.Proofs.Time.ZoneNames
import VCalendar.Settings.Load

/-!
# Settings that are refused

Loading settings goes through the file, the environment and the values. Main statements:
a mapping is refused exactly for an infinite limit, for a name or a level that cannot be
written, or for a failure of the host, the first of the values deciding; and loading fails
with what is wrong with the file or with the mapping.
-/

namespace VCalendar

/-- Whether an error is about the settings file as a whole, and not about its bytes, a
value or the host. -/
def LoadError.ofFile : LoadError → Bool
  | .unreadable .. | .notMapping .. | .malformed .. => true
  | .notUtf8 | .coercion _ | .host _ => false

theorem LoadError.ofFile_ofCoercion (cause : CoercionError HostError) :
    (ofCoercion cause).ofFile = false := by
  cases cause <;> rfl

theorem ZoneName.Database.normalize_utc {ε : Type} (db : Database ε) :
    db.normalize "UTC" = .ok (some "UTC") := by
  have hcandidate : candidate "UTC" = "UTC" := by decide +kernel
  rw [db.normalize_eq, hcandidate, if_pos rfl]

namespace Settings

variable {ε : Type} {h : Host ε} {raw : Value} {m : Mapping} {e : CoercionError ε}

/-! ## Limits -/

theorem coerceLimit_of_int {i : Int} (hreading : raw.toIntReading = .int i) :
    coerceLimit h raw =
      if i < minContentBytes then ⟨[.limitBelowMinimum i], .ok minContentBytes⟩
      else ⟨[], .ok i⟩ := by
  simp only [coerceLimit, hreading, Report.pure_bind]
  split <;> rfl

theorem coerceLimit_of_infinite (hreading : raw.toIntReading = .infinite) :
    coerceLimit h raw = Report.fail .infiniteLimit := by
  simp only [coerceLimit, hreading]
  rfl

theorem coerceLimit_of_notInt (hreading : raw.toIntReading = .notInt) :
    coerceLimit h raw =
      match h.logging raw with
      | none => ⟨[.limitNotInt raw], .ok defaultContentBytes⟩
      | some cause => Report.fail (.host cause) := by
  simp only [coerceLimit, hreading]
  cases h.logging raw <;> rfl

/-- What is wrong with the value of a limit. A value that is replaced is logged, which may
fail. -/
inductive LimitFlaw (h : Host ε) (raw : Value) : CoercionError ε → Prop
  | infinite {negative : Bool} : raw = .float (.infinite negative) →
      LimitFlaw h raw .infiniteLimit
  | unlogged {cause : ε} : raw.toIntReading = .notInt → h.logging raw = some cause →
      LimitFlaw h raw (.host cause)

theorem outcome_coerceLimit_eq_error_iff :
    (coerceLimit h raw).outcome = .error e ↔ LimitFlaw h raw e := by
  cases hreading : raw.toIntReading with
  | int i =>
      rw [coerceLimit_of_int hreading]
      refine iff_of_false ?_ ?_
      · split <;> nofun
      · rintro (⟨rfl⟩ | ⟨hnotInt, -⟩)
        · cases hreading
        · cases hreading.symm.trans hnotInt
  | infinite =>
      rw [coerceLimit_of_infinite hreading]
      obtain ⟨negative, rfl⟩ := Value.toIntReading_eq_infinite_iff.mp hreading
      constructor
      · intro herror
        cases herror
        exact .infinite rfl
      · rintro (- | ⟨hnotInt, -⟩)
        · rfl
        · cases hnotInt
  | notInt =>
      rw [coerceLimit_of_notInt hreading]
      cases hlogging : h.logging raw with
      | none =>
          refine iff_of_false nofun ?_
          rintro (⟨rfl⟩ | ⟨-, hcause⟩)
          · cases hreading
          · cases hlogging.symm.trans hcause
      | some cause =>
          constructor
          · intro herror
            cases herror
            exact .unlogged hreading hlogging
          · rintro (⟨rfl⟩ | ⟨-, hcause⟩)
            · cases hreading
            · cases hlogging.symm.trans hcause
              rfl

/-! ## Texts -/

theorem coerceText_of_other (hother : ∀ s, raw ≠ .text s) :
    coerceText h raw =
      match h.writing raw with
      | some cause => Report.fail (.host cause)
      | none => if raw.isWritable then pure raw.display else Report.fail .tooManyDigits := by
  unfold coerceText
  split
  · exact absurd rfl (hother _)
  · cases h.writing raw <;> rfl

/-- What is wrong with a value whose text is asked for. A text is its own. -/
inductive TextFlaw (h : Host ε) (raw : Value) : CoercionError ε → Prop
  | interrupted {cause : ε} : (∀ s, raw ≠ .text s) → h.writing raw = some cause →
      TextFlaw h raw (.host cause)
  | oversized : h.writing raw = none → raw.Oversized → TextFlaw h raw .tooManyDigits

theorem not_textFlaw_text (s : String) : ¬ TextFlaw h (.text s) e := by
  rintro (⟨hother, -⟩ | ⟨-, hlarge⟩)
  · exact hother s rfl
  · cases (Value.isWritable_eq_false_iff _).mpr hlarge

/-- The text of a value, unless something is wrong with it. Nothing is noted. -/
theorem coerceText_cases (h : Host ε) (raw : Value) :
    (∃ e, TextFlaw h raw e ∧ coerceText h raw = Report.fail e) ∨
      (∀ e, ¬ TextFlaw h raw e) ∧ coerceText h raw = pure raw.display := by
  by_cases htext : ∃ s, raw = .text s
  · obtain ⟨s, rfl⟩ := htext
    exact .inr ⟨fun _ => not_textFlaw_text s, rfl⟩
  · have hother : ∀ s, raw ≠ .text s := fun s hs => htext ⟨s, hs⟩
    rw [coerceText_of_other hother]
    cases hwriting : h.writing raw with
    | some cause => exact .inl ⟨_, .interrupted hother hwriting, rfl⟩
    | none =>
        cases hwritable : raw.isWritable with
        | false =>
            have hlarge := (Value.isWritable_eq_false_iff raw).mp hwritable
            exact .inl ⟨_, .oversized hwriting hlarge, rfl⟩
        | true =>
            refine .inr ⟨?_, rfl⟩
            rintro _ (⟨-, hcause⟩ | ⟨-, hlarge⟩)
            · cases hwriting.symm.trans hcause
            · cases hwritable.symm.trans ((Value.isWritable_eq_false_iff _).mpr hlarge)

theorem TextFlaw.unique {e' : CoercionError ε} (hflaw : TextFlaw h raw e)
    (hflaw' : TextFlaw h raw e') : e = e' := by
  cases hflaw with
  | interrupted _ hcause =>
      cases hflaw' with
      | interrupted _ hcause' =>
          cases hcause.symm.trans hcause'
          rfl
      | oversized hnone _ => cases hcause.symm.trans hnone
  | oversized hnone _ =>
      cases hflaw' with
      | interrupted _ hcause => cases hnone.symm.trans hcause
      | oversized => rfl

theorem coerceText_eq_error_iff :
    (coerceText h raw).outcome = .error e ↔ TextFlaw h raw e := by
  rcases coerceText_cases h raw with ⟨e', hflaw, htext⟩ | ⟨hflawless, htext⟩
  · rw [htext]
    constructor
    · intro herror
      cases herror
      exact hflaw
    · intro hflaw'
      rw [hflaw'.unique hflaw]
      rfl
  · rw [htext]
    exact iff_of_false nofun (hflawless e)

/-! ## Names of zones -/

theorem settleName_eq (h : Host ε) (name : String) :
    settleName h name =
      match h.database.normalize name with
      | .error cause => ⟨h.database.lookupEvents name, .error (.host cause)⟩
      | .ok (some _) => ⟨h.database.lookupEvents name, .ok name⟩
      | .ok none => ⟨h.database.lookupEvents name ++ [.fallbackUnknown name], .ok "UTC"⟩ := by
  unfold settleName
  rw [Report.bind_of_ok rfl]
  cases h.database.normalize name with
  | error cause => exact congrArg (Report.mk · _) (List.append_nil _)
  | ok known =>
      cases known with
      | none => rfl
      | some identifier => exact congrArg (Report.mk · _) (List.append_nil _)

theorem settleName_eq_error_iff {name : String} :
    (settleName h name).outcome = .error e ↔
      ∃ cause, h.database.normalize name = .error cause ∧ e = .host cause := by
  rw [settleName_eq]
  cases h.database.normalize name with
  | error cause => simp [eq_comm]
  | ok known => cases known <;> simp

/-- What is wrong with the value of a fallback zone. What counts as false is not looked at. -/
inductive FallbackFlaw (h : Host ε) (raw : Value) : CoercionError ε → Prop
  | text {e : CoercionError ε} : raw.truthy = true → TextFlaw h raw e → FallbackFlaw h raw e
  | lookup {cause : ε} : raw.truthy = true → (∀ e, ¬ TextFlaw h raw e) →
      h.database.normalize raw.display = .error cause → FallbackFlaw h raw (.host cause)

theorem coerceFallback_eq_error_iff :
    (coerceFallback h raw).outcome = .error e ↔ FallbackFlaw h raw e := by
  unfold coerceFallback
  cases htruthy : raw.truthy with
  | false =>
      refine iff_of_false ?_ ?_
      · intro herror
        obtain ⟨cause, hcause, -⟩ := settleName_eq_error_iff.mp herror
        cases hcause.symm.trans h.database.normalize_utc
      · rintro (⟨hraw, -⟩ | ⟨hraw, -⟩)
        · cases htruthy.symm.trans hraw
        · cases htruthy.symm.trans hraw
  | true =>
      rw [if_pos rfl]
      rcases coerceText_cases h raw with ⟨e', hflaw, htext⟩ | ⟨hflawless, htext⟩
      · rw [htext, Report.bind_of_error rfl]
        constructor
        · intro herror
          cases herror
          exact .text htruthy hflaw
        · rintro (⟨-, hflaw'⟩ | ⟨-, hflawless, -⟩)
          · rw [hflaw'.unique hflaw]
          · exact absurd hflaw (hflawless e')
      · rw [htext, Report.pure_bind, settleName_eq_error_iff]
        constructor
        · rintro ⟨cause, hcause, rfl⟩
          exact .lookup htruthy hflawless hcause
        · rintro (⟨-, hflaw⟩ | ⟨-, -, hcause⟩)
          · exact absurd hflaw (hflawless e)
          · exact ⟨_, hcause, rfl⟩

/-! ## Levels -/

/-- What is wrong with the value of a level. -/
def LevelFlaw (h : Host ε) (raw : Value) (e : CoercionError ε) : Prop :=
  raw ≠ .null ∧ TextFlaw h raw e

theorem coerceLevel_of_ne (hraw : raw ≠ .null) :
    coerceLevel h raw = coerceText h raw >>= fun text => pure (Text.upper text) := by
  unfold coerceLevel
  split
  · exact absurd rfl hraw
  · rfl

theorem coerceLevel_eq_error_iff :
    (coerceLevel h raw).outcome = .error e ↔ LevelFlaw h raw e := by
  by_cases hnull : raw = .null
  · subst hnull
    exact iff_of_false nofun fun hflaw => hflaw.1 rfl
  · rw [coerceLevel_of_ne hnull, Report.bind_eq_error_iff, coerceText_eq_error_iff]
    simp [LevelFlaw, hnull]

/-! ## Mappings -/

/-- The value that a setting is made from: what the mapping gives, or a default. -/
def valueFor (m : Mapping) (key : String) (default : Value) : Value :=
  (m.find? key).getD default

/-- What is wrong with a mapping that no settings are made of. The values are looked at in
turn: that of the limit, that of the zone and that of the level. -/
inductive Unusable (h : Host ε) (m : Mapping) : CoercionError ε → Prop
  | limit {e : CoercionError ε} :
      LimitFlaw h (valueFor m limitKey (.int defaultContentBytes)) e → Unusable h m e
  | fallback {e : CoercionError ε} :
      (∀ e', ¬ LimitFlaw h (valueFor m limitKey (.int defaultContentBytes)) e') →
      FallbackFlaw h (valueFor m fallbackKey .null) e → Unusable h m e
  | level {e : CoercionError ε} :
      (∀ e', ¬ LimitFlaw h (valueFor m limitKey (.int defaultContentBytes)) e') →
      (∀ e', ¬ FallbackFlaw h (valueFor m fallbackKey .null) e') →
      LevelFlaw h (valueFor m levelKey .null) e → Unusable h m e

theorem exists_ok_iff {α : Type} {x : Except ε α} {p : Prop} :
    (∃ a, x = .ok a ∧ p) ↔ (∀ e, x ≠ .error e) ∧ p := by
  cases x <;> simp

theorem coerce_eq_error_iff :
    (coerce h m).outcome = .error e ↔ Unusable h m e := by
  unfold coerce
  simp only [Report.bind_eq_error_iff, exists_ok_iff, outcome_coerceLimit_eq_error_iff,
    coerceFallback_eq_error_iff, coerceLevel_eq_error_iff, Report.outcome_pure, reduceCtorEq,
    and_false, exists_false, or_false, ne_eq]
  constructor
  · rintro (hlimit | ⟨hlimit, hfallback | ⟨hfallback, hlevel⟩⟩)
    · exact .limit hlimit
    · exact .fallback hlimit hfallback
    · exact .level hlimit hfallback hlevel
  · rintro (hlimit | ⟨hlimit, hfallback⟩ | ⟨hlimit, hfallback, hlevel⟩)
    · exact .inl hlimit
    · exact .inr ⟨hlimit, .inl hfallback⟩
    · exact .inr ⟨hlimit, .inr ⟨hfallback, hlevel⟩⟩

/-! ## Files -/

variable {p : Platform} {w : Surroundings} {named : Option String}

/-- The environment overrides settings, it does not refuse any. -/
theorem outcome_override (w : Surroundings) (names : List (String × String)) (m : Mapping) :
    ∃ m', (override w names m).outcome = .ok m' := by
  induction names generalizing m with
  | nil => exact ⟨m, rfl⟩
  | cons entry rest ih =>
      obtain ⟨name, key⟩ := entry
      unfold override
      split
      · exact ih m
      · rw [Report.outcome_bind]
        exact ih _

/-- The mapping that settings are made from: that of the file, with what the environment
overrides. -/
def MadeFrom (p : Platform) (w : Surroundings) (named : Option String) (m : Mapping) : Prop :=
  ∃ file, (readSource p w (source w named)).outcome = .ok file ∧
    (override w overrides file).outcome = .ok m

/-- What is wrong with settings that are refused for their bytes, for a value or for a
failure of the host. -/
inductive Flaw (p : Platform) (w : Surroundings) (named : Option String) : LoadError → Prop
  | notUtf8 {bytes : ByteArray} : w.read (source w named).path = .ok bytes →
      Text.Utf8.decode? bytes.data.toList = none → Flaw p w named .notUtf8
  | loader {bytes : ByteArray} {cs : List Char} {cause : HostError} :
      w.read (source w named).path = .ok bytes →
      Text.Utf8.decode? bytes.data.toList = some cs →
      p.load (Text.normalizeEnds cs) = .error (.host cause) → Flaw p w named (.host cause)
  | unlogged {bytes : ByteArray} {cs : List Char} {raw : Value} {cause : HostError} :
      w.read (source w named).path = .ok bytes →
      Text.Utf8.decode? bytes.data.toList = some cs →
      p.load (Text.normalizeEnds cs) = .ok raw → raw ≠ .null → (∀ m, raw ≠ .map m) →
      p.host.logging raw = some cause → Flaw p w named (.host cause)
  | mapping {m : Mapping} {cause : CoercionError HostError} : MadeFrom p w named m →
      Unusable p.host m cause → Flaw p w named (.ofCoercion cause)

/-- What loading comes to. -/
inductive Loads (p : Platform) (w : Surroundings) (named : Option String)
    (load : Except LoadError Settings) : Prop
  | unread (cause : LoadError) : (readSource p w (source w named)).outcome = .error cause →
      load = .error cause → Loads p w named load
  | refused (m : Mapping) (cause : CoercionError HostError) : MadeFrom p w named m →
      (coerce p.host m).outcome = .error cause → load = .error (.ofCoercion cause) →
      Loads p w named load
  | loaded (m : Mapping) (s : Settings) : MadeFrom p w named m →
      (coerce p.host m).outcome = .ok s → load = .ok s → Loads p w named load

theorem outcome_loadOn (p : Platform) (w : Surroundings) (named : Option String) :
    (loadOn p w named).outcome = (readSource p w (source w named)).outcome >>= fun file =>
      (override w overrides file).outcome >>= fun m =>
        (coerce p.host m).outcome.mapError LoadError.ofCoercion := by
  simp only [loadOn, Report.outcome_bind]
  show (readSource p w (source w named)).outcome >>= _ = _
  congr 1
  funext file
  congr 1
  funext m
  show (coerce p.host m).outcome.mapError LoadError.ofCoercion >>= _ = _
  cases (coerce p.host m).outcome <;> rfl

/-- Loading from a mapping comes to what the mapping does. -/
theorem MadeFrom.outcome_loadOn (hmade : MadeFrom p w named m) :
    (loadOn p w named).outcome = (coerce p.host m).outcome.mapError LoadError.ofCoercion := by
  obtain ⟨file, hfile, hm⟩ := hmade
  rw [Settings.outcome_loadOn, hfile]
  show (override w overrides file).outcome >>= _ = _
  rw [hm]
  rfl

theorem loads (p : Platform) (w : Surroundings) (named : Option String) :
    Loads p w named (loadOn p w named).outcome := by
  cases hfile : (readSource p w (source w named)).outcome with
  | error cause =>
      refine .unread cause hfile ?_
      rw [outcome_loadOn, hfile]
      rfl
  | ok file =>
      obtain ⟨m, hm⟩ := outcome_override w overrides file
      have hmade : MadeFrom p w named m := ⟨file, hfile, hm⟩
      cases hsettings : (coerce p.host m).outcome with
      | error cause =>
          refine .refused m cause hmade hsettings ?_
          rw [hmade.outcome_loadOn, hsettings]
          rfl
      | ok s =>
          refine .loaded m s hmade hsettings ?_
          rw [hmade.outcome_loadOn, hsettings]
          rfl

/-! ## Errors -/

theorem readValue_eq_error_iff {bytes : ByteArray} {cause : LoadError} :
    (readValue p bytes).outcome = .error cause ↔
      (Text.Utf8.decode? bytes.data.toList = none ∧ cause = .notUtf8) ∨
        ∃ cs failure, Text.Utf8.decode? bytes.data.toList = some cs ∧
          p.load (Text.normalizeEnds cs) = .error failure ∧ cause = .ofLoader failure := by
  unfold readValue
  cases Text.Utf8.decode? bytes.data.toList with
  | none => simp [eq_comm]
  | some cs =>
      cases hload : p.load (Text.normalizeEnds cs) <;>
        simp [Report.ofExcept, Except.mapError, hload, eq_comm]

theorem mappingOf_eq_error_iff {shown : String} {cause : LoadError} :
    (mappingOf p shown raw).outcome = .error cause ↔
      (raw ≠ .null ∧ ∀ m, raw ≠ .map m) ∧
        ((∃ c, p.host.logging raw = some c ∧ cause = .host c) ∨
          p.host.logging raw = none ∧ cause = .notMapping shown) := by
  unfold mappingOf
  split
  · exact iff_of_false nofun fun h => h.1.1 rfl
  · exact iff_of_false nofun fun h => h.1.2 _ rfl
  next hnull hmap =>
    have hother : raw ≠ .null ∧ ∀ m, raw ≠ .map m := ⟨hnull, hmap⟩
    cases p.host.logging raw with
    | some c => simp [hother, eq_comm]
    | none =>
        show Except.error (LoadError.notMapping shown) = .error cause ↔ _
        simp [hother, eq_comm]

theorem readValue_eq_ok_iff {bytes : ByteArray} :
    (readValue p bytes).outcome = .ok raw ↔
      ∃ cs, Text.Utf8.decode? bytes.data.toList = some cs ∧
        p.load (Text.normalizeEnds cs) = .ok raw := by
  unfold readValue
  cases Text.Utf8.decode? bytes.data.toList with
  | none => simp
  | some cs =>
      cases hload : p.load (Text.normalizeEnds cs) <;>
        simp [Report.ofExcept, Except.mapError, hload]

/-- What goes wrong with the file: it cannot be read, its value is none, or is no mapping. -/
theorem readSource_eq_error_iff {s : Source} {cause : LoadError} :
    (readSource p w s).outcome = .error cause ↔
      (∃ failure, w.read s.path = .error failure ∧ failure.meansAbsent = false ∧
        cause = .unreadable s.shown failure) ∨
      ∃ bytes, w.read s.path = .ok bytes ∧
        ((readValue p bytes).outcome = .error cause ∨
          ∃ raw, (readValue p bytes).outcome = .ok raw ∧
            (mappingOf p s.shown raw).outcome = .error cause) := by
  unfold readSource
  cases w.read s.path with
  | error failure =>
      simp only [Except.error.injEq, reduceCtorEq, false_and, exists_false, or_false,
        exists_eq_left']
      cases failure.meansAbsent with
      | true => exact iff_of_false nofun nofun
      | false => simp [eq_comm]
  | ok bytes =>
      simp only [reduceCtorEq, false_and, exists_false, false_or, Except.ok.injEq,
        exists_eq_left']
      rw [Report.bind_eq_error_iff]
      refine or_congr_right (exists_congr fun raw => and_congr_right fun _ => ?_)
      rw [Report.bind_eq_error_iff, or_iff_left]
      rintro ⟨m, -, hnoted⟩
      cases hnoted

theorem flaw_of_readSource {cause : LoadError}
    (herror : (readSource p w (source w named)).outcome = .error cause)
    (hcause : cause.ofFile = false) : Flaw p w named cause := by
  rcases readSource_eq_error_iff.mp herror with
    ⟨failure, -, -, rfl⟩ | ⟨bytes, hread, hvalue | ⟨raw, hraw, hmap⟩⟩
  · cases hcause
  · rcases readValue_eq_error_iff.mp hvalue with
      ⟨hdecode, rfl⟩ | ⟨cs, failure, hdecode, hload, rfl⟩
    · exact .notUtf8 hread hdecode
    · cases failure with
      | malformed words => cases hcause
      | host cause => exact .loader hread hdecode hload
  · obtain ⟨cs, hdecode, hload⟩ := readValue_eq_ok_iff.mp hraw
    obtain ⟨⟨hnull, hother⟩, ⟨c, hlogging, rfl⟩ | ⟨-, rfl⟩⟩ := mappingOf_eq_error_iff.mp hmap
    · exact .unlogged hread hdecode hload hnull hother hlogging
    · cases hcause

theorem flaw_iff {cause : LoadError} :
    Flaw p w named cause ↔ (loadOn p w named).outcome = .error cause ∧ cause.ofFile = false := by
  have hunread : (readSource p w (source w named)).outcome = .error cause →
      (loadOn p w named).outcome = .error cause := by
    intro herror
    rw [outcome_loadOn, herror]
    rfl
  constructor
  · intro hflaw
    cases hflaw with
    | notUtf8 hread hdecode =>
        refine ⟨hunread (readSource_eq_error_iff.mpr (.inr ⟨_, hread, .inl ?_⟩)), rfl⟩
        exact readValue_eq_error_iff.mpr (.inl ⟨hdecode, rfl⟩)
    | loader hread hdecode hload =>
        refine ⟨hunread (readSource_eq_error_iff.mpr (.inr ⟨_, hread, .inl ?_⟩)), rfl⟩
        exact readValue_eq_error_iff.mpr (.inr ⟨_, _, hdecode, hload, rfl⟩)
    | unlogged hread hdecode hload hnull hother hlogging =>
        have hraw := readValue_eq_ok_iff.mpr ⟨_, hdecode, hload⟩
        refine ⟨hunread (readSource_eq_error_iff.mpr (.inr ⟨_, hread, .inr ⟨_, hraw, ?_⟩⟩)), rfl⟩
        exact mappingOf_eq_error_iff.mpr ⟨⟨hnull, hother⟩, .inl ⟨_, hlogging, rfl⟩⟩
    | mapping hmade hunusable =>
        refine ⟨?_, LoadError.ofFile_ofCoercion _⟩
        rw [hmade.outcome_loadOn, coerce_eq_error_iff.mpr hunusable]
        rfl
  · rintro ⟨hload, hcause⟩
    cases loads p w named with
    | unread cause' hfile herror =>
        cases hload.symm.trans herror
        exact flaw_of_readSource hfile hcause
    | refused m cause' hmade hsettings herror =>
        cases hload.symm.trans herror
        exact .mapping hmade (coerce_eq_error_iff.mp hsettings)
    | loaded m s hmade hsettings hok => cases hload.symm.trans hok

end Settings

end VCalendar
