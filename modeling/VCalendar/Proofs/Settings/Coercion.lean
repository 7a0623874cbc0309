import VCalendar.Proofs.Settings.Refusals

/-!
# Settings that are made

Every mapping is made into settings, a value that cannot be used being replaced with a
warning, but for a few kinds of values. Main statement: what the settings and the warnings of
a mapping are, and which mappings have none: those with an infinite limit, those with an
integer of too many digits in the name of the zone or the level, and those that the host
fails on.
-/

namespace VCalendar.Settings

variable {ε : Type} {h : Host ε} {m : Mapping} {raw : Value} {s : Settings}

/-! ## What each setting is made from -/

/-- The limit that a value comes to, and what is warned of. -/
inductive LimitMade (raw : Value) : Int → List Event → Prop
  | taken {i : Int} : raw.toIntReading = .int i → minContentBytes ≤ i → LimitMade raw i []
  | raised {i : Int} : raw.toIntReading = .int i → i < minContentBytes →
      LimitMade raw minContentBytes [.limitBelowMinimum i]
  | replaced : raw.toIntReading = .notInt →
      LimitMade raw defaultContentBytes [.limitNotInt raw]

/-- The fallback zone that a value comes to, and what is warned of. -/
inductive FallbackMade (h : Host ε) (raw : Value) : String → List Event → Prop
  | absent : raw.truthy = false → FallbackMade h raw "UTC" []
  | taken {identifier : String} : raw.truthy = true →
      h.database.normalize raw.display = .ok (some identifier) →
      FallbackMade h raw raw.display []
  | replaced : raw.truthy = true → h.database.normalize raw.display = .ok none →
      FallbackMade h raw "UTC" [.fallbackUnknown raw.display]

/-- The level that a value comes to; nothing is warned of. -/
inductive LevelMade (raw : Value) : String → Prop
  | absent : raw = .null → LevelMade raw "INFO"
  | taken : raw ≠ .null → LevelMade raw (Text.upper raw.display)

/-- The warnings among some events. -/
def warnings (events : List Event) : List Event :=
  events.filter (·.level = .warning)

theorem warnings_append (events events' : List Event) :
    warnings (events ++ events') = warnings events ++ warnings events' :=
  List.filter_append events events'

/-- The lookup of a zone is noted, but it is no warning. -/
theorem warnings_lookupEvents (db : ZoneName.Database ε) (name : String) :
    warnings (db.lookupEvents name) = [] := by
  unfold ZoneName.Database.lookupEvents
  dsimp only
  split
  · rfl
  · split <;> rfl

theorem LimitMade.of_coerceLimit {limit : Int} (hlimit : (coerceLimit h raw).outcome = .ok limit) :
    LimitMade raw limit (warnings (coerceLimit h raw).events) := by
  cases hreading : raw.toIntReading with
  | int i =>
      rw [coerceLimit_of_int hreading] at hlimit ⊢
      split at hlimit
      next hsmall =>
        cases hlimit
        rw [if_pos hsmall]
        exact .raised hreading hsmall
      next hlarge =>
        cases hlimit
        rw [if_neg hlarge]
        exact .taken hreading (Int.not_lt.mp hlarge)
  | infinite =>
      rw [coerceLimit_of_infinite hreading] at hlimit
      cases hlimit
  | notInt =>
      rw [coerceLimit_of_notInt hreading] at hlimit ⊢
      split at hlimit
      · cases hlimit
        exact .replaced hreading
      · cases hlimit

theorem warnings_settleName {name settled : String}
    (hsettled : (settleName h name).outcome = .ok settled) :
    (∃ identifier, h.database.normalize name = .ok (some identifier) ∧ settled = name ∧
        warnings (settleName h name).events = []) ∨
      h.database.normalize name = .ok none ∧ settled = "UTC" ∧
        warnings (settleName h name).events = [.fallbackUnknown name] := by
  rw [settleName_eq] at hsettled ⊢
  split at hsettled
  · cases hsettled
  next identifier hname =>
    cases hsettled
    exact .inl ⟨identifier, hname, rfl, warnings_lookupEvents _ _⟩
  next hname =>
    cases hsettled
    refine .inr ⟨hname, rfl, ?_⟩
    rw [warnings_append, warnings_lookupEvents]
    rfl

theorem FallbackMade.of_coerceFallback {name : String}
    (hname : (coerceFallback h raw).outcome = .ok name) :
    FallbackMade h raw name (warnings (coerceFallback h raw).events) := by
  unfold coerceFallback at hname ⊢
  cases htruthy : raw.truthy with
  | false =>
      rw [htruthy, if_neg Bool.false_ne_true] at hname
      rw [if_neg Bool.false_ne_true]
      rcases warnings_settleName hname with ⟨_, -, rfl, hwarned⟩ | ⟨hunknown, -⟩
      · rw [hwarned]
        exact .absent htruthy
      · cases hunknown.symm.trans h.database.normalize_utc
  | true =>
      rw [htruthy, if_pos rfl] at hname
      rw [if_pos rfl]
      rcases coerceText_cases h raw with ⟨e, -, htext⟩ | ⟨-, htext⟩
      · rw [htext] at hname
        cases hname
      · rw [htext, Report.pure_bind] at hname ⊢
        rcases warnings_settleName hname with
          ⟨identifier, hknown, rfl, hwarned⟩ | ⟨hunknown, rfl, hwarned⟩
        · rw [hwarned]
          exact .taken htruthy hknown
        · rw [hwarned]
          exact .replaced htruthy hunknown

theorem LevelMade.of_coerceLevel {level : String}
    (hlevel : (coerceLevel h raw).outcome = .ok level) :
    LevelMade raw level ∧ (coerceLevel h raw).events = [] := by
  by_cases hnull : raw = .null
  · subst hnull
    cases hlevel
    exact ⟨.absent rfl, rfl⟩
  · rw [coerceLevel_of_ne hnull] at hlevel ⊢
    rcases coerceText_cases h raw with ⟨e, -, htext⟩ | ⟨-, htext⟩
    · rw [htext] at hlevel
      cases hlevel
    · rw [htext] at hlevel ⊢
      cases hlevel
      exact ⟨.taken hnull, rfl⟩

/-! ## Mappings -/

/-- The settings that a mapping comes to, and what is warned of. -/
inductive Made (h : Host ε) (m : Mapping) (s : Settings) (warned : List Event) : Prop
  | intro (limitWarned fallbackWarned : List Event) :
      LimitMade (valueFor m limitKey (.int defaultContentBytes)) s.maxContentBytes limitWarned →
      s.strictBlocks = coerceStrict (valueFor m strictKey (.bool false)) →
      FallbackMade h (valueFor m fallbackKey .null) s.fallbackTimezone fallbackWarned →
      LevelMade (valueFor m levelKey .null) s.logLevel →
      warned = limitWarned ++ fallbackWarned →
      Made h m s warned

theorem Made.of_coerce (hmade : (coerce h m).outcome = .ok s) :
    Made h m s (warnings (coerce h m).events) := by
  unfold coerce at hmade
  obtain ⟨limit, hlimit, hmade⟩ := Report.bind_eq_ok hmade
  obtain ⟨fallback, hfallback, hmade⟩ := Report.bind_eq_ok hmade
  obtain ⟨level, hlevel, hmade⟩ := Report.bind_eq_ok hmade
  cases hmade
  obtain ⟨hlevelMade, hsilent⟩ := LevelMade.of_coerceLevel hlevel
  refine .intro _ _ (.of_coerceLimit hlimit) rfl (.of_coerceFallback hfallback) hlevelMade ?_
  simp only [coerce, Report.events_bind, hlimit, hfallback, hlevel, hsilent, Report.events_pure,
    List.append_nil, warnings_append]
  rfl

/-- **Settings are made of a mapping, or it is unusable.** A mapping that is missing counts
as empty. Each setting is made from its value or from its default, and a limit or a zone that
cannot be used is replaced with a warning. No settings are made in these cases only: of an
infinite limit; of an integer of too many digits in the name of the zone or the level; and
where the host fails, be it to log the limit, to write the text of the zone or the level, or to
look for the zone. -/
theorem coerce_made_or_unusable (h : Host ε) (given : Option Mapping) :
    (∃ e, Unusable h (given.getD []) e ∧ (coerce h (given.getD [])).outcome = .error e) ∨
    (∀ e, ¬ Unusable h (given.getD []) e) ∧
      ∃ s, (coerce h (given.getD [])).outcome = .ok s ∧
        Made h (given.getD []) s (warnings (coerce h (given.getD [])).events) := by
  cases houtcome : (coerce h (given.getD [])).outcome with
  | error e => exact .inl ⟨e, coerce_eq_error_iff.mp houtcome, rfl⟩
  | ok s =>
      refine .inr ⟨?_, s, rfl, .of_coerce houtcome⟩
      intro e hunusable
      cases houtcome.symm.trans (coerce_eq_error_iff.mpr hunusable)

/-- An infinite limit is an error, and no warning; so is a zone that is looked for where a
directory is. -/
theorem coerce_infinite_limit :
    (coerce (.tireless .london) [(.text limitKey, .float (.infinite false))]).outcome =
        .error .infiniteLimit ∧
      (coerce (.tireless .london) [(.text limitKey, .float (.infinite false))]).events = [] ∧
      (coerce (.tireless .london) [(.text fallbackKey, .text "America")]).outcome =
        .error (.host (ZoneName.Database.directoryError "America")) ∧
      (coerce (.tireless .london) [(.text fallbackKey, .text "America")]).events = [] :=
  ⟨rfl, rfl, by decide +kernel, by decide +kernel⟩

end VCalendar.Settings
