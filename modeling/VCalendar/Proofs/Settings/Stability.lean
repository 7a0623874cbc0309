import VCalendar.Proofs.Settings.Coercion
import VCalendar.Proofs.Text.Upper
import VCalendar.Reader

/-!
# Settings that stay

Settings that are made of a mapping are within bounds: the limit is not too small, the
fallback zone is known and the level is in upper case. Main statement: a reader of such
settings falls back on exactly the zone that is named, without a warning, and the settings as
a mapping are made into themselves, without a warning.
-/

namespace VCalendar.Settings

variable {ε : Type} {h : Host ε} {m : Mapping} {s : Settings} {warned : List Event} {raw : Value}

/-- Settings within their bounds, on a host. -/
structure Coerced (h : Host ε) (s : Settings) : Prop where
  limit : minContentBytes ≤ s.maxContentBytes
  fallback : ∃ identifier, h.database.normalize s.fallbackTimezone = .ok (some identifier)
  level : Text.upper s.logLevel = s.logLevel

/-! ## What is made is within bounds -/

theorem LimitMade.minContentBytes_le {limit : Int} (hmade : LimitMade raw limit warned) :
    minContentBytes ≤ limit := by
  cases hmade with
  | taken _ hle => exact hle
  | raised => exact Int.le_refl _
  | replaced => decide

theorem FallbackMade.exists_normalize {name : String} (hmade : FallbackMade h raw name warned) :
    ∃ identifier, h.database.normalize name = .ok (some identifier) := by
  cases hmade with
  | absent => exact ⟨_, h.database.normalize_utc⟩
  | taken _ hknown => exact ⟨_, hknown⟩
  | replaced => exact ⟨_, h.database.normalize_utc⟩

theorem LevelMade.upper_eq {level : String} (hmade : LevelMade raw level) :
    Text.upper level = level := by
  cases hmade with
  | absent => decide +kernel
  | taken => exact Text.upper_upper _

theorem Made.coerced (hmade : Made h m s warned) : Coerced h s := by
  obtain ⟨_, _, hlimit, -, hfallback, hlevel, -⟩ := hmade
  exact ⟨hlimit.minContentBytes_le, hfallback.exists_normalize, hlevel.upper_eq⟩

/-! ## Settings as a mapping -/

theorem find?_toMapping (s : Settings) :
    s.toMapping.find? limitKey = some (.int s.maxContentBytes) ∧
      s.toMapping.find? strictKey = some (.bool s.strictBlocks) ∧
      s.toMapping.find? fallbackKey = some (.text s.fallbackTimezone) ∧
      s.toMapping.find? levelKey = some (.text s.logLevel) :=
  ⟨rfl, rfl, rfl, rfl⟩

namespace Coerced

theorem coerceLimit (hs : Coerced h s) :
    Settings.coerceLimit h (.int s.maxContentBytes) = pure s.maxContentBytes := by
  rw [coerceLimit_of_int rfl, if_neg (Int.not_lt.mpr hs.limit)]
  rfl

/-- A known name is not empty, so it counts as given. -/
theorem fallback_ne_empty (hs : Coerced h s) : s.fallbackTimezone ≠ "" := by
  intro hempty
  obtain ⟨identifier, hknown⟩ := hs.fallback
  rw [hempty] at hknown
  cases hknown

theorem coerceFallback (hs : Coerced h s) :
    Settings.coerceFallback h (.text s.fallbackTimezone) =
      ⟨h.database.lookupEvents s.fallbackTimezone, .ok s.fallbackTimezone⟩ := by
  obtain ⟨identifier, hknown⟩ := hs.fallback
  have htruthy : (Value.text s.fallbackTimezone).truthy = true :=
    decide_eq_true hs.fallback_ne_empty
  rw [Settings.coerceFallback, if_pos htruthy]
  show settleName h s.fallbackTimezone = _
  rw [settleName_eq, hknown]

theorem coerceLevel (hs : Coerced h s) :
    Settings.coerceLevel h (.text s.logLevel) = pure s.logLevel :=
  congrArg pure hs.level

theorem coerce_toMapping (hs : Coerced h s) :
    coerce h s.toMapping = ⟨h.database.lookupEvents s.fallbackTimezone, .ok s⟩ := by
  obtain ⟨hlimit, hstrict, hfallback, hlevel⟩ := s.find?_toMapping
  simp only [coerce, hlimit, hstrict, hfallback, hlevel, Option.getD_some, hs.coerceLimit,
    hs.coerceFallback, hs.coerceLevel, Report.pure_bind]
  rw [Report.bind_of_ok rfl]
  simp [coerceStrict, Value.truthy]

/-- What is checked of the name of the fallback zone is what is looked up later. -/
theorem fallback_eq (hs : Coerced h s) : ∃ zone,
    h.database.resolve s.fallbackTimezone = .ok (some zone) ∧
      h.database.fallback s.fallbackTimezone =
        ⟨h.database.lookupEvents s.fallbackTimezone, .ok zone⟩ := by
  obtain ⟨identifier, hknown⟩ := hs.fallback
  obtain ⟨zone, hresolve⟩ := h.database.exists_resolve_of_normalize hknown
  refine ⟨zone, hresolve, ?_⟩
  rw [ZoneName.Database.fallback_eq, hresolve]

end Coerced

/-- Settings are within their bounds exactly if they are made into themselves. -/
theorem coerced_iff : Coerced h s ↔ (coerce h s.toMapping).outcome = .ok s := by
  refine ⟨fun hs => congrArg Report.outcome hs.coerce_toMapping, ?_⟩
  exact fun hmade => (Made.of_coerce hmade).coerced

/-- **Settings that are made are within bounds and stay as they are.** A reader of them, with
whatever lookup of zones, falls back on the zone that their name stands for, and looking it up
is no warning. Made into a mapping and coerced again they come to themselves, again without a
warning. -/
theorem coerce_stable (h : Host ε) (given : Option Mapping)
    (hmade : (coerce h (given.getD [])).outcome = .ok s) :
    Coerced h s ∧
    (∃ zone, h.database.resolve s.fallbackTimezone = .ok (some zone) ∧
      ∀ resolver, (Reader.configured h.database s resolver).outcome = .ok ⟨s, resolver, zone⟩) ∧
    (∀ resolver name,
      .invalidFallback name ∉ (Reader.configured h.database s resolver).events) ∧
    (coerce h s.toMapping).outcome = .ok s ∧ warnings (coerce h s.toMapping).events = [] := by
  have hcoerced := (Made.of_coerce hmade).coerced
  obtain ⟨zone, hresolve, hfallback⟩ := hcoerced.fallback_eq
  have hreader : ∀ resolver, Reader.configured h.database s resolver =
      ⟨h.database.lookupEvents s.fallbackTimezone, .ok ⟨s, resolver, zone⟩⟩ := by
    intro resolver
    rw [Reader.configured, hfallback, Report.bind_of_ok rfl]
    exact congrArg (Report.mk · _) (List.append_nil _)
  refine ⟨hcoerced, ⟨zone, hresolve, fun resolver => by rw [hreader]⟩, ?_,
    coerced_iff.mp hcoerced, ?_⟩
  · intro resolver name hname
    have hwarning : .invalidFallback name ∈
        warnings (Reader.configured h.database s resolver).events :=
      List.mem_filter.mpr ⟨hname, rfl⟩
    rw [hreader, warnings_lookupEvents] at hwarning
    cases hwarning
  · rw [hcoerced.coerce_toMapping]
    exact warnings_lookupEvents _ _

/-- A mapping of texts, each in need of a reading. -/
def looseMapping : Mapping :=
  [(.text limitKey, .text " 2_048 "), (.text strictKey, .text " YES "),
    (.text fallbackKey, .text "\tGMT Standard Time "), (.text levelKey, .text "straße")]

/-- The settings that it is made into: the name of the zone keeps its blanks. -/
def looseSettings : Settings where
  maxContentBytes := 2048
  strictBlocks := true
  fallbackTimezone := "\tGMT Standard Time "
  logLevel := "STRASSE"

theorem coerce_stable_loose :
    (coerce (.tireless .london) looseMapping).outcome = .ok looseSettings ∧
      Coerced (.tireless .london) looseSettings ∧
      (Reader.configured .london looseSettings .unknowing).outcome =
        .ok ⟨looseSettings, .unknowing, .named "Europe/London" (.constant 0)⟩ ∧
      (coerce (.tireless .london) looseSettings.toMapping).outcome = .ok looseSettings ∧
      warnings (coerce (.tireless .london) looseSettings.toMapping).events = [] := by
  have hmade : (coerce (.tireless .london) looseMapping).outcome = .ok looseSettings := by
    decide +kernel
  have hnamed : ZoneName.Database.london.resolve looseSettings.fallbackTimezone =
      .ok (some (.named "Europe/London" (.constant 0))) := by
    decide +kernel
  obtain ⟨hcoerced, ⟨zone, hresolve, hreader⟩, -, hagain, hsilent⟩ :=
    coerce_stable (.tireless .london) (some looseMapping) hmade
  cases hresolve.symm.trans hnamed
  exact ⟨hmade, hcoerced, hreader .unknowing, hagain, hsilent⟩

end VCalendar.Settings
