import Mathlib.Data.List.DropRight
import VCalendar.Files
import VCalendar.Time.Zones

/-!
# Stable zone names

A zone name goes through two tables before the zone database is asked for it. Main
statement: for every zone database, the identifier that a name comes to stays as it is,
the zone of a name is that of its identifier, a name is without a zone exactly if it has
no identifier, and blanks around a name do not count.

No name that the tables lead to is looked up in them again, and none has blanks around it.
-/

namespace VCalendar

namespace Text

variable {p : Char → Bool} {cs : List Char}

/-- What is left after trimming has nothing more to trim. -/
theorem trimBoth_trimBoth (p : Char → Bool) (cs : List Char) :
    trimBoth p (trimBoth p cs) = trimBoth p cs := by
  have htrim : trimBoth p cs = (cs.dropWhile p).rdropWhile p := rfl
  have hfront : (trimBoth p cs).dropWhile p = trimBoth p cs := by
    rw [htrim, List.dropWhile_eq_self_iff]
    intro hpos
    have hpart := List.rdropWhile_prefix p (l := cs.dropWhile p)
    rw [List.IsPrefix.getElem hpart hpos]
    exact List.dropWhile_get_zero_not p cs (Nat.lt_of_lt_of_le hpos hpart.length_le)
  show ((trimBoth p cs).dropWhile p).rdropWhile p = trimBoth p cs
  rw [hfront, htrim, List.rdropWhile_idempotent]

theorem strip_strip (s : String) : strip (strip s) = strip s := by
  rw [strip, strip, String.toList_ofList, stripBlanks, stripBlanks, trimBoth_trimBoth]

/-- A text of blanks only. -/
def AllBlank (s : String) : Prop :=
  ∀ c ∈ s.toList, isBlank c = true

instance (s : String) : Decidable (AllBlank s) :=
  decidable_of_iff (s.toList.all isBlank = true) List.all_eq_true

/-- Blanks around a text are stripped with those that it has. -/
theorem strip_surround {before after : String} (s : String) (hbefore : AllBlank before)
    (hafter : AllBlank after) : strip (before ++ s ++ after) = strip s := by
  rw [strip, String.toList_append, String.toList_append, stripBlanks,
    trimBoth_surround _ hbefore hafter]
  rfl

end Text

namespace ZoneName

variable {name y : String}

/-! ## The tables -/

theorem substitute_cases (table : List (String × String)) (name : String) :
    table.lookup name = none ∨ ∃ entry ∈ table, substitute table name = entry.2 := by
  cases hlookup : table.lookup name with
  | none => exact .inl rfl
  | some target =>
      obtain ⟨l₁, l₂, rfl, -⟩ := List.lookup_eq_some_iff.mp hlookup
      refine .inr ⟨(name, target), by simp, ?_⟩
      rw [substitute, hlookup, Option.getD_some]

/-- A name that nothing else is to be written for. -/
structure Canonical (name : String) : Prop where
  plain : Text.strip name = name
  office : officeNames.lookup name = none
  aliased : aliases.lookup name = none

instance (name : String) : Decidable (Canonical name) :=
  decidable_of_iff (Text.strip name = name ∧ officeNames.lookup name = none ∧
      aliases.lookup name = none)
    ⟨fun h => ⟨h.1, h.2.1, h.2.2⟩, fun h => ⟨h.1, h.2, h.3⟩⟩

/-- Neither table leads to a name that is in one of them. -/
theorem canonical_of_entry : ∀ entry ∈ officeNames ++ aliases, Canonical entry.2 := by
  decide +kernel

theorem substitute_of_none {table : List (String × String)} (h : table.lookup name = none) :
    substitute table name = name := by
  rw [substitute, h, Option.getD_none]

theorem Canonical.candidate_eq (h : Canonical name) : candidate name = name := by
  rw [candidate, h.plain, substitute_of_none h.office, substitute_of_none h.aliased]

theorem canonical_candidate (name : String) : Canonical (candidate name) := by
  unfold candidate
  rcases substitute_cases officeNames (Text.strip name) with
    hoffice | ⟨entry, hentry, hoffice⟩
  · rw [substitute_of_none hoffice]
    rcases substitute_cases aliases (Text.strip name) with haliased | ⟨entry, hentry, haliased⟩
    · rw [substitute_of_none haliased]
      exact ⟨Text.strip_strip name, hoffice, haliased⟩
    · rw [haliased]
      exact canonical_of_entry entry (List.mem_append_right _ hentry)
  · -- the name that an office name stands for is no alias
    have hcanonical := canonical_of_entry entry (List.mem_append_left _ hentry)
    rw [hoffice, substitute_of_none hcanonical.aliased]
    exact hcanonical

theorem candidate_surround {before after : String} (name : String)
    (hbefore : Text.AllBlank before) (hafter : Text.AllBlank after) :
    candidate (before ++ name ++ after) = candidate name := by
  rw [candidate, Text.strip_surround name hbefore hafter, ← candidate]

namespace Database

variable {ε : Type} (db : Database ε)

/-! ## Looking names up -/

/-- The empty name needs no rule of its own. -/
theorem normalize_eq (name : String) :
    db.normalize name =
      if candidate name = "UTC" then .ok (some (candidate name))
      else (db.load (candidate name)).map fun rules => rules.map fun _ => candidate name := by
  unfold normalize
  split
  · rename_i hempty
    have hcandidate : candidate "" = "" := by decide +kernel
    rw [hempty, hcandidate, if_neg (by decide), db.unnamed]
    rfl
  · rfl

theorem resolve_eq (name : String) :
    db.resolve name =
      if candidate name = "UTC" then .ok (some .utc)
      else (db.load (candidate name)).map fun rules => rules.map (.named (candidate name)) := by
  rw [resolve, normalize_eq]
  generalize candidate name = c
  by_cases huniversal : c = "UTC"
  · rw [if_pos huniversal, if_pos huniversal]
    simp only [bind, Except.bind, pure, Except.pure, if_pos huniversal]
  · rw [if_neg huniversal, if_neg huniversal]
    cases hload : db.load c with
    | error e => rfl
    | ok rules =>
        cases rules with
        | none => rfl
        | some rules =>
            simp only [bind, Except.bind, Except.map, Option.map, pure, Except.pure,
              if_neg huniversal, hload]

/-- The fallback zone in terms of the lookup. -/
theorem fallback_eq (name : String) :
    db.fallback name =
      match db.resolve name with
      | .error e => ⟨db.lookupEvents name, .error e⟩
      | .ok (some zone) => ⟨db.lookupEvents name, .ok zone⟩
      | .ok none => ⟨db.lookupEvents name ++ [.invalidFallback name], .ok .utc⟩ := by
  unfold fallback
  cases db.resolve name with
  | error e => simp [Report.noteAll, Report.ofExcept, bind, Report.andThen]
  | ok zone =>
      cases zone <;>
        simp [Report.noteAll, Report.note, Report.ofExcept, bind, Report.andThen, pure]

theorem candidate_eq_of_normalize {db : Database ε} (h : db.normalize name = .ok (some y)) :
    candidate name = y := by
  rw [normalize_eq] at h
  split at h
  · cases h
    rfl
  · cases hload : db.load (candidate name) with
    | error e =>
        rw [hload] at h
        cases h
    | ok rules =>
        rw [hload] at h
        cases rules with
        | none => cases h
        | some rules =>
            cases h
            rfl

/-- Names with one candidate are looked up alike. -/
theorem resolve_congr {name' : String} (h : candidate name' = candidate name) :
    db.normalize name' = db.normalize name ∧ db.resolve name' = db.resolve name ∧
      (db.fallback name').outcome = (db.fallback name).outcome := by
  have hresolve : db.resolve name' = db.resolve name := by
    rw [resolve_eq, resolve_eq, h]
  refine ⟨by rw [normalize_eq, normalize_eq, h], hresolve, ?_⟩
  rw [fallback_eq, fallback_eq, hresolve]
  cases db.resolve name with
  | error e => rfl
  | ok zone => cases zone <;> rfl

theorem resolve_eq_none_iff : db.resolve name = .ok none ↔ db.normalize name = .ok none := by
  rw [resolve_eq, normalize_eq]
  split
  · exact iff_of_false nofun nofun
  · cases db.load (candidate name) with
    | error e => exact iff_of_false nofun nofun
    | ok rules =>
        cases rules with
        | none => exact iff_of_true rfl rfl
        | some rules => exact iff_of_false nofun nofun

theorem resolve_eq_error_iff (e : ε) :
    db.resolve name = .error e ↔ db.normalize name = .error e := by
  rw [resolve_eq, normalize_eq]
  split
  · exact iff_of_false nofun nofun
  · cases db.load (candidate name) with
    | error e' => exact ⟨fun h => by cases h; rfl, fun h => by cases h; rfl⟩
    | ok rules => exact iff_of_false nofun nofun

theorem exists_resolve_of_normalize (h : db.normalize name = .ok (some y)) :
    ∃ zone, db.resolve name = .ok (some zone) := by
  cases hresolve : db.resolve name with
  | error e => cases h.symm.trans ((db.resolve_eq_error_iff e).mp hresolve)
  | ok zone =>
      cases zone with
      | none => cases h.symm.trans (db.resolve_eq_none_iff.mp hresolve)
      | some zone => exact ⟨zone, rfl⟩

/-- The warning is noted exactly if there is no zone. -/
theorem invalidFallback_mem_iff :
    .invalidFallback name ∈ (db.fallback name).events ↔ db.normalize name = .ok none := by
  have hlookup : .invalidFallback name ∉ db.lookupEvents name := by
    unfold lookupEvents
    dsimp only
    split
    · simp
    · split <;> simp
  rw [← resolve_eq_none_iff, fallback_eq]
  cases db.resolve name with
  | error e => exact iff_of_false hlookup nofun
  | ok zone =>
      cases zone with
      | none => exact iff_of_true (List.mem_append_right _ List.mem_cons_self) rfl
      | some zone => exact iff_of_false hlookup nofun

/-- What holds of a zone name in a database. -/
structure Stable (name : String) : Prop where
  /-- The identifier of a name is its own, and has the zone of the name. -/
  fixed : ∀ y, db.normalize name = .ok (some y) → db.normalize y = .ok (some y) ∧
    ∃ zone, db.resolve name = .ok (some zone) ∧ db.resolve y = .ok (some zone)
  unknown : db.resolve name = .ok none ↔ db.normalize name = .ok none
  /-- A zone is looked for without an answer exactly if its identifier is. -/
  failed : ∀ e, db.resolve name = .error e ↔ db.normalize name = .error e
  warned : .invalidFallback name ∈ (db.fallback name).events ↔ db.normalize name = .ok none
  universal : db.normalize name = .ok none → (db.fallback name).outcome = .ok .utc
  /-- Blanks around a name change neither what it comes to nor whether it is warned of. -/
  surrounded : ∀ before after : String, Text.AllBlank before → Text.AllBlank after →
      db.normalize (before ++ name ++ after) = db.normalize name ∧
      db.resolve (before ++ name ++ after) = db.resolve name ∧
      (db.fallback (before ++ name ++ after)).outcome = (db.fallback name).outcome ∧
      (.invalidFallback (before ++ name ++ after) ∈
          (db.fallback (before ++ name ++ after)).events ↔
        .invalidFallback name ∈ (db.fallback name).events)

/-- **Zone names are normalized to fixed points, and lookup goes through them.** This holds
of every name in every zone database, whether or not it answers. -/
theorem lookup_stable (db : Database ε) (name : String) : db.Stable name where
  fixed y hy := by
    have hcandidate : candidate y = candidate name := by
      rw [← candidate_eq_of_normalize hy, (canonical_candidate name).candidate_eq]
    obtain ⟨hnormalize, hresolve, -⟩ := db.resolve_congr hcandidate
    obtain ⟨zone, hzone⟩ := db.exists_resolve_of_normalize hy
    exact ⟨hnormalize.trans hy, zone, hzone, hresolve.trans hzone⟩
  unknown := db.resolve_eq_none_iff
  failed := db.resolve_eq_error_iff
  warned := db.invalidFallback_mem_iff
  universal hnone := by
    rw [fallback_eq, db.resolve_eq_none_iff.mpr hnone]
  surrounded before after hbefore hafter := by
    obtain ⟨hnormalize, hresolve, hfallback⟩ :=
      db.resolve_congr (candidate_surround name hbefore hafter)
    refine ⟨hnormalize, hresolve, hfallback, ?_⟩
    rw [invalidFallback_mem_iff, invalidFallback_mem_iff, hnormalize]

/-- The failure of a database whose entry of a name is a directory. -/
def directoryError (name : String) : HostError :=
  .system (FileError.isDirectory.message name)

/-- A database that knows a single zone, and has a directory beside it. -/
def single (identifier : String) (rules : ZoneRules) : Database HostError where
  load := fun name =>
    if name = "" then .ok none
    else if name = identifier then .ok (some rules)
    else if name = "America" then .error (directoryError name)
    else .ok none
  unnamed := rfl

/-- A database that knows London, where time is universal time before any transition. -/
def london : Database HostError :=
  single "Europe/London" (.constant 0)

/-- An office name between a no-break space and a tab, a name of blanks only, and a name
that is not answered. -/
theorem lookup_stable_surrounded :
    london.normalize "\u00a0GMT Standard Time\t" = .ok (some "Europe/London") ∧
      london.normalize "Europe/London" = .ok (some "Europe/London") ∧
      london.resolve "\u00a0GMT Standard Time\t" = london.resolve "Europe/London" ∧
      london.resolve "\u2003" = .ok none ∧
      .invalidFallback "\u2003" ∈ (london.fallback "\u2003").events ∧
      (london.fallback "\u2003").outcome = .ok .utc ∧
      london.resolve "America\n" =
        .error (.system "[Errno 21] Is a directory: 'America'") := by
  have hplain : london.normalize "GMT Standard Time" = .ok (some "Europe/London") := by
    decide +kernel
  have hempty : london.normalize "" = .ok none := rfl
  obtain ⟨hfixed, zone, hzone, hzone'⟩ :=
    (lookup_stable london "GMT Standard Time").fixed "Europe/London" hplain
  obtain ⟨hnormalize, hresolve, -, -⟩ :=
    (lookup_stable london "GMT Standard Time").surrounded "\u00a0" "\t" (by decide) (by decide)
  obtain ⟨hblank, -, -, -⟩ :=
    (lookup_stable london "").surrounded "\u2003" "" (by decide) (by decide)
  have hnone : london.normalize "\u2003" = .ok none := hblank.trans hempty
  have hstable := lookup_stable london "\u2003"
  have hdirectory : london.normalize "America\n" =
      .error (.system "[Errno 21] Is a directory: 'America'") := by
    decide +kernel
  exact ⟨hnormalize.trans hplain, hfixed, (hresolve.trans hzone).trans hzone'.symm,
    hstable.unknown.mpr hnone, hstable.warned.mpr hnone, hstable.universal hnone,
    ((lookup_stable london "America\n").failed _).mpr hdirectory⟩

end Database

end ZoneName

end VCalendar
