import VCalendar.Logging

/-!
# Levels of loggers

Loggers come into being and remember what they let pass, and none of this changes a level
that has been set. Main statement: a logger below the root that has a level of its own lets
exactly the records from this level on pass, whatever the log has been used for before.
-/

namespace VCalendar

namespace LoggerTree

variable {t : LoggerTree} {name other : String} {level asked : Int}

/-! ## Loggers that come into being -/

theorem find?_map_branches {f : Branch → Branch} (hname : ∀ b, (f b).name = b.name)
    (branches : List Branch) (name : String) :
    (branches.map f).find? (·.name = name) = (branches.find? (·.name = name)).map f := by
  have hkey : (fun b : Branch => decide (b.name = name)) ∘ f = (decide <| ·.name = name) := by
    funext b
    simp [hname]
  rw [List.find?_map, hkey]

theorem name_adopt (name : String) (b : Branch) : (adopt name b).name = b.name := by
  unfold adopt
  split <;> rfl

theorem level_adopt (name : String) (b : Branch) : (adopt name b).level = b.level := by
  unfold adopt
  split <;> rfl

theorem rootLevel_register (t : LoggerTree) (name : String) :
    (t.register name).rootLevel = t.rootLevel := by
  unfold register
  split <;> rfl

theorem answers_register (t : LoggerTree) (name : String) :
    (t.register name).answers = t.answers := by
  unfold register
  split <;> rfl

/-- A new logger comes last, with no level of its own. -/
theorem branch?_register (t : LoggerTree) (name other : String) :
    ((t.register name).branch? other).elim 0 (·.level) = (t.branch? other).elim 0 (·.level) := by
  unfold register
  split
  · rfl
  · unfold branch?
    dsimp only
    rw [List.find?_append, find?_map_branches (name_adopt name)]
    cases t.branches.find? (·.name = other) with
    | some b => exact level_adopt name b
    | none =>
        rw [List.find?_singleton]
        split <;> rfl

theorem ownLevel_register (t : LoggerTree) (name other : String) :
    (t.register name).ownLevel other = t.ownLevel other := by
  unfold ownLevel
  rw [rootLevel_register, branch?_register]

theorem isSome_branch?_register (t : LoggerTree) (h : isRoot name = false) :
    ((t.register name).branch? name).isSome := by
  unfold register
  rw [h, Bool.false_or]
  split
  · rename_i hknown
    exact hknown
  · exact List.find?_isSome.mpr
      ⟨_, List.mem_append_right _ (List.mem_singleton_self _), decide_eq_true rfl⟩

/-! ## Levels that are set -/

theorem setLevel_of_isRoot (h : isRoot name = true) :
    t.setLevel name level = { t with rootLevel := level, answers := [] } := by
  rw [setLevel, if_pos h]

theorem answers_setLevel (t : LoggerTree) (name : String) (level : Int) :
    (t.setLevel name level).answers = [] := by
  unfold setLevel
  split <;> rfl

theorem rootLevel_setLevel (t : LoggerTree) (h : isRoot name = false) (level : Int) :
    (t.setLevel name level).rootLevel = t.rootLevel := by
  rw [setLevel, if_neg (by simp [h])]
  exact rootLevel_register t name

theorem branch?_setLevel (t : LoggerTree) (h : isRoot name = false) (level : Int)
    (other : String) :
    (t.setLevel name level).branch? other =
      ((t.register name).branch? other).map fun b =>
        if b.name = name then { b with level := level } else b := by
  rw [setLevel, if_neg (by simp [h])]
  exact find?_map_branches (fun b => by split <;> rfl) _ other

theorem ownLevel_setLevel_self (t : LoggerTree) (h : isRoot name = false) (level : Int) :
    (t.setLevel name level).ownLevel name = level := by
  obtain ⟨b, hb⟩ := Option.isSome_iff_exists.mp (isSome_branch?_register t h)
  have hname : b.name = name := by simpa using List.find?_some hb
  rw [ownLevel, h, if_neg Bool.false_ne_true, branch?_setLevel t h, hb, Option.map_some,
    if_pos hname]
  rfl

theorem ownLevel_setLevel_of_ne (t : LoggerTree) (hroot : isRoot other = false)
    (hne : other ≠ name) (level : Int) :
    (t.setLevel name level).ownLevel other = t.ownLevel other := by
  cases hname : isRoot name with
  | true =>
      rw [setLevel_of_isRoot hname, ownLevel, ownLevel, hroot]
      rfl
  | false =>
      have hregister := ownLevel_register t name other
      rw [ownLevel, hroot, if_neg Bool.false_ne_true] at hregister ⊢
      rw [← hregister, branch?_setLevel t hname]
      cases hb : (t.register name).branch? other with
      | none => rfl
      | some b =>
          have hother : b.name = other := by simpa using List.find?_some hb
          rw [Option.map_some, if_neg (hother ▸ hne)]

/-- A logger that has a level of its own looks no further. -/
theorem effectiveLevel_of_ownLevel (hroot : isRoot name = false) (h : t.ownLevel name ≠ 0) :
    t.effectiveLevel name = t.ownLevel name := by
  rw [ownLevel, hroot, if_neg Bool.false_ne_true] at h ⊢
  rw [effectiveLevel, levelFrom]
  cases hb : t.branch? name with
  | none =>
      rw [hb] at h
      exact absurd rfl h
  | some b =>
      rw [hb] at h
      exact if_pos h

/-! ## What is remembered -/

/-- A logger below the root has a level of its own, and what it remembers agrees with it. -/
structure Settled (t : LoggerTree) (name : String) (level : Int) : Prop where
  notRoot : isRoot name = false
  ne_zero : level ≠ 0
  ownLevel_eq : t.ownLevel name = level
  answer_eq : ∀ asked answer, t.answers.lookup (name, asked) = some answer →
    answer = (decide (0 < asked) && decide (level ≤ asked))

theorem settled_setLevel (t : LoggerTree) (hroot : isRoot name = false) (hlevel : level ≠ 0) :
    (t.setLevel name level).Settled name level where
  notRoot := hroot
  ne_zero := hlevel
  ownLevel_eq := ownLevel_setLevel_self t hroot level
  answer_eq asked answer h := by
    rw [answers_setLevel] at h
    cases h

namespace Settled

theorem setLevel (h : t.Settled name level) (hne : name ≠ other) (level' : Int) :
    (t.setLevel other level').Settled name level where
  notRoot := h.notRoot
  ne_zero := h.ne_zero
  ownLevel_eq := (ownLevel_setLevel_of_ne t h.notRoot hne level').trans h.ownLevel_eq
  answer_eq asked answer hanswer := by
    rw [answers_setLevel] at hanswer
    cases hanswer

theorem register (h : t.Settled name level) (other : String) :
    (t.register other).Settled name level where
  notRoot := h.notRoot
  ne_zero := h.ne_zero
  ownLevel_eq := (ownLevel_register t other name).trans h.ownLevel_eq
  answer_eq asked answer hanswer :=
    h.answer_eq asked answer (answers_register t other ▸ hanswer)

theorem effectiveLevel_eq (h : t.Settled name level) : t.effectiveLevel name = level := by
  rw [effectiveLevel_of_ownLevel h.notRoot (h.ownLevel_eq ▸ h.ne_zero), h.ownLevel_eq]

/-- **A level that is set decides.** -/
theorem ask_eq (h : t.Settled name level) (asked : Int) :
    (t.ask name asked).2 = (decide (0 < asked) && decide (level ≤ asked)) := by
  unfold ask
  dsimp only
  split
  · rename_i answer hanswer
    exact (h.register name).answer_eq asked answer hanswer
  · rw [(h.register name).effectiveLevel_eq]

/-- Asking any logger leaves the levels that are set in force. -/
theorem ask (h : t.Settled name level) (other : String) (asked : Int) :
    (t.ask other asked).1.Settled name level := by
  have hregister := h.register other
  unfold LoggerTree.ask
  dsimp only
  split
  · exact hregister
  · refine ⟨h.notRoot, h.ne_zero, hregister.ownLevel_eq, fun asked' answer hanswer => ?_⟩
    rw [List.lookup_cons] at hanswer
    split at hanswer
    · -- the answer remembered just now comes from the level in force
      rename_i hkey
      obtain ⟨rfl, rfl⟩ := Prod.mk.inj (eq_of_beq hkey)
      rw [← Option.some.inj hanswer, hregister.effectiveLevel_eq]
    · exact hregister.answer_eq asked' answer hanswer

end Settled

end LoggerTree

end VCalendar
