import Mathlib.Order.Bounds.Basic
import VCalendar.Proofs.Nesting.Lenient
import VCalendar.Proofs.Positions

/-!
# Unmatched lines

Where labels do not count, an END line goes with the BEGIN line before it if there is a
balanced word between them. Lenient nesting passes over the END lines that go with none and
keeps the blocks that none goes with open. Main statement: the lines that are passed over are
those behind which more blocks have been closed than ever before, so the most that is closed
in excess at any place counts them, and together with the excess at the end it counts the
blocks that are left open.
-/

namespace VCalendar

variable {lines before after : List String} {line label : String} {b b' : OpenLine}
  {strays : List (String × Nat)} {blocks outer : List OpenLine}

/-! ## Excess -/

/-- How many more blocks some lines close than they open. -/
def excess (lines : List String) : Int :=
  -surplus (brackets lines)

@[simp] theorem excess_append (lines lines' : List String) :
    excess (lines ++ lines') = excess lines + excess lines' := by
  rw [excess, brackets_append, surplus_append, Int.neg_add]
  rfl

theorem excess_of_none (h : bracketOf line = none) : excess [line] = 0 := by
  rw [excess, brackets_singleton_none h]
  rfl

theorem excess_of_opening (h : bracketOf line = some (.opening label)) : excess [line] = -1 := by
  rw [excess, brackets_cons_some h]
  rfl

theorem excess_of_closing (h : bracketOf line = some (.closing label)) : excess [line] = 1 := by
  rw [excess, brackets_cons_some h]
  rfl

/-- Only an END line adds to the excess. -/
theorem exists_closing_of_excess_pos (h : 0 < excess [line]) :
    ∃ label, bracketOf line = some (.closing label) := by
  cases hbracket : bracketOf line with
  | none =>
      rw [excess_of_none hbracket] at h
      cases h
  | some bracket =>
      cases bracket with
      | opening label =>
          rw [excess_of_opening hbracket] at h
          cases h
      | closing label => exact ⟨label, rfl⟩

theorem excess_cons_opening (h : bracketOf line = some (.opening label)) (lines : List String) :
    excess (line :: lines) = excess lines - 1 := by
  rw [← List.singleton_append, excess_append, excess_of_opening h]
  omega

theorem forall_prefix_excess_iff :
    (∀ p, p <+: lines → excess p ≤ 0) ↔
      ∀ before line after, lines = before ++ line :: after → excess (before ++ [line]) ≤ 0 := by
  constructor
  · rintro h before line after rfl
    exact h (before ++ [line]) ⟨after, List.append_assoc ..⟩
  · rintro h p ⟨more, rfl⟩
    rcases List.eq_nil_or_concat' p with rfl | ⟨before, line, rfl⟩
    · exact Int.le_refl 0
    · exact h before line more (List.append_assoc ..)

/-- Lines are balanced if they never close in excess and end without excess. -/
theorem balanced_brackets_iff :
    Balanced (brackets lines) ↔ (∀ p, p <+: lines → excess p ≤ 0) ∧ excess lines = 0 := by
  constructor
  · intro h
    refine ⟨?_, ?_⟩
    · rintro p ⟨more, rfl⟩
      have hbelow := h.nonneg (brackets p) (brackets_append p more ▸ List.prefix_append _ _)
      unfold excess
      omega
    · unfold excess
      rw [h.zero]
      rfl
  · rintro ⟨hbelow, hzero⟩
    refine ⟨?_, ?_⟩
    · rintro w ⟨w', hw⟩
      obtain ⟨p, more, rfl, rfl, -⟩ := List.filterMap_eq_append_iff.mp hw.symm
      have hp := hbelow p (List.prefix_append p more)
      unfold excess at hp
      show 0 ≤ surplus (brackets p)
      omega
    · unfold excess at hzero
      omega

/-! ## Unmatched lines -/

/-- A BEGIN line stands among some lines and no END line behind it goes with it. -/
def Unmatched (lines : List String) (b : OpenLine) : Prop :=
  ∃ before line after, lines = before ++ line :: after ∧ b.line = before.length + 1 ∧
    bracketOf line = some (.opening b.name) ∧
    ∀ inner last rest label, after = inner ++ last :: rest →
      bracketOf last = some (.closing label) → ¬ Balanced (brackets inner)

/-- An END line behind which more blocks have been closed in excess than ever before. -/
def NewPeak (lines : List String) (stray : String × Nat) : Prop :=
  ∃ before line after, lines = before ++ line :: after ∧ stray.2 = before.length + 1 ∧
    bracketOf line = some (.closing stray.1) ∧
    ∀ p, p <+: before → excess p < excess (before ++ [line])

/-- The first excess is due to an END line behind a balanced word. -/
theorem exists_first_excess (h : ¬ ∀ p, p <+: after → excess p ≤ 0) :
    ∃ inner last rest label, after = inner ++ last :: rest ∧
      bracketOf last = some (.closing label) ∧ Balanced (brackets inner) := by
  rw [forall_prefix_excess_iff] at h
  obtain ⟨inner, last, ⟨rest, rfl⟩, hinner, hlast⟩ := (forall_position_or_first
    (fun front last => excess (front ++ [last]) ≤ 0) after).resolve_left h
  have hbelow := forall_prefix_excess_iff.mpr hinner
  have hle := hbelow inner (List.prefix_refl inner)
  rw [excess_append] at hlast
  obtain ⟨label, hbracket⟩ : ∃ label, bracketOf last = some (.closing label) :=
    exists_closing_of_excess_pos (by omega)
  rw [excess_of_closing hbracket] at hlast
  exact ⟨inner, last, rest, label, rfl, hbracket, balanced_brackets_iff.mpr ⟨hbelow, by omega⟩⟩

/-- Nothing closes a block from outside exactly as long as nothing is closed in excess. -/
theorem never_closed_iff :
    (∀ inner last rest label, after = inner ++ last :: rest →
      bracketOf last = some (.closing label) → ¬ Balanced (brackets inner)) ↔
    ∀ p, p <+: after → excess p ≤ 0 := by
  constructor
  · intro hopen
    by_contra hexcess
    obtain ⟨inner, last, rest, label, hsplit, hlast, hbalanced⟩ := exists_first_excess hexcess
    exact hopen inner last rest label hsplit hlast hbalanced
  · rintro hbelow inner last rest label rfl hlast hbalanced
    have hp := hbelow (inner ++ [last]) ⟨rest, by simp⟩
    rw [excess_append, (balanced_brackets_iff.mp hbalanced).2, excess_of_closing hlast] at hp
    cases hp

theorem unmatched_iff :
    Unmatched lines b ↔ ∃ before line after, lines = before ++ line :: after ∧
      b.line = before.length + 1 ∧ bracketOf line = some (.opening b.name) ∧
      ∀ p, p <+: after → excess p ≤ 0 := by
  simp only [Unmatched, never_closed_iff]

/-! ## A further line -/

theorem newPeak_concat_iff {stray : String × Nat} :
    NewPeak (lines ++ [line]) stray ↔ NewPeak lines stray ∨
      stray.2 = lines.length + 1 ∧ bracketOf line = some (.closing stray.1) ∧
        ∀ p, p <+: lines → excess p < excess (lines ++ [line]) := by
  constructor
  · rintro ⟨before, y, after, hsplit, hnumber, hbracket, hpeak⟩
    rcases concat_eq_append_cons_iff.mp hsplit with ⟨rfl, rfl, rfl⟩ | ⟨rest, rfl, rfl⟩
    · exact Or.inr ⟨hnumber, hbracket, hpeak⟩
    · exact Or.inl ⟨before, y, rest, rfl, hnumber, hbracket, hpeak⟩
  · rintro (⟨before, y, after, rfl, hnumber, hbracket, hpeak⟩ | ⟨hnumber, hbracket, hpeak⟩)
    · exact ⟨before, y, after ++ [line], by simp, hnumber, hbracket, hpeak⟩
    · exact ⟨lines, line, [], rfl, hnumber, hbracket, hpeak⟩

/-- The lines behind a place, a further one included, do not close in excess. -/
theorem forall_excess_concat :
    (∀ p, p <+: after ++ [line] → excess p ≤ 0) ↔
      (∀ p, p <+: after → excess p ≤ 0) ∧ excess (after ++ [line]) ≤ 0 := by
  simp only [List.prefix_concat_iff, or_imp, forall_and, forall_eq]
  exact and_comm

theorem Unmatched.of_concat (h : Unmatched (lines ++ [line]) b) :
    Unmatched lines b ∨ b.line = lines.length + 1 ∧ bracketOf line = some (.opening b.name) := by
  obtain ⟨before, y, after, hsplit, hnumber, hbracket, hopen⟩ := unmatched_iff.mp h
  rcases concat_eq_append_cons_iff.mp hsplit with ⟨rfl, rfl, rfl⟩ | ⟨rest, rfl, rfl⟩
  · exact Or.inr ⟨hnumber, hbracket⟩
  · exact Or.inl (unmatched_iff.mpr
      ⟨before, y, rest, rfl, hnumber, hbracket, (forall_excess_concat.mp hopen).1⟩)

theorem unmatched_last (h : bracketOf line = some (.opening label)) :
    Unmatched (lines ++ [line]) ⟨label, lines.length + 1⟩ :=
  ⟨lines, line, [], rfl, rfl, h, fun _ _ _ _ hnil => by simp at hnil⟩

theorem Unmatched.concat (h : Unmatched lines b) (hline : excess [line] ≤ 0) :
    Unmatched (lines ++ [line]) b := by
  obtain ⟨before, y, after, rfl, hnumber, hbracket, hopen⟩ := unmatched_iff.mp h
  have hafter := hopen after (List.prefix_refl after)
  refine unmatched_iff.mpr ⟨before, y, after ++ [line], by simp, hnumber, hbracket,
    forall_excess_concat.mpr ⟨hopen, ?_⟩⟩
  rw [excess_append]
  omega

/-- Any line closes the innermost of the unmatched blocks at most. -/
theorem Unmatched.concat_of_inner (h : Unmatched lines b) (hinner : Unmatched lines b')
    (hlt : b.line < b'.line) (hline : excess [line] ≤ 1) : Unmatched (lines ++ [line]) b := by
  obtain ⟨before, y, after, rfl, hnumber, hbracket, hopen⟩ := unmatched_iff.mp h
  obtain ⟨before', y', after', hsplit, hnumber', hbracket', hopen'⟩ := unmatched_iff.mp hinner
  have hafter : excess after < 0 := by
    rcases List.append_eq_append_iff.mp hsplit with ⟨t, rfl, ht⟩ | ⟨t, rfl, -⟩
    · rcases List.cons_eq_append_iff.mp ht with ⟨rfl, -⟩ | ⟨between, rfl, rfl⟩
      · simp at hnumber'
        omega
      · have hbetween := hopen between (List.prefix_append between _)
        have hbehind := hopen' after' (List.prefix_refl after')
        rw [excess_append, excess_cons_opening hbracket']
        omega
    · rw [List.length_append] at hnumber
      omega
  refine unmatched_iff.mpr ⟨before, y, after ++ [line], by simp, hnumber, hbracket,
    forall_excess_concat.mpr ⟨hopen, ?_⟩⟩
  rw [excess_append]
  omega

/-- An END line goes with the BEGIN line of the innermost open block. -/
theorem Opened.not_unmatched_concat (h : Opened (b :: outer) lines)
    (hline : bracketOf line = some (.closing label)) : ¬ Unmatched (lines ++ [line]) b := by
  rintro ⟨before, y, after, hsplit, hnumber, -, hopen⟩
  cases h with
  | @cons _ before' inner y' label' _ _ hinner =>
      rw [List.append_assoc, List.cons_append] at hsplit
      obtain ⟨rfl, hrest⟩ := List.append_inj hsplit (Nat.succ.inj hnumber)
      obtain ⟨rfl, rfl⟩ := List.cons.inj hrest
      exact hopen inner line [] label rfl hline hinner

/-! ## The account -/

/-- What lenient nesting has passed over and what it has open behind some lines. -/
structure Account (lines : List String) (strays : List (String × Nat))
    (blocks : List OpenLine) : Prop where
  /-- The most that any of the first lines close in excess. -/
  most : IsGreatest {x | ∃ p, p <+: lines ∧ excess p = x} (strays.length : Int)
  mem_strays : ∀ stray, stray ∈ strays ↔ NewPeak lines stray
  strays_sorted : strays.Pairwise (·.2 < ·.2)
  /-- What has been opened more often than closed, what closed nothing left aside. -/
  open_count : (blocks.length : Int) = strays.length - excess lines
  mem_blocks : ∀ b, b ∈ blocks ↔ Unmatched lines b
  blocks_sorted : blocks.Pairwise (·.line > ·.line)

namespace Account

theorem nil : Account [] [] [] where
  most := ⟨⟨[], List.prefix_refl [], rfl⟩, by
    rintro x ⟨p, hp, rfl⟩
    rw [List.prefix_nil.mp hp]
    exact Int.le_refl 0⟩
  mem_strays stray := iff_of_false nofun fun ⟨_, _, _, h, _⟩ => by simp at h
  strays_sorted := .nil
  open_count := rfl
  mem_blocks b := iff_of_false nofun fun ⟨_, _, _, h, _⟩ => by simp at h
  blocks_sorted := .nil

theorem excess_le (h : Account lines strays blocks) {p : List String} (hp : p <+: lines) :
    excess p ≤ strays.length :=
  h.most.2 ⟨p, hp, rfl⟩

/-- A line that does not close more than ever before leaves the most as it is. -/
theorem most_concat (h : Account lines strays blocks)
    (hle : excess (lines ++ [line]) ≤ strays.length) :
    IsGreatest {x | ∃ p, p <+: lines ++ [line] ∧ excess p = x} (strays.length : Int) := by
  obtain ⟨⟨p, hp, hmost⟩, -⟩ := h.most
  refine ⟨⟨p, hp.trans (List.prefix_append lines [line]), hmost⟩, ?_⟩
  rintro x ⟨p, hp, rfl⟩
  rcases List.prefix_concat_iff.mp hp with rfl | hp
  · exact hle
  · exact h.excess_le hp

theorem mem_strays_concat (h : Account lines strays blocks)
    (hle : excess (lines ++ [line]) ≤ strays.length) (stray : String × Nat) :
    stray ∈ strays ↔ NewPeak (lines ++ [line]) stray := by
  rw [newPeak_concat_iff, h.mem_strays, iff_self_or]
  rintro ⟨-, -, hpeak⟩
  obtain ⟨⟨p, hp, hmost⟩, -⟩ := h.most
  have hlt := hpeak p hp
  omega

theorem line_le (h : Account lines strays blocks) (hb : b ∈ blocks) : b.line ≤ lines.length := by
  obtain ⟨before, y, after, rfl, hnumber, -⟩ := (h.mem_blocks b).mp hb
  rw [hnumber, List.length_append, List.length_cons]
  omega

theorem stray_line_le (h : Account lines strays blocks) {stray : String × Nat}
    (hstray : stray ∈ strays) : stray.2 ≤ lines.length := by
  obtain ⟨before, y, after, rfl, hnumber, -⟩ := (h.mem_strays stray).mp hstray
  rw [hnumber, List.length_append, List.length_cons]
  omega

/-- A line that closes nothing. -/
theorem concat_plain (h : Account lines strays blocks) (hline : bracketOf line = none) :
    Account (lines ++ [line]) strays blocks := by
  have hexcess : excess (lines ++ [line]) = excess lines := by
    rw [excess_append, excess_of_none hline, Int.add_zero]
  have hle : excess (lines ++ [line]) ≤ strays.length :=
    hexcess ▸ h.excess_le (List.prefix_refl lines)
  refine ⟨h.most_concat hle, h.mem_strays_concat hle, h.strays_sorted, hexcess ▸ h.open_count,
    fun b => (h.mem_blocks b).trans ⟨?_, ?_⟩, h.blocks_sorted⟩
  · exact fun hb => hb.concat (excess_of_none hline).le
  · intro hb
    refine hb.of_concat.resolve_right ?_
    rintro ⟨-, hbracket⟩
    cases hline.symm.trans hbracket

theorem concat_opening (h : Account lines strays blocks)
    (hline : bracketOf line = some (.opening label)) :
    Account (lines ++ [line]) strays (⟨label, lines.length + 1⟩ :: blocks) := by
  have hexcess : excess (lines ++ [line]) = excess lines - 1 := by
    rw [excess_append, excess_of_opening hline]
    omega
  have hle : excess (lines ++ [line]) ≤ strays.length := by
    have hlines := h.excess_le (List.prefix_refl lines)
    omega
  refine ⟨h.most_concat hle, h.mem_strays_concat hle, h.strays_sorted, ?_, fun b => ⟨?_, ?_⟩,
    List.pairwise_cons.mpr ⟨fun b hb => Nat.lt_succ_of_le (h.line_le hb), h.blocks_sorted⟩⟩
  · have hcount := h.open_count
    rw [hexcess, List.length_cons]
    omega
  · intro hb
    rcases List.mem_cons.mp hb with rfl | hb
    · exact unmatched_last hline
    · refine ((h.mem_blocks b).mp hb).concat ?_
      rw [excess_of_opening hline]
      decide
  · intro hb
    rcases hb.of_concat with hb | ⟨hnumber, hbracket⟩
    · exact List.mem_cons_of_mem _ ((h.mem_blocks b).mpr hb)
    · obtain ⟨name, number⟩ := b
      cases hline.symm.trans hbracket
      obtain rfl : number = lines.length + 1 := hnumber
      exact List.mem_cons_self

/-- An END line with nothing to close: the excess is the most that there has been. -/
theorem concat_stray (h : Account lines strays [])
    (hline : bracketOf line = some (.closing label)) :
    Account (lines ++ [line]) (strays ++ [(label, lines.length + 1)]) [] := by
  have hexcess : excess (lines ++ [line]) = strays.length + 1 := by
    have hcount := h.open_count
    rw [List.length_nil] at hcount
    rw [excess_append, excess_of_closing hline]
    omega
  have hlength : ((strays ++ [(label, lines.length + 1)]).length : Int) = strays.length + 1 := by
    simp
  have hpeak : ∀ p, p <+: lines → excess p < excess (lines ++ [line]) := by
    intro p hp
    have hle := h.excess_le hp
    omega
  refine ⟨?_, ?_, ?_, ?_, ?_, .nil⟩
  · rw [hlength]
    refine ⟨⟨_, List.prefix_refl _, hexcess⟩, ?_⟩
    rintro x ⟨p, hp, rfl⟩
    rcases List.prefix_concat_iff.mp hp with rfl | hp
    · exact hexcess.le
    · exact (hexcess ▸ hpeak p hp).le
  · rintro ⟨name, number⟩
    rw [newPeak_concat_iff, List.mem_append, h.mem_strays, List.mem_singleton, Prod.mk.injEq,
      hline]
    refine or_congr_right ⟨?_, ?_⟩
    · rintro ⟨rfl, rfl⟩
      exact ⟨rfl, rfl, hpeak⟩
    · rintro ⟨hnumber, hname, -⟩
      cases hname
      exact ⟨rfl, hnumber⟩
  · refine List.pairwise_append.mpr ⟨h.strays_sorted, List.pairwise_singleton _ _, ?_⟩
    intro stray hstray last hlast
    rw [List.mem_singleton.mp hlast]
    exact Nat.lt_succ_of_le (h.stray_line_le hstray)
  · rw [hlength, hexcess]
    simp
  · intro b
    refine iff_of_false nofun fun hb => ?_
    rcases hb.of_concat with hb | ⟨-, hbracket⟩
    · cases (h.mem_blocks b).mpr hb
    · cases hline.symm.trans hbracket

theorem concat_closing (h : Account lines strays (b :: outer)) (hopened : Opened (b :: outer) lines)
    (hline : bracketOf line = some (.closing label)) :
    Account (lines ++ [line]) strays outer := by
  obtain ⟨hinnermost, hsorted⟩ := List.pairwise_cons.mp h.blocks_sorted
  have hexcess : excess (lines ++ [line]) = excess lines + 1 := by
    rw [excess_append, excess_of_closing hline]
  have hcount := h.open_count
  rw [List.length_cons] at hcount
  have hle : excess (lines ++ [line]) ≤ strays.length := by omega
  refine ⟨h.most_concat hle, h.mem_strays_concat hle, h.strays_sorted, by omega,
    fun b' => ⟨?_, ?_⟩, hsorted⟩
  · intro hb'
    have hunmatched := (h.mem_blocks b').mp (List.mem_cons_of_mem b hb')
    have hinner := (h.mem_blocks b).mp List.mem_cons_self
    exact hunmatched.concat_of_inner hinner (hinnermost b' hb') (excess_of_closing hline).le
  · intro hb'
    have hunmatched : Unmatched lines b' := by
      refine hb'.of_concat.resolve_right ?_
      rintro ⟨-, hbracket⟩
      cases hline.symm.trans hbracket
    rcases List.mem_cons.mp ((h.mem_blocks b').mpr hunmatched) with rfl | hmem
    · exact absurd hb' (hopened.not_unmatched_concat hline)
    · exact hmem

end Account

/-- A further line that is passed over, if it is an END line with nothing to close. -/
def strayOf (blocks : List OpenLine) (number : Nat) : Option Bracket → List (String × Nat)
  | none => []
  | some (.opening _) => []
  | some (.closing label) => if blocks = [] then [(label, number)] else []

/-- **The account is kept line by line.** -/
theorem Account.concat (h : Account lines strays blocks) (hopened : Opened blocks lines)
    (line : String) :
    Account (lines ++ [line]) (strays ++ strayOf blocks (lines.length + 1) (bracketOf line))
      (openedAfter blocks (lines.length + 1) (bracketOf line)) := by
  cases hline : bracketOf line with
  | none =>
      rw [strayOf, List.append_nil]
      exact h.concat_plain hline
  | some bracket =>
      cases bracket with
      | opening label =>
          rw [strayOf, List.append_nil]
          exact h.concat_opening hline
      | closing label =>
          cases blocks with
          | nil => exact h.concat_stray hline
          | cons b outer =>
              rw [strayOf, if_neg (List.cons_ne_nil b outer), List.append_nil]
              exact h.concat_closing hopened hline

end VCalendar
