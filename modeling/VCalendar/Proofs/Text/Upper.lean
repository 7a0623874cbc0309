import Mathlib.Data.List.Dedup
import VCalendar.Text.Upper

/-!
# Upper case once and for all

The upper case of a letter has no other upper case. The tables are compared run by run: where
the upper cases of one run lie, no run has letters. Main statement: making a text upper case
a second time does not change it.
-/

namespace VCalendar.Text

namespace CaseRun

variable {r t : CaseRun} {point : Nat}

/-- A single code point that stands for itself. -/
def single (point : Nat) : CaseRun :=
  ⟨point, point, 1, 0⟩

/-- The first upper case of a run, and the last one. -/
def front (r : CaseRun) : Nat :=
  (r.first + r.distance).toNat

def back (r : CaseRun) : Nat :=
  (r.last + r.distance).toNat

/-- The upper cases of a run are code points of characters. -/
def lands (r : CaseRun) : Bool :=
  0 ≤ r.first + r.distance && (r.back < 0xd800 || 0xdfff < r.front && r.back < 0x110000)

/-- The upper cases of a run lie before another one, behind it, or in its gaps. -/
def misses (r t : CaseRun) : Bool :=
  Nat.ble (r.back + 1) t.first || Nat.ble (t.last + 1) r.front ||
    ((r.step % t.step == 0 || r.first == r.last) && t.first % t.step != r.front % t.step)

/-- A run has a code point. -/
def Has (r : CaseRun) (point : Nat) : Prop :=
  r.first ≤ point ∧ point ≤ r.last ∧ (point - r.first) % r.step = 0

theorem contains_iff {c : Char} : r.contains c = true ↔ r.Has c.toNat := by
  simp [contains, Has, and_assoc]

theorem Has.mod_eq (h : r.Has point) : point % r.step = r.first % r.step := by
  obtain ⟨hfirst, -, hstep⟩ := h
  obtain ⟨k, hk⟩ := Nat.dvd_of_mod_eq_zero hstep
  rw [← Nat.add_sub_cancel' hfirst, hk, Nat.add_mul_mod_self_left]

/-- The upper case of a code point lies as far behind the first one. -/
theorem Has.upper_eq (h : r.Has point) (hland : r.lands = true) :
    (point + r.distance).toNat = r.front + (point - r.first) ∧
      (point + r.distance).toNat ≤ r.back ∧ (point + r.distance).toNat.isValidChar := by
  obtain ⟨hfirst, hlast, -⟩ := h
  simp only [lands, Bool.and_eq_true, Bool.or_eq_true, decide_eq_true_eq] at hland
  unfold front back Nat.isValidChar at *
  omega

theorem not_has_of_misses (hmiss : r.misses t = true) (hland : r.lands = true)
    (h : r.Has point) : ¬ t.Has (point + r.distance).toNat := by
  intro hupper
  obtain ⟨hfront, hback, -⟩ := h.upper_eq hland
  obtain ⟨hfirst, hlast, -⟩ := id hupper
  simp only [misses, Bool.or_eq_true, Bool.and_eq_true, Nat.ble_eq, beq_iff_eq, bne_iff_ne] at hmiss
  rcases hmiss with (hbefore | hbehind) | ⟨hsteps, hgap⟩
  · omega
  · omega
  · -- the upper cases of the run are all as far from the letters of the other one
    refine hgap ?_
    rw [← hupper.mod_eq, hfront]
    rcases hsteps with hsteps | hsingle
    · obtain ⟨k, hk⟩ := Nat.dvd_trans (Nat.dvd_of_mod_eq_zero hsteps) (Nat.dvd_of_mod_eq_zero h.2.2)
      rw [hk, Nat.add_mul_mod_self_left]
    · obtain ⟨hpoint, hpoint', -⟩ := h
      rw [Nat.sub_eq_zero_of_le (by omega), Nat.add_zero]

end CaseRun

/-! ## The tables -/

/-- The letters that have an upper case. -/
def casedRuns : List CaseRun :=
  upperRuns ++ upperSequences.map fun entry => .single entry.1

/-- The runs whose upper cases are the letters that stand in an upper case. -/
def imageRuns : List CaseRun :=
  upperRuns ++ (upperSequences.flatMap (·.2)).dedup.map .single

theorem imageRuns_miss :
    (imageRuns.all fun r => r.lands && casedRuns.all r.misses) = true := by
  decide +kernel

/-! ## Upper case -/

/-- A code point of no letter that has an upper case. -/
def Uncased (point : Nat) : Prop :=
  ∀ t ∈ casedRuns, ¬ t.Has point

variable {c : Char} {r : CaseRun} {point : Nat}

theorem uncased_of_imageRuns (hr : r ∈ imageRuns) (h : r.Has point) :
    (point + r.distance).toNat.isValidChar ∧ Uncased (point + r.distance).toNat := by
  have hmiss := List.all_eq_true.mp imageRuns_miss r hr
  rw [Bool.and_eq_true, List.all_eq_true] at hmiss
  obtain ⟨hland, hmiss⟩ := hmiss
  exact ⟨(h.upper_eq hland).2.2, fun t ht => CaseRun.not_has_of_misses (hmiss t ht) hland h⟩

theorem upperChar_of_uncased (h : Uncased c.toNat) : upperChar c = [c] := by
  have hsequence : (upperSequences.find? fun entry => entry.1 == c.toNat) = none := by
    rw [List.find?_eq_none]
    intro entry hentry hpoint
    refine h (.single entry.1) (List.mem_append_right _ (List.mem_map_of_mem hentry)) ?_
    rw [← beq_iff_eq.mp hpoint]
    exact ⟨Nat.le_refl _, Nat.le_refl _, Nat.mod_one _⟩
  have hrun : upperRuns.find? (·.contains c) = none := by
    rw [List.find?_eq_none]
    exact fun r hr hc => h r (List.mem_append_left _ hr) (CaseRun.contains_iff.mp hc)
  rw [upperChar, hsequence, hrun]

theorem upperChar_ofNat (hvalid : point.isValidChar) (h : Uncased point) :
    upperChar (Char.ofNat point) = [Char.ofNat point] := by
  have hpoint : (Char.ofNat point).toNat = point := by
    rw [Char.ofNat, dif_pos hvalid]
    rfl
  exact upperChar_of_uncased (hpoint.symm ▸ h)

/-- What stands in an upper case has no other upper case. -/
theorem upperChar_of_mem {d : Char} (h : d ∈ upperChar c) : upperChar d = [d] := by
  cases hsequence : upperSequences.find? fun entry => entry.1 == c.toNat with
  | some entry =>
      obtain ⟨key, points⟩ := entry
      simp only [upperChar, hsequence] at h
      obtain ⟨point, hpoint, rfl⟩ := List.mem_map.mp h
      have hmem : point ∈ upperSequences.flatMap (·.2) :=
        List.mem_flatMap.mpr ⟨_, List.mem_of_find?_eq_some hsequence, hpoint⟩
      have himage : CaseRun.single point ∈ imageRuns :=
        List.mem_append_right _ (List.mem_map_of_mem (List.mem_dedup.mpr hmem))
      have hhas : (CaseRun.single point).Has point :=
        ⟨Nat.le_refl _, Nat.le_refl _, Nat.mod_one _⟩
      obtain ⟨hvalid, huncased⟩ := uncased_of_imageRuns himage hhas
      simp only [CaseRun.single, Int.add_zero, Int.toNat_natCast] at hvalid huncased
      exact upperChar_ofNat hvalid huncased
  | none =>
      cases hrun : upperRuns.find? (·.contains c) with
      | some r =>
          simp only [upperChar, hsequence, hrun, List.mem_singleton] at h
          have himage : r ∈ imageRuns :=
            List.mem_append_left _ (List.mem_of_find?_eq_some hrun)
          have hcontains : r.contains c = true := by simpa using List.find?_some hrun
          obtain ⟨hvalid, huncased⟩ :=
            uncased_of_imageRuns himage (CaseRun.contains_iff.mp hcontains)
          rw [h]
          exact upperChar_ofNat hvalid huncased
      | none =>
          have hsame : upperChar c = [c] := by rw [upperChar, hsequence, hrun]
          rw [hsame, List.mem_singleton] at h
          rw [h, hsame]

/-- **A text in upper case stays as it is.** -/
@[simp] theorem upper_upper (s : String) : upper (upper s) = upper s := by
  have hchars : ∀ cs : List Char, (cs.flatMap upperChar).flatMap upperChar =
      cs.flatMap upperChar := by
    intro cs
    rw [List.flatMap_assoc]
    refine List.flatMap_congr fun c _ => ?_
    rw [List.flatMap_congr fun d hd => upperChar_of_mem hd]
    exact List.flatMap_singleton' _
  rw [upper, upper, String.toList_ofList, hchars]

end VCalendar.Text
