import Mathlib.Data.List.Basic
import Mathlib.Data.List.Induction

/-!
# Positions in a list

A condition on an element may concern what stands before it. It holds at every position of a
list, or there is a first position where it fails.
-/

namespace VCalendar

variable {α : Type} {P : List α → α → Prop} {xs : List α} {x : α}

/-- A place in a list with a further element is the last one or one of the list. -/
theorem concat_eq_append_cons_iff {before after : List α} {y : α} :
    xs ++ [x] = before ++ y :: after ↔
      (before = xs ∧ y = x ∧ after = []) ∨
        ∃ rest, after = rest ++ [x] ∧ xs = before ++ y :: rest := by
  constructor
  · intro hsplit
    rcases List.eq_nil_or_concat' after with rfl | ⟨rest, last, rfl⟩
    · obtain ⟨rfl, hlast⟩ := List.append_inj' hsplit rfl
      exact Or.inl ⟨rfl, (List.cons.inj hlast).1.symm, rfl⟩
    · rw [← List.cons_append, ← List.append_assoc] at hsplit
      obtain ⟨rfl, hlast⟩ := List.append_inj' hsplit rfl
      cases hlast
      exact Or.inr ⟨rest, rfl, rfl⟩
  · rintro (⟨rfl, rfl, rfl⟩ | ⟨rest, rfl, rfl⟩)
    · rfl
    · rw [List.append_assoc, List.cons_append]

theorem forall_position_concat :
    (∀ before y after, xs ++ [x] = before ++ y :: after → P before y) ↔
      (∀ before y after, xs = before ++ y :: after → P before y) ∧ P xs x := by
  constructor
  · intro h
    refine ⟨?_, h xs x [] rfl⟩
    rintro before y after rfl
    exact h before y (after ++ [x]) (by simp)
  · rintro ⟨hxs, hx⟩ before y after hsplit
    rcases concat_eq_append_cons_iff.mp hsplit with ⟨rfl, rfl, rfl⟩ | ⟨rest, rfl, rfl⟩
    · exact hx
    · exact hxs before y rest rfl

theorem forall_position_or_first (P : List α → α → Prop) (xs : List α) :
    (∀ before y after, xs = before ++ y :: after → P before y) ∨
      ∃ before x, (∃ after, xs = before ++ x :: after) ∧
        (∀ front y back, before = front ++ y :: back → P front y) ∧ ¬ P before x := by
  induction xs using List.reverseRecOn with
  | nil => exact Or.inl fun _ _ _ h => nomatch (List.append_eq_nil_iff.mp h.symm).2
  | append_singleton xs x ih =>
      rcases ih with hxs | ⟨before, y, ⟨after, rfl⟩, hbefore, hy⟩
      · by_cases hx : P xs x
        · exact Or.inl (forall_position_concat.mpr ⟨hxs, hx⟩)
        · exact Or.inr ⟨xs, x, ⟨[], rfl⟩, hxs, hx⟩
      · exact Or.inr ⟨before, y, ⟨after ++ [x], by simp⟩, hbefore, hy⟩

end VCalendar
