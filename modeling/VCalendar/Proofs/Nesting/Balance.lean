import Mathlib.Data.List.Infix
import VCalendar.Proofs.Nesting.Brackets

/-!
# Balanced words

Where labels do not count, a closing bracket goes with the innermost open one, whatever
its label, and with none if nothing is open. A word is balanced if it never closes more
than it opens and closes all of it in the end. Main statements: balanced words can be
joined and enclosed, and behind some lines a block is open if there is a balanced word
between its opening line and that of the next open block or the end.
-/

namespace VCalendar

/-! ## Words -/

def Bracket.weight : Bracket → Int
  | .opening _ => 1
  | .closing _ => -1

/-- How many more brackets a word opens than it closes. -/
def surplus : List Bracket → Int
  | [] => 0
  | b :: w => b.weight + surplus w

/-- A word closes all that it opens and nothing else, if labels do not count. -/
structure Balanced (w : List Bracket) : Prop where
  nonneg : ∀ p, p <+: w → 0 ≤ surplus p
  zero : surplus w = 0

instance (w : List Bracket) : Decidable (Balanced w) :=
  decidable_of_iff ((∀ p ∈ w.inits, 0 ≤ surplus p) ∧ surplus w = 0)
    ⟨fun h => ⟨fun p hp => h.1 p ((List.mem_inits p w).mpr hp), h.2⟩,
      fun h => ⟨fun p hp => h.nonneg p ((List.mem_inits p w).mp hp), h.zero⟩⟩

variable {w w' : List Bracket}

@[simp] theorem surplus_nil : surplus [] = 0 := rfl

@[simp] theorem surplus_cons (b : Bracket) (w : List Bracket) :
    surplus (b :: w) = b.weight + surplus w := rfl

@[simp] theorem surplus_append (w w' : List Bracket) :
    surplus (w ++ w') = surplus w + surplus w' := by
  induction w with
  | nil => simp
  | cons b w ih => rw [List.cons_append, surplus_cons, surplus_cons, ih, Int.add_assoc]

namespace Balanced

theorem nil : Balanced [] where
  nonneg p hp := by
    rw [List.prefix_nil.mp hp]
    exact Int.le_refl 0
  zero := rfl

theorem append (h : Balanced w) (h' : Balanced w') : Balanced (w ++ w') where
  nonneg p hp := by
    obtain ⟨more, hmore⟩ := hp
    rcases List.append_eq_append_iff.mp hmore with ⟨t, rfl, -⟩ | ⟨t, rfl, rfl⟩
    · exact h.nonneg p (List.prefix_append p t)
    · rw [surplus_append, h.zero, Int.zero_add]
      exact h'.nonneg t (List.prefix_append t more)
  zero := by rw [surplus_append, h.zero, h'.zero, Int.zero_add]

/-- What lies between two brackets may be enclosed by them. -/
theorem enclose (h : Balanced w) (label label' : String) :
    Balanced (.opening label :: (w ++ [.closing label'])) where
  nonneg p hp := by
    rcases List.prefix_cons_iff.mp hp with rfl | ⟨q, rfl, hq⟩
    · exact Int.le_refl 0
    · rcases List.prefix_concat_iff.mp hq with rfl | hq
      · simp [Bracket.weight, h.zero]
      · have hinner := h.nonneg q hq
        rw [surplus_cons, Bracket.weight]
        omega
  zero := by simp [Bracket.weight, h.zero]

end Balanced

/-! ## Open blocks -/

/-- Some lines leave blocks open: behind the BEGIN line of each of them there is a
balanced word before that of the next one, or up to the end. -/
inductive Opened : List OpenLine → List String → Prop
  | nil (lines : List String) : Opened [] lines
  | cons {blocks : List OpenLine} {lines inner : List String} {line label : String} :
      Opened blocks lines → bracketOf line = some (.opening label) →
      Balanced (brackets inner) →
      Opened (⟨label, lines.length + 1⟩ :: blocks) (lines ++ line :: inner)

/-- The blocks that are open behind a further line, if labels do not count. -/
def openedAfter (blocks : List OpenLine) (number : Nat) : Option Bracket → List OpenLine
  | none => blocks
  | some (.opening label) => ⟨label, number⟩ :: blocks
  | some (.closing _) => blocks.tail

namespace Opened

variable {blocks : List OpenLine} {lines : List String}

/-- Balanced lines leave the same blocks open. -/
theorem append (h : Opened blocks lines) {more : List String}
    (hmore : Balanced (brackets more)) : Opened blocks (lines ++ more) := by
  cases h with
  | nil => exact .nil _
  | cons houter hline hinner =>
      rw [List.append_assoc, List.cons_append]
      refine .cons houter hline ?_
      rw [brackets_append]
      exact hinner.append hmore

theorem concat (h : Opened blocks lines) (line : String) :
    Opened (openedAfter blocks (lines.length + 1) (bracketOf line)) (lines ++ [line]) := by
  cases hline : bracketOf line with
  | none =>
      refine h.append ?_
      rw [brackets_singleton_none hline]
      exact .nil
  | some bracket =>
      cases bracket with
      | opening label => exact .cons h hline .nil
      | closing label =>
          cases h with
          | nil => exact .nil _
          | @cons outer before inner first label' houter hfirst hinner =>
              -- the innermost block and the line that closes it are balanced
              show Opened outer (before ++ first :: inner ++ [line])
              rw [List.append_assoc, List.cons_append]
              refine houter.append ?_
              rw [brackets_cons_some hfirst, brackets_append, brackets_cons_some hline]
              exact hinner.enclose label' label

end Opened

end VCalendar
