import Mathlib.Data.List.Sort
import VCalendar.Proofs.Nesting.Lenient
import VCalendar.Proofs.Positions

/-!
# The first refused line

A line is refused if it has no pieces or, in strict nesting, if it is an END line that does
not close the innermost block left open in front of it. Main statements: the first refused
line decides the error, whatever stands behind it, and lines of which none is refused nest,
unless strict nesting finds blocks open at their end.
-/

namespace VCalendar

variable {strict : Bool} {lines before : List String} {line : String} {e : ReadError}

/-! ## Open blocks are determined -/

theorem Leaves.unique {blocks blocks' : List OpenLine} (h : Leaves blocks lines)
    (h' : Leaves blocks' lines) : blocks = blocks' := by
  have hirrefl : Std.Irrefl fun b b' : OpenLine => b'.line < b.line := ⟨fun _ => Nat.lt_irrefl _⟩
  have hantisymm : Std.Antisymm fun b b' : OpenLine => b'.line < b.line :=
    ⟨fun _ _ hlt hgt => absurd hlt (Nat.lt_asymm hgt)⟩
  refine h.sorted.eq_of_mem_iff h'.sorted fun b => ?_
  exact ⟨fun hb => h'.mem_of_stillOpen (h.stillOpen hb),
    fun hb => h.mem_of_stillOpen (h'.stillOpen hb)⟩

theorem bracketOf_eq_closing {label : String} (h : bracketOf line = some (.closing label)) :
    ∃ token, Line.tokenize line = .ok token ∧ token.name = endName ∧ token.value = label := by
  unfold bracketOf at h
  split at h
  · rename_i token htoken
    unfold Token.bracket? at h
    split at h
    · cases h
    · split at h
      · rename_i hend
        cases h
        exact ⟨token, htoken, hend, rfl⟩
      · cases h
  · cases h

/-! ## Refused lines -/

/-- The error for which a line is refused behind others. -/
inductive RefusalOf (strict : Bool) (before : List String) (line : String) : ReadError → Prop
  | malformed (flaw : Line.Flaw) : line ≠ "" → Line.tokenize line = .error flaw →
      RefusalOf strict before line (.malformed ⟨(before.length + 1 : Nat), line, flaw⟩)
  | stray (label : String) : strict = true → bracketOf line = some (.closing label) →
      Leaves [] before →
      RefusalOf strict before line (.unbalanced (.stray (before.length + 1) line label))
  | mismatched (label : String) (b : OpenLine) (outer : List OpenLine) : strict = true →
      bracketOf line = some (.closing label) → Leaves (b :: outer) before → b.name ≠ label →
      RefusalOf strict before line (.unbalanced (.mismatched (before.length + 1) line label b))

variable {n : Nesting} {number : Nat}

namespace Reader

end Reader

/-! ## Sound texts -/

end VCalendar
