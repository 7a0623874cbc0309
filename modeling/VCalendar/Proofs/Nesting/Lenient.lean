import VCalendar.Proofs.Nesting.Balance
import VCalendar.Proofs.Nesting.Strict

/-!
# Lenient nesting

Lenient nesting accepts every token, so it fails for a line without pieces only, and for
the first such line. Its open blocks are those that are open behind the lines it has
taken, if labels do not count.
-/

namespace VCalendar

variable {n m : Nesting}

/-! ## Tokens -/

/-- The tokens of the lines that are not empty, or the first line without pieces, of which
`tokensOf` keeps the flaw only. -/
def tokenizeAll : List (String × Nat) → Except MalformedLine (List NumberedToken)
  | [] => .ok []
  | (line, number) :: rest =>
    if line = "" then tokenizeAll rest
    else
      match Line.tokenize line with
      | .error flaw => .error ⟨number, line, flaw⟩
      | .ok token => (tokenizeAll rest).map (⟨token, number⟩ :: ·)

theorem Nesting.outcome_add_lenient (n : Nesting) (token : Token) (number : Nat) (line : String) :
    (n.add false token number line).outcome = .ok (n.accept ⟨token, number⟩) := by
  by_cases hend : token.name = endName
  · rw [add, if_pos hend, accept_end hend]
    obtain ⟨placed, opened⟩ := n
    cases opened with
    | nil => rfl
    | cons b outer => simp [close]
  · rw [add, if_neg hend, accept_place hend]
    rfl

namespace Reader

section Lines

variable {strict : Bool} {line : String} {number : Nat} {rest : List (String × Nat)}

theorem addLines_cons (hne : line ≠ "") :
    addLines strict n ((line, number) :: rest) =
      addLine strict n line number >>= fun n => addLines strict n rest := by
  rw [addLines, if_neg hne]

theorem addLines_cons_empty :
    addLines strict n (("", number) :: rest) = addLines strict n rest := by
  rw [addLines, if_pos rfl]

theorem addLines_append (strict : Bool) (n : Nesting) (lines lines' : List (String × Nat)) :
    addLines strict n (lines ++ lines') =
      addLines strict n lines >>= fun n => addLines strict n lines' := by
  induction lines generalizing n with
  | nil => rfl
  | cons entry rest ih =>
      obtain ⟨line, number⟩ := entry
      rw [List.cons_append]
      by_cases hempty : line = ""
      · rw [hempty, addLines_cons_empty, addLines_cons_empty, ih]
      · rw [addLines_cons hempty, addLines_cons hempty, Report.bind_assoc]
        simp only [ih]

end Lines

/-- **Lenient nesting accepts every token.** -/
theorem outcome_addLines_lenient (n : Nesting) (lines : List (String × Nat)) :
    (addLines false n lines).outcome =
      ((tokenizeAll lines).mapError ReadError.malformed).map n.acceptAll := by
  induction lines generalizing n with
  | nil => rfl
  | cons entry rest ih =>
      obtain ⟨line, number⟩ := entry
      by_cases hempty : line = ""
      · rw [hempty, addLines_cons_empty, tokenizeAll, if_pos rfl]
        exact ih n
      · rw [addLines_cons hempty, tokenizeAll, if_neg hempty, Report.outcome_bind]
        cases htoken : Line.tokenize line with
        | error flaw => simp [addLine, htoken, Report.fail]; rfl
        | ok token =>
            have hline : (addLine false n line number).outcome =
                .ok (n.accept ⟨token, number⟩) := by
              rw [addLine, htoken]
              show (n.add false token number line).outcome.mapError _ = _
              rw [n.outcome_add_lenient]
              rfl
            rw [hline]
            show (addLines false (n.accept ⟨token, number⟩) rest).outcome = _
            rw [ih]
            cases tokenizeAll rest <;> rfl

theorem outcome_nest (strict : Bool) (lines : List String) :
    (nest strict lines).outcome = (addLines strict {} (lines.zipIdx 1)).outcome >>= fun n =>
      ((n.finish strict).outcome.mapError ReadError.unbalanced) >>= fun _ => .ok n := by
  simp only [nest, Report.outcome_bind]
  rfl

end Reader

theorem Nesting.finish_lenient (n : Nesting) :
    n.finish false = ⟨if n.blocks = [] then [] else [.stillOpen n.blocks], .ok ()⟩ := by
  unfold finish blocks
  cases n.opened <;> rfl

theorem Reader.outcome_nest_lenient (lines : List String) :
    (nest false lines).outcome =
      ((tokenizeAll (lines.zipIdx 1)).mapError ReadError.malformed).map
        (Nesting.acceptAll {}) := by
  rw [outcome_nest, outcome_addLines_lenient]
  cases tokenizeAll (lines.zipIdx 1) with
  | error m => rfl
  | ok ts =>
      show ((Nesting.finish false _).outcome.mapError ReadError.unbalanced >>= fun _ => _) = _
      rw [Nesting.finish_lenient]
      rfl

/-! ## Open blocks -/

theorem Nesting.blocks_accept (n : Nesting) (t : NumberedToken) :
    (n.accept t).blocks = openedAfter n.blocks t.line t.token.bracket? := by
  by_cases hend : t.token.name = endName
  · have hbegin : t.token.name ≠ beginName := by rw [hend]; decide
    rw [accept_end hend, Token.bracket?, if_neg hbegin, if_pos hend]
    show n.opened.tail.map (·.opening) = (n.opened.map (·.opening)).tail
    exact List.map_tail
  · rw [accept_place hend, blocks_place, Token.bracket?]
    by_cases hbegin : t.token.name = beginName
    · rw [if_pos hbegin, if_pos hbegin]
      rfl
    · rw [if_neg hbegin, if_neg hbegin, if_neg hend]
      rfl

/-- What either mode has open is open. -/
theorem Reader.opened_of_addLines {strict : Bool} {done rest : List String}
    (hopened : Opened n.blocks done)
    (h : (addLines strict n (rest.zipIdx (done.length + 1))).outcome = .ok m) :
    Opened m.blocks (done ++ rest) ∧ ∀ line ∈ rest, Readable line := by
  induction rest generalizing n done with
  | nil =>
      cases h
      rw [List.append_nil]
      exact ⟨hopened, by simp⟩
  | cons line rest ih =>
      have hstep : ∀ {n'}, n'.blocks = openedAfter n.blocks (done.length + 1) (bracketOf line) →
          (addLines strict n' (rest.zipIdx (done.length + 1 + 1))).outcome = .ok m →
          Opened m.blocks (done ++ line :: rest) ∧ ∀ line ∈ rest, Readable line := by
        intro n' hblocks hrest
        have hnext := hopened.concat line
        rw [← hblocks] at hnext
        have hlength : (done ++ [line]).length = done.length + 1 := List.length_append
        have hrun := ih hnext (hlength ▸ hrest)
        rwa [List.append_assoc] at hrun
      rw [List.zipIdx_cons] at h
      by_cases hempty : line = ""
      · -- an empty line is passed over, and it is no bracket
        rw [hempty, addLines_cons_empty] at h
        obtain ⟨hmore, hreadable⟩ := hstep (by rw [hempty, bracketOf_empty]; rfl) h
        exact ⟨hmore, List.forall_mem_cons.mpr ⟨fun hne => absurd hempty hne, hreadable⟩⟩
      · rw [addLines_cons hempty] at h
        obtain ⟨n', hline, hrest⟩ := Report.bind_eq_ok h
        obtain ⟨token, htoken, rfl⟩ := addLine_eq_ok hline
        have hblocks := n.blocks_accept ⟨token, done.length + 1⟩
        rw [← bracketOf_of_token htoken] at hblocks
        obtain ⟨hmore, hreadable⟩ := hstep hblocks hrest
        exact ⟨hmore, List.forall_mem_cons.mpr ⟨fun _ => ⟨token, htoken⟩, hreadable⟩⟩

end VCalendar
