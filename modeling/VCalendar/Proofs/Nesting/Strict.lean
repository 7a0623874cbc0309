import Mathlib.Control.Monad.Basic
import VCalendar.Proofs.Nesting.Brackets
import VCalendar.Proofs.Nesting.Simulation

/-!
# Strict nesting

In strict nesting the open blocks of the lines that have been read are known at every
step. Main statement: exactly the well-nested texts are accepted, and a text that is
refused is refused at the first line with which it can no longer be completed to a
well-nested one or, if there is no such line, for the blocks that are open at its end.
-/

namespace VCalendar

variable {n : Nesting} {number : Nat} {line : String} {token : Token}

/-! ## One line -/

/-- A diagnostic that shows a line and its number. -/
structure Diagnostic.Shows (d : Diagnostic) (number : Nat) (line : String) : Prop where
  kind : d.kind = .unbalancedBlock
  lineNumber : d.lineNumber = some (number : Int)
  line : d.line = some line

theorem Nesting.blocks_place (n : Nesting) (token : Token) (number : Nat) :
    (n.place token number).blocks =
      if token.name = beginName then ⟨token.value, number⟩ :: n.blocks else n.blocks := by
  unfold place blocks
  split <;> rfl

/-- A token is accepted exactly if the open blocks admit its bracket. -/
theorem Nesting.add_strict (n : Nesting) (token : Token) (number : Nat) (line : String) :
    match openedBy n.blocks number token.bracket? with
    | some blocks => ∃ n', (n.add true token number line).outcome = .ok n' ∧ n'.blocks = blocks
    | none => ∃ cause : Imbalance,
        (n.add true token number line).outcome = .error cause ∧
          cause.diagnostic.Shows number line := by
  by_cases hend : token.name = endName
  · have hbracket : token.bracket? = some (.closing token.value) := by
      rw [Token.bracket?, hend]
      rfl
    rw [hbracket, add, if_pos hend, close, blocks]
    cases n.opened with
    | nil => exact ⟨_, rfl, rfl, rfl, rfl⟩
    | cons b outer =>
        by_cases hname : b.opening.name = token.value
        · simp [openedBy, blocks, hname]
        · simp only [List.map_cons, openedBy, hname, ne_eq, not_false_eq_true, and_self, if_true]
          exact ⟨_, rfl, rfl, rfl, rfl⟩
  · rw [add, if_neg hend]
    by_cases hbegin : token.name = beginName
    · rw [Token.bracket?, if_pos hbegin]
      refine ⟨_, rfl, ?_⟩
      rw [blocks_place, if_pos hbegin]
    · rw [Token.bracket?, if_neg hbegin, if_neg hend]
      refine ⟨_, rfl, ?_⟩
      rw [blocks_place, if_neg hbegin]

theorem bracketOf_of_token (h : Line.tokenize line = .ok token) :
    bracketOf line = token.bracket? := by
  rw [bracketOf, h]

theorem Reader.addLine_strict (n : Nesting) (number : Nat) (htoken : Line.tokenize line = .ok token) :
    match openedBy n.blocks number (bracketOf line) with
    | some blocks => ∃ n', (addLine true n line number).outcome = .ok n' ∧ n'.blocks = blocks
    | none => ∃ cause : Imbalance, (addLine true n line number).outcome = .error (.unbalanced cause) ∧
        cause.diagnostic.Shows number line := by
  have hadd := n.add_strict token number line
  have houtcome : (addLine true n line number).outcome =
      (n.add true token number line).outcome.mapError ReadError.unbalanced := by
    unfold addLine
    rw [htoken]
    rfl
  rw [houtcome, bracketOf_of_token htoken]
  split at hadd
  · obtain ⟨n', hok, hblocks⟩ := hadd
    rw [hok]
    exact ⟨n', rfl, hblocks⟩
  · obtain ⟨cause, herror, hshows⟩ := hadd
    rw [herror]
    exact ⟨cause, rfl, hshows⟩

/-! ## Many lines -/

/-- A line that has pieces or is empty. -/
def Readable (line : String) : Prop :=
  line ≠ "" → ∃ token, Line.tokenize line = .ok token

theorem readable_iff {line : String} :
    Readable line ↔ line = "" ∨ (Line.tokenize line).toOption.isSome = true := by
  unfold Readable
  by_cases hempty : line = ""
  · simp [hempty]
  · cases htoken : Line.tokenize line <;> simp [hempty, Except.toOption]

instance (line : String) : Decidable (Readable line) :=
  decidable_of_iff _ readable_iff.symm

theorem bracketOf_empty : bracketOf "" = none := by
  decide +kernel

/-- What strict nesting makes of further lines. -/
inductive StrictRun (done rest : List String) (run : Except ReadError Nesting) : Prop
  /-- All lines are accepted, and their open blocks are known. -/
  | accepted (n : Nesting) : run = .ok n → Leaves n.blocks (done ++ rest) → StrictRun done rest run
  /-- A line is refused, and nothing can follow it in a well-nested text. -/
  | refused (before after : List String) (line : String) (cause : Imbalance) :
      rest = before ++ line :: after → run = .error (.unbalanced cause) →
      cause.diagnostic.Shows ((done ++ before).length + 1) line →
      Extendable (brackets (done ++ before)) →
      ¬ Extendable (brackets (done ++ before ++ [line])) → StrictRun done rest run

theorem StrictRun.cons {done rest : List String} {run : Except ReadError Nesting}
    (h : StrictRun (done ++ [line]) rest run) : StrictRun done (line :: rest) run := by
  cases h with
  | accepted n hok hleaves =>
      rw [List.append_assoc] at hleaves
      exact .accepted n hok hleaves
  | refused before after last cause hrest herror hshows hextendable hrefused =>
      have hdone : done ++ [line] ++ before = done ++ line :: before := List.append_assoc _ _ _
      rw [hdone] at hshows hextendable hrefused
      exact .refused (line :: before) after last cause (by rw [hrest]; rfl) herror hshows
        hextendable hrefused

theorem Reader.addLines_strict {done rest : List String} (hleaves : Leaves n.blocks done)
    (hrest : ∀ line ∈ rest, Readable line) :
    StrictRun done rest (addLines true n (rest.zipIdx (done.length + 1))).outcome := by
  induction rest generalizing n done with
  | nil =>
      refine .accepted n rfl ?_
      rwa [List.append_nil]
  | cons line rest ih =>
      obtain ⟨hline, hrest⟩ := List.forall_mem_cons.mp hrest
      have hnext : ∀ {n'}, Leaves n'.blocks (done ++ [line]) → StrictRun (done ++ [line]) rest
          (addLines true n' (rest.zipIdx (done.length + 1 + 1))).outcome := by
        intro n' hleaves'
        have hrun := ih hleaves' hrest
        rwa [List.length_append] at hrun
      rw [List.zipIdx_cons, addLines]
      by_cases hempty : line = ""
      · -- an empty line is passed over, and it is no bracket
        rw [if_pos hempty]
        refine (hnext (hleaves.openedBy_eq_some ?_)).cons
        rw [hempty, bracketOf_empty]
        rfl
      · obtain ⟨token, htoken⟩ := hline hempty
        have hstep := addLine_strict n (done.length + 1) htoken
        rw [if_neg hempty, Report.outcome_bind]
        split at hstep
        · rename_i blocks hopened
          obtain ⟨n', hok, hblocks⟩ := hstep
          rw [hok]
          refine (hnext ?_).cons
          rw [hblocks]
          exact hleaves.openedBy_eq_some hopened
        · rename_i hopened
          obtain ⟨cause, herror, hshows⟩ := hstep
          rw [herror]
          refine .refused [] rest line cause rfl rfl ?_ ?_ ?_
          · rwa [List.append_nil]
          · rw [List.append_nil]
            exact hleaves.extendable
          · rw [List.append_nil]
            exact hleaves.openedBy_eq_none hopened

/-! ## A whole text -/

/-- A diagnostic shows the first line of a text with which its brackets can no longer be
completed to a well-nested word. Positions are counted from zero. -/
structure Diagnostic.RefusesAt (d : Diagnostic) (lines : List String) (position : Nat) : Prop where
  shows : ∃ line, lines[position]? = some line ∧ d.Shows (position + 1) line
  refused : ¬ Extendable (brackets (lines.take (position + 1)))
  earliest : ∀ count ≤ position, Extendable (brackets (lines.take count))

/-- Open blocks in words, the innermost first: each by its value and its line. -/
def OpenLine.enumeration (innermost : OpenLine) : List OpenLine → String
  | [] => innermost.name ++ " (line " ++ toString innermost.line ++ ")"
  | next :: outer =>
    innermost.name ++ " (line " ++ toString innermost.line ++ "), " ++ next.enumeration outer

theorem OpenLine.listText_cons (innermost : OpenLine) (outer : List OpenLine) :
    listText (innermost :: outer) = innermost.enumeration outer := by
  induction outer generalizing innermost with
  | nil => rfl
  | cons next outer ih =>
      rw [enumeration, ← ih]
      simp only [listText, List.map_cons, String.intercalate_cons_cons, String.append_assoc]
      rfl

/-- A diagnostic lists the blocks that are open at the end of a text, innermost first,
and shows the line of the innermost one. -/
structure Diagnostic.ListsOpen (d : Diagnostic) (lines : List String) (innermost : OpenLine)
    (outer : List OpenLine) : Prop where
  kind : d.kind = .unbalancedBlock
  extendable : ∀ count, Extendable (brackets (lines.take count))
  line : d.line = none
  lineNumber : d.lineNumber = some (innermost.line : Int)
  message : d.message = "Blocks still open at end of input: " ++ innermost.enumeration outer
  sorted : (innermost :: outer).Pairwise fun b b' => b'.line < b.line
  mem_iff : ∀ b, b ∈ innermost :: outer ↔ StillOpen lines b

theorem extendable_take {lines : List String} (h : Extendable (brackets lines)) (count : Nat) :
    Extendable (brackets (lines.take count)) := by
  rw [← List.take_append_drop count lines, brackets_append] at h
  exact h.of_append

theorem Nesting.finish_strict (n : Nesting) :
    (n.finish true).outcome =
      match n.blocks with
      | [] => .ok ()
      | innermost :: outer => .error (.unclosed innermost outer) := by
  unfold finish blocks
  cases n.opened <;> rfl

/-- What strict nesting makes of a text. -/
inductive StrictNest (lines : List String) (nest : Except ReadError Nesting) : Prop
  | accepted (n : Nesting) : nest = .ok n → WellNested (brackets lines) → StrictNest lines nest
  | refused (cause : Imbalance) (position : Nat) : nest = .error (.unbalanced cause) →
      ¬ WellNested (brackets lines) → cause.diagnostic.RefusesAt lines position →
      StrictNest lines nest
  | leftOpen (cause : Imbalance) (innermost : OpenLine) (outer : List OpenLine) :
      nest = .error (.unbalanced cause) → ¬ WellNested (brackets lines) →
      cause.diagnostic.ListsOpen lines innermost outer → StrictNest lines nest

theorem Reader.strictNest {lines : List String} (hlines : ∀ line ∈ lines, Readable line) :
    StrictNest lines (nest true lines).outcome := by
  have hrun : StrictRun [] lines (addLines true {} (lines.zipIdx 1)).outcome :=
    addLines_strict (.nil .nil) hlines
  have hnest : (nest true lines).outcome = (addLines true {} (lines.zipIdx 1)).outcome >>=
      fun n => ((n.finish true).outcome.mapError ReadError.unbalanced) >>= fun _ => .ok n := by
    simp only [nest, Report.outcome_bind]
    rfl
  rw [hnest]
  cases hrun with
  | refused before after line cause hsplit herror hshows hextendable hrefused =>
      rw [List.nil_append] at hshows hextendable hrefused
      rw [herror]
      have htake : ∀ {count}, count ≤ before.length → lines.take count = before.take count := by
        intro count hcount
        rw [hsplit, List.take_append_of_le_length hcount]
      have htake' : lines.take (before.length + 1) = before ++ [line] := by
        rw [hsplit, List.append_cons, List.take_left' (by simp)]
      refine .refused cause before.length rfl ?_ ⟨?_, ?_, ?_⟩
      · intro hwell
        rw [hsplit, List.append_cons, brackets_append] at hwell
        exact hrefused ⟨_, hwell⟩
      · exact ⟨line, by simp [hsplit], hshows⟩
      · rwa [htake']
      · intro count hcount
        rw [htake hcount]
        exact extendable_take hextendable count
  | accepted n hok hleaves =>
      rw [List.nil_append] at hleaves
      rw [hok]
      show StrictNest lines (((n.finish true).outcome.mapError _) >>= fun _ => .ok n)
      rw [n.finish_strict]
      cases hblocks : n.blocks with
      | nil =>
          rw [hblocks] at hleaves
          cases hleaves with
          | nil hwell => exact .accepted n rfl hwell
      | cons innermost outer =>
          rw [hblocks] at hleaves
          refine .leftOpen (.unclosed innermost outer) innermost outer rfl ?_
            ⟨rfl, extendable_take hleaves.extendable, rfl, rfl, ?_, hleaves.sorted, ?_⟩
          · intro hwell
            exact List.cons_ne_nil _ _ (hleaves.eq_nil hwell)
          · rw [← OpenLine.listText_cons]
            rfl
          · exact fun b => ⟨hleaves.stillOpen, hleaves.mem_of_stillOpen⟩

/-- **Strict building accepts exactly the well-nested texts, and refuses as early as it can.**
For a text that fits and whose lines have pieces, the arena is built if and only if the
brackets of its lines are well nested. Otherwise the error of the builder is the error of
the reader, and its diagnostic shows the first line with which the brackets can no longer
be completed or, if there is none, lists the blocks that are open at the end. -/
theorem strict_nest_iff_wellNested {r : Reader} {content : Content}
    (hstrict : r.settings.strictBlocks = true)
    (hfits : content.Fits r.settings.maxContentBytes)
    (hlines : ∀ line ∈ content.lines, Readable line) :
    ((∃ b, (Reader.build r.settings.strictBlocks content.lines).outcome = .ok b) ↔
        WellNested (brackets content.lines)) ∧
      ∀ e, (Reader.build r.settings.strictBlocks content.lines).outcome = .error e →
        (r.read content).outcome = .error e ∧
          ∃ d, e.diagnostic? = some d ∧
            ((∃ position, d.RefusesAt content.lines position) ∨
              ∃ innermost outer, d.ListsOpen content.lines innermost outer) := by
  have hnest := Reader.strictNest hlines
  rw [← hstrict] at hnest
  rw [Reader.exists_build_iff]
  refine ⟨⟨?_, ?_⟩, ?_⟩
  · rintro ⟨n, hn⟩
    cases hnest with
    | accepted _ _ hwell => exact hwell
    | refused _ _ herror => cases hn.symm.trans herror
    | leftOpen _ _ _ herror => cases hn.symm.trans herror
  · intro hwell
    cases hnest with
    | accepted n hok _ => exact ⟨n, hok⟩
    | refused _ _ _ hnot => exact absurd hwell hnot
    | leftOpen _ _ _ _ hnot => exact absurd hwell hnot
  · intro e he
    rw [(Reader.build_alike _ _).error_iff] at he
    refine ⟨by rw [Reader.outcome_read_of_fits hfits, he]; rfl, ?_⟩
    cases hnest with
    | accepted _ hok => cases he.symm.trans hok
    | refused cause position herror _ hd =>
        cases he.symm.trans herror
        exact ⟨_, rfl, Or.inl ⟨position, hd⟩⟩
    | leftOpen cause innermost outer herror _ hd =>
        cases he.symm.trans herror
        exact ⟨_, rfl, Or.inr ⟨innermost, outer, hd⟩⟩

/-- Two blocks that overlap: each closes in the other. -/
def overlappingText : String := "BEGIN:A\r\nX;P=1:\r\n\r\nBEGIN:B\r\nEND:A\r\nEND:B"

/-- A block that is closed between two that are not. -/
def openEndedText : String := "BEGIN:A\r\nBEGIN:B\r\nEND:B\r\n\r\nBEGIN;P=1:C,D\r\nX:1"

theorem strict_nest_overlapping :
    (∀ line ∈ (Content.text overlappingText).lines, Readable line) ∧
      ¬ WellNested (brackets (Content.text overlappingText).lines) ∧
      ((Reader.zoneless { strictBlocks := true }).read (.text overlappingText)).outcome =
        .error (.unbalanced (.mismatched 5 "END:A" "A" ⟨"B", 4⟩)) ∧
      (∀ line ∈ (Content.text openEndedText).lines, Readable line) ∧
      ¬ WellNested (brackets (Content.text openEndedText).lines) ∧
      ∃ e, ((Reader.zoneless { strictBlocks := true }).read (.text openEndedText)).outcome = .error e ∧
        e.diagnostic? = some {
          kind := .unbalancedBlock
          message := "Blocks still open at end of input: C,D (line 5), A (line 1)"
          lineNumber := some 5 } := by
  have hoverlapping : ∀ line ∈ (Content.text overlappingText).lines, Readable line := by
    decide +kernel
  have hopenEnded : ∀ line ∈ (Content.text openEndedText).lines, Readable line := by
    decide +kernel
  have hnotNested : ∀ {text : String} {e : ReadError},
      (Reader.build true (Content.text text).lines).outcome = .error e →
      ((∃ b, (Reader.build true (Content.text text).lines).outcome = .ok b) ↔
        WellNested (brackets (Content.text text).lines)) →
      ¬ WellNested (brackets (Content.text text).lines) := by
    intro text e herror hiff hwell
    obtain ⟨b, hb⟩ := hiff.mpr hwell
    cases herror.symm.trans hb
  have hmismatched : (Reader.build true (Content.text overlappingText).lines).outcome =
      .error (.unbalanced (.mismatched 5 "END:A" "A" ⟨"B", 4⟩)) := by
    have herror : (Reader.build true (Content.text overlappingText).lines).outcome.map
        (fun _ => ()) = .error (.unbalanced (.mismatched 5 "END:A" "A" ⟨"B", 4⟩)) := by
      decide +kernel
    exact eq_error_of_map herror
  have hunclosed : (Reader.build true (Content.text openEndedText).lines).outcome =
      .error (.unbalanced (.unclosed ⟨"C,D", 5⟩ [⟨"A", 1⟩])) := by
    have herror : (Reader.build true (Content.text openEndedText).lines).outcome.map
        (fun _ => ()) = .error (.unbalanced (.unclosed ⟨"C,D", 5⟩ [⟨"A", 1⟩])) := by
      decide +kernel
    exact eq_error_of_map herror
  obtain ⟨hiff, herror⟩ := @strict_nest_iff_wellNested (.zoneless { strictBlocks := true })
    (.text overlappingText) rfl (Content.fits_text.mpr (by decide +kernel)) hoverlapping
  obtain ⟨hiff', herror'⟩ := @strict_nest_iff_wellNested (.zoneless { strictBlocks := true })
    (.text openEndedText) rfl (Content.fits_text.mpr (by decide +kernel)) hopenEnded
  exact ⟨hoverlapping, hnotNested hmismatched hiff, (herror _ hmismatched).1, hopenEnded,
    hnotNested hunclosed hiff', _, (herror' _ hunclosed).1, by decide +kernel⟩

end VCalendar
