import VCalendar.Builder

/-!
# Bracket words

The BEGIN and END lines of a text are brackets, labelled by their values. A word of
brackets is well nested if it is empty or an opening bracket, a well-nested word, the
closing bracket of the same label and another well-nested word.

Reading a word from left to right, one has to remember the brackets that are still
open. Main statements: a word whose open brackets are known can be completed to a
well-nested one, closing anything but the innermost open bracket spoils it for good,
and the brackets that are open are exactly those that nothing behind them closes.
-/

namespace VCalendar

inductive Bracket where
  | opening (label : String)
  | closing (label : String)
deriving DecidableEq, Repr

def Token.bracket? (t : Token) : Option Bracket :=
  if t.name = beginName then some (.opening t.value)
  else if t.name = endName then some (.closing t.value)
  else none

/-- The bracket of a line; a line without pieces has none. -/
def bracketOf (line : String) : Option Bracket :=
  match Line.tokenize line with
  | .ok token => token.bracket?
  | .error _ => none

def brackets (lines : List String) : List Bracket :=
  lines.filterMap bracketOf

theorem brackets_append (lines lines' : List String) :
    brackets (lines ++ lines') = brackets lines ++ brackets lines' :=
  List.filterMap_append

theorem brackets_cons_some {line : String} {b : Bracket} (h : bracketOf line = some b)
    (lines : List String) : brackets (line :: lines) = b :: brackets lines :=
  List.filterMap_cons_some h

theorem brackets_cons_none {line : String} (h : bracketOf line = none) (lines : List String) :
    brackets (line :: lines) = brackets lines :=
  List.filterMap_cons_none h

inductive WellNested : List Bracket → Prop
  | nil : WellNested []
  | block {label : String} {inner rest : List Bracket} : WellNested inner → WellNested rest →
      WellNested (.opening label :: (inner ++ .closing label :: rest))

/-- Whether a word is the beginning of a well-nested one. -/
def Extendable (w : List Bracket) : Prop :=
  ∃ more, WellNested (w ++ more)

variable {w w' : List Bracket} {label : String}

theorem WellNested.append (h : WellNested w) (h' : WellNested w') : WellNested (w ++ w') := by
  induction h with
  | nil => exact h'
  | @block label inner rest hinner _ _ ih =>
      rw [List.cons_append, List.append_assoc, List.cons_append]
      exact .block hinner ih

theorem WellNested.enclose (h : WellNested w) (label : String) :
    WellNested (.opening label :: (w ++ [.closing label])) := .block h .nil

theorem Extendable.of_append (h : Extendable (w ++ w')) : Extendable w := by
  obtain ⟨more, hmore⟩ := h
  exact ⟨w' ++ more, by rwa [← List.append_assoc]⟩

/-- Behind every opening bracket of a well-nested word there is the one that closes it. -/
theorem WellNested.exists_closing (h : WellNested w) {before after : List Bracket}
    (hw : w = before ++ .opening label :: after) :
    ∃ inner rest, after = inner ++ .closing label :: rest ∧ WellNested inner := by
  induction h generalizing before after with
  | nil => simp at hw
  | @block label' inner rest hinner _ ih ih' =>
      cases before with
      | nil =>
          obtain ⟨hlabel, rfl⟩ := List.cons.inj hw
          cases hlabel
          exact ⟨inner, rest, rfl, hinner⟩
      | cons b before =>
          obtain ⟨-, hw⟩ := List.cons.inj hw
          rcases List.append_eq_append_iff.mp hw with ⟨t, rfl, hrest⟩ | ⟨t, rfl, hafter⟩
          · -- it is one of the brackets behind the first block
            cases t with
            | nil => cases hrest
            | cons c t =>
                obtain ⟨-, hrest⟩ := List.cons.inj hrest
                exact ih' hrest
          · -- it is one of the brackets inside the first block
            cases t with
            | nil => cases hafter
            | cons c t =>
                obtain ⟨rfl, rfl⟩ := List.cons.inj hafter
                obtain ⟨inner, more, rfl, hwell⟩ := ih rfl
                exact ⟨inner, _, List.append_assoc _ _ _, hwell⟩

/-! ## Reading from left to right -/

/-- The labels that are open behind a word, innermost first, given those in front of it.
There are none if the word closes something else than the innermost open label. -/
def openLabels : List String → List Bracket → Option (List String)
  | labels, [] => some labels
  | labels, .opening label :: w => openLabels (label :: labels) w
  | [], .closing _ :: _ => none
  | label' :: labels, .closing label :: w => if label' = label then openLabels labels w else none

/-- A well-nested word closes what it opens, and nothing else. -/
theorem WellNested.openLabels_append (h : WellNested w) (labels : List String)
    (w' : List Bracket) : openLabels labels (w ++ w') = openLabels labels w' := by
  induction h generalizing labels w' with
  | nil => rfl
  | @block label inner rest _ _ ih ih' =>
      rw [List.cons_append, List.append_assoc, openLabels, ih, List.cons_append, openLabels,
        if_pos rfl, ih']

theorem WellNested.openLabels_eq (h : WellNested w) (labels : List String) :
    openLabels labels w = some labels := by
  have happend := h.openLabels_append labels []
  rwa [List.append_nil] at happend

/-! ## Open blocks -/

/-- What is open behind some lines: they are cut into the lines that open the blocks and
well-nested parts between them. Lines are counted from one. -/
inductive Leaves : List OpenLine → List String → Prop
  | nil {lines : List String} : WellNested (brackets lines) → Leaves [] lines
  | cons {blocks : List OpenLine} {lines inner : List String} {line label : String} :
      Leaves blocks lines → bracketOf line = some (.opening label) →
      WellNested (brackets inner) →
      Leaves (⟨label, lines.length + 1⟩ :: blocks) (lines ++ line :: inner)

variable {blocks : List OpenLine} {lines : List String} {b : OpenLine}

namespace Leaves

theorem openLabels_append (h : Leaves blocks lines) (w : List Bracket) :
    openLabels [] (brackets lines ++ w) = openLabels (blocks.map (·.name)) w := by
  induction h generalizing w with
  | nil hwell => exact hwell.openLabels_append [] w
  | cons _ hline hwell ih =>
      rw [brackets_append, brackets_cons_some hline, List.append_assoc, ih, List.cons_append,
        openLabels, hwell.openLabels_append]
      rfl

/-- Every block can still be closed. -/
theorem extendable (h : Leaves blocks lines) : Extendable (brackets lines) := by
  -- with a well-nested word put in between, so that blocks can be closed one after the other
  have hclose : ∃ more, ∀ w, WellNested w → WellNested (brackets lines ++ (w ++ more)) := by
    induction h with
    | nil hwell => exact ⟨[], fun w hw => by rw [List.append_nil]; exact hwell.append hw⟩
    | @cons blocks lines inner line label _ hline hwell ih =>
        obtain ⟨more, hmore⟩ := ih
        refine ⟨.closing label :: more, ?_⟩
        intro w hw
        have henclosed := hmore _ ((hwell.append hw).enclose label)
        rw [brackets_append, brackets_cons_some hline]
        simpa using henclosed
  obtain ⟨more, hmore⟩ := hclose
  exact ⟨more, hmore [] .nil⟩

/-- Well-nested lines leave the same blocks open. -/
theorem append (h : Leaves blocks lines) {more : List String}
    (hmore : WellNested (brackets more)) : Leaves blocks (lines ++ more) := by
  cases h with
  | nil hwell =>
      refine .nil ?_
      rw [brackets_append]
      exact hwell.append hmore
  | cons h hline hwell =>
      rw [List.append_assoc, List.cons_append]
      refine .cons h hline ?_
      rw [brackets_append]
      exact hwell.append hmore

/-- Nothing is open behind well-nested lines. -/
theorem eq_nil (h : Leaves blocks lines) (hwell : WellNested (brackets lines)) : blocks = [] := by
  have hlabels := h.openLabels_append []
  rw [List.append_nil, hwell.openLabels_eq] at hlabels
  exact List.map_eq_nil_iff.mp (Option.some.inj hlabels).symm

theorem line_le (h : Leaves blocks lines) (hb : b ∈ blocks) : b.line ≤ lines.length := by
  induction h with
  | nil => cases hb
  | cons _ _ _ ih =>
      rw [List.length_append, List.length_cons]
      rcases List.mem_cons.mp hb with rfl | hb
      · exact Nat.add_le_add_left (Nat.le_add_left 1 _) _
      · exact Nat.le_trans (ih hb) (Nat.le_add_right _ _)

theorem sorted (h : Leaves blocks lines) : blocks.Pairwise fun b b' => b'.line < b.line := by
  induction h with
  | nil => exact .nil
  | cons h _ _ ih =>
      refine List.pairwise_cons.mpr ⟨?_, ih⟩
      intro b hb
      exact Nat.lt_succ_of_le (h.line_le hb)

end Leaves

/-! ## One more line -/

/-- The blocks that are open behind a further line, unless it closes something else than
the innermost of them. -/
def openedBy (blocks : List OpenLine) (number : Nat) : Option Bracket → Option (List OpenLine)
  | none => some blocks
  | some (.opening label) => some (⟨label, number⟩ :: blocks)
  | some (.closing label) =>
    match blocks with
    | [] => none
    | b :: outer => if b.name = label then some outer else none

theorem brackets_singleton_none {line : String} (h : bracketOf line = none) :
    brackets [line] = [] := brackets_cons_none h []

theorem Leaves.openedBy_eq_some {line : String} {blocks' : List OpenLine}
    (h : Leaves blocks lines)
    (hopened : openedBy blocks (lines.length + 1) (bracketOf line) = some blocks') :
    Leaves blocks' (lines ++ [line]) := by
  cases hline : bracketOf line with
  | none =>
      rw [hline] at hopened
      cases hopened
      refine h.append ?_
      rw [brackets_singleton_none hline]
      exact .nil
  | some bracket =>
      rw [hline] at hopened
      cases bracket with
      | opening label =>
          cases hopened
          exact .cons h hline .nil
      | closing label =>
          cases h with
          | nil hwell => cases hopened
          | @cons outer before inner first label' houter hfirst hwell =>
              simp only [openedBy] at hopened
              split at hopened
              · rename_i hlabel
                cases hopened
                obtain rfl : label' = label := hlabel
                -- the innermost block and the line that closes it are well nested
                rw [List.append_assoc, List.cons_append]
                refine houter.append ?_
                rw [brackets_cons_some hfirst, brackets_append, brackets_cons_some hline]
                exact hwell.enclose label'
              · cases hopened

theorem Leaves.openedBy_eq_none {line : String} (h : Leaves blocks lines)
    (hopened : openedBy blocks (lines.length + 1) (bracketOf line) = none) :
    ¬ Extendable (brackets (lines ++ [line])) := by
  rintro ⟨more, hmore⟩
  have hlabels := hmore.openLabels_eq []
  rw [brackets_append, List.append_assoc, h.openLabels_append] at hlabels
  cases hline : bracketOf line with
  | none =>
      rw [hline] at hopened
      cases hopened
  | some bracket =>
      rw [hline] at hopened
      rw [brackets_cons_some hline] at hlabels
      cases bracket with
      | opening label => cases hopened
      | closing label =>
          cases blocks with
          | nil => cases hlabels
          | cons b outer =>
              simp only [openedBy] at hopened
              split at hopened
              · cases hopened
              · rename_i hlabel
                simp only [List.map_cons, List.cons_append, openLabels, if_neg hlabel] at hlabels
                cases hlabels

/-! ## Blocks that nothing closes -/

/-- A block is still open at the end of some lines if no END line behind it closes it,
that is, follows on well-nested lines. -/
def StillOpen (lines : List String) (b : OpenLine) : Prop :=
  ∃ before line after, lines = before ++ line :: after ∧ b.line = before.length + 1 ∧
    bracketOf line = some (.opening b.name) ∧
    ∀ inner last rest label, after = inner ++ last :: rest →
      bracketOf last = some (.closing label) → ¬ WellNested (brackets inner)

theorem Leaves.stillOpen (h : Leaves blocks lines) (hb : b ∈ blocks) : StillOpen lines b := by
  -- what stands behind the line of the block opens and closes only blocks of its own
  have hbehind : ∃ before line after labels, lines = before ++ line :: after ∧
      b.line = before.length + 1 ∧ bracketOf line = some (.opening b.name) ∧
      ∀ w, openLabels [] (brackets after ++ w) = openLabels labels w := by
    induction h with
    | nil => cases hb
    | @cons blocks lines inner line label _ hline hwell ih =>
        rcases List.mem_cons.mp hb with rfl | hb
        · exact ⟨lines, line, inner, [], rfl, rfl, hline, hwell.openLabels_append []⟩
        · obtain ⟨before, line', after, labels, rfl, hnumber, hline', hlabels⟩ := ih hb
          refine ⟨before, line', after ++ line :: inner, label :: labels, ?_, hnumber, hline', ?_⟩
          · rw [List.append_assoc, List.cons_append]
          · intro w
            rw [brackets_append, brackets_cons_some hline, List.append_assoc, hlabels,
              List.cons_append, openLabels, hwell.openLabels_append]
  obtain ⟨before, line, after, labels, hlines, hnumber, hline, hlabels⟩ := hbehind
  refine ⟨before, line, after, hlines, hnumber, hline, ?_⟩
  rintro inner last rest label rfl hlast hwell
  have hread := hlabels []
  rw [List.append_nil, brackets_append, hwell.openLabels_append, brackets_cons_some hlast] at hread
  cases hread

/-- Behind a line that opens a block in well-nested lines there is the one that closes it. -/
theorem exists_closing_line {before after : List String} {line : String}
    (hwell : WellNested (brackets (before ++ line :: after)))
    (hline : bracketOf line = some (.opening label)) :
    ∃ inner last rest, after = inner ++ last :: rest ∧ bracketOf last = some (.closing label) ∧
      WellNested (brackets inner) := by
  rw [brackets_append, brackets_cons_some hline] at hwell
  obtain ⟨w, w', hafter, hw⟩ := hwell.exists_closing rfl
  obtain ⟨inner, lines', rfl, rfl, hlines'⟩ := List.filterMap_eq_append_iff.mp hafter
  obtain ⟨plain, last, rest, rfl, hplain, hlast, -⟩ := List.filterMap_eq_cons_iff.mp hlines'
  refine ⟨inner ++ plain, last, rest, (List.append_assoc _ _ _).symm, hlast, ?_⟩
  rw [brackets_append, show brackets plain = [] from List.filterMap_eq_nil_iff.mpr hplain,
    List.append_nil]
  exact hw

theorem Leaves.mem_of_stillOpen (h : Leaves blocks lines) (hopen : StillOpen lines b) :
    b ∈ blocks := by
  obtain ⟨before, line, after, hlines, hnumber, hline, hclosed⟩ := hopen
  induction h generalizing before after with
  | nil hwell =>
      rw [hlines] at hwell
      obtain ⟨inner, last, rest, hafter, hlast, hinner⟩ := exists_closing_line hwell hline
      exact (hclosed inner last rest _ hafter hlast hinner).elim
  | @cons blocks lines inner line' label _ hline' hwell ih =>
      have hinnermost : before = lines → line :: after = line' :: inner →
          b ∈ (⟨label, lines.length + 1⟩ :: blocks : List OpenLine) := by
        rintro rfl hsame
        cases hsame
        cases hline.symm.trans hline'
        rw [← hnumber]
        exact List.mem_cons_self
      rcases List.append_eq_append_iff.mp hlines with ⟨t, hbefore, ht⟩ | ⟨t, hbefore, ht⟩
      · cases t with
        | nil => exact hinnermost (by simpa using hbefore) ht.symm
        | cons c t =>
            -- the block lies behind the innermost one, where all is well nested
            obtain ⟨-, rfl⟩ := List.cons.inj ht
            obtain ⟨w, last, rest, hafter, hlast, hw⟩ := exists_closing_line hwell hline
            exact (hclosed w last rest _ hafter hlast hw).elim
      · cases t with
        | nil => exact hinnermost (by simpa using hbefore.symm) ht
        | cons c t =>
            -- the block lies in front of the innermost one
            obtain ⟨rfl, rfl⟩ := List.cons.inj ht
            refine List.mem_cons_of_mem _ (ih before t hbefore hnumber ?_)
            rintro w last rest label' rfl hlast
            exact hclosed w last _ label' (List.append_assoc _ _ _) hlast

end VCalendar
