import VCalendar.Proofs.Nesting.Lenient
import VCalendar.Proofs.Summary.Reading

/-!
# The two modes

Strict and lenient nesting take the same lines side by side. As long as strict nesting
refuses nothing they do the same, and where it refuses a line lenient nesting has passed
over an END line or closed a block of another name. Main statement: strict reading either
fails for blocks that do not pair or comes to the same as lenient reading, and it does
not fail for them if lenient reading has nothing to warn of and END lines have the names
of the blocks that they close.
-/

namespace VCalendar

/-! ## Events of a composed report -/

namespace Report

variable {ε α β : Type} {r : Report ε α} {f : α → Report ε β} {event : Event}

theorem mem_events_bind_left (h : event ∈ r.events) : event ∈ (r >>= f).events := by
  rw [events_bind]
  split
  · exact h
  · exact List.mem_append_left _ h

theorem mem_events_bind_right {a : α} (hr : r.outcome = .ok a) (h : event ∈ (f a).events) :
    event ∈ (r >>= f).events := by
  rw [events_bind, hr]
  exact List.mem_append_right _ h

end Report

/-! ## One line -/

variable {n : Nesting} {token : Token} {line : String} {number : Nat}

/-- An END token that strict nesting refuses. -/
inductive Nesting.Refuses (n : Nesting) (token : Token) : Prop
  | stray : n.opened = [] → Refuses n token
  | mismatched (b : OpenBlock) (outer : List OpenBlock) : n.opened = b :: outer →
      b.opening.name ≠ token.value → Refuses n token

theorem Nesting.add_modes (n : Nesting) (token : Token) (number : Nat) (line : String) :
    n.add true token number line = n.add false token number line ∨
      (∃ cause, (n.add true token number line).outcome = .error cause) ∧
        token.name = endName ∧ n.Refuses token := by
  by_cases hend : token.name = endName
  · rw [add, add, if_pos hend, if_pos hend]
    cases hopened : n.opened with
    | nil =>
        refine Or.inr ⟨⟨.stray number line token.value, ?_⟩, hend, .stray hopened⟩
        simp [close, hopened]
    | cons b outer =>
        by_cases hname : b.opening.name = token.value
        · refine Or.inl ?_
          simp [close, hopened, hname]
        · refine Or.inr ⟨⟨.mismatched number line token.value b.opening, ?_⟩, hend,
            .mismatched b outer hopened hname⟩
          simp [close, hopened, hname]
  · rw [add, add, if_neg hend, if_neg hend]
    exact Or.inl rfl

namespace Reader

theorem addLine_modes (n : Nesting) (line : String) (number : Nat) :
    addLine true n line number = addLine false n line number ∨
      (∃ cause, (addLine true n line number).outcome = .error (.unbalanced cause)) ∧
        ∃ token, Line.tokenize line = .ok token ∧ token.name = endName ∧ n.Refuses token := by
  cases htoken : Line.tokenize line with
  | error flaw =>
      refine Or.inl ?_
      rw [addLine, addLine, htoken]
  | ok token =>
      have hadd : ∀ strict, addLine strict n line number =
          (n.add strict token number line).mapError .unbalanced := by
        intro strict
        rw [addLine, htoken]
      rw [hadd, hadd]
      rcases n.add_modes token number line with hsame | ⟨⟨cause, hcause⟩, hend, hrefuses⟩
      · exact Or.inl (by rw [hsame])
      · refine Or.inr ⟨⟨cause, ?_⟩, token, rfl, hend, hrefuses⟩
        rw [Report.mapError, hcause]
        rfl

/-! ## Many lines -/

/-- Lenient nesting of some lines comes to an END line that strict nesting refuses: it
warns of the line, or closes a block of another name. -/
inductive Lapse (n : Nesting) (lines : List (String × Nat)) : Prop
  | stray (name : String) (number : Nat) :
      .strayEnd name number ∈ (addLines false n lines).events → Lapse n lines
  | mismatched (before after : List (String × Nat)) (line : String) (number : Nat)
      (m : Nesting) (token : Token) (b : OpenBlock) (outer : List OpenBlock) :
      lines = before ++ (line, number) :: after → (addLines false n before).outcome = .ok m →
      Line.tokenize line = .ok token → token.name = endName → m.opened = b :: outer →
      b.opening.name ≠ token.value → Lapse n lines

variable {rest : List (String × Nat)}

theorem Lapse.cons_empty (h : Lapse n rest) : Lapse n (("", number) :: rest) := by
  cases h with
  | stray name number' hmem =>
      refine .stray name number' ?_
      rwa [addLines_cons_empty]
  | mismatched before after line number' m token b outer hsplit hbefore htoken hend hopened hname =>
      refine .mismatched (("", number) :: before) after line number' m token b outer ?_ ?_
        htoken hend hopened hname
      · rw [hsplit, List.cons_append]
      · rw [addLines_cons_empty, hbefore]

theorem Lapse.cons {n' : Nesting} (hne : line ≠ "")
    (hline : (addLine false n line number).outcome = .ok n') (h : Lapse n' rest) :
    Lapse n ((line, number) :: rest) := by
  cases h with
  | stray name number' hmem =>
      refine .stray name number' ?_
      rw [addLines_cons hne]
      exact Report.mem_events_bind_right hline hmem
  | mismatched before after line' number' m token b outer hsplit hbefore htoken hend hopened
      hname =>
      refine .mismatched ((line, number) :: before) after line' number' m token b outer ?_ ?_
        htoken hend hopened hname
      · rw [hsplit, List.cons_append]
      · rw [addLines_cons hne, Report.outcome_bind, hline]
        exact hbefore

theorem Lapse.of_refuses (hne : line ≠ "") (htoken : Line.tokenize line = .ok token)
    (hend : token.name = endName) (hrefuses : n.Refuses token) :
    Lapse n ((line, number) :: rest) := by
  cases hrefuses with
  | stray hopened =>
      refine .stray token.value number ?_
      rw [addLines_cons hne]
      refine Report.mem_events_bind_left ?_
      rw [addLine, htoken]
      show _ ∈ (n.add false token number line).events
      rw [Nesting.add, if_pos hend, Nesting.close, hopened]
      exact List.mem_singleton_self _
  | mismatched b outer hopened hname =>
      exact .mismatched [] rest line number n token b outer rfl rfl htoken hend hopened hname

theorem addLines_modes (n : Nesting) (lines : List (String × Nat)) :
    (addLines true n lines).outcome = (addLines false n lines).outcome ∨
      (∃ cause, (addLines true n lines).outcome = .error (.unbalanced cause)) ∧
        Lapse n lines := by
  induction lines generalizing n with
  | nil => exact Or.inl rfl
  | cons entry rest ih =>
      obtain ⟨line, number⟩ := entry
      by_cases hempty : line = ""
      · rw [hempty, addLines_cons_empty, addLines_cons_empty]
        exact (ih n).imp_right fun ⟨hcause, hlapse⟩ => ⟨hcause, hlapse.cons_empty⟩
      · rcases addLine_modes n line number with
          hsame | ⟨⟨cause, hcause⟩, token, htoken, hend, hrefuses⟩
        · rw [addLines_cons hempty, addLines_cons hempty, Report.outcome_bind,
            Report.outcome_bind, hsame]
          cases hline : (addLine false n line number).outcome with
          | error e => exact Or.inl rfl
          | ok n' =>
              exact (ih n').imp_right fun ⟨hcause, hlapse⟩ =>
                ⟨hcause, hlapse.cons hempty hline⟩
        · refine Or.inr ⟨⟨cause, ?_⟩, .of_refuses hempty htoken hend hrefuses⟩
          rw [addLines_cons hempty, Report.outcome_bind, hcause]
          rfl

/-! ## A whole text -/

theorem nest_modes (lines : List String) :
    (nest true lines).outcome = (nest false lines).outcome ∨
      (∃ cause, (nest true lines).outcome = .error (.unbalanced cause)) ∧
        (Lapse {} (lines.zipIdx 1) ∨
          ∃ blocks, .stillOpen blocks ∈ (nest false lines).events) := by
  rw [outcome_nest, outcome_nest]
  rcases addLines_modes {} (lines.zipIdx 1) with hsame | ⟨⟨cause, hcause⟩, hlapse⟩
  · rw [hsame]
    cases hlines : (addLines false {} (lines.zipIdx 1)).outcome with
    | error e => exact Or.inl rfl
    | ok n =>
        have hfinish : ∀ strict, ((Except.ok n : Except ReadError Nesting) >>= fun n =>
            ((n.finish strict).outcome.mapError ReadError.unbalanced) >>= fun _ => .ok n) =
              (n.finish strict).outcome.mapError ReadError.unbalanced >>= fun _ => .ok n :=
          fun _ => rfl
        rw [hfinish, hfinish, n.finish_strict, n.finish_lenient]
        cases hblocks : n.blocks with
        | nil => exact Or.inl rfl
        | cons b outer =>
            refine Or.inr ⟨⟨.unclosed b outer, rfl⟩, Or.inr ⟨b :: outer, ?_⟩⟩
            refine Report.mem_events_bind_right hlines (Report.mem_events_bind_left ?_)
            show _ ∈ (n.finish false).events
            rw [n.finish_lenient, hblocks]
            exact List.mem_singleton_self _
  · refine Or.inr ⟨⟨cause, ?_⟩, Or.inl hlapse⟩
    rw [hcause]
    rfl

/-! ## A content -/

variable {r : Reader} {content : Content}

/-- The reader of the same settings, but for its mode. -/
def withMode (r : Reader) (strict : Bool) : Reader :=
  { r with settings := { r.settings with strictBlocks := strict } }

/-- Some END line of a text closes a block of another name: it stands behind a BEGIN line
and a balanced word, and all lines in front of it have pieces or are empty. -/
def MismatchedEnd (lines : List String) : Prop :=
  ∃ before opening inner closing after label label',
    lines = before ++ opening :: (inner ++ closing :: after) ∧
      (∀ line ∈ before ++ opening :: inner, Readable line) ∧
      bracketOf opening = some (.opening label) ∧ Balanced (brackets inner) ∧
      bracketOf closing = some (.closing label') ∧ label' ≠ label

/-- A lapse of lenient nesting is a warning, or shows in the text. -/
theorem Lapse.of_text {lines : List String} (h : Lapse {} (lines.zipIdx 1)) :
    (∃ name number, .strayEnd name number ∈ (nest false lines).events) ∨
      MismatchedEnd lines := by
  cases h with
  | stray name number hmem => exact Or.inl ⟨name, number, Report.mem_events_bind_left hmem⟩
  | mismatched before after line number m token b outer hsplit hbefore htoken hend hopened hname =>
      refine Or.inr ?_
      obtain ⟨front, back, rfl, rfl, hback⟩ := List.zipIdx_eq_append_iff.mp hsplit
      obtain ⟨last, back, rfl, hlast, -⟩ := List.zipIdx_eq_cons_iff.mp hback.symm
      obtain rfl : line = last := (Prod.mk.inj hlast).1
      have hempty : Opened (Nesting.blocks {}) [] := .nil []
      obtain ⟨hopen, hreadable⟩ := opened_of_addLines hempty hbefore
      have hblocks : m.blocks = b.opening :: outer.map (·.opening) := by
        rw [Nesting.blocks, hopened, List.map_cons]
      rw [List.nil_append, hblocks] at hopen
      generalize hinnermost : b.opening = innermost at hopen
      cases hopen with
      | @cons _ before inner opening label houter hopening hinner =>
          have hlabel : token.value ≠ label := fun heq => hname (by rw [hinnermost, heq])
          have hclosing : bracketOf line = some (.closing token.value) := by
            rw [bracketOf_of_token htoken, Token.bracket?, hend]
            rfl
          refine ⟨before, opening, inner, line, back, label, token.value, ?_, hreadable, hopening,
            hinner, hclosing, hlabel⟩
          rw [List.append_assoc, List.cons_append]

/-- A content that does not fit is refused alike in both modes. -/
theorem read_withMode_of_not_fits (h : ¬ content.Fits r.settings.maxContentBytes) :
    ∃ e, (∀ cause, e ≠ .unbalanced cause) ∧
      ∀ strict, ((r.withMode strict).read content).outcome = .error e := by
  rcases content.fits_cases r.settings.maxContentBytes with
    ⟨flaw, hbroken⟩ | ⟨size, hsize, hlarge⟩ | hfits
  · refine ⟨.unencodable flaw, nofun, fun strict => ?_⟩
    rw [read_of_broken hbroken]
    rfl
  · refine ⟨.tooLarge size r.settings.maxContentBytes, nofun, fun strict => ?_⟩
    rw [read_of_tooLarge (r := r.withMode strict) hsize hlarge]
    rfl
  · exact absurd hfits h

theorem outcome_read_withMode (h : content.Fits r.settings.maxContentBytes) (strict : Bool) :
    ((r.withMode strict).read content).outcome =
      (nest strict content.lines).outcome >>= fun n => (documentOf r.zones n).outcome :=
  outcome_read_of_fits (r := r.withMode strict) h

theorem lenient_read_ne_unbalanced (r : Reader) (content : Content) (cause : Imbalance) :
    ((r.withMode false).read content).outcome ≠ .error (.unbalanced cause) := by
  intro h
  cases (r.withMode false).reads content with
  | unencodable _ _ herror => cases h.symm.trans herror
  | tooLarge _ _ _ herror => cases h.symm.trans herror
  | malformed _ _ _ herror => cases h.symm.trans herror
  | unbalanced cause' _ hnest _ =>
      have hlenient := outcome_nest_lenient content.lines
      rw [show (nest false content.lines).outcome = .error (.unbalanced cause') from hnest]
        at hlenient
      cases htokens : tokenizeAll (content.lines.zipIdx 1) with
      | error m =>
          rw [htokens] at hlenient
          cases hlenient
      | ok ts =>
          rw [htokens] at hlenient
          cases hlenient
  | flawed _ _ _ _ _ hfirst herror =>
      cases h.symm.trans herror
      cases hfirst.concernsDates
  | summed _ _ _ _ _ hok => cases h.symm.trans hok

theorem mem_events_read {event : Event} (hfits : content.Fits r.settings.maxContentBytes)
    (h : event ∈ (nest r.settings.strictBlocks content.lines).events) :
    event ∈ (r.read content).events := by
  rw [read_of_fits hfits]
  exact Report.mem_events_bind_right rfl (Report.mem_events_bind_left h)

/-- **Strict reading is lenient reading with refusals.** Whatever the settings, the zones
and the content, the strict reader fails for blocks that do not pair, or comes to the same
document or the same error as the lenient one. If the lenient reader warns of no END line
and of no open block, and no END line closes a block of another name, then the strict one
does not fail for blocks that do not pair. -/
theorem strict_read_or_lenient (r : Reader) (content : Content) :
    ((∃ cause, ((r.withMode true).read content).outcome = .error (.unbalanced cause)) ∨
      ((r.withMode true).read content).outcome = ((r.withMode false).read content).outcome) ∧
    ((∀ name number, .strayEnd name number ∉ ((r.withMode false).read content).events) →
      (∀ blocks, .stillOpen blocks ∉ ((r.withMode false).read content).events) →
      ¬ MismatchedEnd content.lines →
        ∀ cause, ((r.withMode true).read content).outcome ≠ .error (.unbalanced cause)) := by
  by_cases hfits : content.Fits r.settings.maxContentBytes
  · have hread := outcome_read_withMode hfits
    rcases nest_modes content.lines with hsame | ⟨⟨cause, hcause⟩, hwhy⟩
    · have houtcome : ((r.withMode true).read content).outcome =
          ((r.withMode false).read content).outcome := by rw [hread, hread, hsame]
      refine ⟨Or.inr houtcome, ?_⟩
      intro _ _ _ cause h
      exact r.lenient_read_ne_unbalanced content cause (houtcome ▸ h)
    · refine ⟨Or.inl ⟨cause, by rw [hread, hcause]; rfl⟩, ?_⟩
      intro hends hopen hnames
      -- the lenient reader has warned, or the text has the mismatch
      have hevents : ∀ {event}, event ∈ (nest false content.lines).events →
          event ∈ ((r.withMode false).read content).events :=
        fun h => mem_events_read (r := r.withMode false) hfits h
      rcases hwhy with hlapse | ⟨blocks, hblocks⟩
      · rcases hlapse.of_text with ⟨name, number, hmem⟩ | hmismatched
        · exact absurd (hevents hmem) (hends name number)
        · exact absurd hmismatched hnames
      · exact absurd (hevents hblocks) (hopen blocks)
  · obtain ⟨e, hother, hread⟩ := read_withMode_of_not_fits hfits
    refine ⟨Or.inr ((hread true).trans (hread false).symm), ?_⟩
    intro _ _ _ cause h
    exact hother cause (Except.error.inj ((hread true).symm.trans h))

/-- A block in another one, and a date that is none. -/
def nestedBlocksText : String := "BEGIN:A\r\nBEGIN:B\r\nEND:B\r\nEND:A\r\nDTSTART:none"

def nestedBlocksLines : List String :=
  ["BEGIN:A", "BEGIN:B", "END:B", "END:A", "DTSTART:none"]

/-- Two brackets go together, or they are no BEGIN and END line in this order. -/
def labelsAgree : Option Bracket → Option Bracket → Bool
  | some (.opening label), some (.closing label') => label' = label
  | _, _ => true

theorem not_mismatchedEnd_nestedBlocks : ¬ MismatchedEnd nestedBlocksLines := by
  -- all pairs of lines with a balanced word between them
  have hpairs : ∀ i < 5, ∀ k < 5,
      Balanced (brackets ((nestedBlocksLines.drop (i + 1)).take k)) →
      labelsAgree (nestedBlocksLines[i]?.bind bracketOf)
        (nestedBlocksLines[i + 1 + k]?.bind bracketOf) = true := by
    decide +kernel
  rintro ⟨before, opening, inner, closing, after, label, label', hsplit, -, hopening, hinner,
    hclosing, hne⟩
  have hlength : nestedBlocksLines.length = 5 := rfl
  have hfirst : nestedBlocksLines[before.length]? = some opening := by
    rw [hsplit]
    simp
  have hlast : nestedBlocksLines[before.length + 1 + inner.length]? = some closing := by
    have hposition : before.length + 1 + inner.length = (before ++ [opening] ++ inner).length := by
      simp only [List.length_append, List.length_singleton]
    rw [hsplit, List.append_cons, ← List.append_assoc, hposition,
      List.getElem?_append_right (Nat.le_refl _), Nat.sub_self]
    rfl
  have hbetween : (nestedBlocksLines.drop (before.length + 1)).take inner.length = inner := by
    rw [hsplit, List.append_cons, List.drop_left' (by simp), List.take_left' rfl]
  have hinside := (List.getElem?_eq_some_iff.mp hlast).1
  have hlabels := hpairs before.length (by omega) inner.length (by omega)
  rw [hfirst, hlast, hbetween, Option.bind_some, Option.bind_some, hopening, hclosing] at hlabels
  exact hne (of_decide_eq_true (hlabels hinner))

theorem strict_read_or_lenient_nestedBlocks :
    (∀ name number, .strayEnd name number ∉
        (((Reader.zoneless {}).withMode false).read (.text nestedBlocksText)).events) ∧
      (∀ blocks, .stillOpen blocks ∉
        (((Reader.zoneless {}).withMode false).read (.text nestedBlocksText)).events) ∧
      ¬ MismatchedEnd (Content.text nestedBlocksText).lines ∧
      (((Reader.zoneless {}).withMode true).read (.text nestedBlocksText)).outcome =
        .error (.badDate ⟨5, "DTSTART", "none"⟩) := by
  have hquiet : (((Reader.zoneless {}).withMode false).read (.text nestedBlocksText)).events.all
      (fun event => match event with
        | .strayEnd .. | .stillOpen .. => false
        | _ => true) = true := by
    decide +kernel
  rw [List.all_eq_true] at hquiet
  have hstray : ∀ name number, .strayEnd name number ∉
      (((Reader.zoneless {}).withMode false).read (.text nestedBlocksText)).events :=
    fun _ _ hmem => nomatch hquiet _ hmem
  have hopen : ∀ blocks, .stillOpen blocks ∉
      (((Reader.zoneless {}).withMode false).read (.text nestedBlocksText)).events :=
    fun _ hmem => nomatch hquiet _ hmem
  have hlines : (Content.text nestedBlocksText).lines = nestedBlocksLines := by decide +kernel
  have hnames : ¬ MismatchedEnd (Content.text nestedBlocksText).lines :=
    hlines ▸ not_mismatchedEnd_nestedBlocks
  obtain ⟨hmodes, hpairs⟩ := (Reader.zoneless {}).strict_read_or_lenient (.text nestedBlocksText)
  refine ⟨hstray, hopen, hnames, ?_⟩
  rcases hmodes with ⟨cause, hcause⟩ | hsame
  · exact absurd hcause (hpairs hstray hopen hnames cause)
  · rw [hsame]
    decide +kernel

end Reader

end VCalendar
