import VCalendar.Proofs.Summary.Roots

/-!
# Lines with other numbers

The number of a line is handed on to its token, its node and the error about it, and
nothing is decided by it. Main statement: if the lines of a text are given other numbers,
lenient reading gives the same summary, or the same error under the other number.
-/

namespace VCalendar

variable {f : Nat → Nat} {g : Int → Int}

/-! ## Numbers -/

def MalformedLine.renumber (g : Int → Int) (m : MalformedLine) : MalformedLine :=
  { m with number := g m.number }

def BadDate.renumber (g : Int → Int) (b : BadDate) : BadDate :=
  { b with number := g b.number }

/-- An error about a line or a date, under another number. -/
def ReadError.renumber (g : Int → Int) : ReadError → ReadError
  | .malformed cause => .malformed (cause.renumber g)
  | .badDate cause => .badDate (cause.renumber g)
  | e => e

def NumberedToken.renumber (f : Nat → Nat) (t : NumberedToken) : NumberedToken :=
  { t with line := f t.line }

def Node.renumber (g : Int → Int) (n : Node) : Node :=
  { n with lineNumber := g n.lineNumber }

/-- An error under another number is shown in the same way, but for the number. -/
theorem ReadError.diagnostic?_renumber (g : Int → Int) {e : ReadError}
    (h : ∀ cause, e ≠ .unbalanced cause) :
    (e.renumber g).diagnostic?.map (fun d => (d.kind, d.property, d.line, d.lineNumber)) =
      e.diagnostic?.map fun d => (d.kind, d.property, d.line, d.lineNumber.map g) := by
  cases e with
  | unbalanced cause => exact absurd rfl (h cause)
  | missing | unencodable | tooLarge | malformed | badDate | badSpan | lookup => rfl

theorem NumberedToken.node_renumber (hfg : ∀ number : Nat, g number = f number)
    (t : NumberedToken) : (t.renumber f).node = t.node.renumber g := by
  show (⟨0, .property, t.token.name, t.token.parameters, t.token.value, [], none, f t.line⟩ : Node)
    = ⟨0, .property, t.token.name, t.token.parameters, t.token.value, [], none, g t.line⟩
  rw [hfg]

/-! ## Tokens -/

theorem tokenizeAll_renumber (hfg : ∀ number : Nat, g number = f number)
    (lines : List (String × Nat)) :
    tokenizeAll (lines.map (Prod.map id f)) =
      ((tokenizeAll lines).map (List.map (NumberedToken.renumber f))).mapError
        (MalformedLine.renumber g) := by
  induction lines with
  | nil => rfl
  | cons entry rest ih =>
      obtain ⟨line, number⟩ := entry
      rw [List.map_cons, Prod.map_apply, id_eq, tokenizeAll, tokenizeAll]
      by_cases hempty : line = ""
      · rw [if_pos hempty, if_pos hempty, ih]
      · rw [if_neg hempty, if_neg hempty]
        cases Line.tokenize line with
        | error flaw =>
            show Except.error (⟨(f number : Nat), line, flaw⟩ : MalformedLine) =
              .error ⟨g number, line, flaw⟩
            rw [hfg]
        | ok token =>
            simp only [ih]
            cases tokenizeAll rest <;> rfl

theorem entries_renumber (f : Nat → Nat) (depth : Nat) (ts : List NumberedToken) :
    entries depth (ts.map (NumberedToken.renumber f)) =
      (entries depth ts).map fun entry => { entry with line := f entry.line } := by
  induction ts generalizing depth with
  | nil => rfl
  | cons t ts ih =>
      have htoken : (t.renumber f).token = t.token := rfl
      rw [List.map_cons, entries, entries, htoken]
      by_cases hend : t.token.name = endName
      · rw [if_pos hend, if_pos hend, ih]
      · rw [if_neg hend, if_neg hend, ih]
        rfl

theorem rootTokens_renumber (f : Nat → Nat) (depth : Nat) (ts : List NumberedToken) :
    rootTokens depth (ts.map (NumberedToken.renumber f)) =
      (rootTokens depth ts).map (NumberedToken.renumber f) := by
  rw [rootTokens, entries_renumber, List.filter_map, List.map_map, rootTokens, List.map_map]
  rfl

/-! ## Summaries -/

namespace Summary

/-- A span that is not measured has no number. -/
theorem renumber_of_durationTo {s : Summary} {finish : Instant} {e : ReadError}
    (h : s.durationTo finish = .error e) : e.renumber g = e := by
  unfold durationTo at h
  split at h
  · cases h
  · rename_i start _
    cases hspan : durationText start finish with
    | error cause =>
        rw [hspan] at h
        cases h
        rfl
    | ok text =>
        rw [hspan] at h
        cases h

theorem outcome_add_finish (zones : Zones) (s : Summary) {n : Node} (hname : n.name = "DTEND") :
    (s.add zones n).outcome =
      (readDate zones (s.takeZone n) n).outcome >>= fun reading =>
        (s.takeZone n).durationTo reading.instant >>= fun duration =>
          .ok { s.takeZone n with duration := some duration } := by
  have hnot : n.name ≠ "DTSTART" := by simp [hname]
  rw [add, if_neg hnot, if_pos hname]
  simp only [Report.outcome_bind]
  rfl

theorem outcome_add_renumber (zones : Zones) (s : Summary) (n : Node) :
    (s.add zones (n.renumber g)).outcome =
      (s.add zones n).outcome.mapError (ReadError.renumber g) := by
  have hname : (n.renumber g).name = n.name := rfl
  have htake : s.takeZone (n.renumber g) = s.takeZone n := rfl
  have hreading : (readDate zones (s.takeZone n) (n.renumber g)).outcome =
      (readDate zones (s.takeZone n) n).outcome.mapError (ReadError.renumber g) := by
    have hvalue : (n.renumber g).value = n.value := rfl
    rw [outcome_readDate, outcome_readDate, hvalue]
    cases zones.reading n.value (s.takeZone n).tzid with
    | error flaw => cases flaw <;> rfl
    | ok reading => rfl
  by_cases hfinish : n.name = "DTEND"
  · rw [outcome_add_finish zones s (hname.trans hfinish), outcome_add_finish zones s hfinish,
      htake, hreading]
    cases (readDate zones (s.takeZone n) n).outcome with
    | error e => rfl
    | ok reading =>
        show (s.takeZone n).durationTo reading.instant >>= (fun _ => _) =
          Except.mapError _ ((s.takeZone n).durationTo reading.instant >>= _)
        cases hspan : (s.takeZone n).durationTo reading.instant with
        | error e => exact congrArg Except.error (renumber_of_durationTo hspan).symm
        | ok duration => rfl
  · rw [add, add, hname, htake, if_neg hfinish, if_neg hfinish]
    by_cases hstart : n.name = "DTSTART"
    · rw [if_pos hstart, if_pos hstart, Report.outcome_bind, Report.outcome_bind, hreading]
      cases (readDate zones (s.takeZone n) n).outcome <;> rfl
    · rw [if_neg hstart, if_neg hstart]
      -- a duration and a recurrence rule are taken as they are
      split
      · rfl
      · split <;> rfl

theorem outcome_addAll_renumber (zones : Zones) (s : Summary) (ns : List Node) :
    (s.addAll zones (ns.map (Node.renumber g))).outcome =
      (s.addAll zones ns).outcome.mapError (ReadError.renumber g) := by
  induction ns generalizing s with
  | nil => rfl
  | cons n ns ih =>
      rw [List.map_cons, outcome_addAll_cons, outcome_addAll_cons, outcome_add_renumber]
      cases (s.add zones n).outcome with
      | error e => rfl
      | ok s' => exact ih s'

end Summary

/-- **Numbers decide nothing.** -/
theorem summarize_renumber (hfg : ∀ number : Nat, g number = f number) (zones : Zones)
    (lines : List (String × Nat)) :
    summarize zones (lines.map (Prod.map id f)) =
      (summarize zones lines).mapError (ReadError.renumber g) := by
  rw [summarize, summarize, tokenizeAll_renumber hfg]
  cases tokenizeAll lines with
  | error m => rfl
  | ok ts =>
      have hnodes : (rootTokens 0 (ts.map (NumberedToken.renumber f))).map NumberedToken.node =
          ((rootTokens 0 ts).map NumberedToken.node).map (Node.renumber g) := by
        rw [rootTokens_renumber, List.map_map, List.map_map]
        exact List.map_congr_left fun t _ => t.node_renumber hfg
      show (Summary.addAll zones {} _).outcome = (Summary.addAll zones {} _).outcome.mapError _
      rw [hnodes, Summary.outcome_addAll_renumber]

end VCalendar
