import VCalendar.Proofs.Nesting.Stack

/-!
# Steps of the nesting

Whatever the mode, a token that is accepted changes the nesting in one way only:
an END token drops the innermost open block, if there is one, and any other token
is placed. What the lines of a text nest to is therefore the result of a plain fold
over their tokens, and invariants need to be proved for one step only.
-/

namespace VCalendar

variable {ε α β : Type} {strict : Bool}

theorem eq_ok_of_toOption {x : Except ε α} {a : α} (h : x.toOption = some a) : x = .ok a := by
  cases x with
  | error e => cases h
  | ok a' =>
      cases h
      rfl

theorem exists_eq_ok {x : Except ε α} (h : x.toOption.isSome = true) : ∃ a, x = .ok a := by
  obtain ⟨a, ha⟩ := Option.isSome_iff_exists.mp h
  exact ⟨a, eq_ok_of_toOption ha⟩

theorem eq_error_of_map {x : Except ε α} {f : α → β} {e : ε} (h : x.map f = .error e) :
    x = .error e := by
  cases x with
  | error e' =>
      cases h
      rfl
  | ok a => cases h

namespace Report

theorem bind_eq_ok {r : Report ε α} {f : α → Report ε β} {b : β}
    (h : (r >>= f).outcome = .ok b) : ∃ a, r.outcome = .ok a ∧ (f a).outcome = .ok b := by
  rw [outcome_bind] at h
  cases hr : r.outcome with
  | error e =>
      rw [hr] at h
      cases h
  | ok a =>
      rw [hr] at h
      exact ⟨a, rfl, h⟩

theorem mapError_eq_ok {ε' : Type} {f : ε → ε'} {r : Report ε α} {a : α}
    (h : (r.mapError f).outcome = .ok a) : r.outcome = .ok a := by
  change r.outcome.mapError f = .ok a at h
  cases hr : r.outcome with
  | error e =>
      rw [hr] at h
      cases h
  | ok a' =>
      rw [hr] at h
      cases h
      rfl

theorem bind_eq_error {r : Report ε α} {f : α → Report ε β} {e : ε}
    (h : (r >>= f).outcome = .error e) :
    r.outcome = .error e ∨ ∃ a, r.outcome = .ok a ∧ (f a).outcome = .error e := by
  rw [outcome_bind] at h
  cases hr : r.outcome with
  | error e' =>
      rw [hr] at h
      cases h
      exact Or.inl rfl
  | ok a =>
      rw [hr] at h
      exact Or.inr ⟨a, rfl, h⟩

theorem bind_eq_error_iff {r : Report ε α} {f : α → Report ε β} {e : ε} :
    (r >>= f).outcome = .error e ↔
      r.outcome = .error e ∨ ∃ a, r.outcome = .ok a ∧ (f a).outcome = .error e := by
  refine ⟨bind_eq_error, ?_⟩
  rintro (h | ⟨a, h, hf⟩)
  · rw [outcome_bind, h]
    rfl
  · rw [outcome_bind, h]
    exact hf

theorem mapError_eq_error {ε' : Type} {f : ε → ε'} {r : Report ε α} {e' : ε'}
    (h : (r.mapError f).outcome = .error e') : ∃ e, r.outcome = .error e ∧ e' = f e := by
  change r.outcome.mapError f = .error e' at h
  cases hr : r.outcome with
  | error e =>
      rw [hr] at h
      cases h
      exact ⟨e, rfl, rfl⟩
  | ok a =>
      rw [hr] at h
      cases h

theorem pure_bind (a : α) (f : α → Report ε β) : (pure a >>= f) = f a := rfl

theorem bind_of_ok {r : Report ε α} {a : α} (h : r.outcome = .ok a) (f : α → Report ε β) :
    r >>= f = ⟨r.events ++ (f a).events, (f a).outcome⟩ := by
  obtain ⟨events, outcome⟩ := r
  cases h
  rfl

theorem bind_of_error {r : Report ε α} {e : ε} (h : r.outcome = .error e)
    (f : α → Report ε β) : r >>= f = ⟨r.events, .error e⟩ := by
  obtain ⟨events, outcome⟩ := r
  cases h
  rfl

theorem bind_assoc {γ : Type} (r : Report ε α) (f : α → Report ε β) (g : β → Report ε γ) :
    r >>= f >>= g = r >>= fun a => f a >>= g := by
  cases hr : r.outcome with
  | error e => rw [bind_of_error hr, bind_of_error hr, bind_of_error rfl]
  | ok a =>
      rw [bind_of_ok hr, bind_of_ok hr]
      cases hf : (f a).outcome with
      | error e => rw [bind_of_error rfl, bind_of_error hf]
      | ok b => rw [bind_of_ok rfl, bind_of_ok hf, List.append_assoc]

end Report

/-! ## Accepted tokens -/

/-- A token and the number of its line. -/
structure NumberedToken where
  token : Token
  line : Nat
deriving DecidableEq, Repr

/-- A placed token without its place. -/
def Placed.numbered (x : Placed) : NumberedToken :=
  ⟨x.token, x.line⟩

namespace Nesting

/-- What a token does to a nesting that accepts it. -/
def accept (n : Nesting) (t : NumberedToken) : Nesting :=
  if t.token.name = endName then { n with opened := n.opened.tail }
  else n.place t.token t.line

def acceptAll (n : Nesting) (ts : List NumberedToken) : Nesting :=
  ts.foldl accept n

@[simp] theorem acceptAll_nil (n : Nesting) : n.acceptAll [] = n := rfl

@[simp] theorem acceptAll_cons (n : Nesting) (t : NumberedToken) (ts : List NumberedToken) :
    n.acceptAll (t :: ts) = (n.accept t).acceptAll ts := rfl

theorem acceptAll_append (n : Nesting) (ts ts' : List NumberedToken) :
    n.acceptAll (ts ++ ts') = (n.acceptAll ts).acceptAll ts' := by
  unfold acceptAll
  rw [List.foldl_append]

theorem accept_end {n : Nesting} {t : NumberedToken} (h : t.token.name = endName) :
    n.accept t = { n with opened := n.opened.tail } := if_pos h

theorem accept_place {n : Nesting} {t : NumberedToken} (h : t.token.name ≠ endName) :
    n.accept t = n.place t.token t.line := if_neg h

/-- A property that every accepted token keeps holds after any number of them. -/
theorem acceptAll_induction {P : Nesting → Prop} {n : Nesting} {ts : List NumberedToken}
    (hstart : P n) (hstep : ∀ m, P m → ∀ t ∈ ts, P (m.accept t)) : P (n.acceptAll ts) := by
  induction ts generalizing n with
  | nil => exact hstart
  | cons t ts ih =>
      apply ih (hstep n hstart t List.mem_cons_self)
      intro m hm t' ht'
      exact hstep m hm t' (List.mem_cons_of_mem t ht')

theorem numbered_acceptAll (n : Nesting) (ts : List NumberedToken) :
    (n.acceptAll ts).placed.toList.map Placed.numbered =
      n.placed.toList.map Placed.numbered ++ ts.filter (·.token.name ≠ endName) := by
  induction ts generalizing n with
  | nil => simp
  | cons t ts ih =>
      rw [acceptAll_cons, ih]
      by_cases hend : t.token.name = endName
      · rw [accept_end hend]
        simp [hend]
      · rw [accept_place hend]
        simp [hend, place, Placed.numbered]

/-- From an empty nesting exactly the tokens that are no END are placed, in order. -/
theorem numbered_run (ts : List NumberedToken) :
    (acceptAll {} ts).placed.toList.map Placed.numbered =
      ts.filter (·.token.name ≠ endName) := by
  simpa using numbered_acceptAll {} ts

theorem close_eq_ok {n n' : Nesting} {token : Token} {number : Nat} {line : String}
    (h : (n.close strict token number line).outcome = .ok n') :
    n' = { n with opened := n.opened.tail } := by
  unfold close at h
  split at h
  · rename_i hnone
    split at h
    · cases h
    · cases h
      rw [hnone, List.tail_nil, ← hnone]
  · rename_i block outer hopened
    split at h
    · cases h
    · cases h
      rw [hopened, List.tail_cons]

theorem add_eq_ok {n n' : Nesting} {token : Token} {number : Nat} {line : String}
    (h : (n.add strict token number line).outcome = .ok n') :
    n' = n.accept ⟨token, number⟩ := by
  unfold add at h
  by_cases hend : token.name = endName
  · rw [if_pos hend] at h
    rw [accept_end hend]
    exact close_eq_ok h
  · rw [if_neg hend] at h
    rw [accept_place hend]
    cases h
    rfl

/-! ## Tokens that pass without a word -/

/-- An END token passes if it has a block to close, in strict nesting one of its name.
All other tokens pass. -/
def Admits (strict : Bool) (n : Nesting) (t : NumberedToken) : Prop :=
  t.token.name = endName →
    ∃ b outer, n.opened = b :: outer ∧ (strict = true → b.opening.name = t.token.value)

def AdmitsAll (strict : Bool) : Nesting → List NumberedToken → Prop
  | _, [] => True
  | n, t :: ts => n.Admits strict t ∧ (n.accept t).AdmitsAll strict ts

theorem admitsAll_append {n : Nesting} {ts ts' : List NumberedToken} :
    n.AdmitsAll strict (ts ++ ts') ↔
      n.AdmitsAll strict ts ∧ (n.acceptAll ts).AdmitsAll strict ts' := by
  induction ts generalizing n with
  | nil => simp [AdmitsAll]
  | cons t ts ih => simp only [List.cons_append, AdmitsAll, acceptAll_cons, ih, and_assoc]

theorem add_of_admits {n : Nesting} {t : NumberedToken} (h : n.Admits strict t) (line : String) :
    n.add strict t.token t.line line = pure (n.accept t) := by
  unfold add
  by_cases hend : t.token.name = endName
  · obtain ⟨b, outer, hopened, hname⟩ := h hend
    have hpass : ¬ (strict = true ∧ b.opening.name ≠ t.token.value) :=
      fun hrefused => hrefused.2 (hname hrefused.1)
    rw [if_pos hend, accept_end hend]
    simp only [close, hopened, if_neg hpass, List.tail_cons]
  · rw [if_neg hend, accept_place hend]

end Nesting

/-! ## The tokens of a text -/

/-- The tokens of the lines that are not empty. -/
def tokensOf : List (String × Nat) → Except Line.Flaw (List NumberedToken)
  | [] => .ok []
  | (line, number) :: rest =>
      if line = "" then tokensOf rest
      else do
        let token ← Line.tokenize line
        let ts ← tokensOf rest
        pure (⟨token, number⟩ :: ts)

/-- The tokens of the logical lines of a content, lines counted from one. -/
def Content.tokens (c : Content) : Except Line.Flaw (List NumberedToken) :=
  tokensOf (c.lines.zipIdx 1)

theorem tokensOf_empty (number : Nat) (rest : List (String × Nat)) :
    tokensOf (("", number) :: rest) = tokensOf rest := if_pos rfl

theorem tokensOf_cons {line : String} {token : Token} (hne : line ≠ "")
    (h : Line.tokenize line = .ok token) (number : Nat) (rest : List (String × Nat)) :
    tokensOf ((line, number) :: rest) = (tokensOf rest).map (⟨token, number⟩ :: ·) := by
  rw [tokensOf, if_neg hne, h]
  cases tokensOf rest <;> rfl

theorem tokensOf_cons_eq_ok {line : String} {number : Nat} {rest : List (String × Nat)}
    {ts : List NumberedToken} (hne : line ≠ "") (h : tokensOf ((line, number) :: rest) = .ok ts) :
    ∃ token ts', Line.tokenize line = .ok token ∧ tokensOf rest = .ok ts' ∧
      ts = ⟨token, number⟩ :: ts' := by
  cases htoken : Line.tokenize line with
  | error flaw =>
      rw [tokensOf, if_neg hne, htoken] at h
      cases h
  | ok token =>
      rw [tokensOf_cons hne htoken] at h
      cases hrest : tokensOf rest with
      | error flaw =>
          rw [hrest] at h
          cases h
      | ok ts' =>
          rw [hrest] at h
          cases h
          exact ⟨token, ts', rfl, rfl, rfl⟩

/-- Tokens stand on their lines in order. -/
theorem tokensOf_sorted {lines : List String} {first : Nat} {ts : List NumberedToken}
    (h : tokensOf (lines.zipIdx first) = .ok ts) :
    (∀ t ∈ ts, first ≤ t.line) ∧ ts.Pairwise (·.line < ·.line) := by
  induction lines generalizing first ts with
  | nil =>
      cases h
      simp
  | cons line rest ih =>
      rw [List.zipIdx_cons] at h
      by_cases hempty : line = ""
      · rw [hempty, tokensOf_empty] at h
        obtain ⟨hfirst, hsorted⟩ := ih h
        exact ⟨fun t ht => Nat.le_of_succ_le (hfirst t ht), hsorted⟩
      · obtain ⟨token, ts', -, hrest, rfl⟩ := tokensOf_cons_eq_ok hempty h
        obtain ⟨hfirst, hsorted⟩ := ih hrest
        refine ⟨?_, List.pairwise_cons.mpr ⟨hfirst, hsorted⟩⟩
        intro t ht
        rcases List.mem_cons.mp ht with rfl | ht
        · exact Nat.le_refl first
        · exact Nat.le_of_succ_le (hfirst t ht)

/-! ## Documents as runs -/

namespace Reader

theorem addLine_eq_ok {n n' : Nesting} {line : String} {number : Nat}
    (h : (addLine strict n line number).outcome = .ok n') :
    ∃ token, Line.tokenize line = .ok token ∧ n' = n.accept ⟨token, number⟩ := by
  unfold addLine at h
  split at h
  · cases h
  · rename_i token htoken
    exact ⟨token, htoken, Nesting.add_eq_ok (Report.mapError_eq_ok h)⟩

theorem addLines_eq_ok {n n' : Nesting} {lines : List (String × Nat)}
    (h : (addLines strict n lines).outcome = .ok n') :
    ∃ ts, tokensOf lines = .ok ts ∧ n' = n.acceptAll ts := by
  induction lines generalizing n with
  | nil =>
      cases h
      exact ⟨[], rfl, rfl⟩
  | cons entry rest ih =>
      obtain ⟨line, number⟩ := entry
      rw [addLines] at h
      by_cases hempty : line = ""
      · rw [if_pos hempty] at h
        rw [hempty, tokensOf_empty]
        exact ih h
      · rw [if_neg hempty] at h
        obtain ⟨m, hline, hrest⟩ := Report.bind_eq_ok h
        obtain ⟨token, htoken, rfl⟩ := addLine_eq_ok hline
        obtain ⟨ts, hts, rfl⟩ := ih hrest
        exact ⟨⟨token, number⟩ :: ts, by rw [tokensOf_cons hempty htoken, hts]; rfl, rfl⟩

theorem addLine_of_admits {n : Nesting} {line : String} {number : Nat} {token : Token}
    (htoken : Line.tokenize line = .ok token) (h : n.Admits strict ⟨token, number⟩) :
    addLine strict n line number = pure (n.accept ⟨token, number⟩) := by
  have hadd := Nesting.add_of_admits h line
  simp only at hadd
  simp only [addLine, htoken, hadd]
  rfl

theorem addLines_of_admitsAll {n : Nesting} {lines : List (String × Nat)}
    {ts : List NumberedToken} (hts : tokensOf lines = .ok ts) (h : n.AdmitsAll strict ts) :
    addLines strict n lines = pure (n.acceptAll ts) := by
  induction lines generalizing n ts with
  | nil =>
      cases hts
      rfl
  | cons entry rest ih =>
      obtain ⟨line, number⟩ := entry
      rw [addLines]
      by_cases hempty : line = ""
      · rw [if_pos hempty]
        rw [hempty, tokensOf_empty] at hts
        exact ih hts h
      · obtain ⟨token, ts', htoken, hrest, rfl⟩ := tokensOf_cons_eq_ok hempty hts
        rw [if_neg hempty, addLine_of_admits htoken h.1, Report.pure_bind]
        exact ih hrest h.2

theorem nest_eq_ok {n : Nesting} {lines : List String}
    (h : (nest strict lines).outcome = .ok n) :
    ∃ ts, tokensOf (lines.zipIdx 1) = .ok ts ∧ n = Nesting.acceptAll {} ts := by
  obtain ⟨m, hadd, hrest⟩ := Report.bind_eq_ok h
  obtain ⟨_, -, hpure⟩ := Report.bind_eq_ok hrest
  cases hpure
  exact addLines_eq_ok hadd

theorem addLines_eq_error {n : Nesting} {lines : List (String × Nat)} {e : ReadError}
    (h : (addLines strict n lines).outcome = .error e) :
    (∃ cause, e = .malformed cause) ∨ ∃ cause, e = .unbalanced cause := by
  induction lines generalizing n with
  | nil => cases h
  | cons entry rest ih =>
      obtain ⟨line, number⟩ := entry
      rw [addLines] at h
      by_cases hempty : line = ""
      · rw [if_pos hempty] at h
        exact ih h
      · rw [if_neg hempty] at h
        rcases Report.bind_eq_error h with hline | ⟨m, -, hrest⟩
        · unfold addLine at hline
          split at hline
          · cases hline
            exact Or.inl ⟨_, rfl⟩
          · obtain ⟨cause, -, hcause⟩ := Report.mapError_eq_error hline
            exact Or.inr ⟨cause, hcause⟩
        · exact ih hrest

/-- Lines fail to nest for a line without pieces or for blocks that do not pair. -/
theorem nest_eq_error {lines : List String} {e : ReadError}
    (h : (nest strict lines).outcome = .error e) :
    (∃ cause, e = .malformed cause) ∨ ∃ cause, e = .unbalanced cause := by
  rcases Report.bind_eq_error h with hadd | ⟨n, -, hrest⟩
  · exact addLines_eq_error hadd
  · rcases Report.bind_eq_error hrest with hfinish | ⟨_, -, hpure⟩
    · obtain ⟨cause, -, hcause⟩ := Report.mapError_eq_error hfinish
      exact Or.inr ⟨cause, hcause⟩
    · cases hpure

end Reader

end VCalendar
