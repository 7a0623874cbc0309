import VCalendar.Proofs.Summary.Roots

/-!
# Root-level dates

The dates of a text are its DTSTART and DTEND lines that lie in no block. Main statement:
a summary fails for what it fails for on the dates alone.
-/

namespace VCalendar

/-! ## The dates of a text -/

/-- The nodes of a text that lie in no block, as far as a summary looks at them; none if a
line has no pieces. -/
def Content.roots (c : Content) : List Node :=
  match c.tokens with
  | .ok ts => (rootTokens 0 ts).map NumberedToken.node
  | .error _ => []

/-- The dates of a text that lie in no block, in order. -/
def Content.rootDates (c : Content) : List Node :=
  c.roots.filter Node.isDate

theorem Reader.Nests.outcome_read_roots {r : Reader} {content : Content} {nesting : Nesting}
    (h : r.Nests content nesting) :
    (r.read content).outcome =
      (Summary.addAll r.zones {} content.roots).outcome.map
        fun s => ⟨nesting.nodes, nesting.roots, s⟩ := by
  obtain ⟨ts, hts, hnesting⟩ := nest_eq_ok h.nest
  have htokens : content.tokens = .ok ts := hts
  rw [h.outcome_read, hnesting, Summary.addAll_rootNodes, Content.roots, htokens]

/-! ## Nodes that are no dates decide nothing -/

variable {zones : Zones} {ns : List Node} {n : Node} {e : ReadError}

theorem lastWith_filter {α : Type} {p q : α → Bool} (h : ∀ x, p x = true → q x = true)
    (xs : List α) :
    lastWith p (xs.filter q) = (lastWith p xs).map fun (before, x) => (before.filter q, x) := by
  induction xs using List.reverseRecOn with
  | nil => rfl
  | append_singleton xs x ih =>
      rw [List.filter_append, lastWith_concat]
      by_cases hp : p x = true
      · rw [List.filter_singleton, if_pos hp, h x hp]
        simp [hp]
      · rw [if_neg hp, ← ih, List.filter_singleton]
        cases q x with
        | true => simp [hp]
        | false => simp

theorem isDate_of_isStart (h : n.isStart = true) : n.isDate = true := by
  rw [Node.isDate, h, Bool.true_or]

theorem zoneAfter_dates (ns : List Node) : zoneAfter (ns.filter Node.isDate) = zoneAfter ns := by
  unfold zoneAfter
  rw [lastWith_filter fun n hn => (Bool.and_eq_true_iff.mp hn).1]
  cases lastWith (fun n => n.isDate && (n.parameter? "TZID").isSome) ns <;> rfl

theorem readingAt_dates (hn : n.isDate = true) :
    readingAt zones (ns.filter Node.isDate) n = readingAt zones ns n := by
  have hfilter : (ns ++ [n]).filter Node.isDate = ns.filter Node.isDate ++ [n] := by
    rw [List.filter_append, List.filter_singleton, hn, cond_true]
  rw [readingAt, ← hfilter, zoneAfter_dates]
  rfl

theorem startAfter_dates (ns : List Node) :
    startAfter zones (ns.filter Node.isDate) = startAfter zones ns := by
  unfold startAfter
  rw [lastWith_filter fun _ => isDate_of_isStart]
  cases hlast : lastWith Node.isStart ns with
  | none => rfl
  | some last =>
      have hstart := (eq_append_of_lastWith hlast).1
      show instantAt zones (last.1.filter Node.isDate) last.2 = instantAt zones last.1 last.2
      rw [instantAt, readingAt_dates (isDate_of_isStart hstart)]
      rfl

theorem flawAt_dates (hn : n.isDate = true) :
    flawAt zones (ns.filter Node.isDate) n = flawAt zones ns n := by
  rw [flawAt, flawAt, readingAt_dates hn, startAfter_dates]

theorem isDate_of_flawAt (h : flawAt zones ns n = some e) : n.isDate = true := by
  by_contra hn
  rw [flawAt, if_neg hn] at h
  cases h

theorem Flawless.dates (h : Flawless zones ns) : Flawless zones (ns.filter Node.isDate) := by
  intro before n after hsplit
  obtain ⟨front, rest, rfl, rfl, hrest⟩ := List.filter_eq_append_iff.mp hsplit
  obtain ⟨plain, back, rfl, hplain, hn, -⟩ := List.filter_eq_cons_iff.mp hrest
  have hfront : (front ++ plain).filter Node.isDate = front.filter Node.isDate := by
    rw [List.filter_append, List.filter_eq_nil_iff.mpr hplain, List.append_nil]
  rw [← hfront, flawAt_dates hn]
  exact h (front ++ plain) n back (List.append_assoc _ _ _).symm

theorem FirstFlaw.dates {before : List Node} (h : FirstFlaw zones ns before n e) :
    FirstFlaw zones (ns.filter Node.isDate) (before.filter Node.isDate) n e := by
  obtain ⟨⟨after, rfl⟩, hbefore, hflaw⟩ := h
  have hn := isDate_of_flawAt hflaw
  refine ⟨⟨after.filter Node.isDate, ?_⟩, hbefore.dates, ?_⟩
  · rw [List.filter_append, List.filter_cons_of_pos hn]
  · rw [flawAt_dates hn, hflaw]

end VCalendar
