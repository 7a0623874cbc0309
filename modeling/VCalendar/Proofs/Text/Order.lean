import VCalendar.Proofs.Text.Digits

/-!
# Digits in order

Texts are compared character by character. Main statement: numbers that are written with
the same count of digits compare like their texts, also three of them in a row.
-/

namespace VCalendar.Text

variable {ds ds' : List Nat} {d d' n n' width : Nat}

/-- Texts whose front parts have one length compare by these parts first. -/
theorem append_lt_append_iff {α : Type} [LT α] {xs xs' ys ys' : List α}
    (h : xs.length = xs'.length) :
    xs ++ ys < xs' ++ ys' ↔ xs < xs' ∨ xs = xs' ∧ ys < ys' := by
  induction xs generalizing xs' with
  | nil =>
      rw [List.eq_nil_of_length_eq_zero h.symm]
      simp
  | cons x xs ih =>
      cases xs' with
      | nil => cases h
      | cons x' xs' =>
          rw [List.cons_append, List.cons_append, List.cons_lt_cons_iff, List.cons_lt_cons_iff,
            ih (Nat.succ.inj h), List.cons.injEq, and_or_left, or_assoc, and_assoc]

theorem digitChar_lt_iff (hd : d < 10) (hd' : d' < 10) :
    Nat.digitChar d < Nat.digitChar d' ↔ d < d' := by
  have hall : ∀ d < 10, ∀ d' < 10, Nat.digitChar d < Nat.digitChar d' ↔ d < d' := by decide
  exact hall d hd d' hd'

theorem digitChar_inj (hd : d < 10) (hd' : d' < 10) :
    Nat.digitChar d = Nat.digitChar d' ↔ d = d' := by
  have hall : ∀ d < 10, ∀ d' < 10, Nat.digitChar d = Nat.digitChar d' ↔ d = d' := by decide
  exact hall d hd d' hd'

theorem asciiDigits_lt_iff (hds : ∀ d ∈ ds, d < 10) (hds' : ∀ d ∈ ds', d < 10) :
    asciiDigits ds < asciiDigits ds' ↔ ds < ds' := by
  induction ds generalizing ds' with
  | nil => cases ds' <;> simp [asciiDigits]
  | cons d ds ih =>
      cases ds' with
      | nil => simp [asciiDigits]
      | cons d' ds' =>
          obtain ⟨hd, hrest⟩ := List.forall_mem_cons.mp hds
          obtain ⟨hd', hrest'⟩ := List.forall_mem_cons.mp hds'
          have hfirst := digitChar_lt_iff hd hd'
          have hsame := digitChar_inj hd hd'
          rw [List.cons_lt_cons_iff, ← ih hrest hrest', ← hfirst, ← hsame]
          exact List.cons_lt_cons_iff

theorem fixedDigits_inj (hn : n < 10 ^ width) (hn' : n' < 10 ^ width) :
    fixedDigits width n = fixedDigits width n' ↔ n = n' := by
  refine ⟨?_, fun h => h ▸ rfl⟩
  intro h
  rw [← ofDigits_fixedDigits hn, h, ofDigits_fixedDigits hn']

/-- Numbers of one width compare like their digits. -/
theorem fixedDigits_lt_iff (hn : n < 10 ^ width) (hn' : n' < 10 ^ width) :
    fixedDigits width n < fixedDigits width n' ↔ n < n' := by
  induction width generalizing n n' with
  | zero =>
      rw [Nat.pow_zero, Nat.lt_one_iff] at hn hn'
      simp [fixedDigits, hn, hn']
  | succ width ih =>
      rw [Nat.pow_succ] at hn hn'
      have hfront : n / 10 < 10 ^ width := by omega
      have hfront' : n' / 10 < 10 ^ width := by omega
      rw [fixedDigits, fixedDigits, append_lt_append_iff (by simp), ih hfront hfront',
        fixedDigits_inj hfront hfront', List.cons_lt_cons_iff]
      simp only [List.not_lt_nil, and_false, or_false]
      omega

theorem groupedDigits_lt_iff {first first' second second' third third' : Nat}
    (hfirst : first < 10 ^ width) (hfirst' : first' < 10 ^ width) (hsecond : second < 10 ^ 2)
    (hsecond' : second' < 10 ^ 2) (hthird : third < 10 ^ 2) (hthird' : third' < 10 ^ 2) :
    groupedDigits width first second third < groupedDigits width first' second' third' ↔
      first < first' ∨ first = first' ∧ (second < second' ∨ second = second' ∧ third < third') := by
  rw [groupedDigits, groupedDigits, append_lt_append_iff (by simp),
    append_lt_append_iff (by simp), fixedDigits_lt_iff hfirst hfirst',
    fixedDigits_inj hfirst hfirst', fixedDigits_lt_iff hsecond hsecond',
    fixedDigits_inj hsecond hsecond', fixedDigits_lt_iff hthird hthird']

end VCalendar.Text
