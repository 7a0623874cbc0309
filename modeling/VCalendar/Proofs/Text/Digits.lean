import Mathlib.Algebra.Ring.Nat
import Mathlib.Data.List.Induction
import VCalendar.Text.Digit

/-!
# Digits of a fixed width

A number is written with a fixed count of digits, leading zeros included. A run of digits,
each of any script, spells the digits of exactly one such number, also when three numbers
stand in a row, and ASCII has one digit for each value.
-/

namespace VCalendar.Text

variable {cs cs' front middle back : List Char} {ds ds' : List Nat} {c : Char}
  {d n first second third width : Nat}

/-! ## Writing a number -/

/-- The last digits of a number, a fixed count of them. -/
def fixedDigits : Nat → Nat → List Nat
  | 0, _ => []
  | width + 1, n => fixedDigits width (n / 10) ++ [n % 10]

@[simp] theorem length_fixedDigits (width n : Nat) : (fixedDigits width n).length = width := by
  induction width generalizing n with
  | zero => rfl
  | succ width ih => rw [fixedDigits, List.length_append, ih, List.length_singleton]

theorem lt_ten_of_mem_fixedDigits (h : d ∈ fixedDigits width n) : d < 10 := by
  induction width generalizing n with
  | zero => cases h
  | succ width ih =>
      rcases List.mem_append.mp h with hd | hd
      · exact ih hd
      · rw [List.mem_singleton.mp hd]
        exact Nat.mod_lt n (by decide)

theorem ofDigits_fixedDigits (h : n < 10 ^ width) : ofDigits (fixedDigits width n) = n := by
  induction width generalizing n with
  | zero =>
      rw [Nat.pow_zero, Nat.lt_one_iff] at h
      exact h.symm
  | succ width ih =>
      rw [Nat.pow_succ] at h
      rw [fixedDigits, ofDigits_append_singleton, ih (by omega), Nat.div_add_mod]

theorem fixedDigits_ofDigits (h : ∀ d ∈ ds, d < 10) : fixedDigits ds.length (ofDigits ds) = ds := by
  induction ds using List.reverseRecOn with
  | nil => rfl
  | append_singleton ds d ih =>
      have hd : d < 10 := h d (by simp)
      have hdiv : (10 * ofDigits ds + d) / 10 = ofDigits ds := by omega
      have hmod : (10 * ofDigits ds + d) % 10 = d := by omega
      rw [List.length_append, List.length_singleton, ofDigits_append_singleton, fixedDigits, hdiv,
        hmod, ih fun x hx => h x (List.mem_append_left [d] hx)]

/-! ## Spelling digits -/

/-- Characters that spell digits, each of any script. -/
def Spells (cs : List Char) (ds : List Nat) : Prop :=
  cs.map digitValue? = ds.map some

namespace Spells

theorem length_eq (h : Spells cs ds) : cs.length = ds.length := by
  simpa using congrArg List.length h

theorem filterMap (h : Spells cs ds) : cs.filterMap digitValue? = ds := by
  have hid : (cs.map digitValue?).filterMap id = (ds.map some).filterMap id := by rw [h]
  simpa [List.filterMap_map] using hid

theorem lt_ten (h : Spells cs ds) (hd : d ∈ ds) : d < 10 := by
  have hmem : some d ∈ cs.map digitValue? := h ▸ List.mem_map_of_mem hd
  obtain ⟨c, -, hc⟩ := List.mem_map.mp hmem
  exact digitValue?_lt hc

theorem all_isDecimalDigit (h : Spells cs ds) : cs.all isDecimalDigit = true := by
  rw [List.all_eq_true]
  intro c hc
  have hmem : digitValue? c ∈ ds.map some := h ▸ List.mem_map_of_mem hc
  obtain ⟨d, -, hd⟩ := List.mem_map.mp hmem
  rw [isDecimalDigit, ← hd]
  rfl

theorem append_iff (hlen : cs.length = ds.length) :
    Spells (cs ++ cs') (ds ++ ds') ↔ Spells cs ds ∧ Spells cs' ds' := by
  unfold Spells
  rw [List.map_append, List.map_append]
  exact ⟨fun h => List.append_inj h (by simpa using hlen), fun h => h.1 ▸ h.2 ▸ rfl⟩

end Spells

theorem spells_filterMap (h : cs.all isDecimalDigit = true) :
    Spells cs (cs.filterMap digitValue?) := by
  induction cs with
  | nil => rfl
  | cons c cs ih =>
      rw [List.all_cons, Bool.and_eq_true] at h
      obtain ⟨d, hd⟩ := Option.isSome_iff_exists.mp h.1
      rw [List.filterMap_cons_some hd, Spells, List.map_cons, List.map_cons, hd, ih h.2]

/-- A run of digits spells the one number of its width that it is the numeral of. -/
theorem ofDigits_filterMap_eq_iff (hcs : cs.all isDecimalDigit = true)
    (hlen : cs.length = width) (hn : n < 10 ^ width) :
    ofDigits (cs.filterMap digitValue?) = n ↔ Spells cs (fixedDigits width n) := by
  constructor
  · rintro rfl
    have hspells := spells_filterMap hcs
    rw [← hlen, hspells.length_eq, fixedDigits_ofDigits fun d hd => hspells.lt_ten hd]
    exact hspells
  · intro hspells
    rw [hspells.filterMap, ofDigits_fixedDigits hn]

/-! ## Three numbers in a row -/

/-- Three numbers written one behind the other, the last two with two digits each. -/
def groupedDigits (width first second third : Nat) : List Nat :=
  fixedDigits width first ++ (fixedDigits 2 second ++ fixedDigits 2 third)

theorem length_groupedDigits (width first second third : Nat) :
    (groupedDigits width first second third).length = width + 4 := by
  simp [groupedDigits]

theorem lt_ten_of_mem_groupedDigits (h : d ∈ groupedDigits width first second third) : d < 10 := by
  rcases List.mem_append.mp h with hfirst | hrest
  · exact lt_ten_of_mem_fixedDigits hfirst
  · rcases List.mem_append.mp hrest with hsecond | hthird
    · exact lt_ten_of_mem_fixedDigits hsecond
    · exact lt_ten_of_mem_fixedDigits hthird

theorem exists_groups (h : cs.length = width + 4) :
    ∃ front middle back, cs = front ++ (middle ++ back) ∧ front.length = width ∧
      middle.length = 2 ∧ back.length = 2 := by
  refine ⟨cs.take width, (cs.drop width).take 2, (cs.drop width).drop 2, ?_, ?_, ?_, ?_⟩
  · rw [List.take_append_drop, List.take_append_drop]
  · rw [List.length_take]
    omega
  · rw [List.length_take, List.length_drop]
    omega
  · rw [List.length_drop, List.length_drop]
    omega

/-- Three runs of digits name the numbers whose digits they spell together. -/
theorem ofDigits_groups_iff (hdigits : (front ++ (middle ++ back)).all isDecimalDigit = true)
    (hfront : front.length = width) (hmiddle : middle.length = 2) (hback : back.length = 2)
    (hfirst : first < 10 ^ width) (hsecond : second < 100) (hthird : third < 100) :
    (ofDigits (front.filterMap digitValue?) = first ∧
        ofDigits (middle.filterMap digitValue?) = second ∧
        ofDigits (back.filterMap digitValue?) = third) ↔
      Spells (front ++ (middle ++ back)) (groupedDigits width first second third) := by
  simp only [List.all_append, Bool.and_eq_true] at hdigits
  obtain ⟨hfronts, hmiddles, hbacks⟩ := hdigits
  rw [ofDigits_filterMap_eq_iff hfronts hfront hfirst,
    ofDigits_filterMap_eq_iff hmiddles hmiddle hsecond,
    ofDigits_filterMap_eq_iff hbacks hback hthird, groupedDigits,
    Spells.append_iff (by simp [hfront]), Spells.append_iff (by simp [hmiddle])]

/-! ## ASCII digits -/

/-- The ASCII characters for some digits. -/
def asciiDigits (ds : List Nat) : List Char :=
  ds.map Nat.digitChar

theorem digitValue?_digitChar (h : d < 10) : digitValue? (Nat.digitChar d) = some d := by
  revert h d
  decide +kernel

theorem isDigit_digitChar (h : d < 10) : (Nat.digitChar d).isDigit = true := by
  revert h d
  decide

theorem toNat_lt_of_isDigit (h : c.isDigit = true) : c.toNat < 128 :=
  Nat.lt_of_le_of_lt (Char.isDigit_iff_toNat.mp h).2 (by decide)

theorem isDecimalDigit_of_isDigit (h : c.isDigit = true) : isDecimalDigit c = true := by
  obtain ⟨hle, hge⟩ : 48 ≤ c.toNat ∧ c.toNat ≤ 57 := Char.isDigit_iff_toNat.mp h
  have hc : Nat.digitChar (c.toNat - 48) = c := by
    refine Char.toNat_inj.mp ?_
    rw [Nat.toNat_digitChar_of_lt_ten (by omega)]
    omega
  rw [isDecimalDigit, ← hc, digitValue?_digitChar (by omega)]
  rfl

/-- Among the ASCII characters only the digits have a value. -/
theorem eq_digitChar_of_digitValue? (hc : c.toNat < 128) (h : digitValue? c = some d) :
    c = Nat.digitChar d := by
  obtain ⟨base, hfound, hd⟩ := Option.map_eq_some_iff.mp h
  have hbase := List.find?_some hfound
  rw [Bool.and_eq_true, decide_eq_true_eq, decide_eq_true_eq] at hbase
  have hzero : ∀ base ∈ digitZeros, base < 128 → base = 48 := by decide
  obtain rfl := hzero base (List.mem_of_find?_eq_some hfound) (by omega)
  refine Char.toNat_inj.mp ?_
  rw [Nat.toNat_digitChar_of_lt_ten (by omega)]
  omega

theorem spells_asciiDigits (h : ∀ d ∈ ds, d < 10) : Spells (asciiDigits ds) ds := by
  rw [Spells, asciiDigits, List.map_map]
  exact List.map_congr_left fun d hd => digitValue?_digitChar (h d hd)

theorem all_isDigit_asciiDigits (h : ∀ d ∈ ds, d < 10) :
    (asciiDigits ds).all Char.isDigit = true := by
  rw [List.all_eq_true]
  intro c hc
  obtain ⟨d, hd, rfl⟩ := List.mem_map.mp hc
  exact isDigit_digitChar (h d hd)

theorem toNat_lt_of_mem_asciiDigits (h : ∀ d ∈ ds, d < 10) : ∀ c ∈ asciiDigits ds, c.toNat < 128 :=
  fun c hc => toNat_lt_of_isDigit (List.all_eq_true.mp (all_isDigit_asciiDigits h) c hc)

theorem Spells.eq_asciiDigits (h : Spells cs ds) (hascii : ∀ c ∈ cs, c.toNat < 128) :
    cs = asciiDigits ds := by
  induction cs generalizing ds with
  | nil => cases ds with
    | nil => rfl
    | cons d ds => cases h
  | cons c cs ih => cases ds with
    | nil => cases h
    | cons d ds =>
        obtain ⟨hd, hds⟩ := List.cons.inj h
        rw [eq_digitChar_of_digitValue? (hascii c List.mem_cons_self) hd,
          ih hds fun c hc => hascii c (List.mem_cons_of_mem _ hc)]
        rfl

end VCalendar.Text
