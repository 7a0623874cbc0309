import Mathlib.Tactic.Ring
import VCalendar.Number.Binary64

/-!
# Cutting a rounded quotient

A quotient is rounded to a mantissa of 53 bits and then cut to its whole part. Main
statement: this is the whole part of the exact quotient or its successor, and it is the
former if the quotient is whole or the last bit of the mantissa is fine enough for the
denominator.
-/

namespace VCalendar.Number

variable {n d q places : Nat}

/-! ## Rounding and integers -/

theorem le_divHalfEven (hd : 0 < d) (h : q * d ≤ n) : q ≤ divHalfEven n d := by
  have hquotient : q ≤ n / d := (Nat.le_div_iff_mul_le hd).mpr h
  rcases divHalfEven_eq_or n d with hround | hround <;> omega

/-- An integer more than half a unit above the quotient is not reached. -/
theorem divHalfEven_lt (hd : 0 < d) (h : 2 * n + d < 2 * d * q) : divHalfEven n d < q := by
  have hnear := (divHalfEven_near n hd).2
  refine Nat.lt_of_mul_lt_mul_left (a := 2 * d) ?_
  omega

theorem divHalfEven_le (hd : 0 < d) (h : n ≤ q * d) : divHalfEven n d ≤ q := by
  refine Nat.lt_add_one_iff.mp (divHalfEven_lt hd ?_)
  calc 2 * n + d < 2 * (q * d) + 2 * d := by omega
    _ = 2 * d * (q + 1) := by ring

/-! ## Binary places -/

/-- The whole part of a quotient that has been rounded at some binary places. -/
def wholeRounded (n d places : Nat) : Nat :=
  divHalfEven (n * Nat.pow 2 places) d / Nat.pow 2 places

theorem wholeRounded_eq_or (n places : Nat) (hd : 0 < d) :
    wholeRounded n d places = n / d ∨ wholeRounded n d places = n / d + 1 := by
  have hunit : 0 < Nat.pow 2 places := Nat.two_pow_pos places
  have hlow : n / d ≤ wholeRounded n d places := by
    refine (Nat.le_div_iff_mul_le hunit).mpr (le_divHalfEven hd ?_)
    calc n / d * Nat.pow 2 places * d = n / d * d * Nat.pow 2 places := by ring
      _ ≤ n * Nat.pow 2 places := Nat.mul_le_mul_right _ (Nat.div_mul_le_self n d)
  have hhigh : wholeRounded n d places ≤ n / d + 1 := by
    have hnext : n ≤ (n / d + 1) * d := by
      rw [Nat.add_one_mul]
      have hsplit := Nat.div_add_mod' n d
      have hrest := Nat.mod_lt n hd
      omega
    refine Nat.div_le_of_le_mul (divHalfEven_le hd ?_)
    calc n * Nat.pow 2 places ≤ (n / d + 1) * d * Nat.pow 2 places :=
          Nat.mul_le_mul_right _ hnext
      _ = Nat.pow 2 places * (n / d + 1) * d := by ring
  omega

/-- A whole quotient keeps its value. -/
theorem wholeRounded_of_dvd (hd : 0 < d) (h : d ∣ n) : wholeRounded n d places = n / d := by
  obtain ⟨q, rfl⟩ := h
  have hunit : 0 < Nat.pow 2 places := Nat.two_pow_pos places
  have hexact : d * q * Nat.pow 2 places = q * Nat.pow 2 places * d := by ring
  rw [wholeRounded, hexact, divHalfEven_mul_right _ hd, Nat.mul_div_cancel _ hunit,
    Nat.mul_div_cancel_left q hd]

/-- The next integer is out of reach if half a unit of the last place is less than the
distance `1 / d` that a quotient keeps from it. -/
theorem wholeRounded_of_fine (hd : 0 < d) (h : d < 2 * Nat.pow 2 places) :
    wholeRounded n d places = n / d := by
  have hbelow : wholeRounded n d places < n / d + 1 := by
    refine (Nat.div_lt_iff_lt_mul (Nat.two_pow_pos places)).mpr (divHalfEven_lt hd ?_)
    have hgap : n + 1 ≤ (n / d + 1) * d := by
      rw [Nat.add_one_mul]
      have hsplit := Nat.div_add_mod' n d
      have hrest := Nat.mod_lt n hd
      omega
    calc 2 * (n * Nat.pow 2 places) + d
        < 2 * (n * Nat.pow 2 places) + 2 * Nat.pow 2 places := Nat.add_lt_add_left h _
      _ = 2 * Nat.pow 2 places * (n + 1) := by ring
      _ ≤ 2 * Nat.pow 2 places * ((n / d + 1) * d) := Nat.mul_le_mul_left _ hgap
      _ = 2 * d * ((n / d + 1) * Nat.pow 2 places) := by ring
  rcases wholeRounded_eq_or n places hd with hwhole | hwhole <;> omega

/-! ## The format -/

namespace Binary64

theorem scaled_neg (n d places : Nat) :
    scaled n d (-(places : Int)) = (n * Nat.pow 2 places, d) := by
  unfold scaled
  split
  · obtain rfl : places = 0 := by omega
    simp
  · rw [Int.neg_neg, Int.toNat_natCast]

theorem wholePart_neg (m places : Nat) :
    wholePart m (-(places : Int)) = m / Nat.pow 2 places := by
  unfold wholePart
  split
  · obtain rfl : places = 0 := by omega
    simp
  · rw [Int.neg_neg, Int.toNat_natCast]

theorem truncate?_ofRatio_zero (negative : Bool) (d : Nat) :
    (ofRatio negative 0 d).truncate? = some 0 := by
  have hwhole : wholePart 0 minExponent = 0 := by
    unfold wholePart
    split
    · exact Nat.zero_mul _
    · exact Nat.zero_div _
  rw [ofRatio, if_pos rfl, truncate?, hwhole]
  cases negative <;> rfl

/-- A small quotient has many places behind the point. -/
theorem exponentFor_le (hn : 0 < n) (hplaces : places ≤ 1074)
    (h : n * Nat.pow 2 places < Nat.pow 2 53 * d) : exponentFor n d ≤ -(places : Int) := by
  have hsize : n.log2 + places < 54 + d.log2 := by
    refine (Nat.pow_lt_pow_iff_right (a := 2) (by decide)).mp ?_
    calc 2 ^ (n.log2 + places) = 2 ^ n.log2 * 2 ^ places := Nat.pow_add ..
      _ ≤ n * 2 ^ places := Nat.mul_le_mul_right _ (Nat.log2_self_le hn.ne')
      _ < 2 ^ 53 * d := h
      _ < 2 ^ 53 * 2 ^ (d.log2 + 1) := Nat.mul_lt_mul_of_pos_left Nat.lt_log2_self (by decide)
      _ = 2 ^ (54 + d.log2) := by ring
  have hmin : minExponent ≤ -(places : Int) := by
    rw [minExponent]
    omega
  unfold exponentFor
  dsimp only
  refine max_le hmin ?_
  by_cases hexact : (n.log2 : Int) - d.log2 - 53 = -(places : Int)
  · -- at this exponent the mantissa is known to fit into 53 bits
    rw [hexact, scaled_neg]
    simp only [if_pos h, Int.le_refl]
  · split <;> omega

theorem truncate?_ofRatio (negative : Bool) (hn : 0 < n) (hplaces : 0 < places)
    (h : exponentFor n d = -(places : Int)) :
    (ofRatio negative n d).truncate? = some (signed negative (wholeRounded n d places)) := by
  have hfinite : ¬ maxExponent < -(places : Int) ∧ ¬ maxExponent < -(places : Int) + 1 := by
    rw [maxExponent]
    omega
  simp only [ofRatio, if_neg hn.ne', h, scaled_neg]
  by_cases hcarry : divHalfEven (n * Nat.pow 2 places) d = Nat.pow 2 53
  · -- a mantissa of one bit too many is halved, and one place is given up
    obtain ⟨places, rfl⟩ : ∃ fewer, places = fewer + 1 := ⟨places - 1, by omega⟩
    have hexponent : -((places + 1 : Nat) : Int) + 1 = -(places : Int) := by omega
    rw [if_pos hcarry]
    simp only [hexponent] at hfinite ⊢
    have hhalved : Nat.pow 2 53 / Nat.pow 2 (places + 1) = Nat.pow 2 52 / Nat.pow 2 places :=
      Nat.mul_div_mul_right _ _ (Nat.succ_pos 1)
    rw [if_neg hfinite.2, truncate?, wholePart_neg, wholeRounded, hcarry, hhalved]
  · rw [if_neg hcarry]
    simp only [if_neg hfinite.1, truncate?, wholePart_neg, wholeRounded]

end Binary64

end VCalendar.Number
