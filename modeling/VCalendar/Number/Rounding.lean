/-!
# Rounding a quotient

A quotient of natural numbers is rounded to the nearest natural number; of two
equally near ones the even one is taken.
-/

namespace VCalendar.Number

/-- The natural number nearest to `n / d`, ties to even. -/
def divHalfEven (n d : Nat) : Nat :=
  let q := n / d
  let r := n % d
  if 2 * r < d then q
  else if d < 2 * r then q + 1
  else q + q % 2

/-- The rounded quotient is the quotient or its successor. -/
theorem divHalfEven_eq_or (n d : Nat) : divHalfEven n d = n / d ∨ divHalfEven n d = n / d + 1 := by
  unfold divHalfEven
  dsimp only
  split
  · exact .inl rfl
  split
  · exact .inr rfl
  · omega

/-- The rounded quotient is at most half a unit away. -/
theorem divHalfEven_near (n : Nat) {d : Nat} (h : 0 < d) :
    2 * n ≤ 2 * d * divHalfEven n d + d ∧ 2 * d * divHalfEven n d ≤ 2 * n + d := by
  have split_n := Nat.div_add_mod n d
  have below := Nat.mod_lt n h
  have up : d * (n / d + 1) = d * (n / d) + d := Nat.mul_succ d (n / d)
  unfold divHalfEven
  dsimp only
  split
  · rw [Nat.mul_assoc]
    omega
  split
  · rw [Nat.mul_assoc, up]
    omega
  · rcases Nat.mod_two_eq_zero_or_one (n / d) with parity | parity
    · rw [parity, Nat.add_zero, Nat.mul_assoc]
      omega
    · rw [parity, Nat.mul_assoc, up]
      omega

/-- An exact quotient is not changed. -/
theorem divHalfEven_mul_right (q : Nat) {d : Nat} (h : 0 < d) : divHalfEven (q * d) d = q := by
  simp [divHalfEven, Nat.mul_div_cancel q h, h]

end VCalendar.Number
