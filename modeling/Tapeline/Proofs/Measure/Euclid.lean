import Tapeline.Measure.Sixteenths

/-!
# Euclid's algorithm with floored remainders

The loop replaces a pair of integers by the second one and the floored remainder of the first by it,
until the second one is zero (`Ends`).  A turn keeps the greatest common divisor
(`gcd_fmod_right`), makes the second number smaller in size (`natAbs_fmod_lt`) and keeps its sign,
unless it makes it zero (`sign_fmod`).  So the loop ends (`ends_gcd`), and what it ends with is the
greatest common divisor with the sign that the second number had (`Ends.eq_signed_gcd`).
-/

namespace Tapeline

namespace Measure

/-- The loop from two integers ends after `n` turns, with the result `g`. -/
inductive Ends : (a b : Int) → (n : Nat) → (g : Int) → Prop
  | done (a : Int) : Ends a 0 0 a
  | turn {a b : Int} {n : Nat} {g : Int} (nonzero : b ≠ 0) (rest : Ends b (a.fmod b) n g) :
      Ends a b (n + 1) g

/-- A remainder has the common divisors of the two numbers with the divisor. -/
theorem gcd_fmod_right (a b : Int) : b.gcd (a.fmod b) = a.gcd b := by
  rw [Int.fmod_def, Int.gcd_sub_mul_left_right, Int.gcd_comm]

/-- A remainder that is not zero has the sign of the divisor. -/
theorem sign_fmod {a b : Int} (hb : b ≠ 0) (hne : a.fmod b ≠ 0) : (a.fmod b).sign = b.sign := by
  rcases Int.lt_or_gt_of_ne hb with hneg | hpos
  · have hnonneg := Int.fmod_nonneg_of_pos (-a) (Int.neg_pos_of_neg hneg)
    rw [Int.neg_fmod_neg] at hnonneg
    rw [Int.sign_eq_neg_one_of_neg hneg, Int.sign_eq_neg_one_of_neg (by omega)]
  · have hnonneg := Int.fmod_nonneg_of_pos a hpos
    rw [Int.sign_eq_one_of_pos hpos, Int.sign_eq_one_of_pos (by omega)]

/-- The greatest common divisor with the sign of the second number; the first one if that is
zero. -/
def signedGcd (a b : Int) : Int :=
  if b = 0 then a else b.sign * (a.natAbs.gcd b.natAbs : Int)

/-- A turn keeps it. -/
theorem signedGcd_fmod {a b : Int} (hb : b ≠ 0) : signedGcd b (a.fmod b) = signedGcd a b := by
  have hgcd : b.natAbs.gcd (a.fmod b).natAbs = a.natAbs.gcd b.natAbs := gcd_fmod_right a b
  unfold signedGcd
  rw [if_neg hb]
  by_cases hzero : a.fmod b = 0
  · rw [if_pos hzero, ← hgcd, hzero, Int.natAbs_zero, Nat.gcd_zero_right, Int.sign_mul_natAbs]
  · rw [if_neg hzero, sign_fmod hb hzero, hgcd]

/-- **What the loop ends with** is fixed by its first pair, after any number of turns. -/
theorem Ends.eq_signed_gcd {a b g : Int} {n : Nat} (h : Ends a b n g) : g = signedGcd a b := by
  induction h with
  | done a => rfl
  | turn nonzero _ ih => rw [ih, signedGcd_fmod nonzero]

/-- **The loop ends**, after no more turns than the size of the second number. -/
theorem ends_gcd (a b : Int) : ∃ n ≤ b.natAbs, Ends a b n (gcd a b) := by
  induction a, b using gcd.induct with
  | case1 a =>
      refine ⟨0, Nat.le_refl 0, ?_⟩
      rw [gcd, if_pos rfl]
      exact .done a
  | case2 a b hb ih =>
      obtain ⟨n, hn, hrest⟩ := ih
      have hless := natAbs_fmod_lt a hb
      refine ⟨n + 1, by omega, ?_⟩
      rw [gcd, if_neg hb]
      exact .turn hb hrest

/-- The value of the algorithm. -/
theorem gcd_eq_signedGcd (a b : Int) : gcd a b = signedGcd a b := by
  obtain ⟨_, _, hends⟩ := ends_gcd a b
  exact hends.eq_signed_gcd

/-- **Euclid's algorithm ends with the greatest common divisor, which has the sign of the second
number**, and with the first number if the second one is zero. -/
theorem gcd_floored (a b : Int) :
    (∃ n ≤ b.natAbs, Ends a b n (gcd a b)) ∧
      gcd a b = if b = 0 then a else b.sign * (a.natAbs.gcd b.natAbs : Int) :=
  ⟨ends_gcd a b, gcd_eq_signedGcd a b⟩

example : gcd 12 (-18) = -6 ∧ gcd (-12) 18 = 6 := by decide +kernel

end Measure

end Tapeline
