import Tapeline.Proofs.Binary64.ZeroSign

/-!
# Finite results

A sum, a difference and a product are finite only if both sides are (`isFinite_of_add` and its
companions), so a value that is not finite is never lost in them.  A quotient is different: an
infinite divisor makes zero of a finite value, so a finite quotient says no more of its divisor than
that it is valid (`isFinite_of_div`).
-/

namespace Tapeline

namespace Binary64

/-- A sign does not decide whether a value is finite. -/
theorem isFinite_neg (x : Binary64) : (-x).isFinite = x.isFinite := by
  cases x <;> rfl

/-- A finite sum has finite terms. -/
theorem isFinite_of_add {x y : Binary64} (h : (x + y).isFinite = true) :
    x.isFinite = true ∧ y.isFinite = true := by
  cases x with
  | nan =>
      rw [nan_add] at h
      cases h
  | infinite s =>
      cases y with
      | nan => cases h
      | infinite t =>
          -- two infinite terms give one of them or nothing valid
          cases s <;> cases t <;> cases h
      | finite t y => cases h
  | finite s x =>
      cases y with
      | nan => cases h
      | infinite t => cases h
      | finite t y => exact ⟨rfl, rfl⟩

/-- A finite difference is one of finite values. -/
theorem isFinite_of_sub {x y : Binary64} (h : (x - y).isFinite = true) :
    x.isFinite = true ∧ y.isFinite = true := by
  have hsum := @isFinite_of_add x (-y) h
  rwa [isFinite_neg] at hsum

/-- A product with an infinite factor is infinite, or invalid if the other is zero. -/
theorem isFinite_infinite_mul (s : Bool) (y : Binary64) : (infinite s * y).isFinite = false := by
  cases y with
  | nan => rfl
  | infinite t => rfl
  | finite t y =>
      change (if y.units = 0 then nan else infinite (s != t)).isFinite = false
      split <;> rfl

/-- A finite value times an infinite one is never finite. -/
theorem isFinite_finite_mul_infinite (s t : Bool) (x : Magnitude) :
    (finite s x * infinite t).isFinite = false := by
  change (if x.units = 0 then nan else infinite (s != t)).isFinite = false
  split <;> rfl

/-- A finite product has finite factors. -/
theorem isFinite_of_mul {x y : Binary64} (h : (x * y).isFinite = true) :
    x.isFinite = true ∧ y.isFinite = true := by
  cases x with
  | nan =>
      rw [nan_mul] at h
      cases h
  | infinite s =>
      rw [isFinite_infinite_mul] at h
      cases h
  | finite s x =>
      cases y with
      | nan => cases h
      | infinite t =>
          rw [isFinite_finite_mul_infinite] at h
          cases h
      | finite t y => exact ⟨rfl, rfl⟩

/-- A finite quotient has a finite value above the line, and a valid one below it. -/
theorem isFinite_of_div {x y : Binary64} (h : (x / y).isFinite = true) :
    x.isFinite = true ∧ y ≠ nan := by
  cases x with
  | nan =>
      rw [nan_div] at h
      cases h
  | infinite s => cases y <;> cases h
  | finite s x =>
      refine ⟨rfl, fun hnan => ?_⟩
      rw [hnan, div_nan] at h
      cases h

end Binary64

end Tapeline
