import Tapeline.Measure.Sixteenths
import Tapeline.Proofs.Binary64.Floor

/-!
# Rounding to sixteenths

A half is added before the floor is taken, and this sum is rounded too.  So a value is not always
rounded to the nearest integer, but always to one of the two integers around it, and an integer to
itself (`roundHalfUp_ofUnits`, `halfUp_bounds`).  Whole inches and sixteenths inherit this: the
whole inches are exact, and the number of sixteenths depends on the fraction of an inch alone and is
one of the two around the exact one (`round_finite`, `sixteenthsOf_bounds`).
-/

namespace Tapeline

namespace Measure

open Binary64

/-- Units rounded half up: half a one is added and the sum rounded before the floor is taken. -/
def halfUp (n : Nat) : Nat :=
  roundUnits (n + unitsPerHalf) 1 / unitsPerOne

/-- The sum lies between the halves around it. -/
theorem roundUnits_add_half {n : Nat} (hlt : n < 2 ^ 51 * unitsPerOne) :
    n / unitsPerOne * unitsPerOne + unitsPerHalf ≤ roundUnits (n + unitsPerHalf) 1 ∧
      roundUnits (n + unitsPerHalf) 1 ≤ (n / unitsPerOne + 1) * unitsPerOne + unitsPerHalf ∧
      OnGrid ((n / unitsPerOne + 1) * unitsPerOne + unitsPerHalf) := by
  have hone := unitsPerOne_pos
  have hq : n / unitsPerOne < 2 ^ 51 := (Nat.div_lt_iff_lt_mul hone).mpr hlt
  have hbelow : n / unitsPerOne * unitsPerOne ≤ n := Nat.div_mul_le_self _ _
  have habove : n < n / unitsPerOne * unitsPerOne + unitsPerOne := Nat.lt_div_mul_add hone
  have hlow := onGrid_mul_unitsPerHalf (show 2 * (n / unitsPerOne) + 1 < 2 ^ 53 by omega)
  have hhigh := onGrid_mul_unitsPerHalf (show 2 * (n / unitsPerOne + 1) + 1 < 2 ^ 53 by omega)
  rw [odd_mul_unitsPerHalf] at hlow hhigh
  have hsucc : (n / unitsPerOne + 1) * unitsPerOne =
      n / unitsPerOne * unitsPerOne + unitsPerOne := Nat.succ_mul _ _
  exact ⟨le_roundUnits Nat.one_pos hlow.2 (by omega),
    roundUnits_le Nat.one_pos hhigh.2 (by omega), hhigh⟩

/-- **Half up is up or down**, and an integer stays. -/
theorem halfUp_bounds {n : Nat} (hlt : n < 2 ^ 51 * unitsPerOne) :
    n / unitsPerOne ≤ halfUp n ∧ halfUp n ≤ n / unitsPerOne + 1 ∧
      (unitsPerOne ∣ n → halfUp n = n / unitsPerOne) := by
  have hone := unitsPerOne_pos
  have hhalf := unitsPerHalf_pos
  have htwo := unitsPerHalf_mul
  have hq : n / unitsPerOne < 2 ^ 51 := (Nat.div_lt_iff_lt_mul hone).mpr hlt
  obtain ⟨hge, hle, _⟩ := roundUnits_add_half hlt
  unfold halfUp
  refine ⟨?_, ?_, ?_⟩
  · rw [Nat.le_div_iff_mul_le hone]
    omega
  · refine Nat.le_of_lt_succ ((Nat.div_lt_iff_lt_mul hone).mpr ?_)
    rw [Nat.succ_mul]
    omega
  · intro hdvd
    have hlow := onGrid_mul_unitsPerHalf (show 2 * (n / unitsPerOne) + 1 < 2 ^ 53 by omega)
    rw [odd_mul_unitsPerHalf] at hlow
    have hexact : n / unitsPerOne * unitsPerOne = n := Nat.div_mul_cancel hdvd
    have hround : roundUnits ((n / unitsPerOne * unitsPerOne + unitsPerHalf) * 1) 1 =
        n / unitsPerOne * unitsPerOne + unitsPerHalf := roundUnits_exact Nat.one_pos hlow.2
    rw [Nat.mul_one] at hround
    rw [hexact] at hround
    refine Nat.div_eq_of_lt_le ?_ ?_
    · omega
    · rw [Nat.succ_mul]
      omega

/-- Rounding half up is exact for values in units. -/
theorem roundHalfUp_ofUnits {n : Nat} (hgrid : OnGrid n) (hlt : n < 2 ^ 51 * unitsPerOne) :
    roundHalfUp (ofUnits (n : Int)) = .ok (halfUp n : Int) := by
  obtain ⟨_, hle, hhigh⟩ := roundUnits_add_half hlt
  have hsign : ¬ ((n + unitsPerHalf : Nat) : Int) < 0 := by omega
  rw [roundHalfUp, half_eq_ofUnits, ofUnits_natCast_add hgrid onGrid_unitsPerHalf, ofUnits,
    Int.natAbs_natCast, decide_eq_false hsign,
    floor_ofFraction (Nat.lt_of_le_of_lt hle hhigh.1), halfUp]

/-- The sixteenths that the fraction of an inch is rounded to, up to sixteen of them. -/
def sixteenthsOf (v : Nat) : Nat :=
  halfUp (v % unitsPerOne * 16)

/-- The sixteenths are the exact ones or one more, and the exact ones where these are whole. -/
theorem sixteenthsOf_bounds (v : Nat) :
    v % unitsPerOne * 16 / unitsPerOne ≤ sixteenthsOf v ∧
      sixteenthsOf v ≤ v % unitsPerOne * 16 / unitsPerOne + 1 ∧
      (unitsPerOne ∣ v % unitsPerOne * 16 →
        sixteenthsOf v = v % unitsPerOne * 16 / unitsPerOne) := by
  have hless : v % unitsPerOne < unitsPerOne := Nat.mod_lt v unitsPerOne_pos
  apply halfUp_bounds
  omega

/-- An inch has sixteen sixteenths at most. -/
theorem sixteenthsOf_le (v : Nat) : sixteenthsOf v ≤ 16 := by
  have hexact : v % unitsPerOne * 16 / unitsPerOne < 16 := by
    rw [Nat.div_lt_iff_lt_mul unitsPerOne_pos, Nat.mul_comm 16]
    exact Nat.mul_lt_mul_of_pos_right (Nat.mod_lt _ unitsPerOne_pos) (by decide)
  have hbound := (sixteenthsOf_bounds v).2.1
  omega

/-- Whole inches do not count for the sixteenths. -/
theorem sixteenthsOf_mod (v k : Nat) : sixteenthsOf (v % (k * unitsPerOne)) = sixteenthsOf v := by
  unfold sixteenthsOf
  rw [Nat.mod_mul_left_mod]

/-- Whole inches and sixteenths of a value that is not negative. -/
theorem round_finite {v : Nat} (hv : OnGrid v) :
    Sixteenths.round (finite false ⟨v, hv⟩) =
      .ok (Sixteenths.ofParts ((v / unitsPerOne : Nat) : Int) (sixteenthsOf v : Int)) := by
  obtain ⟨hwhole, hmod⟩ := onGrid_whole_fraction hv
  have hless : v % unitsPerOne < unitsPerOne := Nat.mod_lt v unitsPerOne_pos
  have hscaled : OnGrid (v % unitsPerOne * 16) := onGrid_mul_sixteen hmod hless
  have hfloor : (finite false ⟨v, hv⟩).floor = .ok ((v / unitsPerOne : Nat) : Int) := by
    rw [← ofUnits_natCast hv, floor_ofUnits (show OnGrid (v : Int).natAbs from hv),
      Int.natCast_ediv]
  have hfraction : (finite false ⟨v, hv⟩ - ofInt ((v / unitsPerOne : Nat) : Int)) *
      ofNat sixteenthsPerInch = ofUnits ((v % unitsPerOne * 16 : Nat) : Int) := by
    have hrest : v - v / unitsPerOne * unitsPerOne = v % unitsPerOne := by
      have h := Nat.div_add_mod' v unitsPerOne
      omega
    have hsixteen : ofNat sixteenthsPerInch = ofUnits ((16 * unitsPerOne : Nat) : Int) :=
      ofNat_eq_ofUnits 16
    have hgrid : OnGrid (16 * unitsPerOne) := onGrid_mul_unitsPerOne (by decide)
    have hmul : v % unitsPerOne * (16 * unitsPerOne) = v % unitsPerOne * 16 * unitsPerOne :=
      (Nat.mul_assoc _ _ _).symm
    rw [← ofUnits_natCast hv, ofInt_natCast, ofNat_eq_ofUnits,
      ofUnits_natCast_sub hv hwhole (Nat.div_mul_le_self _ _), hrest,
      hsixteen, ofUnits_mul hmod hgrid hscaled hmul]
  have hbind : ∀ {α β : Type} (x : α) (f : α → Except IntegerFault β),
      (Except.ok x >>= f) = f x := fun _ _ => rfl
  have hsixteenths := roundHalfUp_ofUnits hscaled (by omega)
  rw [Sixteenths.round, hfloor, hbind, hfraction, hsixteenths, hbind]
  rfl

end Measure

end Tapeline
