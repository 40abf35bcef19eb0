import Tapeline.Proofs.Binary64.Rounding

/-!
# Exact arithmetic

Where the exact result of an operation is representable, the operation returns it.  A finite value
other than a negative zero is `ofUnits n` for its signed number of units `n`, and on such values

* `ofUnits_add` and `ofUnits_sub` need nothing of the result: a sum is the rounded sum of the units;
* `ofUnits_mul` and `ofUnits_div` ask for a representable product and quotient;
* `floor_ofUnits` is the floor of the units.

Integers below 2 ^ 53 (`ofNat_eq_ofUnits`) and sixteenths below 2 ^ 53 (`ofSixteenths_eq_ofUnits`)
are representable, so lengths on the grid of a tape measure are added, and multiplied by natural
numbers, without any loss.
-/

namespace Tapeline

namespace Binary64

/-- The exact value of `x` is `num / den`. -/
def IsFraction (x : Binary64) (num : Int) (den : Nat) : Prop :=
  ∃ s m, x = finite s m ∧ signedUnits s m.units * den = num * unitsPerOne

/-- The value nearest to a signed number of units. -/
def ofUnits (n : Int) : Binary64 :=
  ofFraction (n < 0) n.natAbs 1

/-- The value nearest to `n / 16`. -/
def ofSixteenths (n : Int) : Binary64 :=
  ofFraction (n < 0) (n.natAbs * unitsPerOne) 16

-- The large constants are known by their exponents, so that none of these powers is evaluated.
theorem pos_of_eq_two_pow {n e : Nat} (h : n = 2 ^ e) : 0 < n := by
  rw [h]
  exact Nat.two_pow_pos e

theorem log2_of_eq_two_pow {n e : Nat} (h : n = 2 ^ e) : n.log2 = e := by
  rw [h, Nat.log2_two_pow]

/-- Powers of two are multiplied by adding their exponents. -/
theorem mul_of_eq_two_pow {k m n a b c : Nat} (hk : k = 2 ^ a) (hm : m = 2 ^ b)
    (hn : n = 2 ^ c) (h : a + b = c) : k * m = n := by
  rw [hk, hm, hn, ← h, Nat.pow_add]

theorem unitsPerOne_pos : 0 < unitsPerOne :=
  pos_of_eq_two_pow rfl

theorem overflowUnits_pos : 0 < overflowUnits :=
  pos_of_eq_two_pow rfl

theorem onGrid_zero : OnGrid 0 :=
  ⟨overflowUnits_pos, Nat.dvd_zero _⟩

theorem two_pow_le_two_pow {a b : Nat} (h : a ≤ b) : 2 ^ a ≤ 2 ^ b :=
  Nat.pow_le_pow_right (by decide) h

/-- A number of at most 53 bits times a power of two is representable up to the greatest value. -/
theorem onGrid_mul_two_pow {m e : Nat} (hm : m < 2 ^ 53) (he : e ≤ 2045) : OnGrid (m * 2 ^ e) := by
  refine ⟨?_, gridStep_dvd_mul_pow e (Nat.le_of_lt hm)⟩
  unfold overflowUnits
  calc m * 2 ^ e < 2 ^ 53 * 2 ^ e := Nat.mul_lt_mul_of_pos_right hm (Nat.two_pow_pos e)
    _ = 2 ^ (53 + e) := (Nat.pow_add 2 53 e).symm
    _ ≤ 2 ^ 2098 := @two_pow_le_two_pow (53 + e) 2098 (by omega)

/-- Integers below 2 ^ 53 are representable. -/
theorem onGrid_mul_unitsPerOne {m : Nat} (hm : m < 2 ^ 53) : OnGrid (m * unitsPerOne) := by
  unfold unitsPerOne
  exact @onGrid_mul_two_pow m 1074 hm (by decide)

/-- A representable fraction is not rounded. -/
theorem ofFraction_exact {s : Bool} {u den : Nat} (h : OnGrid u) (hden : 0 < den) :
    ofFraction s (u * den) den = finite s ⟨u, h⟩ := by
  have hround : roundUnits (u * den) den = u := roundUnits_exact hden h.2
  simp only [ofFraction, hround, h.1, dif_pos]

/-- The units of a finite value are not rounded. -/
theorem ofFraction_units (s : Bool) (m : Magnitude) : ofFraction s m.units 1 = finite s m := by
  have h := @ofFraction_exact s m.units 1 m.onGrid Nat.one_pos
  rwa [Nat.mul_one] at h

/-- The zeros are the finite values of no units. -/
theorem zeroOf_eq (s : Bool) : zeroOf s = finite s ⟨0, onGrid_zero⟩ :=
  ofFraction_units s ⟨0, onGrid_zero⟩

/-- A representable number of units is the size of its value. -/
theorem ofUnits_eq {n : Int} (h : OnGrid n.natAbs) :
    ofUnits n = finite (decide (n < 0)) ⟨n.natAbs, h⟩ :=
  ofFraction_units (decide (n < 0)) ⟨n.natAbs, h⟩

/-- A sign does not change the size. -/
theorem natAbs_signedUnits (s : Bool) (n : Nat) : (signedUnits s n).natAbs = n := by
  cases s <;> simp [signedUnits]

/-- The sign of a number of units shows, except that of zero. -/
theorem decide_signedUnits_neg (s : Bool) {n : Nat} (hn : n ≠ 0) :
    decide (signedUnits s n < 0) = s := by
  cases s with
  | false => simp [signedUnits]
  | true =>
      simp only [signedUnits, if_true, decide_eq_true_eq]
      omega

/-- An integer is its size with its sign. -/
theorem signedUnits_natAbs (n : Int) : signedUnits (decide (n < 0)) n.natAbs = n := by
  unfold signedUnits
  by_cases h : n < 0
  · simp only [h, decide_true, if_true]
    omega
  · simp only [h, decide_false, Bool.false_eq_true, if_false]
    omega

/-- The opposite sign gives the opposite integer. -/
theorem signedUnits_not_natAbs (n : Int) : signedUnits (!decide (n < 0)) n.natAbs = -n := by
  unfold signedUnits
  by_cases h : n < 0
  · simp only [h, decide_true, Bool.not_true, Bool.false_eq_true, if_false]
    omega
  · simp only [h, decide_false, Bool.not_false, if_true]
    omega

/-- The sum of two finite values is the rounded sum of their units. -/
theorem finite_add (s t : Bool) (x y : Magnitude) :
    finite s x + finite t y =
      if signedUnits s x.units + signedUnits t y.units = 0 then zeroOf (s && t)
      else ofUnits (signedUnits s x.units + signedUnits t y.units) := rfl

/-- Taking a finite value away is adding it with the other sign. -/
theorem finite_sub (s t : Bool) (x y : Magnitude) :
    finite s x - finite t y = finite s x + finite (!t) y := rfl

/-- Finite values are multiplied exactly and then rounded once. -/
theorem finite_mul (s t : Bool) (x y : Magnitude) :
    finite s x * finite t y = ofFraction (s != t) (x.units * y.units) unitsPerOne := by
  simp only [HMul.hMul, Mul.mul, mul]

theorem ofUnits_zero : ofUnits 0 = zeroOf false := rfl

/-- Values without a negative zero add by their units. -/
theorem ofUnits_add {a b : Int} (ha : OnGrid a.natAbs) (hb : OnGrid b.natAbs) :
    ofUnits a + ofUnits b = ofUnits (a + b) := by
  rw [ofUnits_eq ha, ofUnits_eq hb, finite_add]
  simp only [signedUnits_natAbs]
  split
  · rename_i hsum
    have hsign : (decide (a < 0) && decide (b < 0)) = false := by
      simp only [Bool.and_eq_false_iff, decide_eq_false_iff_not]
      omega
    rw [hsum, hsign, ofUnits_zero]
  · rfl

/-- Values without a negative zero subtract by their units. -/
theorem ofUnits_sub {a b : Int} (ha : OnGrid a.natAbs) (hb : OnGrid b.natAbs) :
    ofUnits a - ofUnits b = ofUnits (a - b) := by
  rw [ofUnits_eq ha, ofUnits_eq hb, finite_sub, finite_add]
  simp only [signedUnits_natAbs, signedUnits_not_natAbs, ← Int.sub_eq_add_neg]
  split
  · rename_i hdifference
    have hsign : (decide (a < 0) && !decide (b < 0)) = false := by
      simp only [Bool.and_eq_false_iff, Bool.not_eq_false', decide_eq_false_iff_not,
        decide_eq_true_eq]
      omega
    rw [hdifference, hsign, ofUnits_zero]
  · rfl

/-- Sums of whole numbers of units are exact where they are representable. -/
theorem ofUnits_natCast_add {a b : Nat} (ha : OnGrid a) (hb : OnGrid b) :
    ofUnits (a : Int) + ofUnits (b : Int) = ofUnits ((a + b : Nat) : Int) := by
  rw [@ofUnits_add a b ha hb, ← Int.natCast_add]

/-- Differences of whole numbers of units are exact where they are representable. -/
theorem ofUnits_natCast_sub {a b : Nat} (ha : OnGrid a) (hb : OnGrid b) (h : b ≤ a) :
    ofUnits (a : Int) - ofUnits (b : Int) = ofUnits ((a - b : Nat) : Int) := by
  rw [@ofUnits_sub a b ha hb, Int.ofNat_sub h]

/-- A natural number of units is not negative. -/
theorem ofUnits_natCast {n : Nat} (h : OnGrid n) : ofUnits (n : Int) = finite false ⟨n, h⟩ := by
  have hsign : ¬ (n : Int) < 0 := Int.not_lt.mpr (Int.natCast_nonneg n)
  rw [ofUnits_eq (show OnGrid (n : Int).natAbs from h)]
  simp only [hsign, decide_false, Int.natAbs_natCast]

/-- Values that are not negative multiply exactly where the product is representable. -/
theorem ofUnits_mul {a b c : Nat} (ha : OnGrid a) (hb : OnGrid b) (hc : OnGrid c)
    (h : a * b = c * unitsPerOne) :
    ofUnits (a : Int) * ofUnits (b : Int) = ofUnits (c : Int) := by
  rw [ofUnits_natCast ha, ofUnits_natCast hb, ofUnits_natCast hc, finite_mul]
  simp only [h, bne_self_eq_false]
  exact ofFraction_exact hc unitsPerOne_pos

/-- Finite values are divided exactly and then rounded once. -/
theorem finite_div (s t : Bool) (x y : Magnitude) (h : y.units ≠ 0) :
    finite s x / finite t y = ofFraction (s != t) (x.units * unitsPerOne) y.units := by
  simp only [HDiv.hDiv, Div.div, div, h, if_false]

/-- Values that are not negative divide exactly where the quotient is representable. -/
theorem ofUnits_div {a b c : Nat} (ha : OnGrid a) (hb : OnGrid b) (hc : OnGrid c) (hpos : 0 < b)
    (h : a * unitsPerOne = c * b) :
    ofUnits (a : Int) / ofUnits (b : Int) = ofUnits (c : Int) := by
  rw [ofUnits_natCast ha, ofUnits_natCast hb, ofUnits_natCast hc,
    finite_div _ _ _ _ (Nat.ne_of_gt hpos)]
  simp only [h, bne_self_eq_false]
  exact ofFraction_exact hc hpos

/-- A natural number is that many ones, in units. -/
theorem ofNat_eq_ofUnits (n : Nat) : ofNat n = ofUnits ((n * unitsPerOne : Nat) : Int) := by
  have hsign : ¬ ((n * unitsPerOne : Nat) : Int) < 0 := Int.not_lt.mpr (Int.natCast_nonneg _)
  simp only [ofNat, ofUnits, hsign, decide_false, Int.natAbs_natCast]

theorem ofInt_natCast (n : Nat) : ofInt n = ofNat n := by
  have hsign : ¬ (n : Int) < 0 := by omega
  simp only [ofInt, ofNat, hsign, decide_false, Int.natAbs_natCast]

/-- The floor of a value is the floor of its units. -/
theorem floor_ofUnits {n : Int} (h : OnGrid n.natAbs) :
    (ofUnits n).floor = .ok (n / (unitsPerOne : Int)) := by
  rw [ofUnits_eq h]
  simp only [floor, signedUnits_natAbs]

/-- The number of units in a sixteenth. -/
def unitsPerSixteenth : Nat := 2 ^ 1070

theorem unitsPerSixteenth_mul : unitsPerSixteenth * 16 = unitsPerOne :=
  @mul_of_eq_two_pow _ _ _ _ 4 _ rfl rfl rfl rfl

theorem unitsPerSixteenth_pos : 0 < unitsPerSixteenth :=
  pos_of_eq_two_pow rfl

/-- Less than 2 ^ 53 sixteenths are representable. -/
theorem onGrid_mul_unitsPerSixteenth {m : Nat} (hm : m < 2 ^ 53) :
    OnGrid (m * unitsPerSixteenth) := by
  unfold unitsPerSixteenth
  exact @onGrid_mul_two_pow m 1070 hm (by decide)

/-- Sixteenths below 2 ^ 53 are representable. -/
theorem onGrid_sixteenths {n : Int} (h : n.natAbs < 2 ^ 53) :
    OnGrid (n * (unitsPerSixteenth : Int)).natAbs := by
  rw [Int.natAbs_mul, Int.natAbs_natCast]
  exact onGrid_mul_unitsPerSixteenth h

/-- A number of sixteenths is exact below 2 ^ 53. -/
theorem ofSixteenths_eq_ofUnits {n : Int} (h : n.natAbs < 2 ^ 53) :
    ofSixteenths n = ofUnits (n * unitsPerSixteenth) := by
  have hsign : n * (unitsPerSixteenth : Int) < 0 ↔ n < 0 := by
    have hpos : (0 : Int) < unitsPerSixteenth := by
      have := unitsPerSixteenth_pos
      omega
    constructor
    · intro hneg
      exact Int.neg_of_mul_neg_left hneg hpos
    · intro hneg
      exact Int.mul_neg_of_neg_of_pos hneg hpos
  have hunits : n.natAbs * unitsPerOne = n.natAbs * unitsPerSixteenth * 16 := by
    rw [Nat.mul_assoc, unitsPerSixteenth_mul]
  unfold ofSixteenths
  rw [hunits, ofFraction_exact (onGrid_mul_unitsPerSixteenth h) (by decide),
    ofUnits_eq (onGrid_sixteenths h)]
  simp only [hsign, Int.natAbs_mul, Int.natAbs_natCast]

/-- As a fraction a number of sixteenths is itself over sixteen. -/
theorem isFraction_ofSixteenths {n : Int} (h : n.natAbs < 2 ^ 53) :
    (ofSixteenths n).IsFraction n 16 := by
  refine ⟨_, _, (ofSixteenths_eq_ofUnits h).trans (ofUnits_eq (onGrid_sixteenths h)), ?_⟩
  simp only [signedUnits_natAbs]
  rw [Int.mul_assoc, ← unitsPerSixteenth_mul]
  push_cast
  rfl

theorem ofSixteenths_natCast {n : Nat} (h : n < 2 ^ 53) :
    ofSixteenths n = ofUnits ((n * unitsPerSixteenth : Nat) : Int) := by
  rw [ofSixteenths_eq_ofUnits (show (n : Int).natAbs < 2 ^ 53 from h)]
  push_cast
  rfl

/-- Integers are sixteenths. -/
theorem ofNat_eq_ofSixteenths {n : Nat} (h : 16 * n < 2 ^ 53) :
    ofNat n = ofSixteenths ((16 * n : Nat) : Int) := by
  rw [ofSixteenths_natCast h, ofNat_eq_ofUnits, ← unitsPerSixteenth_mul, Nat.mul_comm 16 n,
    Nat.mul_assoc, Nat.mul_comm 16]

/-- Sixteenths add without loss. -/
theorem ofSixteenths_add {a b : Int} (ha : a.natAbs < 2 ^ 53) (hb : b.natAbs < 2 ^ 53)
    (hab : (a + b).natAbs < 2 ^ 53) : ofSixteenths a + ofSixteenths b = ofSixteenths (a + b) := by
  rw [ofSixteenths_eq_ofUnits ha, ofSixteenths_eq_ofUnits hb, ofSixteenths_eq_ofUnits hab,
    ofUnits_add (onGrid_sixteenths ha) (onGrid_sixteenths hb), Int.add_mul]

/-- Sixteenths subtract without loss. -/
theorem ofSixteenths_sub {a b : Int} (ha : a.natAbs < 2 ^ 53) (hb : b.natAbs < 2 ^ 53)
    (hab : (a - b).natAbs < 2 ^ 53) : ofSixteenths a - ofSixteenths b = ofSixteenths (a - b) := by
  rw [ofSixteenths_eq_ofUnits ha, ofSixteenths_eq_ofUnits hb, ofSixteenths_eq_ofUnits hab,
    ofUnits_sub (onGrid_sixteenths ha) (onGrid_sixteenths hb), Int.sub_mul]

/-- Sixteenths times a natural number are sixteenths. -/
theorem ofSixteenths_mul_ofNat {k m : Nat} (hk : k < 2 ^ 53) (hm : m < 2 ^ 53)
    (hkm : k * m < 2 ^ 53) :
    ofSixteenths k * ofNat m = ofSixteenths ((k * m : Nat) : Int) := by
  rw [ofSixteenths_natCast hk, ofNat_eq_ofUnits, ofSixteenths_natCast hkm]
  refine ofUnits_mul (onGrid_mul_unitsPerSixteenth hk) (onGrid_mul_unitsPerOne hm)
    (onGrid_mul_unitsPerSixteenth hkm) ?_
  rw [← Nat.mul_assoc, Nat.mul_right_comm k]

/-- A natural number over a divisor of 16 is a number of sixteenths. -/
theorem ofNat_div_ofNat {num den : Nat} (hden : 0 < den) (hdvd : den * (16 / den) = 16)
    (hlt : num * (16 / den) < 2 ^ 53) :
    ofNat num / ofNat den = ofSixteenths ((num * (16 / den) : Nat) : Int) := by
  have hle : den ≤ 16 := Nat.le_of_dvd (by decide) ⟨_, hdvd.symm⟩
  have hquotient : 0 < 16 / den := Nat.div_pos hle hden
  have hnum : num < 2 ^ 53 := Nat.lt_of_le_of_lt (Nat.le_mul_of_pos_right num hquotient) hlt
  rw [ofNat_eq_ofUnits, ofNat_eq_ofUnits, ofSixteenths_natCast hlt]
  refine ofUnits_div (onGrid_mul_unitsPerOne hnum) (onGrid_mul_unitsPerOne (by omega))
    (onGrid_mul_unitsPerSixteenth hlt) (Nat.mul_pos hden unitsPerOne_pos) ?_
  calc num * unitsPerOne * unitsPerOne
      = num * (unitsPerSixteenth * (den * (16 / den))) * unitsPerOne := by
        rw [hdvd, unitsPerSixteenth_mul]
    _ = num * (16 / den) * unitsPerSixteenth * (den * unitsPerOne) := by
        have hmul : ∀ a b c d e : Nat, a * (b * (c * d)) * e = a * d * b * (c * e) := by
          intros
          ac_rfl
        exact hmul _ _ _ _ _

/-- The number of units in a half. -/
def unitsPerHalf : Nat := 2 ^ 1073

theorem unitsPerHalf_mul : unitsPerHalf * 2 = unitsPerOne :=
  @mul_of_eq_two_pow _ _ _ _ 1 _ rfl rfl rfl rfl

theorem unitsPerHalf_pos : 0 < unitsPerHalf :=
  pos_of_eq_two_pow rfl

/-- Less than 2 ^ 53 halves are representable. -/
theorem onGrid_mul_unitsPerHalf {n : Nat} (h : n < 2 ^ 53) : OnGrid (n * unitsPerHalf) := by
  unfold unitsPerHalf
  exact @onGrid_mul_two_pow n 1073 h (by decide)

theorem onGrid_unitsPerHalf : OnGrid unitsPerHalf := by
  have h := @onGrid_mul_unitsPerHalf 1 (by decide)
  rwa [Nat.one_mul] at h

/-- One half is a whole number of units. -/
theorem half_eq_ofUnits : half = ofUnits (unitsPerHalf : Int) := by
  rw [half, ← unitsPerHalf_mul, ofFraction_exact onGrid_unitsPerHalf (by decide),
    ofUnits_natCast onGrid_unitsPerHalf]

/-- An odd number of halves is an integer and a half. -/
theorem odd_mul_unitsPerHalf (n : Nat) :
    (2 * n + 1) * unitsPerHalf = n * unitsPerOne + unitsPerHalf := by
  rw [Nat.add_mul, Nat.one_mul, Nat.mul_comm 2 n, Nat.mul_assoc, Nat.mul_comm 2 unitsPerHalf,
    unitsPerHalf_mul]

end Binary64

end Tapeline
