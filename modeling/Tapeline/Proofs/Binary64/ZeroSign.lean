import Tapeline.Proofs.Binary64.Exact

/-!
# Numbers up to the sign of zero

Two values are the same number if they are equal or both are zero.  Sums, differences and products
of the same numbers are the same numbers (`SameNumber.add`, `SameNumber.sub`, `SameNumber.mul`), and
so are quotients whose divisor is not zero (`SameNumber.div`).  Each of them comes from the one
case that matters, a zero of either sign on one side.

No negative zero comes up where no minus is written: sums and quotients of values without a minus
are again without one (`Unsigned.add`, `Unsigned.div`), and a plain zero adds nothing to them
(`Unsigned.zero_add`).
-/

namespace Tapeline

namespace Binary64

/-- Equal, or zeros of either sign. -/
def SameNumber (x y : Binary64) : Prop :=
  x = y ∨ (x.isZero = true ∧ y.isZero = true)

namespace SameNumber

theorem refl (x : Binary64) : SameNumber x x :=
  Or.inl rfl

theorem trans {x y z : Binary64} (hxy : SameNumber x y) (hyz : SameNumber y z) :
    SameNumber x z := by
  rcases hxy with rfl | ⟨hx, hy⟩
  · exact hyz
  · rcases hyz with rfl | ⟨_, hz⟩
    · exact Or.inr ⟨hx, hy⟩
    · exact Or.inr ⟨hx, hz⟩

/-- The sign of a zero does not decide whether a value is zero. -/
theorem isZero_eq {x y : Binary64} (h : SameNumber x y) : x.isZero = y.isZero := by
  rcases h with rfl | ⟨hx, hy⟩
  · rfl
  · rw [hx, hy]

end SameNumber

theorem isFinite_of_isZero {x : Binary64} (h : x.isZero = true) : x.isFinite = true := by
  cases x <;> simp_all [isZero, isFinite]

/-- The sign of a zero does not decide whether a value is finite. -/
theorem SameNumber.isFinite_eq {x y : Binary64} (h : SameNumber x y) :
    x.isFinite = y.isFinite := by
  rcases h with rfl | ⟨hx, hy⟩
  · rfl
  · rw [isFinite_of_isZero hx, isFinite_of_isZero hy]

theorem isZero_zeroOf (s : Bool) : (zeroOf s).isZero = true := by
  rw [zeroOf_eq]
  rfl

/-- A zero is one of the two. -/
theorem eq_zeroOf_of_isZero {x : Binary64} (h : x.isZero = true) : ∃ s, x = zeroOf s := by
  cases x with
  | nan => cases h
  | infinite _ => cases h
  | finite s m =>
      obtain ⟨units, hgrid⟩ := m
      obtain rfl : units = 0 := by simpa [isZero] using h
      exact ⟨s, (zeroOf_eq s).symm⟩

/-- The two zeros are one number. -/
theorem sameNumber_zeroOf (s t : Bool) : SameNumber (zeroOf s) (zeroOf t) :=
  Or.inr ⟨isZero_zeroOf s, isZero_zeroOf t⟩

/-- Values that are one number are equal or both zero. -/
theorem SameNumber.eq_or_zeros {x y : Binary64} (h : SameNumber x y) :
    x = y ∨ ∃ s t, x = zeroOf s ∧ y = zeroOf t := by
  rcases h with heq | ⟨hx, hy⟩
  · exact Or.inl heq
  · obtain ⟨s, hs⟩ := eq_zeroOf_of_isZero hx
    obtain ⟨t, ht⟩ := eq_zeroOf_of_isZero hy
    exact Or.inr ⟨s, t, hs, ht⟩

/-- An operation that does not tell zeros apart on either side respects numbers. -/
theorem SameNumber.congr {f : Binary64 → Binary64 → Binary64}
    (hleft : ∀ s t y, SameNumber (f (zeroOf s) y) (f (zeroOf t) y))
    (hright : ∀ s t x, SameNumber (f x (zeroOf s)) (f x (zeroOf t)))
    {x x' y y' : Binary64} (hx : SameNumber x x') (hy : SameNumber y y') :
    SameNumber (f x y) (f x' y') := by
  have hfirst : SameNumber (f x y) (f x' y) := by
    rcases hx.eq_or_zeros with heq | ⟨s, t, hs, ht⟩
    · rw [heq]
      exact SameNumber.refl _
    · rw [hs, ht]
      exact hleft s t y
  have hsecond : SameNumber (f x' y) (f x' y') := by
    rcases hy.eq_or_zeros with heq | ⟨s, t, hs, ht⟩
    · rw [heq]
      exact SameNumber.refl _
    · rw [hs, ht]
      exact hright s t x'
  exact hfirst.trans hsecond

theorem signedUnits_zero (s : Bool) : signedUnits s 0 = 0 := by
  cases s <;> rfl

/-- A fraction of zero is a zero. -/
theorem ofFraction_zero (s : Bool) {den : Nat} (hden : 0 < den) :
    ofFraction s 0 den = zeroOf s := by
  have h := @ofFraction_exact s 0 den onGrid_zero hden
  rw [Nat.zero_mul] at h
  rw [h, zeroOf_eq]

theorem ofNat_zero : ofNat 0 = zero := by
  rw [ofNat, Nat.zero_mul, ofFraction_zero _ Nat.one_pos, zero]

theorem ofSixteenths_zero : ofSixteenths 0 = zero := by
  simp only [ofSixteenths, Int.natAbs_zero, Nat.zero_mul, Int.lt_irrefl, decide_false]
  rw [ofFraction_zero _ (by decide), zero]

theorem nan_add (y : Binary64) : nan + y = nan := by
  cases y <;> rfl

theorem add_nan (x : Binary64) : x + nan = nan := by
  cases x <;> rfl

theorem nan_sub (y : Binary64) : nan - y = nan := by
  cases y <;> rfl

theorem sub_nan (x : Binary64) : x - nan = nan := by
  cases x <;> rfl

theorem nan_mul (y : Binary64) : nan * y = nan := by
  cases y <;> rfl

theorem mul_nan (x : Binary64) : x * nan = nan := by
  cases x <;> rfl

theorem nan_div (y : Binary64) : nan / y = nan := by
  cases y <;> rfl

theorem div_nan (x : Binary64) : x / nan = nan := by
  cases x <;> rfl

/-- Addition commutes, invalid and infinite values included. -/
theorem add_comm (x y : Binary64) : x + y = y + x := by
  cases x with
  | nan => rw [nan_add, add_nan]
  | infinite s =>
      cases y with
      | nan => rfl
      | infinite t => cases s <;> cases t <;> rfl
      | finite t y => rfl
  | finite s x =>
      cases y with
      | nan => rfl
      | infinite t => rfl
      | finite t y => rw [finite_add, finite_add, Int.add_comm, Bool.and_comm]

/-- A zero adds nothing to a finite value, except that it may change the sign of a zero. -/
theorem zeroOf_add_finite (s t : Bool) (m : Magnitude) :
    zeroOf s + finite t m =
      if signedUnits t m.units = 0 then zeroOf (s && t) else ofUnits (signedUnits t m.units) := by
  rw [zeroOf_eq, finite_add]
  simp only [signedUnits_zero, Int.zero_add]

/-- A signed number of units, other than zero, is the one of its value. -/
theorem ofUnits_signedUnits {t : Bool} {m : Magnitude} (h : m.units ≠ 0) :
    ofUnits (signedUnits t m.units) = finite t m := by
  rw [ofUnits, decide_signedUnits_neg t h, natAbs_signedUnits, ofFraction_units]

/-- A plain zero adds nothing to a value that is no zero. -/
theorem zero_add_of_ne_zero {x : Binary64} (h : x.isZero = false) : zero + x = x := by
  cases x with
  | nan => exact add_nan _
  | infinite t =>
      rw [zero, zeroOf_eq]
      rfl
  | finite t m =>
      have hunits : m.units ≠ 0 := by simpa [isZero] using h
      have hne : signedUnits t m.units ≠ 0 := by
        cases t <;> simpa [signedUnits] using hunits
      rw [zero, zeroOf_add_finite, if_neg hne, ofUnits_signedUnits hunits]

theorem zero_add_zero : zero + zero = zero := by
  have h := finite_add false false ⟨0, onGrid_zero⟩ ⟨0, onGrid_zero⟩
  rwa [← zeroOf_eq, signedUnits_zero, if_pos (by decide)] at h

/-- What is added to a zero does not see its sign, up to the sign of a zero. -/
theorem sameNumber_zeroOf_add (s t : Bool) (y : Binary64) :
    SameNumber (zeroOf s + y) (zeroOf t + y) := by
  cases y with
  | nan => rw [add_nan, add_nan]; exact SameNumber.refl _
  | infinite _ => rw [zeroOf_eq, zeroOf_eq]; exact SameNumber.refl _
  | finite r m =>
      rw [zeroOf_add_finite, zeroOf_add_finite]
      split
      · exact sameNumber_zeroOf _ _
      · exact SameNumber.refl _

/-- Sums of the same numbers are the same number. -/
theorem SameNumber.add {x x' y y' : Binary64} (hx : SameNumber x x') (hy : SameNumber y y') :
    SameNumber (x + y) (x' + y') := by
  refine SameNumber.congr sameNumber_zeroOf_add (fun s t z => ?_) hx hy
  rw [add_comm z, add_comm z]
  exact sameNumber_zeroOf_add s t z

/-- Rounding is the same on either side of zero. -/
theorem neg_ofFraction (s : Bool) (num den : Nat) :
    -ofFraction s num den = ofFraction (!s) num den := by
  simp only [ofFraction]
  split
  · rfl
  · rfl

theorem neg_zeroOf (s : Bool) : -zeroOf s = zeroOf (!s) :=
  neg_ofFraction s 0 1

/-- Opposites of the same numbers are the same number. -/
theorem SameNumber.neg {x x' : Binary64} (h : SameNumber x x') : SameNumber (-x) (-x') := by
  rcases h.eq_or_zeros with heq | ⟨s, t, hs, ht⟩
  · rw [heq]
    exact SameNumber.refl _
  · rw [hs, ht, neg_zeroOf, neg_zeroOf]
    exact sameNumber_zeroOf _ _

/-- Differences of the same numbers are the same number. -/
theorem SameNumber.sub {x x' y y' : Binary64} (hx : SameNumber x x') (hy : SameNumber y y') :
    SameNumber (x - y) (x' - y') :=
  SameNumber.add hx hy.neg

/-- A product with a zero is a zero or invalid, whatever the signs. -/
theorem sameNumber_zeroOf_mul (s t : Bool) (y : Binary64) :
    SameNumber (zeroOf s * y) (zeroOf t * y) := by
  rw [zeroOf_eq, zeroOf_eq]
  cases y with
  | nan => exact SameNumber.refl _
  | infinite _ => exact SameNumber.refl _
  | finite r m =>
      rw [finite_mul, finite_mul, Nat.zero_mul, ofFraction_zero _ unitsPerOne_pos,
        ofFraction_zero _ unitsPerOne_pos]
      exact sameNumber_zeroOf _ _

/-- A plain zero times a natural number is a plain zero. -/
theorem zero_mul_ofNat {n : Nat} (h : n < 2 ^ 53) : zero * ofNat n = zero := by
  rw [ofNat_eq_ofUnits, ofUnits_natCast (onGrid_mul_unitsPerOne h), zero, zeroOf_eq, finite_mul,
    Nat.zero_mul, ofFraction_zero _ unitsPerOne_pos, zeroOf_eq]
  rfl

/-- What a zero is multiplied by does not see its sign, up to the sign of a zero. -/
theorem sameNumber_mul_zeroOf (s t : Bool) (x : Binary64) :
    SameNumber (x * zeroOf s) (x * zeroOf t) := by
  rw [zeroOf_eq, zeroOf_eq]
  cases x with
  | nan => exact SameNumber.refl _
  | infinite _ => exact SameNumber.refl _
  | finite r m =>
      rw [finite_mul, finite_mul, Nat.mul_zero, ofFraction_zero _ unitsPerOne_pos,
        ofFraction_zero _ unitsPerOne_pos]
      exact sameNumber_zeroOf _ _

/-- Products of the same numbers are the same number. -/
theorem SameNumber.mul {x x' y y' : Binary64} (hx : SameNumber x x') (hy : SameNumber y y') :
    SameNumber (x * y) (x' * y') :=
  SameNumber.congr sameNumber_zeroOf_mul sameNumber_mul_zeroOf hx hy

/-- A finite value over an infinite one is a zero. -/
theorem finite_div_infinite (s t : Bool) (m : Magnitude) :
    finite s m / infinite t = zeroOf (s != t) := by
  simp only [HDiv.hDiv, Div.div, div]

/-- Over a zero a finite value is invalid if it is a zero itself, and else infinite. -/
theorem finite_div_of_zero (s t : Bool) (x y : Magnitude) (h : y.units = 0) :
    finite s x / finite t y = if x.units = 0 then nan else infinite (s != t) := by
  simp only [HDiv.hDiv, Div.div, div, h, if_true]

/-- A zero over something else is a zero of some sign. -/
theorem sameNumber_zeroOf_div (s t : Bool) {y : Binary64} (hy : y.isZero = false) :
    SameNumber (zeroOf s / y) (zeroOf t / y) := by
  cases y with
  | nan => rw [div_nan, div_nan]; exact SameNumber.refl _
  | infinite r =>
      rw [zeroOf_eq, zeroOf_eq, finite_div_infinite, finite_div_infinite]
      exact sameNumber_zeroOf _ _
  | finite r m =>
      have hm : m.units ≠ 0 := by simpa [isZero] using hy
      rw [zeroOf_eq, zeroOf_eq, finite_div _ _ _ _ hm, finite_div _ _ _ _ hm, Nat.zero_mul,
        ofFraction_zero _ (Nat.pos_of_ne_zero hm), ofFraction_zero _ (Nat.pos_of_ne_zero hm)]
      exact sameNumber_zeroOf _ _

/-- The sign of a zero matters to a quotient only below the line. -/
theorem SameNumber.div {x x' y y' : Binary64} (hx : SameNumber x x') (hy : SameNumber y y')
    (h : y.isZero = false) : SameNumber (x / y) (x' / y') := by
  obtain rfl : y = y' := by
    rcases hy with rfl | ⟨hzero, _⟩
    · rfl
    · rw [h] at hzero
      cases hzero
  rcases hx.eq_or_zeros with heq | ⟨s, t, hs, ht⟩
  · rw [heq]
    exact SameNumber.refl _
  · rw [hs, ht]
    exact sameNumber_zeroOf_div s t h

/-! ## Values without a minus -/

/-- No minus stands in front, not even of a zero. -/
inductive Unsigned : Binary64 → Prop
  | nan : Unsigned nan
  | infinite : Unsigned (infinite false)
  | finite (m : Magnitude) : Unsigned (finite false m)

/-- What is rounded without a sign has none. -/
theorem unsigned_ofFraction (num den : Nat) : (ofFraction false num den).Unsigned := by
  unfold ofFraction
  split
  · exact .finite _
  · exact .infinite

theorem unsigned_zero : zero.Unsigned :=
  unsigned_ofFraction 0 1

theorem unsigned_ofNat (n : Nat) : (ofNat n).Unsigned :=
  unsigned_ofFraction _ _

/-- Sums of values without a sign have none. -/
theorem Unsigned.add {x y : Binary64} (hx : x.Unsigned) (hy : y.Unsigned) : (x + y).Unsigned := by
  cases hx with
  | nan =>
      rw [nan_add]
      exact .nan
  | infinite => cases hy <;> first | exact .nan | exact .infinite
  | finite m =>
      cases hy with
      | nan => exact .nan
      | infinite => exact .infinite
      | finite n =>
          rw [finite_add]
          split
          · exact unsigned_zero
          · have hsum : signedUnits false m.units + signedUnits false n.units =
                ((m.units + n.units : Nat) : Int) := by simp [signedUnits]
            have hsign : ¬ ((m.units + n.units : Nat) : Int) < 0 := by omega
            rw [hsum, ofUnits, decide_eq_false hsign]
            exact unsigned_ofFraction _ _

/-- Quotients of values without a sign have none. -/
theorem Unsigned.div {x y : Binary64} (hx : x.Unsigned) (hy : y.Unsigned) : (x / y).Unsigned := by
  cases hx with
  | nan =>
      rw [nan_div]
      exact .nan
  | infinite => cases hy <;> first | exact .nan | exact .infinite
  | finite m =>
      cases hy with
      | nan => exact .nan
      | infinite =>
          rw [finite_div_infinite]
          exact unsigned_zero
      | finite n =>
          by_cases hn : n.units = 0
          · rw [finite_div_of_zero _ _ _ _ hn]
            split
            · exact .nan
            · exact .infinite
          · rw [finite_div _ _ _ _ hn]
            exact unsigned_ofFraction _ _

/-- A plain zero adds nothing to a value without a minus. -/
theorem Unsigned.zero_add {x : Binary64} (hx : x.Unsigned) : Binary64.zero + x = x := by
  cases hx with
  | nan => exact add_nan _
  | infinite => exact zero_add_of_ne_zero rfl
  | finite m =>
      cases hzero : (Binary64.finite false m).isZero with
      | false => exact zero_add_of_ne_zero hzero
      | true =>
          obtain ⟨units, hgrid⟩ := m
          obtain rfl : units = 0 := by simpa [isZero] using hzero
          exact zeroOf_eq false ▸ zero_add_zero

/-- A natural number other than zero is none. -/
theorem isZero_ofNat {n : Nat} (h : n ≠ 0) : (ofNat n).isZero = false := by
  have hgrid : OnGrid unitsPerOne := by
    have hone := @onGrid_mul_unitsPerOne 1 (by decide)
    rwa [Nat.one_mul] at hone
  have hle : unitsPerOne * 1 ≤ n * unitsPerOne := by
    rw [Nat.mul_comm]
    exact Nat.mul_le_mul_right _ (Nat.pos_of_ne_zero h)
  have hround := le_roundUnits Nat.one_pos hgrid.2 hle
  have hpos := unitsPerOne_pos
  unfold ofNat ofFraction
  split
  · have hne : roundUnits (n * unitsPerOne) 1 ≠ 0 := by omega
    simpa [isZero] using hne
  · rfl

end Binary64

end Tapeline
