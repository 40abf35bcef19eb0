import Tapeline.Proofs.Binary64.Exact

/-!
# Floors that rounding cannot cross

The quotient of a value by a natural number is rounded, and still its floor is the floor of the
exact quotient (`floor_div_ofNat`).  Rounding never crosses an integer, so the one way to go wrong
is to round up to the next integer.  But the value keeps a whole grid step away from the multiple
of the divisor above it, which after the division is more than half a step of the grid there.

What is left after whole multiples of a natural number are taken away is not rounded at all
(`remainderBy_finite`).
-/

namespace Tapeline

namespace Binary64

/-- Grid steps of numbers below 2 ^ (53 + e) divide 2 ^ e. -/
theorem gridStep_dvd_two_pow_of_lt {u e : Nat} (h : u < 2 ^ 53 * 2 ^ e) : gridStep u ∣ 2 ^ e := by
  refine gridStep_dvd_two_pow ?_
  rcases Nat.eq_zero_or_pos u with rfl | hpos
  · simp
  · have hlog : u.log2 < 53 + e := by
      rw [Nat.log2_lt (Nat.ne_of_gt hpos), Nat.pow_add]
      exact h
    omega

/-- Grid steps of values below 2 ^ 53 divide one. -/
theorem gridStep_dvd_unitsPerOne {u : Nat} (h : u < 2 ^ 53 * unitsPerOne) :
    gridStep u ∣ unitsPerOne := by
  unfold unitsPerOne at h ⊢
  exact @gridStep_dvd_two_pow_of_lt u 1074 h

/-- Whole numbers up to 2 ^ 53 lie on the grid. -/
theorem gridStep_dvd_mul_unitsPerOne {n : Nat} (h : n ≤ 2 ^ 53) :
    gridStep (n * unitsPerOne) ∣ n * unitsPerOne := by
  unfold unitsPerOne
  exact @gridStep_dvd_mul_pow n 1074 h

/-- A smaller multiple of a grid step is representable. -/
theorem onGrid_of_dvd {u v : Nat} (hu : OnGrid u) (hle : v ≤ u) (hdvd : gridStep u ∣ v) :
    OnGrid v :=
  ⟨Nat.lt_of_le_of_lt hle hu.1, Nat.dvd_trans (gridStep_dvd_of_le hle) hdvd⟩

/-- The units left of a value are a multiple of its grid step. -/
theorem onGrid_mod {u : Nat} (hu : OnGrid u) (h : u < 2 ^ 53 * unitsPerOne) (n : Nat) :
    OnGrid (u % (n * unitsPerOne)) := by
  refine onGrid_of_dvd hu (Nat.mod_le _ _) ?_
  exact (Nat.dvd_mod_iff (Nat.dvd_trans (gridStep_dvd_unitsPerOne h) (Nat.dvd_mul_left _ n))).mpr
    hu.2

/-- A representable number of units is a whole number of ones, or small. -/
theorem unitsPerOne_dvd_or_lt {u : Nat} (hu : OnGrid u) :
    unitsPerOne ∣ u ∨ u < 2 ^ 52 * unitsPerOne := by
  unfold unitsPerOne
  exact two_pow_dvd_or_lt hu.2 1074

/-- The whole part and the fraction of a value are representable, however large it is. -/
theorem onGrid_whole_fraction {u : Nat} (hu : OnGrid u) :
    OnGrid (u / unitsPerOne * unitsPerOne) ∧ OnGrid (u % unitsPerOne) := by
  rcases unitsPerOne_dvd_or_lt hu with hdvd | hlt
  · rw [Nat.div_mul_cancel hdvd, Nat.mod_eq_zero_of_dvd hdvd]
    exact ⟨hu, onGrid_zero⟩
  · have hstep : gridStep u ∣ unitsPerOne := gridStep_dvd_unitsPerOne (by omega)
    exact ⟨onGrid_of_dvd hu (Nat.div_mul_le_self _ _) (Nat.dvd_mul_left_of_dvd hstep _),
      onGrid_of_dvd hu (Nat.mod_le _ _) ((Nat.dvd_mod_iff hstep).mpr hu.2)⟩

/-- Less than an inch in sixteenths has as many significant bits as in inches. -/
theorem onGrid_mul_sixteen {f : Nat} (hf : OnGrid f) (hlt : f < unitsPerOne) :
    OnGrid (f * 16) := by
  constructor
  · have h : OnGrid (16 * unitsPerOne) := onGrid_mul_unitsPerOne (by decide)
    have hmax := h.1
    omega
  · have hstep : gridStep (f * 16) ∣ gridStep f * 16 := by
      have hlog : (f * 16).log2 ≤ f.log2 + 4 := by
        rcases Nat.eq_zero_or_pos f with rfl | hpos
        · simp
        · have hself : f < 2 ^ (f.log2 + 1) := Nat.lt_log2_self
          have hne : f * 16 ≠ 0 := by omega
          refine Nat.le_of_lt_succ ((Nat.log2_lt hne).mpr ?_)
          have hsplit : 2 ^ (f.log2 + 1 + 4) = 2 ^ (f.log2 + 1) * 2 ^ 4 := Nat.pow_add 2 _ 4
          have hsucc : f.log2 + 4 + 1 = f.log2 + 1 + 4 := by omega
          rw [Nat.succ_eq_add_one, hsucc]
          omega
      have hpow : gridStep f * 16 = 2 ^ (f.log2 - 52 + 4) := (Nat.pow_add 2 _ 4).symm
      rw [hpow]
      exact Nat.pow_dvd_pow 2 (by omega)
    exact Nat.dvd_trans hstep (Nat.mul_dvd_mul_right hf.2 16)

/-- **A remainder is not rounded.** -/
theorem remainderBy_finite (s : Bool) {m : Magnitude} (h : m.units < 2 ^ 53 * unitsPerOne)
    (n : Nat) :
    (finite s m).remainderBy n =
      finite s ⟨m.units % (n * unitsPerOne), onGrid_mod m.onGrid h n⟩ :=
  ofFraction_units s ⟨m.units % (n * unitsPerOne), onGrid_mod m.onGrid h n⟩

/-- The floor of a rounded fraction. -/
theorem floor_ofFraction {num den : Nat} (h : roundUnits num den < overflowUnits) :
    (ofFraction false num den).floor = .ok ((roundUnits num den / unitsPerOne : Nat) : Int) := by
  simp only [ofFraction, h, dif_pos, floor, signedUnits, Bool.false_eq_true, if_false]
  rfl

/-- A quotient is smaller by at least the binary size of the divisor. -/
theorem log2_div_le {u d : Nat} (hd : 0 < d) : (u / d).log2 ≤ u.log2 - d.log2 := by
  rcases Nat.eq_zero_or_pos (u / d) with hzero | hpos
  · simp [hzero]
  · have hle : d ≤ u := by
      have hone : 1 ≤ u / d := hpos
      rwa [Nat.le_div_iff_mul_le hd, Nat.one_mul] at hone
    have hlog := log2_mono hle
    refine Nat.le_of_lt_succ ((Nat.log2_lt (Nat.ne_of_gt hpos)).mpr ?_)
    rw [Nat.div_lt_iff_lt_mul hd]
    calc u < 2 ^ (u.log2 + 1) := Nat.lt_log2_self
      _ = 2 ^ (u.log2 - d.log2 + 1) * 2 ^ d.log2 := by
        rw [← Nat.pow_add]
        congr 1
        omega
      _ ≤ 2 ^ (u.log2 - d.log2 + 1) * d :=
        Nat.mul_le_mul_left _ (Nat.log2_self_le (Nat.ne_of_gt hd))

/-- One is far more than 2 ^ 53 units. -/
theorem two_pow_le_unitsPerOne : 2 ^ 53 ≤ unitsPerOne := by
  have hfactor : 2 ^ 53 * 2 ^ 1021 = unitsPerOne := mul_of_eq_two_pow rfl rfl rfl rfl
  rw [← hfactor]
  exact Nat.le_mul_of_pos_right _ (pos_of_eq_two_pow rfl)

/-- A value below a multiple of the divisor is too far below it for the quotient to be rounded up
to that multiple. -/
theorem roundUnits_div_ne {u d n : Nat} (hd : 0 < d) (hgrid : gridStep u ∣ u)
    (hu : u < 2 ^ 53 * unitsPerOne) (hlt : u < d * (n * unitsPerOne)) :
    roundUnits (u * unitsPerOne) (d * unitsPerOne) ≠ n * unitsPerOne := by
  intro hround
  have hone := unitsPerOne_pos
  have hnear := (roundUnits_near (u * unitsPerOne) (Nat.mul_pos hd hone)).1
  rw [hround, Nat.mul_div_mul_right u d hone] at hnear
  -- the distance to the multiple, in terms of the step at the quotient
  have hclose : 2 * (d * (n * unitsPerOne)) ≤ 2 * u + d * gridStep (u / d) := by
    refine Nat.le_of_mul_le_mul_right ?_ hone
    calc 2 * (d * (n * unitsPerOne)) * unitsPerOne
        = 2 * (n * unitsPerOne * (d * unitsPerOne)) := by
          rw [Nat.mul_assoc 2, Nat.mul_comm d, Nat.mul_assoc (n * unitsPerOne)]
      _ ≤ 2 * (u * unitsPerOne) + d * unitsPerOne * gridStep (u / d) := hnear
      _ = (2 * u + d * gridStep (u / d)) * unitsPerOne := by
          rw [Nat.add_mul, Nat.mul_assoc 2, Nat.mul_right_comm d]
  -- and in terms of the step at the value
  have hfar : gridStep u ≤ d * (n * unitsPerOne) - u := by
    refine Nat.le_of_dvd (Nat.sub_pos_of_lt hlt) (Nat.dvd_sub ?_ hgrid)
    exact Nat.dvd_trans (gridStep_dvd_unitsPerOne hu)
      (Nat.dvd_trans (Nat.dvd_mul_left _ n) (Nat.dvd_mul_left _ d))
  have hquotient := @log2_div_le u d hd
  rcases Nat.lt_or_ge u.log2 (52 + d.log2) with hsmall | hlarge
  · -- near zero the grid is as fine as it gets, and the multiple is far away
    have hstep : gridStep (u / d) = 1 := by
      unfold gridStep
      rw [Nat.sub_eq_zero_of_le (by omega), Nat.pow_zero]
    have hbelow : u < 2 ^ 52 * d := by
      calc u < 2 ^ (u.log2 + 1) := Nat.lt_log2_self
        _ ≤ 2 ^ (52 + d.log2) := Nat.pow_le_pow_right (by decide) hsmall
        _ = 2 ^ 52 * 2 ^ d.log2 := Nat.pow_add 2 52 _
        _ ≤ 2 ^ 52 * d := Nat.mul_le_mul_left _ (Nat.log2_self_le (Nat.ne_of_gt hd))
    have hn : 1 ≤ n := by
      rcases Nat.eq_zero_or_pos n with rfl | hpos
      · simp at hlt
      · exact hpos
    have hmultiple : 2 ^ 53 * d ≤ d * (n * unitsPerOne) := by
      calc 2 ^ 53 * d ≤ unitsPerOne * d := Nat.mul_le_mul_right d two_pow_le_unitsPerOne
        _ = d * (1 * unitsPerOne) := by rw [Nat.one_mul, Nat.mul_comm]
        _ ≤ d * (n * unitsPerOne) :=
          Nat.mul_le_mul_left d (Nat.mul_le_mul_right unitsPerOne hn)
    rw [hstep] at hclose
    omega
  · have hsteps : gridStep (u / d) * 2 ^ d.log2 ≤ gridStep u := by
      unfold gridStep
      rw [← Nat.pow_add]
      exact Nat.pow_le_pow_right (by decide) (by omega)
    have hbelow : d * gridStep (u / d) < 2 * gridStep u := by
      calc d * gridStep (u / d) < 2 ^ (d.log2 + 1) * gridStep (u / d) :=
            Nat.mul_lt_mul_of_pos_right Nat.lt_log2_self (gridStep_pos _)
        _ = 2 * (gridStep (u / d) * 2 ^ d.log2) := by
          rw [Nat.pow_succ, Nat.mul_comm, ← Nat.mul_assoc, Nat.mul_comm _ 2]
        _ ≤ 2 * gridStep u := Nat.mul_le_mul_left 2 hsteps
    omega

/-- **The floor of a quotient by a natural number is exact.** -/
theorem floor_div_ofNat {m : Magnitude} (hm : m.units < 2 ^ 53 * unitsPerOne) {d : Nat}
    (hd : 0 < d) (hlt : d < 2 ^ 53) :
    (finite false m / ofNat d).floor =
      .ok ((m.units / (d * unitsPerOne) : Nat) : Int) := by
  have hone := unitsPerOne_pos
  have hden : 0 < d * unitsPerOne := Nat.mul_pos hd hone
  have hquotient : finite false m / ofNat d =
      ofFraction false (m.units * unitsPerOne) (d * unitsPerOne) := by
    have hdiv := finite_div false false m ⟨d * unitsPerOne, onGrid_mul_unitsPerOne hlt⟩
      (Nat.ne_of_gt hden)
    rw [ofNat_eq_ofUnits, ofUnits_natCast (onGrid_mul_unitsPerOne hlt), hdiv,
      bne_self_eq_false]
  have hself : roundUnits (m.units * unitsPerOne) (d * unitsPerOne) ≤ m.units := by
    refine roundUnits_le hden m.onGrid.2 (Nat.mul_le_mul_left _ ?_)
    exact Nat.le_mul_of_pos_left unitsPerOne hd
  -- the integer below the quotient and the one above it
  have hfloor : m.units / (d * unitsPerOne) < 2 ^ 53 := by
    refine Nat.lt_of_le_of_lt (Nat.div_le_div_left ?_ hone) ((Nat.div_lt_iff_lt_mul hone).mpr hm)
    exact Nat.le_mul_of_pos_left unitsPerOne hd
  have hbelow : m.units / (d * unitsPerOne) * unitsPerOne ≤
      roundUnits (m.units * unitsPerOne) (d * unitsPerOne) := by
    refine le_roundUnits hden (onGrid_mul_unitsPerOne hfloor).2 ?_
    calc m.units / (d * unitsPerOne) * unitsPerOne * (d * unitsPerOne)
        = m.units / (d * unitsPerOne) * (d * unitsPerOne) * unitsPerOne :=
          Nat.mul_right_comm _ _ _
      _ ≤ m.units * unitsPerOne := Nat.mul_le_mul_right _ (Nat.div_mul_le_self _ _)
  have hnext : m.units < d * ((m.units / (d * unitsPerOne) + 1) * unitsPerOne) := by
    calc m.units < d * unitsPerOne * (m.units / (d * unitsPerOne) + 1) :=
          Nat.lt_mul_div_succ _ hden
      _ = d * ((m.units / (d * unitsPerOne) + 1) * unitsPerOne) := by
          rw [Nat.mul_assoc, Nat.mul_comm unitsPerOne]
  have habove : roundUnits (m.units * unitsPerOne) (d * unitsPerOne) ≤
      (m.units / (d * unitsPerOne) + 1) * unitsPerOne := by
    have hgrid := gridStep_dvd_mul_unitsPerOne (Nat.succ_le_of_lt hfloor)
    refine roundUnits_le hden hgrid ?_
    calc m.units * unitsPerOne
        ≤ d * ((m.units / (d * unitsPerOne) + 1) * unitsPerOne) * unitsPerOne :=
          Nat.mul_le_mul_right _ (Nat.le_of_lt hnext)
      _ = (m.units / (d * unitsPerOne) + 1) * unitsPerOne * (d * unitsPerOne) := by
          rw [Nat.mul_comm d, Nat.mul_assoc]
  have hne := roundUnits_div_ne hd m.onGrid.2 hm hnext
  have hdiv : roundUnits (m.units * unitsPerOne) (d * unitsPerOne) / unitsPerOne =
      m.units / (d * unitsPerOne) :=
    Nat.div_eq_of_lt_le hbelow (Nat.lt_of_le_of_ne habove hne)
  rw [hquotient, floor_ofFraction (Nat.lt_of_le_of_lt hself m.onGrid.1), hdiv]

end Binary64

end Tapeline
