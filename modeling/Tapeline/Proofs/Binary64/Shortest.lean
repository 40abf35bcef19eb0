import Tapeline.Binary64.Shortest
import Tapeline.Proofs.Binary64.Decimal
import Tapeline.Proofs.Binary64.ZeroSign

/-!
# Shortest decimals read back

Whatever grid the search stops at, it stops at a point that reads back (`onGrid?_reads`), so all
there is to show is that it stops before its steps run out.  On a decimal grid that is finer than
half a step of the binary one, the point above a value is nearer to it than to any other
(`roundUnits_eq_of_near`), and the last grid of the search is that fine (`lastGrid_fine`).  Hence
every finite value is its shortest decimal (`ofDecimal_shortest`).
-/

namespace Tapeline

namespace Binary64

/-! ## What lies close above a value -/

/-- A number above a representable one, and nearer than half a grid step, rounds to it. -/
theorem roundUnits_eq_of_near {u num den : Nat} (hden : 0 < den) (hu : gridStep u ∣ u)
    (hlow : u * den ≤ num) (hhigh : 2 * num < 2 * (u * den) + den * gridStep u) :
    roundUnits num den = u := by
  have hge : u ≤ roundUnits num den := le_roundUnits hden hu hlow
  -- the next power of two is at least a step away, so the grid is the same at the quotient
  have hstep : gridStep u ≤ 2 ^ (u.log2 + 1) - u := by
    refine Nat.le_of_dvd (Nat.sub_pos_of_lt Nat.lt_log2_self) (Nat.dvd_sub ?_ hu)
    exact Nat.pow_dvd_pow 2 (by omega)
  have hquotient : num / den < 2 ^ (u.log2 + 1) := by
    rw [Nat.div_lt_iff_lt_mul hden]
    have hself : u < 2 ^ (u.log2 + 1) := Nat.lt_log2_self
    calc num < (u + gridStep u) * den := by
          rw [Nat.add_mul, Nat.mul_comm (gridStep u)]
          omega
      _ ≤ 2 ^ (u.log2 + 1) * den := Nat.mul_le_mul_right den (by omega)
  have hgrid : gridStep (num / den) ≤ gridStep u := by
    refine Nat.pow_le_pow_right (by decide) (Nat.sub_le_sub_right ?_ 52)
    by_cases hzero : num / den = 0
    · simp [hzero]
    · exact Nat.le_of_lt_succ ((Nat.log2_lt hzero).mpr hquotient)
  have hless : roundUnits num den < u + gridStep u := by
    have hnear := (roundUnits_near num hden).1
    have hmul := Nat.mul_le_mul_left den hgrid
    refine Nat.lt_of_mul_lt_mul_right (a := den) ?_
    rw [Nat.add_mul, Nat.mul_comm (gridStep u)]
    omega
  have hdvd : gridStep u ∣ roundUnits num den :=
    Nat.dvd_trans (gridStep_dvd_of_le hge) (roundUnits_dvd num den)
  have hdifference : roundUnits num den - u = 0 := by
    refine Nat.eq_zero_of_dvd_of_lt (Nat.dvd_sub hdvd hu) ?_
    omega
  omega

/-- A fraction between a representable value and the middle to the next one rounds to that value. -/
theorem ofFraction_eq_of_near {s : Bool} {u num den : Nat} (hden : 0 < den) (hu : OnGrid u)
    (hlow : u * den ≤ num) (hhigh : 2 * num < 2 * (u * den) + den * gridStep u) :
    ofFraction s num den = ofFraction s u 1 := by
  have hround := roundUnits_eq_of_near hden hu.2 hlow hhigh
  have hself : roundUnits u 1 = u := by
    have hexact := @roundUnits_exact u 1 Nat.one_pos hu.2
    rwa [Nat.mul_one] at hexact
  simp only [ofFraction, hround, hself]

namespace Decimal

/-! ## One grid -/

/-- Scaling by a power of ten leaves no fraction on either side. -/
theorem scaled_eq (u : Nat) (e : Int) :
    scaled u e = (u * decimalDen e, unitsPerOne * 10 ^ e.toNat) := by
  unfold decimalDen
  cases e with
  | ofNat e =>
      have hnone : (-(Int.ofNat e)).toNat = 0 := by
        rw [Int.ofNat_eq_natCast]
        omega
      rw [hnone, Nat.pow_zero, Nat.mul_one]
      rfl
  | negSucc e =>
      have hplaces : (-(Int.negSucc e)).toNat = e + 1 := rfl
      have hnone : (Int.negSucc e).toNat = 0 := rfl
      rw [hplaces, hnone, Nat.pow_zero, Nat.mul_one]
      rfl

/-- A decimal reads back as a number of units. -/
def Reads (u : Nat) (d : Decimal) : Prop :=
  ofDecimal false d.digits d.exponent = ofFraction false u 1

/-- **A point that is found reads back.** -/
theorem onGrid?_reads {u : Nat} {e : Int} {d : Decimal} (h : onGrid? u e = some d) :
    Reads u d := by
  unfold onGrid? at h
  generalize scaled u e = fraction at h
  obtain ⟨num, den⟩ := fraction
  simp only at h
  by_cases hbelow : ofDecimal false (num / den) e = ofFraction false u 1
  · by_cases habove : ofDecimal false (num / den + 1) e = ofFraction false u 1
    · obtain rfl : ⟨divNearest num den, e⟩ = d := by simpa [hbelow, habove] using h
      rcases divNearest_cases num den with ⟨hnearest, _⟩ | ⟨hnearest, _⟩
      · rw [Reads, hnearest]
        exact hbelow
      · rw [Reads, hnearest]
        exact habove
    · obtain rfl : ⟨num / den, e⟩ = d := by simpa [hbelow, habove] using h
      exact hbelow
  · by_cases habove : ofDecimal false (num / den + 1) e = ofFraction false u 1
    · obtain rfl : ⟨num / den + 1, e⟩ = d := by simpa [hbelow, habove] using h
      exact habove
    · simp [hbelow, habove] at h

/-- A grid is finer than half a step of the binary grid. -/
def IsFine (u : Nat) (e : Int) : Prop :=
  2 * (unitsPerOne * 10 ^ e.toNat) < gridStep u * decimalDen e

/-- **A fine grid has a point that reads back**, the one above the value. -/
theorem onGrid?_isSome {u : Nat} {e : Int} (hu : OnGrid u) (hfine : IsFine u e) :
    ∃ d, onGrid? u e = some d := by
  have hpos : 0 < unitsPerOne * 10 ^ e.toNat :=
    Nat.mul_pos unitsPerOne_pos (Nat.pow_pos (by decide))
  have hnum : ∀ n, decimalNum n e = n * (unitsPerOne * 10 ^ e.toNat) := by
    intro n
    rw [decimalNum, Nat.mul_assoc, Nat.mul_comm unitsPerOne]
  unfold IsFine at hfine
  rw [Nat.mul_comm (gridStep u)] at hfine
  unfold onGrid?
  rw [scaled_eq]
  generalize unitsPerOne * 10 ^ e.toNat = grid at hpos hnum hfine ⊢
  have habove : ofDecimal false (u * decimalDen e / grid + 1) e = ofFraction false u 1 := by
    have hbelow : u * decimalDen e / grid * grid ≤ u * decimalDen e := Nat.div_mul_le_self _ _
    have hnext : u * decimalDen e < u * decimalDen e / grid * grid + grid :=
      Nat.lt_div_mul_add hpos
    have hsucc : (u * decimalDen e / grid + 1) * grid =
        u * decimalDen e / grid * grid + grid := Nat.succ_mul _ _
    rw [ofDecimal_eq_ofFraction, hnum]
    apply ofFraction_eq_of_near (decimalDen_pos e) hu
    · omega
    · omega
  by_cases hbelow : ofDecimal false (u * decimalDen e / grid) e = ofFraction false u 1
  · exact ⟨⟨divNearest (u * decimalDen e) grid, e⟩, by simp [hbelow, habove]⟩
  · exact ⟨⟨u * decimalDen e / grid + 1, e⟩, by simp [hbelow, habove]⟩

/-! ## The search -/

/-- A search that comes to a grid with a point ends with a point that reads back. -/
theorem search_reads {u : Nat} (steps : Nat) : ∀ (e : Int) (k : Nat), k < steps →
    (∃ d, onGrid? u (e - k) = some d) → Reads u (search u e steps) := by
  induction steps with
  | zero =>
      intro e k hk
      omega
  | succ steps ih =>
      intro e k hk hfound
      cases hfirst : onGrid? u e with
      | some d =>
          have hd := onGrid?_reads hfirst
          rwa [search, hfirst]
      | none =>
          rw [search, hfirst]
          cases k with
          | zero =>
              obtain ⟨d, hd⟩ := hfound
              have hstart : e - ((0 : Nat) : Int) = e := by omega
              rw [hstart, hfirst] at hd
              cases hd
          | succ k =>
              have hnext : e - ((k + 1 : Nat) : Int) = e - 1 - k := by omega
              rw [hnext] at hfound
              exact ih (e - 1) k (by omega) hfound

/-- Three decimal places are less than ten binary ones. -/
theorem two_pow_mul_ten_pow_lt {a b e : Nat} (h : 3 * a + 10 * e < 3 * b) :
    2 ^ a * 10 ^ e < 2 ^ b := by
  have hten : (10 ^ e) ^ 3 ≤ 2 ^ (10 * e) := by
    rw [← Nat.pow_mul, Nat.mul_comm e, Nat.pow_mul 10, Nat.pow_mul 2]
    exact Nat.pow_le_pow_left (by decide) e
  refine (Nat.pow_lt_pow_iff_left (show 3 ≠ 0 by decide)).mp ?_
  calc (2 ^ a * 10 ^ e) ^ 3 = 2 ^ (a * 3) * (10 ^ e) ^ 3 := by rw [Nat.mul_pow, Nat.pow_mul 2]
    _ ≤ 2 ^ (a * 3) * 2 ^ (10 * e) := Nat.mul_le_mul_left _ hten
    _ = 2 ^ (a * 3 + 10 * e) := (Nat.pow_add 2 _ _).symm
    _ < 2 ^ (b * 3) := Nat.pow_lt_pow_right (by decide) (by omega)
    _ = (2 ^ b) ^ 3 := Nat.pow_mul 2 _ 3

/-- Twenty-eight decimal places are more than ninety-three binary ones. -/
theorem two_pow_lt_mul_ten_pow {a b e : Nat} (h : 28 * a < 28 * b + 93 * e) :
    2 ^ a < 2 ^ b * 10 ^ e := by
  have hten : 2 ^ (93 * e) ≤ (10 ^ e) ^ 28 := by
    rw [← Nat.pow_mul, Nat.mul_comm e, Nat.pow_mul 2, Nat.pow_mul 10]
    exact Nat.pow_le_pow_left (by decide) e
  refine (Nat.pow_lt_pow_iff_left (show 28 ≠ 0 by decide)).mp ?_
  calc (2 ^ a) ^ 28 = 2 ^ (a * 28) := (Nat.pow_mul 2 a 28).symm
    _ < 2 ^ (b * 28 + 93 * e) := Nat.pow_lt_pow_right (by decide) (by omega)
    _ = 2 ^ (b * 28) * 2 ^ (93 * e) := Nat.pow_add 2 _ _
    _ ≤ 2 ^ (b * 28) * (10 ^ e) ^ 28 := Nat.mul_le_mul_left _ hten
    _ = (2 ^ b * 10 ^ e) ^ 28 := by rw [Nat.mul_pow, Nat.pow_mul 2]

/-- No finite value has more than 2099 bits. -/
theorem log2_le_of_onGrid {u : Nat} (hu : OnGrid u) : u.log2 ≤ 2098 := by
  have hmono := log2_mono (Nat.le_of_lt hu.1)
  have hmax : overflowUnits.log2 = 2098 := log2_of_eq_two_pow rfl
  rwa [hmax] at hmono

/-- **The last grid of the search is fine.**  21 places below a power of ten above the value leave
more room than the bounds on the logarithm of two take away. -/
theorem lastGrid_fine {u : Nat} (hu : OnGrid u) : IsFine u (above u - 21) := by
  have hlog := log2_le_of_onGrid hu
  obtain ⟨e, he⟩ : ∃ e, above u - 21 = e := ⟨_, rfl⟩
  rw [he]
  unfold above at he
  have hunits : 2 * unitsPerOne = 2 ^ 1075 :=
    @mul_of_eq_two_pow _ _ _ 1 _ _ rfl rfl rfl rfl
  unfold IsFine decimalDen gridStep
  rw [← Nat.mul_assoc, hunits]
  by_cases hsign : 0 ≤ e
  · have hnone : (-e).toNat = 0 := by omega
    rw [hnone, Nat.pow_zero, Nat.mul_one]
    apply two_pow_mul_ten_pow_lt
    omega
  · have hnone : e.toNat = 0 := by omega
    rw [hnone, Nat.pow_zero, Nat.mul_one]
    apply two_pow_lt_mul_ten_pow
    omega

/-- **The shortest decimal reads back.** -/
theorem shortest_reads {u : Nat} (hu : OnGrid u) : Reads u (shortest u) := by
  unfold shortest
  by_cases hzero : u = 0
  · have hreads : ofDecimal false 0 0 = zeroOf false := if_pos rfl
    rw [if_pos hzero, hzero]
    exact hreads
  · have hlast : above u - ((21 : Nat) : Int) = above u - 21 := rfl
    have hfound := onGrid?_isSome hu (lastGrid_fine hu)
    rw [← hlast] at hfound
    rw [if_neg hzero]
    exact search_reads 22 (above u) 21 (by decide) hfound

end Decimal

/-- **A finite value is its shortest decimal**, with its sign in front. -/
theorem ofDecimal_shortest (s : Bool) (m : Magnitude) :
    ofDecimal s (Decimal.shortest m.units).digits (Decimal.shortest m.units).exponent =
      finite s m := by
  have hreads := Decimal.shortest_reads m.onGrid
  rw [Decimal.Reads, ofFraction_units] at hreads
  cases s with
  | false => exact hreads
  | true =>
      rw [ofDecimal_eq_ofFraction] at hreads ⊢
      have hneg := congrArg Neg.neg hreads
      rw [neg_ofFraction] at hneg
      exact hneg

end Binary64

end Tapeline
