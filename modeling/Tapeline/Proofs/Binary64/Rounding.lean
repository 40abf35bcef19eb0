import Tapeline.Binary64.Basic

/-!
# Rounding to the grid

The laws of `roundUnits` that do not depend on where its grid steps lie.  All of them follow from
two facts: `divNearest` stays between the integers around a quotient, and the grid only gets
coarser upwards.

* `roundUnits_exact` — a representable number is not changed by rounding;
* `le_roundUnits`, `roundUnits_le` — rounding never crosses a representable number;
* `roundUnits_mono` — a greater number is not rounded to a smaller one;
* `roundUnits_near` — rounding moves a number by at most half a grid step.
-/

namespace Tapeline

namespace Binary64

/-- The nearest integer is the quotient or one more, with a remainder of at most or at least a
half. -/
theorem divNearest_cases (num den : Nat) :
    (divNearest num den = num / den ∧ 2 * (num % den) ≤ den) ∨
      (divNearest num den = num / den + 1 ∧ den ≤ 2 * (num % den)) := by
  simp only [divNearest]
  split
  · exact Or.inl ⟨rfl, by omega⟩
  · split
    · exact Or.inr ⟨rfl, by omega⟩
    · split
      · exact Or.inl ⟨rfl, by omega⟩
      · exact Or.inr ⟨rfl, by omega⟩

/-- An integer below a quotient is not above the nearest integer. -/
theorem le_divNearest {num den k : Nat} (hden : 0 < den) (h : k * den ≤ num) :
    k ≤ divNearest num den := by
  have hk : k ≤ num / den := (Nat.le_div_iff_mul_le hden).mpr h
  rcases divNearest_cases num den with ⟨heq, _⟩ | ⟨heq, _⟩ <;> omega

/-- An integer above a quotient is not below the nearest integer. -/
theorem divNearest_le_of_le {num den k : Nat} (hden : 0 < den) (h : num ≤ k * den) :
    divNearest num den ≤ k := by
  rcases Nat.lt_or_eq_of_le h with hlt | heq
  · have hk : num / den < k := (Nat.div_lt_iff_lt_mul hden).mpr hlt
    have hle := divNearest_le num den
    omega
  · rcases divNearest_cases num den with ⟨hd, _⟩ | ⟨_, hrem⟩
    · exact Nat.le_of_eq (by rw [hd, heq, Nat.mul_div_cancel _ hden])
    · rw [heq, Nat.mul_mod_left] at hrem
      omega

/-- The nearest integer grows with the number. -/
theorem divNearest_mono {num num' : Nat} (den : Nat) (h : num ≤ num') :
    divNearest num den ≤ divNearest num' den := by
  rcases Nat.lt_or_eq_of_le (Nat.div_le_div_right (c := den) h) with hlt | heq
  · have hle := divNearest_le num den
    rcases divNearest_cases num' den with ⟨hnearest, _⟩ | ⟨hnearest, _⟩ <;> omega
  · have hrem : num % den ≤ num' % den := by
      have hdiv := Nat.div_add_mod' num den
      have hdiv' := Nat.div_add_mod' num' den
      rw [heq] at hdiv
      omega
    simp only [divNearest, heq]
    repeat' split
    all_goals omega

/-- The nearest integer times the divisor is at most half a divisor away. -/
theorem divNearest_near {den : Nat} (num : Nat) (hden : 0 < den) :
    2 * (divNearest num den * den) ≤ 2 * num + den ∧
      2 * num ≤ 2 * (divNearest num den * den) + den := by
  have hdiv : num / den * den + num % den = num := Nat.div_add_mod' num den
  rcases divNearest_cases num den with ⟨heq, hrem⟩ | ⟨heq, hrem⟩
  · rw [heq]
    omega
  · have hlt := Nat.mod_lt num hden
    have hsucc : (num / den + 1) * den = num / den * den + den := Nat.succ_mul _ _
    rw [heq]
    omega

theorem gridStep_pos (units : Nat) : 0 < gridStep units :=
  Nat.two_pow_pos _

/-- The binary size of a number grows with it. -/
theorem log2_mono {a b : Nat} (h : a ≤ b) : a.log2 ≤ b.log2 := by
  rcases Nat.eq_zero_or_pos a with rfl | ha
  · simp
  · have ha' : a ≠ 0 := Nat.ne_of_gt ha
    have hb' : b ≠ 0 := Nat.ne_of_gt (Nat.lt_of_lt_of_le ha h)
    exact (Nat.le_log2 hb').mpr (Nat.le_trans (Nat.log2_self_le ha') h)

/-- The grid gets coarser upwards. -/
theorem gridStep_dvd_of_le {a b : Nat} (h : a ≤ b) : gridStep a ∣ gridStep b :=
  Nat.pow_dvd_pow 2 (Nat.sub_le_sub_right (log2_mono h) 52)

/-- A power of two above every grid step of a number is on its grid. -/
theorem gridStep_dvd_two_pow {units e : Nat} (h : units.log2 ≤ e + 52) :
    gridStep units ∣ 2 ^ e :=
  Nat.pow_dvd_pow 2 (by omega)

/-- A representable number is a multiple of a power of two, or it has too few bits to be one. -/
theorem two_pow_dvd_or_lt {u : Nat} (hu : gridStep u ∣ u) (e : Nat) :
    2 ^ e ∣ u ∨ u < 2 ^ 52 * 2 ^ e := by
  rcases Nat.lt_or_ge u.log2 (52 + e) with hlt | hge
  · right
    calc u < 2 ^ (u.log2 + 1) := Nat.lt_log2_self
      _ ≤ 2 ^ (52 + e) := Nat.pow_le_pow_right (by decide) hlt
      _ = 2 ^ 52 * 2 ^ e := Nat.pow_add 2 52 e
  · left
    exact Nat.dvd_trans (Nat.pow_dvd_pow 2 (by omega)) hu

/-- Rounding does not go below a representable number. -/
theorem le_roundUnits {num den g : Nat} (hden : 0 < den) (hg : gridStep g ∣ g)
    (h : g * den ≤ num) : g ≤ roundUnits num den := by
  have hq : g ≤ num / den := (Nat.le_div_iff_mul_le hden).mpr h
  -- a multiple of the step between `g` and the quotient
  have between : ∃ k, g ≤ k * gridStep (num / den) ∧ k * gridStep (num / den) ≤ num / den := by
    rcases Nat.eq_zero_or_pos g with rfl | hpos
    · exact ⟨0, by simp, by simp⟩
    · have hne : g ≠ 0 := Nat.ne_of_gt hpos
      have hqne : num / den ≠ 0 := Nat.ne_of_gt (Nat.lt_of_lt_of_le hpos hq)
      rcases Nat.lt_or_eq_of_le (log2_mono hq) with hlt | heq
      · obtain ⟨k, hk⟩ : gridStep (num / den) ∣ 2 ^ (num / den).log2 :=
          Nat.pow_dvd_pow 2 (Nat.sub_le _ _)
        refine ⟨k, ?_, ?_⟩ <;> rw [Nat.mul_comm, ← hk]
        · exact Nat.le_of_lt ((Nat.log2_lt hne).mp hlt)
        · exact Nat.log2_self_le hqne
      · obtain ⟨k, hk⟩ : gridStep (num / den) ∣ g := by
          unfold gridStep at hg ⊢
          rwa [← heq]
        have hmultiple : k * gridStep (num / den) = g := by rw [Nat.mul_comm, ← hk]
        exact ⟨k, Nat.le_of_eq hmultiple.symm, by rwa [hmultiple]⟩
  obtain ⟨k, hgk, hkq⟩ := between
  refine Nat.le_trans hgk (Nat.mul_le_mul_right _ ?_)
  refine le_divNearest (Nat.mul_pos hden (gridStep_pos _)) ?_
  calc k * (den * gridStep (num / den))
      = k * gridStep (num / den) * den := by rw [Nat.mul_comm den, Nat.mul_assoc]
    _ ≤ num / den * den := Nat.mul_le_mul_right _ hkq
    _ ≤ num := Nat.div_mul_le_self _ _

/-- Rounding does not go above a representable number. -/
theorem roundUnits_le {num den g : Nat} (hden : 0 < den) (hg : gridStep g ∣ g)
    (h : num ≤ g * den) : roundUnits num den ≤ g := by
  have hq : num / den ≤ g := Nat.div_le_of_le_mul (by rwa [Nat.mul_comm])
  obtain ⟨k, hk⟩ := Nat.dvd_trans (gridStep_dvd_of_le hq) hg
  have hnear : divNearest num (den * gridStep (num / den)) ≤ k := by
    refine divNearest_le_of_le (Nat.mul_pos hden (gridStep_pos _)) ?_
    calc num ≤ g * den := h
      _ = k * (den * gridStep (num / den)) := by
        conv => lhs; rw [hk]
        rw [Nat.mul_comm den, ← Nat.mul_assoc, Nat.mul_comm k]
  calc roundUnits num den
      ≤ k * gridStep (num / den) := Nat.mul_le_mul_right _ hnear
    _ = g := by conv => rhs; rw [hk, Nat.mul_comm]

/-- **Representable numbers are fixed by rounding.** -/
theorem roundUnits_exact {u den : Nat} (hden : 0 < den) (hu : gridStep u ∣ u) :
    roundUnits (u * den) den = u :=
  Nat.le_antisymm (roundUnits_le hden hu (Nat.le_refl _))
    (le_roundUnits hden hu (Nat.le_refl _))

/-- **Rounding to the grid is monotone.** -/
theorem roundUnits_mono {num num' den : Nat} (hden : 0 < den) (h : num ≤ num') :
    roundUnits num den ≤ roundUnits num' den := by
  have hquotient : num / den ≤ num' / den := Nat.div_le_div_right h
  rcases Nat.lt_or_eq_of_le (log2_mono hquotient) with hlt | heq
  · -- a power of two stands between the numbers, and rounding crosses it on neither side
    have hpower : gridStep (2 ^ (num' / den).log2) ∣ 2 ^ (num' / den).log2 := by
      have hgrid := @gridStep_dvd_mul_pow 1 (num' / den).log2 (by decide)
      rwa [Nat.one_mul] at hgrid
    have hne : num' / den ≠ 0 := by
      intro hzero
      simp [hzero] at hlt
    have hbelow : num < 2 ^ (num' / den).log2 * den := by
      rw [← Nat.div_lt_iff_lt_mul hden]
      exact Nat.lt_of_lt_of_le Nat.lt_log2_self (Nat.pow_le_pow_right (by decide) hlt)
    have habove : 2 ^ (num' / den).log2 * den ≤ num' := by
      rw [← Nat.le_div_iff_mul_le hden]
      exact Nat.log2_self_le hne
    calc roundUnits num den
        ≤ 2 ^ (num' / den).log2 := roundUnits_le hden hpower (Nat.le_of_lt hbelow)
      _ ≤ roundUnits num' den := le_roundUnits hden hpower habove
  · have hstep : gridStep (num / den) = gridStep (num' / den) := by
      unfold gridStep
      rw [heq]
    unfold roundUnits
    rw [hstep]
    exact Nat.mul_le_mul_right _ (divNearest_mono _ h)

/-- Rounding moves a number by at most half a step of the grid around it. -/
theorem roundUnits_near {den : Nat} (num : Nat) (hden : 0 < den) :
    2 * (roundUnits num den * den) ≤ 2 * num + den * gridStep (num / den) ∧
      2 * num ≤ 2 * (roundUnits num den * den) + den * gridStep (num / den) := by
  have hnear := divNearest_near num (Nat.mul_pos hden (gridStep_pos (num / den)))
  have heq : roundUnits num den * den =
      divNearest num (den * gridStep (num / den)) * (den * gridStep (num / den)) := by
    simp only [roundUnits]
    rw [Nat.mul_assoc, Nat.mul_comm (gridStep _)]
  rw [heq]
  exact hnear

end Binary64

end Tapeline
