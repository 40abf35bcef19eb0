import Tapeline.Proofs.Measure.Fractions
import Tapeline.Proofs.Routes

/-!
# Degenerate values

A measurement whose outcome is finite says something about each of its values.  A value behind a
sum, a difference or a product, and the first value, is finite.  A divisor is valid and not zero,
but it may be infinite: the quotient by it is zero (`Sound`, `sound_of_isFinite_foldTiers`).

So a zero divisor always shows, and so does a value over a zero denominator, except where that value
is itself a divisor with a numerator that is not zero (`Degenerate`, `display_degenerate`).  What is
divided by such a value is lost without a trace (`evaluate_over_infinite`).
-/

namespace Tapeline

namespace Measure

open Arithmetic (closeSum foldTiers tierOf foldTiers_products foldTiers_sums)

/-- What a finite outcome asks of a value behind an operator. -/
def Sound (op : Operator) (y : Binary64) : Prop :=
  match op with
  | .plus | .minus | .times => y.isFinite = true
  | .dividedBy => y ≠ .nan ∧ y.isZero = false

/-- A finite quotient has a finite dividend and a divisor that is a number and no zero. -/
theorem isFinite_of_quotient {x y : Binary64} (h : (quotient x y).isFinite = true) :
    x.isFinite = true ∧ y ≠ .nan ∧ y.isZero = false := by
  unfold quotient at h
  by_cases hzero : y.isZero = true
  · rw [if_pos hzero] at h
    cases h
  · rw [if_neg hzero] at h
    obtain ⟨hx, hy⟩ := Binary64.isFinite_of_div h
    exact ⟨hx, hy, by simpa using hzero⟩

/-- A finite result has a finite value on the left and a sound one on the right. -/
theorem sound_of_isFinite_measured {op : Operator} {x y : Binary64}
    (h : (measured op x y).isFinite = true) : x.isFinite = true ∧ Sound op y := by
  cases op with
  | plus => exact Binary64.isFinite_of_add h
  | minus => exact Binary64.isFinite_of_sub h
  | times => exact Binary64.isFinite_of_mul h
  | dividedBy => exact isFinite_of_quotient h

/-- For sums a sound operand is a finite one. -/
theorem sound_iff_isFinite {op : Operator} (htier : tierOf op = .sums) (y : Binary64) :
    Sound op y ↔ y.isFinite = true := by
  cases op with
  | plus => exact Iff.rfl
  | minus => exact Iff.rfl
  | times => cases htier
  | dividedBy => cases htier

/-- A finite sum has a finite product behind it and a finite sum before it. -/
theorem isFinite_of_closeSum {pending : Option (Binary64 × Operator)} {product : Binary64}
    (hpending : ∀ sum op, pending = some (sum, op) → tierOf op = .sums)
    (h : (closeSum measured pending product).isFinite = true) :
    product.isFinite = true ∧ ∀ sum op, pending = some (sum, op) → sum.isFinite = true := by
  cases pending with
  | none => exact ⟨h, fun _ _ hnone => nomatch hnone⟩
  | some behind =>
      obtain ⟨sum, op⟩ := behind
      obtain ⟨hsum, hproduct⟩ := sound_of_isFinite_measured h
      refine ⟨(sound_iff_isFinite (hpending sum op rfl) _).mp hproduct, fun sum' op' heq => ?_⟩
      cases heq
      exact hsum

/-- **A finite fold has sound values**, whatever operators stand between them. -/
theorem sound_of_isFinite_foldTiers (links : List (Operator × Binary64)) :
    ∀ (pending : Option (Binary64 × Operator)) (product : Binary64),
      (∀ sum op, pending = some (sum, op) → tierOf op = .sums) →
      (foldTiers measured pending product links).isFinite = true →
      product.isFinite = true ∧ (∀ sum op, pending = some (sum, op) → sum.isFinite = true) ∧
        ∀ link ∈ links, Sound link.1 link.2 := by
  induction links with
  | nil =>
      intro pending product hpending h
      obtain ⟨hproduct, hsum⟩ := isFinite_of_closeSum hpending h
      exact ⟨hproduct, hsum, fun link hlink => nomatch hlink⟩
  | cons link links ih =>
      obtain ⟨op, y⟩ := link
      intro pending product hpending h
      cases htier : tierOf op with
      | products =>
          rw [foldTiers_products _ htier] at h
          obtain ⟨hmeasured, hsum, hlinks⟩ := ih _ _ hpending h
          obtain ⟨hproduct, hy⟩ := sound_of_isFinite_measured hmeasured
          exact ⟨hproduct, hsum, List.forall_mem_cons.mpr ⟨hy, hlinks⟩⟩
      | sums =>
          rw [foldTiers_sums _ htier] at h
          have hnext : ∀ sum o, some (closeSum measured pending product, op) = some (sum, o) →
              tierOf o = .sums := by
            intro sum o heq
            cases heq
            exact htier
          obtain ⟨hy, hclosed, hlinks⟩ := ih _ _ hnext h
          obtain ⟨hproduct, hsum⟩ := isFinite_of_closeSum hpending (hclosed _ _ rfl)
          have hsound : Sound op y := (sound_iff_isFinite htier y).mpr hy
          exact ⟨hproduct, hsum, List.forall_mem_cons.mpr ⟨hsound, hlinks⟩⟩

/-- Tokens with a value that no operator makes finite: a fraction or mixed number over zero, or a
zero divisor.  As a divisor, a fraction over zero is one only if its numerator is zero too. -/
inductive Degenerate (tokens : List Text) : Prop
  | zeroDenominator {before : List Text} {value n d : Text}
      (place : IsValueBehind tokens before value) (fraction : FractionText (inchText value) n d)
      (zero : numberOf d = 0) (divisor : before.getLast? = some ['/'] → numberOf n = 0)
  | zeroDivisor {before : List Text} {value : Text} {x : Binary64}
      (place : IsValueBehind tokens before value) (divisor : before.getLast? = some ['/'])
      (reads : quantity value = .ok x) (zero : x.isZero = true)

/-- A value that reads is finite if it stands first, and else sound behind its operator, where the
fold of the values is finite. -/
theorem sound_of_isValueBehind {first value : Text} {links : List (Operator × Text)}
    {before : List Text} (hplace : IsValueBehind (inTurn first links) before value)
    (h : (foldTiers measured none (valueOf first)
      (links.map fun link => (link.1, valueOf link.2))).isFinite = true) :
    (before = [] ∧ (valueOf value).isFinite = true) ∨
      ∃ op, before.getLast? = some [op.sign] ∧ Sound op (valueOf value) := by
  obtain ⟨hfirst, _, hlinks⟩ :=
    sound_of_isFinite_foldTiers _ none _ (fun _ _ hnone => nomatch hnone) h
  rcases hplace.cases with ⟨hbefore, rfl⟩ | ⟨op, hmem, hlast⟩
  · exact Or.inl ⟨hbefore, hfirst⟩
  · exact Or.inr ⟨op, hlast, hlinks _ (List.mem_map.mpr ⟨_, hmem, rfl⟩)⟩

/-- **Tokens in turn with a degenerate value have no finite value.** -/
theorem Degenerate.isFinite_foldTiers {first : Text} {links : List (Operator × Text)}
    (hdegenerate : Degenerate (inTurn first links))
    (hread : ∀ t ∈ valuesInTurn first links, quantity t = .ok (valueOf t)) :
    (foldTiers measured none (valueOf first)
      (links.map fun link => (link.1, valueOf link.2))).isFinite = false := by
  refine Bool.eq_false_iff.mpr fun hfinite => ?_
  cases hdegenerate with
  | @zeroDenominator before value n d place fraction zero divisor =>
      obtain ⟨hinfinite, hnan⟩ := isFinite_of_zero_denominator (hread value place.mem) fraction zero
      rcases sound_of_isValueBehind place hfinite with ⟨_, hvalue⟩ | ⟨op, hlast, hsound⟩
      · rw [hinfinite] at hvalue
        cases hvalue
      · cases op with
        | dividedBy => exact hsound.1 (hnan (divisor hlast))
        | plus | minus | times => exact absurd hsound (by simp [Sound, hinfinite])
  | @zeroDivisor before value x place divisor reads zero =>
      obtain rfl : valueOf value = x := by
        rw [hread value place.mem] at reads
        exact Except.ok.inj reads
      rcases sound_of_isValueBehind place hfinite with ⟨rfl, _⟩ | ⟨op, hlast, hsound⟩
      · cases divisor
      · obtain rfl : op = .dividedBy := by
          rw [divisor] at hlast
          cases op <;> simp_all [Operator.sign]
        exact Bool.eq_false_iff.mp hsound.2 zero

/-! ## Displays of values that are not finite -/

variable {x : Binary64}

/-- What is infinite has no whole part after any division. -/
theorem floor_infinite_div (s : Bool) (y : Binary64) :
    ∃ fault, (Binary64.infinite s / y).floor = .error fault := by
  cases y with
  | nan => exact ⟨_, rfl⟩
  | infinite t => exact ⟨_, rfl⟩
  | finite t m => exact ⟨_, rfl⟩

/-- Only a finite value is shown in feet and inches. -/
theorem feetInches_not_finite (h : x.isFinite = false) : feetInches x = errorDisplay := by
  cases x with
  | nan => rfl
  | infinite s =>
      obtain ⟨fault, hfloor⟩ := floor_infinite_div false (.ofNat inchesPerFoot)
      simp only [feetInches, Binary64.abs, hfloor]
  | finite s m => cases h

/-- Only a finite value is shown in inches. -/
theorem totalInches_not_finite (h : x.isFinite = false) : totalInches x = errorDisplay := by
  cases x with
  | nan => rfl
  | infinite s => rfl
  | finite s m => cases h

end Measure

open Tapeline.Measure

/-- **Degenerate values show.**  A measurement with a zero divisor, or with a value over a zero
denominator that is not lost as a divisor, has no finite value and no display. -/
theorem display_degenerate {e : Text} {s : Success} (h : evaluate e = .success s)
    (hmeasurement : s.measurement = true) (hdegenerate : Degenerate (tokens e.strip)) :
    s.value.isFinite = false ∧ s.feetInches = errorDisplay ∧ s.totalInches = errorDisplay := by
  obtain ⟨hne, hreduce, hfeet, htotal⟩ := reduce_of_success h hmeasurement
  have hinfinite : s.value.isFinite = false := by
    obtain ⟨first, links, ⟨op, _, hfail⟩ | ⟨_, _, error, hfail⟩ | ⟨htokens, hread, hfold⟩⟩ :=
      reduce_tokens_cases (Text.trimmed_strip e) hne
    · rw [hreduce] at hfail
      cases hfail
    · rw [hreduce] at hfail
      cases hfail
    · rw [hreduce, Except.ok.injEq] at hfold
      rw [htokens] at hdegenerate
      rw [hfold]
      exact hdegenerate.isFinite_foldTiers hread
  exact ⟨hinfinite, by rw [hfeet, feetInches_not_finite hinfinite],
    by rw [htotal, totalInches_not_finite hinfinite]⟩

/-- A mixed number over zero behind feet is multiplied and taken away. -/
theorem display_mixed_over_zero :
    evaluate "7 - 2\x27 1 1/0 * 3".toList =
        .success
          ⟨.infinite true, errorDisplay, errorDisplay, "7 - 2\x27 1 1/0 * 3".toList, true⟩ ∧
      Degenerate (tokens (Text.strip "7 - 2\x27 1 1/0 * 3".toList)) ∧
      (Binary64.infinite true).isFinite = false ∧ errorDisplay = "Error".toList := by
  have hevaluate : evaluate "7 - 2\x27 1 1/0 * 3".toList =
      .success
        ⟨.infinite true, errorDisplay, errorDisplay, "7 - 2\x27 1 1/0 * 3".toList, true⟩ := by
    decide +kernel
  have hplace : IsValueBehind (tokens (Text.strip "7 - 2\x27 1 1/0 * 3".toList))
      ["7".toList, "-".toList] "2\x27 1 1/0".toList :=
    ⟨rfl, ["*".toList, "3".toList], by decide +kernel⟩
  have hfraction : FractionText (inchText "2\x27 1 1/0".toList) "1".toList "0".toList :=
    @FractionText.mixed "1".toList [' '] "1".toList "0".toList (by decide)
      (by simp [isBlank_space]) (by decide) (by decide) (by decide)
  have hdegenerate : Degenerate (tokens (Text.strip "7 - 2\x27 1 1/0 * 3".toList)) :=
    .zeroDenominator hplace hfraction (by decide +kernel) fun hslash => nomatch hslash
  obtain ⟨hvalue, hfeet, _⟩ := display_degenerate hevaluate rfl hdegenerate
  exact ⟨hevaluate, hdegenerate, hvalue, hfeet⟩

/-- **What is divided by a fraction over zero is lost.**  The value of a length divided by three
over zero is zero, and it is shown as one. -/
theorem evaluate_over_infinite :
    IsValueBehind (tokens "5 / 3/0".toList) ["5".toList, "/".toList] "3/0".toList ∧
      FractionText (inchText "3/0".toList) "3".toList "0".toList ∧ numberOf "0".toList = 0 ∧
      evaluate "5 / 3/0".toList =
        .success ⟨.zero, "0\x22".toList, "0 In".toList, "5 / 3/0".toList, true⟩ ∧
      Binary64.zero.isFinite = true := by
  have hfraction : FractionText (inchText "3/0".toList) "3".toList "0".toList :=
    @FractionText.fraction "3".toList "0".toList (by decide) (by decide)
  exact ⟨⟨rfl, [], by decide +kernel⟩, hfraction, by decide +kernel, by decide +kernel,
    by decide +kernel⟩

end Tapeline
