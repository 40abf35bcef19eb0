import Tapeline.Measure.Reduction
import Tapeline.Proofs.Measure.Cutting
import Tapeline.Proofs.Text.Spacing

/-!
# Measurements in widened texts

No reader of a measurement tells a text from the same text with a space doubled.  What stands
before a space is read alike, and what is left is widened too (`ReadAlike`).  A text that does not
read may carry other words in its error, so the results of the readers agree in their values and
not in their errors (`Agree`).

A text is cut at the same operators, because a cut looks only at the characters on both sides of
it, and a space stays one there (`cutPieces_widened`).  So the tokens are widened one by one, their
values agree (`agree_quantity`), and so do the reductions of two widened texts
(`agree_reduce_tokens`).
-/

namespace Tapeline

/-- Two results are values that are related, or both are errors. -/
inductive Agree {ε α β : Type} (R : α → β → Prop) : Except ε α → Except ε β → Prop
  | ok {a : α} {b : β} (related : R a b) : Agree R (.ok a) (.ok b)
  | error {e e' : ε} : Agree R (.error e) (.error e')

namespace Agree

variable {ε α β γ δ : Type} {R : α → β → Prop} {S : γ → δ → Prop} {x : Except ε α} {y : Except ε β}

/-- Results agree after steps that agree. -/
theorem bind (h : Agree R x y) {f : α → Except ε γ} {g : β → Except ε δ}
    (hnext : ∀ a b, R a b → Agree S (f a) (g b)) : Agree S (x >>= f) (y >>= g) := by
  cases h with
  | ok related => exact hnext _ _ related
  | error => exact .error

/-- Results agree after functions of their values that do. -/
theorem map (h : Agree R x y) {f : α → γ} {g : β → δ} (hnext : ∀ a b, R a b → S (f a) (g b)) :
    Agree S (x.map f) (y.map g) := by
  cases h with
  | ok related => exact .ok (hnext _ _ related)
  | error => exact .error

/-- Results agree whatever is made of their errors. -/
theorem mapError {ε' : Type} (h : Agree R x y) (f g : ε → ε') :
    Agree R (x.mapError f) (y.mapError g) := by
  cases h with
  | ok related => exact .ok related
  | error => exact .error

/-- Results that agree up to equality have equal values. -/
theorem toOption_eq {x y : Except ε α} (h : Agree Eq x y) : x.toOption = y.toOption := by
  cases h with
  | ok related => rw [related]
  | error => rfl

end Agree

/-- The same is read, and what is left is widened. -/
def ReadAlike {α : Type} (x y : α × Text) : Prop :=
  x.1 = y.1 ∧ Widened x.2 y.2

namespace ReadAlike

variable {α : Type} {x y : α × Text}

theorem refl (x : α × Text) : ReadAlike x x :=
  ⟨rfl, .same x.2⟩

/-- Alike readings have one value and rests that differ in spaces only. -/
theorem parts (h : ReadAlike x y) :
    ∃ a rest rest', x = (a, rest) ∧ y = (a, rest') ∧ Widened rest rest' := by
  obtain ⟨a, rest⟩ := x
  obtain ⟨b, rest'⟩ := y
  obtain ⟨rfl, hrest⟩ := h
  exact ⟨a, rest, rest', rfl, rfl, hrest⟩

end ReadAlike

namespace Widened

variable {t t' : Text}

/-! ## Numbers -/

/-- Digits do not see later spaces. -/
theorem takeDigits (h : Widened t t') :
    ReadAlike (Tapeline.takeDigits t) (Tapeline.takeDigits t') := by
  induction h with
  | same t => exact .refl _
  | double t => exact ⟨rfl, double t⟩
  | cons c h ih =>
      unfold Tapeline.takeDigits
      cases decimalDigit? c with
      | some d => exact ⟨congrArg (d :: ·) ih.1, ih.2⟩
      | none => exact ⟨rfl, h.cons c⟩

/-- A sign does not see later spaces. -/
theorem takeSign (h : Widened t t') : ReadAlike (Tapeline.takeSign t) (Tapeline.takeSign t') := by
  cases h with
  | same t => exact .refl _
  | double t => exact ⟨rfl, double t⟩
  | @cons c t t' h =>
      by_cases hminus : c = '-'
      · rw [hminus]
        exact ⟨rfl, h⟩
      by_cases hplus : c = '+'
      · rw [hplus]
        exact ⟨rfl, h⟩
      have hunsigned : ∀ u, Tapeline.takeSign (c :: u) = (false, c :: u) := by
        intro u
        simp [Tapeline.takeSign, hminus, hplus]
      rw [hunsigned, hunsigned]
      exact ⟨rfl, h.cons c⟩

/-- An exponent does not see later spaces. -/
theorem takeExponent? (h : Widened t t') :
    Option.Rel ReadAlike (Numeral.takeExponent? t) (Numeral.takeExponent? t') := by
  cases h with
  | same t => exact rel_refl .refl _
  | double t => exact .none
  | @cons c t t' h =>
      simp only [Numeral.takeExponent?]
      split
      · obtain ⟨negative, unsigned, unsigned', hsign, hsign', hunsigned⟩ := h.takeSign.parts
        obtain ⟨digits, after, after', hdigits, hdigits', hafter⟩ := hunsigned.takeDigits.parts
        simp only [hsign, hsign', hdigits, hdigits']
        cases digits with
        | nil => exact .none
        | cons d digits => exact .some ⟨rfl, hafter⟩
      · exact .none

/-- A mantissa does not see later spaces. -/
theorem takeMantissa? (h : Widened t t') :
    Option.Rel (fun x y => x.1 = y.1 ∧ ReadAlike x.2 y.2) (Numeral.takeMantissa? t)
      (Numeral.takeMantissa? t') := by
  obtain ⟨whole, rest, rest', hwhole, hwhole', hrest⟩ := h.takeDigits.parts
  by_cases hpoint : rest.head? = some '.'
  · obtain ⟨behind, rfl⟩ : ∃ behind, rest = '.' :: behind := List.head?_eq_some_iff.mp hpoint
    obtain ⟨behind', rfl, hbehind⟩ := hrest.uncons (by decide)
    simp only [Numeral.takeMantissa?, hwhole, hwhole']
    cases whole with
    | nil =>
        obtain ⟨places, after, after', hplaces, hplaces', hafter⟩ := hbehind.takeDigits.parts
        simp only [hplaces, hplaces']
        cases places with
        | nil => exact .none
        | cons d places => exact .some ⟨rfl, rfl, hafter⟩
    | cons d whole => exact .some ⟨rfl, hbehind.takeDigits⟩
  · rw [takeMantissa?_of_no_point hwhole hpoint,
      takeMantissa?_of_no_point hwhole' (hrest.head?_eq ▸ hpoint)]
    split
    · exact .none
    · exact .some ⟨rfl, rfl, hrest⟩

/-- A numeral does not see later spaces. -/
theorem takeNumeral? (h : Widened t t') :
    Option.Rel ReadAlike (Numeral.take? t) (Numeral.take? t') := by
  have hmantissa := h.takeMantissa?
  unfold Numeral.take?
  generalize Numeral.takeMantissa? t = x, Numeral.takeMantissa? t' = y at hmantissa ⊢
  cases hmantissa with
  | none => exact .none
  | @some x y hread =>
      obtain ⟨whole, places, rest⟩ := x
      obtain ⟨whole', places', rest'⟩ := y
      obtain ⟨rfl, rfl, hrest⟩ := hread
      have hexponent := hrest.takeExponent?
      simp only [Option.map_some]
      generalize Numeral.takeExponent? rest = x, Numeral.takeExponent? rest' = y at hexponent ⊢
      cases hexponent with
      | none => exact .some ⟨rfl, hrest⟩
      | some hread =>
          obtain ⟨exponent, after, after', rfl, rfl, hafter⟩ := hread.parts
          exact .some ⟨rfl, hafter⟩

/-- Widened texts start with the same number. -/
theorem agree_leadingNumber (h : Widened t t') :
    Agree Eq (leadingNumber t) (leadingNumber t') := by
  obtain ⟨negative, unsigned, unsigned', hsign, hsign', hunsigned⟩ :=
    (h.dropWhile isBlank).takeSign.parts
  have hnumeral := hunsigned.takeNumeral?
  simp only [leadingNumber, hsign, hsign', (h.takeWhile isBlank).all_eq]
  generalize Numeral.take? unsigned = x, Numeral.take? unsigned' = y at hnumeral ⊢
  cases hnumeral with
  | none => exact .ok rfl
  | @some x y hread =>
      obtain ⟨numeral, rest, rest', rfl, rfl, _⟩ := hread.parts
      dsimp only
      split
      · exact .ok rfl
      · exact .error

/-! ## Quantities -/

/-- A denominator does not see spaces. -/
theorem overDigits?_eq (h : Widened t t') : Measure.overDigits? t = Measure.overDigits? t' := by
  have hnone : ∀ {u : Text}, u.head? ≠ some '/' → Measure.overDigits? u = none := by
    intro u hu
    unfold Measure.overDigits?
    split <;> simp_all
  by_cases hslash : t.head? = some '/'
  · obtain ⟨behind, rfl⟩ : ∃ behind, t = '/' :: behind := List.head?_eq_some_iff.mp hslash
    obtain ⟨behind', rfl, hbehind⟩ := h.uncons (by decide)
    obtain ⟨digits, after, after', hdigits, hdigits', hafter⟩ := hbehind.takeDigits.parts
    simp only [Measure.overDigits?, hdigits, hdigits']
    cases digits with
    | nil => rfl
    | cons d digits => cases hafter <;> rfl
  · rw [hnone hslash, hnone (h.head?_eq ▸ hslash)]

/-- The layout of inches does not see how many spaces there are. -/
theorem read?_eq (h : Widened t t') : Measure.InchText.read? t = Measure.InchText.read? t' := by
  obtain ⟨first, rest, rest', hfirst, hfirst', hrest⟩ := h.takeDigits.parts
  obtain ⟨second, after, after', hsecond, hsecond', hafter⟩ :=
    (hrest.dropWhile isBlank).takeDigits.parts
  simp only [Measure.InchText.read?, hfirst, hfirst']
  cases first with
  | nil => rfl
  | cons d first =>
      simp only [hrest.overDigits?_eq, hsecond, hsecond']
      cases second with
      | nil => cases hrest <;> rfl
      | cons n second =>
          simp only [hafter.overDigits?_eq]
          cases hrest <;> rfl

end Widened

namespace Measure

variable {t t' : Text}

/-- A leading number does not see how many spaces there are. -/
theorem agree_leadingOrZero (h : Widened t t') : Agree Eq (leadingOrZero t) (leadingOrZero t') :=
  h.agree_leadingNumber.map fun _ _ heq => by rw [heq]

/-- Inches do not see how many spaces there are. -/
theorem agree_inches (h : Widened t t') : Agree Eq (inches t) (inches t') := by
  simp only [inches, h.read?_eq]
  split
  · exact .ok rfl
  · exact agree_leadingOrZero h

/-- Feet are split off in front of any number of spaces. -/
theorem agree_splitFeet (h : Widened t t') : Agree ReadAlike (splitFeet t) (splitFeet t') := by
  have hsplit := h.splitAtFirst (c := '\x27') (by decide)
  unfold splitFeet
  generalize Text.splitAtFirst '\x27' t = x, Text.splitAtFirst '\x27' t' = y at hsplit ⊢
  cases hsplit with
  | none => exact .ok ⟨rfl, h⟩
  | some hparts => exact (agree_leadingOrZero hparts.1).map fun _ _ heq => ⟨heq, hparts.2⟩

/-- **Widened texts show the same length.** -/
theorem agree_quantity (h : Widened t t') : Agree Eq (quantity t) (quantity t') := by
  refine (agree_splitFeet (h.strip.filter _)).bind fun x y hread => ?_
  obtain ⟨feet, rest, rest', rfl, rfl, hrest⟩ := hread.parts
  simp only [hrest.strip.isEmpty_eq]
  split
  · exact .ok rfl
  · refine (agree_inches hrest.strip).bind fun _ _ heq => ?_
    exact .ok (by rw [heq])

/-! ## Tokens -/

/-- **A widened text is cut at the same operators**, and its pieces are widened. -/
theorem cutPieces_widened (h : Widened t t') : ∀ (prev : Option Char) (seen : Bool),
    Widened (cutPieces prev seen t).1 (cutPieces prev seen t').1 ∧
      List.Forall₂ ReadAlike (cutPieces prev seen t).2 (cutPieces prev seen t').2 := by
  induction h with
  | same t => exact fun prev seen => ⟨.same _, List.forall₂_same.mpr fun _ _ => .refl _⟩
  | double t =>
      intro prev seen
      -- neither of the two spaces is a cut, and both leave the same character behind them
      have hcut : ∀ prev next, isCut prev next seen ' ' = false := fun _ _ => rfl
      have hseen : (seen || !isBlank ' ') = seen := by simp [isBlank_space]
      rw [cutPieces_of_not_cut (hcut _ _), cutPieces_of_not_cut (hcut _ _), hseen,
        cutPieces_of_not_cut (hcut _ _), hseen]
      exact ⟨.double _, List.forall₂_same.mpr fun _ _ => .refl _⟩
  | @cons c t t' h ih =>
      intro prev seen
      cases hcut : isCut prev t.head? seen c with
      | true =>
          rw [cutPieces_of_cut hcut, cutPieces_of_cut (h.head?_eq ▸ hcut)]
          obtain ⟨hpiece, hlinks⟩ := ih (some c) false
          exact ⟨.same [], .cons ⟨rfl, hpiece⟩ hlinks⟩
      | false =>
          rw [cutPieces_of_not_cut hcut, cutPieces_of_not_cut (h.head?_eq ▸ hcut)]
          obtain ⟨hpiece, hlinks⟩ := ih (some c) (seen || !isBlank c)
          exact ⟨hpiece.cons c, hlinks⟩

/-- **The tokens of a widened text are widened**, one by one. -/
theorem tokens_widened (h : Widened t t') : List.Forall₂ Widened (tokens t) (tokens t') := by
  obtain ⟨hpiece, hlinks⟩ := cutPieces_widened h none false
  have hsign : ∀ {x y : Char × Text}, ReadAlike x y →
      List.Forall₂ Widened [[Operator.plainSign x.1], x.2.strip]
        [[Operator.plainSign y.1], y.2.strip] := by
    intro x y hlink
    rw [hlink.1]
    exact .cons (.same _) (.cons hlink.2.strip .nil)
  have hkept : ∀ {x y : Text}, Widened x y → ((!x.isEmpty) = true ↔ (!y.isEmpty) = true) := by
    intro x y hwidened
    rw [hwidened.isEmpty_eq]
  have hall := List.Forall₂.cons hpiece.strip (List.rel_flatMap hlinks fun _ _ hlink => hsign hlink)
  exact List.rel_filter (fun _ _ hwidened => hkept hwidened) hall

/-! ## Reductions -/

/-- Spaces make no operator and break none. -/
theorem operator?_eq (h : Widened t t') : operator? t = operator? t' := by
  cases h with
  | same t => rfl
  | double t => cases t <;> rfl
  | cons c h => cases h <;> rfl

/-- Links with the same operators, and values that are related. -/
def LinkAlike {α : Type} (R : α → α → Prop) (x y : Text × α) : Prop :=
  operator? x.1 = operator? y.1 ∧ R x.2 y.2

/-- Tokens are paired the same way. -/
theorem agree_pairLinks : ∀ {ts ts' : List Text}, List.Forall₂ Widened ts ts' →
    Agree (List.Forall₂ (LinkAlike Widened)) (pairLinks ts) (pairLinks ts')
  | _, _, .nil => .ok .nil
  | _, _, .cons _ .nil => .error
  | _, _, .cons hop (.cons hvalue hrest) =>
    (agree_pairLinks hrest).bind fun _ _ hlinks => .ok (.cons ⟨operator?_eq hop, hvalue⟩ hlinks)

/-- A value does not see how many spaces there are. -/
theorem agree_readValue (h : Widened t t') : Agree Eq (readValue t) (readValue t') :=
  (agree_quantity h).mapError _ _

/-- Links do not see how many spaces there are, value by value. -/
theorem agree_readLinks {links links' : List (Text × Text)}
    (h : List.Forall₂ (LinkAlike Widened) links links') :
    Agree (List.Forall₂ (LinkAlike Eq)) (readLinks links) (readLinks links') := by
  induction h with
  | nil => exact .ok .nil
  | cons hlink _ ih =>
      refine (agree_readValue hlink.2).bind fun _ _ hvalue => ?_
      exact ih.bind fun _ _ hlinks => .ok (.cons ⟨hlink.1, hvalue⟩ hlinks)

variable {links links' : List (Text × Binary64)}

/-- Products are taken off the same way. -/
theorem takeProducts_alike (h : List.Forall₂ (LinkAlike Eq) links links') : ∀ term : Binary64,
    (takeProducts term links).1 = (takeProducts term links').1 ∧
      List.Forall₂ (LinkAlike Eq) (takeProducts term links).2 (takeProducts term links').2 := by
  induction h with
  | nil => exact fun term => ⟨rfl, .nil⟩
  | @cons link link' _ _ hlink _ ih =>
      intro term
      obtain ⟨op, value⟩ := link
      obtain ⟨op', value'⟩ := link'
      obtain ⟨hop, rfl⟩ : operator? op = operator? op' ∧ value = value' := hlink
      simp only [takeProducts, hop]
      split
      · exact ih _
      · exact ih _
      · obtain ⟨hterm, hterms⟩ := ih value
        exact ⟨rfl, .cons ⟨hop, hterm⟩ hterms⟩

/-- Sums are taken off the same way. -/
theorem agree_takeSums (h : List.Forall₂ (LinkAlike Eq) links links') : ∀ sum : Binary64,
    Agree Eq (takeSums sum links) (takeSums sum links') := by
  induction h with
  | nil => exact fun sum => .ok rfl
  | @cons link link' _ _ hlink _ ih =>
      intro sum
      obtain ⟨op, value⟩ := link
      obtain ⟨op', value'⟩ := link'
      obtain ⟨hop, rfl⟩ : operator? op = operator? op' ∧ value = value' := hlink
      simp only [takeSums, hop]
      split
      · exact ih _
      · exact ih _
      · exact .error

/-- Tokens that are widened one by one reduce to the same value. -/
theorem agree_reduce {ts ts' : List Text} (h : List.Forall₂ Widened ts ts') :
    Agree Eq (reduce ts) (reduce ts') := by
  cases h with
  | nil => exact .error
  | cons hfirst hrest =>
      refine (agree_pairLinks hrest).bind fun _ _ hlinks => ?_
      refine (agree_readValue hfirst).bind fun term _ hterm => ?_
      refine (agree_readLinks hlinks).bind fun _ _ hlinks => ?_
      obtain ⟨hproduct, hterms⟩ := takeProducts_alike hlinks term
      rw [← hterm]
      dsimp only
      rw [hproduct]
      exact agree_takeSums hterms _

/-- **Widened texts reduce to the same value.** -/
theorem agree_reduce_tokens (h : Widened t t') :
    Agree Eq (reduce (tokens t)) (reduce (tokens t')) :=
  agree_reduce (tokens_widened h)

end Measure

end Tapeline
