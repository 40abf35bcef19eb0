import Tapeline.Proofs.Measure.RoundTrip
import Tapeline.Proofs.Routes

/-!
# Displays compose

Displays, with or without a factor, are joined by plus and minus signs (`composed`).  Nothing in a
display is mistaken for an operator (`isValue_layout`), so the text is cut into just the displays
and factors it was made of, and `evaluate` takes it as a measurement.  As long as all numbers on the
way stay below 2 ^ 53, every product and every sum is exact, and the value is the signed sum of the
products in sixteenths (`evaluate_composed`).
-/

namespace Tapeline

namespace Measure

open Binary64 (ofSixteenths)
open Arithmetic (foldTiers closeSum foldTiers_products foldTiers_sums closeSum_none closeSum_some)

/-- The sign between two terms. -/
inductive SumSign where
  | plus
  | minus
deriving DecidableEq, Repr

/-- The sign before a factor, plain or as a glyph. -/
inductive TimesSign where
  | star
  | cross
deriving DecidableEq, Repr

def SumSign.glyph : SumSign → Glyph
  | plus => .ofOperator .plus
  | minus => .ofOperator .minus

/-- The sum or difference of two numbers. -/
def SumSign.apply (a b : Int) : SumSign → Int
  | plus => a + b
  | minus => a - b

def TimesSign.glyph : TimesSign → Glyph
  | star => .ofOperator .times
  | cross => ⟨'×', .times, rfl⟩

/-- A factor in decimal digits, behind its sign. -/
structure Factor where
  sign : TimesSign
  digits : Text
  allDigits : AllDigits digits
  ne_nil : digits ≠ []

/-- The natural number of a factor. -/
def Factor.number (f : Factor) : Nat :=
  numberOf f.digits

/-- A factor as a number is written. -/
def Factor.ofNat (sign : TimesSign) (n : Nat) : Factor :=
  ⟨sign, Text.ofNat n, Text.allDigits_ofNat n, Text.ofNat_ne_nil n⟩

/-- A number of sixteenths, and a factor if there is one. -/
structure Term where
  sixteenths : Nat
  factor : Option Factor

namespace Term

/-- The number a term is multiplied by. -/
def number (t : Term) : Nat :=
  (t.factor.map Factor.number).getD 1

/-- The sixteenths of a term with its factor. -/
def product (t : Term) : Nat :=
  t.sixteenths * t.number

/-- A term as it is written: the display of its sixteenths, and the factor behind its sign. -/
def text (t : Term) : Text :=
  feetInches (ofSixteenths t.sixteenths) ++
    match t.factor with
    | none => []
    | some f => ' ' :: f.sign.glyph.char :: ' ' :: f.digits

/-- Its sixteenths, its factor and their product are below 2 ^ 53. -/
def Bounded (t : Term) : Prop :=
  t.sixteenths < 2 ^ 53 ∧ t.number < 2 ^ 53 ∧ t.product < 2 ^ 53

instance (t : Term) : Decidable t.Bounded :=
  inferInstanceAs (Decidable (_ ∧ _ ∧ _))

end Term

/-- A first term, and further terms each behind its sign. -/
def composed (first : Term) (rest : List (SumSign × Term)) : Text :=
  first.text ++ rest.flatMap fun link => ' ' :: link.1.glyph.char :: ' ' :: link.2.text

/-- The signed sum of the products behind a sum. -/
def signedSum (sum : Int) : List (SumSign × Term) → Int
  | [] => sum
  | (sign, t) :: rest => signedSum (sign.apply sum t.product) rest

/-- The sums after each term, from the given one on. -/
def partialSums (sum : Int) : List (SumSign × Term) → List Int
  | [] => [sum]
  | (sign, t) :: rest => sum :: partialSums (sign.apply sum t.product) rest

/-- An operator with the value behind it, as text and as number. -/
structure Piece where
  glyph : Glyph
  text : Text
  value : Binary64

def Term.factorPieces (t : Term) : List Piece :=
  match t.factor with
  | none => []
  | some f => [⟨f.sign.glyph, f.digits, Binary64.ofNat f.number⟩]

/-- A sign with a term behind it. -/
def linkPieces (link : SumSign × Term) : List Piece :=
  ⟨link.1.glyph, display link.2.sixteenths, ofSixteenths link.2.sixteenths⟩ :: link.2.factorPieces

/-- Everything behind the first display. -/
def pieces (first : Term) (rest : List (SumSign × Term)) : List Piece :=
  first.factorPieces ++ rest.flatMap linkPieces

/-- A term is written as its display and its factors behind their glyphs. -/
theorem Term.text_eq {t : Term} (h : t.Bounded) :
    t.text = joined (display t.sixteenths)
      (t.factorPieces.map fun p => (p.glyph.char, p.text)) := by
  unfold Term.text Term.factorPieces
  rw [feetInches_ofSixteenths h.1]
  cases t.factor with
  | none => rfl
  | some factor => simp [joined]

/-- The terms of a composed text are joined displays and factors. -/
theorem composed_eq {first : Term} {rest : List (SumSign × Term)} (hfirst : first.Bounded)
    (hrest : ∀ link ∈ rest, link.2.Bounded) :
    composed first rest =
      joined (display first.sixteenths)
        ((pieces first rest).map fun p => (p.glyph.char, p.text)) := by
  have hlinks : ∀ link ∈ rest, ' ' :: link.1.glyph.char :: ' ' :: link.2.text =
      (linkPieces link).flatMap fun p => ' ' :: p.glyph.char :: ' ' :: p.text := by
    intro link hlink
    rw [Term.text_eq (hrest link hlink)]
    simp [joined, linkPieces, List.flatMap_map]
  unfold composed pieces
  rw [Term.text_eq hfirst, List.flatMap_def, List.map_congr_left hlinks, ← List.flatMap_def]
  simp [joined, List.flatMap_map, List.flatMap_append, List.flatMap_assoc]

/-- Every factor is read as its value. -/
theorem reads_factorPieces {t : Term} : ∀ p ∈ t.factorPieces, Reads p.text p.value := by
  intro p hp
  unfold Term.factorPieces at hp
  split at hp
  · cases hp
  · rename_i f _
    rw [List.mem_singleton.mp hp]
    dsimp only
    exact reads_digits f.allDigits f.ne_nil

/-- Every piece of a composed expression is read as its value. -/
theorem reads_pieces {first : Term} {rest : List (SumSign × Term)}
    (hrest : ∀ link ∈ rest, link.2.Bounded) :
    ∀ p ∈ pieces first rest, Reads p.text p.value := by
  intro p hp
  rcases List.mem_append.mp hp with hp | hp
  · exact reads_factorPieces p hp
  · obtain ⟨link, hlink, hp⟩ := List.mem_flatMap.mp hp
    rcases List.mem_cons.mp hp with heq | hp
    · rw [heq]
      dsimp only
      exact reads_display (hrest link hlink).1
    · exact reads_factorPieces p hp

/-- A factor multiplies exactly. -/
theorem foldTiers_factorPieces {t : Term} (h : t.Bounded)
    (pending : Option (Binary64 × Operator)) (more : List (Operator × Binary64)) :
    foldTiers measured pending (ofSixteenths t.sixteenths)
        ((t.factorPieces.map fun p => (p.glyph.op, p.value)) ++ more) =
      foldTiers measured pending (ofSixteenths (t.product : Nat)) more := by
  obtain ⟨hsixteenths, hnumber, hproduct⟩ := h
  unfold Term.product Term.number at *
  unfold Term.factorPieces
  cases hfactor : t.factor with
  | none => simp
  | some f =>
      simp only [hfactor, Option.map_some, Option.getD_some] at hnumber hproduct ⊢
      have hop : f.sign.glyph.op = .times := by cases f.sign <;> rfl
      have hmul : measured .times (ofSixteenths t.sixteenths) (Binary64.ofNat f.number) =
          ofSixteenths ((t.sixteenths * f.number : Nat) : Int) :=
        Binary64.ofSixteenths_mul_ofNat hsixteenths hnumber hproduct
      simp only [List.map_cons, List.map_nil, List.cons_append, List.nil_append, hop]
      rw [foldTiers_products _ rfl, hmul]

/-- The sum at hand is a partial sum. -/
theorem partialSums_self (sum : Int) (rest : List (SumSign × Term)) :
    sum ∈ partialSums sum rest := by
  cases rest with
  | nil => exact List.mem_cons_self
  | cons link rest => exact List.mem_cons_self

/-- The whole sum is a partial sum. -/
theorem signedSum_mem_partialSums (sum : Int) (rest : List (SumSign × Term)) :
    signedSum sum rest ∈ partialSums sum rest := by
  induction rest generalizing sum with
  | nil => exact List.mem_cons_self
  | cons link rest ih => exact List.mem_cons_of_mem _ (ih _)

/-- The fold over the terms behind a sum adds and subtracts them exactly. -/
theorem foldTiers_linkPieces {rest : List (SumSign × Term)}
    (hrest : ∀ link ∈ rest, link.2.Bounded) :
    ∀ {pending : Option (Binary64 × Operator)} {product : Binary64} {sum : Int},
      (∀ s ∈ partialSums sum rest, s.natAbs < 2 ^ 53) →
      closeSum measured pending product = ofSixteenths sum →
      foldTiers measured pending product
          ((rest.flatMap linkPieces).map fun p => (p.glyph.op, p.value)) =
        ofSixteenths (signedSum sum rest) := by
  induction rest with
  | nil =>
      intro pending product sum _ hclose
      exact hclose
  | cons link rest ih =>
      intro pending product sum hsums hclose
      obtain ⟨sign, t⟩ := link
      have ht := hrest (sign, t) List.mem_cons_self
      have hsum := hsums sum List.mem_cons_self
      have hnext := hsums _ (List.mem_cons_of_mem _ (partialSums_self _ rest))
      have hadded : measured sign.glyph.op (ofSixteenths sum) (ofSixteenths (t.product : Nat)) =
          ofSixteenths (sign.apply sum t.product) := by
        cases sign with
        | plus => exact Binary64.ofSixteenths_add hsum ht.2.2 hnext
        | minus => exact Binary64.ofSixteenths_sub hsum ht.2.2 hnext
      have htier : Arithmetic.tierOf sign.glyph.op = .sums := by cases sign <;> rfl
      simp only [List.flatMap_cons, linkPieces, List.cons_append, List.map_cons, List.map_append]
      rw [foldTiers_sums _ htier, foldTiers_factorPieces ht]
      refine ih (fun l hl => hrest l (List.mem_cons_of_mem _ hl)) ?_ ?_
      · exact fun s hs => hsums s (List.mem_cons_of_mem _ hs)
      · rw [closeSum_some, hclose, hadded]

/-- **The reduction of composed displays is their exact signed sum.** -/
theorem reduce_composed {first : Term} {rest : List (SumSign × Term)} (hfirst : first.Bounded)
    (hrest : ∀ link ∈ rest, link.2.Bounded)
    (hsums : ∀ s ∈ partialSums first.product rest, s.natAbs < 2 ^ 53) :
    reduce (tokens (composed first rest)) =
      .ok (ofSixteenths (signedSum first.product rest)) := by
  have hreduce := reduce_joined (fun p : Piece => p.glyph) (@reads_pieces first rest hrest)
    (reads_display hfirst.1)
  have hnone : closeSum measured none (ofSixteenths (first.product : Nat)) =
      ofSixteenths (first.product : Nat) := closeSum_none measured _
  rw [composed_eq hfirst hrest, hreduce, pieces, List.map_append, foldTiers_factorPieces hfirst,
    foldTiers_linkPieces hrest hsums hnone]

/-- Neither a sign nor a value behind it has a percent sign. -/
theorem percent_not_mem_pieces (first : Term) (rest : List (SumSign × Term)) :
    ∀ p ∈ pieces first rest, '%' ≠ p.glyph.char ∧ '%' ∉ p.text := by
  have hglyph : ∀ g : Glyph, '%' ≠ g.char := by
    intro g heq
    have hsome := g.isSome_ofChar?
    rw [← heq] at hsome
    exact absurd hsome (by decide)
  have hfactor : ∀ t : Term, ∀ p ∈ t.factorPieces, '%' ∉ p.text := by
    intro t p hp
    unfold Term.factorPieces at hp
    split at hp
    · cases hp
    · rename_i f _
      rw [List.mem_singleton.mp hp]
      intro hmem
      exact absurd (f.allDigits '%' hmem) (by decide)
  intro p hp
  refine ⟨hglyph p.glyph, ?_⟩
  rcases List.mem_append.mp hp with hp | hp
  · exact hfactor first p hp
  · obtain ⟨link, _, hp⟩ := List.mem_flatMap.mp hp
    rcases List.mem_cons.mp hp with heq | hp
    · rw [heq]
      dsimp only
      exact percent_not_mem_display _
    · exact hfactor link.2 p hp

/-- **Displays compose exactly.**  If all sixteenths, factors, products and partial sums are below
2 ^ 53, the evaluation of composed displays succeeds as a measurement, and its value is the signed
sum of the products in sixteenths. -/
theorem evaluate_composed (first : Term) (rest : List (SumSign × Term)) (hfirst : first.Bounded)
    (hrest : ∀ link ∈ rest, link.2.Bounded)
    (hsums : ∀ s ∈ partialSums first.product rest, s.natAbs < 2 ^ 53) :
    (ofSixteenths (signedSum first.product rest)).IsFraction (signedSum first.product rest) 16 ∧
      evaluate (composed first rest) =
        .success
          { value := ofSixteenths (signedSum first.product rest)
            feetInches := feetInches (ofSixteenths (signedSum first.product rest))
            totalInches := totalInches (ofSixteenths (signedSum first.product rest))
            expression := composed first rest
            measurement := true } := by
  have hreads : ∀ link ∈ (pieces first rest).map fun p => (p.glyph.char, p.text),
      '%' ≠ link.1 ∧ '%' ∉ link.2 ∧ IsValue link.2 := by
    intro link hlink
    obtain ⟨p, hp, rfl⟩ := List.mem_map.mp hlink
    obtain ⟨hchar, htext⟩ := percent_not_mem_pieces first rest p hp
    exact ⟨hchar, htext, (reads_pieces hrest p hp).isValue⟩
  have hdisplay := (reads_display hfirst.1).isValue
  have htext := composed_eq hfirst hrest
  have htrimmed : (composed first rest).Trimmed := by
    rw [htext]
    exact trimmed_joined _ hdisplay fun link hlink => (hreads link hlink).2.2
  have hpercent : '%' ∉ composed first rest := by
    rw [htext]
    exact not_mem_joined (by decide) (percent_not_mem_display _)
      fun link hlink => ⟨(hreads link hlink).1, (hreads link hlink).2.1⟩
  have hmarkers : hasUnitMarkers (composed first rest) = true := by
    have hmark : '\x22' ∈ composed first rest := by
      rw [htext]
      exact mem_joined_of_mem (inchMark_mem_display _) _
    have hany : (composed first rest).any (fun c => c = '\x27' || c = '\x22') = true :=
      List.any_eq_true.mpr ⟨'\x22', hmark, rfl⟩
    rw [hasUnitMarkers, hany, Bool.true_or]
  have hlast : (signedSum first.product rest).natAbs < 2 ^ 53 :=
    hsums _ (signedSum_mem_partialSums _ rest)
  refine ⟨Binary64.isFraction_ofSixteenths hlast, ?_⟩
  exact evaluate_measurement htrimmed hpercent hmarkers (reduce_composed hfirst hrest hsums)

/-- Three boards less one saw cut. -/
theorem evaluate_three_boards :
    (ofSixteenths 4551).IsFraction 4551 16 ∧
      composed ⟨1523, some (.ofNat .cross 3)⟩ [(.minus, ⟨18, none⟩)] =
        "7\x27 11 3/16\x22 × 3 - 1 1/8\x22".toList ∧
      evaluate (composed ⟨1523, some (.ofNat .cross 3)⟩ [(.minus, ⟨18, none⟩)]) =
        .success
          { value := ofSixteenths 4551
            feetInches := feetInches (ofSixteenths 4551)
            totalInches := totalInches (ofSixteenths 4551)
            expression := composed ⟨1523, some (.ofNat .cross 3)⟩ [(.minus, ⟨18, none⟩)]
            measurement := true } := by
  have hsum : signedSum (Term.product ⟨1523, some (.ofNat .cross 3)⟩) [(.minus, ⟨18, none⟩)] =
      4551 := by decide +kernel
  have h := evaluate_composed ⟨1523, some (.ofNat .cross 3)⟩ [(.minus, ⟨18, none⟩)]
    (by decide +kernel) (by decide +kernel) (by decide +kernel)
  rw [hsum] at h
  exact ⟨h.1, by decide +kernel, h.2⟩

end Measure

end Tapeline
