import Tapeline.Measure.Reduction
import Tapeline.Proofs.Arithmetic.Tiers
import Tapeline.Proofs.Measure.Joining
import Tapeline.Proofs.Text.Digits

/-!
# The reduction as one fold

`reduce` pairs its tokens, reads every value, takes all products and then all sums.  On values and
operators in turn this comes to the fold over two tiers, `foldTiers`, with the operators of
measurements (`reduce_flatMap`), and so it does on the tokens of a joined text (`reduce_joined`).
The two passes fuse because the product that `takeProducts` returns first is the one that the fold
holds, and the sum that `takeSums` has so far is the one that the fold keeps behind it
(`takeSums_takeProducts`).
-/

namespace Tapeline

namespace Measure

open Arithmetic (closeSum foldTiers tierOf foldTiers_products foldTiers_sums)

/-- An operator applied to two values of a measurement. -/
def measured (op : Operator) (x y : Binary64) : Binary64 :=
  match op with
  | .plus => x + y
  | .minus => x - y
  | .times => x * y
  | .dividedBy => quotient x y

/-- The six characters that are written for operators. -/
theorem isSome_ofChar?_iff (c : Char) :
    (Operator.ofChar? c).isSome = true ↔ c ∈ ['+', '-', '*', '/', '×', '÷'] := by
  constructor
  · intro h
    obtain ⟨op, hop⟩ := Option.isSome_iff_exists.mp h
    unfold Operator.ofChar? Operator.plainSign at hop
    split at hop
    · decide
    · decide
    · rw [← Operator.sign_of_ofSign? hop]
      cases op <;> decide
  · intro h
    have hall : ['+', '-', '*', '/', '×', '÷'].all (fun d => (Operator.ofChar? d).isSome) =
        true := by decide
    exact List.all_eq_true.mp hall c h

/-- No other characters are operators. -/
theorem ofChar?_eq_none {c : Char} (h : c ∉ ['+', '-', '*', '/', '×', '÷']) :
    Operator.ofChar? c = none := by
  have hsome : ¬ (Operator.ofChar? c).isSome = true := fun hc => h ((isSome_ofChar?_iff c).mp hc)
  simpa using hsome

/-- No digit is an operator. -/
theorem ofChar?_of_isDecimalDigit {c : Char} (h : isDecimalDigit c = true) :
    Operator.ofChar? c = none := by
  have hne := not_mem_signs h
  simp only [Arithmetic.signs, List.mem_cons, List.not_mem_nil, or_false, not_or] at hne
  exact ofChar?_eq_none (by simp [hne])

/-- A character that is written for an operator. -/
structure Glyph where
  char : Char
  op : Operator
  reads : Operator.ofChar? char = some op
deriving DecidableEq

namespace Glyph

/-- The plain sign of an operator stands for it. -/
def ofOperator (op : Operator) : Glyph where
  char := op.sign
  op := op
  reads := by cases op <;> rfl

/-- Every glyph is an operator. -/
theorem isSome_ofChar? (g : Glyph) : (Operator.ofChar? g.char).isSome = true := by
  rw [g.reads]
  rfl

/-- The plain sign of a glyph is that of its operator. -/
theorem plainSign_char (g : Glyph) : Operator.plainSign g.char = g.op.sign :=
  (Operator.sign_of_ofSign? g.reads).symm

end Glyph

/-- A text is one value without a cut, and this is the value. -/
structure Reads (t : Text) (x : Binary64) : Prop where
  isValue : IsValue t
  quantity_eq : quantity t = .ok x

/-- A value that reads is what its link gets. -/
theorem readValue_ok {t : Text} {x : Binary64} (h : quantity t = .ok x) : readValue t = .ok x := by
  rw [readValue, h]
  rfl

theorem operator?_sign (op : Operator) : operator? [op.sign] = some op :=
  Operator.ofSign?_sign op

/-- Tokens in turn are paired again. -/
theorem pairLinks_flatMap {ι : Type} (sign text : ι → Text) (items : List ι) :
    pairLinks (items.flatMap fun i => [sign i, text i]) =
      .ok (items.map fun i => (sign i, text i)) := by
  induction items with
  | nil => rfl
  | cons i items ih =>
      simp only [List.flatMap_cons, List.cons_append, List.nil_append, pairLinks, ih,
        List.map_cons]
      rfl

section Links

variable {ι : Type} (op : ι → Operator)

/-- Links whose values all read have these values behind their operators. -/
theorem readLinks_map {text : ι → Text} {value : ι → Binary64} {items : List ι}
    (hitems : ∀ i ∈ items, quantity (text i) = .ok (value i)) :
    readLinks (items.map fun i => ([(op i).sign], text i)) =
      .ok (items.map fun i => ([(op i).sign], value i)) := by
  induction items with
  | nil => rfl
  | cons i items ih =>
      have hvalue := readValue_ok (hitems i List.mem_cons_self)
      have htail := ih fun j hj => hitems j (List.mem_cons_of_mem _ hj)
      simp only [List.map_cons, readLinks, hvalue, htail]
      rfl

/-- **Two passes are one fold.** -/
theorem takeSums_takeProducts (value : ι → Binary64) (items : List ι) :
    ∀ (pending : Option (Binary64 × Operator)) (product : Binary64),
      takeSums
          (closeSum measured pending
            (takeProducts product (items.map fun i => ([(op i).sign], value i))).1)
          (takeProducts product (items.map fun i => ([(op i).sign], value i))).2 =
        .ok (foldTiers measured pending product (items.map fun i => (op i, value i))) := by
  induction items with
  | nil => intro pending product; rfl
  | cons i items ih =>
      intro pending product
      simp only [List.map_cons]
      cases htier : tierOf (op i) with
      | products =>
          have htake : takeProducts product
              (([(op i).sign], value i) :: items.map fun i => ([(op i).sign], value i)) =
                takeProducts (measured (op i) product (value i))
                  (items.map fun i => ([(op i).sign], value i)) := by
            cases hop : op i <;> simp_all [takeProducts, operator?_sign, measured, tierOf]
          rw [htake, foldTiers_products _ htier]
          exact ih pending _
      | sums =>
          have htake : takeProducts product
              (([(op i).sign], value i) :: items.map fun i => ([(op i).sign], value i)) =
                (product, ([(op i).sign],
                    (takeProducts (value i) (items.map fun i => ([(op i).sign], value i))).1) ::
                  (takeProducts (value i) (items.map fun i => ([(op i).sign], value i))).2) := by
            cases hop : op i <;> simp_all [takeProducts, operator?_sign, tierOf]
          rw [htake, foldTiers_sums _ htier, ← ih]
          -- the product held so far closes the sum before it
          cases hop : op i <;> simp_all [takeSums, operator?_sign, closeSum, measured, tierOf]

/-- **Values and operators in turn reduce to the fold of the values.** -/
theorem reduce_flatMap {text : ι → Text} {value : ι → Binary64} {items : List ι} {first : Text}
    {x : Binary64} (hfirst : quantity first = .ok x)
    (hitems : ∀ i ∈ items, quantity (text i) = .ok (value i)) :
    reduce (first :: items.flatMap fun i => [[(op i).sign], text i]) =
      .ok (foldTiers measured none x (items.map fun i => (op i, value i))) := by
  have hlinks := readLinks_map op hitems
  have hfold := takeSums_takeProducts op value items none x
  simp only [reduce, pairLinks_flatMap, readValue_ok hfirst, bind, Except.bind]
  rw [hlinks]
  exact hfold

/-- A joined text reduces to the fold of its values. -/
theorem reduce_joined (glyph : ι → Glyph) {text : ι → Text} {value : ι → Binary64}
    {items : List ι} (hitems : ∀ i ∈ items, Reads (text i) (value i)) {first : Text}
    {x : Binary64} (hfirst : Reads first x) :
    reduce (tokens (joined first (items.map fun i => ((glyph i).char, text i)))) =
      .ok (foldTiers measured none x (items.map fun i => ((glyph i).op, value i))) := by
  have htokens : tokens (joined first (items.map fun i => ((glyph i).char, text i))) =
      first :: items.flatMap fun i => [[(glyph i).op.sign], text i] := by
    rw [tokens_joined hfirst.isValue]
    · simp only [List.flatMap_map, Glyph.plainSign_char]
    · intro link hlink
      obtain ⟨i, hi, rfl⟩ := List.mem_map.mp hlink
      exact ⟨(glyph i).isSome_ofChar?, (hitems i hi).isValue⟩
  rw [htokens]
  exact reduce_flatMap _ hfirst.quantity_eq fun i hi => (hitems i hi).quantity_eq

end Links

/-- A single value of a measurement is reduced to itself. -/
theorem reduce_value {t : Text} {x : Binary64} (h : Reads t x) : reduce (tokens t) = .ok x := by
  rw [h.isValue.tokens_eq]
  exact @reduce_flatMap Unit (fun _ => .plus) (fun _ => []) (fun _ => x) [] t x h.quantity_eq
    (by simp)

end Measure

end Tapeline
