import Tapeline.Proofs.Arithmetic.Climbing

/-!
# Two tiers in one pass

An expression without parentheses is a first operand and a list of links, each an operator with its
operand.  `foldTiers` evaluates it from left to right in one pass: it keeps the product that is
being read and, if a sum came before it, that sum with the operator behind it.  It works over any
type of values, so one definition serves

* trees, where `derives_foldTiers` says that the grammar reads the tokens as the folded tree, and
  `nesting_foldTiers` that this tree nests no deeper than its operands by two;
* floating-point values, where a fold over values can be compared with a fold over trees by any
  relation that the operators preserve (`foldTiers_rel`).
-/

namespace Tapeline

namespace Arithmetic

section Folding

variable {α β ι : Type} (combine : Operator → α → α → α)

/-- The sum so far, with the product that was read behind its operator. -/
def closeSum (pending : Option (α × Operator)) (product : α) : α :=
  match pending with
  | none => product
  | some (sum, op) => combine op sum product

theorem closeSum_none (product : α) : closeSum combine none product = product := rfl

theorem closeSum_some (sum product : α) (op : Operator) :
    closeSum combine (some (sum, op)) product = combine op sum product := rfl

/-- The value of the links behind a product, and behind a sum if there is one. -/
def foldTiers (pending : Option (α × Operator)) (product : α) : List (Operator × α) → α
  | [] => closeSum combine pending product
  | (op, x) :: rest =>
    match tierOf op with
    | .products => foldTiers pending (combine op product x) rest
    | .sums => foldTiers (some (closeSum combine pending product, op)) x rest

/-- A product is folded into the one at hand, whatever sum is pending. -/
theorem foldTiers_products {op : Operator} (h : tierOf op = .products)
    (pending : Option (α × Operator)) (product x : α) (rest : List (Operator × α)) :
    foldTiers combine pending product ((op, x) :: rest) =
      foldTiers combine pending (combine op product x) rest := by
  simp [foldTiers, h]

/-- A sum closes the product at hand and is pending from there on. -/
theorem foldTiers_sums {op : Operator} (h : tierOf op = .sums)
    (pending : Option (α × Operator)) (product x : α) (rest : List (Operator × α)) :
    foldTiers combine pending product ((op, x) :: rest) =
      foldTiers combine (some (closeSum combine pending product, op)) x rest := by
  simp [foldTiers, h]

/-- **Folds over related operands are related**, if the operators preserve the relation. -/
theorem foldTiers_rel {combine' : Operator → β → β → β} {R : α → β → Prop}
    (hcombine : ∀ op x y x' y', R x x' → R y y' → R (combine op x y) (combine' op x' y'))
    (op : ι → Operator) (f : ι → α) (g : ι → β) (items : List ι)
    (hitems : ∀ i ∈ items, R (f i) (g i)) :
    ∀ (product : α) (product' : β), R product product' →
      (R (foldTiers combine none product (items.map fun i => (op i, f i)))
        (foldTiers combine' none product' (items.map fun i => (op i, g i)))) ∧
      ∀ (sum : α) (sum' : β) (o : Operator), R sum sum' →
        R (foldTiers combine (some (sum, o)) product (items.map fun i => (op i, f i)))
          (foldTiers combine' (some (sum', o)) product' (items.map fun i => (op i, g i))) := by
  induction items with
  | nil =>
      intro product product' hproduct
      exact ⟨hproduct, fun sum sum' o hsum => hcombine o _ _ _ _ hsum hproduct⟩
  | cons i items ih =>
      have hi := hitems i List.mem_cons_self
      have ih := ih fun j hj => hitems j (List.mem_cons_of_mem _ hj)
      intro product product' hproduct
      simp only [List.map_cons]
      cases htier : tierOf (op i) with
      | products =>
          simp only [foldTiers_products _ htier]
          exact ih _ _ (hcombine (op i) _ _ _ _ hproduct hi)
      | sums =>
          simp only [foldTiers_sums _ htier]
          have hnext := (ih _ _ hi).2
          exact ⟨hnext _ _ _ hproduct,
            fun sum sum' o hsum => hnext _ _ _ (hcombine o _ _ _ _ hsum hproduct)⟩

end Folding

section Trees

variable {ι : Type} (op : ι → Operator) (tree : ι → Tree)

/-- A folded tree is derived from the tokens of its operands, if they are. -/
theorem derives_foldTiers (tokens : ι → List Token) (items : List ι)
    (hitems : ∀ i ∈ items, Derives .operand (tokens i) (tree i)) :
    ∀ (pending : Option (Tree × Operator)) (product : Tree), ∃ us us' middle,
      (items.flatMap fun i => .operator (op i) :: tokens i) = us ++ us' ∧
      Derives (.links .products product) us middle ∧
      Derives (.links .sums (closeSum Tree.binary pending middle)) us'
        (foldTiers Tree.binary pending product (items.map fun i => (op i, tree i))) := by
  induction items with
  | nil => exact fun pending product => ⟨[], [], product, rfl, .noLink, .noLink⟩
  | cons i items ih =>
      have hi := hitems i List.mem_cons_self
      have ih := ih fun j hj => hitems j (List.mem_cons_of_mem _ hj)
      intro pending product
      simp only [List.map_cons, List.flatMap_cons]
      cases htier : tierOf (op i) with
      | products =>
          obtain ⟨us, us', middle, htokens, hproducts, hsums⟩ :=
            ih pending (.binary (op i) product (tree i))
          rw [foldTiers_products _ htier]
          refine ⟨.operator (op i) :: (tokens i ++ us), us', middle, by simp [htokens], ?_, hsums⟩
          exact .link htier hi hproducts
      | sums =>
          obtain ⟨us, us', middle, htokens, hproducts, hsums⟩ :=
            ih (some (closeSum Tree.binary pending product, op i)) (tree i)
          rw [foldTiers_sums _ htier]
          refine ⟨[], .operator (op i) :: ((tokens i ++ us) ++ us'), product, by simp [htokens],
            .noLink, ?_⟩
          exact .link htier (@Derives.chain .products _ _ _ _ hi hproducts) hsums

/-- An expression without parentheses is derived with its folded tree. -/
theorem derivesExpression_foldTiers (tokens : ι → List Token) (items : List ι)
    (hitems : ∀ i ∈ items, Derives .operand (tokens i) (tree i)) {ts : List Token} {first : Tree}
    (hfirst : Derives .operand ts first) :
    DerivesExpression (ts ++ items.flatMap fun i => .operator (op i) :: tokens i)
      (foldTiers Tree.binary none first (items.map fun i => (op i, tree i))) := by
  obtain ⟨us, us', middle, htokens, hproducts, hsums⟩ :=
    derives_foldTiers op tree tokens items hitems none first
  have hproduct := @Derives.chain .products _ _ _ _ hfirst hproducts
  rw [htokens, ← List.append_assoc]
  exact @Derives.chain .sums _ _ _ _ hproduct hsums

/-- Products nest one deeper than their operands, and sums one deeper than products. -/
theorem nesting_foldTiers {n : Nat} (items : List ι) (hitems : ∀ i ∈ items, (tree i).nesting ≤ n) :
    ∀ (pending : Option (Tree × Operator)) (product : Tree), product.nesting ≤ n + 1 →
      (∀ sum o, pending = some (sum, o) → sum.nesting ≤ n + 2) →
      (foldTiers Tree.binary pending product
        (items.map fun i => (op i, tree i))).nesting ≤ n + 2 := by
  have hclose : ∀ (pending : Option (Tree × Operator)) (product : Tree),
      product.nesting ≤ n + 1 → (∀ sum o, pending = some (sum, o) → sum.nesting ≤ n + 2) →
      (closeSum Tree.binary pending product).nesting ≤ n + 2 := by
    intro pending product hproduct hpending
    cases pending with
    | none => exact Nat.le_succ_of_le hproduct
    | some sum =>
        have hsum := hpending sum.1 sum.2 rfl
        simp only [closeSum, Tree.nesting]
        omega
  induction items with
  | nil => exact hclose
  | cons i items ih =>
      have hi := hitems i List.mem_cons_self
      have ih := ih fun j hj => hitems j (List.mem_cons_of_mem _ hj)
      intro pending product hproduct hpending
      simp only [List.map_cons]
      cases htier : tierOf (op i) with
      | products =>
          rw [foldTiers_products _ htier]
          refine ih pending _ ?_ hpending
          simp only [Tree.nesting]
          omega
      | sums =>
          rw [foldTiers_sums _ htier]
          refine ih _ _ (Nat.le_succ_of_le hi) ?_
          intro sum o heq
          cases heq
          exact hclose pending product hproduct hpending

end Trees

end Arithmetic

end Tapeline
