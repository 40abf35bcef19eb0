import Tapeline.Proofs.Measure.Turns

/-!
# Trees of a measurement

A measurement is a tree of values and operators, and its tokens are the yield of the tree.  Many
trees have the same yield; in one of them products bind tighter than sums and both associate to the
left, that is, what stands to the left of an operator binds at least as tight as the operator, and
what stands to the right binds tighter (`ValueTree.Tiered`).  The fold over two tiers builds this
tree (`isTreeOf_ofTurns`), and there is no other (`IsTreeOf.eq_ofTurns`).

The tokens that have such a tree are those in turn (`IsTreeOf.exists_turns`), and the value of the
tree is the fold of their values (`evaluate_ofTurns`).
-/

namespace Tapeline

namespace Measure

open Arithmetic (Tier closeSum foldTiers tierOf foldTiers_products foldTiers_sums foldTiers_rel)

/-- A measurement as a tree. -/
inductive ValueTree where
  | value (token : Text)
  | binary (op : Operator) (left right : ValueTree)
deriving DecidableEq

namespace ValueTree

/-- The tokens of a tree from left to right. -/
def yield : ValueTree → List Text
  | value token => [token]
  | binary op left right => left.yield ++ [op.sign] :: right.yield

/-- The values of a tree from left to right. -/
def leaves : ValueTree → List Text
  | value token => [token]
  | binary _ left right => left.leaves ++ right.leaves

/-- How tightly a tree holds together: as its operator, and a value more than any operator. -/
def tightness : ValueTree → Nat
  | value _ => 3
  | binary op _ _ => (tierOf op).precedence

/-- Products bind tighter than sums, and both associate to the left. -/
def Tiered : ValueTree → Prop
  | value _ => True
  | binary op left right => left.Tiered ∧ right.Tiered ∧
      (tierOf op).precedence ≤ left.tightness ∧ (tierOf op).precedence < right.tightness

/-- The value of a tree, if all its values read. -/
def evaluate : ValueTree → Except NotANumber Binary64
  | value token => quantity token
  | binary op left right => do return measured op (← left.evaluate) (← right.evaluate)

/-- A tree has no value just if one of its values does not read. -/
theorem evaluate_error_iff (t : ValueTree) :
    (∃ error, t.evaluate = .error error) ↔
      ∃ token ∈ t.leaves, ∃ error, quantity token = .error error := by
  induction t with
  | value token => simp [evaluate, leaves]
  | binary op left right ihl ihr =>
      simp only [leaves, List.mem_append, or_and_right, exists_or, ← ihl, ← ihr]
      cases hleft : left.evaluate with
      | error error => simp [evaluate, hleft, bind, Except.bind]
      | ok x =>
          cases hright : right.evaluate with
          | error error => simp [evaluate, hleft, hright, bind, Except.bind]
          | ok y => simp [evaluate, hleft, hright, bind, Except.bind, pure, Except.pure]

/-- Every tree binds at least as tightly as a sum. -/
theorem one_le_tightness (t : ValueTree) : 1 ≤ t.tightness := by
  cases t with
  | value token => exact Nat.le_add_left 1 2
  | binary op left right => cases op <;> simp [tightness, tierOf, Tier.precedence]

end ValueTree

/-- The tokens are the yield of the tree, and the tree has its tiers in order. -/
structure IsTreeOf (tokens : List Text) (t : ValueTree) : Prop where
  yield_eq : t.yield = tokens
  tiered : t.Tiered

/-- The tree of tokens in turn. -/
def ofTurns (first : Text) (links : List (Operator × Text)) : ValueTree :=
  foldTiers ValueTree.binary none (.value first) (links.map fun link => (link.1, .value link.2))

/-! ## The folded tree -/

section Folded

variable {β ι : Type}

/-- What is read off a tree from left to right is read off the parts of a fold in turn. -/
theorem foldTiers_flat (f : ValueTree → List β) (g : Operator → List β)
    (hf : ∀ op left right, f (.binary op left right) = f left ++ (g op ++ f right))
    (items : List (Operator × ValueTree)) :
    ∀ (pending : Option (ValueTree × Operator)) (product : ValueTree),
      f (foldTiers ValueTree.binary pending product items) =
        f (closeSum ValueTree.binary pending product) ++ items.flatMap fun i => g i.1 ++ f i.2 := by
  induction items with
  | nil =>
      intro pending product
      simp [foldTiers]
  | cons item items ih =>
      obtain ⟨op, x⟩ := item
      intro pending product
      cases htier : tierOf op with
      | products =>
          rw [foldTiers_products _ htier, ih]
          cases pending with
          | none => simp [closeSum, hf]
          | some behind => simp [closeSum, hf]
      | sums =>
          rw [foldTiers_sums _ htier, ih]
          simp [closeSum, hf]

/-- The yield of the tree of turns is the turns. -/
theorem yield_ofTurns (first : Text) (links : List (Operator × Text)) :
    (ofTurns first links).yield = inTurn first links := by
  rw [ofTurns, foldTiers_flat ValueTree.yield (fun op => [[op.sign]]) (fun _ _ _ => rfl),
    List.flatMap_map]
  rfl

/-- The leaves of the tree of turns are the values in turn. -/
theorem leaves_ofTurns (first : Text) (links : List (Operator × Text)) :
    (ofTurns first links).leaves = valuesInTurn first links := by
  rw [ofTurns, foldTiers_flat ValueTree.leaves (fun _ => []) (fun _ _ _ => rfl), List.flatMap_map,
    valuesInTurn, List.map_eq_flatMap]
  rfl

/-- A fold over values that closes a sum of its own has its tiers in order. -/
theorem tiered_foldTiers (links : List (Operator × Text)) :
    ∀ (pending : Option (ValueTree × Operator)) (product : ValueTree),
      product.Tiered → Tier.products.precedence ≤ product.tightness →
      (∀ sum op, pending = some (sum, op) → sum.Tiered ∧ tierOf op = .sums) →
      (foldTiers ValueTree.binary pending product
        (links.map fun link => (link.1, .value link.2))).Tiered := by
  have hclose : ∀ (pending : Option (ValueTree × Operator)) (product : ValueTree),
      product.Tiered → Tier.products.precedence ≤ product.tightness →
      (∀ sum op, pending = some (sum, op) → sum.Tiered ∧ tierOf op = .sums) →
      (closeSum ValueTree.binary pending product).Tiered := by
    intro pending product hproduct htight hpending
    cases pending with
    | none => exact hproduct
    | some behind =>
        obtain ⟨sum, op⟩ := behind
        obtain ⟨hsum, htier⟩ := hpending sum op rfl
        refine ⟨hsum, hproduct, ?_, ?_⟩
        · rw [htier]
          exact sum.one_le_tightness
        · rw [htier]
          exact htight
  induction links with
  | nil => exact hclose
  | cons link links ih =>
      obtain ⟨op, token⟩ := link
      intro pending product hproduct htight hpending
      rw [List.map_cons]
      cases htier : tierOf op with
      | products =>
          rw [foldTiers_products _ htier]
          refine ih pending _ ⟨hproduct, trivial, by rwa [htier], ?_⟩ ?_ hpending
          · rw [htier]
            exact Nat.le_refl 3
          · rw [ValueTree.tightness, htier]
      | sums =>
          rw [foldTiers_sums _ htier]
          refine ih _ _ trivial (Nat.le_succ 2) ?_
          intro sum o heq
          cases heq
          exact ⟨hclose pending product hproduct htight hpending, htier⟩

/-- **Tokens in turn have a tree**, the folded one. -/
theorem isTreeOf_ofTurns (first : Text) (links : List (Operator × Text)) :
    IsTreeOf (inTurn first links) (ofTurns first links) :=
  ⟨yield_ofTurns first links,
    tiered_foldTiers links none _ trivial (Nat.le_succ 2) fun _ _ hnone => nomatch hnone⟩

/-- The folded tree has the folded value, if all values read. -/
theorem evaluate_ofTurns {first : Text} {links : List (Operator × Text)} (value : Text → Binary64)
    (hread : ∀ t ∈ valuesInTurn first links, quantity t = .ok (value t)) :
    (ofTurns first links).evaluate =
      .ok (foldTiers measured none (value first)
        (links.map fun link => (link.1, value link.2))) := by
  refine (foldTiers_rel ValueTree.binary (R := fun t x => ValueTree.evaluate t = .ok x) ?_ (·.1)
    (fun link => .value link.2) (fun link => value link.2) links ?_ (.value first) (value first)
    (hread first List.mem_cons_self)).1
  · intro op left right x y hleft hright
    simp only [ValueTree.evaluate, hleft, hright]
    rfl
  · intro link hlink
    exact hread _ (List.mem_cons_of_mem _ (List.mem_map.mpr ⟨link, hlink, rfl⟩))

/-! ## No other tree -/

variable {α : Type} (combine : Operator → α → α → α)

/-- Behind the operator of a sum the fold starts anew. -/
theorem foldTiers_append_sum {op : Operator} (h : tierOf op = .sums) (x : α)
    (rest : List (Operator × α)) (links : List (Operator × α)) :
    ∀ (pending : Option (α × Operator)) (product : α),
      foldTiers combine pending product (links ++ (op, x) :: rest) =
        foldTiers combine (some (foldTiers combine pending product links, op)) x rest := by
  induction links with
  | nil => exact fun pending product => foldTiers_sums combine h pending product x rest
  | cons link links ih =>
      obtain ⟨o, y⟩ := link
      intro pending product
      cases htier : tierOf o with
      | products => simp only [List.cons_append, foldTiers_products _ htier, ih]
      | sums => simp only [List.cons_append, foldTiers_sums _ htier, ih]

/-- A fold over products alone closes the sum behind it at its end. -/
theorem foldTiers_of_products {links : List (Operator × α)}
    (h : ∀ link ∈ links, tierOf link.1 = .products) :
    ∀ (pending : Option (α × Operator)) (product : α),
      foldTiers combine pending product links =
        closeSum combine pending (foldTiers combine none product links) := by
  induction links with
  | nil => exact fun _ _ => rfl
  | cons link links ih =>
      obtain ⟨op, x⟩ := link
      have htier : tierOf op = .products := h (op, x) List.mem_cons_self
      intro pending product
      rw [foldTiers_products _ htier, foldTiers_products _ htier]
      exact ih (fun l hl => h l (List.mem_cons_of_mem _ hl)) pending _

/-- A fold over products alone takes its last factor last. -/
theorem foldTiers_append_product {op : Operator} (hop : tierOf op = .products) (x : α)
    {links : List (Operator × α)} (h : ∀ link ∈ links, tierOf link.1 = .products) :
    ∀ product : α, foldTiers combine none product (links ++ [(op, x)]) =
      combine op (foldTiers combine none product links) x := by
  induction links with
  | nil => exact fun product => foldTiers_products combine hop none product x []
  | cons link links ih =>
      obtain ⟨o, y⟩ := link
      have htier : tierOf o = .products := h (o, y) List.mem_cons_self
      intro product
      simp only [List.cons_append, foldTiers_products _ htier]
      exact ih (fun l hl => h l (List.mem_cons_of_mem _ hl)) _

end Folded

/-- Turns go on behind an operator. -/
theorem inTurn_append (first next : Text) (op : Operator) (links rest : List (Operator × Text)) :
    inTurn first (links ++ (op, next) :: rest) =
      inTurn first links ++ [op.sign] :: inTurn next rest := by
  simp [inTurn]

/-- The signs of the operators are different. -/
theorem sign_injective {op op' : Operator} (h : op.sign = op'.sign) : op = op' := by
  have hsome := Operator.ofSign?_sign op
  rw [h, Operator.ofSign?_sign] at hsome
  exact (Option.some.inj hsome).symm

/-- Tokens in turn determine their values and operators. -/
theorem inTurn_injective (links : List (Operator × Text)) :
    ∀ {first first' : Text} {links' : List (Operator × Text)},
      inTurn first links = inTurn first' links' → first = first' ∧ links = links' := by
  induction links with
  | nil =>
      intro first first' links' h
      cases links' with
      | nil => exact ⟨(List.cons.inj h).1, rfl⟩
      | cons link' links' => cases h
  | cons link links ih =>
      obtain ⟨op, value⟩ := link
      intro first first' links' h
      cases links' with
      | nil => cases h
      | cons link' links' =>
          obtain ⟨op', value'⟩ := link'
          rw [inTurn_cons, inTurn_cons] at h
          obtain ⟨hfirst, hrest⟩ := List.cons.inj h
          obtain ⟨hsign, hrest⟩ := List.cons.inj hrest
          obtain ⟨rfl, rfl⟩ := ih hrest
          obtain rfl := sign_injective (List.cons.inj hsign).1
          exact ⟨hfirst, rfl⟩

/-- What the links of a tree with its tiers in order are: no sums in a product, none in a value. -/
structure HasLinks (t : ValueTree) (first : Text) (links : List (Operator × Text)) : Prop where
  yield_eq : t.yield = inTurn first links
  eq_fold : t = ofTurns first links
  products : Tier.products.precedence ≤ t.tightness → ∀ link ∈ links, tierOf link.1 = .products
  none : Tier.products.precedence < t.tightness → links = []

section Links

variable {left right : ValueTree} {op : Operator} {first next : Text}
  {links rest : List (Operator × Text)}

/-- Values behind operators of products, as leaves. -/
theorem leaves_products (h : ∀ link ∈ links, tierOf link.1 = .products) :
    ∀ link ∈ links.map fun link => (link.1, ValueTree.value link.2), tierOf link.1 = .products := by
  intro link hlink
  obtain ⟨l, hl, rfl⟩ := List.mem_map.mp hlink
  exact h l hl

/-- A product to the right of a sum. -/
theorem HasLinks.sum (hop : tierOf op = .sums) (hleft : HasLinks left first links)
    (hright : HasLinks right next rest) (htight : Tier.products.precedence ≤ right.tightness) :
    HasLinks (.binary op left right) first (links ++ (op, next) :: rest) := by
  have htightness : (ValueTree.binary op left right).tightness = Tier.sums.precedence := by
    rw [ValueTree.tightness, hop]
  refine ⟨?_, ?_, fun hle => ?_, fun hlt => ?_⟩
  · rw [inTurn_append, ValueTree.yield, hleft.yield_eq, hright.yield_eq]
  · have hproducts := leaves_products (hright.products htight)
    rw [ofTurns, List.map_append, List.map_cons, foldTiers_append_sum _ hop,
      foldTiers_of_products _ hproducts, closeSum]
    exact congrArg₂ (ValueTree.binary op) hleft.eq_fold hright.eq_fold
  · rw [htightness] at hle
    exact absurd hle (by decide)
  · rw [htightness] at hlt
    exact absurd hlt (by decide)

/-- A value to the right of a product. -/
theorem HasLinks.product (hop : tierOf op = .products) (hleft : HasLinks left first links)
    (hright : HasLinks right next rest) (htight : Tier.products.precedence ≤ left.tightness)
    (htight' : Tier.products.precedence < right.tightness) :
    HasLinks (.binary op left right) first (links ++ (op, next) :: rest) := by
  have htightness : (ValueTree.binary op left right).tightness = Tier.products.precedence := by
    rw [ValueTree.tightness, hop]
  have hproducts := hleft.products htight
  obtain rfl : rest = [] := hright.none htight'
  refine ⟨?_, ?_, fun _ link hlink => ?_, fun hlt => ?_⟩
  · rw [inTurn_append, ValueTree.yield, hleft.yield_eq, hright.yield_eq]
  · rw [ofTurns, List.map_append, List.map_cons, List.map_nil,
      foldTiers_append_product _ hop _ (leaves_products hproducts)]
    exact congrArg₂ (ValueTree.binary op) hleft.eq_fold hright.eq_fold
  · rcases List.mem_append.mp hlink with hlink | hlink
    · exact hproducts link hlink
    · obtain rfl := List.mem_singleton.mp hlink
      exact hop
  · rw [htightness] at hlt
    exact absurd hlt (Nat.lt_irrefl _)

end Links

/-- **A tree with its tiers in order is the fold of its yield.** -/
theorem ValueTree.Tiered.exists_links {t : ValueTree} (h : t.Tiered) :
    ∃ first links, HasLinks t first links := by
  induction t with
  | value token =>
      exact ⟨token, [], rfl, rfl, fun _ link hlink => absurd hlink List.not_mem_nil, fun _ => rfl⟩
  | binary op left right ihl ihr =>
      obtain ⟨hleft, hright, hbelow, habove⟩ := h
      obtain ⟨first, links, hlinks⟩ := ihl hleft
      obtain ⟨next, rest, hrest⟩ := ihr hright
      refine ⟨first, links ++ (op, next) :: rest, ?_⟩
      cases htier : tierOf op with
      | sums =>
          rw [htier] at habove
          exact hlinks.sum htier hrest habove
      | products =>
          rw [htier] at hbelow habove
          exact hlinks.product htier hrest hbelow habove

/-- **Tokens in turn have no other tree.** -/
theorem IsTreeOf.eq_ofTurns {first : Text} {links : List (Operator × Text)} {t : ValueTree}
    (h : IsTreeOf (inTurn first links) t) : t = ofTurns first links := by
  obtain ⟨first', links', hlinks⟩ := h.tiered.exists_links
  obtain ⟨rfl, rfl⟩ := inTurn_injective links (h.yield_eq.symm.trans hlinks.yield_eq)
  exact hlinks.eq_fold

/-- Only tokens in turn have a tree. -/
theorem IsTreeOf.exists_turns {tokens : List Text} {t : ValueTree} (h : IsTreeOf tokens t) :
    ∃ first links, tokens = inTurn first links := by
  obtain ⟨first, links, hlinks⟩ := h.tiered.exists_links
  exact ⟨first, links, h.yield_eq.symm.trans hlinks.yield_eq⟩

end Measure

end Tapeline
