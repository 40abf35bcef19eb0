import Mathlib.Control.Monad.Basic
import Tapeline.Proofs.Arithmetic.Grammar
import Tapeline.Proofs.Results

/-!
# Precedence climbing evaluates the grammar

`valueAt` reads an operand and then climbs over operators of both tiers in one loop, while the
grammar has a phrase for each tier.  The two agree:

* `Derives.evaluates` — completeness: on the tokens of a derivation the evaluator computes the
  value of its tree and leaves what comes behind, or fails where a divisor is zero;
* `valueAt_sound` — soundness: whatever the evaluator reads is a phrase of the grammar, and the
  value is that of its tree.

Completeness is an induction on the derivation.  It is stated with the loop still to go on behind
the phrase, since a product at the start of a sum is read by the very loop that reads the sum.
Soundness is an induction on the depth and, within it, on the number of operators that are read.
-/

namespace Tapeline

namespace Arithmetic

namespace Tree

/-- The value of a tree as the evaluator answers it. -/
def outcome (t : Tree) : Except EvaluationError Binary64 :=
  match t.value with
  | some v => .ok v
  | none => .error .divisionByZero

/-- A tree that has a value evaluates to it. -/
theorem outcome_of_value {t : Tree} {v : Binary64} (h : t.value = some v) :
    t.outcome = .ok v := by
  simp [outcome, h]

/-- What a tree without a value fails with is a division by zero. -/
theorem outcome_of_no_value {t : Tree} (h : t.value = none) :
    t.outcome = .error .divisionByZero := by
  simp [outcome, h]

/-- A tree that evaluates has the value that comes out. -/
theorem value_of_outcome {t : Tree} {v : Binary64} (h : t.outcome = .ok v) :
    t.value = some v := by
  unfold outcome at h
  split at h
  · simp_all
  · cases h

theorem outcome_number (x : Binary64) : (number x).outcome = .ok x := rfl

theorem outcome_plus (t : Tree) : (plus t).outcome = t.outcome := rfl

theorem outcome_group (t : Tree) : (group t).outcome = t.outcome := rfl

/-- A minus in front negates what comes out and keeps a failure. -/
theorem outcome_minus (t : Tree) : (minus t).outcome = t.outcome.map (- ·) := by
  cases h : t.value <;> simp [outcome, value, h, Except.map]

/-- An operator with a value on either side combines as the evaluator applies it. -/
theorem outcome_binary (op : Operator) (left right : Tree) :
    (binary op left right).outcome = (do apply op (← left.outcome) (← right.outcome)) := by
  cases hl : left.value with
  | none => simp [outcome, value, hl, bind, Except.bind]
  | some x =>
      cases hr : right.value with
      | none => simp [outcome, value, hl, hr, bind, Except.bind]
      | some y =>
          cases op with
          | dividedBy =>
              by_cases hy : y.isZero <;>
                simp [outcome, value, hl, hr, combine, apply, hy, bind, Except.bind]
          | _ => simp [outcome, value, hl, hr, combine, apply, bind, Except.bind]

end Tree

/-- The links of a chain only add to the nesting of what they are linked to. -/
theorem Derives.nesting_le {tier : Tier} {left t : Tree} {us : List Token}
    (h : Derives (.links tier left) us t) : left.nesting ≤ t.nesting := by
  generalize hp : Phrase.links tier left = p at h
  induction h generalizing left with
  | noLink => cases hp; exact Nat.le_refl _
  | link _ _ _ _ ih =>
      cases hp
      exact Nat.le_trans (Nat.le_max_left _ _) (ih rfl)
  | _ => cases hp

section Completeness

variable {operand : Nat → List Token → Reading} {least count : Nat} {x : Binary64}

/-- Climbing stops before tokens that do not start with a tight enough operator. -/
theorem climb_closed {rest : List Token} (h : Closed least rest) :
    climb operand least count x rest = .ok (x, rest) := by
  cases count with
  | zero => simp [climb]
  | succ n =>
      unfold climb
      split
      · rename_i op tail hcount
        simp [h op tail rfl]
      · rfl

/-- One turn of the loop: an operator that binds tightly enough takes the operand behind it. -/
theorem climb_operator {op : Operator} {rest : List Token} (h : least ≤ precedence op) :
    climb operand least (count + 1) x (.operator op :: rest) =
      (do
        let (right, rest) ← operand (precedence op + 1) rest
        let value ← apply op x right
        climb operand least count value rest) := by
  simp [climb, Nat.not_lt.mpr h]

end Completeness

/-- What the evaluator does with the tokens of a phrase.  An operand is read as such.  Behind a
chain, and behind the links of one, the loop has still to go on. -/
def Evaluates : Phrase → List Token → Tree → Prop
  | .operand, ts, t => ∀ depth rest, t.nesting ≤ depth →
      operandWith (valueAt depth) (ts ++ rest) = t.outcome.map (·, rest)
  | .chain tier, ts, t => ∀ depth least rest, t.nesting ≤ depth → least ≤ tier.precedence →
      Closed tier.part.level rest → ∃ count, rest.length ≤ count ∧
        valueAt (depth + 1) least (ts ++ rest) =
          t.outcome >>= fun v => climb (valueAt depth) least count v rest
  | .links tier left, ts, t => ∀ depth least count rest, t.nesting ≤ depth →
      least ≤ tier.precedence → Closed tier.part.level rest → (ts ++ rest).length ≤ count →
        ∃ count', rest.length ≤ count' ∧
          (left.outcome >>= fun x => climb (valueAt depth) least count x (ts ++ rest)) =
            t.outcome >>= fun v => climb (valueAt depth) least count' v rest

/-- A part of a chain is read up to the loop behind it. -/
theorem Evaluates.part {tier : Tier} {ts : List Token} {t : Tree} {depth least : Nat}
    (h : Evaluates tier.part ts t) (hdepth : t.nesting ≤ depth)
    (hleast : least ≤ tier.part.level) (rest : List Token) :
    ∃ count, rest.length ≤ count ∧ valueAt (depth + 1) least (ts ++ rest) =
      t.outcome >>= fun v => climb (valueAt depth) least count v rest := by
  cases tier with
  | sums => exact h depth least rest hdepth hleast (closed_signPrecedence _)
  | products =>
      refine ⟨rest.length, Nat.le_refl _, ?_⟩
      rw [valueAt, h depth rest hdepth]
      cases t.outcome <;> rfl

/-- A part of a chain is read as a whole where nothing behind it would go on with it. -/
theorem Evaluates.part_closed {tier : Tier} {ts rest : List Token} {t : Tree} {depth : Nat}
    (h : Evaluates tier.part ts t) (hdepth : t.nesting < depth)
    (hrest : Closed tier.part.level rest) :
    valueAt depth tier.part.level (ts ++ rest) = t.outcome.map (·, rest) := by
  obtain ⟨depth, rfl⟩ := Nat.exists_eq_add_one_of_ne_zero (Nat.ne_zero_of_lt hdepth)
  obtain ⟨count, _, heq⟩ := h.part (Nat.le_of_lt_succ hdepth) (Nat.le_refl _) rest
  rw [heq]
  simp only [climb_closed hrest]
  cases t.outcome <;> rfl

/-- What stands behind a sign is read as a whole, whatever comes behind it. -/
theorem Evaluates.signed {ts : List Token} {t : Tree} {depth : Nat}
    (h : Evaluates .operand ts t) (hdepth : t.nesting < depth) (rest : List Token) :
    valueAt depth signPrecedence (ts ++ rest) = t.outcome.map (·, rest) :=
  @Evaluates.part_closed .products ts rest t depth h hdepth (closed_signPrecedence rest)

/-- **Completeness.**  The evaluator computes the value of every derivation. -/
theorem Derives.evaluates {p : Phrase} {ts : List Token} {t : Tree} (h : Derives p ts t) :
    Evaluates p ts t := by
  induction h with
  | number hread =>
      intro depth rest _
      simp [operandWith, hread, Tree.outcome_number, Except.map, bind, Except.bind, pure,
        Except.pure]
  | @plus ts t _ ih =>
      intro depth rest hdepth
      rw [Tree.outcome_plus]
      exact ih.signed hdepth rest
  | @minus ts t _ ih =>
      intro depth rest hdepth
      simp only [List.cons_append, operandWith, ih.signed hdepth rest, Tree.outcome_minus]
      cases t.outcome <;> rfl
  | @group ts t _ ih =>
      intro depth rest hdepth
      obtain ⟨depth, rfl⟩ := Nat.exists_eq_add_one_of_ne_zero (Nat.ne_zero_of_lt hdepth)
      obtain ⟨count, _, hread⟩ := ih depth 0 (.closing :: rest) (Nat.le_of_lt_succ hdepth)
        (Nat.zero_le _) (closed_closing _ _)
      simp only [climb_closed (closed_closing _ _)] at hread
      simp only [List.cons_append, List.append_assoc, List.nil_append, operandWith, hread,
        Tree.outcome_group]
      cases t.outcome <;> rfl
  | @chain tier ts us left t _ hlinks ihfirst ihlinks =>
      intro depth least rest hdepth hleast hrest
      have hpart : least ≤ tier.part.level := by
        rw [Tier.part_level]
        exact Nat.le_succ_of_le hleast
      obtain ⟨count, hcount, hfirst⟩ :=
        ihfirst.part (Nat.le_trans hlinks.nesting_le hdepth) hpart (us ++ rest)
      rw [List.append_assoc, hfirst]
      exact ihlinks depth least count rest hdepth hleast hrest hcount
  | noLink =>
      intro depth least count rest _ _ _ hcount
      exact ⟨count, hcount, rfl⟩
  | @link tier op ts us left right t htier _ hlinks ihright ihlinks =>
      intro depth least count rest hdepth hleast hrest hcount
      have hprecedence : precedence op = tier.precedence := by rw [precedence_tierOf, htier]
      have hnesting : right.nesting < depth :=
        Nat.lt_of_lt_of_le (Nat.le_max_right _ _) (Nat.le_trans hlinks.nesting_le hdepth)
      have hread := ihright.part_closed hnesting (hlinks.links_closed hrest)
      rw [Tier.part_level, ← hprecedence] at hread
      cases count with
      | zero => simp at hcount
      | succ count =>
          simp only [List.cons_append, List.append_assoc, List.length_cons] at hcount ⊢
          obtain ⟨count', hcount', heq⟩ := ihlinks depth least count rest hdepth hleast hrest
            (by simp only [List.length_append] at hcount ⊢; omega)
          refine ⟨count', hcount', ?_⟩
          rw [← heq, Tree.outcome_binary]
          simp only [climb_operator (hprecedence ▸ hleast), hread]
          cases left.outcome with
          | error e => rfl
          | ok x => cases right.outcome <;> rfl

/-- The tokens of a derivation that does not nest too deep have the value of its tree. -/
theorem DerivesExpression.evaluateTokens {ts : List Token} {t : Tree}
    (h : DerivesExpression ts t) (hnesting : t.nesting < depthLimit) :
    evaluateTokens ts = t.outcome := by
  obtain ⟨count, _, hread⟩ := h.evaluates (depthLimit - 1) 0 [] (Nat.le_sub_one_of_lt hnesting)
    (Nat.zero_le _) (closed_nil _)
  simp only [climb_closed (closed_nil _), List.append_nil] at hread
  change (valueAt (depthLimit - 1 + 1) 0 ts >>= _) = _
  rw [hread]
  cases t.outcome <;> rfl

/-- What the evaluator is asked for at a precedence. -/
def phraseAt : Nat → Phrase
  | 0 | 1 => .chain .sums
  | 2 => .chain .products
  | _ => .operand

/-- What binds more tightly than an operator is a part of its tier. -/
theorem phraseAt_above (op : Operator) : phraseAt (precedence op + 1) = (tierOf op).part := by
  cases op <;> rfl

/-- Whatever is read is a phrase with its value, and no operator that is tight enough is left. -/
def Sound (read : Nat → List Token → Reading) : Prop :=
  ∀ least tokens v rest, read least tokens = .ok (v, rest) →
    ∃ ts t, tokens = ts ++ rest ∧ Derives (phraseAt least) ts t ∧ t.value = some v ∧
      Closed least rest

/-- No links leave the tree on their left as it is. -/
theorem Derives.of_no_links {tier : Tier} {left t : Tree}
    (h : Derives (.links tier left) [] t) : t = left := by
  generalize hts : ([] : List Token) = ts at h
  cases h with
  | noLink => rfl
  | link _ _ _ => cases hts

/-- Reading an operand is sound if reading what stands inside it is. -/
theorem operandWith_sound {inner : Nat → List Token → Reading} (hinner : Sound inner)
    {tokens rest : List Token} {v : Binary64} (h : operandWith inner tokens = .ok (v, rest)) :
    ∃ ts t, tokens = ts ++ rest ∧ Derives .operand ts t ∧ t.value = some v := by
  unfold operandWith at h
  split at h
  · cases h
  · obtain ⟨ts, t, rfl, hderives, hvalue, _⟩ := hinner _ _ _ _ h
    exact ⟨_, _, rfl, hderives.plus, hvalue⟩
  · obtain ⟨⟨w, rest'⟩, hread, heq⟩ := bind_eq_ok h
    obtain ⟨ts, t, rfl, hderives, hvalue, _⟩ := hinner _ _ _ _ hread
    cases heq
    exact ⟨_, _, rfl, hderives.minus, by simp [Tree.value, hvalue]⟩
  · obtain ⟨⟨w, rest'⟩, hread, heq⟩ := bind_eq_ok h
    obtain ⟨ts, t, rfl, hderives, hvalue, _⟩ := hinner _ _ _ _ hread
    dsimp only at heq
    split at heq
    · cases heq
      exact ⟨_, _, by simp, hderives.group, hvalue⟩
    · cases heq
  · obtain ⟨x, hread, heq⟩ := bind_eq_ok h
    cases heq
    exact ⟨_, _, rfl, .number hread, rfl⟩
  · cases h

/-- What climbing reads behind a tree: links of products and then links of sums.  There are none of
the former where no product can go on, and none of a tier that binds too loosely. -/
structure Climbed (least : Nat) (left : Tree) (tokens rest : List Token) (v : Binary64)
    (products sums : List Token) (middle whole : Tree) : Prop where
  tokens_eq : tokens = products ++ sums ++ rest
  derives_products : Derives (.links .products left) products middle
  derives_sums : Derives (.links .sums middle) sums whole
  value_eq : whole.value = some v
  closed : Closed least rest
  no_product : Closed Tier.products.precedence tokens → products = []
  no_sum : Tier.products.precedence ≤ least → sums = []
  no_link : signPrecedence ≤ least → products = []

/-- Nothing is read where nothing goes on. -/
theorem climbed_stop {least : Nat} {left : Tree} {tokens : List Token} {x : Binary64}
    (hleft : left.value = some x) (hclosed : Closed least tokens) :
    Climbed least left tokens tokens x [] [] left left where
  tokens_eq := rfl
  derives_products := .noLink
  derives_sums := .noLink
  value_eq := hleft
  closed := hclosed
  no_product := fun _ => rfl
  no_sum := fun _ => rfl
  no_link := fun _ => rfl

section Links

variable {least : Nat} {op : Operator} {left right middle whole : Tree}
  {ts tail rest products sums : List Token} {v : Binary64}

/-- A product goes on with the products behind it. -/
theorem Climbed.product (htight : least ≤ precedence op) (htier : tierOf op = .products)
    (hright : Derives .operand ts right)
    (h : Climbed least (.binary op left right) tail rest v products sums middle whole) :
    Climbed least left (.operator op :: (ts ++ tail)) rest v (.operator op :: (ts ++ products)) sums
      middle whole where
  tokens_eq := by simp [h.tokens_eq]
  derives_products := .link htier hright h.derives_products
  derives_sums := h.derives_sums
  value_eq := h.value_eq
  closed := h.closed
  no_product := by
    intro hclosed
    have hlt := hclosed op _ rfl
    rw [precedence_tierOf, htier] at hlt
    exact absurd hlt (Nat.lt_irrefl _)
  no_sum := h.no_sum
  no_link := by
    intro hle
    rw [precedence_tierOf, htier] at htight
    exact absurd (Nat.le_trans hle htight) (by decide)

/-- A sum stands behind all products, since none can go on with its right side. -/
theorem Climbed.sum (htight : least ≤ precedence op) (htier : tierOf op = .sums)
    (hright : Derives (.chain .products) ts right) (hstop : Closed Tier.products.precedence tail)
    (h : Climbed least (.binary op left right) tail rest v products sums middle whole) :
    Climbed least left (.operator op :: (ts ++ tail)) rest v [] (.operator op :: (ts ++ sums)) left
      whole where
  tokens_eq := by simp [h.tokens_eq, h.no_product hstop]
  derives_products := .noLink
  derives_sums := by
    have hproducts := h.derives_products
    rw [h.no_product hstop] at hproducts
    obtain rfl := hproducts.of_no_links
    exact .link htier hright h.derives_sums
  value_eq := h.value_eq
  closed := h.closed
  no_product := fun _ => rfl
  no_sum := by
    intro hle
    rw [precedence_tierOf, htier] at htight
    exact absurd (Nat.le_trans hle htight) (by decide)
  no_link := fun _ => rfl

end Links

/-- Climbing is sound if reading the operands is. -/
theorem climb_sound {operand : Nat → List Token → Reading} (hoperand : Sound operand)
    (least count : Nat) :
    ∀ (tokens rest : List Token) (x v : Binary64) (left : Tree), tokens.length ≤ count →
      left.value = some x → climb operand least count x tokens = .ok (v, rest) →
        ∃ products sums middle whole,
          Climbed least left tokens rest v products sums middle whole := by
  induction count with
  | zero =>
      intro tokens rest x v left hlen hleft h
      obtain rfl := List.length_eq_zero_iff.mp (Nat.le_zero.mp hlen)
      cases h
      exact ⟨_, _, _, _, climbed_stop hleft (closed_nil _)⟩
  | succ count ih =>
      intro tokens rest x v left hlen hleft h
      by_cases hclosed : Closed least tokens
      · rw [climb_closed hclosed] at h
        cases h
        exact ⟨_, _, _, _, climbed_stop hleft hclosed⟩
      · obtain ⟨op, tail, rfl, htight⟩ :
            ∃ op tail, tokens = .operator op :: tail ∧ least ≤ precedence op := by
          simpa [Closed] using hclosed
        rw [climb_operator htight] at h
        obtain ⟨⟨y, tail'⟩, hright, hturn⟩ := bind_eq_ok h
        dsimp only at hturn
        obtain ⟨z, happly, hloop⟩ := bind_eq_ok hturn
        obtain ⟨ts, right, rfl, hderives, hvalue, hstop⟩ := hoperand _ _ _ _ hright
        rw [phraseAt_above] at hderives
        have hbinary : (Tree.binary op left right).value = some z := by
          apply Tree.value_of_outcome
          rw [Tree.outcome_binary, Tree.outcome_of_value hleft, Tree.outcome_of_value hvalue]
          exact happly
        have hlen' : tail'.length ≤ count := by
          simp only [List.length_cons, List.length_append] at hlen
          omega
        obtain ⟨_, _, _, _, hrest⟩ := ih tail' rest z v (.binary op left right) hlen' hbinary hloop
        cases htier : tierOf op with
        | products =>
            rw [htier] at hderives
            exact ⟨_, _, _, _, hrest.product htight htier hderives⟩
        | sums =>
            rw [htier] at hderives
            rw [precedence_tierOf, htier] at hstop
            exact ⟨_, _, _, _, hrest.sum htight htier hderives hstop⟩

/-- **Soundness.**  At every depth the evaluator reads nothing but phrases of the grammar. -/
theorem valueAt_sound (depth : Nat) : Sound (valueAt depth) := by
  induction depth with
  | zero => intro least tokens v rest h; cases h
  | succ depth ih =>
      intro least tokens v rest h
      obtain ⟨⟨x, tail⟩, hoperand, hclimb⟩ := bind_eq_ok h
      obtain ⟨ts, left, rfl, hderives, hvalue⟩ := operandWith_sound ih hoperand
      obtain ⟨products, sums, middle, whole, hread⟩ :=
        climb_sound ih least tail.length tail rest x v left (Nat.le_refl _) hvalue hclimb
      have hproducts := hread.derives_products
      have hsums := hread.derives_sums
      have htail := hread.tokens_eq
      have hproduct : Derives (.chain .products) (ts ++ products) middle :=
        .chain hderives hproducts
      have hsum : Derives (.chain .sums) (ts ++ products ++ sums) whole := .chain hproduct hsums
      match least with
      | 0 | 1 => exact ⟨_, whole, by simp [htail], hsum, hread.value_eq, hread.closed⟩
      | 2 =>
          obtain rfl := hread.no_sum (Nat.le_refl _)
          obtain rfl := hsums.of_no_links
          exact ⟨_, whole, by simp [htail], hproduct, hread.value_eq, hread.closed⟩
      | least + 3 =>
          obtain rfl := hread.no_sum (by simp [Tier.precedence])
          obtain rfl := hread.no_link (by simp [signPrecedence])
          obtain rfl := hsums.of_no_links
          obtain rfl := hproducts.of_no_links
          exact ⟨ts, whole, by simp [htail], hderives, hread.value_eq, hread.closed⟩

/-- A list of tokens with a value is an expression of the grammar with that value. -/
theorem derives_of_evaluateTokens {ts : List Token} {v : Binary64}
    (h : evaluateTokens ts = .ok v) : ∃ t, DerivesExpression ts t ∧ t.value = some v := by
  obtain ⟨⟨w, rest⟩, hread, hrest⟩ := bind_eq_ok h
  obtain ⟨us, t, rfl, hderives, hvalue, _⟩ := valueAt_sound _ _ _ _ _ hread
  dsimp only at hrest
  split at hrest
  · rename_i hempty
    cases hrest
    obtain rfl := List.isEmpty_iff.mp hempty
    exact ⟨t, by rw [List.append_nil]; exact hderives, hvalue⟩
  · cases hrest

/-- **The evaluator computes the grammar.**  Where operands do not nest too deep, a list of tokens
has a value exactly if it is an expression of the grammar whose tree has that value.  The tree is
unique.  Where a divisor in it is zero, the evaluator says so, and tokens without a tree have no
value. -/
theorem evaluateTokens_iff_derives (ts : List Token)
    (hnesting : ∀ t, DerivesExpression ts t → t.nesting < depthLimit) :
    (∀ t t', DerivesExpression ts t → DerivesExpression ts t' → t = t') ∧
    (∀ v, evaluateTokens ts = .ok v ↔ ∃ t, DerivesExpression ts t ∧ t.value = some v) ∧
    (∀ t, DerivesExpression ts t → t.HasZeroDivisor →
      evaluateTokens ts = .error .divisionByZero) ∧
    ((¬ ∃ t, DerivesExpression ts t) → ∃ e, evaluateTokens ts = .error e) := by
  refine ⟨fun t t' h h' => h.unique h', fun v => ⟨derives_of_evaluateTokens, ?_⟩, ?_, ?_⟩
  · rintro ⟨t, h, hvalue⟩
    rw [h.evaluateTokens (hnesting t h), Tree.outcome_of_value hvalue]
  · intro t h hzero
    rw [h.evaluateTokens (hnesting t h),
      Tree.outcome_of_no_value (t.value_eq_none_iff.mpr hzero)]
  · intro hnone
    cases hresult : evaluateTokens ts with
    | error e => exact ⟨e, rfl⟩
    | ok v =>
        obtain ⟨t, h, _⟩ := derives_of_evaluateTokens hresult
        exact absurd ⟨t, h⟩ hnone

/-- The tree of `-8 - 3 * 2`: the sign binds most tightly, then the product. -/
theorem derives_signed_difference :
    DerivesExpression
      [.operator .minus, .number ['8'], .operator .minus, .number ['3'], .operator .times,
        .number ['2']]
      (.binary .minus (.minus (.number (.ofNat 8)))
        (.binary .times (.number (.ofNat 3)) (.number (.ofNat 2)))) := by
  have height : Derives .operand [.number ['8']] (.number (.ofNat 8)) :=
    .number (by decide +kernel)
  have hthree : Derives .operand [.number ['3']] (.number (.ofNat 3)) :=
    .number (by decide +kernel)
  have htwo : Derives .operand [.number ['2']] (.number (.ofNat 2)) :=
    .number (by decide +kernel)
  have hproduct := @Derives.chain .products _ _ _ _ hthree
    (@Derives.link .products .times _ _ _ _ _ rfl htwo .noLink)
  have hsigned := @Derives.chain .products _ _ _ _ height.minus .noLink
  exact @Derives.chain .sums _ _ _ _ hsigned
    (@Derives.link .sums .minus _ _ _ _ _ rfl hproduct .noLink)

/-- A sign in front, and a product that binds more tightly than the difference around it. -/
theorem evaluateTokens_signed_difference :
    (∀ t, DerivesExpression
      [.operator .minus, .number ['8'], .operator .minus, .number ['3'], .operator .times,
        .number ['2']] t → t.nesting < depthLimit) ∧
    evaluateTokens
      [.operator .minus, .number ['8'], .operator .minus, .number ['3'], .operator .times,
        .number ['2']] = .ok (.ofInt (-14)) := by
  have hnesting : ∀ t, DerivesExpression
      [.operator .minus, .number ['8'], .operator .minus, .number ['3'], .operator .times,
        .number ['2']] t → t.nesting < depthLimit := by
    intro t h
    rw [h.unique derives_signed_difference]
    decide
  refine ⟨hnesting, ((evaluateTokens_iff_derives _ hnesting).2.1 _).mpr ?_⟩
  exact ⟨_, derives_signed_difference, by decide +kernel⟩

end Arithmetic

end Tapeline
