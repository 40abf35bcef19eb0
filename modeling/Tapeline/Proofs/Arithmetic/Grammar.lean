import Tapeline.Arithmetic.Evaluation

/-!
# The grammar of plain arithmetic

A sum is a chain of products, a product is a chain of operands, and an operand is a number, an
operand behind a sign, or a sum in parentheses:

    sum      E  →  T ((+ | -) T)*
    product  T  →  U ((* | /) U)*
    operand  U  →  (+ | -) U  |  ( E )  |  number

`Derives` is this grammar as a relation between a phrase, the tokens it covers and the tree of the
derivation, in which every chain associates to the left.  `Derives.unique` says that tokens
determine the tree.  `Tree.value` evaluates a tree and has no answer exactly where a divisor is
zero.
-/

namespace Tapeline

namespace Arithmetic

/-- The two tiers of operators. -/
inductive Tier where
  | sums
  | products
deriving DecidableEq, Repr

/-- The tier of an operator. -/
def tierOf : Operator → Tier
  | .plus | .minus => .sums
  | .times | .dividedBy => .products

/-- How tightly the operators of a tier bind. -/
def Tier.precedence : Tier → Nat
  | sums => 1
  | products => 2

/-- An expression as a tree. -/
inductive Tree where
  | number (value : Binary64)
  | plus (operand : Tree)
  | minus (operand : Tree)
  | group (inner : Tree)
  | binary (op : Operator) (left right : Tree)
deriving DecidableEq

namespace Tree

/-- An operator applied to two values, with no answer for a divisor that is zero. -/
def combine (op : Operator) (x y : Binary64) : Option Binary64 :=
  match op with
  | .plus => some (x + y)
  | .minus => some (x - y)
  | .times => some (x * y)
  | .dividedBy => if y.isZero then none else some (x / y)

/-- The value of a tree, unless a divisor in it is zero. -/
def value : Tree → Option Binary64
  | number x => some x
  | plus t => t.value
  | minus t => t.value.map (- ·)
  | group t => t.value
  | binary op left right => do combine op (← left.value) (← right.value)

/-- Somewhere in the tree a value is divided by zero. -/
def HasZeroDivisor : Tree → Prop
  | number _ => False
  | plus t => t.HasZeroDivisor
  | minus t => t.HasZeroDivisor
  | group t => t.HasZeroDivisor
  | binary op left right => left.HasZeroDivisor ∨ right.HasZeroDivisor ∨
      (op = .dividedBy ∧ ∃ y, right.value = some y ∧ y.isZero = true)

/-- Division by zero is the only reason for a tree to have no value. -/
theorem value_eq_none_iff (t : Tree) : t.value = none ↔ t.HasZeroDivisor := by
  induction t with
  | number x => simp [value, HasZeroDivisor]
  | plus t ih => exact ih
  | minus t ih => simp [value, HasZeroDivisor, ih]
  | group t ih => exact ih
  | binary op left right ihl ihr =>
      rw [HasZeroDivisor, ← ihl, ← ihr]
      cases hl : left.value with
      | none => simp [value, hl]
      | some x =>
          cases hr : right.value with
          | none => simp [value, hl, hr]
          | some y => cases op <;> simp [value, hl, hr, combine]

/-- How many operands stand within one another: behind a sign, in parentheses, or to the right of
an operator. -/
def nesting : Tree → Nat
  | number _ => 0
  | plus t => t.nesting + 1
  | minus t => t.nesting + 1
  | group t => t.nesting + 1
  | binary _ left right => max left.nesting (right.nesting + 1)

end Tree

/-- What a stretch of tokens can be: an operand, the whole chain of a tier, or the links of a chain
behind the tree that was read so far. -/
inductive Phrase where
  | operand
  | chain (tier : Tier)
  | links (tier : Tier) (left : Tree)

/-- What the chain of a tier is made of. -/
def Tier.part : Tier → Phrase
  | sums => .chain .products
  | products => .operand

/-- The derivations of the grammar. -/
inductive Derives : Phrase → List Token → Tree → Prop
  | number {t : Text} {x : Binary64} (hread : Arithmetic.number t = .ok x) :
      Derives .operand [.number t] (.number x)
  | plus {ts : List Token} {t : Tree} (hoperand : Derives .operand ts t) :
      Derives .operand (.operator .plus :: ts) (.plus t)
  | minus {ts : List Token} {t : Tree} (hoperand : Derives .operand ts t) :
      Derives .operand (.operator .minus :: ts) (.minus t)
  | group {ts : List Token} {t : Tree} (hinner : Derives (.chain .sums) ts t) :
      Derives .operand (.opening :: (ts ++ [.closing])) (.group t)
  | chain {tier : Tier} {ts us : List Token} {left t : Tree}
      (hfirst : Derives tier.part ts left) (hlinks : Derives (.links tier left) us t) :
      Derives (.chain tier) (ts ++ us) t
  | noLink {tier : Tier} {left : Tree} : Derives (.links tier left) [] left
  | link {tier : Tier} {op : Operator} {ts us : List Token} {left right t : Tree}
      (htier : tierOf op = tier) (hright : Derives tier.part ts right)
      (hlinks : Derives (.links tier (.binary op left right)) us t) :
      Derives (.links tier left) (.operator op :: (ts ++ us)) t

/-- The tokens are a whole expression with this tree. -/
abbrev DerivesExpression : List Token → Tree → Prop :=
  Derives (.chain .sums)

/-- Operators have the precedence of their tier. -/
theorem precedence_tierOf (op : Operator) : precedence op = (tierOf op).precedence := by
  cases op <;> rfl

/-- How tightly an operator must bind to go on with a phrase. -/
def Phrase.level : Phrase → Nat
  | operand => signPrecedence
  | chain tier => tier.precedence
  | links tier _ => tier.precedence

/-- The parts of a chain bind one step more tightly than the chain. -/
theorem Tier.part_level (tier : Tier) : tier.part.level = tier.precedence + 1 := by
  cases tier <;> rfl

/-- Tokens that do not start with an operator of at least the given precedence. -/
def Closed (least : Nat) (tokens : List Token) : Prop :=
  ∀ op rest, tokens = .operator op :: rest → precedence op < least

/-- No more tokens end every phrase. -/
theorem closed_nil (least : Nat) : Closed least [] := by
  intro op rest h
  cases h

theorem closed_closing (least : Nat) (rest : List Token) : Closed least (.closing :: rest) := by
  intro op rest' h
  cases h

/-- No operator binds as tightly as a sign. -/
theorem closed_signPrecedence (tokens : List Token) : Closed signPrecedence tokens := by
  intro op rest _
  cases op <;> decide

/-- What ends a looser phrase ends a tighter one. -/
theorem Closed.mono {least most : Nat} {tokens : List Token} (h : Closed least tokens)
    (hle : least ≤ most) : Closed most tokens := by
  intro op rest heq
  exact Nat.lt_of_lt_of_le (h op rest heq) hle

/-- Behind a part of a chain comes nothing that would go on with the part: either the next link of
the chain or what closes the chain. -/
theorem Derives.links_closed {tier : Tier} {left t : Tree} {us rest : List Token}
    (h : Derives (.links tier left) us t) (hrest : Closed tier.part.level rest) :
    Closed tier.part.level (us ++ rest) := by
  cases h with
  | noLink => exact hrest
  | link htier _ _ =>
      intro op rest' heq
      simp only [List.cons_append, List.cons.injEq, Token.operator.injEq] at heq
      obtain ⟨rfl, _⟩ := heq
      rw [Tier.part_level, precedence_tierOf, htier]
      exact Nat.lt_succ_self _

/-- **Derivations are deterministic from the left.**  Two derivations of one phrase from the same
tokens, neither of which could go on, cover the same tokens with the same tree. -/
theorem Derives.deterministic {p : Phrase} {ts : List Token} {t : Tree} (h : Derives p ts t) :
    ∀ {ts' rest rest' : List Token} {t' : Tree}, Derives p ts' t' → ts ++ rest = ts' ++ rest' →
      Closed p.level rest → Closed p.level rest' → ts = ts' ∧ t = t' := by
  induction h with
  | number hread =>
      intro ts' rest rest' t' h' heq _ _
      cases h' with
      | number hread' => simp_all
      | _ => simp at heq
  | plus _ ih =>
      intro ts' rest rest' t' h' heq hrest hrest'
      cases h' with
      | plus hoperand' =>
          obtain ⟨rfl, rfl⟩ := ih hoperand' (List.cons.inj heq).2 hrest hrest'
          exact ⟨rfl, rfl⟩
      | _ => simp at heq
  | minus _ ih =>
      intro ts' rest rest' t' h' heq hrest hrest'
      cases h' with
      | minus hoperand' =>
          obtain ⟨rfl, rfl⟩ := ih hoperand' (List.cons.inj heq).2 hrest hrest'
          exact ⟨rfl, rfl⟩
      | _ => simp at heq
  | group _ ih =>
      intro ts' rest rest' t' h' heq _ _
      cases h' with
      | group hinner' =>
          simp only [List.cons_append, List.append_assoc, List.cons.injEq, true_and,
            List.nil_append] at heq
          obtain ⟨rfl, rfl⟩ := ih hinner' heq (closed_closing _ _) (closed_closing _ _)
          exact ⟨rfl, rfl⟩
      | _ => simp at heq
  | @chain tier ts us left t _ hlinks ihfirst ihlinks =>
      intro ts' rest rest' t' h' heq hrest hrest'
      cases h' with
      | chain hfirst' hlinks' =>
          have hpart : tier.precedence ≤ tier.part.level := by
            rw [Tier.part_level]
            exact Nat.le_succ _
          rw [List.append_assoc, List.append_assoc] at heq
          obtain ⟨rfl, rfl⟩ := ihfirst hfirst' heq (hlinks.links_closed (hrest.mono hpart))
            (hlinks'.links_closed (hrest'.mono hpart))
          obtain ⟨rfl, rfl⟩ := ihlinks hlinks' (List.append_cancel_left heq) hrest hrest'
          exact ⟨rfl, rfl⟩
  | @noLink tier left =>
      intro ts' rest rest' t' h' heq hrest _
      cases h' with
      | noLink => exact ⟨rfl, rfl⟩
      | @link _ op _ _ _ _ _ htier _ _ =>
          have hlt := hrest op _ heq
          rw [precedence_tierOf, htier] at hlt
          exact absurd hlt (Nat.lt_irrefl _)
  | @link tier op ts us left right t htier _ hlinks ihright ihlinks =>
      intro ts' rest rest' t' h' heq hrest hrest'
      cases h' with
      | noLink =>
          have hlt := hrest' op _ heq.symm
          rw [precedence_tierOf, htier] at hlt
          exact absurd hlt (Nat.lt_irrefl _)
      | link htier' hright' hlinks' =>
          have hpart : tier.precedence ≤ tier.part.level := by
            rw [Tier.part_level]
            exact Nat.le_succ _
          simp only [List.cons_append, List.append_assoc, List.cons.injEq,
            Token.operator.injEq] at heq
          obtain ⟨rfl, heq⟩ := heq
          obtain ⟨rfl, rfl⟩ := ihright hright' heq (hlinks.links_closed (hrest.mono hpart))
            (hlinks'.links_closed (hrest'.mono hpart))
          obtain ⟨rfl, rfl⟩ := ihlinks hlinks' (List.append_cancel_left heq) hrest hrest'
          exact ⟨rfl, rfl⟩

/-- **Tokens determine their tree.** -/
theorem Derives.unique {ts : List Token} {t t' : Tree} (h : DerivesExpression ts t)
    (h' : DerivesExpression ts t') : t = t' :=
  (h.deterministic h' rfl (closed_nil _) (closed_nil _)).2

end Arithmetic

end Tapeline
