import Tapeline.Proofs.Arithmetic.Climbing
import Tapeline.Proofs.Arithmetic.Scanning
import Tapeline.Proofs.Arithmetic.Tiers
import Tapeline.Proofs.Binary64.Decimal
import Tapeline.Proofs.Measure.Decimals

/-!
# Plain arithmetic and measurements agree on decimals

Decimal literals joined by operators are both a plain expression and a measurement.  The evaluator
of plain arithmetic computes the value of the folded tree, the reduction of measurements the fold of
the values, and the operators of the two notations preserve `Answers`: where the tree has a value,
the measurement has the same number, and where a divisor in the tree is zero, the measurement is
invalid (`Answers.binary`).  Hence `evaluate_agrees_with_reduce`.
-/

namespace Tapeline

open Arithmetic Tapeline.Measure

/-- The measurement `y` answers the tree: the same number if the tree has a value, and an invalid
value if a divisor in it is zero. -/
def Answers (t : Tree) (y : Binary64) : Prop :=
  match t.value with
  | some v => v.SameNumber y
  | none => y = .nan

/-- An invalid value on the left makes a measurement invalid. -/
theorem measured_nan_left (op : Operator) (y : Binary64) : measured op .nan y = .nan := by
  cases op with
  | plus => exact Binary64.nan_add y
  | minus => exact Binary64.nan_sub y
  | times => exact Binary64.nan_mul y
  | dividedBy =>
      change quotient .nan y = .nan
      unfold quotient
      split
      · rfl
      · exact Binary64.nan_div y

/-- An invalid value on the right makes a measurement invalid. -/
theorem measured_nan_right (op : Operator) (x : Binary64) : measured op x .nan = .nan := by
  cases op with
  | plus => exact Binary64.add_nan x
  | minus => exact Binary64.sub_nan x
  | times => exact Binary64.mul_nan x
  | dividedBy => exact Binary64.div_nan x

/-- **Operators preserve answers.** -/
theorem Answers.binary (op : Operator) (left right : Tree) (x y : Binary64) (hx : Answers left x)
    (hy : Answers right y) : Answers (.binary op left right) (measured op x y) := by
  cases hl : left.value with
  | none =>
      obtain rfl : x = .nan := by simpa [Answers, hl] using hx
      simpa [Answers, Tree.value, hl] using measured_nan_left op y
  | some v =>
      cases hr : right.value with
      | none =>
          obtain rfl : y = .nan := by simpa [Answers, hr] using hy
          simpa [Answers, Tree.value, hl, hr] using measured_nan_right op x
      | some w =>
          have hv : v.SameNumber x := by simpa [Answers, hl] using hx
          have hw : w.SameNumber y := by simpa [Answers, hr] using hy
          cases op with
          | plus => simpa [Answers, Tree.value, hl, hr, Tree.combine, measured] using hv.add hw
          | minus => simpa [Answers, Tree.value, hl, hr, Tree.combine, measured] using hv.sub hw
          | times => simpa [Answers, Tree.value, hl, hr, Tree.combine, measured] using hv.mul hw
          | dividedBy =>
              by_cases hzero : w.isZero = true
              · have hyzero : y.isZero = true := hw.isZero_eq ▸ hzero
                simp [Answers, Tree.value, hl, hr, Tree.combine, hzero, measured, quotient, hyzero]
              · have hwzero : w.isZero = false := by simpa using hzero
                have hyzero : y.isZero = false := hw.isZero_eq ▸ hwzero
                simpa [Answers, Tree.value, hl, hr, Tree.combine, hwzero, measured, quotient,
                  hyzero] using hv.div hw hwzero

/-- A minus in front changes the sign of the number behind it. -/
theorem Numeral.neg_value (n : Numeral) : -n.value false = n.value true := by
  unfold Numeral.value
  rw [Binary64.ofDecimal_eq_ofFraction, Binary64.ofDecimal_eq_ofFraction]
  exact Binary64.neg_ofFraction _ _ _

/-- The tree of a literal has its value. -/
theorem Literal.value_tree (l : Literal) : l.tree.value = some l.value := by
  unfold Literal.tree Literal.value Literal.isNegative
  cases l.sign with
  | none => rfl
  | some negative =>
      cases negative with
      | false => rfl
      | true => simp [Tree.value, Numeral.neg_value]

/-- A literal answers itself. -/
theorem Literal.answers (l : Literal) : Answers l.tree (plainZero l.value) := by
  simpa [Answers, l.value_tree] using sameNumber_plainZero l.value

/-- A first literal, and further literals each behind an operator between two spaces. -/
def joinedLiterals (first : Literal) (links : List (Glyph × Literal)) : Text :=
  joined first.text (links.map fun link => (link.1.char, link.2.text))

/-- The tree of a joined text of literals. -/
def joinedTree (first : Literal) (links : List (Glyph × Literal)) : Tree :=
  foldTiers Tree.binary none first.tree (links.map fun link => (link.1.op, link.2.tree))

/-- Plain arithmetic evaluates the folded tree of literals. -/
theorem evaluate_joinedLiterals (first : Literal) (links : List (Glyph × Literal)) :
    Arithmetic.evaluate (joinedLiterals first links) =
      match (joinedTree first links).value with
      | none => .error .divisionByZero
      | some v =>
        if v.isFinite then .ok v else .error (.notFinite (joinedLiterals first links)) := by
  have hderives : DerivesExpression
      (first.tokens ++ links.flatMap fun link => .operator link.1.op :: link.2.tokens)
      (joinedTree first links) :=
    derivesExpression_foldTiers (fun link => link.1.op) (fun link => link.2.tree)
      (fun link => link.2.tokens) links (fun link _ => link.2.derives_tree) first.derives_tree
  have hnesting : (joinedTree first links).nesting ≤ 3 := by
    unfold joinedTree
    refine nesting_foldTiers (fun link => link.1.op) (fun link => link.2.tree) links
      (fun link _ => link.2.nesting_tree) none first.tree
      (Nat.le_succ_of_le first.nesting_tree) ?_
    intro sum op h
    cases h
  have heval := hderives.evaluateTokens (Nat.lt_of_le_of_lt hnesting (by decide))
  have hempty : (first.tokens ++
      links.flatMap fun link => .operator link.1.op :: link.2.tokens).isEmpty = false := by
    have hfirst : first.tokens ≠ [] := by
      unfold Literal.tokens
      split <;> simp
    simp [hfirst]
  have htokens : tokens? (joinedLiterals first links) = .ok _ := tokens?_joined links first
  rw [Arithmetic.evaluate_tokens htokens]
  simp only [bind, Except.bind, hempty, Bool.false_eq_true, if_false, heval, Tree.outcome]
  cases (joinedTree first links).value with
  | none => rfl
  | some v =>
      by_cases hfinite : v.isFinite = true
      · simp [hfinite, pure, Except.pure]
      · simp [hfinite, throw, throwThe, MonadExceptOf.throw]

/-- **The two evaluators agree** on every joined text of literals.  Where plain arithmetic has a
value, the measurement is the same number; where it fails, it divides by zero or has no finite
result, and the measurement is not finite either. -/
theorem evaluate_agrees_with_reduce (first : Literal) (links : List (Glyph × Literal)) :
    (∀ v, Arithmetic.evaluate (joinedLiterals first links) = .ok v →
      ∃ y, reduce (tokens (joinedLiterals first links)) = .ok y ∧
        y.isFinite = true ∧ v.SameNumber y) ∧
    (∀ error, Arithmetic.evaluate (joinedLiterals first links) = .error error →
      (error = .divisionByZero ∨ error = .notFinite (joinedLiterals first links)) ∧
      ∃ y, reduce (tokens (joinedLiterals first links)) = .ok y ∧ y.isFinite = false) := by
  have hreduce := reduce_joined (fun link : Glyph × Literal => link.1)
    (fun link (_ : link ∈ links) => link.2.reads) first.reads
  have hanswers : Answers (joinedTree first links)
      (foldTiers measured none (plainZero first.value)
        (links.map fun link => (link.1.op, plainZero link.2.value))) := by
    unfold joinedTree
    exact (foldTiers_rel Tree.binary Answers.binary (fun link => link.1.op)
      (fun link => link.2.tree) (fun link => plainZero link.2.value) links
      (fun link _ => link.2.answers) _ _ first.answers).1
  rw [evaluate_joinedLiterals]
  unfold Answers at hanswers
  cases hvalue : (joinedTree first links).value with
  | none =>
      rw [hvalue] at hanswers
      refine ⟨fun v h => (by cases h), fun error h => ?_⟩
      cases h
      exact ⟨Or.inl rfl, _, hreduce, by rw [hanswers]; rfl⟩
  | some v =>
      rw [hvalue] at hanswers
      by_cases hfinite : v.isFinite = true
      · simp only [hfinite, if_true]
        refine ⟨fun w h => ?_, fun error h => (by cases h)⟩
        cases h
        exact ⟨_, hreduce, hanswers.isFinite_eq ▸ hfinite, hanswers⟩
      · have hinfinite : v.isFinite = false := by simpa using hfinite
        simp only [hinfinite, Bool.false_eq_true, if_false]
        refine ⟨fun w h => (by cases h), fun error h => ?_⟩
        cases h
        exact ⟨Or.inr rfl, _, hreduce, hanswers.isFinite_eq ▸ hinfinite⟩

end Tapeline
