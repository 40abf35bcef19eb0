import Tapeline.Proofs.Interpretation.Reported

/-!
# Joined operands

A payload for inches gives two operands with an operator between them, and its expression is the
three joined by spaces.  The tokens of that expression are the three again: a value that is its own
only token is not cut inside a longer text either, whatever signs it holds, and an operator between
two spaces is always cut.  The same holds of values and operators in turn of any length
(`tokens_spaced`).
-/

namespace Tapeline

namespace Interpretation

open Tapeline.Measure

/-- Values and operators in turn, before they are joined. -/
def alternation (first : Text) (links : List (Char × Text)) : List Text :=
  first :: links.flatMap fun link => [[link.1], link.2]

/-- Single spaces between values and operators are spaces on both sides of every operator. -/
theorem intercalate_alternation (links : List (Char × Text)) : ∀ first : Text,
    [' '].intercalate (alternation first links) = joined first links := by
  induction links with
  | nil =>
      intro first
      simp [alternation, joined]
  | cons link links ih =>
      obtain ⟨c, value⟩ := link
      intro first
      calc [' '].intercalate (first :: [c] :: alternation value links)
          = first ++ ' ' :: c :: ' ' :: [' '].intercalate (alternation value links) := by
            simp [alternation, List.intercalate_cons_cons]
        _ = joined first ((c, value) :: links) := by rw [ih, joined_cons]

/-- Operands that are their own only tokens are tokens of the text joined of them. -/
theorem tokens_intercalate {first : Text} {links : List (Char × Text)}
    (hfirst : tokens first = [first])
    (hlinks : ∀ link ∈ links,
      link.1 ∈ ['+', '-', '*', '/', '×', '÷'] ∧ tokens link.2 = [link.2]) :
    tokens ([' '].intercalate (alternation first links)) =
      first :: links.flatMap fun link => [[Operator.plainSign link.1], link.2] := by
  rw [intercalate_alternation]
  refine tokens_joined (isValue_iff.mpr hfirst) fun link hlink => ?_
  obtain ⟨hoperator, hvalue⟩ := hlinks link hlink
  exact ⟨(isSome_ofChar?_iff link.1).mpr hoperator, isValue_iff.mpr hvalue⟩

/-- The four plain signs stay as they are. -/
theorem plainSign_of_mem {c : Char} (h : c ∈ ['+', '-', '*', '/']) : Operator.plainSign c = c := by
  have hall : ['+', '-', '*', '/'].all (fun d => Operator.plainSign d = d) = true := by decide
  simpa using List.all_eq_true.mp hall c h

/-- A payload for inches with two operands and an operator has the three as its expression. -/
theorem expression?_of_triple {p : Payload} {e : Text} (hmode : p.mode = some .inches)
    (h : p.triple? = some e) : p.expression? = some e := by
  simp [Payload.expression?, hmode, h]

/-- An operand that is its own only token is given. -/
theorem stripped?_of_tokens {t : Option Text} {given : Text} (ht : t = some given)
    (h : tokens given.strip = [given.strip]) : Payload.stripped? t = some given.strip :=
  Payload.stripped?_eq_some_iff.mpr ⟨given, ht, rfl, (isValue_iff.mpr h).ne_nil⟩

/-- **Tokenizing undoes joining.**  Values that are their own only tokens, and operators between
them, are the tokens of the text joined of them by spaces, with every operator as its plain sign.
So a payload for inches whose stripped operands are such values, and whose stripped operator is one
character, has an expression whose tokens are these three, exactly so if the operator is a plain
sign. -/
theorem tokens_spaced :
    (∀ first links, tokens first = [first] →
      (∀ link ∈ links, link.1 ∈ ['+', '-', '*', '/', '×', '÷'] ∧ tokens link.2 = [link.2]) →
      tokens ([' '].intercalate (alternation first links)) =
        first :: links.flatMap fun link => [[Operator.plainSign link.1], link.2]) ∧
    ∀ (p : Payload) (a op b : Text) (c : Char), p.mode = some .inches →
      p.a = some a → p.op = some op → p.b = some b →
      tokens a.strip = [a.strip] → op.strip = [c] → c ∈ ['+', '-', '*', '/', '×', '÷'] →
      tokens b.strip = [b.strip] →
      ∃ e, p.expression? = some e ∧ tokens e = [a.strip, [Operator.plainSign c], b.strip] ∧
        (c ∈ ['+', '-', '*', '/'] → tokens e = [a.strip, op.strip, b.strip]) := by
  refine ⟨fun first links hfirst hlinks => tokens_intercalate hfirst hlinks, ?_⟩
  intro p a op b c hmode ha hop hb hatokens hsign hoperator hbtokens
  have hstripped : Payload.stripped? p.op = some [c] :=
    Payload.stripped?_eq_some_iff.mpr ⟨op, hop, hsign, List.cons_ne_nil _ _⟩
  have htriple : p.triple? =
      some ([' '].intercalate (alternation a.strip [(c, b.strip)])) := by
    simp [Payload.triple?, stripped?_of_tokens ha hatokens, hstripped,
      stripped?_of_tokens hb hbtokens, alternation]
  have htokens : tokens ([' '].intercalate (alternation a.strip [(c, b.strip)])) =
      [a.strip, [Operator.plainSign c], b.strip] := by
    refine tokens_intercalate hatokens fun link hlink => ?_
    obtain rfl := List.mem_singleton.mp hlink
    exact ⟨hoperator, hbtokens⟩
  refine ⟨_, expression?_of_triple hmode htriple, htokens, fun hplain => ?_⟩
  rw [htokens, hsign, plainSign_of_mem hplain]

/-- Values that are signs, or begin with one, or hold one, between operators. -/
theorem tokens_spaced_signs :
    [' '].intercalate (alternation ['+'] [('×', "-3/8".toList), ('-', "1e-2".toList)]) =
        "+ × -3/8 - 1e-2".toList ∧
      tokens ([' '].intercalate
          (alternation ['+'] [('×', "-3/8".toList), ('-', "1e-2".toList)])) =
        ["+".toList, "*".toList, "-3/8".toList, "-".toList, "1e-2".toList] :=
  ⟨by decide, tokens_spaced.1 ['+'] [('×', "-3/8".toList), ('-', "1e-2".toList)] (by decide)
    (by decide)⟩

end Interpretation

end Tapeline
