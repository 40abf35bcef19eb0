import Tapeline.Proofs.Arithmetic.Climbing
import Tapeline.Proofs.Arithmetic.Scanning

/-!
# What plain text is cut into

A text that is written in decimal digits, blanks and signs is always cut into tokens, and no
character of it is lost but blanks and percent signs.  The digits that the scan takes and that are
no decimal digits cannot stand in it, so every number is a decimal literal that reads, or a lone
point (`PlainTokens`).

Hence the evaluation of such a text never stops at a number that does not read.  Step by step the
evaluator hands on tokens whose numbers read (`valueAt_legible`), and what is left are faults of the
form, divisors that are zero and operands that nest too deep (`isPlain_lexes`).
-/

namespace Tapeline

namespace Arithmetic

/-! ## Plain text -/

/-- Making signs plain leaves a character as it is, or makes it a product or a quotient. -/
theorem plainSign_cases (c : Char) :
    Operator.plainSign c = c ∨ Operator.plainSign c = '*' ∨ Operator.plainSign c = '/' := by
  unfold Operator.plainSign
  split <;> simp

/-- Blanks are told apart from other characters in plain signs as before. -/
theorem isBlank_plainSign (c : Char) : isBlank (Operator.plainSign c) = isBlank c := by
  unfold Operator.plainSign
  split
  · decide
  · decide
  · rfl

/-- A plain text has the characters of a text without its percent signs, as plain signs. -/
theorem mem_plain {s : Text} {c : Char} :
    c ∈ plain s ↔ ∃ d ∈ s, d ≠ '%' ∧ Operator.plainSign d = c := by
  simp [plain, and_assoc]

/-- The parts of a plain text are those of the expression. -/
theorem plain_eq_append {s u v : Text} (h : plain s = u ++ v) :
    ∃ s₁ s₂, s = s₁ ++ s₂ ∧ plain s₁ = u ∧ plain s₂ = v := by
  obtain ⟨kept₁, kept₂, hkept, rfl, rfl⟩ := List.map_eq_append_iff.mp h
  obtain ⟨s₁, s₂, rfl, rfl, rfl⟩ := List.filter_eq_append_iff.mp hkept
  exact ⟨s₁, s₂, rfl, rfl, rfl⟩

/-- Leaving out the blanks commutes with making signs plain. -/
theorem filter_plain (s : Text) : (plain s).filter (fun c => !isBlank c) =
    (s.filter fun c => c != '%' && !isBlank c).map Operator.plainSign := by
  simp [plain, List.filter_map, Function.comp_def, isBlank_plainSign, List.filter_filter,
    Bool.and_comm]

/-- What is plainly blank is blank but for percent signs. -/
theorem blank_of_plain {gap : Text} (h : ∀ c ∈ plain gap, isBlank c = true) :
    ∀ c ∈ gap, isBlank c = true ∨ c = '%' := by
  intro c hc
  by_cases hpercent : c = '%'
  · exact Or.inr hpercent
  · have hblank := h _ (mem_plain.mpr ⟨c, hc, hpercent, rfl⟩)
    rw [isBlank_plainSign] at hblank
    exact Or.inl hblank

/-- Every sign but the percent sign is a token, or starts a number. -/
theorem taken_of_mem_signs {d : Char} (hd : d ∈ signs) (hpercent : d ≠ '%') :
    ((Token.ofChar? (Operator.plainSign d)).isSome ||
      (Place.start? (Operator.plainSign d)).isSome) = true := by
  have hall : signs.all (fun d => d == '%' || (Token.ofChar? (Operator.plainSign d)).isSome ||
      (Place.start? (Operator.plainSign d)).isSome) = true := by decide
  have htaken := List.all_eq_true.mp hall d hd
  simpa [hpercent] using htaken

section IsPlain

variable {s : Text} (hs : isPlain s = true)

include hs

/-- The digits that the scan meets are decimal. -/
theorem isDecimalDigit_of_mem_plain {c : Char} (hmem : c ∈ plain s) (hc : isDigitLike c = true) :
    isDecimalDigit c = true := by
  obtain ⟨d, hd, _, rfl⟩ := mem_plain.mp hmem
  rcases plainSign_cases d with hsame | htimes | hdivided
  · rw [hsame] at hc ⊢
    exact isDecimalDigit_of_isPlain hs hc hd
  · rw [htimes] at hc
    exact absurd hc (by decide)
  · rw [hdivided] at hc
    exact absurd hc (by decide)

/-- **The scan does not fail.** -/
theorem exists_tokens : ∃ tokens, tokens? s = .ok tokens := by
  cases htokens : tokens? s with
  | ok tokens => exact ⟨tokens, rfl⟩
  | error c =>
      obtain ⟨hmem, hblank, hsign, hstart⟩ := scan_error (map_eq_error_iff.mp htokens)
      obtain ⟨d, hd, hpercent, rfl⟩ := mem_plain.mp hmem
      rw [isBlank_plainSign] at hblank
      rcases mem_isPlain hs hd with hdigit | hspace | hmark
      · rw [(plain_digit hdigit).2] at hstart
        simp [Place.start?, isDigitLike_of_isDecimalDigit hdigit] at hstart
      · rw [hblank] at hspace
        cases hspace
      · have htaken := taken_of_mem_signs hmark hpercent
        rw [hsign, hstart] at htaken
        cases htaken

/-- **Every number but a lone point is a literal.** -/
theorem exists_literal {tokens : List Token} {t : Text} (htokens : tokens? s = .ok tokens)
    (hmem : .number t ∈ tokens) (hpoint : t ≠ ['.']) :
    ∃ l : Literal, l.unsigned = t := by
  have hlexed := tokens?_eq_ok_iff.mp htokens
  refine Literal.exists_of_isRun (hlexed.isRun t hmem) (fun c hc hdigit => ?_) hpoint
  have hkept : c ∈ tokens.flatMap Token.text := List.mem_flatMap.mpr ⟨_, hmem, hc⟩
  rw [hlexed.flatMap_text] at hkept
  exact isDecimalDigit_of_mem_plain hs (List.mem_filter.mp hkept).1 hdigit

end IsPlain

/-! ## Numbers that read -/

/-- Tokens whose numbers read, but for lone points. -/
def AllRead (tokens : List Token) : Prop :=
  ∀ t, .number t ∈ tokens → t = ['.'] ∨ ∃ x, readNumber t = .ok x

theorem AllRead.of_cons {token : Token} {tokens : List Token} (h : AllRead (token :: tokens)) :
    AllRead tokens :=
  fun t hmem => h t (List.mem_cons_of_mem _ hmem)

/-- The result fails at no number that does not read, and what it has for a value has the
property. -/
inductive Legible {α : Type} (P : α → Prop) : Except EvaluationError α → Prop
  | ok {a : α} (holds : P a) : Legible P (.ok a)
  | error {e : EvaluationError} (other : ∀ fault, e ≠ .unreadable fault) : Legible P (.error e)

/-- What is done behind a legible result. -/
theorem Legible.bind {α β : Type} {P : α → Prop} {Q : β → Prop} {r : Except EvaluationError α}
    {f : α → Except EvaluationError β} (h : Legible P r) (hf : ∀ a, P a → Legible Q (f a)) :
    Legible Q (r >>= f) := by
  cases h with
  | ok holds => exact hf _ holds
  | error other => exact .error other

/-- A single point is invalid as a number, and everything else that is scanned as one has a value.
-/
theorem number_legible {t : Text} (h : t = ['.'] ∨ ∃ x, readNumber t = .ok x) :
    Legible (fun _ => True) (number t) := by
  unfold number
  split
  · exact .error (by simp)
  · rename_i hpoint
    obtain ⟨x, hx⟩ := h.resolve_left hpoint
    rw [hx]
    exact .ok trivial

/-- An operation gives a value or divides by zero. -/
theorem apply_legible (op : Operator) (x y : Binary64) :
    Legible (fun _ => True) (apply op x y) := by
  cases op with
  | dividedBy =>
      simp only [apply]
      split
      · exact .error (by simp)
      · exact .ok trivial
  | _ => exact .ok trivial

/-- A reading of tokens whose numbers read leaves such tokens. -/
def Hands (read : Nat → List Token → Reading) : Prop :=
  ∀ least tokens, AllRead tokens → Legible (fun p => AllRead p.2) (read least tokens)

section Steps

variable {read : Nat → List Token → Reading} (hread : Hands read)

include hread

/-- An operand that is read leaves tokens that read as well. -/
theorem operandWith_legible {tokens : List Token} (h : AllRead tokens) :
    Legible (fun p => AllRead p.2) (operandWith read tokens) := by
  unfold operandWith
  split
  · exact .error (by simp)
  · exact hread _ _ h.of_cons
  · refine (hread _ _ h.of_cons).bind ?_
    rintro ⟨value, rest⟩ hrest
    exact .ok hrest
  · refine (hread _ _ h.of_cons).bind ?_
    rintro ⟨value, rest⟩ hrest
    dsimp only
    split
    · exact .ok hrest.of_cons
    · exact .error (by simp)
  · rename_i t rest
    exact (number_legible (h t List.mem_cons_self)).bind fun x _ => .ok h.of_cons
  · exact .error (by simp)

/-- Climbing fails only in the ways that are allowed, by induction on the count of its steps. -/
theorem climb_legible {least count : Nat} : ∀ {x : Binary64} {tokens : List Token},
    AllRead tokens → Legible (fun p => AllRead p.2) (climb read least count x tokens) := by
  induction count with
  | zero =>
      intro x tokens h
      have hstop : climb read least 0 x tokens = .ok (x, tokens) := by simp [climb]
      rw [hstop]
      exact .ok h
  | succ count ih =>
      intro x tokens h
      by_cases hclosed : Closed least tokens
      · rw [climb_closed hclosed]
        exact .ok h
      · obtain ⟨op, rest, rfl, htight⟩ : ∃ op rest, tokens = .operator op :: rest ∧
            ¬ precedence op < least := by simpa [Closed] using hclosed
        rw [climb_operator (Nat.le_of_not_lt htight)]
        refine (hread _ _ h.of_cons).bind ?_
        rintro ⟨right, rest⟩ hrest
        exact (apply_legible _ _ _).bind fun value _ => ih hrest

end Steps

/-- **The evaluator stops at no number** where all of them read. -/
theorem valueAt_legible (depth : Nat) : Hands (valueAt depth) := by
  induction depth with
  | zero =>
      intro least tokens _
      exact .error (by simp)
  | succ depth ih =>
      intro least tokens h
      refine (operandWith_legible ih h).bind ?_
      rintro ⟨value, rest⟩ hrest
      exact climb_legible ih hrest

/-- An expression whose numbers all read fails only in the ways that are allowed. -/
theorem evaluate_legible {s : Text} {tokens : List Token} (htokens : tokens? s = .ok tokens)
    (hread : AllRead tokens) : Legible (fun _ => True) (evaluate s) := by
  have hvalue : Legible (fun _ => True) (evaluateTokens tokens) := by
    refine (valueAt_legible depthLimit 0 tokens hread).bind ?_
    rintro ⟨value, rest⟩ _
    dsimp only
    split
    · exact .ok trivial
    · exact .error (by simp)
  rw [evaluate_tokens htokens]
  split
  · exact .error (by simp)
  · refine hvalue.bind fun value _ => ?_
    split
    · exact .ok trivial
    · exact .error (by simp)

/-! ## The gate -/

/-- The faults in the form of an expression. -/
def EvaluationError.isSyntax : EvaluationError → Bool
  | divisionByZero | tooDeep | unreadable _ => false
  | _ => true

/-- What the tokens of a plain expression are. -/
structure PlainTokens (s : Text) (tokens : List Token) : Prop where
  /-- Blanks and percent signs are left out, and glyphs have their plain sign. -/
  lossless : tokens.flatMap Token.text =
    (s.filter fun c => c != '%' && !isBlank c).map Operator.plainSign
  /-- A number is a lone point, or it has digits with at most one point and reads. -/
  numbers : ∀ t, .number t ∈ tokens → t ≠ ['.'] →
    (∀ c ∈ t, isDecimalDigit c = true ∨ c = '.') ∧ t.count '.' ≤ 1 ∧ ∃ x, readNumber t = .ok x
  /-- Between two numbers side by side there is a blank, or a second point starts the next one. -/
  neighbours : ∀ before a b after, tokens = before ++ .number a :: .number b :: after →
    ∃ u left gap right v, s = u ++ left ++ gap ++ right ++ v ∧ tokens? u = .ok before ∧
      plain left = a ∧ plain right = b ∧ tokens? v = .ok after ∧
      (∀ c ∈ gap, isBlank c = true ∨ c = '%') ∧
      ((∃ c ∈ gap, isBlank c = true) ∨ '.' ∈ a ∧ b.head? = some '.')

/-- The tokens of an expression that is let through spell all of it that counts. -/
theorem plainTokens {s : Text} (hs : isPlain s = true) {tokens : List Token}
    (htokens : tokens? s = .ok tokens) : PlainTokens s tokens where
  lossless := by rw [(tokens?_eq_ok_iff.mp htokens).flatMap_text, filter_plain]
  numbers := by
    intro t hmem hpoint
    obtain ⟨l, rfl⟩ := exists_literal hs htokens hmem hpoint
    refine ⟨fun c hc => ?_, l.isRun_unsigned.point_le, _, l.readNumber_unsigned⟩
    exact (l.digitsWith_unsigned c hc).imp_right List.mem_singleton.mp
  neighbours := by
    rintro before a b after rfl
    obtain ⟨u, gap, v, heq, hu, hv, hblank, hapart⟩ :=
      (tokens?_eq_ok_iff.mp htokens).between_numbers
    obtain ⟨_, v, rfl, hright, rfl⟩ := plain_eq_append heq
    obtain ⟨_, right, rfl, hgap, rfl⟩ := plain_eq_append hright
    obtain ⟨_, gap, rfl, hleft, rfl⟩ := plain_eq_append hgap
    obtain ⟨u, left, rfl, rfl, rfl⟩ := plain_eq_append hleft
    refine ⟨u, left, gap, right, v, rfl, tokens?_eq_ok_iff.mpr hu, rfl, rfl,
      tokens?_eq_ok_iff.mpr hv, blank_of_plain hblank, hapart.imp_left fun hne => ?_⟩
    obtain ⟨c, hc⟩ := List.exists_mem_of_ne_nil _ hne
    obtain ⟨d, hd, _, rfl⟩ := mem_plain.mp hc
    exact ⟨d, hd, isBlank_plainSign d ▸ hblank _ hc⟩

/-- **Plain arithmetic is cut into tokens,** and its evaluation has a value or fails at a fault in
the form, at a divisor that is zero or at operands that nest too deep. -/
theorem isPlain_lexes {s : Text} (hs : isPlain s = true) :
    (∃ tokens, tokens? s = .ok tokens ∧ PlainTokens s tokens) ∧
      ∀ error, evaluate s = .error error →
        error.isSyntax = true ∨ error = .divisionByZero ∨ error = .tooDeep := by
  obtain ⟨tokens, htokens⟩ := exists_tokens hs
  have hcut := plainTokens hs htokens
  refine ⟨⟨tokens, htokens, hcut⟩, fun error herror => ?_⟩
  have hread : AllRead tokens := by
    intro t hmem
    by_cases hpoint : t = ['.']
    · exact Or.inl hpoint
    · exact Or.inr (hcut.numbers t hmem hpoint).2.2
  have hlegible := evaluate_legible htokens hread
  rw [herror] at hlegible
  cases hlegible with
  | error other => cases error <;> simp_all [EvaluationError.isSyntax]

/-- A blank, a second point and a percent sign in one text. -/
theorem isPlain_lexes_points :
    isPlain "1 2.3.4%5×(".toList = true ∧
      tokens? "1 2.3.4%5×(".toList = .ok [.number ['1'], .number ['2', '.', '3'],
        .number ['.', '4', '5'], .operator .times, .opening] ∧
      (∃ tokens, tokens? "1 2.3.4%5×(".toList = .ok tokens ∧
        PlainTokens "1 2.3.4%5×(".toList tokens) ∧
      ∀ error, evaluate "1 2.3.4%5×(".toList = .error error →
        error.isSyntax = true ∨ error = .divisionByZero ∨ error = .tooDeep :=
  ⟨by decide, by decide, isPlain_lexes (by decide)⟩

end Arithmetic

end Tapeline
