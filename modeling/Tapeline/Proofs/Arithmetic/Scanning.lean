import Tapeline.Proofs.Arithmetic.Grammar
import Tapeline.Proofs.Arithmetic.Lexing
import Tapeline.Proofs.Measure.Folding
import Tapeline.Proofs.Text.Literal

/-!
# Scanning literals

A joined text of decimal literals is scanned into the tokens of its literals, each behind the token
of its operator (`tokens?_joined`).  A literal has two tokens if a sign stands in front of it and
one if not; the grammar reads them as an operand (`Literal.derives_tree`).
-/

namespace Tapeline

namespace Literal

open Arithmetic

variable (l : Literal)

/-- Behind its sign, a literal is a run. -/
theorem isRun_unsigned : IsRun l.unsigned where
  ne_nil := l.unsigned_ne_nil
  marks := by
    intro c hc
    exact (l.digitsWith_unsigned c hc).imp isDigitLike_of_isDecimalDigit List.mem_singleton.mp
  point_le := by
    have hnone : ∀ {t : Text}, AllDigits t → t.count '.' = 0 :=
      fun ht => List.count_eq_zero.mpr (ht.not_mem (by decide))
    rw [unsigned, List.count_append, hnone l.whole_digits]
    cases hplaces : l.places with
    | none => simp
    | some t => simp [hnone (l.places_digits t hplaces)]

/-- A run of decimal digits that is no lone point is a literal without a sign. -/
theorem exists_of_isRun {run : Text} (hrun : IsRun run)
    (hdecimal : ∀ c ∈ run, isDigitLike c = true → isDecimalDigit c = true) (hpoint : run ≠ ['.']) :
    ∃ l : Literal, l.unsigned = run := by
  have hdigits : ∀ {t : Text}, t ⊆ run → '.' ∉ t → AllDigits t := by
    intro t hsubset hnone c hc
    rcases hrun.marks c (hsubset hc) with hdigit | rfl
    · exact hdecimal c (hsubset hc) hdigit
    · exact absurd hc hnone
  by_cases hmem : '.' ∈ run
  · obtain ⟨whole, places, rfl⟩ := List.append_of_mem hmem
    have hcount := hrun.point_le
    simp only [List.count_append, List.count_cons_self] at hcount
    have hwhole : '.' ∉ whole := List.count_eq_zero.mp (by omega)
    have hplaces : '.' ∉ places := List.count_eq_zero.mp (by omega)
    exact ⟨{
      sign := none
      whole := whole
      places := some places
      whole_digits := hdigits (List.subset_append_left _ _) hwhole
      places_digits := by
        rintro _ ⟨⟩
        exact hdigits (fun c hc => by simp [hc]) hplaces
      some_digit := by
        intro hnil
        obtain ⟨rfl, rfl⟩ := List.append_eq_nil_iff.mp hnil
        exact hpoint rfl }, rfl⟩
  · exact ⟨{
      sign := none
      whole := run
      places := none
      whole_digits := hdigits (List.Subset.refl _) hmem
      places_digits := by simp
      some_digit := by simpa using hrun.ne_nil }, by simp [unsigned]⟩

/-- The tokens of a literal. -/
def tokens : List Token :=
  match l.sign with
  | none => [.number l.unsigned]
  | some false => [.operator .plus, .number l.unsigned]
  | some true => [.operator .minus, .number l.unsigned]

/-- The tree of a literal. -/
def tree : Tree :=
  match l.sign with
  | none => .number (l.numeral.value false)
  | some false => .plus (.number (l.numeral.value false))
  | some true => .minus (.number (l.numeral.value false))

/-- A literal is cut into its tokens, up to where its number ends. -/
theorem lexed_text {rest : Text} {ts : List Token} (hends : EndsRun l.unsigned rest)
    (h : Lexed rest ts) : Lexed (l.text ++ rest) (l.tokens ++ ts) := by
  have hnumber : Lexed (l.unsigned ++ rest) (.number l.unsigned :: ts) :=
    .number l.isRun_unsigned hends h
  unfold text signText tokens
  cases l.sign with
  | none => exact hnumber
  | some negative =>
      cases negative with
      | false => exact .sign (by decide) hnumber
      | true => exact .sign (by decide) hnumber

/-- The number behind the sign is read. -/
theorem number_unsigned : Arithmetic.number l.unsigned = .ok (l.numeral.value false) := by
  have hpoint : l.unsigned ≠ ['.'] := by
    intro heq
    have hnone : Numeral.take? ['.'] = none := by decide
    have htake := l.take?_unsigned
    rw [heq, hnone] at htake
    cases htake
  rw [Arithmetic.number, if_neg hpoint, l.readNumber_unsigned]
  rfl

/-- The grammar reads the tokens of a literal as an operand. -/
theorem derives_tree : Derives .operand l.tokens l.tree := by
  have hnumber := Derives.number l.number_unsigned
  unfold tokens tree
  cases l.sign with
  | none => exact hnumber
  | some negative =>
      cases negative with
      | false => exact .plus hnumber
      | true => exact .minus hnumber

/-- A literal nests at most once, for its sign. -/
theorem nesting_tree : l.tree.nesting ≤ 1 := by
  unfold tree
  cases l.sign with
  | none => exact Nat.zero_le 1
  | some negative => cases negative <;> exact Nat.le_refl 1

end Literal

namespace Arithmetic

open Tapeline.Measure (Glyph joined joined_cons)

/-- Making signs plain works character by character. -/
theorem plain_append (t u : Text) : plain (t ++ u) = plain t ++ plain u := by
  simp [plain]

/-- Digits are plain. -/
theorem plain_digit {c : Char} (h : isDecimalDigit c = true) :
    c ≠ '%' ∧ Operator.plainSign c = c := by
  have hne := not_mem_signs h
  simp only [signs, List.mem_cons, List.not_mem_nil, or_false, not_or] at hne
  simp [Operator.plainSign, hne]

/-- The signs and digits of a literal are plain. -/
theorem plain_literal (l : Literal) : plain l.text = l.text := by
  have hplain : ∀ c ∈ l.text, c ≠ '%' ∧ Operator.plainSign c = c := by
    intro c hc
    rcases l.digitsWith_text c hc with hdigit | hmark
    · exact plain_digit hdigit
    · simp only [List.mem_cons, List.not_mem_nil, or_false] at hmark
      rcases hmark with rfl | rfl | rfl <;> decide
  unfold plain
  rw [List.filter_eq_self.mpr fun c hc => by simpa using (hplain c hc).1]
  exact (List.map_congr_left fun c hc => (hplain c hc).2).trans (List.map_id _)

/-- An operator between two spaces is one token. -/
theorem lexed_link {e : Text} {ts : List Token} (op : Operator) (h : Lexed e ts) :
    Lexed (' ' :: op.sign :: ' ' :: e) (.operator op :: ts) := by
  have hsign : Token.ofChar? op.sign = some (.operator op) := by cases op <;> decide
  exact .blank isBlank_space (.sign hsign (.blank isBlank_space h))

/-- No number goes on with a space. -/
theorem endsRun_space (run t : Text) : EndsRun run (' ' :: t) := by
  rintro _ ⟨⟩
  exact ⟨by decide, by simp⟩

/-- **The tokens of a joined text of literals.** -/
theorem tokens?_joined (links : List (Glyph × Literal)) (first : Literal) :
    tokens? (joined first.text (links.map fun link => (link.1.char, link.2.text))) =
      .ok (first.tokens ++ links.flatMap fun link => .operator link.1.op :: link.2.tokens) := by
  rw [tokens?_eq_ok_iff]
  induction links generalizing first with
  | nil =>
      have hplain : plain (joined first.text []) = first.text ++ [] := by
        simp [joined, plain_literal]
      rw [List.map_nil, hplain]
      exact first.lexed_text (by simp [EndsRun]) .nil
  | cons link links ih =>
      obtain ⟨g, l⟩ := link
      have hplain : ∀ e : Text, plain (first.text ++ ' ' :: g.char :: ' ' :: e) =
          first.text ++ ' ' :: g.op.sign :: ' ' :: plain e := by
        intro e
        have hpercent : g.char ≠ '%' := by
          intro heq
          have hmem := (Measure.isSome_ofChar?_iff g.char).mp g.isSome_ofChar?
          rw [heq] at hmem
          exact absurd hmem (by decide)
        have hspace : Operator.plainSign ' ' = ' ' := by decide
        rw [plain_append, plain_literal]
        simp [plain, hpercent, g.plainSign_char, hspace]
      simp only [List.map_cons, joined_cons, hplain, List.flatMap_cons]
      exact first.lexed_text (endsRun_space _ _) (lexed_link g.op (ih l))

end Arithmetic

end Tapeline
