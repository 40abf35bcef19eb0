import Tapeline.Proofs.Json.Number
import Tapeline.Proofs.Json.Strings

/-!
# The words and bare numbers of JSON

A value that starts with no mark is one of six words, or a number with or without a minus.  The
reader takes both (`readScalar_word`, `readScalar_number`), and what it does not take as one of them
is malformed (`readScalar_cases`).  Neither starts like space or like a closing mark
(`readScalar_refuses`).
-/

namespace Tapeline

namespace Json

/-- What can stand behind an item does not go on with a number. -/
theorem EndsItem.endsNumber {rest : Text} (h : EndsItem rest) : EndsNumber rest := by
  cases rest with
  | nil =>
      refine ⟨noAsciiAhead_nil, by simp, fun x _ hlead => ?_⟩
      exact absurd (List.prefix_nil.mp hlead) (List.cons_ne_nil _ _)
  | cons c rest =>
      have hc : c ∈ [' ', '\t', '\n', '\r', ',', ']', '\x7d'] := by
        have hcases := h c rfl
        simp only [isSpace, IsClosing, Bool.or_eq_true, decide_eq_true_eq] at hcases
        simpa [or_assoc] using hcases
      have hclear : [' ', '\t', '\n', '\r', ',', ']', '\x7d'].all
          (fun d => !d.isDigit && d != '.' && d != 'e' && d != 'E') = true := by decide
      obtain ⟨hdigit, hpoint, hlower, hupper⟩ :
          c.isDigit = false ∧ c ≠ '.' ∧ c ≠ 'e' ∧ c ≠ 'E' := by
        simpa [and_assoc] using List.all_eq_true.mp hclear c hc
      refine ⟨noAsciiAhead_cons hdigit, fun d more heq => ?_, fun x _ hlead => ?_⟩
      · exact absurd (List.cons.inj heq).1 hpoint
      · have hletter := (List.cons_prefix_cons.mp hlead).1
        cases x.is_letter with
        | inl he => exact absurd (hletter.symm.trans he) hlower
        | inr he => exact absurd (hletter.symm.trans he) hupper

/-- A character that a word or a number starts with. -/
def StartsScalar (c : Char) : Prop :=
  c ∈ ['n', 't', 'f', 'N', 'I', '-'] ∨ c.isDigit = true

instance (c : Char) : Decidable (StartsScalar c) :=
  inferInstanceAs (Decidable (_ ∨ _))

/-- What starts a scalar is told from what does not. -/
theorem StartsScalar.ne {c d : Char} (h : StartsScalar c) (hd : ¬ StartsScalar d) : c ≠ d := by
  intro heq
  rw [heq] at h
  exact hd h

/-- What starts a scalar is neither white space nor a closing mark. -/
theorem StartsScalar.not_refused {c : Char} (h : StartsScalar c) :
    ¬ (isSpace c = true ∨ IsClosing c) := by
  refine not_or.mpr ⟨?_, ?_⟩
  · simp [isSpace, h.ne (by decide : ¬ StartsScalar ' '), h.ne (by decide : ¬ StartsScalar '\t'),
      h.ne (by decide : ¬ StartsScalar '\n'), h.ne (by decide : ¬ StartsScalar '\r')]
  · intro hclosing
    cases hclosing with
    | inl hc => exact h.ne (by decide) hc
    | inr hc => exact h.ne (by decide) hc

/-- A text that starts like a word or a number. -/
def ScalarAhead (t : Text) : Prop :=
  ∃ c rest, t = c :: rest ∧ StartsScalar c

theorem ScalarAhead.append {t : Text} (h : ScalarAhead t) (rest : Text) :
    ScalarAhead (t ++ rest) := by
  obtain ⟨c, more, rfl, hc⟩ := h
  exact ⟨c, more ++ rest, rfl, hc⟩

/-- A word starts like a scalar. -/
theorem scalarAhead_of_word {w : Text} {v : Json} (h : (w, v) ∈ words) : ScalarAhead w := by
  simp only [words, List.mem_cons, Prod.mk.injEq, List.not_mem_nil, or_false] at h
  obtain ⟨rfl, -⟩ | ⟨rfl, -⟩ | ⟨rfl, -⟩ | ⟨rfl, -⟩ | ⟨rfl, -⟩ | ⟨rfl, -⟩ := h <;>
    exact ⟨_, _, rfl, Or.inl (by decide)⟩

/-- A word is read, whatever stands behind it. -/
theorem readScalar_word {w rest : Text} {v : Json} (h : (w, v) ∈ words) :
    readScalar (w ++ rest) = .ok (v, rest) := by
  simp only [words, List.mem_cons, Prod.mk.injEq, List.not_mem_nil, or_false] at h
  obtain ⟨rfl, rfl⟩ | ⟨rfl, rfl⟩ | ⟨rfl, rfl⟩ | ⟨rfl, rfl⟩ | ⟨rfl, rfl⟩ | ⟨rfl, rfl⟩ := h <;> rfl

/-- No word stands first. -/
def NoWordAhead (t : Text) : Prop :=
  ∀ w v, (w, v) ∈ words → ¬ w <+: t

/-- No word goes on with a digit behind its first character. -/
theorem noWordAhead_digit {c : Char} (hc : c.isDigit = true) (t : Text) :
    NoWordAhead (c :: t) ∧ NoWordAhead ('-' :: c :: t) := by
  have hwords : ∀ read ∈ words, ∃ d d' rest, read.1 = d :: d' :: rest ∧ d.isDigit = false ∧
      d'.isDigit = false := by
    intro (w, v) hw
    simp only [words, List.mem_cons, Prod.mk.injEq, List.not_mem_nil, or_false] at hw
    obtain ⟨rfl, -⟩ | ⟨rfl, -⟩ | ⟨rfl, -⟩ | ⟨rfl, -⟩ | ⟨rfl, -⟩ | ⟨rfl, -⟩ := hw <;>
      exact ⟨_, _, _, rfl, by decide, by decide⟩
  constructor
  · intro w v hw hlead
    obtain ⟨d, d', rest, rfl, hd, -⟩ := hwords (w, v) hw
    rw [(List.cons_prefix_cons.mp hlead).1, hc] at hd
    cases hd
  · intro w v hw hlead
    obtain ⟨d, d', rest, rfl, -, hd'⟩ := hwords (w, v) hw
    have hbehind := (List.cons_prefix_cons.mp hlead).2
    rw [(List.cons_prefix_cons.mp hbehind).1, hc] at hd'
    cases hd'

/-- The first word that a text starts with, and the rest. -/
def takeWord? (t : Text) : Option (Json × Text) :=
  words.findSome? fun (word, value) => (Text.dropLead? word t).map (value, ·)

/-- No word is taken just if none is ahead. -/
theorem takeWord?_eq_none_iff {t : Text} : takeWord? t = none ↔ NoWordAhead t := by
  simp only [takeWord?, List.findSome?_eq_none_iff, Option.map_eq_none_iff,
    Text.dropLead?_eq_none_iff, Prod.forall, NoWordAhead]

/-- A word that is taken stands at the start. -/
theorem exists_of_takeWord? {t rest : Text} {v : Json} (h : takeWord? t = some (v, rest)) :
    ∃ w, (w, v) ∈ words ∧ t = w ++ rest := by
  obtain ⟨⟨w, v⟩, hw, htake⟩ := List.exists_of_findSome?_eq_some h
  obtain ⟨rest, hrest, heq⟩ := Option.map_eq_some_iff.mp htake
  cases heq
  exact ⟨w, hw, Text.dropLead?_eq_some_iff.mp hrest⟩

/-- What does not start with a word is read as a number with or without a minus. -/
theorem readScalar_minus {t : Text} (h : NoWordAhead ('-' :: t)) :
    readScalar ('-' :: t) = readNumber true t := by
  have hnone := takeWord?_eq_none_iff.mpr h
  rw [takeWord?] at hnone
  rw [readScalar, hnone]

/-- What is no word and has no minus is read as a number without a sign. -/
theorem readScalar_unsigned {t : Text} (h : NoWordAhead t) (hminus : t.head? ≠ some '-') :
    readScalar t = readNumber false t := by
  have hnone := takeWord?_eq_none_iff.mpr h
  rw [takeWord?] at hnone
  rw [readScalar, hnone]
  intro rest ht
  exact hminus (ht ▸ rfl)

/-- A number without its sign starts with a digit. -/
theorem IsNumber.exists_digit {n : NumberText} (hn : IsNumber n) :
    ∃ c rest, n.unsigned = c :: rest ∧ c.isDigit = true := by
  obtain ⟨c, rest, hwhole⟩ := List.exists_cons_of_ne_nil hn.has_whole
  refine ⟨c, rest ++ (pointText n.mantissa.places ++ exponentText n.exponent), ?_,
    hn.whole_ascii c (hwhole ▸ List.mem_cons_self)⟩
  rw [unsigned_eq, hwhole, List.cons_append]

/-- A number starts like a scalar. -/
theorem IsNumber.scalarAhead {n : NumberText} (hn : IsNumber n) : ScalarAhead n.text := by
  obtain ⟨c, rest, hunsigned, hc⟩ := hn.exists_digit
  have hplus := hn.no_plus
  rw [NumberText.text, Literal.signText, hunsigned]
  cases hsign : n.mantissa.sign with
  | none => exact ⟨c, rest, rfl, Or.inr hc⟩
  | some negative =>
      cases negative with
      | false => exact absurd hsign hplus
      | true => exact ⟨'-', c :: rest, rfl, Or.inl (by decide)⟩

/-- A number is read up to what cannot go on with it, its sign in front. -/
theorem readScalar_number {n : NumberText} (hn : IsNumber n) {rest : Text}
    (hrest : EndsNumber rest) :
    readScalar (n.text ++ rest) = numberOutcome n.mantissa.isNegative n rest := by
  obtain ⟨c, more, hunsigned, hc⟩ := hn.exists_digit
  obtain ⟨hword, hword'⟩ := noWordAhead_digit hc (more ++ rest)
  have hread := fun negative => readNumber_unsigned hn hrest negative
  have hplus := hn.no_plus
  rw [hunsigned] at hread
  rw [NumberText.text, Literal.signText, Literal.isNegative, hunsigned]
  cases hsign : n.mantissa.sign with
  | none =>
      have hminus : (c :: (more ++ rest)).head? ≠ some '-' := by
        intro hminus
        cases hminus
        cases hc
      rw [List.nil_append, List.cons_append, readScalar_unsigned hword hminus]
      exact hread false
  | some negative =>
      cases negative with
      | false => exact absurd hsign hplus
      | true =>
          rw [List.singleton_append, List.cons_append, List.cons_append, readScalar_minus hword']
          exact hread true

/-- What is not malformed starts with a word or a number. -/
theorem readScalar_cases (t : Text) :
    readScalar t = .error .malformed ∨
      (∃ w v rest, (w, v) ∈ words ∧ t = w ++ rest ∧ readScalar t = .ok (v, rest)) ∨
        ∃ n rest, IsNumber n ∧ t = n.text ++ rest ∧
          readScalar t = numberOutcome n.mantissa.isNegative n rest ∧
          (IsIntegral n → 1 < n.mantissa.whole.length → EndsNumber rest) := by
  -- the sign and what is behind it, as a number that is read without its sign
  have hsigned : ∀ (negative : Bool) (sign u : Text),
      sign = (if negative then ['-'] else []) → t = sign ++ u →
      readScalar t = readNumber negative u →
        readScalar t = .error .malformed ∨ ∃ n rest, IsNumber n ∧ t = n.text ++ rest ∧
          readScalar t = numberOutcome n.mantissa.isNegative n rest ∧
          (IsIntegral n → 1 < n.mantissa.whole.length → EndsNumber rest) := by
    intro negative sign u hsign ht hread
    rw [hread]
    obtain hbad | ⟨n, rest, hn, hmantissa, rfl, houtcome, hends⟩ := readNumber_cases negative u
    · exact Or.inl hbad
    · refine Or.inr ⟨n, rest, hn, ?_, ?_, hends⟩
      · rw [ht, hsign, NumberText.text, Literal.signText, hmantissa]
        cases negative <;> simp
      · rw [houtcome, Literal.isNegative, hmantissa]
        cases negative <;> rfl
  cases hword : takeWord? t with
  | some read =>
      obtain ⟨v, rest⟩ := read
      obtain ⟨w, hw, rfl⟩ := exists_of_takeWord? hword
      exact Or.inr (Or.inl ⟨w, v, rest, hw, rfl, readScalar_word hw⟩)
  | none =>
      have hahead := takeWord?_eq_none_iff.mp hword
      by_cases hminus : t.head? = some '-'
      · obtain ⟨u, rfl⟩ := List.head?_eq_some_iff.mp hminus
        exact (hsigned true ['-'] u rfl rfl (readScalar_minus hahead)).imp_right Or.inr
      · exact (hsigned false [] t rfl rfl (readScalar_unsigned hahead hminus)).imp_right Or.inr

/-- What starts no item starts no word and no number. -/
theorem readScalar_refuses {t : Text}
    (h : ∀ c, t.head? = some c → isSpace c = true ∨ IsClosing c) :
    readScalar t = .error .malformed := by
  have hclash : ¬ ScalarAhead t := by
    intro ⟨c, rest, ht, hc⟩
    exact hc.not_refused (h c (ht ▸ rfl))
  obtain hbad | ⟨w, v, rest, hw, rfl, -⟩ | ⟨n, rest, hn, rfl, -⟩ := readScalar_cases t
  · exact hbad
  · exact absurd ((scalarAhead_of_word hw).append rest) hclash
  · exact absurd (hn.scalarAhead.append rest) hclash

end Json

end Tapeline
