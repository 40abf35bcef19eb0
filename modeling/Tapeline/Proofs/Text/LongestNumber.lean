import Tapeline.Proofs.Text.NumberText

/-!
# The longest number at the start of a text

The number that a text starts with is the longest of all numbers that it starts with.  Each part of
a number is read as far as it goes, and none of these parts is in the way of a later one: where a
number goes on with an exponent, its letter ends the digits before it, whatever stands behind the
number (`NumberText.take?_covers`).  So no number in front of a text is longer than what is read
(`leadingText?_covers`), and a text from which nothing is read starts with no number
(`leadingNumber_longest`).
-/

namespace Tapeline

/-- A number as it is written: a sign or none, digits with a point or without, or a point and
digits, and a complete exponent or none. -/
def IsNumber (t : Text) : Prop :=
  ∃ n : NumberText, n.text = t

/-- The text starts with the number, and with no longer one. -/
structure IsLongestNumber (t lead : Text) : Prop where
  starts : lead <+: t
  number : IsNumber lead
  longest : ∀ other, other <+: t → IsNumber other → other.length ≤ lead.length

section First

variable {t : Text} (ht : ∀ c, t.head? = some c → isBlank c = false)

include ht

/-- Spaces in front are passed over. -/
theorem leadingNumber_spaces (k : Nat) :
    leadingNumber (List.replicate k ' ' ++ t) = leadingNumber t := by
  have hspace : ∀ p : Char → Bool, p ' ' = true → ∀ c ∈ List.replicate k ' ', p c = true := by
    intro p hp c hc
    rw [List.eq_of_mem_replicate hc]
    exact hp
  have hblank := hspace isBlank isBlank_space
  have hwhite : (List.replicate k ' ').all isWhiteSpace = true :=
    List.all_eq_true.mpr (hspace isWhiteSpace (by decide))
  have hdrop : t.dropWhile isBlank = t := Text.stripStart_of_first ht
  simp only [leadingNumber, List.takeWhile_append_of_pos hblank,
    List.dropWhile_append_of_pos hblank, Text.takeWhile_of_first ht, hdrop, List.append_nil, hwhite,
    List.all_nil, if_true]

/-- Without blanks in front a text starts with no number, or with one that is read. -/
theorem leadingNumber_cases :
    (leadingText? t = none ∧ leadingNumber t = .ok none) ∨
      ∃ n : NumberText, n.text <+: t ∧ leadingText? t = some n.text ∧
        leadingNumber t = .ok (some n.value) := by
  have hdrop : t.dropWhile isBlank = t := Text.stripStart_of_first ht
  rcases leadingText?_cases t with hnone | ⟨n, rest, hsplit, htext, hnumber⟩
  · exact Or.inl hnone
  · rw [hdrop] at hsplit
    rw [Text.takeWhile_of_first ht] at htext hnumber
    exact Or.inr ⟨n, ⟨rest, hsplit.symm⟩, htext, hnumber⟩

end First

/-- **What is read covers every number in front.** -/
theorem leadingText?_covers {n : NumberText} {t : Text} (h : n.text <+: t) :
    ∃ lead, leadingText? t = some lead ∧ n.text.length ≤ lead.length := by
  obtain ⟨rest, rfl⟩ := h
  obtain ⟨numeral, behind, htake, hless⟩ := n.take?_covers rest
  have hfirst : ∀ c, (n.text ++ rest).head? = some c → isBlank c = false :=
    n.trimmed_text.first_append n.text_ne_nil rest
  have hdrop : (n.text ++ rest).dropWhile isBlank = n.text ++ rest := Text.stripStart_of_first hfirst
  refine ⟨(n.text ++ rest).take ((n.text ++ rest).length - behind.length), ?_, ?_⟩
  · rw [leadingText?, hdrop, n.takeSign_append, htake]
    rfl
  · rw [List.length_take, List.length_append]
    omega

/-- **The longest number in front is read.**  Of a text without blanks in front nothing is read just
if it starts with no number, and otherwise the longest number that it starts with is read as a
whole.  Spaces in front make no difference. -/
theorem leadingNumber_longest {t : Text} (ht : ∀ c, t.head? = some c → isBlank c = false) :
    (leadingNumber t = .ok none ↔ ∀ lead, lead <+: t → ¬ IsNumber lead) ∧
      (leadingNumber t ≠ .ok none → ∃ lead x, IsLongestNumber t lead ∧
        readNumber lead = .ok x ∧ leadingNumber t = .ok (some x)) ∧
      ∀ k, leadingNumber (List.replicate k ' ' ++ t) = leadingNumber t := by
  refine ⟨?_, ?_, leadingNumber_spaces ht⟩
  · rcases leadingNumber_cases ht with ⟨htext, hnumber⟩ | ⟨n, hlead, _, hnumber⟩
    · refine iff_of_true hnumber ?_
      rintro _ hlead ⟨n, rfl⟩
      obtain ⟨lead, hsome, _⟩ := leadingText?_covers hlead
      rw [htext] at hsome
      cases hsome
    · refine iff_of_false (by simp [hnumber]) fun h => ?_
      exact h n.text hlead ⟨n, rfl⟩
  · intro hsome
    rcases leadingNumber_cases ht with ⟨_, hnumber⟩ | ⟨n, hlead, htext, hnumber⟩
    · exact absurd hnumber hsome
    · have hread : readNumber ([] ++ n.text) = .ok n.value := n.readNumber_white (by simp)
      refine ⟨n.text, n.value, ⟨hlead, ⟨n, rfl⟩, ?_⟩, hread, hnumber⟩
      rintro _ hother ⟨other, rfl⟩
      obtain ⟨lead, hcovered, hless⟩ := leadingText?_covers hother
      obtain rfl := Option.some.inj (htext.symm.trans hcovered)
      exact hless

/-- The exponent of `-.5e+` is not complete, so the number ends in front of it. -/
theorem leadingNumber_longest_incomplete :
    (∀ c, "-.5e+".toList.head? = some c → isBlank c = false) ∧
      leadingNumber "-.5e+".toList = .ok (some (Binary64.ofDecimal true 5 (-1))) ∧
      (leadingNumber "-.5e+".toList = .ok none ↔
        ∀ lead, lead <+: "-.5e+".toList → ¬ IsNumber lead) ∧
      (leadingNumber "-.5e+".toList ≠ .ok none → ∃ lead x,
        IsLongestNumber "-.5e+".toList lead ∧ readNumber lead = .ok x ∧
          leadingNumber "-.5e+".toList = .ok (some x)) ∧
      ∀ k, leadingNumber (List.replicate k ' ' ++ "-.5e+".toList) =
        leadingNumber "-.5e+".toList := by
  have hfirst : ∀ c, "-.5e+".toList.head? = some c → isBlank c = false := by
    rintro c ⟨⟩
    decide
  exact ⟨hfirst, by decide +kernel, leadingNumber_longest hfirst⟩

end Tapeline
