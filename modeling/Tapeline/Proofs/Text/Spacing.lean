import Mathlib.Data.List.Forall2
import Tapeline.Text.Basic

/-!
# Widths of spacing

Two texts that differ only in how many spaces stand where spaces stand are respaced (`Respaced`).
Such texts are joined by texts of which each has one space more or less beside another than the
one before it.  So what is to be shown of respaced texts is shown of a text and the same text with
one of its spaces doubled (`Widened`, `Respaced.of_widened`).

`Widened` goes through the functions on texts: each lemma here says that a function takes widened
texts to widened texts, or does not tell them apart.
-/

namespace Tapeline

/-- Every run of spaces is replaced by another run of spaces, and all else is kept.  Neither run is
empty; runs that stand side by side count as one. -/
inductive Respaced : Text → Text → Prop
  | nil : Respaced [] []
  | char {c : Char} {t t' : Text} (other : c ≠ ' ') (rest : Respaced t t') :
      Respaced (c :: t) (c :: t')
  | run {m n : Nat} {t t' : Text} (left : 0 < m) (right : 0 < n) (rest : Respaced t t') :
      Respaced (List.replicate m ' ' ++ t) (List.replicate n ' ' ++ t')

/-- The same text, or the text with one of its spaces doubled. -/
inductive Widened : Text → Text → Prop
  | same (t : Text) : Widened t t
  | double (t : Text) : Widened (' ' :: t) (' ' :: ' ' :: t)
  | cons (c : Char) {t t' : Text} (h : Widened t t') : Widened (c :: t) (c :: t')

namespace Widened

variable {t t' : Text}

theorem append_left (a : Text) (h : Widened t t') : Widened (a ++ t) (a ++ t') := by
  induction a with
  | nil => exact h
  | cons c a ih => exact ih.cons c

/-- Doubled where a space stands, or nowhere. -/
theorem exists_double (h : Widened t t') :
    t = t' ∨ ∃ a b, t = a ++ ' ' :: b ∧ t' = a ++ ' ' :: ' ' :: b := by
  induction h with
  | same t => exact Or.inl rfl
  | double t => exact Or.inr ⟨[], t, rfl, rfl⟩
  | cons c _ ih =>
      rcases ih with rfl | ⟨a, b, rfl, rfl⟩
      · exact Or.inl rfl
      · exact Or.inr ⟨c :: a, b, rfl, rfl⟩

theorem reverse (h : Widened t t') : Widened t.reverse t'.reverse := by
  rcases h.exists_double with rfl | ⟨a, b, rfl, rfl⟩
  · exact same _
  · simpa using append_left b.reverse (double a.reverse)

/-- Widened texts have the same characters. -/
theorem mem_iff (h : Widened t t') (c : Char) : c ∈ t ↔ c ∈ t' := by
  induction h with
  | same t => exact Iff.rfl
  | double t => simp
  | cons d _ ih => simp [ih]

/-- What holds of all characters holds of them in a widened text. -/
theorem all_eq (h : Widened t t') (p : Char → Bool) : t.all p = t'.all p := by
  rw [Bool.eq_iff_iff]
  simp [h.mem_iff]

theorem any_eq (h : Widened t t') (p : Char → Bool) : t.any p = t'.any p := by
  rw [Bool.eq_iff_iff]
  simp [h.mem_iff]

theorem isEmpty_eq (h : Widened t t') : t.isEmpty = t'.isEmpty := by
  cases h <;> rfl

/-- A widened text is empty just if the text is. -/
theorem eq_nil_iff (h : Widened t t') : t = [] ↔ t' = [] := by
  rw [← List.isEmpty_iff, ← List.isEmpty_iff, h.isEmpty_eq]

/-- Widening keeps the first character. -/
theorem head?_eq (h : Widened t t') : t.head? = t'.head? := by
  cases h <;> rfl

/-- A text that starts with another character than the space is widened behind it. -/
theorem uncons {c : Char} (h : Widened (c :: t) t') (hc : c ≠ ' ') :
    ∃ u, t' = c :: u ∧ Widened t u := by
  cases h with
  | same t => exact ⟨t, rfl, same t⟩
  | double t => exact absurd rfl hc
  | cons c h => exact ⟨_, rfl, h⟩

/-- Leaving out characters commutes with widening. -/
theorem filter (h : Widened t t') (p : Char → Bool) : Widened (t.filter p) (t'.filter p) := by
  induction h with
  | same t => exact same _
  | double t =>
      cases hspace : p ' ' with
      | true => simpa [hspace] using double (t.filter p)
      | false => simpa [hspace] using same (t.filter p)
  | cons c _ ih =>
      cases hc : p c with
      | true => simpa [hc] using ih.cons c
      | false => simpa [hc] using ih

/-- Replacing characters other than spaces commutes with widening. -/
theorem map (h : Widened t t') {f : Char → Char} (hspace : f ' ' = ' ') :
    Widened (t.map f) (t'.map f) := by
  induction h with
  | same t => exact same _
  | double t => simpa [hspace] using double (t.map f)
  | cons c _ ih => exact ih.cons (f c)

/-- Taking characters as long as they are of a kind commutes with widening. -/
theorem takeWhile (h : Widened t t') (p : Char → Bool) :
    Widened (t.takeWhile p) (t'.takeWhile p) := by
  induction h with
  | same t => exact same _
  | double t =>
      cases hspace : p ' ' with
      | true => simpa [List.takeWhile, hspace] using double (t.takeWhile p)
      | false => simpa [List.takeWhile, hspace] using same []
  | cons c _ ih =>
      cases hc : p c with
      | true => simpa [List.takeWhile, hc] using ih.cons c
      | false => simpa [List.takeWhile, hc] using same []

/-- Dropping characters as long as they are of a kind commutes with widening. -/
theorem dropWhile (h : Widened t t') (p : Char → Bool) :
    Widened (t.dropWhile p) (t'.dropWhile p) := by
  induction h with
  | same t => exact same _
  | double t =>
      cases hspace : p ' ' with
      | true => simpa [List.dropWhile, hspace] using same (t.dropWhile p)
      | false => simpa [List.dropWhile, hspace] using double t
  | cons c h ih =>
      cases hc : p c with
      | true => simpa [List.dropWhile, hc] using ih
      | false => simpa [List.dropWhile, hc] using h.cons c

/-- Stripped, widened texts are widened. -/
theorem strip (h : Widened t t') : Widened t.strip t'.strip :=
  ((h.dropWhile isBlank).reverse.dropWhile isBlank).reverse

/-- What is related to itself is so where it may be missing. -/
theorem rel_refl {α : Type} {R : α → α → Prop} (hR : ∀ a, R a a) (x : Option α) :
    Option.Rel R x x := by
  cases x with
  | none => exact .none
  | some a => exact .some (hR a)

/-- Both parts of a text are widened. -/
def Parts (x y : Text × Text) : Prop :=
  Widened x.1 y.1 ∧ Widened x.2 y.2

/-- Split at a character other than the space, a widened text is widened in its parts. -/
theorem splitAtFirst (h : Widened t t') {c : Char} (hc : c ≠ ' ') :
    Option.Rel Parts (Text.splitAtFirst c t) (Text.splitAtFirst c t') := by
  induction h with
  | same t => exact rel_refl (fun _ => ⟨same _, same _⟩) _
  | double t =>
      simp only [Text.splitAtFirst, if_neg hc.symm]
      cases Text.splitAtFirst c t with
      | none => exact .none
      | some parts => exact .some ⟨double _, same _⟩
  | @cons d t t' h ih =>
      simp only [Text.splitAtFirst]
      split
      · exact .some ⟨same [], h⟩
      · generalize Text.splitAtFirst c t = split, Text.splitAtFirst c t' = split' at ih ⊢
        cases ih with
        | none => exact .none
        | some hparts => exact .some ⟨hparts.1.cons d, hparts.2⟩

end Widened

section Equivalence

variable {R : Text → Text → Prop} (hR : Equivalence R)
  (widened : ∀ {t t' : Text}, Widened t t' → R t t')

include hR widened

/-- Spaces that are added to a space widen the text again and again. -/
theorem equivalent_replicate (a t : Text) (n : Nat) :
    R (a ++ ' ' :: t) (a ++ (List.replicate (n + 1) ' ' ++ t)) := by
  induction n with
  | zero => exact hR.refl _
  | succ n ih => exact hR.trans ih (widened (Widened.append_left a (.double _)))

/-- **Respaced texts are equivalent if widened ones are.** -/
theorem Respaced.of_widened {t t' : Text} (h : Respaced t t') : R t t' := by
  -- what stands before is kept, so that the induction can go on behind it
  suffices hbehind : ∀ a, R (a ++ t) (a ++ t') from hbehind []
  induction h with
  | nil => exact fun a => hR.refl _
  | @char c t t' _ _ ih =>
      intro a
      simpa using ih (a ++ [c])
  | @run m n t t' hm hn _ ih =>
      intro a
      obtain ⟨m, rfl⟩ := Nat.exists_eq_succ_of_ne_zero (Nat.ne_of_gt hm)
      obtain ⟨n, rfl⟩ := Nat.exists_eq_succ_of_ne_zero (Nat.ne_of_gt hn)
      have hmiddle : R (a ++ ' ' :: t) (a ++ ' ' :: t') := by simpa using ih (a ++ [' '])
      exact hR.trans (hR.symm (equivalent_replicate hR widened a t m))
        (hR.trans hmiddle (equivalent_replicate hR widened a t' n))

end Equivalence

end Tapeline
