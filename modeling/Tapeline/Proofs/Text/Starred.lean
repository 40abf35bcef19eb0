import Tapeline.Numeral
import Tapeline.Proofs.Text.Strip

/-!
# Stars for times glyphs

`starred t` is the text `t` with a star for every times glyph.  A test that takes the two characters
alike does not see the difference (`comp_starredChar`), so all that texts are searched and split
with goes through `starred`.

Neither character belongs to a number.  So the readers of numbers read the same from a starred text
and leave the starred rest (`takeDigits_starred` and its companions), and what they take off a text
holds no glyph (`TakesNoGlyph`).  That also settles the one error of theirs, which quotes what was
taken (`leadingNumber_starred`).
-/

namespace Tapeline

namespace Text

/-- A star for the times glyph, and any other character as it is. -/
def starredChar (c : Char) : Char :=
  if c = '×' then '*' else c

/-- A text with a star for every times glyph. -/
def starred (t : Text) : Text :=
  t.map starredChar

/-- Only the glyph is replaced. -/
theorem starredChar_of_ne {c : Char} (h : c ≠ '×') : starredChar c = c := by
  rw [starredChar, if_neg h]

/-- A test that takes the star and the glyph alike takes all characters as before. -/
theorem comp_starredChar {α : Type} {p : Char → α} (h : p '*' = p '×') :
    p ∘ starredChar = p := by
  funext c
  by_cases hc : c = '×'
  · rw [hc]
    exact h
  · rw [Function.comp_apply, starredChar_of_ne hc]

/-- What does not tell the glyph from the star does not see that it is replaced. -/
theorem starredChar_congr {α : Type} {p : Char → α} (h : p '*' = p '×') (c : Char) :
    p (starredChar c) = p c :=
  congrFun (comp_starredChar h) c

@[simp] theorem starred_nil : starred [] = [] := rfl

@[simp] theorem starred_cons (c : Char) (t : Text) :
    starred (c :: t) = starredChar c :: starred t := rfl

@[simp] theorem starred_append (t u : Text) : starred (t ++ u) = starred t ++ starred u :=
  List.map_append

@[simp] theorem length_starred (t : Text) : (starred t).length = t.length :=
  List.length_map _

@[simp] theorem isEmpty_starred (t : Text) : (starred t).isEmpty = t.isEmpty := by
  cases t <;> rfl

theorem starred_eq_nil_iff {t : Text} : starred t = [] ↔ t = [] :=
  List.map_eq_nil_iff

/-- A text without a glyph has nothing to star. -/
theorem starred_of_not_mem {t : Text} (h : '×' ∉ t) : starred t = t := by
  have hsame : ∀ c ∈ t, starredChar c = id c := fun c hc =>
    starredChar_of_ne fun heq => h (heq ▸ hc)
  rw [starred, List.map_congr_left hsame, List.map_id]

theorem head?_starred (t : Text) : (starred t).head? = t.head?.map starredChar :=
  List.head?_map

section Tests

variable {p : Char → Bool} (h : p '*' = p '×') (t : Text)
include h

/-- Dropping characters of a kind commutes with the stars. -/
theorem dropWhile_starred : (starred t).dropWhile p = starred (t.dropWhile p) := by
  rw [starred, List.dropWhile_map, comp_starredChar h]
  rfl

/-- Taking characters of a kind commutes with the stars. -/
theorem takeWhile_starred : (starred t).takeWhile p = starred (t.takeWhile p) := by
  rw [starred, List.takeWhile_map, comp_starredChar h]
  rfl

/-- Leaving out characters commutes with the stars. -/
theorem filter_starred : (starred t).filter p = starred (t.filter p) := by
  rw [starred, List.filter_map, comp_starredChar h]
  rfl

theorem all_starred : (starred t).all p = t.all p := by
  rw [starred, List.all_map, comp_starredChar h]

theorem any_starred : (starred t).any p = t.any p := by
  rw [starred, List.any_map, comp_starredChar h]

end Tests

theorem isBlank_star : isBlank '*' = isBlank '×' := by decide

/-- Blanks at the start are stripped in front of stars as in front of glyphs. -/
theorem stripStart_starred (t : Text) : (starred t).stripStart = starred t.stripStart :=
  dropWhile_starred isBlank_star t

theorem stripEnd_starred (t : Text) : (starred t).stripEnd = starred t.stripEnd := by
  have hreverse : ∀ u : Text, (starred u).reverse = starred u.reverse :=
    fun u => List.map_reverse.symm
  rw [stripEnd_eq, hreverse, stripStart_starred, hreverse, stripEnd_eq]

/-- Stripping commutes with the stars. -/
theorem strip_starred (t : Text) : (starred t).strip = starred t.strip := by
  rw [strip, stripStart_starred, stripEnd_starred, strip]

/-- Split at another character, both parts are starred. -/
theorem splitAtFirst_starred {c : Char} (hstar : c ≠ '*') (hglyph : c ≠ '×') (t : Text) :
    splitAtFirst c (starred t) =
      (splitAtFirst c t).map fun (before, after) => (starred before, starred after) := by
  induction t with
  | nil => rfl
  | cons d t ih =>
      have hd : starredChar d = c ↔ d = c := by
        by_cases hd : d = '×'
        · subst hd
          exact ⟨fun heq => absurd heq.symm hstar, fun heq => absurd heq.symm hglyph⟩
        · rw [starredChar_of_ne hd]
      by_cases hc : d = c
      · rw [starred_cons, splitAtFirst, splitAtFirst, if_pos hc, if_pos (hd.mpr hc)]
        rfl
      · have hnot : ¬ starredChar d = c := fun heq => hc (hd.mp heq)
        simp only [starred_cons, splitAtFirst, if_neg hc, if_neg hnot, ih]
        cases splitAtFirst c t <;> rfl

/-- What stands before `rest` in `t` holds no glyph. -/
def TakesNoGlyph (t rest : Text) : Prop :=
  ∃ taken, t = taken ++ rest ∧ '×' ∉ taken

namespace TakesNoGlyph

theorem refl (t : Text) : TakesNoGlyph t t :=
  ⟨[], rfl, List.not_mem_nil⟩

theorem cons {t rest : Text} {c : Char} (hc : c ≠ '×') (h : TakesNoGlyph t rest) :
    TakesNoGlyph (c :: t) rest := by
  obtain ⟨taken, rfl, htaken⟩ := h
  refine ⟨c :: taken, rfl, ?_⟩
  intro hmem
  rcases List.mem_cons.mp hmem with heq | hmem
  · exact hc heq.symm
  · exact htaken hmem

/-- Two steps that take no glyph take none together. -/
theorem trans {t u rest : Text} (h : TakesNoGlyph t u) (h' : TakesNoGlyph u rest) :
    TakesNoGlyph t rest := by
  obtain ⟨taken, rfl, htaken⟩ := h
  obtain ⟨more, rfl, hmore⟩ := h'
  refine ⟨taken ++ more, (List.append_assoc _ _ _).symm, ?_⟩
  intro hmem
  rcases List.mem_append.mp hmem with hmem | hmem
  · exact htaken hmem
  · exact hmore hmem

/-- What is taken off a text is taken off the starred text. -/
theorem take_starred {t rest : Text} (h : TakesNoGlyph t rest) :
    (starred t).take ((starred t).length - (starred rest).length) =
      t.take (t.length - rest.length) := by
  obtain ⟨taken, rfl, htaken⟩ := h
  simp [starred_of_not_mem htaken]

end TakesNoGlyph

/-- Characters that are dropped are no glyphs if glyphs are not of their kind. -/
theorem takesNoGlyph_dropWhile {p : Char → Bool} (h : p '×' = false) (t : Text) :
    TakesNoGlyph t (t.dropWhile p) := by
  refine ⟨t.takeWhile p, List.takeWhile_append_dropWhile.symm, ?_⟩
  intro hmem
  rw [List.mem_takeWhile_imp hmem] at h
  cases h

end Text

open Text

/-! ## Numbers -/

/-- A starred text starts with the same digits. -/
theorem takeDigits_starred (t : Text) :
    takeDigits (starred t) = ((takeDigits t).1, starred (takeDigits t).2) := by
  induction t with
  | nil => rfl
  | cons c t ih =>
      have hc : decimalDigit? (starredChar c) = decimalDigit? c :=
        starredChar_congr (by decide) c
      simp only [starred_cons, takeDigits, hc]
      cases decimalDigit? c with
      | some d => simp only [ih]
      | none => rfl

/-- No glyph is taken with digits. -/
theorem takesNoGlyph_takeDigits (t : Text) : TakesNoGlyph t (takeDigits t).2 := by
  induction t with
  | nil => exact .refl []
  | cons c t ih =>
      unfold takeDigits
      cases hdigit : decimalDigit? c with
      | some d =>
          refine ih.cons ?_
          rintro rfl
          cases hdigit
      | none => exact .refl _

/-- A sign is taken in front of stars as in front of glyphs. -/
theorem takeSign_starred (t : Text) :
    takeSign (starred t) = ((takeSign t).1, starred (takeSign t).2) := by
  cases t with
  | nil => rfl
  | cons c t =>
      by_cases hminus : c = '-'
      · subst hminus
        rfl
      by_cases hplus : c = '+'
      · subst hplus
        rfl
      have hminus' : ¬ starredChar c = '-' := by
        have h := starredChar_congr (p := (· = '-')) (by decide) c
        rwa [h]
      have hplus' : ¬ starredChar c = '+' := by
        have h := starredChar_congr (p := (· = '+')) (by decide) c
        rwa [h]
      simp [takeSign, hminus, hplus, hminus', hplus']

/-- No glyph is taken with a sign. -/
theorem takesNoGlyph_takeSign (t : Text) : TakesNoGlyph t (takeSign t).2 := by
  unfold takeSign
  split
  · exact (TakesNoGlyph.refl _).cons (by decide)
  · exact (TakesNoGlyph.refl _).cons (by decide)
  · exact .refl _

namespace Numeral

/-- An exponent is taken in front of stars as in front of glyphs. -/
theorem takeExponent?_starred (t : Text) :
    takeExponent? (starred t) =
      (takeExponent? t).map fun (exponent, rest) => (exponent, starred rest) := by
  cases t with
  | nil => rfl
  | cons c t =>
      have hletter : (starredChar c = 'e' || starredChar c = 'E') = (c = 'e' || c = 'E') :=
        starredChar_congr (p := fun c => (c = 'e' || c = 'E' : Bool)) (by decide) c
      simp only [starred_cons, takeExponent?, hletter, takeSign_starred, takeDigits_starred]
      split
      · obtain ⟨digits, after⟩ := takeDigits (takeSign t).2
        cases digits <;> rfl
      · rfl

/-- No glyph is taken with an exponent. -/
theorem takesNoGlyph_takeExponent? {t rest : Text} {exponent : Int}
    (h : takeExponent? t = some (exponent, rest)) : TakesNoGlyph t rest := by
  cases t with
  | nil => cases h
  | cons c t =>
      simp only [takeExponent?] at h
      split at h
      · rename_i hletter
        have hc : c ≠ '×' := by
          rintro rfl
          cases hletter
        have htaken := (takesNoGlyph_takeSign t).trans (takesNoGlyph_takeDigits _)
        split at h
        · cases h
        · rename_i heq
          rw [heq] at htaken
          cases h
          exact htaken.cons hc
      · cases h

/-- A mantissa is taken in front of stars as in front of glyphs. -/
theorem takeMantissa?_starred (t : Text) :
    takeMantissa? (starred t) =
      (takeMantissa? t).map fun (whole, places, rest) => (whole, places, starred rest) := by
  simp only [takeMantissa?, takeDigits_starred]
  generalize takeDigits t = read
  obtain ⟨whole, rest⟩ := read
  match rest with
  | [] => cases whole <;> rfl
  | c :: rest =>
      by_cases hpoint : c = '.'
      · subst hpoint
        have hstay : starredChar '.' = '.' := by decide
        cases whole with
        | nil =>
            simp only [starred_cons, hstay, takeDigits_starred]
            obtain ⟨places, after⟩ := takeDigits rest
            cases places <;> rfl
        | cons d whole =>
            simp only [starred_cons, hstay, takeDigits_starred, Option.map_some]
      · have hpoint' : ¬ starredChar c = '.' := by
          rwa [starredChar_congr (p := (· = '.')) (by decide) c]
        cases whole <;> simp [hpoint, hpoint']

/-- No glyph is taken with a mantissa. -/
theorem takesNoGlyph_takeMantissa? {t rest : Text} {whole places : List Nat}
    (h : takeMantissa? t = some (whole, places, rest)) : TakesNoGlyph t rest := by
  have hwhole := takesNoGlyph_takeDigits t
  unfold takeMantissa? at h
  split at h
  · rename_i behind heq
    rw [heq] at hwhole
    have hplaces := takesNoGlyph_takeDigits behind
    split at h
    · cases h
    · rename_i heq'
      rw [heq'] at hplaces
      cases h
      exact hwhole.trans (hplaces.cons (by decide))
  · cases h
  · rename_i behind _ heq
    rw [heq] at hwhole
    have hplaces := takesNoGlyph_takeDigits behind
    rw [(Prod.mk.inj (Option.some.inj h)).2] at hplaces
    exact hwhole.trans (hplaces.cons (by decide))
  · rename_i heq
    rw [heq] at hwhole
    cases h
    exact hwhole

/-- A numeral is taken in front of stars as in front of glyphs. -/
theorem take?_starred (t : Text) :
    take? (starred t) = (take? t).map fun (numeral, rest) => (numeral, starred rest) := by
  unfold take?
  rw [takeMantissa?_starred]
  cases takeMantissa? t with
  | none => rfl
  | some read =>
      obtain ⟨whole, places, rest⟩ := read
      simp only [Option.map_some, takeExponent?_starred]
      cases takeExponent? rest <;> rfl

/-- No glyph is taken with a numeral. -/
theorem takesNoGlyph_take? {t rest : Text} {numeral : Numeral}
    (h : take? t = some (numeral, rest)) : TakesNoGlyph t rest := by
  obtain ⟨⟨whole, places, behind⟩, hmantissa, h⟩ := Option.map_eq_some_iff.mp h
  have htaken := takesNoGlyph_takeMantissa? hmantissa
  dsimp only at h
  split at h
  · rename_i hexponent
    cases h
    exact htaken.trans (takesNoGlyph_takeExponent? hexponent)
  · cases h
    exact htaken

end Numeral

/-- **A starred text starts with the same number**, or fails with the same words. -/
theorem leadingNumber_starred (t : Text) : leadingNumber (starred t) = leadingNumber t := by
  have hblanks : ((starred t).takeWhile isBlank).all isWhiteSpace =
      (t.takeWhile isBlank).all isWhiteSpace := by
    rw [takeWhile_starred isBlank_star, all_starred (by decide)]
  have htaken : TakesNoGlyph t (takeSign (t.dropWhile isBlank)).2 :=
    (takesNoGlyph_dropWhile (by decide) t).trans (takesNoGlyph_takeSign _)
  simp only [leadingNumber, hblanks, dropWhile_starred isBlank_star, takeSign_starred,
    Numeral.take?_starred]
  cases hread : Numeral.take? (takeSign (t.dropWhile isBlank)).2 with
  | none => rfl
  | some read =>
      obtain ⟨numeral, rest⟩ := read
      have hlead := (htaken.trans (Numeral.takesNoGlyph_take? hread)).take_starred
      simp only [Option.map_some]
      rw [hlead]

end Tapeline
