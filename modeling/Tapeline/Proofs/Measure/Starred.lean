import Tapeline.Proofs.Measure.Cutting
import Tapeline.Proofs.Text.Starred

/-!
# Measurements with stars

A starred text shows the same length (`quantity_starred`), and it is cut into the starred tokens of
the text (`tokens_starred`): a glyph that is a cut becomes the plain sign either way, and one that
is none stays inside its value.  The operators among the tokens have no glyph to star, so a starred
text reduces to the same value or fails with the same error (`reduce_tokens_starred`).
-/

namespace Tapeline

namespace Measure

open Text (starred starredChar starredChar_congr)

/-! ## Quantities -/

/-- A test of single characters is not changed where it takes none of the two. -/
theorem starredChar_eq_iff {c d : Char} (hstar : d ≠ '*') (hglyph : d ≠ '×') :
    starredChar c = d ↔ c = d := by
  have h : ('*' = d) = ('×' = d) := by
    rw [eq_false hstar.symm, eq_false hglyph.symm]
  rw [starredChar_congr (p := (· = d)) h c]

/-- A denominator does not see the glyph. -/
theorem overDigits?_starred (t : Text) : overDigits? (starred t) = overDigits? t := by
  match t with
  | [] => rfl
  | c :: t =>
      by_cases hslash : c = '/'
      · subst hslash
        have hstay : starredChar '/' = '/' := by decide
        simp only [Text.starred_cons, hstay, overDigits?, takeDigits_starred]
        obtain ⟨digits, after⟩ := takeDigits t
        cases digits with
        | nil => rfl
        | cons d digits => cases after <;> rfl
      · have hslash' : ¬ starredChar c = '/' := by
          rwa [starredChar_eq_iff (by decide) (by decide)]
        simp [overDigits?, hslash, hslash']

/-- The layout of inches does not see the glyph. -/
theorem read?_starred (t : Text) : InchText.read? (starred t) = InchText.read? t := by
  simp only [InchText.read?, takeDigits_starred]
  obtain ⟨first, rest⟩ := takeDigits t
  cases first with
  | nil => rfl
  | cons d first =>
      simp only [overDigits?_starred]
      cases overDigits? rest with
      | some denominator => rfl
      | none =>
          cases rest with
          | nil => rfl
          | cons c rest =>
              have hblank : isBlank (starredChar c) = isBlank c :=
                starredChar_congr Text.isBlank_star c
              have hdrop := Text.dropWhile_starred Text.isBlank_star (c :: rest)
              rw [Text.starred_cons] at hdrop
              simp only [Text.starred_cons, hblank, hdrop, takeDigits_starred]
              obtain ⟨numerator, after⟩ := takeDigits ((c :: rest).dropWhile isBlank)
              cases numerator with
              | nil => rfl
              | cons n numerator => simp only [overDigits?_starred]

/-- A leading number does not see the glyph. -/
theorem leadingOrZero_starred (t : Text) : leadingOrZero (starred t) = leadingOrZero t := by
  rw [leadingOrZero, leadingNumber_starred, leadingOrZero]

/-- Inches do not see the glyph. -/
theorem inches_starred (t : Text) : inches (starred t) = inches t := by
  rw [inches, read?_starred, leadingOrZero_starred, inches]

/-- Feet are split off in front of the glyph as they are in front of the star. -/
theorem splitFeet_starred (t : Text) :
    splitFeet (starred t) = (splitFeet t).map fun (feet, rest) => (feet, starred rest) := by
  rw [splitFeet, splitFeet, Text.splitAtFirst_starred (by decide) (by decide)]
  cases Text.splitAtFirst '\x27' t with
  | none => rfl
  | some parts =>
      simp only [Option.map_some, leadingOrZero_starred]
      cases leadingOrZero parts.1 <;> rfl

/-- **A starred text shows the same length**, or fails in the same way. -/
theorem quantity_starred (t : Text) : quantity (starred t) = quantity t := by
  have hmarks : (starred t).strip.filter (· != '\x22') = starred (t.strip.filter (· != '\x22')) := by
    rw [Text.strip_starred, Text.filter_starred (by decide)]
  simp only [quantity, hmarks, splitFeet_starred]
  cases splitFeet (t.strip.filter (· != '\x22')) with
  | error error => rfl
  | ok read =>
      simp only [Except.map, bind, Except.bind, Text.strip_starred, Text.isEmpty_starred,
        inches_starred]

/-! ## Tokens -/

/-- The glyph and the star have one plain sign. -/
theorem plainSign_starredChar (c : Char) :
    Operator.plainSign (starredChar c) = Operator.plainSign c :=
  starredChar_congr (by decide) c

/-- The glyph and the star are one operator. -/
theorem ofChar?_starredChar (c : Char) :
    Operator.ofChar? (starredChar c) = Operator.ofChar? c := by
  rw [Operator.ofChar?, plainSign_starredChar, Operator.ofChar?]

/-- A cut looks at the operator and at the spaces beside it. -/
theorem isCut_starred (prev next : Option Char) (seen : Bool) (c : Char) :
    isCut (prev.map starredChar) (next.map starredChar) seen (starredChar c) =
      isCut prev next seen c := by
  have hspace : ∀ x : Option Char, x.map starredChar = some ' ' ↔ x = some ' ' := by
    intro x
    cases x with
    | none => simp
    | some d =>
        rw [Option.map_some, Option.some_inj, Option.some_inj,
          starredChar_eq_iff (by decide) (by decide)]
  simp only [isCut, ofChar?_starredChar, hspace, Option.isNone_map]

/-- **A starred text is cut at the same places.** -/
theorem cutPieces_starred (t : Text) : ∀ (prev : Option Char) (seen : Bool),
    cutPieces (prev.map starredChar) seen (starred t) =
      (starred (cutPieces prev seen t).1,
        (cutPieces prev seen t).2.map fun (c, piece) => (starredChar c, starred piece)) := by
  induction t with
  | nil => intro prev seen; rfl
  | cons c t ih =>
      intro prev seen
      have hcut := isCut_starred prev t.head? seen c
      have hblank : isBlank (starredChar c) = isBlank c :=
        starredChar_congr Text.isBlank_star c
      rw [← Text.head?_starred] at hcut
      rw [Text.starred_cons]
      cases hthere : isCut prev t.head? seen c with
      | true =>
          have hnext := ih (some c) false
          rw [Option.map_some] at hnext
          rw [cutPieces_of_cut (hcut.trans hthere), cutPieces_of_cut hthere, hnext]
          rfl
      | false =>
          have hnext := ih (some c) (seen || !isBlank c)
          rw [Option.map_some] at hnext
          rw [cutPieces_of_not_cut (hcut.trans hthere), cutPieces_of_not_cut hthere, hblank, hnext]
          rfl

theorem starred_plainSign (c : Char) : starred [Operator.plainSign c] = [Operator.plainSign c] := by
  refine Text.starred_of_not_mem fun hmem => ?_
  have hc : Operator.plainSign c = '×' := (List.mem_singleton.mp hmem).symm
  unfold Operator.plainSign at hc
  split at hc
  · cases hc
  · cases hc
  · rename_i hglyph _
    exact hglyph hc

/-- **The tokens of a starred text are the starred tokens.** -/
theorem tokens_starred (t : Text) : tokens (starred t) = (tokens t).map starred := by
  have hpieces := cutPieces_starred t none false
  have hkept : (fun u : Text => !u.isEmpty) ∘ starred = fun u => !u.isEmpty := by
    funext u
    rw [Function.comp_apply, Text.isEmpty_starred]
  have hfilter : ∀ us : List Text,
      (us.filter fun u => !u.isEmpty).map starred = (us.map starred).filter fun u => !u.isEmpty := by
    intro us
    rw [List.filter_map, hkept]
  rw [Option.map_none] at hpieces
  simp only [tokens, hpieces, hfilter, Text.strip_starred, List.flatMap_map,
    plainSign_starredChar, List.map_cons, List.map_flatMap, List.map_nil, starred_plainSign]

/-! ## Reductions -/

/-- A value does not see the glyph. -/
theorem readValue_starred (t : Text) : readValue (starred t) = readValue t := by
  rw [readValue, quantity_starred, readValue]

/-- Links do not see the glyph. -/
theorem readLinks_starred (links : List (Text × Text)) :
    readLinks (links.map fun (op, value) => (op, starred value)) = readLinks links := by
  induction links with
  | nil => rfl
  | cons link links ih =>
      obtain ⟨op, value⟩ := link
      simp only [List.map_cons, readLinks, readValue_starred, ih]

theorem starred_sign (op : Operator) : starred [op.sign] = [op.sign] := by
  cases op <;> rfl

/-- Values in turn keep their operators when the glyph is replaced. -/
theorem inTurn_starred (first : Text) (links : List (Operator × Text)) :
    (inTurn first links).map starred =
      inTurn (starred first) (links.map fun (op, value) => (op, starred value)) := by
  simp only [inTurn, List.map_cons, List.map_flatMap, List.flatMap_map, List.map_nil, starred_sign]

/-- Values that are starred reduce as before. -/
theorem reduce_inTurn_starred (first : Text) (links : List (Operator × Text)) :
    reduce ((inTurn first links).map starred) = reduce (inTurn first links) := by
  have hlinks := readLinks_starred (links.map fun link => ([link.1.sign], link.2))
  have hpairs := pairLinks_flatMap (fun link : Operator × Text => [link.1.sign])
  rw [List.map_map] at hlinks
  rw [inTurn_starred]
  simp only [inTurn, reduce, List.flatMap_map, hpairs, readValue_starred, bind, Except.bind]
  rw [← hlinks]
  rfl

/-- **A starred text reduces as the text does.** -/
theorem reduce_tokens_starred {e : Text} (htrimmed : e.Trimmed) (hne : e ≠ []) :
    reduce (tokens (starred e)) = reduce (tokens e) := by
  obtain ⟨lead, c, rfl, hc⟩ := htrimmed.exists_last hne
  rw [tokens_starred]
  rcases tokens_cases hc with ⟨_, first, links, htokens⟩ | ⟨_, first, links, op, htokens⟩
  · rw [htokens, reduce_inTurn_starred]
  · rw [htokens, List.map_append, inTurn_starred, reduce_dangling, List.map_singleton,
      starred_sign, reduce_dangling]

end Measure

end Tapeline
