import Tapeline.Proofs.Measure.Markers
import Tapeline.Proofs.Measure.Starred
import Tapeline.Proofs.Routes

/-!
# The glyph and the star

The times glyph and the star are the same sign.  A text with stars for its glyphs takes the same
route as the text: it is the same percentage or none (`Percentage.read?_starred`), it has unit
markers just if the text has them, plain arithmetic has the same tokens for it
(`Arithmetic.tokens?_starred`), and as a measurement it reduces to the same value or fails with the
same error.  So an outcome differs in the expression that it carries and in nothing else
(`evaluate_starred`).
-/

namespace Tapeline

open Text (starred starredChar starredChar_congr)

/-! ## Percentages -/

namespace Percentage

/-- A number without a sign is taken in front of stars as in front of glyphs. -/
theorem takeUnsigned?_starred (negative : Bool) (t : Text) :
    takeUnsigned? negative (starred t) =
      (takeUnsigned? negative t).map fun (x, rest) => (x, starred rest) := by
  unfold takeUnsigned?
  rw [takeDigits_starred]
  obtain ⟨whole, rest⟩ := takeDigits t
  cases whole with
  | nil => rfl
  | cons d whole =>
      match rest with
      | [] => rfl
      | c :: rest =>
          by_cases hpoint : c = '.'
          · subst hpoint
            have hstay : starredChar '.' = '.' := by decide
            simp only [Text.starred_cons, hstay, takeDigits_starred]
            obtain ⟨places, after⟩ := takeDigits rest
            cases places <;> rfl
          · have hpoint' : ¬ starredChar c = '.' := by
              rwa [Measure.starredChar_eq_iff (by decide) (by decide)]
            simp [hpoint, hpoint']

/-- A number is taken in front of stars as in front of glyphs. -/
theorem takeNumber?_starred (t : Text) :
    takeNumber? (starred t) = (takeNumber? t).map fun (x, rest) => (x, starred rest) := by
  by_cases hminus : t.head? = some '-'
  · obtain ⟨unsigned, rfl⟩ := List.head?_eq_some_iff.mp hminus
    exact takeUnsigned?_starred true unsigned
  · have hminus' : (starred t).head? ≠ some '-' := by
      intro hhead
      rw [Text.head?_starred, Option.map_eq_some_iff] at hhead
      obtain ⟨c, hc, hstarred⟩ := hhead
      rw [Measure.starredChar_eq_iff (by decide) (by decide)] at hstarred
      exact hminus (hc.trans (congrArg some hstarred))
    rw [takeNumber?_unsigned hminus, takeNumber?_unsigned hminus', takeUnsigned?_starred]

/-- The next number is taken in front of stars as in front of glyphs. -/
theorem takeNext?_starred (t : Text) :
    takeNext? (starred t) = (takeNext? t).map fun (x, rest) => (x, starred rest) := by
  rw [takeNext?, Text.stripStart_starred, takeNumber?_starred, takeNext?]

/-- A sign is taken if it counts like the star where it is a glyph. -/
theorem takeSign?_starred {signs : List Char} (h : signs.contains '*' = signs.contains '×')
    (t : Text) :
    takeSign? signs (starred t) =
      (takeSign? signs t).map fun (c, rest) => (starredChar c, starred rest) := by
  unfold takeSign?
  rw [Text.stripStart_starred]
  cases t.stripStart with
  | nil => rfl
  | cons c rest =>
      have hc : signs.contains (starredChar c) = signs.contains c :=
        starredChar_congr h c
      simp only [Text.starred_cons, hc]
      split <;> rfl

theorem isEnd_starred (t : Text) : isEnd (starred t) = isEnd t := by
  match t with
  | [] => rfl
  | [c] =>
      have hc := Measure.starredChar_eq_iff (c := c) (d := '\n') (by decide) (by decide)
      simp [isEnd, hc]
  | c :: d :: t => simp [isEnd]

/-- Two numbers around a sign are read alike if the star is a sign where the glyph is. -/
theorem readSigned?_starred {signs : List Char} (h : signs.contains '*' = signs.contains '×')
    (t : Text) :
    readSigned? signs (starred t) =
      (readSigned? signs t).map fun (first, sign, second) => (first, starredChar sign, second) := by
  have hpercent : ['%'].contains '*' = ['%'].contains '×' := by decide
  unfold readSigned?
  rw [takeNumber?_starred]
  cases takeNumber? t with
  | none => rfl
  | some read =>
      obtain ⟨first, rest⟩ := read
      simp only [Option.map_some, Option.bind_eq_bind, Option.bind_some, takeSign?_starred h]
      cases takeSign? signs rest with
      | none => rfl
      | some read =>
          obtain ⟨sign, rest⟩ := read
          simp only [Option.map_some, Option.bind_some, takeNext?_starred]
          cases takeNext? rest with
          | none => rfl
          | some read =>
              obtain ⟨second, rest⟩ := read
              simp only [Option.map_some, Option.bind_some, takeSign?_starred hpercent]
              cases takeSign? ['%'] rest with
              | none => rfl
              | some read =>
                  simp only [Option.map_some, Option.bind_some, isEnd_starred]
                  split <;> rfl

/-- No other character is the glyph or the star in lower case. -/
theorem toLower_starredChar {c d : Char} (hstar : d ≠ '*') (hglyph : d ≠ '×') :
    (starredChar c).toLower = d ↔ c.toLower = d := by
  by_cases hc : c = '×'
  · subst hc
    exact ⟨fun h => absurd h.symm hstar, fun h => absurd h.symm hglyph⟩
  · rw [Text.starredChar_of_ne hc]

/-- Of the connectors, one is the glyph and one is the star. -/
theorem dropConnector_starred (t : Text) :
    dropConnector (starred t) = starred (dropConnector t) := by
  match t with
  | [] => rfl
  | [c] =>
      by_cases hc : c = '×'
      · subst hc
        rfl
      · by_cases hstar : c = '*'
        · subst hstar
          rfl
        · rw [Text.starred_cons, Text.starredChar_of_ne hc]
          simp [dropConnector, hc, hstar, Text.starredChar_of_ne hc]
  | a :: b :: t =>
      by_cases hglyph : a = '×'
      · subst hglyph
        rfl
      · by_cases hstar : a = '*'
        · subst hstar
          rfl
        · have hf := @toLower_starredChar b 'f' (by decide) (by decide)
          have he := @toLower_starredChar b 'e' (by decide) (by decide)
          rw [Text.starred_cons, Text.starredChar_of_ne hglyph, Text.starred_cons]
          simp only [dropConnector, List.cons.injEq, hf, he]
          split
          · rfl
          · simp [Text.starredChar_of_ne hglyph]

/-- A share is read alike, as neither the glyph nor the star stands in one. -/
theorem readShare?_starred (t : Text) : readShare? (starred t) = readShare? t := by
  have hpercent : ['%'].contains '*' = ['%'].contains '×' := by decide
  unfold readShare?
  rw [takeNumber?_starred]
  cases takeNumber? t with
  | none => rfl
  | some read =>
      obtain ⟨first, rest⟩ := read
      simp only [Option.map_some, Option.bind_eq_bind, Option.bind_some,
        takeSign?_starred hpercent]
      cases takeSign? ['%'] rest with
      | none => rfl
      | some read =>
          obtain ⟨sign, rest⟩ := read
          simp only [Option.map_some, Option.bind_some, Text.stripStart_starred,
            dropConnector_starred, takeNext?_starred]
          cases takeNext? (dropConnector rest.stripStart) with
          | none => rfl
          | some read => simp only [Option.map_some, Option.bind_some, isEnd_starred]

/-- The percent sign stands at the same place. -/
theorem shareOf_starred (t : Text) (first second : Binary64) :
    shareOf (starred t) first second = shareOf t first second := by
  have hbefore : ((starred t).takeWhile (· != '%')).length = (t.takeWhile (· != '%')).length := by
    rw [Text.takeWhile_starred (by decide), Text.length_starred]
  simp only [shareOf, hbefore, Text.length_starred]

/-- **A starred text is the same percentage**, or none. -/
theorem read?_starred (t : Text) : read? (starred t) = read? t := by
  have hadjusted : ∀ (base : Binary64) (sign : Char) (percent : Binary64),
      adjusted base (starredChar sign) percent = adjusted base sign percent := by
    intro base sign percent
    simp only [adjusted, Measure.starredChar_eq_iff (d := '+') (by decide) (by decide)]
  unfold read?
  rw [readSigned?_starred (by decide), readShare?_starred, readSigned?_starred (by decide)]
  cases readSigned? ['+', '-'] t with
  | some read => simp only [Option.map_some, hadjusted]
  | none =>
      simp only [Option.map_none, shareOf_starred]
      cases readShare? t with
      | some read => rfl
      | none => cases readSigned? ['×', '*'] t <;> rfl

end Percentage

/-! ## Plain arithmetic and unit markers -/

namespace Arithmetic

/-- Plain signs do not tell the glyph from the star. -/
theorem plain_starred (t : Text) : plain (starred t) = plain t := by
  have hsign : Operator.plainSign ∘ starredChar = Operator.plainSign :=
    Text.comp_starredChar (by decide)
  rw [plain, Text.filter_starred (by decide), starred, List.map_map, hsign, plain]

/-- **Plain arithmetic reads the star for the glyph.** -/
theorem tokens?_starred (t : Text) : tokens? (starred t) = tokens? t := by
  rw [tokens?, plain_starred, tokens?]

/-- Whether arithmetic lets a text through does not depend on the glyph. -/
theorem isPlain_starred (t : Text) : isPlain (starred t) = isPlain t := by
  rw [isPlain, Text.isEmpty_starred, Text.all_starred (by decide), isPlain]

/-- The values of plain arithmetic are those of its tokens; only its errors quote the text. -/
theorem toOption_evaluate_starred (t : Text) :
    (evaluate (starred t)).toOption = (evaluate t).toOption := by
  have htokens := tokens?_starred t
  cases hread : tokens? t with
  | error c =>
      rw [evaluate_unexpected (htokens.trans hread), evaluate_unexpected hread]
      rfl
  | ok tokens =>
      rw [evaluate_tokens (htokens.trans hread), evaluate_tokens hread]
      simp only [bind, Except.bind]
      split
      · rfl
      · cases evaluateTokens tokens with
        | error error => rfl
        | ok v =>
            dsimp only
            split <;> rfl

end Arithmetic

namespace Measure

theorem startsWithSlashDigit_starred (t : Text) :
    startsWithSlashDigit (starred t) = startsWithSlashDigit t := by
  have hdigit : ∀ c, isDecimalDigit (starredChar c) = isDecimalDigit c :=
    starredChar_congr (by decide)
  cases t with
  | nil => rfl
  | cons c rest =>
      by_cases hslash : c = '/'
      · rw [hslash]
        cases rest with
        | nil => rfl
        | cons d rest => exact hdigit d
      · have hslash' : starredChar c ≠ '/' := fun heq =>
          hslash ((starredChar_eq_iff (by decide) (by decide)).mp heq)
        rw [startsWithSlashDigit_eq_false (by simpa using hslash'),
          startsWithSlashDigit_eq_false (by simpa using hslash)]

theorem hasDigitSlash_starred (t : Text) : hasDigitSlash (starred t) = hasDigitSlash t := by
  have hdigit : ∀ c, isDecimalDigit (starredChar c) = isDecimalDigit c :=
    starredChar_congr (by decide)
  induction t with
  | nil => rfl
  | cons c t ih =>
      rw [Text.starred_cons, hasDigitSlash_cons, hasDigitSlash_cons, startsWithSlashDigit_starred,
        hdigit, ih]

/-- Unit markers do not see the glyph. -/
theorem hasUnitMarkers_starred (t : Text) : hasUnitMarkers (starred t) = hasUnitMarkers t := by
  rw [hasUnitMarkers, Text.any_starred (by decide), hasDigitSlash_starred, hasUnitMarkers]

end Measure

/-! ## Outcomes -/

/-- An outcome with another expression to carry. -/
def Outcome.mapExpression (f : Text → Text) : Outcome → Outcome
  | success s => .success { s with expression := f s.expression }
  | failure e => .failure { e with expression := f e.expression }

/-- A starred text is the same plain number, or none. -/
theorem plainValue?_starred (t : Text) : plainValue? (starred t) = plainValue? t := by
  simp only [plainValue?, Percentage.read?_starred, Measure.hasUnitMarkers_starred,
    Arithmetic.isPlain_starred, Arithmetic.toOption_evaluate_starred]

/-- **The times glyph and the star are interchangeable.**  With a star for every glyph an expression
comes to the same outcome, and just the expression that the outcome carries has stars for its
glyphs. -/
theorem evaluate_starred (e : Text) :
    evaluate (starred e) = (evaluate e).mapExpression starred := by
  have hstrip := Text.strip_starred e
  by_cases hblank : e.strip = []
  · have hblank' : (starred e).strip = [] := by rw [hstrip, hblank, Text.starred_nil]
    rw [evaluate_blank hblank, evaluate_blank hblank']
    rfl
  have hblank' : (starred e).strip ≠ [] := by
    rw [hstrip]
    exact fun hnil => hblank (Text.starred_eq_nil_iff.mp hnil)
  have hvalue : plainValue? (starred e).strip = plainValue? e.strip := by
    rw [hstrip, plainValue?_starred]
  cases hplain : plainValue? e.strip with
  | some v =>
      rw [evaluate_plain hblank hplain, evaluate_plain hblank' (hvalue.trans hplain), hstrip]
      rfl
  | none =>
      have hreduce := Measure.reduce_tokens_starred (Text.trimmed_strip e) hblank
      rw [evaluate_unplain hblank hplain, evaluate_unplain hblank' (hvalue.trans hplain), hstrip,
        hreduce]
      cases Measure.reduce (Measure.tokens e.strip) <;> rfl

/-- A glyph that is no cut stays inside its value, and one that is a cut is a product. -/
example : evaluate "2×4 × 3\x27".toList =
    (evaluate "2*4 * 3\x27".toList).mapExpression fun _ => "2×4 × 3\x27".toList := by
  decide +kernel

end Tapeline
