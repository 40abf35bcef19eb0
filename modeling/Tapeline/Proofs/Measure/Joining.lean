import Tapeline.Measure.Tokens
import Tapeline.Proofs.Text.Strip

/-!
# Tokens of a joined text

Values that hold no cut, joined by operators with a space on either side, are cut back into these
values and operators (`tokens_joined`).  A value is a trimmed text without a cut (`IsValue`).  The
scan sees such a value in the same way alone and inside a longer text: a space behind it counts for
its last character as the end of the text does, and its first character is never a cut, since
nothing but blanks came before it.
-/

namespace Tapeline

namespace Measure

/-- A trimmed text that is not blank and has no cut. -/
structure IsValue (t : Text) : Prop where
  trimmed : t.Trimmed
  ne_nil : t ≠ []
  uncut : cutPieces none false t = (t, [])

/-- A first value, and further values each behind an operator between two spaces. -/
def joined (first : Text) (links : List (Char × Text)) : Text :=
  first ++ links.flatMap fun link => ' ' :: link.1 :: ' ' :: link.2

theorem joined_cons (first : Text) (c : Char) (value : Text) (links : List (Char × Text)) :
    joined first ((c, value) :: links) = first ++ ' ' :: c :: ' ' :: joined value links := by
  simp [joined]

theorem joined_ne_nil {first : Text} (h : first ≠ []) (links : List (Char × Text)) :
    joined first links ≠ [] := by
  simp [joined, h]

theorem mem_joined_of_mem {first : Text} {c : Char} (h : c ∈ first) (links : List (Char × Text)) :
    c ∈ joined first links :=
  List.mem_append_left _ h

/-- A joined text holds the characters of its values and operators, and spaces. -/
theorem not_mem_joined {first : Text} {links : List (Char × Text)} {c : Char} (hspace : c ≠ ' ')
    (hfirst : c ∉ first) (hlinks : ∀ link ∈ links, c ≠ link.1 ∧ c ∉ link.2) :
    c ∉ joined first links := by
  intro h
  rcases List.mem_append.mp h with h | h
  · exact hfirst h
  · obtain ⟨link, hlink, h⟩ := List.mem_flatMap.mp h
    obtain ⟨hop, hvalue⟩ := hlinks link hlink
    simp only [List.mem_cons] at h
    rcases h with h | h | h | h
    · exact hspace h
    · exact hop h
    · exact hspace h
    · exact hvalue h

/-- Trimmed values are joined to a trimmed text. -/
theorem trimmed_joined (links : List (Char × Text)) : ∀ {first : Text}, IsValue first →
    (∀ link ∈ links, IsValue link.2) → (joined first links).Trimmed := by
  induction links with
  | nil =>
      intro first hfirst _
      simpa [joined] using hfirst.trimmed
  | cons link links ih =>
      intro first hfirst hlinks
      obtain ⟨c, value⟩ := link
      have hvalue := hlinks (c, value) List.mem_cons_self
      have hrest := ih hvalue fun l hl => hlinks l (List.mem_cons_of_mem _ hl)
      have hpad := hfirst.trimmed.append hrest [' ', c, ' '] hfirst.ne_nil
        (joined_ne_nil hvalue.ne_nil links)
      rw [joined_cons]
      simpa using hpad

/-- Nothing is cut before something that is not blank has come. -/
theorem isCut_unseen (prev next : Option Char) (c : Char) : isCut prev next false c = false := by
  simp [isCut]

/-- Only operators cut. -/
theorem isCut_of_no_operator {c : Char} (h : Operator.ofChar? c = none)
    (prev next : Option Char) (seen : Bool) : isCut prev next seen c = false := by
  simp [isCut, h]

/-- A space behind a character and the end of the text make the same of it. -/
theorem isCut_before_space (prev : Option Char) (seen : Bool) (c : Char) :
    isCut prev (some ' ') seen c = isCut prev none seen c := by
  simp [isCut]

/-- An operator between two spaces is a cut if something came before it. -/
theorem isCut_between_spaces {c : Char} (h : (Operator.ofChar? c).isSome = true)
    (next : Option Char) : isCut (some ' ') next true c = true := by
  simp [isCut, h]

/-- Where nothing is cut, the first character is not, and nothing behind it is. -/
theorem cutPieces_cons_uncut {prev : Option Char} {seen : Bool} {c : Char} {t : Text}
    (h : cutPieces prev seen (c :: t) = (c :: t, [])) :
    isCut prev t.head? seen c = false ∧
      cutPieces (some c) (seen || !isBlank c) t = (t, []) := by
  unfold cutPieces at h
  split at h
  · simp at h
  · rename_i hcut
    refine ⟨by simpa using hcut, ?_⟩
    simp only [Prod.mk.injEq, List.cons.injEq, true_and] at h
    exact Prod.ext h.1 h.2

/-- A character that does not cut goes on with the piece. -/
theorem cutPieces_of_not_cut {prev : Option Char} {seen : Bool} {c : Char} {t : Text}
    (h : isCut prev t.head? seen c = false) :
    cutPieces prev seen (c :: t) =
      (c :: (cutPieces (some c) (seen || !isBlank c) t).1,
        (cutPieces (some c) (seen || !isBlank c) t).2) := by
  simp [cutPieces, h]

/-- A character that cuts ends the piece and starts the next. -/
theorem cutPieces_of_cut {prev : Option Char} {seen : Bool} {c : Char} {t : Text}
    (h : isCut prev t.head? seen c = true) :
    cutPieces prev seen (c :: t) =
      ([], (c, (cutPieces (some c) false t).1) :: (cutPieces (some c) false t).2) := by
  simp [cutPieces, h]

/-- Behind a text without a cut, an operator between two spaces is the next cut. -/
theorem cutPieces_link {c : Char} (hc : (Operator.ofChar? c).isSome = true) (rest : Text) :
    ∀ (t : Text) (prev : Option Char) (seen : Bool), cutPieces prev seen t = (t, []) →
      (seen = true ∨ ∃ d ∈ t, isBlank d = false) →
      cutPieces prev seen (t ++ ' ' :: c :: ' ' :: rest) =
        (t ++ [' '], (c, ' ' :: (cutPieces (some ' ') false rest).1) ::
          (cutPieces (some ' ') false rest).2) := by
  have hspace : Operator.ofChar? ' ' = none := by decide
  intro t
  induction t with
  | nil =>
      intro prev seen _ hseen
      obtain rfl : seen = true := by simpa using hseen
      rw [List.nil_append, cutPieces_of_not_cut (isCut_of_no_operator hspace _ _ _),
        Bool.true_or, cutPieces_of_cut (isCut_between_spaces hc _),
        cutPieces_of_not_cut (isCut_of_no_operator hspace _ _ _)]
      rfl
  | cons d t ih =>
      intro prev seen huncut hseen
      obtain ⟨hd, ht⟩ := cutPieces_cons_uncut huncut
      have hcut : isCut prev (t ++ ' ' :: c :: ' ' :: rest).head? seen d = false := by
        cases t with
        | nil => exact (isCut_before_space prev seen d).trans hd
        | cons e t => exact hd
      have hseen' : (seen || !isBlank d) = true ∨ ∃ e ∈ t, isBlank e = false := by
        rcases hseen with rfl | ⟨e, he, hblank⟩
        · exact Or.inl rfl
        · rcases List.mem_cons.mp he with rfl | he
          · exact Or.inl (by simp [hblank])
          · exact Or.inr ⟨e, he, hblank⟩
      rw [List.cons_append, cutPieces_of_not_cut hcut, ih _ _ ht hseen']
      rfl

/-- Without operators there is nothing to cut. -/
theorem cutPieces_of_no_operator {t : Text} (h : ∀ c ∈ t, Operator.ofChar? c = none) :
    ∀ (prev : Option Char) (seen : Bool), cutPieces prev seen t = (t, []) := by
  induction t with
  | nil => intro _ _; rfl
  | cons c t ih =>
      intro prev seen
      rw [cutPieces_of_not_cut (isCut_of_no_operator (h c List.mem_cons_self) _ _ _),
        ih fun d hd => h d (List.mem_cons_of_mem _ hd)]

/-- An operator without a space on either side, and with something behind it, is no cut. -/
theorem cutPieces_append_operator {c : Char} {u : Text} (hnext : ∃ d, u.head? = some d ∧ d ≠ ' ')
    (hu : ∀ d ∈ u, Operator.ofChar? d = none) {t : Text}
    (ht : ∀ d ∈ t, Operator.ofChar? d = none) :
    ∀ (prev : Option Char) (seen : Bool), (∀ d, (t.getLast?.or prev) = some d → d ≠ ' ') →
      cutPieces prev seen (t ++ c :: u) = (t ++ c :: u, []) := by
  induction t with
  | nil =>
      intro prev seen hprev
      obtain ⟨d, hd, hspace⟩ := hnext
      have hcut : isCut prev u.head? seen c = false := by
        have hprev' : prev ≠ some ' ' := fun heq => hprev ' ' (by simpa using heq) rfl
        simp [isCut, hd, hspace, hprev']
      rw [List.nil_append, cutPieces_of_not_cut hcut, cutPieces_of_no_operator hu]
  | cons d t ih =>
      intro prev seen hprev
      rw [List.cons_append,
        cutPieces_of_not_cut (isCut_of_no_operator (ht d List.mem_cons_self) _ _ _),
        ih (fun e he => ht e (List.mem_cons_of_mem _ he)) _ _ ?_]
      intro e he
      refine hprev e ?_
      cases t with
      | nil => simpa using he
      | cons f t => simpa [List.getLast?_cons] using he

/-- A value is uncut wherever it starts anew. -/
theorem IsValue.uncut_behind {t : Text} (h : IsValue t) (prev : Option Char) :
    cutPieces prev false t = (t, []) := by
  cases t with
  | nil => rfl
  | cons c t =>
      have hnone := h.uncut
      rw [cutPieces_of_not_cut (isCut_unseen _ _ _)] at hnone ⊢
      exact hnone

/-- A value is not blank. -/
theorem IsValue.exists_not_blank {t : Text} (h : IsValue t) : ∃ d ∈ t, isBlank d = false := by
  cases t with
  | nil => exact absurd rfl h.ne_nil
  | cons c t => exact ⟨c, List.mem_cons_self, h.trimmed.first c rfl⟩

/-- The pieces of a joined text are its values, with blanks around them. -/
theorem cutPieces_joined (links : List (Char × Text)) :
    ∀ (first : Text) (prev : Option Char), IsValue first →
      (∀ link ∈ links, (Operator.ofChar? link.1).isSome = true ∧ IsValue link.2) →
      ∃ pad pieces, cutPieces prev false (joined first links) = (first ++ pad, pieces) ∧
        (∀ c ∈ pad, isBlank c = true) ∧
        (pieces.flatMap fun (c, piece) => [[Operator.plainSign c], piece.strip]) =
          links.flatMap fun (c, value) => [[Operator.plainSign c], value] := by
  induction links with
  | nil =>
      intro first prev hfirst _
      refine ⟨[], [], ?_, by simp, rfl⟩
      simpa [joined] using hfirst.uncut_behind prev
  | cons link links ih =>
      intro first prev hfirst hlinks
      obtain ⟨c, value⟩ := link
      obtain ⟨hc, hvalue⟩ := hlinks (c, value) List.mem_cons_self
      obtain ⟨pad, pieces, hpieces, hpad, hrest⟩ := ih value (some ' ') hvalue
        fun link hlink => hlinks link (List.mem_cons_of_mem _ hlink)
      refine ⟨[' '], (c, ' ' :: (value ++ pad)) :: pieces, ?_, ?_, ?_⟩
      · rw [joined_cons, cutPieces_link hc _ first prev false (hfirst.uncut_behind prev)
          (Or.inr hfirst.exists_not_blank), hpieces]
      · intro d hd
        obtain rfl := List.mem_singleton.mp hd
        exact isBlank_space
      · have hstrip : Text.strip (' ' :: (value ++ pad)) = value :=
          hvalue.trimmed.strip_pad hvalue.ne_nil
            (fun d hd => List.mem_singleton.mp hd ▸ isBlank_space) hpad
        simp [hstrip, hrest]

/-- **Tokenizing undoes joining.** -/
theorem tokens_joined {first : Text} {links : List (Char × Text)} (hfirst : IsValue first)
    (hlinks : ∀ link ∈ links, (Operator.ofChar? link.1).isSome = true ∧ IsValue link.2) :
    tokens (joined first links) =
      first :: links.flatMap fun (c, value) => [[Operator.plainSign c], value] := by
  obtain ⟨pad, pieces, hpieces, hpad, hrest⟩ := cutPieces_joined links first none hfirst hlinks
  have hstrip : (first ++ pad).strip = first :=
    @Text.Trimmed.strip_pad [] first pad hfirst.trimmed hfirst.ne_nil
      (fun c hc => absurd hc List.not_mem_nil) hpad
  have hkept : ∀ t ∈ first :: links.flatMap fun (c, value) => [[Operator.plainSign c], value],
      (!t.isEmpty) = true := by
    intro t ht
    rcases List.mem_cons.mp ht with rfl | ht
    · simpa using hfirst.ne_nil
    · obtain ⟨link, hlink, ht⟩ := List.mem_flatMap.mp ht
      simp only [List.mem_cons, List.not_mem_nil, or_false] at ht
      rcases ht with rfl | rfl
      · rfl
      · simpa using (hlinks link hlink).2.ne_nil
  simp only [tokens, hpieces, hstrip, hrest]
  exact List.filter_eq_self.mpr hkept

/-- A value is its own only token. -/
theorem IsValue.tokens_eq {t : Text} (h : IsValue t) : tokens t = [t] := by
  have hjoined := @tokens_joined t [] h (by simp)
  simpa [joined] using hjoined

end Measure

end Tapeline
