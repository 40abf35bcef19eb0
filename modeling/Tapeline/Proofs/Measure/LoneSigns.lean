import Tapeline.Proofs.Measure.Pieces
import Tapeline.Proofs.Measure.Reducible

/-!
# Signs that stand alone

An operator is a cut only behind something that is not blank.  One that has nothing but blanks
before it starts a value instead, and if nothing but blanks follows up to the next cut, that value
is a sign and no more (`HasLoneSign`).  This is the one way in which tokens start with a sign or
hold two signs one behind the other, and it takes a text that is a sign itself or has two operators
with only blanks between them (`tokens_lone_signs`).
-/

namespace Tapeline

namespace Measure

/-- The token of an operator. -/
def IsSign (t : Text) : Prop :=
  t ∈ [['+'], ['-'], ['*'], ['/']]

instance (t : Text) : Decidable (IsSign t) :=
  inferInstanceAs (Decidable (t ∈ _))

/-- A piece of the text is a sign with only blanks around it. -/
def HasLoneSign (e : Text) : Prop :=
  ∃ first links, IsCutting e first links ∧
    ∃ piece ∈ first :: links.map (·.2), IsSign piece.strip

/-- Two operators of the text have only blanks between them. -/
def HasOperatorRun (e : Text) : Prop :=
  ∃ before c pad d behind, e = before ++ c :: (pad ++ d :: behind) ∧
    (∀ x ∈ pad, isBlank x = true) ∧ (Operator.ofChar? c).isSome = true ∧
      (Operator.ofChar? d).isSome = true

/-- A sign among the values is a lone sign of the text. -/
theorem hasLoneSign_iff {e : Text} :
    HasLoneSign e ↔ ∃ before value, IsValueBehind (tokens e) before value ∧ IsSign value := by
  have halternating := alternating_cutPieces e none false
  rw [tokens_eq_pieceTokens]
  constructor
  · rintro ⟨first, links, hcutting, piece, hmem, hsign⟩
    obtain ⟨rfl, rfl⟩ := (isCutting_cutPieces e).unique hcutting
    have hblank : piece.isAllBlank = false := by
      refine Bool.eq_false_iff.mpr fun hblank => ?_
      rw [Text.strip_eq_nil_iff.mpr hblank] at hsign
      revert hsign
      decide
    obtain ⟨before, hvalue⟩ := (halternating.isValueBehind_iff rfl).mpr ⟨piece, hmem, hblank, rfl⟩
    exact ⟨before, piece.strip, hvalue, hsign⟩
  · rintro ⟨before, value, hvalue, hsign⟩
    obtain ⟨piece, hmem, _, rfl⟩ := (halternating.isValueBehind_iff rfl).mp ⟨before, hvalue⟩
    exact ⟨_, _, isCutting_cutPieces e, piece, hmem, hsign⟩

/-! ## Signs among tokens -/

section Tokens

variable {ts : List Text}

/-- Where no value is a sign the first token is none. -/
theorem not_isSign_head (h : ∀ before value, IsValueBehind ts before value → ¬ IsSign value)
    {token : Text} (hhead : ts.head? = some token) : ¬ IsSign token := by
  obtain ⟨behind, rfl⟩ := List.head?_eq_some_iff.mp hhead
  exact h [] token ⟨rfl, behind, rfl⟩

/-- One of two tokens side by side is a value. -/
theorem not_isSign_pair (h : ∀ before value, IsValueBehind ts before value → ¬ IsSign value)
    {before behind : List Text} {first second : Text}
    (hsplit : ts = before ++ first :: second :: behind) : ¬ (IsSign first ∧ IsSign second) := by
  rintro ⟨hfirst, hsecond⟩
  rcases Nat.mod_two_eq_zero_or_one before.length with heven | hodd
  · exact h before first ⟨heven, _, hsplit⟩ hfirst
  · refine h (before ++ [first]) second ⟨?_, behind, ?_⟩ hsecond
    · rw [List.length_append, List.length_singleton]
      omega
    · rw [hsplit, List.append_assoc, List.singleton_append]

end Tokens

/-! ## Signs in the text -/

/-- The sign of an operator is one. -/
theorem isSome_ofChar?_sign (op : Operator) : (Operator.ofChar? op.sign).isSome = true := by
  cases op <;> rfl

/-- Every link between pieces is an operator. -/
theorem Alternating.operator_of_mem {seen : Bool} {piece : Text} {links : List (Char × Text)}
    (h : Alternating seen piece links) {link : Char × Text} (hmem : link ∈ links) :
    (Operator.ofChar? link.1).isSome = true := by
  induction h with
  | last => cases hmem
  | cut _ hoperator _ ih =>
      rcases List.mem_cons.mp hmem with rfl | hrest
      · exact hoperator
      · exact ih hrest

/-- Pasting goes on behind a link. -/
theorem pasted_append (first next : Text) (c : Char) (links rest : List (Char × Text)) :
    pasted first (links ++ (c, next) :: rest) = pasted first links ++ c :: pasted next rest := by
  simp [pasted]

/-- A lone sign is all of its text, or it has an operator beside it. -/
theorem HasLoneSign.isSign_or_run {e : Text} (h : HasLoneSign e) :
    IsSign e.strip ∨ HasOperatorRun e := by
  obtain ⟨first, links, hcutting, piece, hmem, hsign⟩ := h
  obtain ⟨rfl, rfl⟩ := (isCutting_cutPieces e).unique hcutting
  have hoperator : ∀ link ∈ (cutPieces none false e).2,
      (Operator.ofChar? link.1).isSome = true := fun _ =>
    (alternating_cutPieces e none false).operator_of_mem
  have htext := hcutting.pasted_eq
  generalize (cutPieces none false e).1 = first at *
  generalize (cutPieces none false e).2 = links at *
  obtain ⟨op, hop⟩ := mem_signs_iff.mp hsign
  have hopSome := isSome_ofChar?_sign op
  obtain ⟨lead, tail, hpiece, hlead, htail⟩ := Text.exists_pad piece
  rw [hop] at hpiece
  rcases List.mem_cons.mp hmem with rfl | hmem
  · cases links with
    | nil =>
        have hfirst : piece = e := by simpa [pasted] using htext
        exact Or.inl (hfirst ▸ hsign)
    | cons link rest =>
        obtain ⟨c, next⟩ := link
        refine Or.inr ⟨lead, op.sign, tail, c, pasted next rest, ?_, htail, hopSome,
          hoperator _ List.mem_cons_self⟩
        rw [← htext, pasted_cons, hpiece]
        simp
  · obtain ⟨⟨c, next⟩, hlink, hnext⟩ := List.mem_map.mp hmem
    obtain rfl : next = piece := hnext
    obtain ⟨front, rest, rfl⟩ := List.append_of_mem hlink
    refine Or.inr ⟨pasted first front, c, lead, op.sign,
      tail ++ rest.flatMap fun link => link.1 :: link.2, ?_, hlead, hoperator _ hlink, hopSome⟩
    rw [← htext, pasted_append, hpiece]
    simp [pasted]

/-- **Signs stand where operators do, unless one stands alone.**  A value is a sign just if the text
has a lone sign.  Without one the tokens do not start with a sign and no two signs stand side by
side.  A text with one is a sign itself, or has two operators with only blanks between them. -/
theorem tokens_lone_signs (e : Text) :
    (HasLoneSign e ↔ ∃ before value, IsValueBehind (tokens e) before value ∧ IsSign value) ∧
      (¬ HasLoneSign e →
        (∀ token, (tokens e).head? = some token → ¬ IsSign token) ∧
        ∀ before first second behind, tokens e = before ++ first :: second :: behind →
          ¬ (IsSign first ∧ IsSign second)) ∧
      (HasLoneSign e → IsSign e.strip ∨ HasOperatorRun e) := by
  refine ⟨hasLoneSign_iff, fun hnone => ?_, HasLoneSign.isSign_or_run⟩
  have hvalues : ∀ before value, IsValueBehind (tokens e) before value → ¬ IsSign value :=
    fun before value hvalue hsign => hnone (hasLoneSign_iff.mpr ⟨before, value, hvalue, hsign⟩)
  exact ⟨fun _ => not_isSign_head hvalues, fun _ _ _ _ => not_isSign_pair hvalues⟩

/-- A plus alone is a value that is a sign. -/
theorem tokens_plus : tokens "+".toList = ["+".toList] ∧
    IsValueBehind (tokens "+".toList) [] "+".toList ∧ IsSign "+".toList :=
  ⟨by decide, ⟨rfl, [], by decide⟩, by decide⟩

/-- Of three operators in a row the second is a value. -/
example : tokens "5 - + + 3".toList =
    ["5".toList, "-".toList, "+".toList, "+".toList, "3".toList] := by
  decide

end Measure

end Tapeline
