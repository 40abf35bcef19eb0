import Tapeline.Proofs.Measure.Turns

/-!
# Where a text is cut

A boundary is an operator with a space on a side, or at the end of the text, where the text since
the last boundary is not blank.  `isBoundary` says this of a position, `openText` is the text since
the last boundary, and `OpensAt` says where that text starts.

The pieces between the cuts alternate with operators, and all pieces but the last are not blank
(`alternating_cutPieces`).  So the tokens of a text that is not blank stand in turn, or an operator
is left at their end (`tokens_cases`).  The last piece decides which: it is what is open at the end
of the text (`openText_length`), and it is blank just if the last character is a boundary
(`isAllBlank_lastPiece`).  What the text reduces to follows (`reduce_tokens_cases`).
-/

namespace Tapeline

namespace Measure

open Arithmetic (foldTiers)

/-! ## Boundaries by position -/

/-- Does a space stand beside a position, or the end of the text behind it? -/
def isFlanked (e : Text) (n : Nat) : Bool :=
  (e.take n).getLast? = some ' ' || (e.drop (n + 1)).head? = some ' ' ||
    (e.drop (n + 1)).head?.isNone

/-- Is the operator at a position a boundary, given the text since the last one? -/
def closesAt (e : Text) (since : Text) (n : Nat) : Bool :=
  (e[n]?.bind Operator.ofChar?).isSome && isFlanked e n && !since.isAllBlank

/-- The text before a position, since the last boundary or the start. -/
def openText (e : Text) : Nat → Text
  | 0 => []
  | n + 1 => if closesAt e (openText e n) n then [] else openText e n ++ e[n]?.toList

/-- Is there a boundary at a position? -/
def isBoundary (e : Text) (n : Nat) : Bool :=
  closesAt e (openText e n) n

/-- The text before position `n` is open from `start` on: a boundary or nothing stands before
`start`, and no boundary between `start` and `n`. -/
structure OpensAt (e : Text) (start n : Nat) : Prop where
  le : start ≤ n
  behind : start = 0 ∨ isBoundary e (start - 1) = true
  unbroken : ∀ m, start ≤ m → m < n → isBoundary e m = false

theorem openText_succ (e : Text) (n : Nat) :
    openText e (n + 1) = if isBoundary e n then [] else openText e n ++ e[n]?.toList := rfl

/-- Every place lies in a piece that opens somewhere before it. -/
theorem exists_opensAt (e : Text) (n : Nat) : ∃ start, OpensAt e start n := by
  induction n with
  | zero => exact ⟨0, Nat.le_refl 0, Or.inl rfl, fun m _ hlt => absurd hlt (Nat.not_lt_zero m)⟩
  | succ n ih =>
      by_cases hboundary : isBoundary e n = true
      · exact ⟨n + 1, Nat.le_refl _, Or.inr hboundary, fun m hle hlt => absurd hlt (by omega)⟩
      · obtain ⟨start, hle, hbehind, hunbroken⟩ := ih
        refine ⟨start, by omega, hbehind, fun m hm hlt => ?_⟩
        rcases Nat.lt_succ_iff_lt_or_eq.mp hlt with hlt | rfl
        · exact hunbroken m hm hlt
        · simpa using hboundary

/-- The open text is the stretch from where it opens. -/
theorem OpensAt.openText_eq {e : Text} {start n : Nat} (h : OpensAt e start n)
    (hn : n ≤ e.length) : openText e n = (e.take n).drop start := by
  induction n with
  | zero => simp [openText]
  | succ n ih =>
      obtain ⟨hle, hbehind, hunbroken⟩ := h
      rw [openText_succ]
      by_cases hboundary : isBoundary e n = true
      · have hstart : start = n + 1 := by
          refine Nat.le_antisymm hle (Nat.succ_le_of_lt (Nat.lt_of_not_le fun hbefore => ?_))
          rw [hunbroken n hbefore (Nat.lt_succ_self n)] at hboundary
          cases hboundary
        rw [if_pos hboundary, hstart, List.drop_eq_nil_of_le (List.length_take_le _ _)]
      · have hstart : start ≤ n := by
          refine Nat.le_of_lt_succ (Nat.lt_of_le_of_ne hle fun heq => ?_)
          rcases hbehind with hzero | hbefore
          · omega
          · exact hboundary (by simpa [heq] using hbefore)
        have hopen := ih ⟨hstart, hbehind, fun m hm hlt => hunbroken m hm (by omega)⟩ (by omega)
        have hlength : start ≤ (e.take n).length := by
          rw [List.length_take]
          omega
        rw [if_neg hboundary, hopen, List.take_add_one, List.drop_append_of_le_length hlength]

/-! ## The scan and the positions -/

/-- The piece behind the last cut. -/
def lastPiece (piece : Text) : List (Char × Text) → Text
  | [] => piece
  | (_, next) :: rest => lastPiece next rest

/-- The scan cuts where a boundary is. -/
theorem isCut_eq_isBoundary (before t : Text) (c : Char) :
    isCut before.getLast? t.head? (!(openText (before ++ c :: t) before.length).isAllBlank) c =
      isBoundary (before ++ c :: t) before.length := by
  have hchar : (before ++ c :: t)[before.length]? = some c := by simp
  have hbefore : (before ++ c :: t).take before.length = before := by simp
  have hbehind : (before ++ c :: t).drop (before.length + 1) = t := by simp
  rw [isCut, isBoundary, closesAt, isFlanked, hchar, hbefore, hbehind, Option.bind_some,
    Bool.and_assoc, Bool.and_assoc]
  congr 1
  rw [Bool.and_comm]

/-- The pieces that the scan finds behind a text. -/
def piecesBehind (before t : Text) : Text × List (Char × Text) :=
  cutPieces before.getLast? (!(openText (before ++ t) before.length).isAllBlank) t

/-- The open text behind one more character. -/
theorem openText_behind (before t : Text) (c : Char) :
    openText (before ++ [c] ++ t) (before ++ [c]).length =
      if isBoundary (before ++ c :: t) before.length then []
      else openText (before ++ c :: t) before.length ++ [c] := by
  have hchar : (before ++ c :: t)[before.length]? = some c := by simp
  have hlength : (before ++ [c]).length = before.length + 1 := by simp
  rw [List.append_assoc, List.singleton_append, hlength, openText_succ, hchar]
  rfl

/-- The scan starts a piece at a boundary and goes on with the piece anywhere else. -/
theorem piecesBehind_cons (before t : Text) (c : Char) :
    piecesBehind before (c :: t) =
      if isBoundary (before ++ c :: t) before.length then
        ([], (c, (piecesBehind (before ++ [c]) t).1) :: (piecesBehind (before ++ [c]) t).2)
      else (c :: (piecesBehind (before ++ [c]) t).1, (piecesBehind (before ++ [c]) t).2) := by
  have hcut := isCut_eq_isBoundary before t c
  unfold piecesBehind
  rw [openText_behind, List.getLast?_concat]
  cases hboundary : isBoundary (before ++ c :: t) before.length with
  | true => rw [cutPieces_of_cut (hcut.trans hboundary)]; rfl
  | false =>
      have hseen : ∀ since : Text, (!(since ++ [c]).isAllBlank) =
          (!since.isAllBlank || !isBlank c) := by
        intro since
        simp [Text.isAllBlank]
      rw [cutPieces_of_not_cut (hcut.trans hboundary)]
      simp [hseen]

/-- The last piece of a scan is what is open at the end. -/
theorem openText_append (t : Text) : ∀ before : Text,
    openText (before ++ t) (before ++ t).length =
      lastPiece (openText (before ++ t) before.length ++ (piecesBehind before t).1)
        (piecesBehind before t).2 := by
  induction t with
  | nil =>
      intro before
      simp [piecesBehind, cutPieces, lastPiece]
  | cons c t ih =>
      intro before
      have hnext := ih (before ++ [c])
      rw [openText_behind, List.append_assoc, List.singleton_append] at hnext
      rw [hnext, piecesBehind_cons]
      cases isBoundary (before ++ c :: t) before.length with
      | true => rfl
      | false => simp

/-- **The last piece of a text is what is open at its end.** -/
theorem openText_length (e : Text) :
    openText e e.length = lastPiece (cutPieces none false e).1 (cutPieces none false e).2 :=
  openText_append e []

/-- The last piece is blank just if the last character is a boundary. -/
theorem isAllBlank_lastPiece {lead : Text} {c : Char} (hc : isBlank c = false) :
    (lastPiece (cutPieces none false (lead ++ [c])).1
      (cutPieces none false (lead ++ [c])).2).isAllBlank =
        isBoundary (lead ++ [c]) lead.length := by
  have hchar : (lead ++ [c])[lead.length]? = some c := by simp
  rw [← openText_length, List.length_append, List.length_singleton, openText_succ, hchar]
  cases isBoundary (lead ++ [c]) lead.length with
  | true => rfl
  | false => simp [Text.isAllBlank, hc]

/-- At the end of a text, an operator behind something that is not blank is a boundary. -/
theorem isBoundary_last (lead : Text) (c : Char) :
    isBoundary (lead ++ [c]) lead.length =
      ((Operator.ofChar? c).isSome && !(openText (lead ++ [c]) lead.length).isAllBlank) := by
  simp [isBoundary, closesAt, isFlanked]

/-! ## Pieces and operators alternate -/

/-- A piece and links in which operators alternate with pieces.  Nothing but the last piece is
blank, except the first if something came before it. -/
inductive Alternating : Bool → Text → List (Char × Text) → Prop
  | last (seen : Bool) (piece : Text) : Alternating seen piece []
  | cut {seen : Bool} {piece next : Text} {c : Char} {rest : List (Char × Text)}
      (notBlank : (seen || !piece.isAllBlank) = true)
      (operator : (Operator.ofChar? c).isSome = true) (behind : Alternating false next rest) :
      Alternating seen piece ((c, next) :: rest)

/-- A character belongs to the piece or came before it. -/
theorem Alternating.cons {seen : Bool} {c : Char} {piece : Text} {links : List (Char × Text)}
    (h : Alternating (seen || !isBlank c) piece links) : Alternating seen (c :: piece) links := by
  cases h with
  | last => exact .last seen (c :: piece)
  | cut hnotBlank hoperator hbehind =>
      refine .cut ?_ hoperator hbehind
      simpa only [Text.isAllBlank, List.all_cons, Bool.not_and, Bool.or_assoc] using hnotBlank

/-- **Cutting gives pieces and operators in turn.** -/
theorem alternating_cutPieces (t : Text) : ∀ (prev : Option Char) (seen : Bool),
    Alternating seen (cutPieces prev seen t).1 (cutPieces prev seen t).2 := by
  induction t with
  | nil => exact fun _ seen => .last seen []
  | cons c t ih =>
      intro prev seen
      cases hcut : isCut prev t.head? seen c with
      | true =>
          rw [cutPieces_of_cut hcut]
          simp only [isCut, Bool.and_eq_true] at hcut
          obtain ⟨⟨hoperator, hseen⟩, _⟩ := hcut
          exact .cut (by rw [hseen]; rfl) hoperator (ih (some c) false)
      | false =>
          rw [cutPieces_of_not_cut hcut]
          exact (ih (some c) (seen || !isBlank c)).cons

/-! ## Tokens -/

/-- The tokens that pieces between operators give. -/
def pieceTokens (piece : Text) (links : List (Char × Text)) : List Text :=
  (piece.strip :: links.flatMap fun (c, piece) => [[Operator.plainSign c], piece.strip]).filter
    (!·.isEmpty)

/-- The tokens are those of the pieces between the cuts. -/
theorem tokens_eq_pieceTokens (e : Text) :
    tokens e = pieceTokens (cutPieces none false e).1 (cutPieces none false e).2 := rfl

/-- A blank expression has no tokens. -/
theorem pieceTokens_blank {piece : Text} (h : piece.isAllBlank = true) :
    pieceTokens piece [] = [] := by
  simp [pieceTokens, Text.strip_eq_nil_iff.mpr h]

/-- A last piece that is not blank is one token, stripped. -/
theorem pieceTokens_last {piece : Text} (h : piece.isAllBlank = false) :
    pieceTokens piece [] = [piece.strip] := by
  have hne : piece.strip ≠ [] := by simp [Text.strip_eq_nil_iff, h]
  simp [pieceTokens, hne]

/-- A piece in front of an operator is a token, the operator is the next, and the rest follows. -/
theorem pieceTokens_cut {piece next : Text} {c : Char} {op : Operator}
    {rest : List (Char × Text)} (h : piece.isAllBlank = false)
    (hop : Operator.ofChar? c = some op) :
    pieceTokens piece ((c, next) :: rest) = piece.strip :: [op.sign] :: pieceTokens next rest := by
  have hne : piece.strip ≠ [] := by simp [Text.strip_eq_nil_iff, h]
  have hsign : Operator.plainSign c = op.sign := (Operator.sign_of_ofSign? hop).symm
  simp [pieceTokens, hne, hsign]

/-- Alternating pieces give tokens in turn, with an operator left if the last piece is blank. -/
theorem Alternating.pieceTokens_cases {seen : Bool} {piece : Text} {links : List (Char × Text)}
    (h : Alternating seen piece links) (hseen : seen = false) :
    (links = [] ∧ piece.isAllBlank = true) ∨
      ((lastPiece piece links).isAllBlank = false ∧
        ∃ rest, pieceTokens piece links = inTurn piece.strip rest) ∨
      ((lastPiece piece links).isAllBlank = true ∧
        ∃ rest, ∃ op : Operator,
          pieceTokens piece links = inTurn piece.strip rest ++ [[op.sign]]) := by
  induction h with
  | last seen piece =>
      cases hblank : piece.isAllBlank with
      | true => exact Or.inl ⟨rfl, rfl⟩
      | false => exact Or.inr (Or.inl ⟨hblank, [], pieceTokens_last hblank⟩)
  | @cut seen piece next c rest hnotBlank hoperator _ ih =>
      obtain ⟨op, hop⟩ := Option.isSome_iff_exists.mp hoperator
      have hpiece : piece.isAllBlank = false := by simpa [hseen] using hnotBlank
      rw [pieceTokens_cut hpiece hop]
      rcases ih rfl with ⟨rfl, hblank⟩ | ⟨hlast, more, hmore⟩ | ⟨hlast, more, op', hmore⟩
      · exact Or.inr (Or.inr ⟨hblank, [], op, by rw [pieceTokens_blank hblank]; rfl⟩)
      · exact Or.inr (Or.inl ⟨hlast, (op, next.strip) :: more, by rw [hmore]; rfl⟩)
      · exact Or.inr (Or.inr ⟨hlast, (op, next.strip) :: more, op', by rw [hmore]; rfl⟩)

/-- The values among the tokens of pieces in turn are the pieces that are not blank, stripped. -/
theorem Alternating.isValueBehind_iff {seen : Bool} {piece : Text} {links : List (Char × Text)}
    (h : Alternating seen piece links) (hseen : seen = false) {value : Text} :
    (∃ before, IsValueBehind (pieceTokens piece links) before value) ↔
      ∃ p ∈ piece :: links.map (·.2), p.isAllBlank = false ∧ value = p.strip := by
  induction h with
  | last seen piece =>
      cases hblank : piece.isAllBlank with
      | true => simp [pieceTokens_blank hblank, not_isValueBehind_nil, hblank]
      | false => simp [pieceTokens_last hblank, exists_isValueBehind_singleton, hblank]
  | @cut seen piece next c rest hnotBlank hoperator _ ih =>
      obtain ⟨op, hop⟩ := Option.isSome_iff_exists.mp hoperator
      have hpiece : piece.isAllBlank = false := by simpa [hseen] using hnotBlank
      rw [pieceTokens_cut hpiece hop, exists_isValueBehind_cons_cons, ih rfl]
      simp [hpiece]

/-- A text without a cut is its own last piece. -/
theorem cutPieces_eq_self {t : Text} : ∀ {prev : Option Char} {seen : Bool},
    (cutPieces prev seen t).2 = [] → (cutPieces prev seen t).1 = t := by
  induction t with
  | nil => intro _ _ _; rfl
  | cons c t ih =>
      intro prev seen h
      cases hcut : isCut prev t.head? seen c with
      | true =>
          rw [cutPieces_of_cut hcut] at h
          cases h
      | false =>
          rw [cutPieces_of_not_cut hcut] at h ⊢
          exact congrArg (c :: ·) (ih h)

/-- **A value is a text that is its own only token.** -/
theorem isValue_iff {t : Text} : IsValue t ↔ tokens t = [t] := by
  refine ⟨IsValue.tokens_eq, fun h => ?_⟩
  rw [tokens_eq_pieceTokens] at h
  have hself := @cutPieces_eq_self t none false
  have halternating := alternating_cutPieces t none false
  cases hpieces : cutPieces none false t with
  | mk piece links =>
      rw [hpieces] at h hself halternating
      cases halternating with
      | cut hnotBlank hoperator _ =>
          -- a cut would give a second token
          obtain ⟨op, hop⟩ := Option.isSome_iff_exists.mp hoperator
          rw [pieceTokens_cut (by simpa using hnotBlank) hop] at h
          simp at h
      | last =>
          obtain rfl : piece = t := hself rfl
          cases hblank : piece.isAllBlank with
          | true =>
              rw [pieceTokens_blank hblank] at h
              cases h
          | false =>
              rw [pieceTokens_last hblank] at h
              have hstrip : piece.strip = piece := (List.cons.inj h).1
              refine ⟨hstrip ▸ Text.trimmed_strip piece, ?_, hpieces⟩
              rintro rfl
              cases hblank

variable {lead : Text} {c : Char}

/-- **The tokens of a text** that ends with a character that is not blank stand in turn, with an
operator left at their end if that character is a boundary. -/
theorem tokens_cases (hc : isBlank c = false) :
    (isBoundary (lead ++ [c]) lead.length = false ∧
        ∃ first links, tokens (lead ++ [c]) = inTurn first links) ∨
      (isBoundary (lead ++ [c]) lead.length = true ∧
        ∃ first links, ∃ op : Operator,
          tokens (lead ++ [c]) = inTurn first links ++ [[op.sign]]) := by
  rw [← isAllBlank_lastPiece hc, tokens_eq_pieceTokens]
  rcases (alternating_cutPieces (lead ++ [c]) none false).pieceTokens_cases rfl with
    ⟨hlinks, hblank⟩ | ⟨hlast, rest, hrest⟩ | ⟨hlast, rest, op, hrest⟩
  · rw [cutPieces_eq_self hlinks] at hblank
    simp [Text.isAllBlank, hc] at hblank
  · exact Or.inl ⟨hlast, _, rest, hrest⟩
  · exact Or.inr ⟨hlast, _, rest, op, hrest⟩

/-- The value of a token that reads. -/
def valueOf (t : Text) : Binary64 :=
  (quantity t).toOption.getD .nan

/-- A quantity that does not fail has its value. -/
theorem quantity_eq_valueOf {t : Text} (h : ¬ ∃ error, quantity t = .error error) :
    quantity t = .ok (valueOf t) := by
  cases hvalue : quantity t with
  | error error => exact absurd ⟨error, hvalue⟩ h
  | ok x => simp [valueOf, hvalue, Except.toOption]

/-- Some value does not read, or all of them do. -/
theorem unreadable_or_read (values : List Text) :
    (∃ t ∈ values, ∃ error, quantity t = .error error) ∨
      ∀ t ∈ values, quantity t = .ok (valueOf t) := by
  by_cases h : ∃ t ∈ values, ∃ error, quantity t = .error error
  · exact Or.inl h
  · exact Or.inr fun t ht => quantity_eq_valueOf fun herror => h ⟨t, ht, herror⟩

/-- **How a text reduces.**  Either an operator is left at the end of its tokens, or one of its
values does not read, or it reduces to the fold of its values. -/
theorem reduce_tokens_cases {e : Text} (htrimmed : e.Trimmed) (hne : e ≠ []) :
    ∃ first links,
      (∃ op : Operator, tokens e = inTurn first links ++ [[op.sign]] ∧
        reduce (tokens e) = .error (.danglingOperator [op.sign])) ∨
      (tokens e = inTurn first links ∧
        (∃ t ∈ valuesInTurn first links, ∃ error, quantity t = .error error) ∧
        ∃ error, reduce (tokens e) = .error (.unreadable error)) ∨
      (tokens e = inTurn first links ∧
        (∀ t ∈ valuesInTurn first links, quantity t = .ok (valueOf t)) ∧
        reduce (tokens e) =
          .ok (foldTiers measured none (valueOf first)
            (links.map fun link => (link.1, valueOf link.2)))) := by
  obtain ⟨lead, c, rfl, hc⟩ := htrimmed.exists_last hne
  rcases tokens_cases hc with ⟨_, first, links, htokens⟩ | ⟨_, first, links, op, htokens⟩
  · refine ⟨first, links, Or.inr ?_⟩
    rcases unreadable_or_read (valuesInTurn first links) with hunreadable | hread
    · refine Or.inl ⟨htokens, hunreadable, ?_⟩
      rw [htokens]
      exact reduce_inTurn_unreadable hunreadable
    · refine Or.inr ⟨htokens, hread, ?_⟩
      rw [htokens]
      exact reduce_inTurn valueOf hread
  · refine ⟨first, links, Or.inl ⟨op, htokens, ?_⟩⟩
    rw [htokens]
    exact reduce_dangling first links op

end Measure

end Tapeline
