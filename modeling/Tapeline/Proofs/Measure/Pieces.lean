import Tapeline.Proofs.Measure.Cutting

/-!
# The one way to cut a text

Pieces with characters between them are a cutting of the text that they make when the characters
stand exactly where a cut should be: an operator, beside a space or at the end of the text, with
something that is not blank since the last of these characters (`IsCutting`).  Whether a position
is a cut depends on the cuts before it alone, so a text has one cutting (`isCutting_iff`,
`eq_of_cutPositions`), and the scan finds it (`isCutting_cutPieces`).

The tokens of a text are its pieces, stripped, with the plain signs of its cuts between them, and
without the last piece if that is blank (`tokens_cutting`).
-/

namespace Tapeline

namespace Measure

/-- Pieces with the cut characters between them, put together. -/
def pasted (first : Text) (links : List (Char × Text)) : Text :=
  first ++ links.flatMap fun link => link.1 :: link.2

/-- The positions of the cut characters in the text that the pieces make. -/
def cutPositions : Text → List (Char × Text) → List Nat
  | _, [] => []
  | first, (_, next) :: rest =>
    first.length :: (cutPositions next rest).map (first.length + 1 + ·)

/-- The text before a position, back to the last cut or to the start. -/
def sinceCut : Text → List (Char × Text) → Nat → Text
  | first, [], n => first.take n
  | first, (_, next) :: rest, n =>
    if n ≤ first.length then first.take n else sinceCut next rest (n - (first.length + 1))

/-- The pieces make the text, and a position is a cut exactly if an operator stands there, beside a
space or at the end of the text, and the text since the last cut is not blank. -/
structure IsCutting (e first : Text) (links : List (Char × Text)) : Prop where
  pasted_eq : pasted first links = e
  cut_iff : ∀ n c, e[n]? = some c → (n ∈ cutPositions first links ↔
    c ∈ ['+', '-', '*', '/', '×', '÷'] ∧ Text.isAllBlank (sinceCut first links n) = false ∧
      isFlanked e n = true)

theorem pasted_cons (first : Text) (c : Char) (next : Text) (rest : List (Char × Text)) :
    pasted first ((c, next) :: rest) = first ++ c :: pasted next rest := by
  simp [pasted]

theorem sinceCut_zero (first : Text) (links : List (Char × Text)) :
    sinceCut first links 0 = [] := by
  cases links with
  | nil => simp [sinceCut]
  | cons link links => simp [sinceCut]

/-! ## Positions in a chain of pieces -/

section Chain

variable {first next : Text} {c : Char} {rest : List (Char × Text)} {n : Nat}

/-- A cut lies behind the first piece, or it is one of the later cuts. -/
theorem mem_cutPositions_cons :
    n ∈ cutPositions first ((c, next) :: rest) ↔
      n = first.length ∨ ∃ m ∈ cutPositions next rest, n = first.length + 1 + m := by
  simp [cutPositions, eq_comm]

/-- Nothing is cut within the first piece. -/
theorem not_mem_cutPositions_of_lt {links : List (Char × Text)} (h : n < first.length) :
    n ∉ cutPositions first links := by
  cases links with
  | nil => simp [cutPositions]
  | cons link links =>
      rw [mem_cutPositions_cons]
      rintro (rfl | ⟨m, _, rfl⟩) <;> omega

/-- Behind the first cut the later ones lie as they did. -/
theorem mem_cutPositions_behind (m : Nat) :
    first.length + 1 + m ∈ cutPositions first ((c, next) :: rest) ↔
      m ∈ cutPositions next rest := by
  rw [mem_cutPositions_cons]
  constructor
  · rintro (h | ⟨k, hk, h⟩)
    · omega
    · obtain rfl : m = k := by omega
      exact hk
  · exact fun h => Or.inr ⟨m, h, rfl⟩

/-- Behind the first cut the text since the last cut is that of the rest. -/
theorem sinceCut_behind (m : Nat) :
    sinceCut first ((c, next) :: rest) (first.length + 1 + m) = sinceCut next rest m := by
  rw [sinceCut, if_neg (by omega)]
  congr 1
  omega

/-- Behind the first cut stands the rest. -/
theorem getElem?_pasted_behind (m : Nat) :
    (pasted first ((c, next) :: rest))[first.length + 1 + m]? = (pasted next rest)[m]? := by
  rw [pasted_cons, List.getElem?_append_right (by omega)]
  have hindex : first.length + 1 + m - first.length = m + 1 := by omega
  rw [hindex, List.getElem?_cons_succ]

end Chain

/-- Behind a cut the text starts anew, and behind any other position it goes on. -/
theorem sinceCut_succ (links : List (Char × Text)) : ∀ (first : Text) {n : Nat} {c : Char},
    (pasted first links)[n]? = some c →
      sinceCut first links (n + 1) =
        if n ∈ cutPositions first links then [] else sinceCut first links n ++ [c] := by
  induction links with
  | nil =>
      intro first n c hc
      have hfirst : first[n]? = some c := by simpa [pasted] using hc
      rw [if_neg (by simp [cutPositions]), sinceCut, sinceCut, List.take_add_one, hfirst]
      rfl
  | cons link links ih =>
      obtain ⟨d, next⟩ := link
      intro first n c hc
      rcases Nat.lt_trichotomy n first.length with hlt | rfl | hgt
      · have hfirst : first[n]? = some c := by
          rwa [pasted_cons, List.getElem?_append_left hlt] at hc
        rw [if_neg (not_mem_cutPositions_of_lt hlt), sinceCut, sinceCut, if_pos (by omega),
          if_pos (by omega), List.take_add_one, hfirst]
        rfl
      · rw [if_pos (mem_cutPositions_cons.mpr (Or.inl rfl))]
        exact (sinceCut_behind 0).trans (sinceCut_zero next links)
      · obtain ⟨m, rfl⟩ := Nat.exists_eq_add_of_le hgt
        rw [Nat.succ_eq_add_one] at hc ⊢
        rw [getElem?_pasted_behind] at hc
        rw [Nat.add_assoc _ m 1, sinceCut_behind, sinceCut_behind, ih next hc]
        simp only [mem_cutPositions_behind]

/-- The text and the positions of the cuts determine the pieces. -/
theorem eq_of_cutPositions (links : List (Char × Text)) :
    ∀ {first first' : Text} {links' : List (Char × Text)},
      pasted first links = pasted first' links' →
      (∀ n, n ∈ cutPositions first links ↔ n ∈ cutPositions first' links') →
      first = first' ∧ links = links' := by
  induction links with
  | nil =>
      intro first first' links' htext hpositions
      cases links' with
      | nil => exact ⟨by simpa [pasted] using htext, rfl⟩
      | cons link' links' =>
          have hcut := (hpositions first'.length).mpr (mem_cutPositions_cons.mpr (Or.inl rfl))
          simp [cutPositions] at hcut
  | cons link links ih =>
      obtain ⟨c, next⟩ := link
      intro first first' links' htext hpositions
      have hfirst := (hpositions first.length).mp (mem_cutPositions_cons.mpr (Or.inl rfl))
      cases links' with
      | nil => simp [cutPositions] at hfirst
      | cons link' links' =>
          obtain ⟨c', next'⟩ := link'
          have hfirst' := (hpositions first'.length).mpr (mem_cutPositions_cons.mpr (Or.inl rfl))
          -- the first cut of the one is not before that of the other
          have hlength : first.length = first'.length := by
            refine Nat.le_antisymm (Nat.le_of_not_lt fun hlt => ?_)
              (Nat.le_of_not_lt fun hlt => ?_)
            · exact not_mem_cutPositions_of_lt hlt hfirst'
            · exact not_mem_cutPositions_of_lt hlt hfirst
          rw [pasted_cons, pasted_cons] at htext
          obtain ⟨rfl, htail⟩ := List.append_inj htext hlength
          obtain ⟨rfl, htext'⟩ := List.cons.inj htail
          obtain ⟨rfl, rfl⟩ := ih htext' fun n => by
            have hn := hpositions (first.length + 1 + n)
            rwa [mem_cutPositions_behind, mem_cutPositions_behind] at hn
          exact ⟨rfl, rfl⟩

/-! ## The cutting of a text -/

/-- An operator behind text that is not blank is a boundary if a space or the end is beside it. -/
theorem closesAt_iff {e since : Text} {n : Nat} {c : Char} (hc : e[n]? = some c) :
    closesAt e since n = true ↔
      c ∈ ['+', '-', '*', '/', '×', '÷'] ∧ since.isAllBlank = false ∧ isFlanked e n = true := by
  rw [closesAt, hc, Option.bind_some, Bool.and_eq_true, Bool.and_eq_true, Bool.not_eq_true',
    isSome_ofChar?_iff, and_assoc, and_comm (a := isFlanked e n = true)]

/-- Where the positions up to `n` are cuts just if they are boundaries, the text since the last cut
is what is open there. -/
theorem sinceCut_eq_openText {first : Text} {links : List (Char × Text)} {n : Nat}
    (hn : n ≤ (pasted first links).length)
    (h : ∀ m < n, m ∈ cutPositions first links ↔ isBoundary (pasted first links) m = true) :
    sinceCut first links n = openText (pasted first links) n := by
  induction n with
  | zero => exact sinceCut_zero first links
  | succ n ih =>
      obtain ⟨c, hc⟩ : ∃ c, (pasted first links)[n]? = some c :=
        ⟨_, List.getElem?_eq_getElem hn⟩
      have hstep := h n (Nat.lt_succ_self n)
      rw [sinceCut_succ links first hc, openText_succ, hc,
        ih (Nat.le_of_lt hn) fun m hm => h m (Nat.lt_succ_of_lt hm)]
      simp only [hstep, Option.toList_some]

/-- **Pieces are a cutting just if their cuts are the boundaries of the text.** -/
theorem isCutting_iff {e first : Text} {links : List (Char × Text)} :
    IsCutting e first links ↔ pasted first links = e ∧
      ∀ n < e.length, n ∈ cutPositions first links ↔ isBoundary e n = true := by
  constructor
  · rintro ⟨rfl, hcut⟩
    refine ⟨rfl, fun n hn => ?_⟩
    induction n using Nat.strongRecOn with
    | ind n ih =>
        have hc := List.getElem?_eq_getElem hn
        rw [hcut n _ hc, isBoundary, closesAt_iff hc,
          sinceCut_eq_openText (Nat.le_of_lt hn) fun m hm => ih m hm (Nat.lt_trans hm hn)]
  · rintro ⟨rfl, hcut⟩
    refine ⟨rfl, fun n c hc => ?_⟩
    have hn : n < (pasted first links).length := (List.getElem?_eq_some_iff.mp hc).1
    rw [hcut n hn, isBoundary, closesAt_iff hc,
      sinceCut_eq_openText (Nat.le_of_lt hn) fun m hm => hcut m (Nat.lt_trans hm hn)]

/-- Every cut lies within the text. -/
theorem cutPositions_lt {links : List (Char × Text)} : ∀ {first : Text} {n : Nat},
    n ∈ cutPositions first links → n < (pasted first links).length := by
  induction links with
  | nil =>
      intro first n h
      simp [cutPositions] at h
  | cons link links ih =>
      obtain ⟨c, next⟩ := link
      intro first n h
      rw [pasted_cons, List.length_append, List.length_cons]
      rcases mem_cutPositions_cons.mp h with rfl | ⟨m, hm, rfl⟩
      · omega
      · have hlt := ih hm
        omega

/-- **A text has at most one cutting.** -/
theorem IsCutting.unique {e first first' : Text} {links links' : List (Char × Text)}
    (h : IsCutting e first links) (h' : IsCutting e first' links') :
    first' = first ∧ links' = links := by
  obtain ⟨htext, hcut⟩ := isCutting_iff.mp h
  obtain ⟨htext', hcut'⟩ := isCutting_iff.mp h'
  refine eq_of_cutPositions links' (htext'.trans htext.symm) fun n => ?_
  constructor
  · intro hn
    have hlt := htext' ▸ cutPositions_lt hn
    exact (hcut n hlt).mpr ((hcut' n hlt).mp hn)
  · intro hn
    have hlt := htext ▸ cutPositions_lt hn
    exact (hcut' n hlt).mpr ((hcut n hlt).mp hn)

/-! ## The scan finds it -/

/-- The pieces of a text with its cuts between them are the text. -/
theorem pasted_cutPieces (t : Text) : ∀ (prev : Option Char) (seen : Bool),
    pasted (cutPieces prev seen t).1 (cutPieces prev seen t).2 = t := by
  induction t with
  | nil => exact fun _ _ => rfl
  | cons c t ih =>
      intro prev seen
      cases hcut : isCut prev t.head? seen c with
      | true => rw [cutPieces_of_cut hcut, pasted_cons, ih, List.nil_append]
      | false =>
          rw [cutPieces_of_not_cut hcut]
          exact congrArg (c :: ·) (ih (some c) (seen || !isBlank c))

/-- One more character in front moves every cut by one. -/
theorem cutPositions_cons_first (c : Char) (piece : Text) (links : List (Char × Text)) :
    cutPositions (c :: piece) links = (cutPositions piece links).map (· + 1) := by
  cases links with
  | nil => rfl
  | cons link links =>
      obtain ⟨d, next⟩ := link
      simp only [cutPositions, List.length_cons, List.map_cons, List.map_map, List.cons.injEq,
        true_and]
      refine List.map_congr_left fun n _ => ?_
      simp only [Function.comp_apply]
      omega

/-- What the scan cuts behind a text are the boundaries there. -/
theorem mem_cutPositions_piecesBehind (t : Text) : ∀ (before : Text) {n : Nat}, n < t.length →
    (n ∈ cutPositions (piecesBehind before t).1 (piecesBehind before t).2 ↔
      isBoundary (before ++ t) (before.length + n) = true) := by
  induction t with
  | nil =>
      intro before n hn
      cases hn
  | cons c t ih =>
      intro before n hn
      have hnext : ∀ {m}, m < t.length →
          (m ∈ cutPositions (piecesBehind (before ++ [c]) t).1 (piecesBehind (before ++ [c]) t).2 ↔
            isBoundary (before ++ c :: t) (before.length + (m + 1)) = true) := by
        intro m hm
        have h := ih (before ++ [c]) hm
        rwa [List.append_assoc, List.singleton_append, List.length_append, List.length_singleton,
          Nat.add_assoc, Nat.add_comm 1 m] at h
      rw [piecesBehind_cons]
      cases hboundary : isBoundary (before ++ c :: t) before.length with
      | true =>
          cases n with
          | zero => exact iff_of_true (mem_cutPositions_cons.mpr (Or.inl rfl)) hboundary
          | succ m =>
              have hbehind := @mem_cutPositions_behind [] (piecesBehind (before ++ [c]) t).1 c
                (piecesBehind (before ++ [c]) t).2 m
              rw [List.length_nil, Nat.zero_add, Nat.add_comm 1 m] at hbehind
              exact hbehind.trans (hnext (Nat.lt_of_succ_lt_succ hn))
      | false =>
          have hshift := cutPositions_cons_first c (piecesBehind (before ++ [c]) t).1
            (piecesBehind (before ++ [c]) t).2
          cases n with
          | zero => exact iff_of_false (by simp [hshift]) (by simp [hboundary])
          | succ m =>
              rw [← hnext (Nat.lt_of_succ_lt_succ hn)]
              simp [hshift]

/-- **The scan finds the cutting of a text.** -/
theorem isCutting_cutPieces (e : Text) :
    IsCutting e (cutPieces none false e).1 (cutPieces none false e).2 := by
  refine isCutting_iff.mpr ⟨pasted_cutPieces e none false, fun n hn => ?_⟩
  have hmem := mem_cutPositions_piecesBehind e [] hn
  rwa [List.length_nil, Nat.zero_add] at hmem

/-! ## Tokens -/

/-- The pieces, stripped, with the plain signs of the cuts between them. -/
def strippedPieces (first : Text) (links : List (Char × Text)) : List Text :=
  first.strip :: links.flatMap fun link => [[Operator.plainSign link.1], link.2.strip]

/-- Of pieces in turn only the last can be blank, and then it gives no token. -/
theorem Alternating.pieceTokens_eq {seen : Bool} {piece : Text} {links : List (Char × Text)}
    (h : Alternating seen piece links) (hseen : seen = false) :
    pieceTokens piece links =
      if (lastPiece piece links).isAllBlank then (strippedPieces piece links).dropLast
      else strippedPieces piece links := by
  induction h with
  | last seen piece =>
      cases hblank : piece.isAllBlank with
      | true =>
          rw [pieceTokens_blank hblank]
          simp [lastPiece, hblank, strippedPieces]
      | false =>
          rw [pieceTokens_last hblank]
          simp [lastPiece, hblank, strippedPieces]
  | @cut seen piece next c rest hnotBlank hoperator _ ih =>
      obtain ⟨op, hop⟩ := Option.isSome_iff_exists.mp hoperator
      have hpiece : piece.isAllBlank = false := by simpa [hseen] using hnotBlank
      have hsign : Operator.plainSign c = op.sign := (Operator.sign_of_ofSign? hop).symm
      have hcons : strippedPieces piece ((c, next) :: rest) =
          piece.strip :: [op.sign] :: strippedPieces next rest := by
        simp [strippedPieces, hsign]
      rw [pieceTokens_cut hpiece hop, ih rfl, hcons, lastPiece]
      cases (lastPiece next rest).isAllBlank with
      | true => rfl
      | false => rfl

/-- The values among the tokens of pieces in turn are stripped, and none is empty. -/
theorem Alternating.value_stripped {seen : Bool} {piece : Text} {links : List (Char × Text)}
    (h : Alternating seen piece links) (hseen : seen = false) {before : List Text} {value : Text}
    (hvalue : IsValueBehind (pieceTokens piece links) before value) :
    value ≠ [] ∧ value.strip = value := by
  obtain ⟨p, _, hblank, rfl⟩ := (h.isValueBehind_iff hseen).mp ⟨before, hvalue⟩
  refine ⟨fun hnil => ?_, (Text.trimmed_strip p).strip_eq⟩
  rw [Text.strip_eq_nil_iff.mp hnil] at hblank
  cases hblank

/-- A slash between two digits has no space beside it and is no cut. -/
theorem IsCutting.not_between_digits {e first : Text} {links : List (Char × Text)}
    (h : IsCutting e first links) {n : Nat} {a b : Char} (ha : e[n]? = some a)
    (hslash : e[n + 1]? = some '/') (hb : e[n + 2]? = some b) (hdigit : isDigitLike a = true)
    (hdigit' : isDigitLike b = true) : n + 1 ∉ cutPositions first links := by
  have hspace : ∀ c, isDigitLike c = true → c ≠ ' ' := by
    rintro c hc rfl
    revert hc
    decide
  intro hcut
  have hflanked := ((h.cut_iff (n + 1) '/' hslash).mp hcut).2.2
  have hbefore : (e.take (n + 1)).getLast? = some a := by
    rw [List.take_add_one, ha]
    simp
  have hbehind : (e.drop (n + 1 + 1)).head? = some b := by
    rw [List.head?_drop, hb]
  simp [isFlanked, hbefore, hbehind, hspace a hdigit, hspace b hdigit'] at hflanked

/-- **A text is cut in one way, and its tokens lose nothing.**  There is one cutting; the tokens are
its pieces, stripped, and the plain signs of its cuts, without the last piece if that is blank.  No
value is empty or has blanks around it, and a slash between two digits is not cut. -/
theorem tokens_cutting (e : Text) : ∃ first links, IsCutting e first links ∧
    (∀ first' links', IsCutting e first' links' → first' = first ∧ links' = links) ∧
    tokens e = (if (lastPiece first links).isAllBlank then (strippedPieces first links).dropLast
      else strippedPieces first links) ∧
    (∀ before value, IsValueBehind (tokens e) before value → value ≠ [] ∧ value.strip = value) ∧
    ∀ n a b, e[n]? = some a → e[n + 1]? = some '/' → e[n + 2]? = some b →
      isDigitLike a = true → isDigitLike b = true → n + 1 ∉ cutPositions first links := by
  have hcutting := isCutting_cutPieces e
  have halternating := alternating_cutPieces e none false
  refine ⟨_, _, hcutting, fun first' links' h' => hcutting.unique h', ?_, ?_, ?_⟩
  · rw [tokens_eq_pieceTokens, halternating.pieceTokens_eq rfl]
  · intro before value hvalue
    rw [tokens_eq_pieceTokens] at hvalue
    exact halternating.value_stripped rfl hvalue
  · intro n a b ha hslash hb hdigit hdigit'
    exact hcutting.not_between_digits ha hslash hb hdigit hdigit'

end Measure

end Tapeline
