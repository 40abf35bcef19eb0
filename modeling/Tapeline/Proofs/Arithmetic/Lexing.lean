import Tapeline.Proofs.Results
import Tapeline.Proofs.Text.Digits

/-!
# How a text is cut into tokens

`Lexed` says what the tokens of a text are, without a scan: blanks are passed over, a sign is a
token, and a number is a run of digits with at most one point that the next character does not go on
with.  The tokens that the scan finds are these (`tokens?_eq_ok_iff`), and it fails only at a
character that belongs to none (`scan_error`).

From the shape of the cutting it follows that no other character than a blank is lost
(`Lexed.flatMap_text`), and that two numbers stand side by side only where there are blanks between
them or where the second one starts with a point that the first one could not take
(`Lexed.between_numbers`).
-/

namespace Tapeline

namespace Arithmetic

/-- Digits with at most one point, and at least one character. -/
structure IsRun (run : Text) : Prop where
  ne_nil : run ≠ []
  marks : ∀ c ∈ run, isDigitLike c = true ∨ c = '.'
  point_le : run.count '.' ≤ 1

/-- The next character does not go on with the run. -/
def EndsRun (run t : Text) : Prop :=
  ∀ c, t.head? = some c → isDigitLike c = false ∧ (c = '.' → '.' ∈ run)

/-- A text and the tokens that it is cut into. -/
inductive Lexed : Text → List Token → Prop
  | nil : Lexed [] []
  | blank {c : Char} {t : Text} {tokens : List Token} (blank : isBlank c = true)
      (rest : Lexed t tokens) : Lexed (c :: t) tokens
  | sign {c : Char} {t : Text} {token : Token} {tokens : List Token}
      (sign : Token.ofChar? c = some token) (rest : Lexed t tokens) : Lexed (c :: t) (token :: tokens)
  | number {run t : Text} {tokens : List Token} (run_run : IsRun run) (ends : EndsRun run t)
      (rest : Lexed t tokens) : Lexed (run ++ t) (.number run :: tokens)

/-! ## The characters of tokens -/

/-- What looks like a digit is no sign. -/
theorem not_mem_signs_of_isDigitLike {c : Char} (h : isDigitLike c = true) : c ∉ signs := by
  cases isDigitLike_cases h with
  | inl hdecimal => exact not_mem_signs hdecimal
  | inr hplaceless => exact hplaceless.2

theorem isDigitLike_point : isDigitLike '.' = false := by decide

/-- A token of one character is a sign of plain arithmetic, and is written as it. -/
theorem of_ofChar? {c : Char} {token : Token} (h : Token.ofChar? c = some token) :
    token.text = [c] ∧ isBlank c = false ∧ ∀ t, token ≠ .number t := by
  unfold Token.ofChar? at h
  split at h
  · cases h
    exact ⟨rfl, by decide, by simp⟩
  · cases h
    exact ⟨rfl, by decide, by simp⟩
  · obtain ⟨op, hop, rfl⟩ := Option.map_eq_some_iff.mp h
    obtain rfl := Operator.sign_of_ofSign? hop
    exact ⟨rfl, by cases op <;> decide, by simp⟩

/-- A mark of a number is no token by itself, and no blank. -/
theorem of_numberMark {c : Char} (h : isDigitLike c = true ∨ c = '.') :
    Token.ofChar? c = none ∧ isBlank c = false := by
  rcases h with hdigit | rfl
  · have hne := not_mem_signs_of_isDigitLike hdigit
    simp only [signs, List.mem_cons, List.not_mem_nil, or_false, not_or] at hne
    exact ⟨by simp [Token.ofChar?, Operator.ofSign?, hne], isBlank_of_isDigitLike hdigit⟩
  · decide

/-! ## The scan finds the cutting -/

/-- What is scanned at a place before the next token: nothing outside a number, and inside one
digits and a point that was not there yet, up to where the number does not go on. -/
def Place.Takes (place : Place) (more rest : Text) : Prop :=
  match place with
  | outside => more = []
  | inside pointSeen =>
    (∀ c ∈ more, isDigitLike c = true ∨ c = '.') ∧ more.count '.' + pointSeen.toNat ≤ 1 ∧
      ∀ c, rest.head? = some c →
        isDigitLike c = false ∧ (c = '.' → pointSeen = true ∨ '.' ∈ more)

/-- A number ends at the first character that is neither a digit nor its first point. -/
theorem next?_eq_none_iff {pointSeen : Bool} {c : Char} :
    (Place.inside pointSeen).next? c = none ↔
      isDigitLike c = false ∧ (c = '.' → pointSeen = true) := by
  cases hdigit : isDigitLike c <;> cases pointSeen <;> simp [Place.next?, hdigit]

/-- A number starts where its first character could go on with one without a point. -/
theorem start?_eq_next? (c : Char) : Place.start? c = (Place.inside false).next? c := by
  simp [Place.start?, Place.next?]

/-- Nothing is taken where nothing goes on. -/
theorem takes_nil {place : Place} {c : Char} {t : Text} (h : place.next? c = none) :
    place.Takes [] (c :: t) := by
  cases place with
  | outside => rfl
  | inside pointSeen =>
      refine ⟨by simp, by cases pointSeen <;> decide, ?_⟩
      rintro _ ⟨⟩
      obtain ⟨hdigit, hpoint⟩ := next?_eq_none_iff.mp h
      exact ⟨hdigit, fun heq => Or.inl (hpoint heq)⟩

/-- A character that goes on is taken. -/
theorem takes_cons {place next : Place} {c : Char} {more rest : Text}
    (hnext : place.next? c = some next) (h : next.Takes more rest) :
    place.Takes (c :: more) rest := by
  cases place with
  | outside => cases hnext
  | inside pointSeen =>
      by_cases hdigit : isDigitLike c = true
      · have hsame : Place.inside pointSeen = next := by simpa [Place.next?, hdigit] using hnext
        subst hsame
        obtain ⟨hmarks, hcount, hends⟩ := h
        have hpoint : c ≠ '.' := by
          rintro rfl
          rw [isDigitLike_point] at hdigit
          cases hdigit
        refine ⟨List.forall_mem_cons.mpr ⟨Or.inl hdigit, hmarks⟩, ?_, ?_⟩
        · rwa [List.count_cons_of_ne hpoint]
        · intro d hd
          exact ⟨(hends d hd).1, fun heq => ((hends d hd).2 heq).imp_right (List.mem_cons_of_mem _)⟩
      · have hpoint : (c = '.' ∧ pointSeen = false) ∧ Place.inside true = next := by
          simpa [Place.next?, hdigit] using hnext
        obtain ⟨⟨rfl, rfl⟩, rfl⟩ := hpoint
        obtain ⟨hmarks, hcount, hends⟩ := h
        refine ⟨List.forall_mem_cons.mpr ⟨Or.inr rfl, hmarks⟩, ?_, ?_⟩
        · rwa [List.count_cons_self]
        · exact fun d hd => ⟨(hends d hd).1, fun _ => Or.inr List.mem_cons_self⟩

/-- What starts a number and goes on with it is a run, and ends where the number ends. -/
theorem isRun_of_takes {start : Place} {c : Char} {more rest : Text}
    (hstart : Place.start? c = some start) (h : start.Takes more rest) :
    IsRun (c :: more) ∧ EndsRun (c :: more) rest := by
  obtain ⟨hmarks, hcount, hends⟩ := takes_cons (start?_eq_next? c ▸ hstart) h
  refine ⟨⟨List.cons_ne_nil _ _, hmarks, hcount⟩, fun d hd => ⟨(hends d hd).1, fun heq => ?_⟩⟩
  exact ((hends d hd).2 heq).resolve_left Bool.false_ne_true

/-- **What the scan finds is a cutting.** -/
theorem scan_sound {t : Text} : ∀ {place : Place} {more : Text} {tokens : List Token},
    scan place t = .ok (more, tokens) →
      ∃ rest, t = more ++ rest ∧ place.Takes more rest ∧ Lexed rest tokens := by
  induction t with
  | nil =>
      rintro place _ _ ⟨⟩
      refine ⟨[], rfl, ?_, .nil⟩
      cases place with
      | outside => rfl
      | inside pointSeen => exact ⟨by simp, by cases pointSeen <;> decide, by simp⟩
  | cons c t ih =>
      intro place more tokens h
      unfold scan at h
      split at h
      · rename_i next hnext
        obtain ⟨⟨behind, tokens⟩, hscan, heq⟩ := map_eq_ok_iff.mp h
        cases heq
        obtain ⟨rest, rfl, htakes, hlexed⟩ := ih hscan
        exact ⟨rest, rfl, takes_cons hnext htakes, hlexed⟩
      · rename_i hnone
        suffices hcut : more = [] ∧ Lexed (c :: t) tokens by
          obtain ⟨rfl, hlexed⟩ := hcut
          exact ⟨c :: t, rfl, takes_nil hnone, hlexed⟩
        split at h
        · rename_i hblank
          obtain ⟨⟨behind, tokens⟩, hscan, heq⟩ := map_eq_ok_iff.mp h
          cases heq
          obtain ⟨rest, rfl, rfl, hlexed⟩ := ih hscan
          exact ⟨rfl, .blank hblank hlexed⟩
        · split at h
          · rename_i token hsign
            obtain ⟨⟨behind, tokens⟩, hscan, heq⟩ := map_eq_ok_iff.mp h
            cases heq
            obtain ⟨rest, rfl, rfl, hlexed⟩ := ih hscan
            exact ⟨rfl, .sign hsign hlexed⟩
          · split at h
            · rename_i start hstart
              obtain ⟨⟨behind, tokens⟩, hscan, heq⟩ := map_eq_ok_iff.mp h
              cases heq
              obtain ⟨rest, rfl, htakes, hlexed⟩ := ih hscan
              obtain ⟨hrun, hends⟩ := isRun_of_takes hstart htakes
              exact ⟨rfl, .number hrun hends hlexed⟩
            · cases h

/-- Characters that go on with a number are scanned into it. -/
theorem scan_append {t : Text} (rest : Text) : ∀ {place place' : Place},
    t.foldlM Place.next? place = some place' → scan place (t ++ rest) =
      (scan place' rest).map fun (more, tokens) => (t ++ more, tokens) := by
  induction t with
  | nil =>
      intro place place' h
      obtain rfl : place = place' := by simpa using h
      rw [List.nil_append]
      cases scan place rest <;> rfl
  | cons c t ih =>
      intro place place' h
      obtain ⟨next, hnext, hrun⟩ := Option.bind_eq_some_iff.mp h
      simp only [List.cons_append, scan, hnext, ih hrun]
      cases scan place' rest <;> rfl

/-- A run is gone through from its start, and its point is seen on the way. -/
theorem foldlM_next? {t : Text} : ∀ {pointSeen : Bool},
    (∀ c ∈ t, isDigitLike c = true ∨ c = '.') → t.count '.' + pointSeen.toNat ≤ 1 →
      t.foldlM Place.next? (.inside pointSeen) = some (.inside (pointSeen || t.contains '.')) := by
  induction t with
  | nil => simp
  | cons c t ih =>
      intro pointSeen hmarks hcount
      have htail := fun d hd => hmarks d (List.mem_cons_of_mem _ hd)
      rcases hmarks c List.mem_cons_self with hdigit | rfl
      · have hpoint : c ≠ '.' := by
          rintro rfl
          rw [isDigitLike_point] at hdigit
          cases hdigit
        rw [List.count_cons_of_ne hpoint] at hcount
        simpa [Place.next?, hdigit, hpoint.symm] using ih htail hcount
      · rw [List.count_cons_self] at hcount
        cases pointSeen with
        | true => simp at hcount
        | false =>
            have hnext : Place.next? (.inside false) '.' = some (.inside true) := by decide
            simpa [hnext] using @ih true htail hcount

/-- Where a number does not go on, the scan is as it is outside of one. -/
theorem scan_inside {run t : Text} {pointSeen : Bool} (hends : EndsRun run t)
    (hpoint : '.' ∈ run → pointSeen = true) : scan (.inside pointSeen) t = scan .outside t := by
  cases t with
  | nil => rfl
  | cons c t =>
      obtain ⟨hdigit, hrun⟩ := hends c rfl
      have hnext : (Place.inside pointSeen).next? c = none :=
        next?_eq_none_iff.mpr ⟨hdigit, fun heq => hpoint (hrun heq)⟩
      rw [scan, hnext, scan, Place.next?]

/-- A run is scanned into one token, up to where it ends. -/
theorem scan_run {run t : Text} {tokens : List Token} (hrun : IsRun run) (hends : EndsRun run t)
    (hrest : scan .outside t = .ok ([], tokens)) :
    scan .outside (run ++ t) = .ok ([], .number run :: tokens) := by
  cases run with
  | nil => exact absurd rfl hrun.ne_nil
  | cons c more =>
      obtain ⟨start, hstart, hmore⟩ :=
        Option.bind_eq_some_iff.mp (@foldlM_next? (c :: more) false hrun.marks hrun.point_le)
      rw [← start?_eq_next?] at hstart
      obtain ⟨hsign, hblank⟩ := of_numberMark (hrun.marks c List.mem_cons_self)
      have hseen : '.' ∈ c :: more → (false || (c :: more).contains '.') = true :=
        fun hmem => List.contains_iff_mem.mpr hmem
      have htail : scan start (more ++ t) = .ok (more, tokens) := by
        rw [scan_append t hmore, scan_inside hends hseen, hrest]
        simp [Except.map]
      rw [List.cons_append, scan]
      simp [Place.next?, hblank, hsign, hstart, htail, Except.map]

/-- **The scan finds every cutting.** -/
theorem scan_complete {t : Text} {tokens : List Token} (h : Lexed t tokens) :
    scan .outside t = .ok ([], tokens) := by
  induction h with
  | nil => rfl
  | blank hblank _ ih => simp [scan, Place.next?, hblank, ih, Except.map]
  | sign hsign _ ih =>
      obtain ⟨_, hblank, _⟩ := of_ofChar? hsign
      simp [scan, Place.next?, hblank, hsign, ih, Except.map]
  | number hrun hends _ ih => exact scan_run hrun hends ih

/-- **The tokens of an expression are the cutting of its plain text.** -/
theorem tokens?_eq_ok_iff {s : Text} {tokens : List Token} :
    tokens? s = .ok tokens ↔ Lexed (plain s) tokens := by
  rw [tokens?, map_eq_ok_iff]
  constructor
  · rintro ⟨⟨more, tokens⟩, hscan, rfl⟩
    obtain ⟨rest, heq, rfl, hlexed⟩ := scan_sound hscan
    exact heq ▸ hlexed
  · intro h
    exact ⟨([], tokens), scan_complete h, rfl⟩

/-- **The scan fails at a character that belongs to no token.** -/
theorem scan_error {t : Text} {c : Char} : ∀ {place : Place}, scan place t = .error c →
    c ∈ t ∧ isBlank c = false ∧ Token.ofChar? c = none ∧ Place.start? c = none := by
  induction t with
  | nil =>
      intro place h
      cases h
  | cons d t ih =>
      intro place h
      suffices hcut : (∃ place, scan place t = .error c) ∨
          d = c ∧ isBlank c = false ∧ Token.ofChar? c = none ∧ Place.start? c = none by
        rcases hcut with ⟨place, htail⟩ | ⟨rfl, hnone⟩
        · exact (ih htail).imp_left (List.mem_cons_of_mem _)
        · exact ⟨List.mem_cons_self, hnone⟩
      unfold scan at h
      split at h
      · exact Or.inl ⟨_, map_eq_error_iff.mp h⟩
      · split at h
        · exact Or.inl ⟨_, map_eq_error_iff.mp h⟩
        · rename_i hblank
          split at h
          · exact Or.inl ⟨_, map_eq_error_iff.mp h⟩
          · rename_i hsign
            split at h
            · exact Or.inl ⟨_, map_eq_error_iff.mp h⟩
            · rename_i hstart
              cases h
              exact Or.inr ⟨rfl, eq_false_of_ne_true hblank, hsign, hstart⟩

/-! ## What a cutting keeps -/

/-- **Nothing but blanks is lost.** -/
theorem Lexed.flatMap_text {t : Text} {tokens : List Token} (h : Lexed t tokens) :
    tokens.flatMap Token.text = t.filter fun c => !isBlank c := by
  induction h with
  | nil => rfl
  | blank hblank _ ih => simp [ih, hblank]
  | sign hsign _ ih =>
      obtain ⟨htext, hblank, _⟩ := of_ofChar? hsign
      simp [ih, hblank, htext]
  | @number run t tokens hrun _ _ ih =>
      have hkept : run.filter (fun c => !isBlank c) = run :=
        List.filter_eq_self.mpr fun c hc => by simp [(of_numberMark (hrun.marks c hc)).2]
      rw [List.flatMap_cons, ih, List.filter_append, hkept, Token.text]

/-- Every number is a run. -/
theorem Lexed.isRun {t : Text} {tokens : List Token} (h : Lexed t tokens) :
    ∀ run, .number run ∈ tokens → IsRun run := by
  induction h with
  | nil => simp
  | blank _ _ ih => exact ih
  | sign hsign _ ih =>
      intro run hmem
      rcases List.mem_cons.mp hmem with heq | hmem
      · exact absurd heq.symm ((of_ofChar? hsign).2.2 run)
      · exact ih run hmem
  | number hrun _ _ ih =>
      intro run hmem
      rcases List.mem_cons.mp hmem with heq | hmem
      · cases heq
        exact hrun
      · exact ih run hmem

/-- A number starts with no blank, whatever follows it. -/
theorem IsRun.not_blank_first {run : Text} (h : IsRun run) (t : Text) :
    ∀ c, (run ++ t).head? = some c → isBlank c = false := by
  intro c hc
  cases run with
  | nil => exact absurd rfl h.ne_nil
  | cons d run =>
      obtain rfl : d = c := by simpa using hc
      exact (of_numberMark (h.marks d List.mem_cons_self)).2

/-- What ends a run in front of a text ends it in front of what the text starts with. -/
theorem EndsRun.of_append {run t u : Text} (h : EndsRun run (t ++ u)) : EndsRun run t := by
  cases t with
  | nil => simp [EndsRun]
  | cons c t => exact h

/-- **A cutting is cut where its tokens are.**  The blanks between them belong to the first part. -/
theorem Lexed.of_append {t : Text} {first second : List Token}
    (h : Lexed t (first ++ second)) : ∃ u v, t = u ++ v ∧ Lexed u first ∧ Lexed v second ∧
      ∀ c, v.head? = some c → isBlank c = false := by
  generalize htokens : first ++ second = tokens at h
  induction h generalizing first with
  | nil =>
      obtain ⟨rfl, rfl⟩ := List.append_eq_nil_iff.mp htokens
      exact ⟨[], [], rfl, .nil, .nil, by simp⟩
  | blank hblank _ ih =>
      obtain ⟨u, v, rfl, hu, hv, hhead⟩ := ih htokens
      exact ⟨_ :: u, v, rfl, .blank hblank hu, hv, hhead⟩
  | sign hsign hrest ih =>
      cases first with
      | nil =>
          obtain rfl : second = _ := htokens
          refine ⟨[], _, rfl, .nil, .sign hsign hrest, ?_⟩
          rintro _ ⟨⟩
          exact (of_ofChar? hsign).2.1
      | cons token first =>
          obtain ⟨rfl, hsame⟩ := List.cons.inj htokens
          obtain ⟨u, v, rfl, hu, hv, hhead⟩ := ih hsame
          exact ⟨_ :: u, v, rfl, .sign hsign hu, hv, hhead⟩
  | @number run t tokens hrun hends hrest ih =>
      cases first with
      | nil =>
          obtain rfl : second = _ := htokens
          exact ⟨[], _, rfl, .nil, .number hrun hends hrest, hrun.not_blank_first t⟩
      | cons token first =>
          obtain ⟨rfl, hsame⟩ := List.cons.inj htokens
          obtain ⟨u, v, rfl, hu, hv, hhead⟩ := ih hsame
          exact ⟨run ++ u, v, by simp, .number hrun hends.of_append hu, hv, hhead⟩

/-- A number at the start of a text without blanks in front. -/
theorem Lexed.of_number {t run : Text} {tokens : List Token} (h : Lexed t (.number run :: tokens))
    (hhead : ∀ c, t.head? = some c → isBlank c = false) :
    ∃ rest, t = run ++ rest ∧ IsRun run ∧ EndsRun run rest ∧ Lexed rest tokens := by
  cases h with
  | blank hblank _ =>
      rw [hhead _ rfl] at hblank
      cases hblank
  | sign hsign _ => exact absurd rfl ((of_ofChar? hsign).2.2 run)
  | number hrun hends hrest => exact ⟨_, rfl, hrun, hends, hrest⟩

/-- A text without tokens is blank. -/
theorem Lexed.blank_of_nil {t : Text} (h : Lexed t []) : ∀ c ∈ t, isBlank c = true := by
  have hkept := h.flatMap_text
  simpa using hkept.symm

/-- **Two numbers side by side** have blanks between them, or the second one starts with a point
that the first one could not take. -/
theorem Lexed.between_numbers {t a b : Text} {before after : List Token}
    (h : Lexed t (before ++ .number a :: .number b :: after)) :
    ∃ u gap v, t = u ++ a ++ gap ++ b ++ v ∧ Lexed u before ∧ Lexed v after ∧
      (∀ c ∈ gap, isBlank c = true) ∧ (gap ≠ [] ∨ '.' ∈ a ∧ b.head? = some '.') := by
  obtain ⟨u, w, rfl, hu, hw, hhead⟩ := h.of_append
  obtain ⟨w, rfl, _, hends, hw⟩ := hw.of_number hhead
  obtain ⟨gap, w, rfl, hgap, hw, hhead⟩ := @Lexed.of_append w [] _ hw
  obtain ⟨v, rfl, hb, _, hv⟩ := hw.of_number hhead
  refine ⟨u, gap, v, by simp, hu, hv, hgap.blank_of_nil, ?_⟩
  cases gap with
  | cons c gap => exact Or.inl (List.cons_ne_nil _ _)
  | nil =>
      cases b with
      | nil => exact absurd rfl hb.ne_nil
      | cons c b =>
          obtain ⟨hdigit, hpoint⟩ := hends c rfl
          rcases hb.marks c List.mem_cons_self with hdigit' | rfl
          · rw [hdigit] at hdigit'
            cases hdigit'
          · exact Or.inr ⟨hpoint rfl, rfl⟩

end Arithmetic

end Tapeline
