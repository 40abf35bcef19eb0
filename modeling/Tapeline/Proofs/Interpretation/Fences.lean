import Tapeline.Interpretation.Reply
import Tapeline.Proofs.Json.Grammar

/-!
# Fences around a reply

A fence is taken off with the word and the line break behind it, and nothing else is: a text that
holds no fence and does not end in a backtick is kept (`withoutFences_append`), and of what stands
behind a fence mark only blanks are lost (`exists_behindFence`).  The text of an object is such a
text, since it ends with a brace (`exists_core`).  So an object is found in a reply whether it
stands there by itself or between fences (`cleanReply_fenced`).
-/

namespace Tapeline

namespace Interpretation

/-! ## What is kept -/

/-- A text that no fence starts in, whatever stands behind it. -/
structure Unfenced (t : Text) : Prop where
  no_mark : ¬ fenceMark <:+: t
  last : t.getLast? ≠ some '\x60'

/-- No fence stands where there is no mark. -/
theorem fenceLength_eq_zero {t : Text} (h : ¬ fenceMark <+: t) : fenceLength t = 0 := by
  rw [fenceLength, Text.dropLead?_eq_none_iff.mpr h]

theorem Unfenced.of_cons {c d : Char} {t : Text} (h : Unfenced (c :: d :: t)) :
    Unfenced (d :: t) where
  no_mark := fun hmark => h.no_mark (List.infix_cons hmark)
  last := by
    have hlast := h.last
    rwa [List.getLast?_cons_cons] at hlast

/-- A mark that starts in an unfenced text would end in it. -/
theorem Unfenced.no_mark_ahead {t : Text} (h : Unfenced t) (hne : t ≠ []) (rest : Text) :
    ¬ fenceMark <+: t ++ rest := by
  intro hlead
  match t with
  | [] => exact hne rfl
  | [c] =>
      have hc := (List.cons_prefix_cons.mp hlead).1
      exact h.last (by rw [hc]; rfl)
  | [c, d] =>
      have hbehind := (List.cons_prefix_cons.mp hlead).2
      have hd := (List.cons_prefix_cons.mp hbehind).1
      exact h.last (by rw [hd]; rfl)
  | c :: d :: e :: t =>
      have hmark : fenceMark <+: [c, d, e] :=
        List.prefix_of_prefix_length_le hlead ⟨t ++ rest, rfl⟩ (by simp [fenceMark])
      exact h.no_mark (hmark.isInfix.trans (List.IsPrefix.isInfix ⟨t, rfl⟩))

/-- **An unfenced text is kept** in front of anything. -/
theorem withoutFences_append {t : Text} (h : Unfenced t) (rest : Text) :
    withoutFences 0 (t ++ rest) = t ++ withoutFences 0 rest := by
  induction t with
  | nil => rfl
  | cons c t ih =>
      have hlength := fenceLength_eq_zero (h.no_mark_ahead (List.cons_ne_nil c t) rest)
      rw [List.cons_append] at hlength ⊢
      rw [withoutFences, hlength]
      cases t with
      | nil => rfl
      | cons d t => exact congrArg (c :: ·) (ih h.of_cons)

theorem unfenced_of_allBlank {t : Text} (h : AllBlank t) : Unfenced t where
  no_mark := by
    intro hmark
    exact absurd (h '\x60' (hmark.subset List.mem_cons_self)) (by decide)
  last := by
    intro hlast
    exact absurd (h '\x60' (List.mem_of_getLast? hlast)) (by decide)

/-! ## What is taken off -/

/-- Skipping characters is dropping them first. -/
theorem withoutFences_eq_drop (skip : Nat) (t : Text) :
    withoutFences skip t = withoutFences 0 (t.drop skip) := by
  induction t generalizing skip with
  | nil => cases skip <;> rfl
  | cons c t ih =>
      cases skip with
      | zero => rfl
      | succ skip =>
          rw [withoutFences, ih, List.drop_succ_cons]

/-- A lead is skipped. -/
theorem skipLead_append (lead t : Text) : skipLead lead (lead ++ t) = t := by
  rw [skipLead, Text.dropLead?_eq_some_iff.mpr rfl, Option.getD_some]

/-- What has another lead stays. -/
theorem skipLead_of_no_lead {lead t : Text} (h : ¬ lead <+: t) : skipLead lead t = t := by
  rw [skipLead, Text.dropLead?_eq_none_iff.mpr h, Option.getD_none]

theorem skipLead_suffix (lead t : Text) : skipLead lead t <:+ t := by
  by_cases h : lead <+: t
  · obtain ⟨rest, rfl⟩ := h
    rw [skipLead_append]
    exact List.suffix_append lead rest
  · exact ⟨[], (skipLead_of_no_lead h).symm ▸ rfl⟩

/-- What is left of the text behind a fence mark. -/
def behindFence (t : Text) : Text :=
  skipLead ['\n'] (skipLead "json".toList t)

theorem behindFence_suffix (t : Text) : behindFence t <:+ t :=
  (skipLead_suffix _ _).trans (skipLead_suffix _ _)

theorem withoutFences_of_length {c : Char} {t : Text} {n : Nat}
    (h : fenceLength (c :: t) = n + 1) : withoutFences 0 (c :: t) = withoutFences n t := by
  rw [withoutFences, h]

/-- A fence is taken off as a whole. -/
theorem withoutFences_fenceMark (t : Text) :
    withoutFences 0 (fenceMark ++ t) = withoutFences 0 (behindFence t) := by
  have hsuffix : behindFence t <:+ fenceMark ++ t :=
    (behindFence_suffix t).trans (List.suffix_append fenceMark t)
  have hlength : fenceLength (fenceMark ++ t) =
      (fenceMark ++ t).length - (behindFence t).length := by
    rw [fenceLength, Text.dropLead?_eq_some_iff.mpr rfl]
    rfl
  have hshort := (behindFence_suffix t).length_le
  have hpositive : 0 < fenceLength (fenceMark ++ t) := by
    rw [hlength, List.length_append, fenceMark]
    simp only [List.length_cons, List.length_nil]
    omega
  obtain ⟨n, hn⟩ := Nat.exists_eq_add_one.mpr hpositive
  rw [List.suffix_iff_eq_drop.mp hsuffix, ← hlength, hn, ← withoutFences_eq_drop]
  exact withoutFences_of_length hn

/-- An opening fence, with or without the word and the line break. -/
def openingFence (named broken : Bool) : Text :=
  fenceMark ++ ((if named then "json".toList else []) ++ (if broken then ['\n'] else []))

/-- Neither a blank nor the first letter of the word is in front. -/
def ClearAhead (t : Text) : Prop :=
  ∀ c, t.head? = some c → isBlank c = false ∧ c ≠ 'j'

theorem clearAhead_nil : ClearAhead [] := by
  intro c hc
  cases hc

/-- The word is skipped, and nothing else is taken for it. -/
theorem skipLead_word {blanks t : Text} (hblanks : AllBlank blanks) (ht : ClearAhead t)
    (named : Bool) :
    skipLead "json".toList ((if named then "json".toList else []) ++ (blanks ++ t)) =
      blanks ++ t := by
  cases named with
  | true => exact skipLead_append _ _
  | false =>
      refine skipLead_of_no_lead fun ⟨rest, hrest⟩ => ?_
      have hfirst : (blanks ++ t).head? = some 'j' := by
        rw [show blanks ++ t = "json".toList ++ rest from hrest.symm]
        rfl
      cases blanks with
      | nil => exact (ht 'j' hfirst).2 rfl
      | cons c blanks =>
          cases hfirst
          exact absurd (hblanks 'j' List.mem_cons_self) (by decide)

/-- A line break that is skipped is one of the blanks in front. -/
theorem exists_skipLead_break {blanks t : Text} (hblanks : AllBlank blanks) (ht : ClearAhead t) :
    ∃ left, AllBlank left ∧ skipLead ['\n'] (blanks ++ t) = left ++ t := by
  by_cases hlead : ['\n'] <+: blanks ++ t
  · obtain ⟨rest, hrest⟩ := hlead
    cases blanks with
    | nil =>
        have hbreak := (ht '\n' (by rw [← List.nil_append t, ← hrest]; rfl)).1
        exact absurd hbreak (by decide)
    | cons c blanks =>
        obtain ⟨rfl, -⟩ := List.cons.inj hrest
        exact ⟨blanks, fun d hd => hblanks d (List.mem_cons_of_mem _ hd),
          skipLead_append ['\n'] (blanks ++ t)⟩
  · exact ⟨blanks, hblanks, skipLead_of_no_lead hlead⟩

theorem allBlank_break : AllBlank ['\n'] := by
  intro c hc
  rw [List.mem_singleton.mp hc]
  decide

/-- **Behind a fence only blanks are lost.** -/
theorem exists_withoutFences_fence {blanks t : Text} (hblanks : AllBlank blanks)
    (ht : ClearAhead t) (named broken : Bool) :
    ∃ left, AllBlank left ∧
      withoutFences 0 (openingFence named broken ++ (blanks ++ t)) =
        left ++ withoutFences 0 t := by
  have hbreak : AllBlank (if broken then ['\n'] else []) := by
    cases broken with
    | true => exact allBlank_break
    | false => exact allBlank_nil
  obtain ⟨left, hleft, hskip⟩ := exists_skipLead_break (hbreak.append hblanks) ht
  refine ⟨left, hleft, ?_⟩
  have hword := skipLead_word (hbreak.append hblanks) ht named
  rw [openingFence, List.append_assoc, withoutFences_fenceMark, behindFence, List.append_assoc,
    ← List.append_assoc _ blanks, hword, hskip, withoutFences_append (unfenced_of_allBlank hleft)]

/-! ## Objects between fences -/

/-- A text from an opening to a closing brace. -/
def Braced (t : Text) : Prop :=
  ∃ u, t = '\x7b' :: (u ++ ['\x7d'])

/-- An object ends with its closing brace. -/
theorem Braced.getLast? {t : Text} (h : Braced t) : t.getLast? = some '\x7d' := by
  obtain ⟨u, rfl⟩ := h
  rw [← List.cons_append, List.getLast?_concat]

theorem Braced.ne_nil {t : Text} (h : Braced t) : t ≠ [] := by
  obtain ⟨u, rfl⟩ := h
  exact List.cons_ne_nil _ _

/-- An object starts with neither a blank nor the word. -/
theorem Braced.clearAhead {t : Text} (h : Braced t) (rest : Text) : ClearAhead (t ++ rest) := by
  obtain ⟨u, rfl⟩ := h
  intro c hc
  cases hc
  decide

/-- An object has no blanks around it. -/
theorem Braced.trimmed {t : Text} (h : Braced t) : t.Trimmed where
  first := by
    intro c hc
    refine (h.clearAhead [] c ?_).1
    rwa [List.append_nil]
  last := by
    intro c hc
    rw [h.getLast?] at hc
    cases hc
    decide

/-- Braces around a text without the mark leave no fence. -/
theorem Braced.unfenced {t : Text} (h : Braced t) (hmark : ¬ fenceMark <:+: t) : Unfenced t where
  no_mark := hmark
  last := by
    rw [h.getLast?]
    decide

/-- White space of JSON is blank. -/
theorem isBlank_of_isSpace {c : Char} (h : Json.isSpace c = true) : isBlank c = true := by
  simp only [Json.isSpace, Bool.or_eq_true, decide_eq_true_eq] at h
  obtain ((rfl | rfl) | rfl) | rfl := h <;> decide

theorem allBlank_of_allSpace {t : Text} (h : Json.AllSpace t) : AllBlank t :=
  fun c hc => isBlank_of_isSpace (h c hc)

/-- The text of an object is a text from brace to brace with space around it. -/
theorem exists_core {t : Text} {members : List (Text × Json)}
    (h : Json.read t = .ok (.object members)) :
    ∃ s core s', AllBlank s ∧ AllBlank s' ∧ Braced core ∧
      Json.read core = .ok (.object members) ∧ t = s ++ (core ++ s') := by
  obtain ⟨s, core, s', hs, hs', hcore, ht⟩ := Json.read_ok_iff.mp h
  refine ⟨s, core, s', allBlank_of_allSpace hs, allBlank_of_allSpace hs', Json.exists_braces hcore,
    Json.read_ok_iff.mpr ?_, ht⟩
  exact ⟨[], core, [], Json.allSpace_nil, Json.allSpace_nil, hcore, by simp⟩

/-- The object that is left with blanks around it is the reply. -/
theorem cleanReply_of_core {content before core behind : Text} {members : List (Text × Json)}
    (hread : Json.read core = .ok (.object members)) (hcore : Braced core)
    (hbefore : AllBlank before) (hbehind : AllBlank behind)
    (h : withoutFences 0 content = before ++ core ++ behind) :
    cleanReply content = .ok members := by
  rw [cleanReply, h, hcore.trimmed.strip_pad hcore.ne_nil hbefore hbehind, hread]

/-- **Fences are transparent.**  The text of an object that holds no fence mark is read as that
object, by itself and between fences, with any blanks around it. -/
theorem cleanReply_fenced {t : Text} {members : List (Text × Json)}
    (hread : Json.read t = .ok (.object members)) (hmark : ¬ fenceMark <:+: t)
    {before inside inside' behind : Text} (hbefore : AllBlank before) (hinside : AllBlank inside)
    (hinside' : AllBlank inside') (hbehind : AllBlank behind) :
    cleanReply (before ++ t ++ behind) = .ok members ∧
      ∀ named broken, cleanReply (before ++ (openingFence named broken ++
        (inside ++ t ++ inside') ++ fenceMark) ++ behind) = .ok members := by
  obtain ⟨s, core, s', hs, hs', hcore, hobject, rfl⟩ := exists_core hread
  have hunfenced : Unfenced core := hcore.unfenced fun h =>
    hmark (h.trans ⟨s, s', by rw [List.append_assoc]⟩)
  constructor
  · have hfront := unfenced_of_allBlank (hbefore.append hs)
    have hback := unfenced_of_allBlank (hs'.append hbehind)
    apply cleanReply_of_core hobject hcore (hbefore.append hs) (hs'.append hbehind)
    calc withoutFences 0 (before ++ (s ++ (core ++ s')) ++ behind)
        = withoutFences 0 ((before ++ s) ++ (core ++ ((s' ++ behind) ++ []))) := by simp
      _ = (before ++ s) ++ (core ++ ((s' ++ behind) ++ withoutFences 0 [])) := by
          rw [withoutFences_append hfront, withoutFences_append hunfenced,
            withoutFences_append hback]
      _ = (before ++ s) ++ core ++ (s' ++ behind) := by simp [withoutFences]
  · intro named broken
    have hfront := unfenced_of_allBlank hbefore
    have hback := unfenced_of_allBlank (hs'.append hinside')
    obtain ⟨left, hleft, hopening⟩ := exists_withoutFences_fence (hinside.append hs)
      (hcore.clearAhead ((s' ++ inside') ++ (fenceMark ++ behind))) named broken
    obtain ⟨left', hleft', hclosing⟩ :=
      exists_withoutFences_fence hbehind clearAhead_nil false false
    rw [List.append_nil, withoutFences, List.append_nil] at hclosing
    apply cleanReply_of_core hobject hcore (hbefore.append hleft)
      ((hs'.append hinside').append hleft')
    calc withoutFences 0 (before ++ (openingFence named broken ++
            (inside ++ (s ++ (core ++ s')) ++ inside') ++ fenceMark) ++ behind)
        = withoutFences 0 (before ++ (openingFence named broken ++ ((inside ++ s) ++
            (core ++ ((s' ++ inside') ++ (fenceMark ++ behind)))))) := by simp
      _ = before ++ (left ++ (core ++ ((s' ++ inside') ++
            withoutFences 0 (fenceMark ++ behind)))) := by
          rw [withoutFences_append hfront, hopening, withoutFences_append hunfenced,
            withoutFences_append hback]
      _ = before ++ left ++ core ++ (s' ++ inside' ++ left') := by
          rw [show fenceMark = openingFence false false from rfl, hclosing]
          simp

/-- A member named like the word, with two backticks in it, between fences with line breaks. -/
theorem cleanReply_fenced_word :
    cleanReply (openingFence true true ++ ['\x7b', '\x22', 'j', 's', 'o', 'n', '\x22', ':', '\x22',
        '\x60', '\x60', '\x22', '\x7d', '\n'] ++ fenceMark ++ ['\n']) =
      .ok [(['j', 's', 'o', 'n'], .text ['\x60', '\x60'])] := by
  have hread : Json.read ['\x7b', '\x22', 'j', 's', 'o', 'n', '\x22', ':', '\x22', '\x60', '\x60',
      '\x22', '\x7d'] = .ok (.object [(['j', 's', 'o', 'n'], .text ['\x60', '\x60'])]) := rfl
  have hmark : ¬ fenceMark <:+: ['\x7b', '\x22', 'j', 's', 'o', 'n', '\x22', ':', '\x22', '\x60',
      '\x60', '\x22', '\x7d'] := by
    decide
  exact (cleanReply_fenced hread hmark allBlank_nil allBlank_nil allBlank_break
    allBlank_break).2 true true

end Interpretation

end Tapeline
