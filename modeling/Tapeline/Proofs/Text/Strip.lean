import Mathlib.Data.List.TakeWhile
import Tapeline.Text.Basic

/-!
# Stripping and splitting

A text is trimmed if it neither starts nor ends with a blank.  Stripping leaves such a text alone
and takes off all blanks that are put around it.  What it leaves of any text is trimmed
(`trimmed_strip`), and nothing is left of blanks alone (`strip_eq_nil_iff`).

A text has a lead just if it is that lead with the rest behind it (`dropLead?_eq_some_iff`).  It is
split at the first occurrence of a character, if there is one (`splitAtFirst_append`,
`splitAtFirst_of_not_mem`), and at every one of them into its words (`splitOn_append`,
`splitOn_of_not_mem`).  A run of characters of one kind ends in one place (`append_inj_of_run`),
and a letter is told by its lower case (`eq_or_toUpper_of_toLower`).
-/

namespace Tapeline

/-- A letter is in lower case already, or is the upper case of what it becomes. -/
theorem eq_or_toUpper_of_toLower {c d : Char} (h : c.toLower = d) : c = d ∨ c = d.toUpper := by
  by_cases hupper : c.val ≥ 'A'.val ∧ c.val ≤ 'Z'.val
  · have hsmall : c.toNat < 91 := Nat.lt_succ_of_le hupper.2
    have hlarge : 65 ≤ c.toNat := hupper.1
    have hall : ∀ n < 91, 65 ≤ n → (Char.ofNat n).toLower.toUpper = Char.ofNat n := by decide
    have hc := hall c.toNat hsmall hlarge
    rw [Char.ofNat_toNat, h] at hc
    exact Or.inr hc.symm
  · have hsame : c.toLower = c := dif_neg hupper
    exact Or.inl (hsame.symm.trans h)

/-- Nothing but blanks. -/
def AllBlank (t : Text) : Prop :=
  ∀ c ∈ t, isBlank c = true

theorem allBlank_nil : AllBlank [] := by
  intro c hc
  cases hc

theorem AllBlank.append {t u : Text} (ht : AllBlank t) (hu : AllBlank u) : AllBlank (t ++ u) := by
  intro c hc
  cases List.mem_append.mp hc with
  | inl h => exact ht c h
  | inr h => exact hu c h

namespace Text

/-- No blank stands first and none stands last. -/
structure Trimmed (t : Text) : Prop where
  first : ∀ c, t.head? = some c → isBlank c = false
  last : ∀ c, t.getLast? = some c → isBlank c = false

/-- Without a blank in front nothing is stripped at the start. -/
theorem stripStart_of_first {t : Text} (h : ∀ c, t.head? = some c → isBlank c = false) :
    t.stripStart = t := by
  cases t with
  | nil => rfl
  | cons c rest => simp [stripStart, List.dropWhile, h c rfl]

theorem takeWhile_of_first {t : Text} (h : ∀ c, t.head? = some c → isBlank c = false) :
    t.takeWhile isBlank = [] := by
  cases t with
  | nil => rfl
  | cons c rest => simp [h c rfl]

/-- Without a blank behind nothing is stripped at the end. -/
theorem stripEnd_of_last {t : Text} (h : ∀ c, t.getLast? = some c → isBlank c = false) :
    t.stripEnd = t := by
  unfold stripEnd
  have hreverse : ∀ c, t.reverse.head? = some c → isBlank c = false := by
    simpa [List.head?_reverse] using h
  change (stripStart t.reverse).reverse = t
  rw [stripStart_of_first hreverse, List.reverse_reverse]

/-- A trimmed text is not changed. -/
theorem Trimmed.strip_eq {t : Text} (h : t.Trimmed) : t.strip = t := by
  unfold strip
  rw [stripStart_of_first h.first, stripEnd_of_last h.last]

/-- Blanks at the start are taken off. -/
theorem stripStart_append {before t : Text} (h : ∀ c ∈ before, isBlank c = true) :
    (before ++ t).stripStart = t.stripStart :=
  List.dropWhile_append_of_pos h

/-- Blanks at the end are taken off. -/
theorem stripEnd_append {t behind : Text} (h : ∀ c ∈ behind, isBlank c = true) :
    (t ++ behind).stripEnd = t.stripEnd := by
  unfold stripEnd
  rw [List.reverse_append,
    List.dropWhile_append_of_pos (fun c hc => h c (List.mem_reverse.mp hc))]

/-- A text that goes on from a trimmed one does not start with a blank either. -/
theorem Trimmed.first_append {t : Text} (h : t.Trimmed) (hne : t ≠ []) (rest : Text) :
    ∀ c, (t ++ rest).head? = some c → isBlank c = false := by
  cases t with
  | nil => exact absurd rfl hne
  | cons c t => exact h.first

/-- Stripping gives back a trimmed text that blanks were put around. -/
theorem Trimmed.strip_pad {before t behind : Text} (h : t.Trimmed) (hne : t ≠ [])
    (hbefore : ∀ c ∈ before, isBlank c = true) (hbehind : ∀ c ∈ behind, isBlank c = true) :
    (before ++ t ++ behind).strip = t := by
  unfold strip
  rw [List.append_assoc, stripStart_append hbefore, stripStart_of_first (h.first_append hne behind),
    stripEnd_append hbehind, stripEnd_of_last h.last]

/-- Two trimmed texts with anything between them are a trimmed text. -/
theorem Trimmed.append {t u : Text} (ht : t.Trimmed) (hu : u.Trimmed) (middle : Text)
    (htne : t ≠ []) (hune : u ≠ []) : (t ++ middle ++ u).Trimmed := by
  constructor
  · rw [List.append_assoc]
    exact ht.first_append htne _
  · intro c hc
    rw [List.getLast?_append, List.getLast?_eq_some_getLast hune, Option.some_or] at hc
    rw [← List.getLast?_eq_some_getLast hune] at hc
    exact hu.last c hc

/-- Stripping leaves what a text starts with if that is trimmed. -/
theorem Trimmed.prefix_strip {lead t : Text} (h : lead.Trimmed) (hne : lead ≠ [])
    (hlead : lead <+: t) : lead <+: t.strip := by
  obtain ⟨rest, rfl⟩ := hlead
  have hkept : (lead.reverse.dropWhile isBlank).reverse = lead := stripEnd_of_last h.last
  rw [strip, stripStart_of_first (h.first_append hne rest), stripEnd, List.reverse_append,
    List.dropWhile_append]
  split
  · exact ⟨[], by rw [hkept, List.append_nil]⟩
  · rw [List.reverse_append, List.reverse_reverse]
    exact List.prefix_append lead _

/-- What stripping leaves at the start is nothing or no blank. -/
theorem isBlank_of_head?_stripStart {t : Text} {c : Char} (h : t.stripStart.head? = some c) :
    isBlank c = false := by
  have hnot := List.head?_dropWhile_not isBlank t
  rw [stripStart] at h
  rw [h] at hnot
  simpa using hnot

theorem stripEnd_eq (t : Text) : t.stripEnd = (stripStart t.reverse).reverse := rfl

/-- Stripping the end leaves a start of the text. -/
theorem stripEnd_lead (t : Text) : t.stripEnd <+: t := by
  rw [stripEnd_eq, ← List.reverse_suffix, List.reverse_reverse]
  exact List.dropWhile_suffix _

/-- Nothing is added by stripping. -/
theorem mem_of_mem_strip {t : Text} {c : Char} (h : c ∈ t.strip) : c ∈ t :=
  (List.dropWhile_suffix isBlank).subset ((stripEnd_lead _).subset h)

/-- A part of a text without blanks is left by stripping. -/
theorem infix_stripStart {part t : Text} (hpart : ∀ c ∈ part, isBlank c = false)
    (h : part <:+: t) : part <:+: t.stripStart := by
  induction t with
  | nil => exact h
  | cons c t ih =>
      by_cases hc : isBlank c = true
      · rw [stripStart, List.dropWhile_cons_of_pos hc]
        cases List.infix_cons_iff.mp h with
        | inl hlead =>
            cases part with
            | nil => exact List.nil_infix
            | cons d part =>
                have hd := hpart d List.mem_cons_self
                rw [(List.cons_prefix_cons.mp hlead).1, hc] at hd
                cases hd
        | inr hbehind => exact ih hbehind
      · rw [stripStart, List.dropWhile_cons_of_neg hc]
        exact h

/-- A part without blanks survives stripping. -/
theorem infix_strip {part t : Text} (hpart : ∀ c ∈ part, isBlank c = false) (h : part <:+: t) :
    part <:+: t.strip := by
  have hreverse : ∀ c ∈ part.reverse, isBlank c = false := fun c hc =>
    hpart c (List.mem_reverse.mp hc)
  have hstart := infix_stripStart hpart h
  rw [strip, stripEnd_eq, ← List.reverse_infix, List.reverse_reverse]
  exact infix_stripStart hreverse (List.reverse_infix.mpr hstart)

/-- **Stripped text is trimmed.** -/
theorem trimmed_strip (t : Text) : t.strip.Trimmed := by
  constructor
  · intro c hc
    obtain ⟨behind, hbehind⟩ := stripEnd_lead t.stripStart
    refine @isBlank_of_head?_stripStart t c ?_
    rw [← hbehind, List.head?_append, ← strip, hc, Option.some_or]
  · intro c hc
    rw [strip, stripEnd_eq, List.getLast?_reverse] at hc
    exact isBlank_of_head?_stripStart hc

/-- All is stripped just if all is blank. -/
theorem stripStart_eq_nil_iff {t : Text} : t.stripStart = [] ↔ t.isAllBlank = true := by
  rw [stripStart, List.dropWhile_eq_nil_iff, isAllBlank, List.all_eq_true]

/-- Nothing is left of a text of blanks, and of no other. -/
theorem strip_eq_nil_iff {t : Text} : t.strip = [] ↔ t.isAllBlank = true := by
  rw [strip, stripEnd_eq, List.reverse_eq_nil_iff, stripStart_eq_nil_iff, isAllBlank,
    List.all_reverse]
  constructor
  · intro h
    cases hstart : t.stripStart with
    | nil => exact stripStart_eq_nil_iff.mp hstart
    | cons c rest =>
        -- the first character that stripping leaves is no blank
        have hc := @isBlank_of_head?_stripStart t c (by rw [hstart]; rfl)
        simp [hstart, hc] at h
  · intro h
    rw [stripStart_eq_nil_iff.mpr h]
    rfl

/-- A trimmed text that is not empty ends with a character that is not blank. -/
theorem Trimmed.exists_last {t : Text} (h : t.Trimmed) (hne : t ≠ []) :
    ∃ lead c, t = lead ++ [c] ∧ isBlank c = false := by
  refine ⟨t.dropLast, t.getLast hne, (List.dropLast_concat_getLast hne).symm, ?_⟩
  exact h.last _ (List.getLast?_eq_some_getLast hne)

/-- A text is what stripping leaves of it, with blanks around that. -/
theorem exists_pad (t : Text) : ∃ before behind, t = before ++ t.strip ++ behind ∧
    (∀ c ∈ before, isBlank c = true) ∧ ∀ c ∈ behind, isBlank c = true := by
  have hstart : t = t.takeWhile isBlank ++ t.stripStart := List.takeWhile_append_dropWhile.symm
  have hend : ∀ u : Text, u = u.stripEnd ++ (u.reverse.takeWhile isBlank).reverse := by
    intro u
    rw [stripEnd, ← List.reverse_append, List.takeWhile_append_dropWhile, List.reverse_reverse]
  refine ⟨t.takeWhile isBlank, (t.stripStart.reverse.takeWhile isBlank).reverse, ?_,
    fun c hc => List.mem_takeWhile_imp hc,
    fun c hc => List.mem_takeWhile_imp (List.mem_reverse.mp hc)⟩
  rw [strip, List.append_assoc, ← hend]
  exact hstart

/-- A text without blanks is trimmed. -/
theorem trimmed_of_forall {t : Text} (h : ∀ c ∈ t, isBlank c = false) : t.Trimmed :=
  ⟨fun c hc => h c (List.mem_of_mem_head? hc), fun c hc => h c (List.mem_of_mem_getLast? hc)⟩

/-! ## Leads -/

/-- What is left of a text that starts with a lead. -/
theorem dropLead?_eq_some_iff {lead t rest : Text} :
    dropLead? lead t = some rest ↔ t = lead ++ rest := by
  induction lead generalizing t with
  | nil => simp [dropLead?]
  | cons l lead ih =>
      cases t with
      | nil => simp [dropLead?]
      | cons c t =>
          by_cases hc : l = c
          · simp [dropLead?, hc, ih]
          · simp [dropLead?, hc, Ne.symm hc]

/-- A lead is not dropped just if it is not there. -/
theorem dropLead?_eq_none_iff {lead t : Text} : dropLead? lead t = none ↔ ¬ lead <+: t := by
  rw [Option.eq_none_iff_forall_not_mem]
  constructor
  · intro h ⟨rest, hrest⟩
    exact h rest (dropLead?_eq_some_iff.mpr hrest.symm)
  · intro h rest hrest
    exact h ⟨rest, (dropLead?_eq_some_iff.mp hrest).symm⟩

/-! ## Splitting -/

/-- A run of characters of one kind ends in one place of a text. -/
theorem append_inj_of_run {p : Char → Bool} {run run' rest rest' : Text}
    (hrun : ∀ c ∈ run, p c = true) (hrun' : ∀ c ∈ run', p c = true)
    (hrest : ∀ c, rest.head? = some c → p c = false)
    (hrest' : ∀ c, rest'.head? = some c → p c = false)
    (h : run ++ rest = run' ++ rest') : run = run' ∧ rest = rest' := by
  have htake : ∀ {r s : Text}, (∀ c ∈ r, p c = true) → (∀ c, s.head? = some c → p c = false) →
      (r ++ s).takeWhile p = r := by
    intro r s hr hs
    rw [List.takeWhile_append_of_pos hr]
    cases s with
    | nil => simp
    | cons c s => simp [hs c rfl]
  have hsame : run = run' := by rw [← htake hrun hrest, h, htake hrun' hrest']
  subst hsame
  exact ⟨rfl, List.append_cancel_left h⟩

/-- The text around the first occurrence of a character. -/
theorem eq_of_splitAtFirst {c : Char} {t before after : Text}
    (h : splitAtFirst c t = some (before, after)) : t = before ++ c :: after := by
  induction t generalizing before with
  | nil => cases h
  | cons d rest ih =>
      unfold splitAtFirst at h
      split at h
      · rename_i hd
        cases h
        rw [hd]
        rfl
      · cases hrest : splitAtFirst c rest with
        | none =>
            rw [hrest] at h
            cases h
        | some parts =>
            obtain ⟨lead, behind⟩ := parts
            rw [hrest] at h
            cases h
            rw [ih hrest]
            rfl

/-- A character with no other like it before it is where the text is split. -/
theorem splitAtFirst_append {c : Char} {t : Text} (h : c ∉ t) (rest : Text) :
    splitAtFirst c (t ++ c :: rest) = some (t, rest) := by
  induction t with
  | nil => simp [splitAtFirst]
  | cons d t ih =>
      have hd : d ≠ c := fun heq => h (by simp [heq])
      have ht : c ∉ t := fun hmem => h (List.mem_cons_of_mem _ hmem)
      simp [splitAtFirst, hd, ih ht]

/-- A character that does not occur splits nothing. -/
theorem splitAtFirst_of_not_mem {c : Char} {t : Text} (h : c ∉ t) :
    splitAtFirst c t = none := by
  induction t with
  | nil => rfl
  | cons d rest ih =>
      have hd : d ≠ c := fun heq => h (by simp [heq])
      have hrest : c ∉ rest := fun hmem => h (List.mem_cons_of_mem _ hmem)
      simp [splitAtFirst, hd, ih hrest]

theorem splitOn_ne_nil (c : Char) (t : Text) : splitOn c t ≠ [] := by
  cases t with
  | nil => simp [splitOn]
  | cons d rest =>
      unfold splitOn
      split
      · simp
      · split <;> simp

/-- The pieces of a text and those of another, with the character between them. -/
theorem splitOn_append (c : Char) (t rest : Text) :
    splitOn c (t ++ c :: rest) = splitOn c t ++ splitOn c rest := by
  induction t with
  | nil =>
      obtain ⟨piece, pieces, hrest⟩ := List.exists_cons_of_ne_nil (splitOn_ne_nil c rest)
      simp [splitOn, hrest]
  | cons d t ih =>
      obtain ⟨piece, pieces, ht⟩ := List.exists_cons_of_ne_nil (splitOn_ne_nil c t)
      rw [List.cons_append, splitOn, splitOn, ih, ht, List.cons_append]
      dsimp only
      split <;> rfl

/-- A text without the character is one piece. -/
theorem splitOn_of_not_mem {c : Char} {t : Text} (h : c ∉ t) : splitOn c t = [t] := by
  induction t with
  | nil => rfl
  | cons d t ih =>
      have hd : d ≠ c := fun heq => h (by simp [heq])
      rw [splitOn, ih fun hmem => h (List.mem_cons_of_mem _ hmem)]
      dsimp only
      rw [if_neg hd]

/-- Leaving out a character that does not occur changes nothing. -/
theorem filter_ne_of_not_mem {c : Char} {t : Text} (h : c ∉ t) : t.filter (· != c) = t := by
  rw [List.filter_eq_self]
  intro d hd
  have hne : d ≠ c := fun heq => h (heq ▸ hd)
  simpa using hne

end Text

end Tapeline
