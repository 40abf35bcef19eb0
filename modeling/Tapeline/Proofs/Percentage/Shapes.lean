import Tapeline.Proofs.Percentage.Operand

/-!
# The shapes of a percentage

A percentage is written in one of three shapes (`Shape`, `Spells`), with blanks between its parts.
Behind the first number and its blanks stands a plus or a minus, a percent sign, or a times sign,
and this mark tells the shapes apart.  The connector of a share is found by what is dropped
(`dropConnector_append`): no number starts with one.  So a text is spelled by one shape, and in one
way (`Spells.unique`).
-/

namespace Tapeline

namespace Percentage

/-- The signs that stand between the parts of a percentage. -/
def IsMark (c : Char) : Prop :=
  c ∈ ['+', '-', '×', '*', '%']

/-- A mark is neither a blank nor a part of a number. -/
theorem IsMark.properties {c : Char} (h : IsMark c) :
    isBlank c = false ∧ isDecimalDigit c = false ∧ c ≠ '.' := by
  have hall : ['+', '-', '×', '*', '%'].all
      (fun c => !isBlank c && !isDecimalDigit c && c != '.') = true := by decide
  simpa [and_assoc] using List.all_eq_true.mp hall c h

/-- The signs of an adjustment are marks. -/
theorem isMark_of_adjust {c : Char} (h : c ∈ ['+', '-']) : IsMark c :=
  (show ['+', '-'] ⊆ ['+', '-', '×', '*', '%'] by decide) h

/-- The signs of a product are marks. -/
theorem isMark_of_times {c : Char} (h : c ∈ ['×', '*']) : IsMark c :=
  (show ['×', '*'] ⊆ ['+', '-', '×', '*', '%'] by decide) h

theorem isMark_percent : IsMark '%' := by
  simp [IsMark]

/-- A connecting word or sign, or nothing. -/
def IsConnector (t : Text) : Prop :=
  t = [] ∨ t = ['×'] ∨ t = ['*'] ∨
    t.map Char.toLower = "of".toList ∨ t.map Char.toLower = "de".toList

/-- What is written as a percentage: which numbers, and what stands between them. -/
inductive Shape where
  /-- A number changed by a share of itself. -/
  | adjust (base : Operand) (sign : Char) (percent : Operand)
  /-- A share of a number. -/
  | share (first : Operand) (connector : Text) (second : Operand)
  /-- A number times a percentage. -/
  | times (first : Operand) (sign : Char) (second : Operand)

/-- A number, a sign, a number and a percent sign. -/
inductive SpellsSigned (first : Operand) (sign : Char) (second : Operand) : Text → Prop where
  | intro {b₁ b₂ b₃ : Text} (h₁ : AllBlank b₁) (h₂ : AllBlank b₂) (h₃ : AllBlank b₃) :
      SpellsSigned first sign second
        (first.text ++ (b₁ ++ sign :: (b₂ ++ (second.text ++ (b₃ ++ ['%'])))))

/-- A number, a percent sign, a connector and a number. -/
inductive SpellsShare (first : Operand) (connector : Text) (second : Operand) : Text → Prop where
  | intro {b₁ b₂ b₃ : Text} (h₁ : AllBlank b₁) (h₂ : AllBlank b₂) (h₃ : AllBlank b₃) :
      SpellsShare first connector second
        (first.text ++ (b₁ ++ '%' :: (b₂ ++ (connector ++ (b₃ ++ second.text)))))

/-- The texts of a shape. -/
inductive Spells : Shape → Text → Prop where
  | adjust {base percent : Operand} {sign : Char} {t : Text} (hsign : sign ∈ ['+', '-'])
      (h : SpellsSigned base sign percent t) : Spells (.adjust base sign percent) t
  | share {first second : Operand} {connector t : Text} (hconnector : IsConnector connector)
      (h : SpellsShare first connector second t) : Spells (.share first connector second) t
  | times {first second : Operand} {sign : Char} {t : Text} (hsign : sign ∈ ['×', '*'])
      (h : SpellsSigned first sign second t) : Spells (.times first sign second) t

/-! ## The parts of a text -/

/-- An operand has no blanks in front. -/
theorem Operand.stripStart_append (o : Operand) (rest : Text) :
    Text.stripStart (o.text ++ rest) = o.text ++ rest :=
  Text.stripStart_of_first (o.trimmed_text.first_append o.text_ne_nil rest)

/-- A mark ends a number, also behind blanks. -/
theorem endsNumber_mark {b rest : Text} {c : Char} (hb : AllBlank b) (hc : IsMark c) :
    EndsNumber (b ++ c :: rest) :=
  endsNumber_blanks hb (endsNumber_cons hc.properties.2.1 hc.properties.2.2)

/-! ## Connectors -/

/-- The characters of connectors. -/
def connectorChars : List Char :=
  ['×', '*', 'o', 'O', 'f', 'F', 'd', 'D', 'e', 'E']

/-- A connector is written in few characters. -/
theorem IsConnector.subset {t : Text} (h : IsConnector t) : t ⊆ connectorChars := by
  have hword : ∀ {a b : Char}, [a, b].all connectorChars.contains = true →
      [a.toUpper, b.toUpper].all connectorChars.contains = true →
      t.map Char.toLower = [a, b] → t ⊆ connectorChars := by
    intro a b hlower hupper hmap c hc
    have hmem : c.toLower ∈ [a, b] := hmap ▸ List.mem_map_of_mem hc
    simp only [List.all_cons, List.all_nil, Bool.and_true, Bool.and_eq_true,
      List.contains_iff_mem] at hlower hupper
    simp only [List.mem_cons, List.not_mem_nil, or_false] at hmem
    cases hmem with
    | inl ha =>
        cases eq_or_toUpper_of_toLower ha with
        | inl heq => exact heq ▸ hlower.1
        | inr heq => exact heq ▸ hupper.1
    | inr hb =>
        cases eq_or_toUpper_of_toLower hb with
        | inl heq => exact heq ▸ hlower.2
        | inr heq => exact heq ▸ hupper.2
  obtain rfl | rfl | rfl | hof | hde := h
  · exact List.nil_subset _
  · decide
  · decide
  · exact hword (by decide) (by decide) hof
  · exact hword (by decide) (by decide) hde

/-- The characters of connectors are neither blanks nor parts of a number. -/
theorem properties_of_mem_connectorChars {c : Char} (h : c ∈ connectorChars) :
    isBlank c = false ∧ isDecimalDigit c = false ∧ c ≠ '-' := by
  have hall : connectorChars.all
      (fun c => !isBlank c && !isDecimalDigit c && c != '-') = true := by decide
  simpa [and_assoc] using List.all_eq_true.mp hall c h

/-- A connector is dropped, and nothing else of the text. -/
theorem dropConnector_append {connector rest : Text} (h : IsConnector connector)
    (hne : connector ≠ []) : dropConnector (connector ++ rest) = rest := by
  have hword : ∀ {x y : Char}, (x = 'o' ∧ y = 'f') ∨ (x = 'd' ∧ y = 'e') →
      connector.map Char.toLower = [x, y] → dropConnector (connector ++ rest) = rest := by
    intro x y hxy hmap
    obtain ⟨a, tail, rfl, rfl, htail⟩ := List.map_eq_cons_iff.mp hmap
    obtain ⟨b, tail, rfl, rfl, hnil⟩ := List.map_eq_cons_iff.mp htail
    obtain rfl := List.map_eq_nil_iff.mp hnil
    have ha : ∀ d, d.toLower ≠ 'o' ∧ d.toLower ≠ 'd' → a ≠ d := by
      intro d hd heq
      rw [heq] at hxy
      grind
    have hglyph := ha '×' (by decide)
    have hstar := ha '*' (by decide)
    simp only [List.cons_append, List.nil_append]
    unfold dropConnector
    split
    · rename_i heq
      exact absurd (List.cons.inj heq).1 hglyph
    · rename_i heq
      exact absurd (List.cons.inj heq).1 hstar
    · rename_i heq
      obtain ⟨rfl, htail⟩ := List.cons.inj heq
      obtain ⟨rfl, rfl⟩ := List.cons.inj htail
      grind
    · rename_i hshort
      exact absurd rfl (hshort a b rest)
  obtain rfl | rfl | rfl | hof | hde := h
  · exact absurd rfl hne
  · rfl
  · rfl
  · exact hword (Or.inl ⟨rfl, rfl⟩) hof
  · exact hword (Or.inr ⟨rfl, rfl⟩) hde

/-- What is dropped is a connector. -/
theorem exists_connector (t : Text) :
    ∃ connector, IsConnector connector ∧ t = connector ++ dropConnector t := by
  unfold dropConnector
  split
  · exact ⟨['×'], Or.inr (Or.inl rfl), rfl⟩
  · exact ⟨['*'], Or.inr (Or.inr (Or.inl rfl)), rfl⟩
  · rename_i a b rest _ _
    dsimp only
    split
    · rename_i hword
      refine ⟨[a, b], ?_, rfl⟩
      simpa [IsConnector] using hword
    · exact ⟨[], Or.inl rfl, rfl⟩
  · exact ⟨[], Or.inl rfl, rfl⟩

/-- A number does not start with a connector. -/
theorem dropConnector_operand (o : Operand) : dropConnector o.text = o.text := by
  obtain ⟨connector, hconnector, htext⟩ := exists_connector o.text
  obtain ⟨c, more, hhead, hc⟩ := o.head_text
  cases connector with
  | nil => exact htext.symm
  | cons d connector =>
      rw [hhead, List.cons_append] at htext
      obtain ⟨-, hdigit, hminus⟩ :=
        properties_of_mem_connectorChars (hconnector.subset List.mem_cons_self)
      rw [← (List.cons.inj htext).1] at hdigit hminus
      cases hc with
      | inl h => exact absurd h hminus
      | inr h =>
          rw [h] at hdigit
          cases hdigit

/-- What blanks and a connector leave: the text from the connector on, or the number alone. -/
theorem stripStart_connector {connector b₂ b₃ : Text} (hconnector : IsConnector connector)
    (h₂ : AllBlank b₂) (h₃ : AllBlank b₃) (o : Operand) :
    Text.stripStart (b₂ ++ (connector ++ (b₃ ++ o.text))) =
      if connector = [] then o.text else connector ++ (b₃ ++ o.text) := by
  cases connector with
  | nil =>
      have hnumber := o.stripStart_append []
      rw [List.append_nil] at hnumber
      rw [List.nil_append, ← List.append_assoc, Text.stripStart_append (h₂.append h₃), hnumber,
        if_pos rfl]
  | cons c tail =>
      have hc := properties_of_mem_connectorChars (hconnector.subset List.mem_cons_self)
      rw [Text.stripStart_append h₂, if_neg (List.cons_ne_nil c tail), Text.stripStart_of_first]
      intro d hd
      cases hd
      exact hc.1

/-- Without its connector and the blanks around it, a share ends with its second number. -/
theorem stripStart_dropConnector {connector b₂ b₃ : Text} (hconnector : IsConnector connector)
    (h₂ : AllBlank b₂) (h₃ : AllBlank b₃) (o : Operand) :
    (dropConnector (Text.stripStart (b₂ ++ (connector ++ (b₃ ++ o.text))))).stripStart =
      o.text := by
  have hnumber := o.stripStart_append []
  rw [List.append_nil] at hnumber
  rw [stripStart_connector hconnector h₂ h₃]
  by_cases hnil : connector = []
  · rw [if_pos hnil, dropConnector_operand, hnumber]
  · rw [if_neg hnil, dropConnector_append hconnector hnil, Text.stripStart_append h₃, hnumber]

/-! ## One reading -/

/-- The first number, the mark behind it and what follows are found in one way. -/
theorem append_mark_inj {o o' : Operand} {b b' rest rest' : Text} {c c' : Char} (hb : AllBlank b)
    (hb' : AllBlank b') (hc : IsMark c) (hc' : IsMark c')
    (h : o.text ++ (b ++ c :: rest) = o'.text ++ (b' ++ c' :: rest')) :
    o = o' ∧ c = c' ∧ rest = rest' := by
  have hfirst : ∀ {d : Char} {r : Text}, IsMark d → ∀ e, (d :: r).head? = some e →
      isBlank e = false := by
    intro d r hd e he
    cases he
    exact hd.properties.1
  obtain ⟨ho, hbehind⟩ := Operand.append_inj (endsNumber_mark hb hc) (endsNumber_mark hb' hc') h
  obtain ⟨-, hmarks⟩ := Text.append_inj_of_run hb hb' (hfirst hc) (hfirst hc') hbehind
  exact ⟨ho, List.cons.inj hmarks⟩

/-- A number behind blanks is found in one way. -/
theorem blanks_append_inj {o o' : Operand} {b b' rest rest' : Text} (hb : AllBlank b)
    (hb' : AllBlank b') (hrest : EndsNumber rest) (hrest' : EndsNumber rest')
    (h : b ++ (o.text ++ rest) = b' ++ (o'.text ++ rest')) : o = o' ∧ rest = rest' := by
  obtain ⟨-, htext⟩ := Text.append_inj_of_run hb hb'
    (o.trimmed_text.first_append o.text_ne_nil rest)
    (o'.trimmed_text.first_append o'.text_ne_nil rest') h
  exact Operand.append_inj hrest hrest' htext

/-- Signed percentages are spelled in one way. -/
theorem SpellsSigned.unique {first first' second second' : Operand} {sign sign' : Char} {t : Text}
    (h : SpellsSigned first sign second t) (h' : SpellsSigned first' sign' second' t)
    (hsign : IsMark sign) (hsign' : IsMark sign') :
    first = first' ∧ sign = sign' ∧ second = second' := by
  obtain ⟨h₁, h₂, h₃⟩ := h
  generalize htext : first.text ++ _ = t at h'
  obtain ⟨h₁', h₂', h₃'⟩ := h'
  obtain ⟨hfirst, hmark, hbehind⟩ := append_mark_inj h₁ h₁' hsign hsign' htext
  obtain ⟨hsecond, -⟩ := blanks_append_inj h₂ h₂' (endsNumber_mark h₃ isMark_percent)
    (endsNumber_mark h₃' isMark_percent) hbehind
  exact ⟨hfirst, hmark, hsecond⟩

/-- A connector and a number behind it are found in one way. -/
theorem connector_append_inj {connector connector' b₂ b₃ b₂' b₃' : Text} {o o' : Operand}
    (hconnector : IsConnector connector) (hconnector' : IsConnector connector')
    (h₂ : AllBlank b₂) (h₃ : AllBlank b₃) (h₂' : AllBlank b₂') (h₃' : AllBlank b₃')
    (h : b₂ ++ (connector ++ (b₃ ++ o.text)) = b₂' ++ (connector' ++ (b₃' ++ o'.text))) :
    connector = connector' ∧ o = o' := by
  have hstart := stripStart_connector hconnector h₂ h₃ o
  have hnumber := stripStart_dropConnector hconnector h₂ h₃ o
  rw [h, stripStart_connector hconnector' h₂' h₃'] at hstart
  rw [h, stripStart_dropConnector hconnector' h₂' h₃'] at hnumber
  have htext : o'.text ++ [] = o.text ++ [] := by rw [hnumber]
  obtain ⟨rfl, -⟩ := Operand.append_inj endsNumber_nil endsNumber_nil htext
  refine ⟨?_, rfl⟩
  by_cases hnil : connector = []
  · by_cases hnil' : connector' = []
    · rw [hnil, hnil']
    · -- the text from a connector on is longer than the number alone
      rw [if_pos hnil, if_neg hnil', ← List.append_assoc, List.append_left_eq_self] at hstart
      exact absurd (List.append_eq_nil_iff.mp hstart).1 hnil'
  · by_cases hnil' : connector' = []
    · rw [if_neg hnil, if_pos hnil', ← List.append_assoc, List.self_eq_append_left] at hstart
      exact absurd (List.append_eq_nil_iff.mp hstart).1 hnil
    · rw [if_neg hnil, if_neg hnil', ← List.append_assoc, ← List.append_assoc] at hstart
      have hblank : ∀ {b : Text}, AllBlank b → ∀ c, b.head? = some c → (!isBlank c) = false := by
        intro b hb c hc
        rw [hb c (List.mem_of_mem_head? hc)]
        rfl
      have hfull : ∀ {t : Text}, IsConnector t → ∀ c ∈ t, (!isBlank c) = true := by
        intro t ht c hc
        rw [(properties_of_mem_connectorChars (ht.subset hc)).1]
        rfl
      exact (Text.append_inj_of_run (hfull hconnector') (hfull hconnector) (hblank h₃')
        (hblank h₃) (List.append_cancel_right hstart)).1.symm

/-- Shares are spelled in one way. -/
theorem SpellsShare.unique {first first' second second' : Operand} {connector connector' t : Text}
    (h : SpellsShare first connector second t) (h' : SpellsShare first' connector' second' t)
    (hconnector : IsConnector connector) (hconnector' : IsConnector connector') :
    first = first' ∧ connector = connector' ∧ second = second' := by
  obtain ⟨h₁, h₂, h₃⟩ := h
  generalize htext : first.text ++ _ = t at h'
  obtain ⟨h₁', h₂', h₃'⟩ := h'
  obtain ⟨hfirst, -, hbehind⟩ := append_mark_inj h₁ h₁' isMark_percent isMark_percent htext
  exact ⟨hfirst, connector_append_inj hconnector hconnector' h₂ h₃ h₂' h₃' hbehind⟩

/-- Behind the first number of a share stands a percent sign, and no other. -/
theorem SpellsSigned.sign_of_share {first first' second second' : Operand} {sign : Char}
    {connector t : Text} (h : SpellsSigned first sign second t)
    (h' : SpellsShare first' connector second' t) (hsign : IsMark sign) : sign = '%' := by
  obtain ⟨h₁, -, -⟩ := h
  generalize htext : first.text ++ _ = t at h'
  obtain ⟨h₁', -, -⟩ := h'
  exact (append_mark_inj h₁ h₁' hsign isMark_percent htext).2.1

/-- **A text is spelled by one shape**, and in one way. -/
theorem Spells.unique {s s' : Shape} {t : Text} (h : Spells s t) (h' : Spells s' t) : s = s' := by
  cases h with
  | adjust hsign h =>
      cases h' with
      | adjust hsign' h' =>
          obtain ⟨rfl, rfl, rfl⟩ := h.unique h' (isMark_of_adjust hsign) (isMark_of_adjust hsign')
          rfl
      | share _ h' =>
          rw [h.sign_of_share h' (isMark_of_adjust hsign)] at hsign
          exact absurd hsign (by decide)
      | times hsign' h' =>
          obtain ⟨-, rfl, -⟩ := h.unique h' (isMark_of_adjust hsign) (isMark_of_times hsign')
          revert hsign hsign'
          simp only [List.mem_cons]
          grind
  | share hconnector h =>
      cases h' with
      | adjust hsign' h' =>
          rw [h'.sign_of_share h (isMark_of_adjust hsign')] at hsign'
          exact absurd hsign' (by decide)
      | share hconnector' h' =>
          obtain ⟨rfl, rfl, rfl⟩ := h.unique h' hconnector hconnector'
          rfl
      | times hsign' h' =>
          rw [h'.sign_of_share h (isMark_of_times hsign')] at hsign'
          exact absurd hsign' (by decide)
  | times hsign h =>
      cases h' with
      | adjust hsign' h' =>
          obtain ⟨-, rfl, -⟩ := h.unique h' (isMark_of_times hsign) (isMark_of_adjust hsign')
          revert hsign hsign'
          simp only [List.mem_cons]
          grind
      | share _ h' =>
          rw [h.sign_of_share h' (isMark_of_times hsign)] at hsign
          exact absurd hsign (by decide)
      | times hsign' h' =>
          obtain ⟨rfl, rfl, rfl⟩ := h.unique h' (isMark_of_times hsign) (isMark_of_times hsign')
          rfl

end Percentage

end Tapeline
