import Tapeline.Json.Printer
import Tapeline.Proofs.Json.Grammar
import Tapeline.Proofs.Json.Members
import Tapeline.Proofs.Text.DecimalLayout

/-!
# JSON on one line

A value that is made of null, truth values, integers of a readable length, texts, lists and objects
is written on one line in such a way that the line reads back as the value (`readWithin_line`), and
no character of the line is a control (`noControl_line`).  The line is shown to be a text of the
grammar: strings, integers and containers have a lemma each, and the value follows by induction on
what it is made of (`writes_line`).
-/

namespace Tapeline

namespace Text

/-- Only the digits of zero start with a zero. -/
theorem eq_zero_of_head?_ofNat {n : Nat} (h : (ofNat n).head? = some '0') : n = 0 := by
  induction n using Nat.strongRecOn with
  | ind n ih =>
      by_cases hsmall : n < 10
      · have hdigit : ∀ d < 10, d.digitChar = '0' → d = 0 := by decide
        rw [ofNat, Nat.toDigits_of_lt_base hsmall] at h
        exact hdigit n hsmall (Option.some.inj h)
      · have hlarge : 10 ≤ n := by omega
        obtain ⟨d, ds, hfront⟩ := List.exists_cons_of_ne_nil (ofNat_ne_nil (n / 10))
        rw [ofNat, Nat.toDigits_of_base_le (by decide) hlarge, ← ofNat, hfront] at h
        have hzero := ih (n / 10) (by omega) (by rw [hfront]; exact h)
        omega

end Text

namespace Json

/-! ## Values that last -/

/-- A value that reads back as it was written: null, a truth value, an integer of a readable length,
a text, or a list or an object of such values, where an object names no member twice. -/
inductive Lasting : Json → Prop where
  | null : Lasting .null
  | boolean (b : Bool) : Lasting (.boolean b)
  | integer {n : Int} (h : (Text.ofNat n.natAbs).length ≤ maxIntegerDigits) : Lasting (.integer n)
  | text (t : Text) : Lasting (.text t)
  | list {items : List Json} (h : ∀ item ∈ items, Lasting item) : Lasting (.list items)
  | object {members : List (Text × Json)} (hnames : (members.map (·.1)).Nodup)
      (h : ∀ m ∈ members, Lasting m.2) : Lasting (.object members)

mutual

/-- How deep arrays and objects nest in a value. -/
def nesting : Json → Nat
  | null => 0
  | boolean _ => 0
  | integer _ => 0
  | number _ => 0
  | text _ => 0
  | list items => nestingOfItems items + 1
  | object members => nestingOfMembers members + 1

/-- How deep arrays and objects nest in the items of a list. -/
def nestingOfItems : List Json → Nat
  | [] => 0
  | item :: items => max (nesting item) (nestingOfItems items)

/-- How deep arrays and objects nest in the members of an object. -/
def nestingOfMembers : List (Text × Json) → Nat
  | [] => 0
  | (_, value) :: members => max (nesting value) (nestingOfMembers members)

end

/-- A list nests deeper than its items. -/
theorem nesting_le_items {item : Json} {items : List Json} (h : item ∈ items) :
    item.nesting ≤ nestingOfItems items := by
  induction items with
  | nil => cases h
  | cons first items ih =>
      rw [nestingOfItems]
      cases List.mem_cons.mp h with
      | inl heq =>
          rw [heq]
          exact Nat.le_max_left _ _
      | inr hmem => exact Nat.le_trans (ih hmem) (Nat.le_max_right _ _)

/-- An object nests deeper than the values of its members. -/
theorem nesting_le_members {m : Text × Json} {members : List (Text × Json)} (h : m ∈ members) :
    m.2.nesting ≤ nestingOfMembers members := by
  induction members with
  | nil => cases h
  | cons first members ih =>
      rw [nestingOfMembers]
      cases List.mem_cons.mp h with
      | inl heq =>
          rw [heq]
          exact Nat.le_max_left _ _
      | inr hmem => exact Nat.le_trans (ih hmem) (Nat.le_max_right _ _)

/-- Members nest no deeper than a bound for all their values. -/
theorem nestingOfMembers_le {members : List (Text × Json)} {depth : Nat}
    (h : ∀ m ∈ members, m.2.nesting ≤ depth) : nestingOfMembers members ≤ depth := by
  induction members with
  | nil => exact Nat.zero_le depth
  | cons m members ih =>
      obtain ⟨hm, hmembers⟩ := List.forall_mem_cons.mp h
      exact Nat.max_le.mpr ⟨hm, ih hmembers⟩

/-! ## Integers -/

/-- An integer as a number that is written. -/
def integerNumber (n : Int) : NumberText :=
  ((Literal.ofDigits (Text.allDigits_ofNat n.natAbs) (Text.ofNat_ne_nil _)).signed
    (n < 0)).toNumber

/-- An integer is written as its number. -/
theorem text_integerNumber (n : Int) : (integerNumber n).text = Text.ofInt n := by
  rw [integerNumber, Literal.text_toNumber, Literal.text_signed, Literal.unsigned_ofDigits,
    Text.ofInt]
  by_cases hn : n < 0
  · simp [hn]
  · simp [hn]

theorem isNumber_integerNumber (n : Int) : IsNumber (integerNumber n) where
  no_plus := by
    by_cases hn : n < 0 <;> simp [integerNumber, Literal.toNumber, Literal.signed, hn]
  whole_ascii := fun c hc => Text.isDigit_of_mem_ofNat hc
  has_whole := Text.ofNat_ne_nil _
  no_zero := by
    intro rest hrest
    have hwhole : Text.ofNat n.natAbs = '0' :: rest := hrest
    have hzero := Text.eq_zero_of_head?_ofNat (by rw [hwhole]; rfl)
    rw [hzero] at hwhole
    exact (List.cons.inj hwhole).2.symm
  places_ascii := by
    intro t ht
    cases ht
  exponent_ascii := by
    intro x hx
    cases hx

/-- An integer of a readable length is written in its digits. -/
theorem writesNumber_ofInt {n : Int}
    (h : (Text.ofNat n.natAbs).length ≤ maxIntegerDigits) :
    WritesNumber (.integer n) (Text.ofInt n) := by
  have hvalue : integerValue (integerNumber n) = n := by
    have hwhole : numberOf (integerNumber n).mantissa.whole = n.natAbs :=
      Text.numberOf_ofNat n.natAbs
    have hsign : (integerNumber n).mantissa.isNegative = decide (n < 0) := by
      by_cases hn : n < 0 <;>
        simp [integerNumber, Literal.toNumber, Literal.signed, Literal.isNegative, hn]
    rw [integerValue, hwhole, hsign]
    by_cases hn : n < 0
    · rw [if_pos (by simpa using hn)]
      omega
    · rw [if_neg (by simpa using hn)]
      omega
  have hwritten := WritesNumber.integer (isNumber_integerNumber n) ⟨rfl, rfl⟩ h
  rwa [hvalue, text_integerNumber] at hwritten

/-! ## Strings -/

/-- A character is no half of a code point. -/
theorem not_surrogate (c : Char) :
    isHighSurrogate c.toNat = false ∧ isLowSurrogate c.toNat = false := by
  have hvalid : c.toNat < 0xD800 ∨ 0xDFFF < c.toNat ∧ c.toNat < 0x110000 := c.valid
  simp only [isHighSurrogate, isLowSurrogate, Bool.and_eq_false_iff, decide_eq_false_iff_not]
  omega

/-- A character is that of its code point. -/
theorem charOf_toNat (c : Char) : Text.charOf c.toNat = c := by
  have hvalid : c.toNat < 0xD800 ∨ 0xDFFF < c.toNat ∧ c.toNat < 0x110000 := c.valid
  have hhalf : (0xD800 ≤ c.toNat && c.toNat < 0xE000) = false := by
    simp only [Bool.and_eq_false_iff, decide_eq_false_iff_not]
    omega
  rw [Text.charOf, hhalf, if_neg Bool.false_ne_true, Char.ofNat_toNat]

/-- The code points of a text are joined to the same text. -/
theorem joinUnits_toNat (t : Text) : joinUnits (t.map Char.toNat) = t := by
  induction t with
  | nil => rfl
  | cons c t ih =>
      cases t with
      | nil => simp [joinUnits, charOf_toNat]
      | cons d t =>
          rw [List.map_cons, List.map_cons, joinUnits, (not_surrogate c).1, Bool.false_and,
            if_neg Bool.false_ne_true, charOf_toNat]
          exact congrArg (c :: ·) ih

/-- A control is written in four hexadecimal digits. -/
theorem exists_hex_control {n : Nat} (h : n < 0x20) :
    ∃ a b c d, Text.hex 4 n = [a, b, c, d] ∧ hexUnit? a b c d = some n := by
  have hcontrols : ∀ n < 0x20, (Text.hex 4 n).length = 4 ∧ hexValue? (Text.hex 4 n) = some n := by
    decide
  obtain ⟨hlength, hvalue⟩ := hcontrols n h
  match hhex : Text.hex 4 n, hlength with
  | [a, b, c, d], _ =>
      rw [hhex] at hvalue
      exact ⟨a, b, c, d, rfl, hvalue⟩

/-- A character is written as itself, behind a backslash, or by its code point. -/
theorem unitsText_charText (c : Char) {units : List Nat} {t : Text} (ht : UnitsText units t) :
    UnitsText (c.toNat :: units) (charText false c ++ t) := by
  unfold charText
  split
  · rename_i hmark
    simp only [Bool.or_eq_true, decide_eq_true_eq] at hmark
    cases hmark with
    | inl hc =>
        rw [hc]
        exact .escape rfl ht
    | inr hc =>
        rw [hc]
        exact .escape rfl ht
  · rename_i hmark
    simp only [Bool.or_eq_true, decide_eq_true_eq, not_or] at hmark
    split
    · rename_i hc
      rw [hc]
      exact .escape rfl ht
    split
    · rename_i hc
      rw [hc]
      exact .escape rfl ht
    split
    · rename_i hc
      rw [hc]
      exact .escape rfl ht
    split
    · rename_i hc
      rw [hc]
      exact .escape rfl ht
    split
    · rename_i hc
      rw [hc]
      exact .escape rfl ht
    split
    · rename_i hcontrol
      obtain ⟨a, b, x, d, hhex, hunit⟩ := exists_hex_control hcontrol
      rw [unitText, hhex]
      exact .hex hunit ht
    · rename_i hprints
      rw [Bool.false_and, if_neg Bool.false_ne_true]
      exact .plain hmark.1 hmark.2 (Nat.le_of_not_lt hprints) ht

/-- A text is written between marks. -/
theorem stringText_line (t : Text) :
    ∃ u, stringText false t = '\x22' :: u ∧ StringText t u := by
  have hunits : UnitsText (t.map Char.toNat) (t.flatMap (charText false)) := by
    induction t with
    | nil => exact .nil
    | cons c t ih => exact unitsText_charText c ih
  have hstring := StringText.intro hunits
  rw [joinUnits_toNat] at hstring
  exact ⟨_, rfl, hstring⟩

/-! ## Items with a comma and a blank between them -/

theorem allSpace_blank : AllSpace [' '] := by
  intro c hc
  rw [List.mem_singleton.mp hc]
  rfl

section

variable {α : Type} {Writes : α → Text → Prop} {closing : Char} {write : α → Text}

/-- What is written with commas between is a list of what is written. -/
theorem listed_intercalate {xs : List α} (hne : xs ≠ []) (h : ∀ x ∈ xs, Writes x (write x)) :
    Listed Writes xs ([',', ' '].intercalate (xs.map write)) := by
  induction xs with
  | nil => exact absurd rfl hne
  | cons x xs ih =>
      have hx := h x List.mem_cons_self
      have htail := fun y hy => h y (List.mem_cons_of_mem x hy)
      cases xs with
      | nil =>
          have hlast := Listed.last hx allSpace_nil
          rw [List.append_nil] at hlast
          simpa using hlast
      | cons y ys =>
          have hmore := Listed.more hx allSpace_nil allSpace_blank (ih (by simp) htail)
          rw [List.map_cons, List.map_cons, List.intercalate_cons_cons, List.append_assoc]
          exact hmore

/-- Items with a comma and a blank between them fill a container up to its closing mark. -/
theorem enclosed_intercalate {xs : List α} (h : ∀ x ∈ xs, Writes x (write x)) :
    Enclosed closing Writes xs ([',', ' '].intercalate (xs.map write) ++ [closing]) := by
  cases xs with
  | nil => exact .empty allSpace_nil
  | cons x xs => exact .filled allSpace_nil (listed_intercalate (List.cons_ne_nil _ _) h)

end

/-- A member on one line. -/
def memberLine (depth : Nat) (m : Text × Json) : Text :=
  stringText false m.1 ++ [':', ' '] ++ textAt .line depth m.2

/-- The items of a list on one line have a comma and a space between them. -/
theorem itemsText_line (depth : Nat) (items : List Json) : ∀ first : Text,
    first ++ itemsText .line depth items =
      [',', ' '].intercalate (first :: items.map (textAt .line depth)) := by
  induction items with
  | nil =>
      intro first
      simp [itemsText]
  | cons item items ih =>
      intro first
      rw [List.map_cons, List.intercalate_cons_cons, ← ih, itemsText]
      simp [Layout.separator, Layout.line]

/-- The members of an object on one line have a comma and a space between them. -/
theorem membersText_line (depth : Nat) (members : List (Text × Json)) : ∀ first : Text,
    first ++ membersText .line depth members =
      [',', ' '].intercalate (first :: members.map (memberLine depth)) := by
  induction members with
  | nil =>
      intro first
      simp [membersText]
  | cons m members ih =>
      intro first
      rw [List.map_cons, List.intercalate_cons_cons, ← ih, membersText, memberLine]
      simp [Layout.separator, Layout.line]

/-- A list on one line. -/
theorem textAt_line_list (depth : Nat) (items : List Json) :
    textAt .line depth (.list items) =
      '[' :: ([',', ' '].intercalate (items.map (textAt .line (depth + 1))) ++ [']']) := by
  cases items with
  | nil => rfl
  | cons item items =>
      rw [List.map_cons, ← itemsText_line, textAt]
      simp [Layout.lineBreak, Layout.line]

/-- An object on one line. -/
theorem textAt_line_object (depth : Nat) (members : List (Text × Json)) :
    textAt .line depth (.object members) =
      '\x7b' :: ([',', ' '].intercalate (members.map (memberLine (depth + 1))) ++ ['\x7d']) := by
  cases members with
  | nil => rfl
  | cons m members =>
      rw [List.map_cons, ← membersText_line, textAt, memberLine]
      simp [Layout.lineBreak, Layout.line]

/-! ## Values -/

/-- A member on one line is a text of the member. -/
theorem memberText_line {depth level : Nat} {m : Text × Json}
    (h : Writes depth m.2 (textAt .line level m.2)) :
    MemberText (Writes depth) m (memberLine level m) := by
  obtain ⟨u, hu, hstring⟩ := stringText_line m.1
  have hmember := MemberText.intro (NameText.intro hstring allSpace_nil allSpace_blank) h
  rw [memberLine, hu]
  simpa using hmember

/-- **On one line** a value that lasts is a text of that value. -/
theorem writes_line {v : Json} (h : Lasting v) :
    ∀ {depth : Nat}, v.nesting ≤ depth → ∀ level, Writes depth v (textAt .line level v) := by
  -- what is no container is written alike at every depth
  have hscalar : ∀ {v : Json} {t : Text}, (∀ A O, ValueText A O v t) →
      ∀ depth, Writes depth v t := by
    intro v t hvalue depth
    cases depth with
    | zero => exact hvalue _ _
    | succ depth => exact hvalue _ _
  induction h with
  | null =>
      intro depth _ level
      exact hscalar (fun _ _ => .word (by simp [words, textAt])) depth
  | boolean b =>
      intro depth _ level
      cases b with
      | false => exact hscalar (fun _ _ => .word (by simp [words, textAt])) depth
      | true => exact hscalar (fun _ _ => .word (by simp [words, textAt])) depth
  | integer hshort =>
      intro depth _ level
      exact hscalar (fun _ _ => .number (writesNumber_ofInt hshort)) depth
  | text t =>
      intro depth _ level
      obtain ⟨u, hu, hstring⟩ := stringText_line t
      rw [show textAt .line level (.text t) = stringText false t from rfl, hu]
      exact hscalar (fun _ _ => .string hstring) depth
  | @list items _ ih =>
      intro depth hdepth level
      rw [nesting] at hdepth
      obtain ⟨depth, rfl⟩ := Nat.exists_eq_add_one.mpr (Nat.zero_lt_of_lt hdepth)
      have hitems : ∀ item ∈ items, Writes depth item (textAt .line (level + 1) item) := by
        intro item hitem
        have hle := nesting_le_items hitem
        exact ih item hitem (by omega) (level + 1)
      rw [textAt_line_list]
      exact .array ⟨items, rfl, enclosed_intercalate hitems⟩
  | @object members hnames _ ih =>
      intro depth hdepth level
      rw [nesting] at hdepth
      obtain ⟨depth, rfl⟩ := Nat.exists_eq_add_one.mpr (Nat.zero_lt_of_lt hdepth)
      have hmembers : ∀ m ∈ members, MemberText (Writes depth) m (memberLine (level + 1) m) := by
        intro m hm
        have hle := nesting_le_members hm
        exact memberText_line (ih m hm (by omega) (level + 1))
      rw [textAt_line_object]
      refine .object ⟨members, ?_, enclosed_intercalate hmembers⟩
      rw [putAll_of_nodup (by simpa using hnames), List.nil_append]

/-! ## Reading a line -/

/-- The value that a whole text is, with arrays and objects nested at most `depth` deep. -/
def readWithin (depth : Nat) (t : Text) : Except ReadError Json := do
  let (value, rest) ← readValue depth (skipSpace t)
  if (skipSpace rest).isEmpty then return value else throw .malformed

/-- The reader is the one of its own limit. -/
theorem read_eq_readWithin (t : Text) : read t = readWithin depthLimit t :=
  rfl

/-- **A line reads back** as the value that was written, wherever it may nest so deep. -/
theorem readWithin_line {v : Json} (h : Lasting v) {depth : Nat} (hdepth : v.nesting ≤ depth) :
    readWithin depth (print .line v) = .ok v := by
  have htakes := readValue_takes depth
  have hwrites := writes_line h hdepth 0
  have hread := htakes.taken hwrites (endsItem_allSpace allSpace_nil)
  have hskip := skipSpace_append allSpace_nil (htakes.starts_of_writes hwrites).noSpaceAhead
  rw [List.append_nil] at hread
  rw [List.nil_append] at hskip
  rw [readWithin, print, hskip, hread]
  rfl

/-! ## No controls -/

/-- No character that is a control. -/
def NoControl (t : Text) : Prop :=
  ∀ c ∈ t, 0x20 ≤ c.toNat

theorem noControl_of_all {t : Text} (h : t.all (fun c => decide (0x20 ≤ c.toNat)) = true) :
    NoControl t := by
  intro c hc
  exact of_decide_eq_true (List.all_eq_true.mp h c hc)

theorem NoControl.append {t u : Text} (ht : NoControl t) (hu : NoControl u) :
    NoControl (t ++ u) := by
  intro c hc
  cases List.mem_append.mp hc with
  | inl h => exact ht c h
  | inr h => exact hu c h

/-- Commas and spaces bring in no control. -/
theorem noControl_intercalate {ts : List Text} (h : ∀ t ∈ ts, NoControl t) :
    NoControl ([',', ' '].intercalate ts) := by
  induction ts with
  | nil =>
      intro c hc
      cases hc
  | cons t ts ih =>
      have ht := h t List.mem_cons_self
      cases ts with
      | nil =>
          rw [List.intercalate_singleton]
          exact ht
      | cons u us =>
          have hsep : NoControl [',', ' '] := noControl_of_all (by decide)
          rw [List.intercalate_cons_cons]
          exact (ht.append hsep).append (ih fun v hv => h v (List.mem_cons_of_mem t hv))

/-- What is behind an opening mark and in front of a closing one. -/
theorem NoControl.enclosed {t : Text} (ht : NoControl t) {first last : Char}
    (hfirst : 0x20 ≤ first.toNat) (hlast : 0x20 ≤ last.toNat) :
    NoControl (first :: (t ++ [last])) := by
  intro c hc
  cases List.mem_cons.mp hc with
  | inl heq =>
      rw [heq]
      exact hfirst
  | inr hmem =>
      cases List.mem_append.mp hmem with
      | inl h => exact ht c h
      | inr h =>
          rw [List.mem_singleton.mp h]
          exact hlast

/-- A character is written without controls, as an escape if it is one. -/
theorem noControl_charText (c : Char) : NoControl (charText false c) := by
  have hletter : ∀ d : Char, 0x20 ≤ d.toNat → NoControl ['\\', d] := by
    intro d hd x hx
    simp only [List.mem_cons, List.not_mem_nil, or_false] at hx
    cases hx with
    | inl hslash =>
        rw [hslash]
        decide
    | inr heq =>
        rw [heq]
        exact hd
  unfold charText
  split
  · rename_i hmark
    simp only [Bool.or_eq_true, decide_eq_true_eq] at hmark
    cases hmark with
    | inl hc =>
        rw [hc]
        exact hletter _ (by decide)
    | inr hc =>
        rw [hc]
        exact hletter _ (by decide)
  split
  · exact hletter _ (by decide)
  split
  · exact hletter _ (by decide)
  split
  · exact hletter _ (by decide)
  split
  · exact hletter _ (by decide)
  split
  · exact hletter _ (by decide)
  split
  · rename_i hcontrol
    have hhex : ∀ n < 0x20, (Text.hex 4 n).all (fun x => decide (0x20 ≤ x.toNat)) = true := by
      decide
    apply NoControl.append
    · exact hletter 'u' (by decide)
    · exact noControl_of_all (hhex c.toNat hcontrol)
  · rename_i hprints
    rw [Bool.false_and, if_neg Bool.false_ne_true]
    intro x hx
    rw [List.mem_singleton.mp hx]
    exact Nat.le_of_not_lt hprints

/-- A string is written without controls. -/
theorem noControl_stringText (t : Text) : NoControl (stringText false t) := by
  have hbody : NoControl (t.flatMap (charText false)) := by
    intro x hx
    obtain ⟨c, _, hmem⟩ := List.mem_flatMap.mp hx
    exact noControl_charText c x hmem
  exact hbody.enclosed (by decide) (by decide)

theorem noControl_ofInt (n : Int) : NoControl (Text.ofInt n) := by
  have hdigits : NoControl (Text.ofNat n.natAbs) := by
    intro c hc
    have hdigit := Text.isDigit_of_mem_ofNat hc
    simp only [Char.isDigit, Bool.and_eq_true, decide_eq_true_eq] at hdigit
    exact Nat.le_trans (by decide) hdigit.1
  have hsign : NoControl ['-'] := by
    intro c hc
    rw [List.mem_singleton.mp hc]
    decide
  unfold Text.ofInt
  split
  · exact hsign.append hdigits
  · exact hdigits

/-- **No character of a line is a control**: a control within a text is always escaped. -/
theorem noControl_line {v : Json} (h : Lasting v) : ∀ level, NoControl (textAt .line level v) := by
  induction h with
  | null =>
      intro level
      rw [textAt]
      exact noControl_of_all (by decide)
  | boolean b =>
      intro level
      rw [textAt]
      apply noControl_of_all
      cases b <;> decide
  | integer _ =>
      intro level
      rw [textAt]
      exact noControl_ofInt _
  | text t =>
      intro level
      rw [textAt]
      exact noControl_stringText t
  | list _ ih =>
      intro level
      rw [textAt_line_list]
      apply NoControl.enclosed
      · apply noControl_intercalate
        intro t ht
        obtain ⟨item, hitem, rfl⟩ := List.mem_map.mp ht
        exact ih item hitem (level + 1)
      · decide
      · decide
  | object _ _ ih =>
      intro level
      have hcolon : NoControl [':', ' '] := noControl_of_all (by decide)
      rw [textAt_line_object]
      apply NoControl.enclosed
      · apply noControl_intercalate
        intro t ht
        obtain ⟨m, hm, rfl⟩ := List.mem_map.mp ht
        exact ((noControl_stringText m.1).append hcolon).append (ih m hm (level + 1))
      · decide
      · decide

end Json

end Tapeline
