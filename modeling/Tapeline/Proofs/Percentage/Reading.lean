import Mathlib.Tactic.Ring
import Tapeline.Proofs.Percentage.Shapes

/-!
# Reading a percentage

Each reader takes the texts of its shape and no other trimmed texts (`readSigned?_eq_some_iff`,
`readShare?_eq_some_iff`).  Since a text is spelled in one way only, the order in which the readers
are tried does not matter, and a stripped text is a percentage just if it is spelled by a shape
(`read?_shapes`).

The number that the percent sign belongs to is the rate where it stands last.  Where it stands
between the numbers, the half of the text that it stands in decides.  In exact arithmetic this makes
no difference: both choices come to the product of the numbers over one hundred (`shareIn_exact`).
-/

namespace Tapeline

namespace Percentage

/-! ## Taking the parts -/

/-- A sign is taken with the blanks in front of it. -/
theorem takeSign?_append {signs : List Char} {b rest : Text} {c : Char} (hb : AllBlank b)
    (hc : c ∈ signs) (hmark : IsMark c) : takeSign? signs (b ++ c :: rest) = some (c, rest) := by
  have hstart : Text.stripStart (c :: rest) = c :: rest := by
    apply Text.stripStart_of_first
    intro d hd
    cases hd
    exact hmark.properties.1
  unfold takeSign?
  rw [Text.stripStart_append hb, hstart]
  simp [hc]

/-- A sign that is taken has only blanks in front of it. -/
theorem exists_of_takeSign? {signs : List Char} {t rest : Text} {c : Char}
    (h : takeSign? signs t = some (c, rest)) :
    c ∈ signs ∧ ∃ b, AllBlank b ∧ t = b ++ c :: rest := by
  have hsplit : t = t.takeWhile isBlank ++ t.stripStart := List.takeWhile_append_dropWhile.symm
  unfold takeSign? at h
  split at h
  · rename_i d after heq
    split at h
    · rename_i hmem
      cases h
      rw [heq] at hsplit
      exact ⟨List.contains_iff_mem.mp hmem, _, fun c hc => List.mem_takeWhile_imp hc, hsplit⟩
    · cases h
  · cases h

/-- A number is taken with the blanks in front of it. -/
theorem takeNext?_append {o : Operand} {b rest : Text} (hb : AllBlank b)
    (hrest : EndsNumber rest) : takeNext? (b ++ (o.text ++ rest)) = some (o.value, rest) := by
  rw [takeNext?, Text.stripStart_append hb, o.stripStart_append, Operand.takeNumber?_text hrest]

/-- A number that is taken is an operand with only blanks in front of it. -/
theorem exists_of_takeNext? {t rest : Text} {x : Binary64} (h : takeNext? t = some (x, rest)) :
    ∃ (o : Operand) (b : Text), AllBlank b ∧ t = b ++ (o.text ++ rest) ∧ x = o.value := by
  have hsplit : t = t.takeWhile isBlank ++ t.stripStart := List.takeWhile_append_dropWhile.symm
  obtain ⟨o, htext, hx⟩ := Operand.exists_operand h
  rw [htext] at hsplit
  exact ⟨o, _, fun c hc => List.mem_takeWhile_imp hc, hsplit, hx⟩

/-- No line break is left at the end of a trimmed text. -/
theorem isEnd_of_trimmed {t rest : Text} (ht : t.Trimmed) (lead : Text) (h : t = lead ++ rest) :
    isEnd rest = true ↔ rest = [] := by
  constructor
  · intro hend
    unfold isEnd at hend
    by_contra hne
    have hbreak : rest = ['\n'] := by simpa [hne] using hend
    have hblank := ht.last '\n' (by rw [h, hbreak]; simp)
    exact absurd hblank (by decide)
  · intro hnil
    rw [hnil]
    rfl

/-! ## The readers -/

/-- **Signed percentages** are read as their numbers, and no other trimmed texts are. -/
theorem readSigned?_eq_some_iff {signs : List Char} (hsigns : ∀ c ∈ signs, IsMark c) {t : Text}
    (ht : t.Trimmed) {x y : Binary64} {sign : Char} :
    readSigned? signs t = some (x, sign, y) ↔ sign ∈ signs ∧
      ∃ first second, SpellsSigned first sign second t ∧ x = first.value ∧ y = second.value := by
  constructor
  · intro h
    obtain ⟨⟨x', r₁⟩, hfirst, hbehindFirst⟩ := Option.bind_eq_some_iff.mp h
    obtain ⟨⟨sign', r₂⟩, hsign, hbehindSign⟩ := Option.bind_eq_some_iff.mp hbehindFirst
    obtain ⟨⟨y', r₃⟩, hsecond, hbehindSecond⟩ := Option.bind_eq_some_iff.mp hbehindSign
    obtain ⟨⟨c, r₄⟩, hlast, hread⟩ := Option.bind_eq_some_iff.mp hbehindSecond
    obtain ⟨first, rfl, rfl⟩ := Operand.exists_operand hfirst
    obtain ⟨hmem, b₁, h₁, rfl⟩ := exists_of_takeSign? hsign
    obtain ⟨second, b₂, h₂, rfl, rfl⟩ := exists_of_takeNext? hsecond
    obtain ⟨hc, b₃, h₃, rfl⟩ := exists_of_takeSign? hlast
    obtain rfl := List.mem_singleton.mp hc
    dsimp only at hread
    split at hread
    · rename_i hend
      cases hread
      have hnil : r₄ = [] := (isEnd_of_trimmed ht
        (first.text ++ (b₁ ++ sign :: (b₂ ++ (second.text ++ (b₃ ++ ['%']))))) (by simp)).mp hend
      rw [hnil]
      exact ⟨hmem, first, second, .intro h₁ h₂ h₃, rfl, rfl⟩
    · cases hread
  · intro h
    obtain ⟨hmem, first, second, ⟨h₁, h₂, h₃⟩, rfl, rfl⟩ := h
    have hmark := hsigns sign hmem
    unfold readSigned?
    simp only [Option.bind_eq_bind, Operand.takeNumber?_text (endsNumber_mark h₁ hmark),
      takeSign?_append h₁ hmem hmark, takeNext?_append h₂ (endsNumber_mark h₃ isMark_percent),
      takeSign?_append h₃ (List.mem_singleton_self '%') isMark_percent, Option.bind_some]
    rfl

/-- **Shares** are read as their numbers, and no other trimmed texts are. -/
theorem readShare?_eq_some_iff {t : Text} (ht : t.Trimmed) {x y : Binary64} :
    readShare? t = some (x, y) ↔ ∃ first connector second, IsConnector connector ∧
      SpellsShare first connector second t ∧ x = first.value ∧ y = second.value := by
  constructor
  · intro h
    obtain ⟨⟨x', r₁⟩, hfirst, hbehindFirst⟩ := Option.bind_eq_some_iff.mp h
    obtain ⟨⟨c, r₂⟩, hmiddle, hbehindMark⟩ := Option.bind_eq_some_iff.mp hbehindFirst
    obtain ⟨⟨y', r₃⟩, hsecond, hread⟩ := Option.bind_eq_some_iff.mp hbehindMark
    obtain ⟨first, rfl, rfl⟩ := Operand.exists_operand hfirst
    obtain ⟨hc, b₁, h₁, rfl⟩ := exists_of_takeSign? hmiddle
    obtain rfl := List.mem_singleton.mp hc
    have hsplit : r₂ = r₂.takeWhile isBlank ++ r₂.stripStart :=
      List.takeWhile_append_dropWhile.symm
    obtain ⟨connector, hconnector, hbehind⟩ := exists_connector r₂.stripStart
    obtain ⟨second, b₃, h₃, hdrop, rfl⟩ := exists_of_takeNext? hsecond
    rw [hbehind, hdrop] at hsplit
    have hblank : AllBlank (r₂.takeWhile isBlank) := fun c hc => List.mem_takeWhile_imp hc
    generalize r₂.takeWhile isBlank = b₂ at hsplit hblank
    subst hsplit
    dsimp only at hread
    split at hread
    · rename_i hend
      cases hread
      have hnil : r₃ = [] := (isEnd_of_trimmed ht
        (first.text ++ (b₁ ++ '%' :: (b₂ ++ (connector ++ (b₃ ++ second.text))))) (by simp)).mp hend
      rw [hnil, List.append_nil]
      exact ⟨first, connector, second, hconnector, .intro h₁ hblank h₃, rfl, rfl⟩
    · cases hread
  · intro h
    obtain ⟨first, connector, second, hconnector, ⟨h₁, h₂, h₃⟩, rfl, rfl⟩ := h
    rename_i b₁ b₂ b₃
    have hnext : takeNext? (dropConnector
        (Text.stripStart (b₂ ++ (connector ++ (b₃ ++ second.text))))) = some (second.value, []) := by
      rw [takeNext?, stripStart_dropConnector hconnector h₂ h₃]
      simpa using Operand.takeNumber?_text (o := second) endsNumber_nil
    unfold readShare?
    simp only [Option.bind_eq_bind, Operand.takeNumber?_text (endsNumber_mark h₁ isMark_percent),
      takeSign?_append h₁ (List.mem_singleton_self '%') isMark_percent, hnext, Option.bind_some]
    rfl

/-! ## The value -/

/-- The share that a percentage is of a base, in the arithmetic of any numbers. -/
def shareIn {α : Type} [Mul α] [Div α] (hundred percent base : α) : α :=
  percent / hundred * base

/-- In exact arithmetic it does not matter which number is the percentage. -/
theorem shareIn_exact (percent base : ℚ) :
    shareIn 100 percent base = percent * base / 100 ∧
      shareIn 100 percent base = base * percent / 100 := by
  unfold shareIn
  constructor <;> ring

/-- The percent sign stands in the first half of the text. -/
def PercentEarly (t : Text) : Prop :=
  2 * (t.takeWhile (· != '%')).length < t.length

instance (t : Text) : Decidable (PercentEarly t) :=
  inferInstanceAs (Decidable (_ < _))

/-- An early percent sign makes the first number the percentage. -/
theorem shareOf_early {t : Text} (h : PercentEarly t) (x y : Binary64) :
    shareOf t x y = ⟨shareIn hundred x y, .percentOf, x, y⟩ := by
  unfold PercentEarly at h
  simp only [shareOf, if_pos h, shareIn]

/-- Without an early percent sign the second number is the percentage. -/
theorem shareOf_late {t : Text} (h : ¬ PercentEarly t) (x y : Binary64) :
    shareOf t x y = ⟨shareIn hundred y x, .percentOf, y, x⟩ := by
  unfold PercentEarly at h
  simp only [shareOf, if_neg h, shareIn]

/-- The percent sign of a signed percentage stands last. -/
theorem SpellsSigned.not_percentEarly {first second : Operand} {sign : Char} {t : Text}
    (h : SpellsSigned first sign second t) (hsign : IsMark sign) (hpercent : sign ≠ '%') :
    ¬ PercentEarly t := by
  obtain ⟨h₁, h₂, h₃⟩ := h
  rename_i b₁ b₂ b₃
  have hnumber : ∀ (o : Operand), ∀ c ∈ o.text, (c != '%') = true := by
    intro o c hc
    have hnot : '%' ∉ o.text := o.digitsWith_text.not_mem (by decide) (by decide)
    simp only [bne_iff_ne, ne_eq]
    exact fun heq => hnot (heq ▸ hc)
  have hblank : ∀ {b : Text}, AllBlank b → ∀ c ∈ b, (c != '%') = true := by
    intro b hb c hc
    simp only [bne_iff_ne, ne_eq]
    intro heq
    have hpercentBlank := hb c hc
    rw [heq] at hpercentBlank
    exact absurd hpercentBlank (by decide)
  have hbefore : ∀ c ∈ first.text ++ (b₁ ++ sign :: (b₂ ++ (second.text ++ b₃))),
      (c != '%') = true := by
    intro c hc
    simp only [List.mem_append, List.mem_cons] at hc
    obtain hc | hc | rfl | hc | hc | hc := hc
    · exact hnumber first c hc
    · exact hblank h₁ c hc
    · simpa using hpercent
    · exact hblank h₂ c hc
    · exact hnumber second c hc
    · exact hblank h₃ c hc
  have hsplit : first.text ++ (b₁ ++ sign :: (b₂ ++ (second.text ++ (b₃ ++ ['%'])))) =
      (first.text ++ (b₁ ++ sign :: (b₂ ++ (second.text ++ b₃)))) ++ ['%'] := by simp
  have hlong : 0 < first.text.length := List.length_pos_iff.mpr first.text_ne_nil
  unfold PercentEarly
  rw [hsplit, List.takeWhile_append_of_pos hbefore]
  simp only [List.takeWhile_cons, bne_self_eq_false, Bool.false_eq_true, if_false,
    List.length_append, List.length_cons, List.length_nil]
  omega

section Read

variable {t : Text} (ht : t.Trimmed)
include ht

/-- Without a signed spelling nothing signed is read. -/
theorem readSigned?_eq_none {signs : List Char} (hsigns : ∀ c ∈ signs, IsMark c)
    (h : ∀ first sign second, sign ∈ signs → ¬ SpellsSigned first sign second t) :
    readSigned? signs t = none := by
  refine Option.eq_none_iff_forall_not_mem.mpr fun read hread => ?_
  obtain ⟨x, sign, y⟩ := read
  obtain ⟨hsign, first, second, hspells, -⟩ := (readSigned?_eq_some_iff hsigns ht).mp hread
  exact h first sign second hsign hspells

/-- A percentage added or taken away is read as such. -/
theorem read?_adjust {base percent : Operand} {sign : Char}
    (h : Spells (.adjust base sign percent) t) :
    read? t = some (adjusted base.value sign percent.value) := by
  cases h with
  | adjust hsign hspells =>
      have hread : readSigned? ['+', '-'] t = some (base.value, sign, percent.value) :=
        (readSigned?_eq_some_iff (fun _ => isMark_of_adjust) ht).mpr
          ⟨hsign, base, percent, hspells, rfl, rfl⟩
      rw [read?, hread]

/-- A share is read by the place of its percent sign. -/
theorem read?_share {first second : Operand} {connector : Text}
    (h : Spells (.share first connector second) t) :
    read? t = some (shareOf t first.value second.value) := by
  have hadjust : readSigned? ['+', '-'] t = none := by
    apply readSigned?_eq_none ht (fun _ => isMark_of_adjust)
    intro base sign percent hsign hspells
    cases h.unique (.adjust hsign hspells)
  cases h with
  | share hconnector hspells =>
      have hread := (readShare?_eq_some_iff ht).mpr
        ⟨first, connector, second, hconnector, hspells, rfl, rfl⟩
      rw [read?, hadjust, hread]

/-- A product with a percentage is read by the place of its percent sign. -/
theorem read?_times {first second : Operand} {sign : Char}
    (h : Spells (.times first sign second) t) :
    read? t = some (shareOf t first.value second.value) := by
  have hadjust : readSigned? ['+', '-'] t = none := by
    apply readSigned?_eq_none ht (fun _ => isMark_of_adjust)
    intro base sign percent hsign hspells
    cases h.unique (.adjust hsign hspells)
  have hshare : readShare? t = none := by
    refine Option.eq_none_iff_forall_not_mem.mpr fun read hread => ?_
    obtain ⟨first', connector, second', hconnector, hspells, -⟩ :=
      (readShare?_eq_some_iff ht).mp hread
    cases h.unique (.share hconnector hspells)
  cases h with
  | times hsign hspells =>
      have hread : readSigned? ['×', '*'] t = some (first.value, sign, second.value) :=
        (readSigned?_eq_some_iff (fun _ => isMark_of_times) ht).mpr
          ⟨hsign, first, second, hspells, rfl, rfl⟩
      rw [read?, hadjust, hshare, hread]
      rfl

/-- What is read is spelled by a shape. -/
theorem exists_spells {p : Percentage} (h : read? t = some p) : ∃ s, Spells s t := by
  unfold read? at h
  split at h
  · rename_i base sign percent hread
    obtain ⟨hsign, first, second, hspells, -⟩ :=
      (readSigned?_eq_some_iff (fun _ => isMark_of_adjust) ht).mp hread
    exact ⟨_, .adjust hsign hspells⟩
  · split at h
    · rename_i first second hread
      obtain ⟨first, connector, second, hconnector, hspells, -⟩ :=
        (readShare?_eq_some_iff ht).mp hread
      exact ⟨_, .share hconnector hspells⟩
    · obtain ⟨⟨x, sign, y⟩, hread, -⟩ := Option.map_eq_some_iff.mp h
      obtain ⟨hsign, first, second, hspells, -⟩ :=
        (readSigned?_eq_some_iff (fun _ => isMark_of_times) ht).mp hread
      exact ⟨_, .times hsign hspells⟩

/-- **A stripped text is a percentage just if it is spelled by one of the three shapes**, and there
is one way to do so.  A change adds or takes away the percentage of the base.  Of a share the number
in whose half of the text the percent sign stands is the percentage, and of a product it is always
the second; in exact arithmetic both choices come to the product over one hundred. -/
theorem read?_shapes :
    ((∃ p, read? t = some p) ↔ ∃ s, Spells s t) ∧
      (∀ s s', Spells s t → Spells s' t → s = s') ∧
      (∀ base sign percent, Spells (.adjust base sign percent) t → ∃ p, read? t = some p ∧
        p.shape = .adjust ∧ p.base = base.value ∧ p.percent = percent.value ∧
        p.value = if sign = '+' then p.base + p.base * (p.percent / hundred)
          else p.base - p.base * (p.percent / hundred)) ∧
      (∀ first connector second, Spells (.share first connector second) t →
        ∃ percent base : Operand,
          (PercentEarly t ∧ percent = first ∧ base = second ∨
            ¬ PercentEarly t ∧ percent = second ∧ base = first) ∧
          read? t = some ⟨shareIn hundred percent.value base.value, .percentOf, percent.value,
            base.value⟩ ∧
          shareIn 100 percent.exact base.exact = first.exact * second.exact / 100) ∧
      ∀ first sign second, Spells (.times first sign second) t →
        read? t = some ⟨shareIn hundred second.value first.value, .percentOf, second.value,
          first.value⟩ ∧
        shareIn 100 second.exact first.exact = first.exact * second.exact / 100 := by
  refine ⟨⟨?_, ?_⟩, fun s s' => Spells.unique, ?_, ?_, ?_⟩
  · intro hread
    obtain ⟨p, hp⟩ := hread
    exact exists_spells ht hp
  · intro hspells
    obtain ⟨s, hs⟩ := hspells
    cases s with
    | adjust => exact ⟨_, read?_adjust ht hs⟩
    | share => exact ⟨_, read?_share ht hs⟩
    | times => exact ⟨_, read?_times ht hs⟩
  · intro base sign percent hs
    exact ⟨_, read?_adjust ht hs, rfl, rfl, rfl, rfl⟩
  · intro first connector second hs
    rw [read?_share ht hs]
    by_cases hearly : PercentEarly t
    · exact ⟨first, second, Or.inl ⟨hearly, rfl, rfl⟩, by rw [shareOf_early hearly],
        (shareIn_exact _ _).1⟩
    · exact ⟨second, first, Or.inr ⟨hearly, rfl, rfl⟩, by rw [shareOf_late hearly],
        (shareIn_exact _ _).2⟩
  · intro first sign second hs
    have hlate : ¬ PercentEarly t := by
      cases hs with
      | times hsign hspells =>
          apply hspells.not_percentEarly (isMark_of_times hsign)
          intro hpercent
          rw [hpercent] at hsign
          exact absurd hsign (by decide)
    rw [read?_times ht hs, shareOf_late hlate]
    exact ⟨rfl, (shareIn_exact _ _).2⟩

end Read

/-- The sign stands in the first half, so the first number is the percentage. -/
theorem read?_fifteen_of_eighty :
    Text.Trimmed "15% of 80".toList ∧
      Spells (.share (.ofNat 15) "of".toList (.ofNat 80)) "15% of 80".toList ∧
      ∃ percent base : Operand,
        (PercentEarly "15% of 80".toList ∧ percent = .ofNat 15 ∧ base = .ofNat 80 ∨
          ¬ PercentEarly "15% of 80".toList ∧ percent = .ofNat 80 ∧ base = .ofNat 15) ∧
        read? "15% of 80".toList = some ⟨shareIn hundred percent.value base.value, .percentOf,
          percent.value, base.value⟩ ∧
        shareIn 100 percent.exact base.exact =
          (Operand.ofNat 15).exact * (Operand.ofNat 80).exact / 100 := by
  have htrimmed : Text.Trimmed "15% of 80".toList := by
    constructor <;> intro c hc <;> cases hc <;> decide
  have hspells : Spells (.share (.ofNat 15) "of".toList (.ofNat 80)) "15% of 80".toList := by
    have hspace : AllBlank [' '] := by
      intro c hc
      rw [List.mem_singleton.mp hc]
      decide
    have hof : IsConnector "of".toList := Or.inr (Or.inr (Or.inr (Or.inl (by decide))))
    exact .share hof (.intro allBlank_nil hspace hspace)
  exact ⟨htrimmed, hspells, (read?_shapes htrimmed).2.2.2.1 _ _ _ hspells⟩

end Percentage

end Tapeline
