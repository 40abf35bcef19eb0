import Tapeline.Percentage

/-!
# A percentage has a percent sign

Every shape of a percentage takes a percent sign on the way, and what the readers leave of a text
is its end.  So a text without a percent sign is no percentage (`read?_eq_none`).
-/

namespace Tapeline

namespace Percentage

/-- What is left behind digits ends the text. -/
theorem takeDigits_suffix (t : Text) : (takeDigits t).2 <:+ t := by
  induction t with
  | nil => exact List.suffix_refl []
  | cons c rest ih =>
      unfold takeDigits
      split
      · exact ih.trans (List.suffix_cons c rest)
      · exact List.suffix_refl _

theorem stripStart_suffix (t : Text) : t.stripStart <:+ t :=
  List.dropWhile_suffix _

/-- A number behind its sign: digits, and optionally a point with digits.  The rest follows. -/
def takeUnsigned? (negative : Bool) (t : Text) : Option (Binary64 × Text) :=
  match takeDigits t with
  | ([], _) => none
  | (whole, '.' :: rest) =>
    match takeDigits rest with
    | ([], _) => some ((Numeral.mk whole [] 0).value negative, '.' :: rest)
    | (places, after) => some ((Numeral.mk whole places 0).value negative, after)
  | (whole, rest) => some ((Numeral.mk whole [] 0).value negative, rest)

theorem takeNumber?_minus (t : Text) : takeNumber? ('-' :: t) = takeUnsigned? true t := rfl

/-- What has no minus in front is taken without a sign. -/
theorem takeNumber?_unsigned {t : Text} (h : t.head? ≠ some '-') :
    takeNumber? t = takeUnsigned? false t := by
  unfold takeNumber?
  split
  rename_i negative unsigned hsplit
  split at hsplit
  · exact absurd rfl h
  · cases hsplit
    rfl

/-- What is left behind a number without a sign ends the text. -/
theorem takeUnsigned?_suffix {negative : Bool} {t rest : Text} {x : Binary64}
    (h : takeUnsigned? negative t = some (x, rest)) : rest <:+ t := by
  have hdigits := takeDigits_suffix t
  unfold takeUnsigned? at h
  split at h
  · cases h
  · rename_i whole after _ heq
    rw [heq] at hdigits
    have hplaces := takeDigits_suffix after
    split at h
    · cases h
      exact hdigits
    · rename_i heq'
      rw [heq'] at hplaces
      cases h
      exact (hplaces.trans (List.suffix_cons _ _)).trans hdigits
  · rename_i heq
    rw [heq] at hdigits
    cases h
    exact hdigits

/-- A number is taken off the start. -/
theorem takeNumber?_suffix {t rest : Text} {x : Binary64} (h : takeNumber? t = some (x, rest)) :
    rest <:+ t := by
  by_cases hminus : t.head? = some '-'
  · obtain ⟨unsigned, rfl⟩ := List.head?_eq_some_iff.mp hminus
    rw [takeNumber?_minus] at h
    exact (takeUnsigned?_suffix h).trans (List.suffix_cons _ _)
  · rw [takeNumber?_unsigned hminus] at h
    exact takeUnsigned?_suffix h

/-- A sign is taken with the blanks before it, and it stands in the text. -/
theorem takeSign?_suffix {signs : List Char} {t rest : Text} {c : Char}
    (h : takeSign? signs t = some (c, rest)) : c ∈ signs ∧ c ∈ t ∧ rest <:+ t := by
  have hstrip := stripStart_suffix t
  unfold takeSign? at h
  split at h
  · rename_i d after heq
    rw [heq] at hstrip
    split at h
    · rename_i hmem
      cases h
      exact ⟨List.contains_iff_mem.mp hmem, hstrip.subset List.mem_cons_self,
        (List.suffix_cons _ _).trans hstrip⟩
    · cases h
  · cases h

/-- What is left behind the next number ends the text. -/
theorem takeNext?_suffix {t rest : Text} {x : Binary64} (h : takeNext? t = some (x, rest)) :
    rest <:+ t :=
  (takeNumber?_suffix h).trans (stripStart_suffix t)

/-- A signed percentage takes its percent sign last. -/
theorem percent_mem_of_readSigned? {signs : List Char} {t : Text}
    {read : Binary64 × Char × Binary64} (h : readSigned? signs t = some read) : '%' ∈ t := by
  obtain ⟨⟨first, behindFirst⟩, hfirst, h⟩ := Option.bind_eq_some_iff.mp h
  obtain ⟨⟨sign, behindSign⟩, hsign, h⟩ := Option.bind_eq_some_iff.mp h
  obtain ⟨⟨second, behindSecond⟩, hsecond, h⟩ := Option.bind_eq_some_iff.mp h
  obtain ⟨⟨c, behind⟩, hpercent, _⟩ := Option.bind_eq_some_iff.mp h
  obtain ⟨hc, hmem, _⟩ := takeSign?_suffix hpercent
  obtain rfl := List.mem_singleton.mp hc
  have hsuffix := (takeNext?_suffix hsecond).trans
    ((takeSign?_suffix hsign).2.2.trans (takeNumber?_suffix hfirst))
  exact hsuffix.subset hmem

/-- A share takes its percent sign behind the first number. -/
theorem percent_mem_of_readShare? {t : Text} {read : Binary64 × Binary64}
    (h : readShare? t = some read) : '%' ∈ t := by
  obtain ⟨⟨first, behindFirst⟩, hfirst, h⟩ := Option.bind_eq_some_iff.mp h
  obtain ⟨⟨c, behind⟩, hpercent, _⟩ := Option.bind_eq_some_iff.mp h
  obtain ⟨hc, hmem, _⟩ := takeSign?_suffix hpercent
  obtain rfl := List.mem_singleton.mp hc
  exact (takeNumber?_suffix hfirst).subset hmem

/-- **Without a percent sign there is no percentage.** -/
theorem read?_eq_none {t : Text} (h : '%' ∉ t) : read? t = none := by
  have hsigned : ∀ signs, readSigned? signs t = none := fun signs =>
    Option.eq_none_iff_forall_not_mem.mpr fun _ hread => h (percent_mem_of_readSigned? hread)
  have hshare : readShare? t = none :=
    Option.eq_none_iff_forall_not_mem.mpr fun _ hread => h (percent_mem_of_readShare? hread)
  simp [read?, hsigned, hshare]

end Percentage

end Tapeline
