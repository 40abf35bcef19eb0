import Tapeline.Proofs.Json.Sequence

/-!
# The strings of JSON

Between its marks a string holds characters as they are, letters behind a backslash, and code units
in four hexadecimal digits (`UnitsText`).  The reader takes such a text up to the closing mark
(`readString_decides`), and whatever else it meets is malformed.  The name of a member is a string
with a colon behind it (`readName_ok_iff`).
-/

namespace Tapeline

namespace Json

/-- The code units of a string and the text that writes them between its marks. -/
inductive UnitsText : List Nat → Text → Prop where
  | nil : UnitsText [] []
  | plain {c : Char} {units : List Nat} {t : Text} (hmark : c ≠ '\x22') (hslash : c ≠ '\\')
      (hprints : 0x20 ≤ c.toNat) (ht : UnitsText units t) : UnitsText (c.toNat :: units) (c :: t)
  | escape {c : Char} {unit : Nat} {units : List Nat} {t : Text} (hc : escaped? c = some unit)
      (ht : UnitsText units t) : UnitsText (unit :: units) ('\\' :: c :: t)
  | hex {a b c d : Char} {unit : Nat} {units : List Nat} {t : Text}
      (hunit : hexUnit? a b c d = some unit) (ht : UnitsText units t) :
      UnitsText (unit :: units) ('\\' :: 'u' :: a :: b :: c :: d :: t)

/-- Code units are read up to the closing mark. -/
theorem readUnits_append {units : List Nat} {t : Text} (h : UnitsText units t) (rest : Text) :
    readUnits (t ++ '\x22' :: rest) = .ok (units, rest) := by
  induction h with
  | nil => rfl
  | @plain c units t hmark hslash hprints _ ih =>
      have hallowed : ¬ (c = '\\' ∨ c.toNat < 0x20) := by
        intro h
        cases h with
        | inl h => exact hslash h
        | inr h => omega
      rw [List.cons_append, readUnits.eq_5 _ _ (by simp [hmark]) (by simp [hslash])
        (by simp [hslash])]
      simp only [Bool.or_eq_true, decide_eq_true_eq, if_neg hallowed, ih]
      rfl
  | @escape c unit units t hc _ ih =>
      have hletter : c ≠ 'u' := by
        intro h
        rw [h] at hc
        cases hc
      rw [List.cons_append, List.cons_append, readUnits.eq_4 _ _ (by simp [hletter]), hc]
      dsimp only
      rw [ih]
      rfl
  | hex hunit _ ih =>
      simp only [List.cons_append, readUnits, hunit, ih]
      rfl

/-- What is read are code units with the closing mark behind them. -/
theorem unitsText_of_readUnits {t rest : Text} {units : List Nat}
    (h : readUnits t = .ok (units, rest)) :
    ∃ u, UnitsText units u ∧ t = u ++ '\x22' :: rest := by
  fun_induction readUnits t generalizing units with
  | case1 => cases h
  | case2 rest =>
      cases h
      exact ⟨[], .nil, rfl⟩
  | case3 a b c d t unit hunit ih =>
      obtain ⟨⟨units, rest⟩, hread, heq⟩ := map_eq_ok_iff.mp h
      cases heq
      obtain ⟨u, hu, rfl⟩ := ih hread
      exact ⟨_, .hex hunit hu, rfl⟩
  | case4 => cases h
  | case5 c t hhex unit hc ih =>
      obtain ⟨⟨units, rest⟩, hread, heq⟩ := map_eq_ok_iff.mp h
      cases heq
      obtain ⟨u, hu, rfl⟩ := ih hread
      exact ⟨_, .escape hc hu, rfl⟩
  | case6 => cases h
  | case7 => cases h
  | case8 c t hmark hslash hhex hallowed ih =>
      obtain ⟨⟨units, rest⟩, hread, heq⟩ := map_eq_ok_iff.mp h
      cases heq
      obtain ⟨u, hu, rfl⟩ := ih hread
      simp only [Bool.or_eq_true, decide_eq_true_eq, not_or, Nat.not_lt] at hallowed
      exact ⟨_, .plain hmark hallowed.1 hallowed.2 hu, rfl⟩

/-- A string that is not read is malformed and nothing else. -/
theorem readUnits_error {t : Text} {e : ReadError} (h : readUnits t = .error e) :
    e = .malformed := by
  fun_induction readUnits t with
  | case1 | case4 | case6 | case7 =>
      cases h
      rfl
  | case2 => cases h
  | case3 _ _ _ _ _ _ _ ih | case5 _ _ _ _ _ ih | case8 _ _ _ _ _ _ ih =>
      exact ih (map_eq_error_iff.mp h)

/-- A string and the text that writes it up to its closing mark. -/
inductive StringText : Text → Text → Prop where
  | intro {units : List Nat} {t : Text} (h : UnitsText units t) :
      StringText (joinUnits units) (t ++ ['\x22'])

/-- **A string** is read up to its closing mark, and what is no string is malformed. -/
theorem readString_decides : Decides readString StringText fun _ _ => False where
  taken := by
    intro x t rest hx
    cases hx with
    | intro h =>
        rw [List.append_assoc, List.singleton_append, readString, readUnits_append h]
        rfl
  sound := by
    intro t x rest hread
    obtain ⟨⟨units, rest⟩, hunits, heq⟩ := map_eq_ok_iff.mp hread
    cases heq
    obtain ⟨u, hu, rfl⟩ := unitsText_of_readUnits hunits
    exact ⟨u ++ ['\x22'], .intro hu, by simp⟩
  fails_iff := by
    intro t e
    constructor
    · intro ⟨hread, hne⟩
      exact hne (readUnits_error (map_eq_error_iff.mp hread))
    · exact False.elim

/-! ## Names -/

/-- The name of a member and the text that writes it, with the colon and the space behind it. -/
inductive NameText : Text → Text → Prop where
  | intro {name t s s' : Text} (hname : StringText name t) (hs : AllSpace s)
      (hs' : AllSpace s') : NameText name ('\x22' :: (t ++ (s ++ ':' :: s')))

/-- A name is read up to what comes behind its colon. -/
theorem readName_ok_iff {t name rest : Text} :
    readName t = .ok (name, rest) ↔
      ∃ u, NameText name u ∧ NoSpaceAhead rest ∧ t = u ++ rest := by
  constructor
  · intro hread
    unfold readName at hread
    split at hread
    · rename_i behind
      cases hstring : readString behind with
      | error e =>
          rw [hstring] at hread
          cases hread
      | ok read =>
          obtain ⟨x, after⟩ := read
          rw [hstring] at hread
          dsimp only [bind, Except.bind] at hread
          obtain ⟨s, hs, -, hafter⟩ := exists_space after
          split at hread
          · rename_i value hskip
            cases hread
            obtain ⟨u, hu, rfl⟩ := readString_decides.sound hstring
            obtain ⟨s', hs', hahead, hvalue⟩ := exists_space value
            refine ⟨'\x22' :: (u ++ (s ++ ':' :: s')), .intro hu hs hs', hahead, ?_⟩
            rw [hskip, hvalue] at hafter
            rw [hafter]
            simp
          · cases hread
    · cases hread
  · intro ⟨u, hname, hahead, ht⟩
    subst ht
    cases hname with
    | intro hname hs hs' =>
        simp only [List.cons_append, List.append_assoc, readName]
        rw [readString_decides.taken hname]
        dsimp only [bind, Except.bind]
        rw [skipSpace_append hs (noSpaceAhead_cons (by decide))]
        exact congrArg (fun after => Except.ok (name, after)) (skipSpace_append hs' hahead)

/-- A name that is not read is malformed and nothing else. -/
theorem readName_error {t : Text} {e : ReadError} (h : readName t = .error e) :
    e = .malformed := by
  unfold readName at h
  split at h
  · rename_i behind
    cases hstring : readString behind with
    | error e' =>
        rw [hstring] at h
        cases h
        exact readUnits_error (map_eq_error_iff.mp hstring)
    | ok read =>
        rw [hstring] at h
        dsimp only [bind, Except.bind] at h
        split at h
        · cases h
        · cases h
          rfl
  · cases h
    rfl

end Json

end Tapeline
