import Tapeline.Measure.Tokens

/-!
# Unit markers

A slash between digits is found character by character: a digit with a slash and a digit behind it
stands first, or it is found behind the first character (`hasDigitSlash_cons`).  A text without
marks and slashes has no unit markers (`hasUnitMarkers_eq_false`).
-/

namespace Tapeline

namespace Measure

/-- A slash with a digit behind it stands first. -/
def startsWithSlashDigit : Text → Bool
  | '/' :: rest => (rest.head?.map isDecimalDigit).getD false
  | _ => false

/-- What starts with something else has no slash in front. -/
theorem startsWithSlashDigit_eq_false {t : Text} (h : t.head? ≠ some '/') :
    startsWithSlashDigit t = false := by
  unfold startsWithSlashDigit
  split <;> simp_all

/-- A digit with a slash and a digit behind it stands at the start or later. -/
theorem hasDigitSlash_cons (c : Char) (t : Text) :
    hasDigitSlash (c :: t) = ((isDecimalDigit c && startsWithSlashDigit t) || hasDigitSlash t) := by
  match t with
  | [] => simp [hasDigitSlash, startsWithSlashDigit]
  | [b] =>
      by_cases hb : b = '/'
      · subst hb
        simp [hasDigitSlash, startsWithSlashDigit]
      · simp [hasDigitSlash, startsWithSlashDigit, hb]
  | b :: d :: rest =>
      by_cases hb : b = '/'
      · subst hb
        simp [hasDigitSlash, startsWithSlashDigit]
      · simp [hasDigitSlash, startsWithSlashDigit, hb]

/-- Without a slash there is none between digits. -/
theorem hasDigitSlash_eq_false {t : Text} (h : '/' ∉ t) : hasDigitSlash t = false := by
  induction t with
  | nil => rfl
  | cons c t ih =>
      have ht : '/' ∉ t := fun hmem => h (List.mem_cons_of_mem _ hmem)
      have hfirst : t.head? ≠ some '/' := fun hhead => ht (List.mem_of_head? hhead)
      rw [hasDigitSlash_cons, startsWithSlashDigit_eq_false hfirst, ih ht, Bool.and_false,
        Bool.or_false]

/-- A slash between two digits is found wherever it stands. -/
theorem hasDigitSlash_of_infix {a b : Char} {t : Text} (ha : isDecimalDigit a = true)
    (hb : isDecimalDigit b = true) (h : [a, '/', b] <:+: t) : hasDigitSlash t = true := by
  induction t with
  | nil => cases List.infix_nil.mp h
  | cons c t ih =>
      rw [hasDigitSlash_cons]
      cases List.infix_cons_iff.mp h with
      | inl hlead =>
          obtain ⟨rfl, htail⟩ := List.cons_prefix_cons.mp hlead
          obtain ⟨rest, rfl⟩ := htail
          simp [ha, hb, startsWithSlashDigit]
      | inr hbehind => rw [ih hbehind, Bool.or_true]

/-- A foot mark or an inch mark is a unit marker. -/
theorem hasUnitMarkers_of_mem {c : Char} {t : Text} (hc : c = '\x27' ∨ c = '\x22') (h : c ∈ t) :
    hasUnitMarkers t = true := by
  have hany : t.any (fun c => c = '\x27' || c = '\x22') = true :=
    List.any_eq_true.mpr ⟨c, h, by simpa using hc⟩
  rw [hasUnitMarkers, hany, Bool.true_or]

/-- Without a mark and a slash there is no unit marker. -/
theorem hasUnitMarkers_eq_false {t : Text} (hfoot : '\x27' ∉ t) (hinch : '\x22' ∉ t)
    (hslash : '/' ∉ t) : hasUnitMarkers t = false := by
  have hmarks : t.any (fun c => c = '\x27' || c = '\x22') = false := by
    rw [List.any_eq_false]
    intro c hc
    have hfoot' : c ≠ '\x27' := fun heq => hfoot (heq ▸ hc)
    have hinch' : c ≠ '\x22' := fun heq => hinch (heq ▸ hc)
    simp [hfoot', hinch']
  rw [hasUnitMarkers, hmarks, hasDigitSlash_eq_false hslash, Bool.or_false]

end Measure

end Tapeline
