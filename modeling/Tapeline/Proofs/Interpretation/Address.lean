import Mathlib.Data.List.TakeDrop
import Tapeline.Interpretation.Client
import Tapeline.Proofs.Text.Strip

/-!
# Addresses

The blocking client takes an address apart before it sends: blanks and other decoration go, then the
fragment, and what is left must start with a scheme.  None of these steps touches the scheme of an
`http` address (`hasScheme_of_isHttp`), so such an address is never refused.
-/

namespace Tapeline

namespace Interpretation

/-- An address with the scheme `http` or `https`, in letters of either case. -/
def IsHttp (url : Text) : Prop :=
  ∃ scheme rest, url = scheme ++ ':' :: rest ∧
    scheme.map Char.toLower ∈ ["http".toList, "https".toList]

variable {url lead scheme : Text}

/-- An address without decoration is only stripped. -/
theorem plainAddress_eq {c : Char} {rest : Text} (h : url.strip = c :: rest) (hbracket : c ≠ '<')
    (hlabel : c ≠ 'U') : plainAddress url = url.strip := by
  have hlead : Text.dropLead? ['U', 'R', 'L', ':'] (c :: rest) = none := if_neg hlabel.symm
  simp [plainAddress, h, hbracket, hlead]

/-- The fragment does not start within a lead without its mark. -/
theorem prefix_withoutFragment (hlead : lead <+: url) (hmark : '#' ∉ lead) :
    lead <+: withoutFragment url := by
  unfold withoutFragment beforeLast?
  cases hsplit : Text.splitAtFirst '#' url.reverse with
  | none => exact hlead
  | some parts =>
      obtain ⟨after, before⟩ := parts
      have hurl : url = before.reverse ++ '#' :: after.reverse := by
        rw [← List.reverse_reverse url, Text.eq_of_splitAtFirst hsplit]
        simp
      have hbefore : before.reverse <+: url := hurl ▸ List.prefix_append _ _
      change lead <+: before.reverse
      rcases List.prefix_or_prefix_of_prefix hlead hbefore with hwithin | hbeyond
      · exact hwithin
      · -- a longer lead would reach the mark
        obtain ⟨beyond, rfl⟩ := hbeyond
        cases beyond with
        | nil => simp
        | cons c beyond =>
            rw [hurl, List.prefix_append_right_inj] at hlead
            obtain rfl : c = '#' := (List.cons_prefix_cons.mp hlead).1
            exact absurd (by simp) hmark

/-- An address that starts with a scheme and a colon has a scheme. -/
theorem hasScheme_of_prefix (hlead : scheme ++ [':'] <+: url) (hne : scheme ≠ [])
    (hplain : ∀ c ∈ scheme, (c != '/' && c != ':') = true) : hasScheme url = true := by
  obtain ⟨rest, rfl⟩ := hlead
  obtain ⟨c, letters, rfl⟩ := List.exists_cons_of_ne_nil hne
  rw [List.append_assoc, hasScheme, List.span_eq_takeWhile_dropWhile,
    List.takeWhile_append_of_pos hplain, List.dropWhile_append_of_pos hplain]
  rfl

/-- The letters of an `http` scheme. -/
theorem mem_of_toLower_mem {c : Char} (h : c.toLower ∈ "https".toList) :
    c ∈ "httpsHTTPS".toList := by
  generalize hlower : c.toLower = d at h
  cases eq_or_toUpper_of_toLower hlower with
  | inl heq =>
      rw [heq]
      exact List.mem_append_left "HTTPS".toList h
  | inr heq =>
      rw [heq]
      exact List.mem_append_right "https".toList (List.mem_map_of_mem h)

/-- A character that every step on the way to the scheme leaves alone. -/
structure IsSchemeLetter (c : Char) : Prop where
  notBlank : isBlank c = false
  notBracket : c ≠ '<'
  notLabel : c ≠ 'U'
  notMark : c ≠ '#'
  inScheme : (c != '/' && c != ':') = true

/-- The letters of the two schemes are letters in either case. -/
theorem isSchemeLetter_of_toLower_mem {c : Char} (h : c.toLower ∈ "https".toList) :
    IsSchemeLetter c := by
  have hall : "httpsHTTPS".toList.all (fun c =>
      !isBlank c && c != '<' && c != 'U' && c != '#' && (c != '/' && c != ':')) = true := by
    decide
  have hc := List.all_eq_true.mp hall c (mem_of_toLower_mem h)
  simp only [Bool.and_eq_true, Bool.not_eq_true', bne_iff_ne] at hc
  obtain ⟨⟨⟨⟨hblank, hbracket⟩, hlabel⟩, hmark⟩, hslash, hcolon⟩ := hc
  exact ⟨hblank, hbracket, hlabel, hmark, by simp [hslash, hcolon]⟩

/-- **An `http` address has a scheme**, whatever stands behind it. -/
theorem hasScheme_of_isHttp (h : IsHttp url) :
    hasScheme (withoutFragment (plainAddress url)) = true := by
  obtain ⟨scheme, rest, rfl, hscheme⟩ := h
  have hletters : ∀ c ∈ scheme, IsSchemeLetter c := by
    intro c hc
    apply isSchemeLetter_of_toLower_mem
    have hlower : c.toLower ∈ scheme.map Char.toLower := List.mem_map_of_mem hc
    rcases List.mem_cons.mp hscheme with heq | heq
    · rw [heq] at hlower
      exact List.mem_append_left "s".toList hlower
    · rwa [List.mem_singleton.mp heq] at hlower
  have hne : scheme ≠ [] := by
    rintro rfl
    revert hscheme
    decide
  obtain ⟨c, letters, rfl⟩ := List.exists_cons_of_ne_nil hne
  have hfirst := hletters c List.mem_cons_self
  have hlead : (c :: letters) ++ [':'] <+: (c :: letters) ++ ':' :: rest := ⟨rest, by simp⟩
  have htrimmed : Text.Trimmed ((c :: letters) ++ [':']) := by
    constructor
    · rintro d ⟨⟩
      exact hfirst.notBlank
    · intro d hd
      rw [List.getLast?_concat] at hd
      cases hd
      decide
  obtain ⟨behind, hbehind⟩ := htrimmed.prefix_strip (by simp) hlead
  rw [plainAddress_eq hbehind.symm hfirst.notBracket hfirst.notLabel]
  have hmark : '#' ∉ (c :: letters) ++ [':'] := by
    rw [List.mem_append, not_or]
    exact ⟨fun hmem => (hletters _ hmem).notMark rfl, by decide⟩
  exact hasScheme_of_prefix (prefix_withoutFragment ⟨behind, hbehind⟩ hmark) hne
    fun d hd => (hletters d hd).inScheme

end Interpretation

end Tapeline
