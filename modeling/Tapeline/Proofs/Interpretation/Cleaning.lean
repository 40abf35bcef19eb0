import Tapeline.Proofs.Interpretation.Fences

/-!
# Cleaning a reply

What is left of a reply without fences decides what becomes of it (`cleanReply_outcome`).  The text
of an object gives that object, and a text that has to be given up on is a failure: an integer in it
has too many digits, or its arrays and objects nest too deep.  Any other text counts as a reply with
an empty expression.
-/

namespace Tapeline

namespace Interpretation

/-- The part of a reply that is read: what is left of it without fences and the blanks around it. -/
def readPart (content : Text) : Text :=
  (withoutFences 0 content).strip

/-- Fences are only taken out. -/
theorem withoutFences_sublist (skip : Nat) (t : Text) : (withoutFences skip t).Sublist t := by
  induction t generalizing skip with
  | nil => cases skip <;> exact List.Sublist.refl []
  | cons c t ih =>
      cases skip with
      | succ skip => exact (ih skip).cons c
      | zero =>
          rw [withoutFences]
          split
          · exact (ih 0).cons_cons c
          · exact (ih _).cons c

/-- No opening mark is added to what is read. -/
theorem openings_readPart_le (content : Text) :
    Json.openings (readPart content) ≤ Json.openings content := by
  have hstart : (withoutFences 0 content).stripStart.Sublist content :=
    (List.dropWhile_suffix isBlank).sublist.trans (withoutFences_sublist 0 content)
  exact ((Text.stripEnd_lead _).sublist.trans hstart).countP_le

/-- Only malformed text is no failure. -/
theorem cleanReply_eq_error_iff {content : Text} {e : Json.ReadError} :
    cleanReply content = .error e ↔
      Json.read (readPart content) = .error e ∧ e ≠ .malformed := by
  rw [cleanReply, ← readPart]
  cases Json.read (readPart content) with
  | ok v => cases v <;> simp
  | error e' =>
      cases e' with
      | malformed => simp [eq_comm]
      | tooDeep | tooManyDigits =>
          constructor
          · intro h
            cases h
            exact ⟨rfl, by simp⟩
          · intro h
            cases h.1
            rfl

/-- A reply is cleaned to an object that it holds, or to the empty reply where it holds none and the
reader gives up for no other reason. -/
theorem cleanReply_eq_ok_iff {content : Text} {members : List (Text × Json)} :
    cleanReply content = .ok members ↔
      Json.read (readPart content) = .ok (.object members) ∨
        members = emptyReply ∧ (∀ members', Json.read (readPart content) ≠ .ok (.object members')) ∧
          ∀ e, ¬ (Json.read (readPart content) = .error e ∧ e ≠ .malformed) := by
  rw [cleanReply, ← readPart]
  cases Json.read (readPart content) with
  | ok v => cases v <;> simp [eq_comm]
  | error e' => cases e' <;> simp [eq_comm]

/-- **A reply is cleaned** to the object that its text writes, and to the empty reply if it writes
none and is not given up on.  It fails just where reading is given up, which is only at a limit. -/
theorem cleanReply_outcome (content : Text) :
    (∀ members, cleanReply content = .ok members ↔
      Json.WritesWhole (.object members) (readPart content) ∨
        members = emptyReply ∧
          (∀ members', ¬ Json.WritesWhole (.object members') (readPart content)) ∧
          ∀ e, ¬ Json.StopsWhole (readPart content) e) ∧
      (∀ e, cleanReply content = .error e ↔ Json.StopsWhole (readPart content) e) ∧
      ∀ e, cleanReply content = .error e → Json.ReachesLimit Json.depthLimit content e := by
  have hfails : ∀ e, cleanReply content = .error e ↔ Json.StopsWhole (readPart content) e :=
    fun e => cleanReply_eq_error_iff.trans Json.read_fails_iff
  refine ⟨fun members => ?_, hfails, fun e he => ?_⟩
  · rw [cleanReply_eq_ok_iff]
    simp only [Json.read_ok_iff, Json.read_fails_iff, ne_eq]
  · obtain ⟨s, u, -, hstops, hpart⟩ := (hfails e).mp he
    have hlimit := (Json.reachesLimit_of_stops hstops).append s
    rw [← hpart] at hlimit
    exact hlimit.mono (openings_readPart_le content)

/-- A reply that is an integer of too many digits fails. -/
theorem cleanReply_digits {t : Text} (ht : Json.AsciiDigits t) (hzero : t.head? ≠ some '0')
    (hlong : maxIntegerDigits < t.length) :
    cleanReply t = .error (.tooManyDigits t.length) := by
  have hne : t ≠ [] := List.ne_nil_of_length_pos (Nat.zero_lt_of_lt hlong)
  -- the reply as a number as it is written
  let n : NumberText := ⟨Literal.ofDigits ht.allDigits hne, none⟩
  have hnumber : Json.IsNumber n := by
    refine ⟨by simp [n, Literal.ofDigits], ht, hne, ?_, ?_, ?_⟩
    · intro rest hrest
      have hwhole : t = '0' :: rest := hrest
      exact absurd (by rw [hwhole]; rfl) hzero
    · intro u hu
      cases hu
    · intro x hx
      cases hx
  have htext : n.text ++ [] = t := by
    simp [n, NumberText.text, NumberText.unsigned, NumberText.exponentText, Literal.signText,
      Literal.unsigned, Literal.ofDigits]
  have hoverlong : Json.Overlong t (.tooManyDigits t.length) := by
    have hends := (Json.endsItem_allSpace Json.allSpace_nil).endsNumber
    have hoverlong := Json.Overlong.intro hnumber ⟨rfl, rfl⟩ hlong hends
    rwa [htext] at hoverlong
  -- no fence and no blank is taken off
  have hunfenced : Unfenced t := by
    have hmark : '\x60' ∉ t := by
      intro hmem
      have hdigit := ht _ hmem
      cases hdigit
    exact ⟨fun h => hmark (h.subset List.mem_cons_self), fun h => hmark (List.mem_of_getLast? h)⟩
  have hpart : readPart t = t := by
    have hkept : withoutFences 0 t = t := by
      simpa [withoutFences] using withoutFences_append hunfenced []
    have htrimmed : t.Trimmed := Text.trimmed_of_forall fun c hc =>
      isBlank_of_isDecimalDigit (Json.isDecimalDigit_of_isDigit (ht c hc))
    rw [readPart, hkept, htrimmed.strip_eq]
  rw [cleanReply_eq_error_iff, Json.read_fails_iff, hpart]
  exact ⟨[], t, Json.allSpace_nil, Json.stops_of_overlong _ hoverlong, rfl⟩

/-- One digit more than an integer may have is enough. -/
theorem cleanReply_ones :
    cleanReply (List.replicate 4301 '1') = .error (.tooManyDigits 4301) := by
  have hdigits : Json.AsciiDigits (List.replicate 4301 '1') := by
    intro c hc
    rw [List.eq_of_mem_replicate hc]
    rfl
  have hlength : (List.replicate 4301 '1').length = 4301 := List.length_replicate
  have hzero : (List.replicate 4301 '1').head? ≠ some '0' := by
    intro h
    exact absurd (List.eq_of_mem_replicate (List.mem_of_head? h)) (by decide)
  have hfails := cleanReply_digits hdigits hzero (by rw [hlength]; decide)
  rwa [hlength] at hfails

end Interpretation

end Tapeline
