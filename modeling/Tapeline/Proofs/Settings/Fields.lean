import Tapeline.Proofs.Results
import Tapeline.Settings.Resolution

/-!
# The settings one by one

Seven settings are resolved in a fixed order.  Each is a `Field`: a variable, a section and a key
say where its raw value comes from, and a conversion says what it is made of.  A field fails in one
way, that its raw value does not convert, and the greatest length also if it is not positive
(`Field.Fails`).  One rule for a step in front of others (`bind_error_iff`) then gives what all of
them fail with: the first failure in their order (`fromEntries_error_iff`).
-/

namespace Tapeline

namespace Settings

open Document (ConversionError)

/-! ## Conversions -/

section Conversions

variable {raw : Document} {error : ConversionError}

/-- Bytes have no text in one way only. -/
theorem asciiText_error {content : List UInt8}
    (h : Document.asciiText content = .error error) : error = .invalid := by
  unfold Document.asciiText at h
  split at h
  · cases h
  · exact (Except.error.inj h).symm

/-- A text that is no integer is of no use. -/
theorem integerIn_error {t : Text} (h : Document.integerIn t = .error error) :
    error = .invalid := by
  unfold Document.integerIn at h
  split at h
  · cases h
  · exact (Except.error.inj h).symm

/-- A text that is no number is of no use. -/
theorem numberIn_error {t : Text} (h : Document.numberIn t = .error error) :
    error = .invalid := by
  unfold Document.numberIn at h
  cases hread : readNumber t with
  | ok x =>
      rw [hread] at h
      cases h
  | error fault =>
      rw [hread] at h
      exact (Except.error.inj h).symm

/-- What is read from bytes fails with the bytes or with their text. -/
theorem invalid_of_asciiText_bind {α : Type} {content : List UInt8}
    {read : Text → Except ConversionError α}
    (hread : ∀ t, read t = .error error → error = .invalid)
    (h : Document.asciiText content >>= read = .error error) : error = .invalid := by
  cases hbytes : Document.asciiText content with
  | error fault =>
      rw [hbytes] at h
      cases h
      exact asciiText_error hbytes
  | ok t =>
      rw [hbytes] at h
      exact hread t h

/-- Only an infinite number fails to be an integer in another way than by being of no use. -/
theorem toInteger_error (h : raw.toInteger = .error error) :
    error = .invalid ∨ error = .infinite ∧ ∃ negative, raw = .number (.infinite negative) := by
  cases raw with
  | integer n => cases h
  | boolean b => cases h
  | number x =>
      cases x with
      | nan =>
          cases h
          exact Or.inl rfl
      | infinite negative =>
          cases h
          exact Or.inr ⟨rfl, negative, rfl⟩
      | finite negative m => cases h
  | text t => exact Or.inl (integerIn_error h)
  | bytes content => exact Or.inl (invalid_of_asciiText_bind (fun _ => integerIn_error) h)
  | null | moment | pair | list | set | table =>
      cases h
      exact Or.inl rfl

/-- Only a large integer fails to be a number in another way than by being of no use. -/
theorem toNumber_error (h : raw.toNumber = .error error) :
    error = .invalid ∨
      error = .tooLarge ∧ ∃ n, raw = .integer n ∧ (Binary64.ofInt n).isFinite = false := by
  cases raw with
  | number x => cases h
  | boolean b => cases h
  | integer n =>
      rw [Document.toNumber] at h
      split at h
      · cases h
      · rename_i hlarge
        cases h
        exact Or.inr ⟨rfl, n, rfl, eq_false_of_ne_true hlarge⟩
  | text t => exact Or.inl (numberIn_error h)
  | bytes content => exact Or.inl (invalid_of_asciiText_bind (fun _ => numberIn_error) h)
  | null | moment | pair | list | set | table =>
      cases h
      exact Or.inl rfl

/-- A value that cannot be shown is of no use as a text. -/
theorem toText_error (h : raw.toText = .error error) : error = .invalid := by
  rw [Document.toText] at h
  split at h
  · cases h
  · cases h
    rfl

end Conversions

/-! ## The settings in their order -/

/-- The settings. -/
inductive Field where
  | maxLength
  | logPath
  | logLevel
  | endpoint
  | model
  | timeout
  | maxRetries
deriving DecidableEq

namespace Field

/-- The settings in the order in which they are resolved. -/
def all : List Field :=
  [maxLength, logPath, logLevel, endpoint, model, timeout, maxRetries]

/-- The settings before one. -/
def earlier (f : Field) : List Field :=
  all.takeWhile (· ≠ f)

/-- The environment variable of a setting. -/
def variable_ : Field → String
  | maxLength => "ONSITECALC_MAX_EXPRESSION_LENGTH"
  | logPath => "ONSITECALC_LOG_PATH"
  | logLevel => "ONSITECALC_LOG_LEVEL"
  | endpoint => "ONSITECALC_INTERPRETER_ENDPOINT"
  | model => "ONSITECALC_INTERPRETER_MODEL"
  | timeout => "ONSITECALC_INTERPRETER_TIMEOUT"
  | maxRetries => "ONSITECALC_INTERPRETER_MAX_RETRIES"

/-- The section of a setting. -/
def section_ : Field → String
  | maxLength => "limits"
  | logPath | logLevel => "logging"
  | endpoint | model | timeout | maxRetries => "interpreter"

/-- The key of a setting in its section. -/
def key : Field → String
  | maxLength => "max_expression_length"
  | logPath => "path"
  | logLevel => "level"
  | endpoint => "endpoint"
  | model => "model"
  | timeout => "timeout"
  | maxRetries => "max_retries"

/-- The value that a setting is made of, if there is one. -/
def raw? (w : Workspace) (entries : Section) (f : Field) : Option Document :=
  rawValue? w f.variable_ (sectionOf f.section_ entries) f.key

/-- A value does not convert to a setting. -/
def Misfits (w : Workspace) (raw : Document) (error : ConversionError) : Field → Prop
  | maxLength | maxRetries => raw.toInteger = .error error
  | logPath => raw.toText = .error error ∨
      error = .noHome ∧ ∃ t, raw.toText = .ok t ∧ w.expandHome? (Path.read t) = none
  | logLevel | endpoint | model => raw.toText = .error error
  | timeout => raw.toNumber = .error error

/-- What a conversion of a setting can fail with. -/
theorem misfits_cases {w : Workspace} {f : Field} {raw : Document} {error : ConversionError}
    (h : f.Misfits w raw error) :
    error = .invalid ∨
      (error = .infinite ∧ (f = .maxLength ∨ f = .maxRetries) ∧
        ∃ negative, raw = .number (.infinite negative)) ∨
      (error = .tooLarge ∧ f = .timeout ∧
        ∃ n, raw = .integer n ∧ (Binary64.ofInt n).isFinite = false) ∨
      error = .noHome ∧ f = .logPath ∧
        ∃ t, raw.toText = .ok t ∧ w.expandHome? (Path.read t) = none := by
  cases f with
  | maxLength => exact (toInteger_error h).imp_right fun h => Or.inl ⟨h.1, Or.inl rfl, h.2⟩
  | maxRetries => exact (toInteger_error h).imp_right fun h => Or.inl ⟨h.1, Or.inr rfl, h.2⟩
  | timeout => exact (toNumber_error h).imp_right fun h => Or.inr (Or.inl ⟨h.1, rfl, h.2⟩)
  | logPath =>
      cases h with
      | inl h => exact Or.inl (toText_error h)
      | inr h => exact Or.inr (Or.inr (Or.inr ⟨h.1, rfl, h.2⟩))
  | logLevel | endpoint | model => exact Or.inl (toText_error h)

/-- A setting fails: its value does not convert, or the greatest length is not positive. -/
inductive Fails (w : Workspace) (entries : Section) : Field → ResolutionError → Prop
  | misfit {f : Field} {raw : Document} {error : ConversionError}
      (hraw : f.raw? w entries = some raw) (herror : f.Misfits w raw error) :
      Fails w entries f (conversionFault f.variable_ f.key raw error)
  | notPositive {raw : Document} {n : Int} (hraw : maxLength.raw? w entries = some raw)
      (hn : raw.toInteger = .ok n) (hlow : n < 1) :
      Fails w entries maxLength .lengthNotPositive

/-- No setting before one fails. -/
def Reached (w : Workspace) (entries : Section) (f : Field) : Prop :=
  ∀ g ∈ f.earlier, ∀ e, ¬ Fails w entries g e

end Field

/-- The first failure among settings. -/
def FirstFailure (w : Workspace) (entries : Section) : List Field → ResolutionError → Prop
  | [], _ => False
  | f :: fields, e =>
    f.Fails w entries e ∨ (∀ e', ¬ f.Fails w entries e') ∧ FirstFailure w entries fields e

section Resolution

variable {w : Workspace} {entries : Section} {base : Option Path} {e : ResolutionError}

/-- The first failure is that of a setting before which none fails. -/
theorem firstFailure_iff (fields : List Field) :
    FirstFailure w entries fields e ↔
      ∃ f ∈ fields, (∀ g ∈ fields.takeWhile (· ≠ f), ∀ e', ¬ g.Fails w entries e') ∧
        f.Fails w entries e := by
  induction fields with
  | nil => simp [FirstFailure]
  | cons first fields ih =>
      rw [FirstFailure, ih]
      constructor
      · intro h
        obtain hfirst | ⟨hclean, f, hmem, hearlier, hf⟩ := h
        · exact ⟨first, List.mem_cons_self, by simp, hfirst⟩
        · have hne : first ≠ f := by
            intro heq
            exact hclean e (heq ▸ hf)
          refine ⟨f, List.mem_cons_of_mem _ hmem, ?_, hf⟩
          intro g hg
          rw [List.takeWhile_cons_of_pos (by simpa using hne)] at hg
          cases List.mem_cons.mp hg with
          | inl heq => exact heq ▸ hclean
          | inr hg => exact hearlier g hg
      · intro h
        obtain ⟨f, hmem, hearlier, hf⟩ := h
        by_cases heq : first = f
        · exact Or.inl (heq ▸ hf)
        · rw [List.takeWhile_cons_of_pos (by simpa using heq)] at hearlier
          have hin : f ∈ fields := (List.mem_cons.mp hmem).resolve_left (Ne.symm heq)
          exact Or.inr ⟨hearlier first List.mem_cons_self, f, hin,
            fun g hg => hearlier g (List.mem_cons_of_mem _ hg), hf⟩

/-- The first failure of all settings is the failure of one that is reached. -/
theorem firstFailure_all :
    FirstFailure w entries Field.all e ↔
      ∃ f : Field, f.Reached w entries ∧ f.Fails w entries e := by
  rw [firstFailure_iff]
  constructor
  · intro h
    obtain ⟨f, _, hearlier, hf⟩ := h
    exact ⟨f, hearlier, hf⟩
  · intro h
    obtain ⟨f, hreached, hf⟩ := h
    have hmem : f ∈ Field.all := by cases f <;> decide
    exact ⟨f, hmem, hreached, hf⟩

/-- A step fails, or it does not and what follows fails. -/
theorem bind_error_iff {α β : Type} {x : Except ResolutionError α}
    {g : α → Except ResolutionError β} {Fails : ResolutionError → Prop} {Rest : Prop}
    (hx : ∀ e, x = .error e ↔ Fails e) (hg : ∀ a, x = .ok a → (g a = .error e ↔ Rest)) :
    (x >>= g) = .error e ↔ Fails e ∨ (∀ e', ¬ Fails e') ∧ Rest := by
  cases x with
  | error e₀ =>
      have hfails : Fails e₀ := (hx e₀).mp rfl
      have hbind : ((.error e₀ : Except ResolutionError α) >>= g) = .error e ↔ Fails e := by
        rw [← hx e]
        simp [bind, Except.bind]
      rw [hbind]
      constructor
      · intro h
        exact Or.inl h
      · intro h
        exact h.resolve_right fun hright => hright.1 e₀ hfails
  | ok a =>
      have hclean : ∀ e', ¬ Fails e' := by
        intro e' hfails
        cases (hx e').mpr hfails
      have hbind : ((.ok a : Except ResolutionError α) >>= g) = g a := rfl
      rw [hbind, hg a rfl]
      constructor
      · intro h
        exact Or.inr ⟨hclean, h⟩
      · intro h
        exact (h.resolve_left (hclean e)).2

section Single

variable {α : Type} {variable_ key : String} {s : Section} {default_ : α}
  {convert : Document → Except ConversionError α}

/-- A setting fails just if it has a value that does not convert. -/
theorem setting_error_iff :
    setting w variable_ s key default_ convert = .error e ↔
      ∃ raw error, rawValue? w variable_ s key = some raw ∧ convert raw = .error error ∧
        e = conversionFault variable_ key raw error := by
  rw [setting]
  constructor
  · intro h
    split at h
    · cases h
    · rename_i raw hraw
      cases hconvert : convert raw with
      | ok a =>
          rw [hconvert] at h
          cases h
      | error error =>
          rw [hconvert] at h
          cases h
          exact ⟨raw, error, hraw, hconvert, rfl⟩
  · intro h
    obtain ⟨raw, error, hraw, herror, rfl⟩ := h
    rw [hraw]
    change (convert raw).mapError _ = _
    rw [herror]
    rfl

/-- A setting is its default or a value that is converted. -/
theorem setting_ok_iff {a : α} :
    setting w variable_ s key default_ convert = .ok a ↔
      (rawValue? w variable_ s key = none ∧ a = default_) ∨
        ∃ raw, rawValue? w variable_ s key = some raw ∧ convert raw = .ok a := by
  rw [setting]
  constructor
  · intro h
    split at h
    · rename_i hraw
      cases h
      exact Or.inl ⟨hraw, rfl⟩
    · rename_i raw hraw
      cases hconvert : convert raw with
      | ok a' =>
          rw [hconvert] at h
          cases h
          exact Or.inr ⟨raw, hraw, hconvert⟩
      | error error =>
          rw [hconvert] at h
          cases h
  · intro h
    obtain ⟨hraw, rfl⟩ | ⟨raw, hraw, hconvert⟩ := h
    · rw [hraw]
    · rw [hraw]
      change (convert raw).mapError _ = _
      rw [hconvert]
      rfl

end Single

/-- A setting that can fail in its conversion only. -/
theorem fails_iff {α : Type} (f : Field) (hf : f ≠ .maxLength) {default_ : α}
    {convert : Document → Except ConversionError α}
    (hconvert : ∀ raw error, convert raw = .error error ↔ f.Misfits w raw error)
    (e : ResolutionError) :
    setting w f.variable_ (sectionOf f.section_ entries) f.key default_ convert = .error e ↔
      f.Fails w entries e := by
  rw [setting_error_iff]
  constructor
  · intro h
    obtain ⟨raw, error, hraw, herror, rfl⟩ := h
    exact .misfit hraw ((hconvert raw error).mp herror)
  · intro h
    cases h with
    | misfit hraw herror => exact ⟨_, _, hraw, (hconvert _ _).mpr herror, rfl⟩
    | notPositive => exact absurd rfl hf

/-- A path for the log fails as a text or in its home, whatever directory it is taken from. -/
theorem toLogPath_error {raw : Document} {error : ConversionError} :
    toLogPath w base raw = .error error ↔
      raw.toText = .error error ∨
        error = .noHome ∧ ∃ t, raw.toText = .ok t ∧ w.expandHome? (Path.read t) = none := by
  rw [toLogPath]
  cases raw.toText with
  | error error₀ => simp [bind, Except.bind]
  | ok t =>
      cases hhome : w.expandHome? (Path.read t) with
      | none => simp [bind, Except.bind, hhome, throw, throwThe, MonadExceptOf.throw, eq_comm]
      | some p => simp [bind, Except.bind, hhome, pure, Except.pure]

/-- The greatest length fails as a setting. -/
theorem lengthSetting_error_iff (e : ResolutionError) :
    lengthSetting w (sectionOf "limits" entries) = .error e ↔
      Field.maxLength.Fails w entries e := by
  rw [lengthSetting]
  constructor
  · intro h
    cases hset : setting w "ONSITECALC_MAX_EXPRESSION_LENGTH" (sectionOf "limits" entries)
        "max_expression_length" default.maxLength Document.toInteger with
    | error e₀ =>
        rw [hset] at h
        cases h
        obtain ⟨raw, error, hraw, herror, rfl⟩ := setting_error_iff.mp hset
        exact .misfit (f := .maxLength) hraw herror
    | ok n =>
        rw [hset] at h
        change (if n < 1 then _ else _) = _ at h
        split at h
        · rename_i hlow
          cases h
          obtain ⟨_, rfl⟩ | ⟨raw, hraw, hn⟩ := setting_ok_iff.mp hset
          · -- the default is positive
            exact absurd hlow (by decide)
          · exact .notPositive hraw hn hlow
        · cases h
  · intro h
    cases h with
    | misfit hraw herror =>
        have hset : setting w "ONSITECALC_MAX_EXPRESSION_LENGTH" (sectionOf "limits" entries)
            "max_expression_length" default.maxLength Document.toInteger = .error _ :=
          setting_error_iff.mpr ⟨_, _, hraw, herror, rfl⟩
        rw [hset]
        rfl
    | @notPositive raw n hraw hn hlow =>
        have hset : setting w "ONSITECALC_MAX_EXPRESSION_LENGTH" (sectionOf "limits" entries)
            "max_expression_length" default.maxLength Document.toInteger = .ok n :=
          setting_ok_iff.mpr (Or.inr ⟨raw, hraw, hn⟩)
        rw [hset]
        exact if_pos hlow

/-- **The settings fail with the first failure among them.** -/
theorem fromEntries_error_iff :
    fromEntries w base entries = .error e ↔ FirstFailure w entries Field.all e := by
  rw [fromEntries]
  apply bind_error_iff lengthSetting_error_iff
  intro maxLength _
  apply bind_error_iff
    (fails_iff .logPath (by decide) fun raw error => map_eq_error_iff.trans toLogPath_error)
  intro logPath _
  apply bind_error_iff (fails_iff .logLevel (by decide) fun raw error => map_eq_error_iff)
  intro logLevel _
  apply bind_error_iff (fails_iff .endpoint (by decide) fun raw error => map_eq_error_iff)
  intro endpoint _
  apply bind_error_iff (fails_iff .model (by decide) fun raw error => map_eq_error_iff)
  intro model _
  apply bind_error_iff (fails_iff .timeout (by decide) fun raw error => Iff.rfl)
  intro timeout _
  apply bind_error_iff (fails_iff .maxRetries (by decide) fun raw error => Iff.rfl)
  intro maxRetries _
  constructor
  · intro h
    cases h
  · intro h
    cases h

end Resolution

end Settings

end Tapeline
