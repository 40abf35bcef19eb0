import Tapeline.Proofs.Settings.Fields
import Tapeline.Proofs.Settings.History

/-!
# Why settings do not resolve

The first setting that fails decides.  Most conversions that fail are the fault of a value, and the
failure names it.  Four failures are of another kind and escape: a document that is no table, an
infinite value where an integer is wanted, an integer too large for a number, and a path in an
unknown home.  Both kinds are described exactly (`Blamed`, `Escapes`), and together they are all the
failures of settings whose configuration file can be read (`resolve_error_iff`).
-/

namespace Tapeline

namespace Settings

/-! ## The two kinds of failure -/

/-- A value is at fault: it is of no use for the first setting that fails, or the greatest length is
not positive. -/
inductive Blamed (w : Workspace) (d : Document) : ResolutionError → Prop
  | misfit {entries : Section} {f : Field} {raw : Document} (hentries : entriesOf d = .ok entries)
      (hreached : f.Reached w entries) (hraw : f.raw? w entries = some raw)
      (herror : f.Misfits w raw .invalid) :
      Blamed w d (.invalidValue f.variable_.toList f.key.toList raw.shown?)
  | notPositive {entries : Section} {raw : Document} {n : Int}
      (hentries : entriesOf d = .ok entries) (hraw : Field.maxLength.raw? w entries = some raw)
      (hn : raw.toInteger = .ok n) (hlow : n < 1) :
      Blamed w d .lengthNotPositive

/-- A failure that names no value: the document is no table and does not count as empty, an integer
is wanted and the value is infinite, a number is wanted and the integer is too large for one, or the
path of the log starts in a home that is not known. -/
inductive Escapes (w : Workspace) (d : Document) : ResolutionError → Prop
  | document (hd : ∀ entries, d ≠ .table entries) (htruthy : d.isTruthy = true) :
      Escapes w d (.notATable d.typeName)
  | infinite {entries : Section} {f : Field} {negative : Bool}
      (hentries : entriesOf d = .ok entries) (hf : f = .maxLength ∨ f = .maxRetries)
      (hreached : f.Reached w entries)
      (hraw : f.raw? w entries = some (.number (.infinite negative))) :
      Escapes w d .infinite
  | tooLarge {entries : Section} {n : Int} (hentries : entriesOf d = .ok entries)
      (hreached : Field.timeout.Reached w entries)
      (hraw : Field.timeout.raw? w entries = some (.integer n))
      (hlarge : (Binary64.ofInt n).isFinite = false) :
      Escapes w d .tooLarge
  | noHome {entries : Section} {raw : Document} {t : Text} (hentries : entriesOf d = .ok entries)
      (hreached : Field.logPath.Reached w entries)
      (hraw : Field.logPath.raw? w entries = some raw) (ht : raw.toText = .ok t)
      (hhome : w.expandHome? (Path.read t) = none) :
      Escapes w d .noHome

section Kinds

variable {w : Workspace} {d : Document} {entries : Section} {e : ResolutionError}

/-- A document without entries escapes. -/
theorem entriesOf_error (h : entriesOf d = .error e) : Escapes w d e := by
  have hd : ∀ entries, d ≠ .table entries := by
    intro entries htable
    rw [htable] at h
    cases h
  rw [entriesOf] at h
  · split at h
    · rename_i htruthy
      cases h
      exact .document hd htruthy
    · cases h
  · exact hd

/-- A failure that names a value does not escape. -/
theorem not_escapes_invalidValue {variable_ key : Text} {shown : Option Text} :
    ¬ Escapes w d (.invalidValue variable_ key shown) := by
  intro h
  cases h

/-- The failure of a setting that is reached is of one of the two kinds. -/
theorem kind_of_fails {f : Field} (hentries : entriesOf d = .ok entries)
    (hreached : f.Reached w entries) (h : f.Fails w entries e) :
    Blamed w d e ∨ Escapes w d e := by
  cases h with
  | notPositive hraw hn hlow => exact Or.inl (.notPositive hentries hraw hn hlow)
  | misfit hraw herror =>
      obtain rfl | ⟨rfl, hf, negative, rfl⟩ | ⟨rfl, rfl, n, rfl, hlarge⟩ | ⟨rfl, rfl, t, ht, hhome⟩ :=
        Field.misfits_cases herror
      · exact Or.inl (.misfit hentries hreached hraw herror)
      · exact Or.inr (.infinite hentries hf hreached hraw)
      · exact Or.inr (.tooLarge hentries hreached hraw hlarge)
      · exact Or.inr (.noHome hentries hreached hraw ht hhome)

/-- Nothing stands before the greatest length. -/
theorem reached_maxLength : Field.maxLength.Reached w entries := by
  intro g hg
  cases hg

/-- A value at fault is the failure of a setting that is reached. -/
theorem Blamed.fails (h : Blamed w d e) :
    ∃ entries f, entriesOf d = .ok entries ∧ Field.Reached w entries f ∧
      Field.Fails w entries f e := by
  cases h with
  | misfit hentries hreached hraw herror =>
      exact ⟨_, _, hentries, hreached, .misfit hraw herror⟩
  | notPositive hentries hraw hn hlow =>
      exact ⟨_, _, hentries, reached_maxLength, .notPositive hraw hn hlow⟩

/-- A failure that escapes is that of the document or of a setting that is reached. -/
theorem Escapes.fails (h : Escapes w d e) :
    entriesOf d = .error e ∨
      ∃ entries f, entriesOf d = .ok entries ∧ Field.Reached w entries f ∧
        Field.Fails w entries f e := by
  cases h with
  | document hd htruthy =>
      apply Or.inl
      rw [entriesOf, if_pos htruthy]
      exact hd
  | @infinite entries f negative hentries hf hreached hraw =>
      have herror : f.Misfits w (.number (.infinite negative)) .infinite := by
        obtain rfl | rfl := hf
        · rfl
        · rfl
      exact Or.inr ⟨entries, f, hentries, hreached, .misfit hraw herror⟩
  | @tooLarge entries n hentries hreached hraw hlarge =>
      have herror : Field.timeout.Misfits w (.integer n) .tooLarge := by
        change Document.toNumber _ = _
        rw [Document.toNumber, hlarge]
        rfl
      exact Or.inr ⟨entries, .timeout, hentries, hreached, .misfit hraw herror⟩
  | @noHome entries raw t hentries hreached hraw ht hhome =>
      have herror : Field.logPath.Misfits w raw .noHome := Or.inr ⟨rfl, t, ht, hhome⟩
      exact Or.inr ⟨entries, .logPath, hentries, hreached, .misfit hraw herror⟩

/-- Either kind is the failure of the document or of a setting that is reached. -/
theorem fails_of_kind (h : Blamed w d e ∨ Escapes w d e) :
    entriesOf d = .error e ∨
      ∃ entries f, entriesOf d = .ok entries ∧ Field.Reached w entries f ∧
        Field.Fails w entries f e := by
  cases h with
  | inl h => exact Or.inr h.fails
  | inr h => exact h.fails

/-! ## The configuration file -/

/-- The directory and the document of a configuration file.  Without a file there is no directory,
and the document is empty. -/
def readSource (w : Workspace) :
    Option Path → Except ResolutionError (Option Path × Document)
  | none => .ok (none, .table [])
  | some file =>
    match w.expandHome? file with
    | none => .error .noHome
    | some file => do
      let file := file.resolve w.directory
      return (some file.parent, ← readDocument w file)

/-- Resolving is reading the file and then resolving the settings. -/
theorem resolve_eq (w : Workspace) (file : Option Path) :
    resolve w file = (do
      let (base, d) ← readSource w file
      fromEntries w base (← entriesOf d)) := by
  cases file with
  | none => rfl
  | some file =>
      rw [resolve, readSource]
      cases w.expandHome? file with
      | none => rfl
      | some file => cases hread : readDocument w (file.resolve w.directory) <;>
          simp [hread, bind, Except.bind, pure, Except.pure]

/-- **The failures of settings whose file can be read.** -/
theorem resolve_error_iff {file : Option Path} {base : Option Path}
    (h : readSource w file = .ok (base, d)) :
    resolve w file = .error e ↔ Blamed w d e ∨ Escapes w d e := by
  have hsource : resolve w file = entriesOf d >>= fromEntries w base := by
    rw [resolve_eq, h]
    rfl
  rw [hsource]
  cases hentries : entriesOf d with
  | error e₀ =>
      constructor
      · intro heq
        cases heq
        exact Or.inr (entriesOf_error hentries)
      · intro hkind
        cases fails_of_kind hkind with
        | inl herror => rw [← hentries, herror]; rfl
        | inr hfails =>
            obtain ⟨entries, f, hok, _⟩ := hfails
            rw [hentries] at hok
            cases hok
  | ok entries =>
      change fromEntries w base entries = _ ↔ _
      rw [fromEntries_error_iff, firstFailure_all]
      constructor
      · intro hfirst
        obtain ⟨f, hreached, hf⟩ := hfirst
        exact kind_of_fails hentries hreached hf
      · intro hkind
        cases fails_of_kind hkind with
        | inl herror =>
            rw [hentries] at herror
            cases herror
        | inr hfails =>
            obtain ⟨entries', f, hok, hreached, hf⟩ := hfails
            rw [hentries] at hok
            cases hok
            exact ⟨f, hreached, hf⟩

end Kinds

end Settings

namespace Session

open Settings (Cache Blamed Escapes readSource)

/-- The configuration file that is asked for. -/
def Query.file (w : Workspace) : Query → Except Settings.ResolutionError (Option Path)
  | environment _ => Settings.Cache.environmentFile w
  | named file =>
    match w.expandHome? (Path.read file) with
    | some p => .ok (some p)
    | none => .error .noHome

/-- The directory and the document of the configuration file that is asked for. -/
def Query.source (w : Workspace) (query : Query) :
    Except Settings.ResolutionError (Option Path × Document) :=
  query.file w >>= readSource w

/-- Are settings built for a request, and not answered as they are kept? -/
def Query.Builds (s : Session) : Query → Prop
  | environment refresh => refresh = true ∨ ¬ KeepsCurrent s
  | named _ => True

variable {s s' : Session} {query : Query} {fault : Fault} {file : Option Path}

/-- What is kept is answered. -/
theorem ask_of_not_builds (h : ¬ query.Builds s) : ∃ numbered, ask query s = .ok numbered s := by
  cases query with
  | environment refresh =>
      obtain ⟨hrefresh, hcurrent⟩ := not_or.mp h
      obtain rfl : refresh = false := eq_false_of_ne_true hrefresh
      obtain ⟨source, numbered, hkept, hsource⟩ := Classical.not_not.mp hcurrent
      exact ⟨numbered, settings_kept hkept hsource⟩
  | named file => exact absurd trivial h

/-- What is built is resolved, and then it is kept or only counted. -/
theorem ask_of_builds (h : query.Builds s) (hfile : query.file s.workspace = .ok file) :
    ∃ keep : Tapeline.Settings → Action Settings.Numbered,
      (∀ built, ∃ numbered s', keep built s = .ok numbered s') ∧
      ask query s = (attempt .settings (Settings.resolve s.workspace file) >>= keep) s := by
  cases query with
  | environment refresh =>
      have hsource : attempt .settings (Cache.environmentFile s.workspace) s = .ok file s := by
        have hok : Cache.environmentFile s.workspace = .ok file := hfile
        rw [hok]
        rfl
      refine ⟨_, ?_, by rw [ask, settings_rebuild h, rebuild, get_bind, bind_ok hsource]⟩
      intro built
      exact ⟨_, _, rfl⟩
  | named name =>
      rw [Query.file] at hfile
      cases hhome : s.workspace.expandHome? (Path.read name) with
      | none =>
          rw [hhome] at hfile
          cases hfile
      | some p =>
          rw [hhome] at hfile
          cases hfile
          refine ⟨fun built => do
            set { s with cache := { s.cache with count := s.cache.count + 1 } }
            return ⟨built, s.cache.count + 1⟩, fun built => ⟨_, _, rfl⟩, ?_⟩
          rw [ask, settingsFor, get_bind, Cache.settingsFor]
          cases hresolve : Settings.resolve s.workspace (some p) <;>
            simp only [hhome, hresolve, bind, Except.bind] <;> rfl

/-- A request fails just if settings are built for it and do not resolve, and it changes nothing. -/
theorem ask_error_iff (hfile : query.file s.workspace = .ok file) :
    ask query s = .error fault s' ↔
      s' = s ∧ query.Builds s ∧
        ∃ e, fault = .settings e ∧ Settings.resolve s.workspace file = .error e := by
  by_cases h : query.Builds s
  · obtain ⟨keep, hkeep, hask⟩ := ask_of_builds h hfile
    rw [hask]
    cases hresolve : Settings.resolve s.workspace file with
    | error e =>
        have hfail : attempt .settings (.error e : Except _ Tapeline.Settings) s =
            .error (.settings e) s := rfl
        rw [bind_error hfail]
        constructor
        · intro heq
          cases heq
          exact ⟨rfl, h, e, rfl, rfl⟩
        · intro heq
          obtain ⟨rfl, _, e', rfl, hsame⟩ := heq
          cases hsame
          rfl
    | ok built =>
        have hdone : attempt .settings (.ok built : Except Settings.ResolutionError _) s =
            .ok built s := rfl
        obtain ⟨numbered, s₁, hbuilt⟩ := hkeep built
        rw [bind_ok hdone, hbuilt]
        constructor
        · intro heq
          cases heq
        · intro heq
          obtain ⟨_, _, e, _, hsame⟩ := heq
          cases hsame
  · obtain ⟨numbered, hask⟩ := ask_of_not_builds h
    rw [hask]
    constructor
    · intro heq
      cases heq
    · intro heq
      exact absurd heq.2.1 h

/-- **What a request for settings fails with, where its configuration file can be read.**  It fails
just if settings are built for it and either a value is at fault, which the failure blames, or a
failure of another kind escapes.  Every value that an integer or a number cannot be made of is blamed
by the names of its variable and its key, except an infinite one where an integer is wanted and an
integer that is too large for a number.  A request that fails leaves the session as it was. -/
theorem ask_faults {base : Option Path} {d : Document}
    (h : query.source s.workspace = .ok (base, d)) :
    ask query s = .error fault s' ↔
      s' = s ∧ query.Builds s ∧
        ∃ e, fault = .settings e ∧ (Blamed s.workspace d e ∨ Escapes s.workspace d e) := by
  obtain ⟨file, hfile, hread⟩ : ∃ file, query.file s.workspace = .ok file ∧
      readSource s.workspace file = .ok (base, d) := by
    rw [Query.source] at h
    cases hfile : query.file s.workspace with
    | error e =>
        rw [hfile] at h
        cases h
    | ok file =>
        rw [hfile] at h
        exact ⟨file, rfl, h⟩
  simp only [ask_error_iff hfile, Settings.resolve_error_iff hread]

/-- A list in the place of the greatest length is blamed. -/
theorem ask_listed_length :
    let text := "[limits]\nmax_expression_length = [300]\n".toList
    let w : Workspace :=
      ⟨⟨[], .superuser⟩, [], FileTree.empty.put ["c.toml".toList] (.file (Utf8.encode text))⟩
    let s := start w .zero 0
    let query := Query.named "c.toml".toList
    let fault := Settings.ResolutionError.invalidValue "ONSITECALC_MAX_EXPRESSION_LENGTH".toList
      "max_expression_length".toList (some "[300]".toList)
    ask query s = .error (.settings fault) s ∧
      ∃ base d, query.source w = .ok (base, d) ∧ Blamed w d fault := by
  intro text w s query fault
  have hread : (query.source w).isOk = true := by decide +kernel
  have hfault : (match ask query s with
      | .error (.settings e) _ => e == fault
      | _ => false) = true := by decide +kernel
  have hask : ask query s = .error (.settings fault) s := by
    split at hfault
    · rename_i e s' hask
      rw [hask, ask_error hask, eq_of_beq hfault]
    · cases hfault
  refine ⟨hask, ?_⟩
  cases hsource : query.source w with
  | error e =>
      rw [hsource] at hread
      cases hread
  | ok source =>
      obtain ⟨base, d⟩ := source
      obtain ⟨-, -, e, he, hkind⟩ := (ask_faults (s := s) hsource).mp hask
      cases he
      cases hkind with
      | inl hblamed => exact ⟨base, d, rfl, hblamed⟩
      | inr hescapes => exact absurd hescapes Settings.not_escapes_invalidValue

/-- An infinite greatest length escapes, although the file can be read. -/
theorem ask_infinite_length :
    let text := "[limits]\nmax_expression_length = inf\n".toList
    let w : Workspace :=
      ⟨⟨[], .superuser⟩, [], FileTree.empty.put ["c.toml".toList] (.file (Utf8.encode text))⟩
    let s := start w .zero 0
    let query := Query.named "c.toml".toList
    (query.source w).isOk = true ∧ ask query s = .error (.settings .infinite) s := by
  intro text w s query
  have hread : (query.source w).isOk = true := by decide +kernel
  have hfault : (match ask query s with
      | .error (.settings e) _ => e == .infinite
      | _ => false) = true := by decide +kernel
  refine ⟨hread, ?_⟩
  split at hfault
  · rename_i e s' hask
    rw [hask, ask_error hask, eq_of_beq hfault]
  · cases hfault

end Session

end Tapeline
