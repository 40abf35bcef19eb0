import Tapeline.Session

/-!
# The kept settings over whole runs

A run is any sequence of changes of the workspace, requests for settings and resets.  Its history is
what was answered and when the settings were forgotten.  Whether an answer was kept or built is read
off its number: nothing that was answered before has the number of a new one.

What a session keeps after a run is what was built last for the environment since the last reset,
beside the file that the environment named then (`run_settings`).  One lemma says what a request
does (`ask_cases`), one what a step preserves (`Faithful.step`), and the run follows by induction.
-/

namespace Tapeline

namespace Session

open Settings (Numbered Cache)

/-! ## Runs and their history -/

/-- How settings are asked for: from the environment, or from a file that the caller names. -/
inductive Query where
  | environment (refresh : Bool)
  | named (file : Text)

/-- The settings that are asked for. -/
def ask : Query → Action Numbered
  | .environment refresh => settings refresh
  | .named file => settingsFor file

/-- A step of a run: the environment, the working directory or the files change in any way, or
settings are asked for, or they are forgotten. -/
inductive Step where
  | change (w : Workspace)
  | ask (query : Query)
  | reset

/-- What a history tells: an answer with the workspace that it was given in, or a reset.  A request
that fails leaves no entry. -/
inductive Entry where
  | answered (query : Query) (w : Workspace) (numbered : Numbered)
  | forgotten

/-- Is this an answer with a number? -/
def Entry.hasNumber (number : Nat) : Entry → Bool
  | answered _ _ numbered => numbered.number == number
  | forgotten => false

/-- Was a number answered? -/
def WasAnswered (number : Nat) (history : List Entry) : Prop :=
  ∃ entry ∈ history, entry.hasNumber number

instance (number : Nat) (history : List Entry) : Decidable (WasAnswered number history) :=
  inferInstanceAs (Decidable (∃ entry ∈ history, entry.hasNumber number = true))

/-- The last settings that were built for the environment since the last reset, with the workspace
that they were built in.  The newest entry of a history is its first. -/
def lastBuilt? : List Entry → Option (Workspace × Numbered)
  | [] => none
  | .forgotten :: _ => none
  | .answered (.named _) _ _ :: earlier => lastBuilt? earlier
  | .answered (.environment _) w numbered :: earlier =>
    if WasAnswered numbered.number earlier then lastBuilt? earlier else some (w, numbered)

/-- A session with its history. -/
structure Course where
  session : Session
  history : List Entry

/-- The course after a step. -/
def Course.step (c : Course) : Step → Course
  | .change workspace => { c with session := { c.session with workspace } }
  | .ask query =>
    match Session.ask query c.session with
    | .ok numbered session =>
      ⟨session, .answered query c.session.workspace numbered :: c.history⟩
    | .error _ session => { c with session }
  | .reset =>
    match resetSettings c.session with
    | .ok _ session => ⟨session, .forgotten :: c.history⟩
    | .error _ session => { c with session }

/-- The course after steps. -/
def Course.run (c : Course) (steps : List Step) : Course :=
  steps.foldl Course.step c

/-- Nothing has happened yet. -/
def Course.start (w : Workspace) (now : Binary64) (firstTrace : Nat) : Course :=
  ⟨.start w now firstTrace, []⟩

/-! ## What a request does -/

/-- A session keeps settings from the file that its environment names. -/
def KeepsCurrent (s : Session) : Prop :=
  ∃ source numbered, s.cache.kept = some (source, numbered) ∧
    Cache.environmentFile s.workspace = .ok source

/-- Settings are built for the environment and kept, whatever was kept before. -/
def rebuild : Action Numbered := do
  let s ← get
  let source ← attempt .settings (Cache.environmentFile s.workspace)
  let built ← attempt .settings (Settings.resolve s.workspace source)
  let numbered : Numbered := ⟨built, s.cache.count + 1⟩
  set { s with cache := ⟨some (source, numbered), s.cache.count + 1⟩ }
  return numbered

variable {s s' : Session} {source : Option Path} {numbered : Numbered} {fault : Fault}

/-- What is kept for the file that the environment names is answered. -/
theorem settings_kept (hkept : s.cache.kept = some (source, numbered))
    (hsource : Cache.environmentFile s.workspace = .ok source) :
    settings false s = .ok numbered s := by
  have hcache : s.cache.settings s.workspace false = .ok (numbered, s.cache) := by
    simp [Cache.settings, Cache.keptFor?, hkept, hsource, bind, Except.bind, pure, Except.pure]
  exact settings_ok hcache

/-- What is kept beside another file is not found. -/
theorem keptFor?_eq_none (hsource : Cache.environmentFile s.workspace = .ok source)
    (hstale : ¬ KeepsCurrent s) : s.cache.keptFor? source = none := by
  cases hkept : s.cache.kept with
  | none => simp [Cache.keptFor?, hkept]
  | some kept =>
      have hne : kept.1 ≠ source := by
        intro heq
        exact hstale ⟨kept.1, kept.2, hkept, heq ▸ hsource⟩
      simp [Cache.keptFor?, hkept, hne]

/-- With a refresh, or if nothing is kept for that file, settings are built anew. -/
theorem settings_rebuild {refresh : Bool} (h : refresh = true ∨ ¬ KeepsCurrent s) :
    settings refresh s = rebuild s := by
  rw [settings, rebuild, get_bind, get_bind]
  simp only [Cache.settings, bind, EStateM.bind]
  cases hsource : Cache.environmentFile s.workspace with
  | error e => rfl
  | ok source =>
      have hmiss : (if refresh = true then none else s.cache.keptFor? source) = none := by
        by_cases hrefresh : refresh = true
        · rw [if_pos hrefresh]
        · rw [if_neg hrefresh, keptFor?_eq_none hsource (h.resolve_left hrefresh)]
      simp only [Except.bind, hmiss, attempt, pure, EStateM.pure]
      cases Settings.resolve s.workspace source <;> rfl

/-- Building fails and changes nothing, or its result is new and kept beside its file. -/
theorem rebuild_cases (s : Session) :
    (∃ fault, rebuild s = .error fault s) ∨
    ∃ source built, Cache.environmentFile s.workspace = .ok source ∧
      Settings.resolve s.workspace source = .ok built ∧
      rebuild s = .ok ⟨built, s.cache.count + 1⟩
        { s with cache := ⟨some (source, ⟨built, s.cache.count + 1⟩), s.cache.count + 1⟩ } := by
  rw [rebuild, get_bind]
  simp only [bind, EStateM.bind]
  cases hsource : Cache.environmentFile s.workspace with
  | error e => exact .inl ⟨_, rfl⟩
  | ok source =>
      cases hbuilt : Settings.resolve s.workspace source with
      | error e =>
          refine .inl ⟨.settings e, ?_⟩
          simp only [attempt, pure, EStateM.pure, hbuilt]
          rfl
      | ok built =>
          refine .inr ⟨source, built, rfl, hbuilt, ?_⟩
          simp only [attempt, pure, EStateM.pure, hbuilt]
          rfl

/-- A named file that fails changes nothing, and one that resolves is only counted. -/
theorem settingsFor_cases (file : Text) (s : Session) :
    (∃ fault, settingsFor file s = .error fault s) ∨
    ∃ built, settingsFor file s = .ok ⟨built, s.cache.count + 1⟩
      { s with cache := { s.cache with count := s.cache.count + 1 } } := by
  rw [settingsFor, get_bind]
  simp only [Cache.settingsFor, bind, EStateM.bind]
  cases s.workspace.expandHome? (Path.read file) with
  | none => exact .inl ⟨_, rfl⟩
  | some p =>
      simp only [Except.bind]
      cases Settings.resolve s.workspace (some p) with
      | error e => exact .inl ⟨_, rfl⟩
      | ok built => exact .inr ⟨built, rfl⟩

/-- **The four ends of a request.**  It fails and changes nothing; or it answers what is kept; or it
builds settings for the environment and keeps them; or it builds those of a named file. -/
theorem ask_cases (query : Query) (s : Session) :
    (∃ fault, ask query s = .error fault s) ∨
    (∃ source numbered, query = .environment false ∧ s.cache.kept = some (source, numbered) ∧
      ask query s = .ok numbered s) ∨
    (∃ refresh source built, query = .environment refresh ∧
      Cache.environmentFile s.workspace = .ok source ∧
      Settings.resolve s.workspace source = .ok built ∧
      ask query s = .ok ⟨built, s.cache.count + 1⟩
        { s with cache := ⟨some (source, ⟨built, s.cache.count + 1⟩), s.cache.count + 1⟩ }) ∨
    (∃ file built, query = .named file ∧
      ask query s = .ok ⟨built, s.cache.count + 1⟩
        { s with cache := { s.cache with count := s.cache.count + 1 } }) := by
  cases query with
  | environment refresh =>
      by_cases h : refresh = true ∨ ¬ KeepsCurrent s
      · have hask : ask (.environment refresh) s = rebuild s := settings_rebuild h
        rw [hask]
        obtain hfail | ⟨source, built, hsource, hbuilt, hanswer⟩ := rebuild_cases s
        · exact .inl hfail
        · exact .inr (.inr (.inl ⟨refresh, source, built, rfl, hsource, hbuilt, hanswer⟩))
      · obtain ⟨hrefresh, hcurrent⟩ := not_or.mp h
        obtain rfl : refresh = false := by simpa using hrefresh
        obtain ⟨source, numbered, hkept, hsource⟩ := Classical.not_not.mp hcurrent
        exact .inr (.inl ⟨source, numbered, rfl, hkept, settings_kept hkept hsource⟩)
  | named file =>
      obtain hfail | ⟨built, hanswer⟩ := settingsFor_cases file s
      · exact .inl hfail
      · exact .inr (.inr (.inr ⟨file, built, rfl, hanswer⟩))

/-- A request that fails leaves the session as it was. -/
theorem ask_error {query : Query} (h : ask query s = .error fault s') : s' = s := by
  obtain ⟨_, hask⟩ | ⟨_, _, _, _, hask⟩ | ⟨_, _, _, _, _, _, hask⟩ | ⟨_, _, _, hask⟩ :=
    ask_cases query s
  all_goals
    rw [hask] at h
    cases h
  rfl

/-! ## What a step preserves -/

/-- What is kept was built last, in a workspace whose environment named the file beside it; where
nothing is kept, nothing was built since the last reset. -/
def KeepsLastBuilt (s : Session) (history : List Entry) : Prop :=
  match s.cache.kept with
  | none => lastBuilt? history = none
  | some (source, numbered) => ∃ w, lastBuilt? history = some (w, numbered) ∧
      Cache.environmentFile w = .ok source ∧ Settings.resolve w source = .ok numbered.settings

/-- A course whose session keeps what was built last and has counted every answer. -/
structure Course.Faithful (c : Course) : Prop where
  kept : KeepsLastBuilt c.session c.history
  counted : ∀ number, WasAnswered number c.history → number ≤ c.session.cache.count

/-- A number was answered by the last request or by an earlier one. -/
theorem wasAnswered_cons {number : Nat} {entry : Entry} {history : List Entry} :
    WasAnswered number (entry :: history) ↔
      entry.hasNumber number = true ∨ WasAnswered number history := by
  simp [WasAnswered]

/-- What was built last was answered. -/
theorem wasAnswered_of_lastBuilt? {w : Workspace} {history : List Entry}
    (h : lastBuilt? history = some (w, numbered)) : WasAnswered numbered.number history := by
  induction history using lastBuilt?.induct with
  | case1 => cases h
  | case2 => cases h
  | case3 file w' other earlier ih => exact wasAnswered_cons.mpr (.inr (ih h))
  | case4 refresh w' other earlier hold ih =>
      rw [lastBuilt?, if_pos hold] at h
      exact wasAnswered_cons.mpr (.inr (ih h))
  | case5 refresh w' other earlier hnew =>
      rw [lastBuilt?, if_neg hnew] at h
      cases h
      exact wasAnswered_cons.mpr (.inl (by simp [Entry.hasNumber]))

namespace Course

variable {c : Course}

/-- The next number is new. -/
theorem Faithful.fresh (h : c.Faithful) : ¬ WasAnswered (c.session.cache.count + 1) c.history := by
  intro hanswered
  have hle := h.counted _ hanswered
  omega

/-- A course starts with nothing kept and nothing counted. -/
theorem Faithful.start (w : Workspace) (now : Binary64) (firstTrace : Nat) :
    (Course.start w now firstTrace).Faithful where
  kept := rfl
  counted := by
    rintro number ⟨entry, hentry, _⟩
    cases hentry

/-- An answer with a number that is counted keeps the numbers counted. -/
theorem counted_answered {count count' : Nat} {history : List Entry} (query : Query) (w : Workspace)
    (h : ∀ number, WasAnswered number history → number ≤ count) (hle : count ≤ count')
    (hnumber : numbered.number ≤ count') (number : Nat)
    (hanswered : WasAnswered number (.answered query w numbered :: history)) :
    number ≤ count' := by
  obtain hfirst | hearlier := wasAnswered_cons.mp hanswered
  · have heq : numbered.number = number := by simpa [Entry.hasNumber] using hfirst
    omega
  · exact Nat.le_trans (h number hearlier) hle

/-- **Every step keeps a course faithful.** -/
theorem Faithful.step (h : c.Faithful) (t : Step) : (c.step t).Faithful := by
  cases t with
  | change w => exact ⟨h.kept, h.counted⟩
  | reset =>
      refine ⟨rfl, fun number hanswered => h.counted number ?_⟩
      obtain hfirst | hearlier := wasAnswered_cons.mp hanswered
      · cases hfirst
      · exact hearlier
  | ask query =>
      simp only [Course.step]
      obtain ⟨fault, hask⟩ | ⟨source, numbered, rfl, hkept, hask⟩ |
        ⟨refresh, source, built, rfl, hsource, hbuilt, hask⟩ | ⟨file, built, rfl, hask⟩ :=
        ask_cases query c.session
      · rw [hask]
        exact h
      · -- the kept settings were answered before, so that this answer is not counted as built
        have hlast := h.kept
        simp only [KeepsLastBuilt, hkept] at hlast
        obtain ⟨w, hbuilt, hpair⟩ := hlast
        have hold := wasAnswered_of_lastBuilt? hbuilt
        rw [hask]
        constructor
        · simp only [KeepsLastBuilt, hkept, lastBuilt?, if_pos hold]
          exact ⟨w, hbuilt, hpair⟩
        · exact counted_answered _ _ h.counted (Nat.le_refl _) (h.counted _ hold)
      · rw [hask]
        constructor
        · simp only [KeepsLastBuilt, lastBuilt?, if_neg h.fresh]
          exact ⟨c.session.workspace, rfl, hsource, hbuilt⟩
        · exact counted_answered _ _ h.counted (Nat.le_succ _) (Nat.le_refl _)
      · rw [hask]
        exact ⟨h.kept, counted_answered _ _ h.counted (Nat.le_succ _) (Nat.le_refl _)⟩

/-- A run keeps faith, by induction on its steps. -/
theorem Faithful.run (h : c.Faithful) (steps : List Step) : (c.run steps).Faithful := by
  induction steps generalizing c with
  | nil => exact h
  | cons t steps ih => exact ih (h.step t)

end Course

/-! ## The kept settings after a run -/

/-- What is built has a number that was not answered before. -/
theorem fresh_of_rebuild {c : Course} (h : c.Faithful)
    (hanswer : rebuild c.session = .ok numbered s') : ¬ WasAnswered numbered.number c.history := by
  obtain ⟨fault, hrebuild⟩ | ⟨source, built, _, _, hrebuild⟩ := rebuild_cases c.session
  · rw [hrebuild] at hanswer
    cases hanswer
  · rw [hrebuild] at hanswer
    cases hanswer
    exact h.fresh

/-- A named file leaves what is kept as it was. -/
theorem kept_of_settingsFor {file : Text} (hanswer : settingsFor file s = .ok numbered s') :
    s'.cache.kept = s.cache.kept := by
  obtain ⟨fault, hfile⟩ | ⟨built, hfile⟩ := settingsFor_cases file s
  · rw [hfile] at hanswer
    cases hanswer
  · rw [hfile] at hanswer
    cases hanswer
    rfl

/-- The answer is the kept one exactly if the environment names the file beside it: what is built
has another number. -/
theorem settings_eq_kept_iff {c : Course} (h : c.Faithful)
    (hkept : c.session.cache.kept = some (source, numbered)) :
    (∃ s', settings false c.session = .ok numbered s') ↔
      Cache.environmentFile c.session.workspace = .ok source := by
  constructor
  · rintro ⟨s', hanswer⟩
    apply Classical.byContradiction
    intro hsource
    have hstale : ¬ KeepsCurrent c.session := by
      rintro ⟨source', numbered', hkept', hsource'⟩
      rw [hkept] at hkept'
      cases hkept'
      exact hsource hsource'
    rw [settings_rebuild (.inr hstale)] at hanswer
    have hlast := h.kept
    simp only [KeepsLastBuilt, hkept] at hlast
    obtain ⟨w, hbuilt, _⟩ := hlast
    exact fresh_of_rebuild h hanswer (wasAnswered_of_lastBuilt? hbuilt)
  · intro hsource
    exact ⟨c.session, settings_kept hkept hsource⟩

/-- **The kept settings over a whole run.**  After any steps, what is kept is what was built last for
the environment since the last reset, and the file beside it is the one that the environment named
then.  A plain request answers just that, whatever the files are, and changes nothing, exactly if
the environment names that file; otherwise, and with a refresh, it builds anew.  A named file leaves
what is kept as it was, and a request that fails leaves the session as it was. -/
theorem run_settings (w : Workspace) (now : Binary64) (firstTrace : Nat) (steps : List Step) :
    let c := (Course.start w now firstTrace).run steps
    let s := c.session
    KeepsLastBuilt s c.history ∧
    (∀ source numbered, s.cache.kept = some (source, numbered) →
      ((∃ s', settings false s = .ok numbered s') ↔
        Cache.environmentFile s.workspace = .ok source)) ∧
    (∀ source numbered, s.cache.kept = some (source, numbered) →
      Cache.environmentFile s.workspace = .ok source → ∀ files,
        let s₁ := { s with workspace := { s.workspace with files } }
        settings false s₁ = .ok numbered s₁) ∧
    (∀ refresh, refresh = true ∨ ¬ KeepsCurrent s → settings refresh s = rebuild s) ∧
    (∀ numbered s', rebuild s = .ok numbered s' → ¬ WasAnswered numbered.number c.history) ∧
    (∀ file numbered s', settingsFor file s = .ok numbered s' → s'.cache.kept = s.cache.kept) ∧
    (∀ query fault s', ask query s = .error fault s' → s' = s) := by
  intro c s
  have h : c.Faithful := (Course.Faithful.start w now firstTrace).run steps
  refine ⟨h.kept, fun source numbered => settings_eq_kept_iff h, ?_, fun refresh =>
    settings_rebuild, fun numbered s' => fresh_of_rebuild h, fun file numbered s' =>
    kept_of_settingsFor, fun query fault s' => ask_error⟩
  intro source numbered hkept hsource files
  exact settings_kept hkept hsource

/-- A limit that is set is seen only after a reset. -/
example :
    let w : Workspace := ⟨⟨[], .superuser⟩, [], .empty⟩
    let limited := w.setVariable "ONSITECALC_MAX_EXPRESSION_LENGTH".toList "10".toList
    let plain : Step := .ask (.environment false)
    ((Course.start w .zero 0).run [plain, .change limited, plain, .reset, plain]).history.map
      (fun | .answered _ _ numbered => some (numbered.number, numbered.settings.maxLength)
           | .forgotten => none) =
      [some (2, 10), none, some (1, 300), some (1, 300)] := by
  decide +kernel

end Session

end Tapeline
