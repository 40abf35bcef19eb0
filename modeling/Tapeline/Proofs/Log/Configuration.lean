import Tapeline.Session

/-!
# Configuring the logger

The logger is configured in steps: the level is found, the logger gets it and loses its handlers,
the directories of the file are made, the file is opened, and the handler is installed.  Each step
either fails or does one thing (`makeDirectories_cases`, `openFile_cases`), so there are three ends
(`configureLog_cases`): an unknown level changes nothing, a file that cannot be opened leaves the
logger with the level and without a handler, and otherwise the logger has the level and one handler
(`configureLog_outcome`).
-/

namespace Tapeline

namespace Session

open Log (Handler LevelChoice Logger)

variable {s s' : Session} {path : Option Path} {choice : LevelChoice} {fault : Fault}

/-- A session with other files. -/
def withFiles (s : Session) (files : FileTree) : Session :=
  { s with workspace := { s.workspace with files } }

/-- A session with another logger. -/
def withLogger (s : Session) (logger : Logger) : Session :=
  { s with logger }

/-! ## The steps -/

/-- Making directories changes files only, and its failure is one of files. -/
theorem makeDirectories_cases (p : Path) (s : Session) :
    (∃ files, makeDirectories p s = .ok () (s.withFiles files)) ∨
      ∃ e files, makeDirectories p s = .error (.log (.file e)) (s.withFiles files) := by
  rw [makeDirectories, get_bind]
  obtain ⟨made, files⟩ := FileTree.makeDirectories s.workspace.directory p.names.length p
    s.workspace.files
  cases made with
  | ok done => exact Or.inl ⟨files, rfl⟩
  | error e => exact Or.inr ⟨e, files, rfl⟩

/-- Opening a file changes files only, and where it fails it changes nothing. -/
theorem openFile_cases (p : Path) (s : Session) :
    (∃ files, openFile p s = .ok (p.normalize s.workspace.directory) (s.withFiles files)) ∨
      ∃ e, openFile p s = .error (.log (.file e)) s := by
  rw [openFile, get_bind]
  simp only [bind, EStateM.bind]
  cases s.workspace.files.updateFile s.workspace.directory
      (p.normalize s.workspace.directory) id with
  | ok files => exact Or.inl ⟨files, rfl⟩
  | error e => exact Or.inr ⟨e, rfl⟩

/-- The handler for a path: its directories are made and the file is opened. -/
def openHandler : Option Path → Action Handler
  | none => pure .silent
  | some p => do
    makeDirectories p.parent
    return .file (← openFile p)

/-- The handler for a path is a file exactly if there is a path. -/
def handlerFor (directory : List Text) : Option Path → Handler
  | none => .silent
  | some p => .file (p.normalize directory)

/-- The handler for a path is made, or a file cannot be opened. -/
theorem openHandler_cases (path : Option Path) (s : Session) :
    (∃ files, openHandler path s =
        .ok (handlerFor s.workspace.directory path) (s.withFiles files)) ∨
      ∃ e files, path.isSome = true ∧
        openHandler path s = .error (.log (.file e)) (s.withFiles files) := by
  cases path with
  | none => exact Or.inl ⟨s.workspace.files, rfl⟩
  | some p =>
      rw [openHandler]
      obtain ⟨made, hmade⟩ | ⟨e, made, hmade⟩ := makeDirectories_cases p.parent s
      · obtain ⟨files, hopen⟩ | ⟨e, hopen⟩ := openFile_cases p (s.withFiles made)
        · refine Or.inl ⟨files, ?_⟩
          rw [bind_ok hmade, bind_ok hopen]
          rfl
        · refine Or.inr ⟨e, made, rfl, ?_⟩
          rw [bind_ok hmade, bind_error hopen]
      · exact Or.inr ⟨e, made, rfl, bind_error hmade _⟩

/-- Where the directories are made but the file is not opened, the failure is that of the file. -/
theorem openHandler_of_updateFile {p : Path} {files : FileTree} {e : FileError}
    (hmade : FileTree.makeDirectories s.workspace.directory p.parent.names.length p.parent
      s.workspace.files = (.ok (), files))
    (hopen : files.updateFile s.workspace.directory (p.normalize s.workspace.directory) id =
      .error e) :
    openHandler (some p) s = .error (.log (.file e)) (s.withFiles files) := by
  have hdone : makeDirectories p.parent s = .ok () (s.withFiles files) := by
    rw [makeDirectories, get_bind, hmade]
    rfl
  have hfail : openFile p (s.withFiles files) = .error (.log (.file e)) (s.withFiles files) := by
    rw [openFile, get_bind]
    simp only [withFiles, hopen]
    rfl
  rw [openHandler, bind_ok hdone, bind_error hfail]

/-- The handler is installed in place of those that the logger has. -/
def installHandler (handler : Handler) : Action Unit :=
  modify fun s => s.withLogger { s.logger with handlers := [handler] }

/-- Configuring, with the handler as a step of its own. -/
theorem configureLog_eq (path : Option Path) (choice : LevelChoice) :
    configureLog path choice = (do
      let level ← attempt .log choice.number
      modify (withLogger · ⟨level, false, []⟩)
      installHandler (← openHandler path)) := by
  cases path with
  | none => rfl
  | some p =>
      simp only [configureLog, openHandler, bind_assoc, pure_bind]
      rfl

/-- An unknown level is found before anything is changed. -/
theorem configureLog_unknown {e : Log.LoggerError} (h : choice.number = .error e) :
    configureLog path choice s = .error (.log e) s := by
  rw [configureLog_eq, h]
  rfl

/-- With a known level everything hangs on the handler. -/
theorem configureLog_known {level : Int} (h : choice.number = .ok level) :
    configureLog path choice s =
      (openHandler path >>= installHandler) (s.withLogger ⟨level, false, []⟩) := by
  rw [configureLog_eq, h]
  rfl

/-! ## The three ends -/

/-- **The three ends of configuring the logger.**  It is configured; or the level is unknown and
nothing is changed; or a file cannot be opened, and the logger has no handler. -/
theorem configureLog_cases (path : Option Path) (choice : LevelChoice) (s : Session) :
    (∃ level files, choice.number = .ok level ∧
        configureLog path choice s = .ok () ((s.withFiles files).withLogger
          ⟨level, false, [handlerFor s.workspace.directory path]⟩)) ∨
      (∃ e, choice.number = .error e ∧ configureLog path choice s = .error (.log e) s) ∨
      ∃ level e files, choice.number = .ok level ∧ path.isSome = true ∧
        configureLog path choice s =
          .error (.log (.file e)) ((s.withFiles files).withLogger ⟨level, false, []⟩) := by
  cases hlevel : choice.number with
  | error e => exact Or.inr (Or.inl ⟨e, rfl, configureLog_unknown hlevel⟩)
  | ok level =>
      rw [configureLog_known hlevel]
      obtain ⟨files, hopen⟩ | ⟨e, files, hpath, hopen⟩ :=
        openHandler_cases path (s.withLogger ⟨level, false, []⟩)
      · refine Or.inl ⟨level, files, rfl, ?_⟩
        rw [bind_ok hopen]
        rfl
      · refine Or.inr (Or.inr ⟨level, e, files, rfl, hpath, ?_⟩)
        rw [bind_error hopen]
        rfl

/-- **What configuring the logger comes to.**  If it returns, the logger has the level, does not
propagate, and has exactly one handler, which is a file exactly if a path is given.  If it fails,
the level is unknown and nothing has changed at all, or a file cannot be opened: then a path was
given, and the logger has the level, does not propagate, and has lost every handler.  Apart from the
logger only files change. -/
theorem configureLog_outcome (path : Option Path) (choice : LevelChoice) (s : Session) :
    (∀ s', configureLog path choice s = .ok () s' →
      ∃ level files, choice.number = .ok level ∧
        s' = (s.withFiles files).withLogger
          ⟨level, false, [handlerFor s.workspace.directory path]⟩) ∧
    (∀ fault s', configureLog path choice s = .error fault s' →
      (∃ e, choice.number = .error e ∧ fault = .log e ∧ s' = s) ∨
        ∃ level e files, choice.number = .ok level ∧ path.isSome = true ∧
          fault = .log (.file e) ∧
          s' = (s.withFiles files).withLogger ⟨level, false, []⟩) := by
  obtain ⟨level, files, hlevel, hdone⟩ | ⟨e, hlevel, hfail⟩ |
    ⟨level, e, files, hlevel, hpath, hfail⟩ := configureLog_cases path choice s
  · rw [hdone]
    constructor
    · intro s' h
      cases h
      exact ⟨level, files, hlevel, rfl⟩
    · intro fault s' h
      cases h
  · rw [hfail]
    constructor
    · intro s' h
      cases h
    · intro fault s' h
      cases h
      exact Or.inl ⟨e, hlevel, rfl, rfl⟩
  · rw [hfail]
    constructor
    · intro s' h
      cases h
    · intro fault s' h
      cases h
      exact Or.inr ⟨level, e, files, hlevel, hpath, rfl, rfl⟩

/-- A directory in the place of the file: the logger loses the file that it had, and it has the new
level. -/
theorem configureLog_directory :
    let kept : Logger := ⟨20, false, [.file ⟨.absolute, ["a".toList]⟩]⟩
    let w : Workspace := ⟨⟨[], .superuser⟩, [], FileTree.empty.put ["d".toList] .directory⟩
    let s := (start w .zero 0).withLogger kept
    ∃ fault s', configureLog (some ⟨.relative, ["d".toList]⟩) (.named "DEBUG".toList) s =
        .error fault s' ∧ s'.logger = ⟨10, false, []⟩ ∧ s'.logger ≠ s.logger := by
  intro kept w s
  have hlevel : (LevelChoice.named "DEBUG".toList).number = .ok 10 := rfl
  have hopen := openHandler_of_updateFile (s := s.withLogger ⟨10, false, []⟩)
    (p := ⟨.relative, ["d".toList]⟩) (e := ⟨.isADirectory, "/d".toList⟩) rfl rfl
  have hlost : (⟨10, false, []⟩ : Logger) ≠ kept := by decide
  have hfail : configureLog (some ⟨.relative, ["d".toList]⟩) (.named "DEBUG".toList) s = _ :=
    configureLog_known hlevel
  rw [bind_error hopen] at hfail
  exact ⟨_, _, hfail, rfl, hlost⟩

end Session

end Tapeline
