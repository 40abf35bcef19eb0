import Tapeline.Proofs.Settings.History

/-!
# Actions that leave the log alone

Only two things of a session say how its log stands: the logger, and the note that the service has
settled it.  An action keeps both if its parts do (`KeepsLog.bind`), and asking for settings,
logging and announcing do.  What is written to a log changes files and nothing else (`write_keeps`).
-/

namespace Tapeline

namespace Session

variable {α β : Type}

/-- The session that an action leaves, whether it fails or not. -/
def after (x : Action α) (s : Session) : Session :=
  match x s with
  | .ok _ s' => s'
  | .error _ s' => s'

/-- An action leaves the logger as it is, and so the note that the log is settled. -/
def KeepsLog (x : Action α) : Prop :=
  ∀ s, (after x s).logger = s.logger ∧ (after x s).logSettled = s.logSettled

/-- After an action that succeeds is the session it leaves. -/
theorem after_ok {x : Action α} {a : α} {s s' : Session} (h : x s = .ok a s') : after x s = s' := by
  rw [after, h]

/-- After an action that fails is the session it leaves. -/
theorem after_error {x : Action α} {fault : Fault} {s s' : Session} (h : x s = .error fault s') :
    after x s = s' := by
  rw [after, h]

theorem KeepsLog.pure (a : α) : KeepsLog (pure a : Action α) := by
  intro s
  exact ⟨rfl, rfl⟩

theorem KeepsLog.throw (fault : Fault) : KeepsLog (throw fault : Action α) := by
  intro s
  exact ⟨rfl, rfl⟩

theorem KeepsLog.attempt {ε : Type} (fault : ε → Fault) (x : Except ε α) :
    KeepsLog (attempt fault x) := by
  cases x with
  | ok a => exact KeepsLog.pure a
  | error e => exact KeepsLog.throw (fault e)

/-- Two actions that keep the log do so one after the other. -/
theorem KeepsLog.bind {x : Action α} {f : α → Action β} (hx : KeepsLog x)
    (hf : ∀ a, KeepsLog (f a)) : KeepsLog (x >>= f) := by
  intro s
  have hs := hx s
  cases h : x s with
  | ok a s' =>
      rw [after_ok h] at hs
      have hs' := hf a s'
      rw [after, bind_ok h f, ← after]
      exact ⟨hs'.1.trans hs.1, hs'.2.trans hs.2⟩
  | error fault s' =>
      rw [after_error h] at hs
      rw [after_error (bind_error h f)]
      exact hs

/-- Reading the session keeps the log, whatever is read. -/
theorem KeepsLog.get_bind {f : Session → Action α} (hf : ∀ s, KeepsLog (f s)) :
    KeepsLog (get >>= f) := by
  intro s
  exact hf s s

/-- A change of the session keeps the log if its function does. -/
theorem KeepsLog.modifyGet {f : Session → α × Session}
    (hf : ∀ s, (f s).2.logger = s.logger ∧ (f s).2.logSettled = s.logSettled) :
    KeepsLog (modifyGet f : Action α) := by
  intro s
  exact hf s

/-- Writing a line changes files only. -/
theorem appendLine_keeps (line : Text) (s : Session) (p : Path) :
    (appendLine line s p).logger = s.logger ∧ (appendLine line s p).logSettled = s.logSettled := by
  rw [appendLine]
  split
  · exact ⟨rfl, rfl⟩
  · exact ⟨rfl, rfl⟩

/-- Writing a record changes files, and neither the logger nor whether it is settled. -/
theorem write_keeps (r : Log.Record) (s : Session) :
    (write r s).logger = s.logger ∧ (write r s).logSettled = s.logSettled := by
  have hlines (line : Text) (paths : List Path) (t : Session) :
      (paths.foldl (appendLine line) t).logger = t.logger ∧
        (paths.foldl (appendLine line) t).logSettled = t.logSettled := by
    induction paths generalizing t with
    | nil => exact ⟨rfl, rfl⟩
    | cons p paths ih =>
        have hfirst := appendLine_keeps line t p
        have hrest := ih (appendLine line t p)
        exact ⟨hrest.1.trans hfirst.1, hrest.2.trans hfirst.2⟩
  rw [write]
  split
  · exact hlines _ _ _
  · exact ⟨rfl, rfl⟩

/-- Logging keeps the logger and whether it is settled. -/
theorem keepsLog_log (source : Text) (level : Int) (template : Text) (args : List Json)
    (fields : List (Text × Json)) : KeepsLog (log source level template args fields) := by
  rw [log]
  apply KeepsLog.get_bind
  intro s
  split
  · split
    · exact KeepsLog.throw _
    · split
      · exact KeepsLog.modifyGet (write_keeps _)
      · exact KeepsLog.pure _
  · exact KeepsLog.pure _

theorem keepsLog_logEvents (events : List Log.Event) : KeepsLog (logEvents events) := by
  induction events with
  | nil => exact KeepsLog.pure ()
  | cons e events ih => exact (keepsLog_log _ _ _ _ _).bind fun _ => ih

theorem keepsLog_announce (source name : Text) (trace : Option Text) (fields : List (Text × Json)) :
    KeepsLog (announce source name trace fields) := by
  have hfresh : KeepsLog freshTrace := KeepsLog.modifyGet fun s => ⟨rfl, rfl⟩
  rw [announce]
  split
  · exact (KeepsLog.pure _).bind fun _ => (keepsLog_log _ _ _ _ _).bind fun _ => KeepsLog.pure _
  · exact hfresh.bind fun _ => (keepsLog_log _ _ _ _ _).bind fun _ => KeepsLog.pure _

/-- Evaluating an expression keeps the log. -/
theorem keepsLog_evaluate (expression : Text) : KeepsLog (Session.evaluate expression) :=
  (keepsLog_logEvents _).bind fun _ => KeepsLog.pure _

/-- Asking for settings changes what is kept of them only. -/
theorem keepsLog_ask (query : Query) : KeepsLog (ask query) := by
  intro s
  obtain ⟨fault, h⟩ | ⟨_, _, _, _, h⟩ | ⟨_, _, _, _, _, _, h⟩ | ⟨_, _, _, h⟩ := ask_cases query s
  · rw [after_error h]
    exact ⟨rfl, rfl⟩
  · rw [after_ok h]
    exact ⟨rfl, rfl⟩
  · rw [after_ok h]
    exact ⟨rfl, rfl⟩
  · rw [after_ok h]
    exact ⟨rfl, rfl⟩

/-- Asking for the settings keeps the log. -/
theorem keepsLog_settings : KeepsLog (settings false) :=
  keepsLog_ask (.environment false)

end Session

end Tapeline
