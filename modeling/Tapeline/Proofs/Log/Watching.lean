import Tapeline.Proofs.Log.Configuration
import Tapeline.Proofs.Log.Keeping
import Tapeline.Service

/-!
# Watched requests

To speak of the calls that configure the logger, the requests of the service are watched: every call
is noted with its path, its level and whether it returned.  The only part of a request that can make
one is that which settles the log (`Request.perform_eq`), and all the rest leaves the log alone
(`Request.keepsLog_remainder`).  Apart from its notes, a watched request does just what the request
does (`Request.watches`).
-/

namespace Tapeline

/-! ## Requests -/

namespace Service

open Session (KeepsLog after)
open Log (LevelChoice)

/-- What is done for an expression that is accepted. -/
def answerExpression (expression : Text) : Action Answer := do
  let trace ← Session.announce source "evaluate.request".toList none
    [("expression".toList, .text expression)]
  let outcome ← Session.evaluate expression
  let _ ← Session.announce source "evaluate.completed".toList (some trace)
    [("ok".toList, .boolean outcome.ok), ("display".toList, .text outcome.display)]
  return ⟨expression, outcome⟩

/-- What is done for a phrase that is accepted. -/
def answerPhrase (replies : Nat → Interpretation.Reply) (settings : Settings) (phrase : Text) :
    Action Interpreted := do
  let trace ← Session.announce source "interpret.request".toList none
    [("text".toList, .text phrase)]
  let run :=
    match ← client? settings with
    | some client => Interpretation.run (client.interpret replies) phrase
    | none => runAlone phrase
  Session.logEvents run.events
  let _ ← Session.announce source "interpret.completed".toList (some trace)
    [("source".toList, .text run.resolution.origin.name),
     ("expression".toList, .text run.resolution.expression),
     ("ok".toList, .boolean run.resolution.outcome.ok)]
  return ⟨phrase, run⟩

/-- Evaluating a text is accepting it and answering its expression. -/
theorem evaluate_eq (text : Text) : evaluate text = (do
    let (expression, _) ← accept text
    answerExpression expression) :=
  rfl

/-- Interpreting a text is accepting it and answering its phrase. -/
theorem interpret_eq_answer (replies : Nat → Interpretation.Reply) (text : Text) :
    interpret replies text = (do
      let (phrase, settings) ← accept text
      answerPhrase replies settings phrase) :=
  rfl

/-- The answer to an expression keeps the log. -/
theorem keepsLog_answerExpression (expression : Text) : KeepsLog (answerExpression expression) := by
  apply (Session.keepsLog_announce _ _ _ _).bind
  intro trace
  apply (Session.keepsLog_evaluate _).bind
  intro outcome
  apply (Session.keepsLog_announce _ _ _ _).bind
  intro _
  exact KeepsLog.pure _

theorem keepsLog_client? (settings : Settings) : KeepsLog (client? settings) := by
  rw [client?]
  split
  · split
    · exact KeepsLog.pure _
    · exact KeepsLog.throw _
  · exact KeepsLog.pure _

/-- The answer to a phrase keeps the log. -/
theorem keepsLog_answerPhrase (replies : Nat → Interpretation.Reply) (settings : Settings)
    (phrase : Text) : KeepsLog (answerPhrase replies settings phrase) := by
  apply (Session.keepsLog_announce _ _ _ _).bind
  intro trace
  apply (keepsLog_client? settings).bind
  intro client
  apply (Session.keepsLog_logEvents _).bind
  intro _
  apply (Session.keepsLog_announce _ _ _ _).bind
  intro _
  exact KeepsLog.pure _

/-- What the service can be asked. -/
inductive Request where
  | health
  | evaluate (text : Text)
  | interpret (replies : Nat → Interpretation.Reply) (text : Text)

/-- What a request does; its answer is dropped. -/
def Request.perform : Request → Action Unit
  | health => do
    let _ ← Service.health
  | evaluate text => do
    let _ ← Service.evaluate text
  | interpret replies text => do
    let _ ← Service.interpret replies text

/-- What a request for an answer does once the log is settled. -/
def Request.remainder? : Request → Option (Settings → Action Unit)
  | health => none
  | evaluate text => some fun settings => do
    let expression ← Session.attempt .refused (checkLength settings text)
    let _ ← answerExpression expression
  | interpret replies text => some fun settings => do
    let phrase ← Session.attempt .refused (checkLength settings text)
    let _ ← answerPhrase replies settings phrase

/-- Settings, the log and the rest: these are the parts of a request for an answer. -/
theorem Request.perform_eq {r : Request} {remainder : Settings → Action Unit}
    (h : r.remainder? = some remainder) :
    r.perform = (do
      let numbered ← Session.settings false
      settleLog numbered.settings
      remainder numbered.settings) := by
  cases r with
  | health => cases h
  | evaluate text =>
      cases h
      simp only [perform, evaluate_eq, accept, bind_assoc, pure_bind]
  | interpret replies text =>
      cases h
      simp only [perform, interpret_eq_answer, accept, bind_assoc, pure_bind]

/-- The rest of a request leaves the log alone. -/
theorem Request.keepsLog_remainder {r : Request} {remainder : Settings → Action Unit}
    (h : r.remainder? = some remainder) (settings : Settings) : KeepsLog (remainder settings) := by
  cases r with
  | health => cases h
  | evaluate text =>
      cases h
      apply (KeepsLog.attempt _ _).bind
      intro expression
      exact (keepsLog_answerExpression expression).bind fun _ => KeepsLog.pure _
  | interpret replies text =>
      cases h
      apply (KeepsLog.attempt _ _).bind
      intro phrase
      exact (keepsLog_answerPhrase replies settings phrase).bind fun _ => KeepsLog.pure _

/-- A request that is not one for an answer leaves the log alone. -/
theorem Request.keepsLog_perform {r : Request} (h : r.remainder? = none) : KeepsLog r.perform := by
  cases r with
  | health =>
      exact (Session.keepsLog_settings.bind fun _ => KeepsLog.pure _).bind fun _ => KeepsLog.pure _
  | evaluate text => cases h
  | interpret replies text => cases h

/-! ## Watched requests -/

/-- A call that configures the logger. -/
structure Call where
  path : Option Path
  choice : LevelChoice
  returned : Bool
deriving DecidableEq

/-- A session with the calls that configured its logger, the first one first. -/
structure Observed where
  session : Session
  calls : List Call

/-- An action whose calls are noted. -/
abbrev Watched := EStateM Fault Observed

/-- What a watched action comes to, without the calls. -/
def forget {α : Type} : EStateM.Result Fault Observed α → EStateM.Result Fault Session α
  | .ok a o => .ok a o.session
  | .error fault o => .error fault o.session

/-- An action that makes no calls. -/
def watch {α : Type} (x : Action α) : Watched α := fun o =>
  match x o.session with
  | .ok a session => .ok a { o with session }
  | .error fault session => .error fault { o with session }

/-- The call that configures the logger is noted, whether it returns or fails. -/
def watchedConfigureLog (path : Option Path) (choice : LevelChoice) : Watched Unit := fun o =>
  match Session.configureLog path choice o.session with
  | .ok _ session => .ok () ⟨session, o.calls ++ [⟨path, choice, true⟩]⟩
  | .error fault session => .error fault ⟨session, o.calls ++ [⟨path, choice, false⟩]⟩

/-- The logger is configured for settings, if they have a path for the log. -/
def configureFor (settings : Settings) : Action Unit :=
  match settings.logPath with
  | some path => Session.configureLog (some path) (.named settings.logLevel)
  | none => pure ()

def watchedConfigureFor (settings : Settings) : Watched Unit :=
  match settings.logPath with
  | some path => watchedConfigureLog (some path) (.named settings.logLevel)
  | none => pure ()

/-- The log is noted to be settled. -/
def noteSettled : Action Unit :=
  modify fun s => { s with logSettled := true }

/-- The log is settled as `settleLog` does it. -/
def watchedSettleLog (settings : Settings) : Watched Unit := do
  if !(← get).session.logSettled then
    watchedConfigureFor settings
    watch noteSettled

/-- A request whose calls are noted. -/
def Request.watched (r : Request) : Watched Unit :=
  match r.remainder? with
  | none => watch r.perform
  | some remainder => do
    let numbered ← watch (Session.settings false)
    watchedSettleLog numbered.settings
    watch (remainder numbered.settings)

/-- A watched action does what an action does. -/
def Watches {α : Type} (x : Watched α) (y : Action α) : Prop :=
  ∀ o, forget (x o) = y o.session

section Watching

variable {α β : Type}

/-- Any action is watched by itself. -/
theorem watches_watch (x : Action α) : Watches (watch x) x := by
  intro o
  rw [watch]
  cases x o.session <;> rfl

/-- Two watched actions are watched one after the other. -/
theorem Watches.bind {x : Watched α} {y : Action α} {f : α → Watched β} {g : α → Action β}
    (hx : Watches x y) (hf : ∀ a, Watches (f a) (g a)) : Watches (x >>= f) (y >>= g) := by
  intro o
  have ho := hx o
  simp only [Bind.bind, EStateM.bind]
  cases h : x o with
  | ok a o' =>
      rw [h] at ho
      rw [← ho]
      exact hf a o'
  | error fault o' =>
      rw [h] at ho
      rw [← ho]
      rfl

/-- The configuration of the log is watched with its call. -/
theorem watches_configureFor (settings : Settings) :
    Watches (watchedConfigureFor settings) (configureFor settings) := by
  intro o
  rw [watchedConfigureFor, configureFor]
  cases settings.logPath with
  | none => rfl
  | some path =>
      change forget (watchedConfigureLog _ _ o) = Session.configureLog _ _ _
      rw [watchedConfigureLog]
      cases Session.configureLog (some path) (.named settings.logLevel) o.session <;> rfl

/-- A log that is settled stays as it is. -/
theorem settleLog_of_settled {settings : Settings} {s : Session} (h : s.logSettled = true) :
    settleLog settings s = .ok () s := by
  rw [settleLog, Session.get_bind, h]
  rfl

/-- As long as the log is open it is configured and then noted as settled. -/
theorem settleLog_of_open {settings : Settings} {s : Session} (h : s.logSettled = false) :
    settleLog settings s = (configureFor settings >>= fun _ => noteSettled) s := by
  rw [settleLog, Session.get_bind, h, configureFor]
  cases settings.logPath <;> rfl

/-- Once the log is settled no call is watched. -/
theorem watchedSettleLog_of_settled {settings : Settings} {o : Observed}
    (h : o.session.logSettled = true) : watchedSettleLog settings o = .ok () o := by
  change (if !o.session.logSettled then _ else _ : Watched Unit) o = _
  rw [h]
  rfl

/-- As long as the log is open its configuration is watched, and that it is noted as settled. -/
theorem watchedSettleLog_of_open {settings : Settings} {o : Observed}
    (h : o.session.logSettled = false) :
    watchedSettleLog settings o =
      (watchedConfigureFor settings >>= fun _ => watch noteSettled) o := by
  change (if !o.session.logSettled then _ else _ : Watched Unit) o = _
  rw [h]
  rfl

/-- The settling of the log is watched with the call it makes. -/
theorem watches_settleLog (settings : Settings) :
    Watches (watchedSettleLog settings) (settleLog settings) := by
  intro o
  cases h : o.session.logSettled with
  | true =>
      rw [watchedSettleLog_of_settled h, settleLog_of_settled h]
      rfl
  | false =>
      rw [watchedSettleLog_of_open h, settleLog_of_open h]
      exact (watches_configureFor settings).bind (fun _ => watches_watch noteSettled) o

/-- **Watching changes nothing.** -/
theorem Request.watches (r : Request) : Watches r.watched r.perform := by
  rw [watched]
  split
  · exact watches_watch r.perform
  · rename_i remainder h
    rw [perform_eq h]
    apply (watches_watch _).bind
    intro numbered
    apply (watches_settleLog numbered.settings).bind
    intro _
    exact watches_watch _

end Watching

/-! ## The calls of settings -/

/-- The calls that settling the log for settings makes: one if they have a path for the log. -/
def callsFor (settings : Settings) (returned : Bool) : List Call :=
  match settings.logPath with
  | some path => [⟨some path, .named settings.logLevel, returned⟩]
  | none => []

/-- Configuring for settings makes just the call for them. -/
theorem watchedConfigureFor_eq (settings : Settings) (o : Observed) :
    watchedConfigureFor settings o =
      match configureFor settings o.session with
      | .ok _ s => .ok () ⟨s, o.calls ++ callsFor settings true⟩
      | .error fault s => .error fault ⟨s, o.calls ++ callsFor settings false⟩ := by
  rw [watchedConfigureFor, configureFor, callsFor, callsFor]
  cases settings.logPath with
  | none =>
      change EStateM.Result.ok () o = EStateM.Result.ok () ⟨o.session, o.calls ++ []⟩
      rw [List.append_nil]
  | some path => rfl

/-- A configuration that succeeds is one call that returns, and it settles the log. -/
theorem watchedSettleLog_ok {settings : Settings} {o : Observed} {s : Session}
    (h : o.session.logSettled = false) (hconfigure : configureFor settings o.session = .ok () s) :
    watchedSettleLog settings o =
      .ok () ⟨{ s with logSettled := true }, o.calls ++ callsFor settings true⟩ := by
  rw [watchedSettleLog_of_open h]
  simp only [bind, EStateM.bind, watchedConfigureFor_eq, hconfigure]
  rfl

/-- A configuration that fails is one call that does not return, and the log stays open. -/
theorem watchedSettleLog_error {settings : Settings} {o : Observed} {s : Session} {fault : Fault}
    (h : o.session.logSettled = false)
    (hconfigure : configureFor settings o.session = .error fault s) :
    watchedSettleLog settings o = .error fault ⟨s, o.calls ++ callsFor settings false⟩ := by
  rw [watchedSettleLog_of_open h]
  simp only [bind, EStateM.bind, watchedConfigureFor_eq, hconfigure]

/-- Configuring does not note anything about the log. -/
theorem logSettled_configureFor (settings : Settings) (s : Session) :
    (after (configureFor settings) s).logSettled = s.logSettled := by
  rw [configureFor]
  split
  · rename_i path _
    obtain ⟨_, _, _, h⟩ | ⟨_, _, h⟩ | ⟨_, _, _, _, _, h⟩ :=
      Session.configureLog_cases (some path) (.named settings.logLevel) s
    · rw [Session.after_ok h]
      rfl
    · rw [Session.after_error h]
    · rw [Session.after_error h]
      rfl
  · rfl

end Service

end Tapeline
