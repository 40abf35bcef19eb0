import Tapeline.Proofs.Log.Watching

/-!
# The log is settled once

The service configures the logger at the first request for an answer whose settings resolve and
whose log can be configured, and never again.  Between requests anything may happen to the session
but to the note that the log is settled.

What a watched request does depends on that note: it makes no call once the log is settled
(`step_of_settled`), none that returns if it does not settle the log (`step_of_not_settles`), and
the one of its settings if it does (`step_of_settles`).  Induction on the steps of a run then gives
the history of the log (`settledAtMostOnce_of_open`).
-/

namespace Tapeline

namespace Service

open Session (after)

/-! ## Steps -/

namespace Observed

/-- What is observed behind a watched action, whether it fails or not. -/
def behind (x : Watched Unit) (o : Observed) : Observed :=
  match x o with
  | .ok _ o' => o'
  | .error _ o' => o'

/-- Behind a step that succeeds the rest goes on. -/
theorem behind_bind_ok {α : Type} {x : Watched α} {a : α} {o o' : Observed} (h : x o = .ok a o')
    (f : α → Watched Unit) : behind (x >>= f) o = behind (f a) o' := by
  simp only [behind, Bind.bind, EStateM.bind, h]

/-- Behind a step that fails nothing is done. -/
theorem behind_bind_error {α : Type} {x : Watched α} {fault : Fault} {o o' : Observed}
    (h : x o = .error fault o') (f : α → Watched Unit) : behind (x >>= f) o = o' := by
  simp only [behind, Bind.bind, EStateM.bind, h]

/-- What is only watched is carried out in the session. -/
theorem behind_watch (x : Action Unit) (o : Observed) :
    behind (watch x) o = { o with session := after x o.session } := by
  rw [behind, watch, after]
  cases x o.session <;> rfl

end Observed

/-- A request settles the log, if it is not settled yet: it is one for an answer, its settings
resolve, and the logger can be configured for them. -/
def Request.Settles (r : Request) (s : Session) (settings : Settings) : Prop :=
  r.remainder?.isSome = true ∧ ∃ numbered s₁ s₂,
    Session.settings false s = .ok numbered s₁ ∧ numbered.settings = settings ∧
      configureFor settings s₁ = .ok () s₂

namespace Observed

variable {o : Observed} {r : Request} {remainder : Settings → Action Unit}
  {numbered : Settings.Numbered} {s s₁ s₂ : Session} {fault : Fault}

/-- What is observed after a request. -/
def request (o : Observed) (r : Request) : Observed :=
  behind r.watched o

/-- The calls that returned. -/
def returned (o : Observed) : List Call :=
  o.calls.filter (·.returned)

/-- A further call is among those that returned just if it did. -/
theorem returned_append_callsFor (o : Observed) (s : Session) (settings : Settings)
    (returned : Bool) :
    Observed.returned ⟨s, o.calls ++ callsFor settings returned⟩ =
      o.returned ++ if returned then callsFor settings true else [] := by
  rw [Observed.returned, List.filter_append, Observed.returned, callsFor, callsFor]
  cases settings.logPath with
  | none => cases returned <;> rfl
  | some path => cases returned <;> rfl

/-- A request that is not one for an answer makes no call. -/
theorem request_of_none (h : r.remainder? = none) :
    o.request r = { o with session := after r.perform o.session } := by
  rw [request, Request.watched, h]
  exact behind_watch r.perform o

/-- A request without settings ends there. -/
theorem request_of_settings_error (h : r.remainder? = some remainder)
    (hsettings : Session.settings false o.session = .error fault s₁) :
    o.request r = { o with session := s₁ } := by
  have hwatch : watch (Session.settings false) o = .error fault { o with session := s₁ } := by
    rw [watch, hsettings]
  rw [request, Request.watched, h]
  exact behind_bind_error hwatch _

/-- Behind the settings a request settles the log. -/
theorem request_of_settings_ok (h : r.remainder? = some remainder)
    (hsettings : Session.settings false o.session = .ok numbered s₁) :
    o.request r = behind (do
      watchedSettleLog numbered.settings
      watch (remainder numbered.settings)) { o with session := s₁ } := by
  have hwatch : watch (Session.settings false) o = .ok numbered { o with session := s₁ } := by
    rw [watch, hsettings]
  rw [request, Request.watched, h]
  exact behind_bind_ok hwatch _

/-- Settings leave the log as it is. -/
theorem settings_keep (o : Observed) :
    (after (Session.settings false) o.session).logger = o.session.logger ∧
      (after (Session.settings false) o.session).logSettled = o.session.logSettled :=
  Session.keepsLog_settings o.session

/-- **Once the log is settled**, a request makes no call and leaves the logger as it is. -/
theorem step_of_settled (h : o.session.logSettled = true) (r : Request) :
    (o.request r).calls = o.calls ∧ (o.request r).session.logger = o.session.logger ∧
      (o.request r).session.logSettled = true := by
  have hkeep := settings_keep o
  cases hr : r.remainder? with
  | none =>
      have hperform := Request.keepsLog_perform hr o.session
      rw [request_of_none hr]
      exact ⟨rfl, hperform.1, hperform.2.trans h⟩
  | some remainder =>
      cases hsettings : Session.settings false o.session with
      | error fault s₁ =>
          rw [Session.after_error hsettings] at hkeep
          rw [request_of_settings_error hr hsettings]
          exact ⟨rfl, hkeep.1, hkeep.2.trans h⟩
      | ok numbered s₁ =>
          rw [Session.after_ok hsettings] at hkeep
          have hdone : watchedSettleLog numbered.settings { o with session := s₁ } = .ok () _ :=
            watchedSettleLog_of_settled (hkeep.2.trans h)
          have hrest := Request.keepsLog_remainder hr numbered.settings s₁
          rw [request_of_settings_ok hr hsettings, behind_bind_ok hdone, behind_watch]
          exact ⟨rfl, hrest.1.trans hkeep.1, hrest.2.trans (hkeep.2.trans h)⟩

/-- **A request that does not settle the log** makes no call that returns. -/
theorem step_of_not_settles (h : o.session.logSettled = false)
    (hr : ∀ settings, ¬ r.Settles o.session settings) :
    (o.request r).returned = o.returned ∧ (o.request r).session.logSettled = false := by
  have hkeep := settings_keep o
  cases hremainder : r.remainder? with
  | none =>
      have hperform := Request.keepsLog_perform hremainder o.session
      rw [request_of_none hremainder]
      exact ⟨rfl, hperform.2.trans h⟩
  | some remainder =>
      cases hsettings : Session.settings false o.session with
      | error fault s₁ =>
          rw [Session.after_error hsettings] at hkeep
          rw [request_of_settings_error hremainder hsettings]
          exact ⟨rfl, hkeep.2.trans h⟩
      | ok numbered s₁ =>
          rw [Session.after_ok hsettings] at hkeep
          rw [request_of_settings_ok hremainder hsettings]
          cases hconfigure : configureFor numbered.settings s₁ with
          | ok _ s₂ =>
              have hsome : r.remainder?.isSome = true := by rw [hremainder]; rfl
              exact absurd ⟨hsome, numbered, s₁, s₂, hsettings, rfl, hconfigure⟩
                (hr numbered.settings)
          | error fault s₂ =>
              have hopen : s₁.logSettled = false := hkeep.2.trans h
              have hnote := logSettled_configureFor numbered.settings s₁
              rw [Session.after_error hconfigure] at hnote
              have hfail : watchedSettleLog numbered.settings { o with session := s₁ } =
                  .error fault ⟨s₂, o.calls ++ callsFor numbered.settings false⟩ :=
                watchedSettleLog_error hopen hconfigure
              rw [behind_bind_error hfail]
              refine ⟨?_, hnote.trans hopen⟩
              rw [returned_append_callsFor]
              exact List.append_nil _

/-- **A request that settles the log** makes the call of its settings, and that call returns.
Without a path for the log it leaves the logger as it is. -/
theorem step_of_settles {settings : Settings} (h : o.session.logSettled = false)
    (hr : r.Settles o.session settings) :
    (o.request r).calls = o.calls ++ callsFor settings true ∧
      (o.request r).session.logSettled = true ∧
      (settings.logPath = none → (o.request r).session.logger = o.session.logger) := by
  obtain ⟨hsome, numbered, s₁, s₂, hsettings, rfl, hconfigure⟩ := hr
  obtain ⟨remainder, hremainder⟩ := Option.isSome_iff_exists.mp hsome
  have hkeep := settings_keep o
  rw [Session.after_ok hsettings] at hkeep
  have hopen : s₁.logSettled = false := hkeep.2.trans h
  have hdone : watchedSettleLog numbered.settings { o with session := s₁ } =
      .ok () ⟨{ s₂ with logSettled := true }, o.calls ++ callsFor numbered.settings true⟩ :=
    watchedSettleLog_ok hopen hconfigure
  have hrest :=
    Request.keepsLog_remainder hremainder numbered.settings { s₂ with logSettled := true }
  rw [request_of_settings_ok hremainder hsettings, behind_bind_ok hdone, behind_watch]
  refine ⟨rfl, hrest.2, ?_⟩
  intro hpath
  rw [configureFor, hpath] at hconfigure
  cases hconfigure
  exact hrest.1.trans hkeep.1

end Observed

/-! ## Runs -/

/-- A step of a run: the session changes in any way that leaves the note about the log, or the
service is asked. -/
inductive Step where
  | outside (change : Session → Session) (h : ∀ s, (change s).logSettled = s.logSettled)
  | request (r : Request)

/-- A step settles the log: it is a request that does. -/
def Step.Settles (s : Session) (settings : Settings) : Step → Prop
  | outside _ _ => False
  | request r => r.Settles s settings

/-- The session after a step. -/
def Step.apply (s : Session) : Step → Session
  | outside change _ => change s
  | request r => after r.perform s

namespace Observed

/-- What is observed after a step. -/
def step (o : Observed) : Step → Observed
  | .outside change _ => { o with session := change o.session }
  | .request r => o.request r

/-- What is observed after steps. -/
def run (o : Observed) (steps : List Step) : Observed :=
  steps.foldl step o

/-- Nothing has happened yet. -/
def start (w : Workspace) (now : Binary64) (firstTrace : Nat) : Observed :=
  ⟨.start w now firstTrace, []⟩

/-- No step of a run settles the log. -/
def NoneSettles (o : Observed) (steps : List Step) : Prop :=
  ∀ before t later, steps = before ++ t :: later →
    ∀ settings, ¬ t.Settles (o.run before).session settings

/-- A request of a run is the first one that settles the log.  It makes the call of its settings,
which returns, if they have a path for the log.  Afterwards no call is made at all, and no request
changes the logger; without a path this request does not change it either. -/
structure SettledBy (o : Observed) (before : List Step) (r : Request) (settings : Settings)
    (rest : List Step) : Prop where
  first : NoneSettles o before
  settles : r.Settles (o.run before).session settings
  makes : (o.run (before ++ [.request r])).calls = (o.run before).calls ++ callsFor settings true
  silent : settings.logPath = none →
    (o.run (before ++ [.request r])).session.logger = (o.run before).session.logger
  never : ∀ earlier later, rest = earlier ++ later →
    (o.run (before ++ .request r :: earlier)).calls = (o.run (before ++ [.request r])).calls
  keeps : ∀ earlier r' later, rest = earlier ++ .request r' :: later →
    (o.run (before ++ .request r :: (earlier ++ [.request r']))).session.logger =
      (o.run (before ++ .request r :: earlier)).session.logger

/-- The history of the log over a run.  Either no step settles it and no call returns, or one
request is the first that settles it, and the only call that returns is the one for its settings. -/
def SettledAtMostOnce (o : Observed) (steps : List Step) : Prop :=
  (o.NoneSettles steps ∧ (o.run steps).returned = o.returned) ∨
    ∃ before r settings rest, steps = before ++ .request r :: rest ∧
      o.SettledBy before r settings rest ∧
      (o.run steps).returned = o.returned ++ callsFor settings true

section Runs

variable {o : Observed} {steps before rest : List Step} {r : Request} {settings : Settings}

/-- What is watched is what happens. -/
theorem session_step (o : Observed) (t : Step) : (o.step t).session = t.apply o.session := by
  cases t with
  | outside change h => rfl
  | request r =>
      have hwatch := Request.watches r o
      change (behind r.watched o).session = Session.after r.perform o.session
      rw [behind, Session.after, ← hwatch]
      cases r.watched o <;> rfl

/-- Watching changes nothing in the session. -/
theorem session_run (o : Observed) (steps : List Step) :
    (o.run steps).session = steps.foldl Step.apply o.session := by
  induction steps generalizing o with
  | nil => rfl
  | cons t steps ih =>
      rw [List.foldl_cons, ← session_step]
      exact ih (o.step t)

/-- A run of steps goes on from where an earlier run ends. -/
theorem run_append (o : Observed) (steps later : List Step) :
    o.run (steps ++ later) = (o.run steps).run later :=
  List.foldl_append

/-- Once the log is settled, no step makes a call, and the log stays settled. -/
theorem run_of_settled (h : o.session.logSettled = true) (steps : List Step) :
    (o.run steps).calls = o.calls ∧ (o.run steps).session.logSettled = true := by
  induction steps generalizing o with
  | nil => exact ⟨rfl, h⟩
  | cons t steps ih =>
      cases t with
      | outside change hchange =>
          exact ih (o := { o with session := change o.session }) ((hchange o.session).trans h)
      | request r =>
          obtain ⟨hcalls, _, hsettled⟩ := step_of_settled h r
          obtain ⟨hrest, hstays⟩ := ih hsettled
          exact ⟨hrest.trans hcalls, hstays⟩

theorem noneSettles_nil (o : Observed) : o.NoneSettles [] := by
  intro before t later heq
  cases before <;> cases heq

/-- A step that does not settle the log can stand in front. -/
theorem NoneSettles.cons {t : Step} (ht : ∀ settings, ¬ t.Settles o.session settings)
    (h : (o.step t).NoneSettles steps) : o.NoneSettles (t :: steps) := by
  intro before t' later heq settings
  cases before with
  | nil =>
      cases heq
      exact ht settings
  | cons first before =>
      cases heq
      exact h before t' later rfl settings

/-- A request that settles the log in an open session is the first one. -/
theorem SettledBy.here (h : o.session.logSettled = false) (hr : r.Settles o.session settings)
    (rest : List Step) : o.SettledBy [] r settings rest := by
  obtain ⟨hcalls, hsettled, hsilent⟩ := step_of_settles h hr
  constructor
  · exact noneSettles_nil o
  · exact hr
  · exact hcalls
  · exact hsilent
  · intro earlier later _
    exact (run_of_settled hsettled earlier).1
  · intro earlier r' later _
    have hrun := run_of_settled hsettled earlier
    have hstep := step_of_settled hrun.2 r'
    change ((o.request r).run (earlier ++ [.request r'])).session.logger = _
    rw [run_append]
    exact hstep.2.1

/-- A step that settles nothing may stand in front of the one that does. -/
theorem SettledBy.cons {t : Step} (ht : ∀ settings, ¬ t.Settles o.session settings)
    (h : (o.step t).SettledBy before r settings rest) :
    o.SettledBy (t :: before) r settings rest where
  first := h.first.cons ht
  settles := h.settles
  makes := h.makes
  silent := h.silent
  never := h.never
  keeps := h.keeps

/-- A step that settles nothing and returns from no call adds none to those that did. -/
theorem SettledAtMostOnce.cons {t : Step} (ht : ∀ settings, ¬ t.Settles o.session settings)
    (hreturned : (o.step t).returned = o.returned) (h : (o.step t).SettledAtMostOnce steps) :
    o.SettledAtMostOnce (t :: steps) := by
  cases h with
  | inl h => exact Or.inl ⟨h.1.cons ht, h.2.trans hreturned⟩
  | inr h =>
      obtain ⟨before, r, settings, rest, rfl, hby, hcalls⟩ := h
      rw [hreturned] at hcalls
      exact Or.inr ⟨t :: before, r, settings, rest, rfl, hby.cons ht, hcalls⟩

/-- A run that starts with a request that settles the log. -/
theorem SettledAtMostOnce.here (h : o.session.logSettled = false)
    (hr : r.Settles o.session settings) (steps : List Step) :
    o.SettledAtMostOnce (.request r :: steps) := by
  obtain ⟨hcalls, hsettled, _⟩ := step_of_settles h hr
  have hall : (o.run (.request r :: steps)).calls = o.calls ++ callsFor settings true :=
    (run_of_settled hsettled steps).1.trans hcalls
  refine Or.inr ⟨[], r, settings, steps, rfl, SettledBy.here h hr steps, ?_⟩
  rw [Observed.returned, hall]
  exact returned_append_callsFor o o.session settings true

/-- A run from an open session settles the log at most once. -/
theorem settledAtMostOnce_of_open (h : o.session.logSettled = false) (steps : List Step) :
    o.SettledAtMostOnce steps := by
  induction steps generalizing o with
  | nil => exact Or.inl ⟨noneSettles_nil o, rfl⟩
  | cons t steps ih =>
      cases t with
      | outside change hchange =>
          have hopen : (o.step (.outside change hchange)).session.logSettled = false :=
            (hchange o.session).trans h
          apply SettledAtMostOnce.cons _ rfl (ih hopen)
          intro settings hfalse
          exact hfalse
      | request r =>
          by_cases hsettles : ∃ settings, r.Settles o.session settings
          · obtain ⟨settings, hr⟩ := hsettles
            exact SettledAtMostOnce.here h hr steps
          · have hr : ∀ settings, ¬ r.Settles o.session settings := not_exists.mp hsettles
            obtain ⟨hreturned, hopen⟩ := step_of_not_settles h hr
            exact SettledAtMostOnce.cons hr hreturned (ih hopen)

end Runs

end Observed

theorem length_callsFor_le (settings : Settings) (returned : Bool) :
    (callsFor settings returned).length ≤ 1 := by
  rw [callsFor]
  split <;> simp

/-- **The service configures logging at most once.**  Over any run of requests, between which
anything may happen but to the note that the log is settled, at most one call that configures the
logger returns.  It is made by the first request for an answer whose settings resolve and for which
the logger can be configured, with the path and the level of these settings.  From then on the
service makes no call and leaves the logger as it is; if the settings have no path, it makes no call
that returns at all.  What is watched here is what the requests do. -/
theorem run_settles_once (w : Workspace) (now : Binary64) (firstTrace : Nat) (steps : List Step) :
    let o := Observed.start w now firstTrace
    (o.run steps).session = steps.foldl Step.apply (.start w now firstTrace) ∧
      (o.run steps).returned.length ≤ 1 ∧ o.SettledAtMostOnce steps := by
  intro o
  have hopen : o.session.logSettled = false := rfl
  have honce := Observed.settledAtMostOnce_of_open hopen steps
  refine ⟨Observed.session_run o steps, ?_, honce⟩
  obtain ⟨_, hreturned⟩ | ⟨_, _, settings, _, _, _, hreturned⟩ := honce
  · rw [hreturned]
    exact Nat.zero_le 1
  · rw [hreturned]
    exact length_callsFor_le settings true

end Service

end Tapeline
