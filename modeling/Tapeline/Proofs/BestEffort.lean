import Mathlib.Control.Monad.Basic
import Tapeline.Proofs.Log.Loggable

/-!
# Interpretation as best effort

Once the settings are resolved, the log is settled and the length of the phrase is accepted, an
interpretation has one step left that can fail: the configuration of the client.  Settings may hold
a time limit below one second or a negative number of retries, which the client does not take.  So
an interpretation gives an answer, whatever the replies of the service, just if there is no endpoint
or the client takes the settings (`interpret_ok_iff`).
-/

namespace Tapeline

namespace Settings

/-- The client takes the settings: an attempt may take at least one second, and the number of
retries is not negative. -/
def FitClient (s : Settings) : Prop :=
  s.timeout.atLeast (.ofNat 1) = true ∧ 0 ≤ s.maxRetries

/-- The endpoint and the model are taken as they are; the time limit and the retries are checked. -/
theorem interpreterConfig_eq (s : Settings) :
    s.interpreterConfig =
      ((Json.Checked.ok (Interpretation.Config.mk s.endpoint s.model)).apply
        ((Interpretation.Config.readTimeout (.number s.timeout)).mapError
          fun fault => [⟨"timeout".toList, fault⟩])).apply
        ((Interpretation.Config.readRetries (.integer s.maxRetries)).mapError
          fun fault => [⟨"max_retries".toList, fault⟩]) := by
  obtain ⟨_, _, _, endpoint, model, timeout, retries⟩ := s
  cases endpoint with
  | none => cases model with
    | none => rfl
    | some model => rfl
  | some endpoint => cases model with
    | none => rfl
    | some model => rfl

theorem readTimeout_number (x : Binary64) :
    Interpretation.Config.readTimeout (.number x) =
      if x.atLeast (.ofNat 1) = true then .ok x else .error .tooSmall := rfl

theorem readRetries_integer (n : Int) :
    Interpretation.Config.readRetries (.integer n) =
      if 0 ≤ n then .ok n.toNat else .error .tooSmall := rfl

/-- Settings that fit a client make a configuration of one. -/
theorem interpreterConfig_ok {s : Settings} (h : s.FitClient) :
    ∃ config, s.interpreterConfig = .ok config := by
  rw [interpreterConfig_eq, readTimeout_number, readRetries_integer, if_pos h.1, if_pos h.2]
  exact ⟨_, rfl⟩

/-- Settings that do not fit a client are rejected with their errors. -/
theorem interpreterConfig_error {s : Settings} (h : ¬ s.FitClient) :
    ∃ errors, s.interpreterConfig = .error errors := by
  rw [interpreterConfig_eq, readTimeout_number, readRetries_integer]
  by_cases htimeout : s.timeout.atLeast (.ofNat 1) = true
  · have hretries : ¬ 0 ≤ s.maxRetries := fun hretries => h ⟨htimeout, hretries⟩
    rw [if_pos htimeout, if_neg hretries]
    exact ⟨_, rfl⟩
  · rw [if_neg htimeout]
    split
    · exact ⟨_, rfl⟩
    · exact ⟨_, rfl⟩

end Settings

namespace Service

open Session (bind_ok bind_error)

/-- The client for settings, if they have an endpoint and it takes them. -/
def clientOf? (settings : Settings) : Option Interpretation.Client :=
  if settings.hasEndpoint then
    settings.interpreterConfig.toOption.bind (Interpretation.Client.ofConfig? .session true)
  else none

/-- There is a client, or none is needed, where the client takes the settings. -/
theorem client?_ok {settings : Settings} (h : settings.hasEndpoint = true → settings.FitClient)
    (s : Session) : client? settings s = .ok (clientOf? settings) s := by
  unfold client? clientOf?
  by_cases hendpoint : settings.hasEndpoint = true
  · obtain ⟨config, hconfig⟩ := Settings.interpreterConfig_ok (h hendpoint)
    rw [if_pos hendpoint, if_pos hendpoint, hconfig]
    rfl
  · rw [if_neg hendpoint, if_neg hendpoint]
    rfl

/-- No client takes settings that do not fit. -/
theorem client?_error {settings : Settings} (hendpoint : settings.hasEndpoint = true)
    (h : ¬ settings.FitClient) (s : Session) :
    ∃ errors, client? settings s = .error (.interpreter errors) s := by
  obtain ⟨errors, herrors⟩ := Settings.interpreterConfig_error h
  refine ⟨errors, ?_⟩
  rw [client?, if_pos hendpoint, herrors]
  rfl

/-- A request can always be announced. -/
theorem announce_request (phrase : Text) (s : Session) :
    ∃ trace s', Session.announce source "interpret.request".toList none
      [("text".toList, .text phrase)] s = .ok trace s' :=
  Session.announce_ok (.cons (by simp [Log.fieldNames]) .nil) _ _ none s

/-- What is done for a phrase with a client of the service, or without one. -/
def runWith (replies : Nat → Interpretation.Reply) (client : Option Interpretation.Client)
    (phrase : Text) : Interpretation.Run :=
  match client with
  | some client => Interpretation.run (client.interpret replies) phrase
  | none => runAlone phrase

/-- Without a client nothing is logged but what the resolution of the phrase tells. -/
theorem events_runAlone (phrase : Text) :
    (runAlone phrase).events = (Interpretation.resolve phrase none noInterpreter).2 :=
  Interpretation.Step.events_map_logged _

/-- Whatever is done for a phrase, its events can be logged. -/
theorem loggable_runWith (replies : Nat → Interpretation.Reply)
    (client : Option Interpretation.Client) (phrase : Text) :
    AllLoggable (runWith replies client phrase).events := by
  cases client with
  | some client => exact Interpretation.loggable_run (Interpretation.Client.loggable_interpret _ _)
  | none =>
      change AllLoggable (runAlone phrase).events
      rw [events_runAlone]
      exact Interpretation.loggable_resolve phrase none noInterpreter

/-- An answer whose events can be logged is completed. -/
theorem complete_ok {run : Interpretation.Run} (hrun : AllLoggable run.events) (phrase trace : Text)
    (s : Session) :
    ∃ s', (do
      Session.logEvents run.events
      let _ ← Session.announce source "interpret.completed".toList (some trace)
        [("source".toList, .text run.resolution.origin.name),
         ("expression".toList, .text run.resolution.expression),
         ("ok".toList, .boolean run.resolution.outcome.ok)]
      return ⟨phrase, run⟩ : Action Interpreted) s = .ok ⟨phrase, run⟩ s' := by
  have hfields : Log.Loggable
      [("source".toList, .text run.resolution.origin.name),
       ("expression".toList, .text run.resolution.expression),
       ("ok".toList, .boolean run.resolution.outcome.ok)] :=
    .cons (by simp [Log.fieldNames]) (.cons (by simp [Log.fieldNames])
      (.cons (by simp [Log.fieldNames]) .nil))
  obtain ⟨s₁, hevents⟩ := Session.logEvents_ok hrun s
  obtain ⟨_, s₂, hcompleted⟩ :=
    Session.announce_ok hfields source "interpret.completed".toList (some trace) s₁
  refine ⟨s₂, ?_⟩
  rw [bind_ok hevents, bind_ok hcompleted]
  rfl

section Accepted

variable {text phrase : Text} {s s₁ s₂ : Session} {numbered : Settings.Numbered}

/-- A text is accepted after the settings are found, the log is settled and the length is checked.
-/
theorem accept_ok (hsettings : Session.settings false s = .ok numbered s₁)
    (hlog : settleLog numbered.settings s₁ = .ok () s₂)
    (hlength : checkLength numbered.settings text = .ok phrase) :
    accept text s = .ok (phrase, numbered.settings) s₂ := by
  rw [accept, bind_ok hsettings, bind_ok hlog, hlength]
  rfl

variable (replies : Nat → Interpretation.Reply)
  (hsettings : Session.settings false s = .ok numbered s₁)
  (hlog : settleLog numbered.settings s₁ = .ok () s₂)
  (hlength : checkLength numbered.settings text = .ok phrase)

include hsettings hlog hlength

/-- The answer to an accepted phrase. -/
theorem interpret_eq (hfit : numbered.settings.hasEndpoint = true → numbered.settings.FitClient) :
    ∃ s', interpret replies text s =
      .ok ⟨phrase, runWith replies (clientOf? numbered.settings) phrase⟩ s' := by
  obtain ⟨trace, s₃, hrequest⟩ := announce_request phrase s₂
  rw [interpret, bind_ok (accept_ok hsettings hlog hlength)]
  dsimp only
  rw [bind_ok hrequest, bind_ok (client?_ok hfit s₃)]
  exact complete_ok (loggable_runWith replies (clientOf? numbered.settings) phrase) phrase trace s₃

/-- A request is answered if there is no endpoint or the settings fit a client. -/
theorem interpret_ok (hfit : numbered.settings.hasEndpoint = true → numbered.settings.FitClient) :
    ∃ answer s', interpret replies text s = .ok answer s' ∧ answer.text = phrase := by
  obtain ⟨s', hanswer⟩ := interpret_eq replies hsettings hlog hlength hfit
  exact ⟨_, s', hanswer, rfl⟩

/-- A request is rejected if there is an endpoint and the settings fit no client. -/
theorem interpret_error (hendpoint : numbered.settings.hasEndpoint = true)
    (hfit : ¬ numbered.settings.FitClient) :
    ∃ errors s', interpret replies text s = .error (.interpreter errors) s' := by
  obtain ⟨trace, s₃, hrequest⟩ := announce_request phrase s₂
  obtain ⟨errors, herrors⟩ := client?_error hendpoint hfit s₃
  rw [interpret, bind_ok (accept_ok hsettings hlog hlength)]
  dsimp only
  rw [bind_ok hrequest, bind_error herrors]
  exact ⟨errors, s₃, rfl⟩

/-- **An accepted phrase is answered** just if there is no endpoint or the client takes the
settings, whatever the service replies.  Where it is not answered, the settings of the client are at
fault. -/
theorem interpret_ok_iff :
    ((∃ answer s', interpret replies text s = .ok answer s' ∧ answer.text = phrase) ↔
      (numbered.settings.hasEndpoint = true → numbered.settings.FitClient)) ∧
    ∀ fault s', interpret replies text s = .error fault s' →
      ∃ errors, fault = .interpreter errors := by
  by_cases hfit : numbered.settings.hasEndpoint = true → numbered.settings.FitClient
  · obtain ⟨answer, s', hanswer, htext⟩ := interpret_ok replies hsettings hlog hlength hfit
    refine ⟨iff_of_true ⟨answer, s', hanswer, htext⟩ hfit, fun fault s'' hfault => ?_⟩
    rw [hanswer] at hfault
    cases hfault
  · obtain ⟨hendpoint, hunfit⟩ := Classical.not_imp.mp hfit
    obtain ⟨errors, s', herror⟩ := interpret_error replies hsettings hlog hlength hendpoint hunfit
    refine ⟨iff_of_false ?_ hfit, fun fault s'' hfault => ?_⟩
    · rintro ⟨answer, s'', hanswer, _⟩
      rw [herror] at hanswer
      cases hanswer
    · rw [herror] at hfault
      cases hfault
      exact ⟨errors, rfl⟩

end Accepted

/-- A session whose environment names a service and the time that an attempt may take. -/
def withService (timeout : String) : Session :=
  .start
    { environment :=
        [("ONSITECALC_INTERPRETER_ENDPOINT".toList, "http://svc".toList),
          ("ONSITECALC_INTERPRETER_TIMEOUT".toList, timeout.toList)]
      directory := []
      files := .empty }
    .zero 0

/-- The settings of `withService`. -/
def serviceSettings (timeout : Binary64) : Settings :=
  { Settings.default with endpoint := some "http://svc".toList, timeout }

/-- A service in the environment is found, and without a path for the log there is nothing to
settle. -/
theorem settings_withService {timeout : String} {x : Binary64}
    (h : Settings.resolve (withService timeout).workspace none = .ok (serviceSettings x)) :
    ∃ s₁ s₂, Session.settings false (withService timeout) = .ok ⟨serviceSettings x, 1⟩ s₁ ∧
      settleLog (serviceSettings x) s₁ = .ok () s₂ := by
  have hfile : Settings.Cache.environmentFile (withService timeout).workspace = .ok none := rfl
  have hcache : Settings.Cache.empty.settings (withService timeout).workspace false =
      .ok (⟨serviceSettings x, 1⟩, ⟨some (none, ⟨serviceSettings x, 1⟩), 1⟩) := by
    simp only [Settings.Cache.settings, hfile, h, bind, Except.bind]
    rfl
  exact ⟨_, _, Session.settings_ok hcache, rfl⟩

/-- A service that is never reached, with the least time that the client takes. -/
theorem interpret_unreachable :
    ∃ s₁ s₂, Session.settings false (withService "1") = .ok ⟨serviceSettings (.ofNat 1), 1⟩ s₁ ∧
      settleLog (serviceSettings (.ofNat 1)) s₁ = .ok () s₂ ∧
      checkLength (serviceSettings (.ofNat 1)) " 1 + 1".toList = .ok "1 + 1".toList ∧
      ∃ answer s', interpret (fun _ => .fault (.unreachable "refused".toList)) " 1 + 1".toList
        (withService "1") = .ok answer s' ∧ answer.text = "1 + 1".toList := by
  have hresolve : Settings.resolve (withService "1").workspace none =
      .ok (serviceSettings (.ofNat 1)) := by decide +kernel
  obtain ⟨s₁, s₂, hsettings, hlog⟩ := settings_withService hresolve
  have hlength : checkLength (serviceSettings (.ofNat 1)) " 1 + 1".toList = .ok "1 + 1".toList := by
    decide +kernel
  have hfit : (serviceSettings (.ofNat 1)).FitClient := by
    constructor <;> decide +kernel
  exact ⟨s₁, s₂, hsettings, hlog, hlength,
    (interpret_ok_iff _ hsettings hlog hlength).1.mpr fun _ => hfit⟩

/-- **Half a second is too short.**  The settings resolve and the phrase is accepted, but there is
no answer, even if the service would reply. -/
theorem interpret_half_second :
    ∃ s₁ s₂, Session.settings false (withService "0.5") = .ok ⟨serviceSettings .half, 1⟩ s₁ ∧
      settleLog (serviceSettings .half) s₁ = .ok () s₂ ∧
      checkLength (serviceSettings .half) "1 + 1".toList = .ok "1 + 1".toList ∧
      ∃ errors s', interpret (fun _ => .content 200 "OK".toList none []) "1 + 1".toList
        (withService "0.5") = .error (.interpreter errors) s' := by
  have hresolve : Settings.resolve (withService "0.5").workspace none =
      .ok (serviceSettings .half) := by decide +kernel
  obtain ⟨s₁, s₂, hsettings, hlog⟩ := settings_withService hresolve
  have hlength : checkLength (serviceSettings .half) "1 + 1".toList = .ok "1 + 1".toList := by
    decide +kernel
  have hunfit : ¬ (serviceSettings .half).FitClient :=
    fun h => absurd h.1 (by decide +kernel)
  exact ⟨s₁, s₂, hsettings, hlog, hlength,
    interpret_error _ hsettings hlog hlength (by decide) hunfit⟩

end Service

end Tapeline
