import Tapeline.Proofs.BestEffort
import Tapeline.Proofs.Interpretation.Reported
import Tapeline.Proofs.Interpretation.Retries

/-!
# Falling back

An interpretation falls back if there is no endpoint, if the call of the service fails, or if the
body of the last reply is unusable (`FallsBack`).  All these ways lead to the same place: the phrase
itself is resolved (`resolution_of_fallsBack`).  So the answer has what a plain evaluation of the
phrase has, and both requests are refused alike (`interpret_as_evaluate`).
-/

namespace Tapeline

namespace Interpretation

/-! ## Bodies without an expression -/

/-- The text of a body is unusable: it does not read, it is no object, it reports an error, its
members do not fit, or they give no expression. -/
inductive IsUnusable (content : Text) : Prop
  | unparseable (hread : Json.read (withoutFences 0 content).strip = .error .malformed)
  | noObject {value : Json} (hread : Json.read (withoutFences 0 content).strip = .ok value)
      (hvalue : ∀ members, value ≠ .object members)
  | errorReply {members : List (Text × Json)} {reported : Json}
      (hread : Json.read (withoutFences 0 content).strip = .ok (.object members))
      (hmember : Json.member? "error".toList members = some reported)
      (htruthy : Payload.isTruthy reported = true)
  | invalid {members : List (Text × Json)} {errors : List Json.FieldError}
      (hread : Json.read (withoutFences 0 content).strip = .ok (.object members))
      (hcheck : Payload.check members = .error errors)
  | noExpression {members : List (Text × Json)} {payload : Payload}
      (hread : Json.read (withoutFences 0 content).strip = .ok (.object members))
      (hcheck : Payload.check members = .ok payload) (hunusable : ¬ payload.IsUsable)

namespace Payload

/-- A payload that reports a failure is of no use. -/
theorem not_isUsable_failed : ¬ failed.IsUsable := by
  rw [← isSome_expression?]
  decide

/-- The reply that stands for unreadable content is of no use. -/
theorem not_isUsable_emptyReply : ¬ (ofReply (.object emptyReply)).1.IsUsable := by
  rw [← isSome_expression?]
  decide +kernel

variable {members : List (Text × Json)}

/-- A reply that reports an error counts as failed. -/
theorem ofReply_errorReply {reported : Json}
    (hmember : Json.member? "error".toList members = some reported)
    (htruthy : isTruthy reported = true) : (ofReply (.object members)).1 = failed := by
  rw [ofReply, hmember, if_pos]
  exact htruthy

/-- A reply has a usable payload only if its members are one. -/
theorem not_isUsable_ofReply
    (h : ∀ payload, check members = .ok payload → ¬ payload.IsUsable) :
    ¬ (ofReply (.object members)).1.IsUsable := by
  unfold ofReply
  dsimp only
  split
  · exact not_isUsable_failed
  · cases hcheck : check members with
    | ok payload => exact h payload hcheck
    | error errors => exact not_isUsable_failed

end Payload

/-- The payload in an unusable text is not usable. -/
theorem IsUnusable.exists_members {content : Text} (h : IsUnusable content) :
    ∃ members, cleanReply content = .ok members ∧
      ¬ (Payload.ofReply (.object members)).1.IsUsable := by
  cases h with
  | unparseable hread =>
      exact ⟨emptyReply, by rw [cleanReply, hread], Payload.not_isUsable_emptyReply⟩
  | @noObject value hread hvalue =>
      refine ⟨emptyReply, ?_, Payload.not_isUsable_emptyReply⟩
      rw [cleanReply, hread]
      cases value with
      | object members => exact absurd rfl (hvalue members)
      | _ => rfl
  | @errorReply members _ hread hmember htruthy =>
      refine ⟨members, by rw [cleanReply, hread], ?_⟩
      rw [Payload.ofReply_errorReply hmember htruthy]
      exact Payload.not_isUsable_failed
  | @invalid members _ hread hcheck =>
      refine ⟨members, by rw [cleanReply, hread], Payload.not_isUsable_ofReply ?_⟩
      intro payload hpayload
      rw [hcheck] at hpayload
      cases hpayload
  | @noExpression members payload hread hcheck hunusable =>
      refine ⟨members, by rw [cleanReply, hread], Payload.not_isUsable_ofReply ?_⟩
      intro payload' hpayload
      rw [hcheck] at hpayload
      cases hpayload
      exact hunusable

/-! ## The ways to fall back -/

/-- **The phrase itself is resolved** where a call gives no payload that is usable. -/
theorem resolution_run_unusable {interpreter : Interpreter} {phrase : Text}
    (hphrase : phrase.strip ≠ [])
    (h : ∀ p, (interpreter phrase).result = .ok p → ¬ p.IsUsable) :
    (run interpreter phrase).resolution = ⟨evaluate phrase.strip, phrase.strip, .fallback⟩ := by
  rw [resolution_run, if_neg hphrase]
  rcases resolve_cases phrase (interpreter phrase).result.toOption .interpreterError with
    ⟨p, e, hpayload, _, hexpression, _⟩ | ⟨_, reason, hresolve⟩
  · have husable := Payload.isSome_expression?.mp (Option.isSome_of_eq_some hexpression)
    exact absurd husable (h p (toOption_eq_some_iff.mp hpayload))
  · rw [hresolve, fallBack_eq hphrase]

/-- A call of the session client that ends with an unusable body gives no payload that is usable. -/
theorem Client.result_unusable {c : Client} (hsession : c.channel = .session)
    (hopen : c.inSession = true) {service : Nat → Reply} {n : Nat} (hends : c.EndsAt service n)
    {status : Int} {reason : Text} {contentType : Option Text} {bytes : List UInt8} {content : Text}
    (hreply : service n = .content status reason contentType bytes) (haccepted : status < 400)
    (hdecode : Charset.decodeUtf8 bytes = .ok content) (hunusable : IsUnusable content)
    (phrase : Text) :
    ∃ payload, (c.interpret service phrase).result = .ok payload ∧ ¬ payload.IsUsable := by
  have hsend : c.CanSend := by
    unfold CanSend
    rw [hsession]
    exact hopen
  obtain ⟨members, hclean, hpayload⟩ := hunusable.exists_members
  refine ⟨(Payload.ofReply (.object members)).1, ?_, hpayload⟩
  rw [interpret_eq_callTo hsend hends, callTo, hreply, readReply_session hsession haccepted,
    hdecode, readBody_ok hclean]
  rfl

end Interpretation

namespace Service

open Interpretation (Reply Client IsUnusable)
open Session (bind_ok bind_error)

/-- The phrase of a request is evaluated itself: there is no endpoint, the call of the service
fails, or the body it ends with is unusable. -/
inductive FallsBack (settings : Settings) (replies : Nat → Reply) (phrase : Text) : Prop
  | noEndpoint (h : settings.hasEndpoint = false)
  | failed {client : Client} {fault : Interpretation.CallFault}
      (hclient : clientOf? settings = some client)
      (hresult : (client.interpret replies phrase).result = .error fault)
  | unusable {client : Client} {n : Nat} {status : Int} {reason : Text}
      {contentType : Option Text} {bytes : List UInt8} {content : Text}
      (hclient : clientOf? settings = some client) (hends : client.EndsAt replies n)
      (hreply : replies n = .content status reason contentType bytes) (haccepted : status < 400)
      (hdecode : Charset.decodeUtf8 bytes = .ok content) (hunusable : IsUnusable content)

/-- The client of the service is a session client within its session. -/
theorem session_of_clientOf? {settings : Settings} {client : Client}
    (h : clientOf? settings = some client) :
    client.channel = .session ∧ client.inSession = true := by
  unfold clientOf? at h
  split at h
  · obtain ⟨config, _, hclient⟩ := Option.bind_eq_some_iff.mp h
    obtain ⟨endpoint, _, _, rfl⟩ := Client.ofConfig?_some hclient
    exact ⟨rfl, rfl⟩
  · cases h

/-- **All ways to fall back lead to the phrase itself.** -/
theorem resolution_of_fallsBack {settings : Settings} {replies : Nat → Reply} {phrase : Text}
    (h : FallsBack settings replies phrase) (hphrase : phrase.strip ≠ []) :
    (runWith replies (clientOf? settings) phrase).resolution =
      ⟨Tapeline.evaluate phrase.strip, phrase.strip, .fallback⟩ := by
  cases h with
  | noEndpoint hnone =>
      have hclient : clientOf? settings = none := by simp [clientOf?, hnone]
      rw [hclient, ← Interpretation.fallBack_eq hphrase noInterpreter]
      rfl
  | failed hclient hresult =>
      rw [hclient]
      refine Interpretation.resolution_run_unusable hphrase fun p hp => ?_
      rw [hresult] at hp
      cases hp
  | unusable hclient hends hreply haccepted hdecode hunusable =>
      obtain ⟨hsession, hopen⟩ := session_of_clientOf? hclient
      obtain ⟨payload, hresult, hpayload⟩ := Client.result_unusable hsession hopen hends hreply
        haccepted hdecode hunusable phrase
      rw [hclient]
      refine Interpretation.resolution_run_unusable hphrase fun p hp => ?_
      rw [hresult] at hp
      cases hp
      exact hpayload

/-! ## The two requests -/

/-- A session that has settings for a request and in which the log can be settled. -/
def Ready (settings : Settings) (s : Session) : Prop :=
  ∃ numbered s₁ s₂, Session.settings false s = .ok numbered s₁ ∧ numbered.settings = settings ∧
    settleLog settings s₁ = .ok () s₂

/-- A phrase that passes is the text without blanks around it, and it is not empty. -/
theorem checkLength_ok {settings : Settings} {text phrase : Text}
    (h : checkLength settings text = .ok phrase) : phrase = text.strip ∧ text.strip ≠ [] := by
  unfold checkLength at h
  dsimp only at h
  split at h
  · cases h
  · rename_i hempty
    split at h
    · cases h
    · exact ⟨(Except.ok.inj h).symm, by simpa using hempty⟩

section Requests

variable {settings : Settings} {text : Text} {s : Session}

/-- A text of the wrong length is not accepted. -/
theorem accept_refused (hs : Ready settings s) {refusal : Refusal}
    (h : checkLength settings text = .error refusal) :
    ∃ s', accept text s = .error (.refused refusal) s' := by
  obtain ⟨numbered, s₁, s₂, hsettings, rfl, hlog⟩ := hs
  refine ⟨s₂, ?_⟩
  rw [accept, bind_ok hsettings, bind_ok hlog, h]
  rfl

/-- A text of the wrong length is not evaluated. -/
theorem evaluate_refused (hs : Ready settings s) {refusal : Refusal}
    (h : checkLength settings text = .error refusal) :
    ∃ s', evaluate text s = .error (.refused refusal) s' := by
  obtain ⟨s', hrefused⟩ := accept_refused hs h
  exact ⟨s', bind_error hrefused _⟩

/-- A text of the wrong length is not interpreted. -/
theorem interpret_refused (hs : Ready settings s) {refusal : Refusal}
    (h : checkLength settings text = .error refusal) (replies : Nat → Reply) :
    ∃ s', interpret replies text s = .error (.refused refusal) s' := by
  obtain ⟨s', hrefused⟩ := accept_refused hs h
  exact ⟨s', bind_error hrefused _⟩

/-- An expression is evaluated in any session. -/
theorem evaluate_logged (expression : Text) (s : Session) :
    ∃ s', Session.evaluate expression s = .ok (Tapeline.evaluate expression) s' := by
  obtain ⟨s', hlogged⟩ := Session.logEvents_ok (Evaluation.loggable_report expression) s
  exact ⟨s', bind_ok hlogged fun _ => pure (Tapeline.evaluate expression)⟩

/-- The answer to an accepted expression. -/
theorem evaluate_answer (hs : Ready settings s) {phrase : Text}
    (h : checkLength settings text = .ok phrase) :
    ∃ s', evaluate text s = .ok ⟨phrase, Tapeline.evaluate phrase⟩ s' := by
  obtain ⟨numbered, s₁, s₂, hsettings, rfl, hlog⟩ := hs
  have hrequested : Log.Loggable [("expression".toList, .text phrase)] :=
    .cons (by simp [Log.fieldNames]) .nil
  have hfields : Log.Loggable [("ok".toList, .boolean (Tapeline.evaluate phrase).ok),
      ("display".toList, .text (Tapeline.evaluate phrase).display)] :=
    .cons (by simp [Log.fieldNames]) (.cons (by simp [Log.fieldNames]) .nil)
  obtain ⟨trace, s₃, hrequest⟩ :=
    Session.announce_ok hrequested source "evaluate.request".toList none s₂
  obtain ⟨s₄, hevaluated⟩ := evaluate_logged phrase s₃
  obtain ⟨_, s₅, hcompleted⟩ :=
    Session.announce_ok hfields source "evaluate.completed".toList (some trace) s₄
  refine ⟨s₅, ?_⟩
  rw [evaluate, bind_ok (accept_ok hsettings hlog h)]
  dsimp only
  rw [bind_ok hrequest, bind_ok hevaluated, bind_ok hcompleted]
  rfl

end Requests

/-- An answer that fell back has the members of its outcome, its source and what was used. -/
theorem Interpreted.members_fallback {i : Interpreted} {outcome : Outcome} {used : Text}
    (h : i.run.resolution = ⟨outcome, used, .fallback⟩) :
    i.answer = ⟨i.text, outcome⟩ ∧
      i.members = Answer.members ⟨i.text, outcome⟩ ++
        [("source".toList, .text "fallback".toList), ("expression_used".toList, .text used)] := by
  have hanswer : i.answer = ⟨i.text, outcome⟩ := by rw [Interpreted.answer, h]
  refine ⟨hanswer, ?_⟩
  rw [Interpreted.members, hanswer, h]
  rfl

/-- **Falling back is plain evaluation.**  Under the same settings, which the client takes if there
is an endpoint, both requests are refused alike or both are answered.  Where the interpretation falls
back, its answer has all that the answer of the evaluation has; besides, it names its source as a
fallback and the stripped text as the expression that was used. -/
theorem interpret_as_evaluate {settings : Settings} {s t : Session} (hs : Ready settings s)
    (ht : Ready settings t) (hfit : settings.hasEndpoint = true → settings.FitClient)
    (replies : Nat → Reply) (text : Text) :
    (∃ refusal s' t', checkLength settings text = .error refusal ∧
      evaluate text s = .error (.refused refusal) s' ∧
      interpret replies text t = .error (.refused refusal) t') ∨
    ∃ answer interpreted s' t', checkLength settings text = .ok text.strip ∧
      evaluate text s = .ok answer s' ∧ interpret replies text t = .ok interpreted t' ∧
      (FallsBack settings replies text.strip →
        interpreted.answer = answer ∧
        interpreted.members = answer.members ++
          [("source".toList, .text "fallback".toList),
           ("expression_used".toList, .text text.strip)]) := by
  cases hlength : checkLength settings text with
  | error refusal =>
      obtain ⟨s', hevaluate⟩ := evaluate_refused hs hlength
      obtain ⟨t', hinterpret⟩ := interpret_refused ht hlength replies
      exact Or.inl ⟨refusal, s', t', rfl, hevaluate, hinterpret⟩
  | ok phrase =>
      obtain ⟨rfl, hnotBlank⟩ := checkLength_ok hlength
      have hstrip := (Text.trimmed_strip text).strip_eq
      obtain ⟨s', hevaluate⟩ := evaluate_answer hs hlength
      obtain ⟨numbered, t₁, t₂, hsettings, rfl, hlog⟩ := ht
      obtain ⟨t', hinterpret⟩ := interpret_eq replies hsettings hlog hlength hfit
      refine Or.inr ⟨_, _, s', t', rfl, hevaluate, hinterpret, fun hfallsBack => ?_⟩
      have hresolution := resolution_of_fallsBack hfallsBack (hstrip.symm ▸ hnotBlank)
      rw [hstrip] at hresolution
      exact Interpreted.members_fallback hresolution

/-- The replies of a service that answers with a text that is no expression. -/
def chatter : Nat → Reply :=
  fun _ => .content 200 "OK".toList none (Utf8.encode "no idea".toList)

/-- Every phrase falls back when the service answers like that. -/
theorem fallsBack_chatter (phrase : Text) :
    FallsBack (serviceSettings (.ofNat 1)) chatter phrase := by
  have hisSome : (clientOf? (serviceSettings (.ofNat 1))).isSome = true := by decide +kernel
  obtain ⟨client, hclient⟩ := Option.isSome_iff_exists.mp hisSome
  have hends : client.EndsAt chatter 0 :=
    ⟨Nat.zero_le _, nofun, Or.inr (Client.triesAgain_content fun _ => by decide)⟩
  have hdecode : Charset.decodeUtf8 (Utf8.encode "no idea".toList) = .ok "no idea".toList := by
    decide +kernel
  exact .unusable hclient hends rfl (by decide) hdecode (.unparseable rfl)

/-- A service that answers with a text that is no expression. -/
theorem interpret_chatter :
    Ready (serviceSettings (.ofNat 1)) (withService "1") ∧
    (serviceSettings (.ofNat 1)).FitClient ∧
    ∃ answer interpreted s' t', evaluate " 1 + 1".toList (withService "1") = .ok answer s' ∧
      interpret chatter " 1 + 1".toList (withService "1") = .ok interpreted t' ∧
      interpreted.answer = answer := by
  have hresolve : Settings.resolve (withService "1").workspace none =
      .ok (serviceSettings (.ofNat 1)) := by decide +kernel
  obtain ⟨s₁, s₂, hsettings, hlog⟩ := settings_withService hresolve
  have hready : Ready (serviceSettings (.ofNat 1)) (withService "1") :=
    ⟨_, s₁, s₂, hsettings, rfl, hlog⟩
  have hfit : (serviceSettings (.ofNat 1)).FitClient := by
    constructor <;> decide +kernel
  have hlength : checkLength (serviceSettings (.ofNat 1)) " 1 + 1".toList = .ok "1 + 1".toList := by
    decide +kernel
  refine ⟨hready, hfit, ?_⟩
  rcases interpret_as_evaluate hready hready (fun _ => hfit) chatter " 1 + 1".toList with
    ⟨refusal, _, _, hrefused, _⟩ | ⟨answer, interpreted, s', t', _, hevaluate, hinterpret, hsame⟩
  · rw [hlength] at hrefused
    cases hrefused
  · exact ⟨answer, interpreted, s', t', hevaluate, hinterpret, (hsame (fallsBack_chatter _)).1⟩

end Service

end Tapeline
