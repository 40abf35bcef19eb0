import Tapeline.Proofs.Interpretation.Address
import Tapeline.Proofs.Interpretation.Blocking
import Tapeline.Proofs.Interpretation.Reported

/-!
# The two channels agree

The two transports report the same trouble in different ways: where the blocking one rejects a
request, the session one gives a reply with a status of 400 or more, and where the blocking one does
not reach the service, the session one has a fault of its client.  `Reply.Matches` says which
replies tell the same.  One attempt on matching replies reads the same payload or meets matching
faults (`readReply_matches`), and both clients judge these alike (`triesAgain_eq`).  So two calls
end with the same attempt, and all that they do matches (`channels_agree`).
-/

namespace Tapeline

namespace Interpretation

/-! ## Replies, faults and results that match -/

/-- A content type by which a system decodes UTF-8. -/
def IsUtf8 (others : Charset.Decoder) (contentType : Option Text) : Prop :=
  ∀ bytes, ContentType.decode others contentType bytes = Charset.decodeUtf8 bytes

/-- Any name of UTF-8 will do. -/
theorem isUtf8_of_charsetName {others : Charset.Decoder} {contentType : Option Text} {name : Text}
    (hname : ContentType.charsetName others contentType = .ok name)
    (hnull : name.contains '\x00' = false) (hutf8 : Charset.ofName? name = some .utf8) :
    IsUtf8 others contentType := by
  intro bytes
  have hdecode : ContentType.decode others contentType bytes =
      Charset.decodeNamed others name bytes := by
    rw [ContentType.decode, hname]
    rfl
  rw [hdecode, Charset.decodeNamed, hnull, hutf8]
  cases bytes <;> rfl

/-- A reply of the blocking transport and one of the session transport that tell the same. -/
inductive Reply.Matches (others : Charset.Decoder) : Reply → Reply → Prop
  | body {status status' : Int} {reason reason' : Text} {contentType contentType' : Option Text}
      (bytes : List UInt8) (hcharset : IsUtf8 others contentType) (haccepted : status' < 400) :
      Matches others (.content status reason contentType bytes)
        (.content status' reason' contentType' bytes)
  | rejected {status : Int} {reason reason' : Text} {contentType : Option Text}
      {bytes : List UInt8} (hstatus : 400 ≤ status) :
      Matches others (.fault (.rejected status reason)) (.content status reason' contentType bytes)
  | unreachable {reason message : Text} :
      Matches others (.fault (.unreachable reason)) (.fault (.client message))
  | unconnected {reason message : Text} :
      Matches others (.fault (.unreachable reason)) (.fault (.connection message))
  | timedOut {message message' : Text} :
      Matches others (.fault (.timedOut message)) (.fault (.timedOut message'))
  | invalid {message message' : Text} :
      Matches others (.fault (.invalid message)) (.fault (.invalid message'))

/-- A fault of the blocking client and one of the session client that tell the same.  What is wrong
with a body is the same for both. -/
inductive CallFault.Matches : CallFault → CallFault → Prop
  | charset (fault : Charset.Fault) : Matches (.charset fault) (.charset fault)
  | unreadable (error : Json.ReadError) : Matches (.unreadable error) (.unreadable error)
  | rejected {status : Int} {reason reason' url : Text} :
      Matches (.transport (.rejected status reason)) (.transport (.refused status reason' url))
  | unreachable {reason message : Text} :
      Matches (.transport (.unreachable reason)) (.transport (.client message))
  | unconnected {reason message : Text} :
      Matches (.transport (.unreachable reason)) (.transport (.connection message))
  | timedOut {message message' : Text} :
      Matches (.transport (.timedOut message)) (.transport (.timedOut message'))
  | invalid {message message' : Text} :
      Matches (.transport (.invalid message)) (.transport (.invalid message'))

/-- Both clients would try again, or neither. -/
theorem CallFault.Matches.isTransient_eq {f g : CallFault} (h : f.Matches g) :
    f.isTransient .blocking = g.isTransient .session := by
  cases h with
  | charset fault => rfl
  | unreadable error => rfl
  | rejected => rfl
  | unreachable => rfl
  | unconnected => rfl
  | timedOut => rfl
  | invalid => rfl

/-- The same value, or faults that match. -/
inductive ResultsMatch {α : Type} : Except CallFault α → Except CallFault α → Prop
  | ok (a : α) : ResultsMatch (.ok a) (.ok a)
  | error {f g : CallFault} (h : f.Matches g) : ResultsMatch (.error f) (.error g)

namespace ResultsMatch

variable {α β : Type} {x y : Except CallFault α}

/-- Matching results match after a function of their values. -/
theorem map (h : ResultsMatch x y) (f : α → β) : ResultsMatch (x.map f) (y.map f) := by
  cases h with
  | ok a => exact .ok (f a)
  | error hfaults => exact .error hfaults

/-- Matching results have equal values. -/
theorem toOption_eq (h : ResultsMatch x y) : x.toOption = y.toOption := by
  cases h with
  | ok a => rfl
  | error _ => rfl

end ResultsMatch

namespace Client

/-! ## One attempt -/

/-- A body gives both clients the same, a payload or what is wrong with it. -/
theorem readBody_matches (body : Except Charset.Fault Text) :
    ResultsMatch (readBody body) (readBody body) := by
  cases hread : readBody body with
  | ok read => exact .ok read
  | error fault =>
      rcases fault_of_readBody hread with ⟨charset, rfl⟩ | ⟨error, rfl⟩
      · exact .error (.charset charset)
      · exact .error (.unreadable error)

section Attempt

variable {blocking session : Client} (hblocking : blocking.channel = .blocking)
  (hsession : session.channel = .session) {direct remote : Reply}
  (h : direct.Matches blocking.others remote)

include hblocking hsession h

/-- **One attempt**: the same payload, or faults that match. -/
theorem readReply_matches : ResultsMatch (blocking.readReply direct) (session.readReply remote) := by
  cases h with
  | body bytes hcharset haccepted =>
      rw [readReply_blocking hblocking, readReply_session hsession haccepted, hcharset bytes]
      exact readBody_matches _
  | rejected hstatus =>
      rw [readReply_refused hsession hstatus]
      exact .error .rejected
  | unreachable => exact .error .unreachable
  | unconnected => exact .error .unconnected
  | timedOut => exact .error .timedOut
  | invalid => exact .error .invalid

/-- Both channels try again after matching replies, or neither does. -/
theorem triesAgain_eq : blocking.triesAgain direct = session.triesAgain remote := by
  have hread := readReply_matches hblocking hsession h
  unfold triesAgain
  rw [hblocking, hsession]
  generalize blocking.readReply direct = x, session.readReply remote = y at hread
  cases hread with
  | ok read => rfl
  | error hfaults => exact hfaults.isTransient_eq

end Attempt

/-! ## The whole call -/

/-- Calls that are judged alike at every attempt end with the same one. -/
theorem EndsAt.of_triesAgain_eq {c d : Client} {service service' : Nat → Reply} {n : Nat}
    (h : c.EndsAt service n) (hretries : c.maxRetries = d.maxRetries)
    (hjudged : ∀ k, c.triesAgain (service k) = d.triesAgain (service' k)) :
    d.EndsAt service' n where
  within := hretries ▸ h.within
  before := fun k hk => hjudged k ▸ h.before k hk
  final := hretries ▸ hjudged n ▸ h.final

/-- A configuration with an `http` address makes a client that can send. -/
theorem ofConfig?_http {config : Config} {endpoint : Text} (hendpoint : config.endpoint = some endpoint)
    (hhttp : IsHttp endpoint) (channel : Channel) (others : Charset.Decoder) :
    ∃ c : Client, ofConfig? channel true config others = some c ∧
      c = ⟨channel, endpoint, config.model, config.timeout, config.maxRetries, true, others⟩ ∧
      c.CanSend := by
  have hne : endpoint.isEmpty = false := by
    obtain ⟨scheme, rest, rfl, _⟩ := hhttp
    simp
  refine ⟨_, ?_, rfl, ?_⟩
  · rw [ofConfig?, hendpoint]
    simp [hne]
  · cases channel with
    | blocking => exact hasScheme_of_isHttp hhttp
    | session => rfl

/-- **The two channels agree.**  For one configuration with an `http` address and replies that match,
both clients end with the same attempt; they send as many requests with the same bodies and wait
equally long between them; they give the same payload or faults that match; and the phrase comes to
the same, whichever client interprets it. -/
theorem channels_agree {config : Config} {endpoint : Text}
    (hendpoint : config.endpoint = some endpoint) (hhttp : IsHttp endpoint)
    {others : Charset.Decoder} {direct remote : Nat → Reply}
    (hreplies : ∀ k, (direct k).Matches others (remote k)) (phrase : Text) :
    ∃ blocking session n,
      ofConfig? .blocking true config others = some blocking ∧
      ofConfig? .session true config others = some session ∧
      blocking.EndsAt direct n ∧ session.EndsAt remote n ∧
      (blocking.interpret direct phrase).requests.map Request.body =
        (session.interpret remote phrase).requests.map Request.body ∧
      (blocking.interpret direct phrase).waits = (session.interpret remote phrase).waits ∧
      ResultsMatch (blocking.interpret direct phrase).result
        (session.interpret remote phrase).result ∧
      (run (blocking.interpret direct) phrase).resolution =
        (run (session.interpret remote) phrase).resolution := by
  obtain ⟨blocking, hblocking, hvalues, hsend⟩ := ofConfig?_http hendpoint hhttp .blocking others
  obtain ⟨session, hsession, hvalues', hsend'⟩ := ofConfig?_http hendpoint hhttp .session others
  have hchannel : blocking.channel = .blocking := by rw [hvalues]
  have hchannel' : session.channel = .session := by rw [hvalues']
  have hmatches : ∀ k, (direct k).Matches blocking.others (remote k) := by
    rw [hvalues]
    exact hreplies
  obtain ⟨n, hends⟩ := exists_endsAt blocking direct
  have hends' : session.EndsAt remote n := by
    refine hends.of_triesAgain_eq (by rw [hvalues, hvalues']) fun k => ?_
    exact triesAgain_eq hchannel hchannel' (hmatches k)
  have hcall := interpret_eq_callTo hsend hends phrase
  have hcall' := interpret_eq_callTo hsend' hends' phrase
  have hresults : ResultsMatch (blocking.interpret direct phrase).result
      (session.interpret remote phrase).result := by
    rw [hcall, hcall']
    exact (readReply_matches hchannel hchannel' (hmatches n)).map _
  have hbody : (blocking.request phrase).body = (session.request phrase).body := by
    rw [hvalues, hvalues']
    rfl
  refine ⟨blocking, session, n, hblocking, hsession, hends, hends', ?_, ?_, hresults, ?_⟩
  · rw [hcall, hcall', requests_callTo, requests_callTo, List.map_replicate, List.map_replicate,
      hbody]
  · rw [hcall, hcall', waits_callTo, waits_callTo]
  · rw [resolution_run, resolution_run, hresults.toOption_eq]

/-- A payload of a sum. -/
def addingBody : List UInt8 :=
  Utf8.encode "\x7b\x22expression\x22: \x221 + 1\x22\x7d".toList

/-- The session transport of a service that is not reached at first and then answers. -/
def lateSession : Nat → Reply
  | 0 => .fault (.client "refused".toList)
  | n + 1 => lateService none addingBody (n + 1)

/-- The two channels agree on a service that answers the second time. -/
theorem channels_agree_lateService :
    ∃ blocking session,
      ofConfig? .blocking true ⟨some "HTTP://svc".toList, none, Config.defaultTimeout, 1⟩ =
        some blocking ∧
      ofConfig? .session true ⟨some "HTTP://svc".toList, none, Config.defaultTimeout, 1⟩ =
        some session ∧
      (run (blocking.interpret (lateService none addingBody)) "two".toList).resolution =
        (run (session.interpret lateSession) "two".toList).resolution := by
  let config : Config := ⟨some "HTTP://svc".toList, none, Config.defaultTimeout, 1⟩
  have hendpoint : config.endpoint = some "HTTP://svc".toList := rfl
  have hhttp : IsHttp "HTTP://svc".toList :=
    ⟨"HTTP".toList, "//svc".toList, rfl, by decide +kernel⟩
  have hutf8 : IsUtf8 Charset.noOthers none :=
    isUtf8_of_charsetName rfl (by decide) (by decide +kernel)
  have hreplies : ∀ k,
      (lateService none addingBody k).Matches Charset.noOthers (lateSession k) := by
    intro k
    cases k with
    | zero => exact .unreachable
    | succ k => exact .body _ hutf8 (by decide)
  obtain ⟨blocking, session, _, hblocking, hsession, _, _, _, _, _, hresolution⟩ :=
    channels_agree hendpoint hhttp hreplies "two".toList
  exact ⟨blocking, session, hblocking, hsession, hresolution⟩

end Client

end Interpretation

end Tapeline
