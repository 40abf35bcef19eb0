import Tapeline.Interpretation.Config
import Tapeline.Interpretation.Payload
import Tapeline.Interpretation.Reply
import Tapeline.Json.Printer
import Tapeline.Text.ContentType

/-!
# Calls of the interpretation service

A call sends a phrase, waits for the reply and reads the payload in it.  An attempt that fails for
a transient reason is repeated after a wait that doubles from one second on, as long as retries
are left; any other fault ends the call at once.  The service itself is a function from the number
of an attempt to its reply, so a call is a value: its result with its steps, that is, the requests,
the waits and the events in their order.

There are two channels.  The blocking one sends its body as text and decodes the body of a reply by
its content type; which character sets there are to choose from is up to the system.  The session
one is open only within its session and judges the status of the reply, and a reply comes to it as
the text of its body.  Each has transient faults of its own, and one that belongs to the other
channel ends the call.
-/

namespace Tapeline

namespace Interpretation

/-- How requests are sent. -/
inductive Channel where
  | blocking
  | session
deriving DecidableEq, Repr

/-- The name of a client on a channel. -/
def Channel.clientName : Channel → Text
  | blocking => "HttpInterpreter".toList
  | session => "AsyncHttpInterpreter".toList

/-- Why no reply came. -/
inductive TransportFault where
  | unreachable (reason : Text)
  | rejected (status : Int) (reason : Text)
  | timedOut (message : Text)
  | client (message : Text)
  | connection (message : Text)
  | refused (status : Int) (reason url : Text)
  | reset (message : Text)
  | system (message : Text)
  | invalid (message : Text)
deriving DecidableEq, Repr

namespace TransportFault

/-- The words that are reported for a fault of the transport. -/
def message : TransportFault → Text
  | unreachable reason => "<urlopen error ".toList ++ reason ++ ['>']
  | rejected status reason =>
    "HTTP Error ".toList ++ Text.ofInt status ++ ": ".toList ++ reason
  | refused status reason url =>
    Text.ofInt status ++ ", message=".toList ++ reason.quoted ++ ", url=".toList ++ url.quoted
  | timedOut message => message
  | client message => message
  | connection message => message
  | reset message => message
  | system message => message
  | invalid message => message

/-- May another attempt on a channel fare better? -/
def isTransient (channel : Channel) : TransportFault → Bool
  | unreachable _ => channel = .blocking
  | rejected _ _ => channel = .blocking
  | timedOut _ => true
  | client _ => channel = .session
  | connection _ => channel = .session
  | refused _ _ _ => channel = .session
  | reset _ => false
  | system _ => false
  | invalid _ => false

end TransportFault

/-- What comes back from the service.  On the session channel the bytes are those of the text that
the body is read as, in UTF-8, whatever character set it came in. -/
inductive Reply where
  | fault (fault : TransportFault)
  | content (status : Int) (reason : Text) (contentType : Option Text) (bytes : List UInt8)
deriving DecidableEq, Repr

/-- Why a call has no payload. -/
inductive CallFault where
  | transport (fault : TransportFault)
  | charset (fault : Charset.Fault)
  | unreadable (error : Json.ReadError)
  | noScheme (url : Text)
  | notInSession
  | raised (message : Text)
deriving DecidableEq, Repr

namespace CallFault

/-- The words that are reported for a failed call. -/
def message : CallFault → Text
  | transport fault => fault.message
  | charset fault => fault.message
  | unreadable error => error.message
  | noScheme url => "unknown url type: ".toList ++ url.quoted
  | notInSession => "AsyncHttpInterpreter must be used as async context manager".toList
  | raised message => message

/-- May another attempt on a channel fare better? -/
def isTransient (channel : Channel) : CallFault → Bool
  | transport fault => fault.isTransient channel
  | _ => false

end CallFault

/-- A request to the service. -/
structure Request where
  channel : Channel
  url : Text
  timeout : Binary64
  content : List (Text × Json)

namespace Request

/-- The method of every request. -/
def method : Text := "POST".toList

/-- The headers of every request. -/
def headers : List (Text × Text) :=
  [("content-type".toList, "application/json".toList), ("accept".toList, "application/json".toList)]

/-- The content as it is sent. -/
def body (r : Request) : Text :=
  Json.print .asciiLine (.object r.content)

end Request

/-- One thing that is done for a phrase: a request is sent, some seconds pass, or an event is
logged. -/
inductive Step where
  | sent (request : Request)
  | waited (seconds : Nat)
  | logged (event : Log.Event)

namespace Step

/-- The requests among steps. -/
def requests (steps : List Step) : List Request :=
  steps.filterMap fun
    | sent request => some request
    | _ => none

/-- The waits among steps. -/
def waits (steps : List Step) : List Nat :=
  steps.filterMap fun
    | waited seconds => some seconds
    | _ => none

/-- The events among steps. -/
def events (steps : List Step) : List Log.Event :=
  steps.filterMap fun
    | logged event => some event
    | _ => none

@[simp]
theorem requests_append (first second : List Step) :
    requests (first ++ second) = requests first ++ requests second :=
  List.filterMap_append

@[simp]
theorem waits_append (first second : List Step) :
    waits (first ++ second) = waits first ++ waits second :=
  List.filterMap_append

@[simp]
theorem events_append (first second : List Step) :
    events (first ++ second) = events first ++ events second :=
  List.filterMap_append

@[simp]
theorem requests_map_logged (all : List Log.Event) : requests (all.map .logged) = [] := by
  simp [requests, List.filterMap_map]

@[simp]
theorem waits_map_logged (all : List Log.Event) : waits (all.map .logged) = [] := by
  simp [waits, List.filterMap_map]

@[simp]
theorem events_map_logged (all : List Log.Event) : events (all.map .logged) = all := by
  rw [events, List.filterMap_map]
  exact List.filterMap_some

end Step

/-- A call: its result, and everything it did in order. -/
structure Call where
  result : Except CallFault Payload
  steps : List Step := []

namespace Call

/-- The requests of a call. -/
def requests (c : Call) : List Request := Step.requests c.steps

/-- The waits of a call. -/
def waits (c : Call) : List Nat := Step.waits c.steps

/-- The events of a call. -/
def events (c : Call) : List Log.Event := Step.events c.steps

end Call

/-- Something that makes payloads of phrases. -/
abbrev Interpreter := Text → Call

/-- The text before the last occurrence of a character, if there is one. -/
def beforeLast? (c : Char) (t : Text) : Option (Text × Text) :=
  (Text.splitAtFirst c t.reverse).map fun (after, before) => (before.reverse, after.reverse)

/-- An address without the decoration around it: blanks, angle brackets and the lead `URL:`. -/
def plainAddress (url : Text) : Text :=
  let stripped := url.strip
  let inner :=
    match stripped with
    | '<' :: rest => if rest.getLast? = some '>' then Text.strip rest.dropLast else stripped
    | _ => stripped
  match Text.dropLead? "URL:".toList inner with
  | some rest => rest.strip
  | none => inner

/-- An address without its fragment. -/
def withoutFragment (url : Text) : Text :=
  match beforeLast? '#' url with
  | some (before, _) => before
  | none => url

/-- Does an address start with a scheme and a colon? -/
def hasScheme (url : Text) : Bool :=
  match url.span fun c => c != '/' && c != ':' with
  | (_ :: _, ':' :: _) => true
  | _ => false

/-- A fragment that is empty is not shown. -/
def shownAddress (url : Text) : Text :=
  match beforeLast? '#' url with
  | some (before, []) => before
  | _ => url

/-- A client of the service. -/
structure Client where
  channel : Channel
  endpoint : Text
  model : Option Text
  timeout : Binary64
  maxRetries : Nat
  /-- Is the session of the client open? -/
  inSession : Bool
  /-- What the system makes of further character sets. -/
  others : Charset.Decoder

namespace Client

/-- The words for a configuration without an endpoint. -/
def noEndpointMessage (channel : Channel) : Text :=
  channel.clientName ++ " requires a non-empty endpoint".toList

/-- A client for a configuration that has an endpoint. -/
def ofConfig? (channel : Channel) (inSession : Bool) (c : Config)
    (others : Charset.Decoder := Charset.noOthers) : Option Client :=
  match c.endpoint with
  | none => none
  | some endpoint =>
    if endpoint.isEmpty then none
    else some ⟨channel, endpoint, c.model, c.timeout, c.maxRetries, inSession, others⟩

/-- A configuration with an endpoint makes a client of its values. -/
theorem ofConfig?_some {c : Client} {channel : Channel} {inSession : Bool} {config : Config}
    {others : Charset.Decoder} (h : ofConfig? channel inSession config others = some c) :
    ∃ endpoint, config.endpoint = some endpoint ∧ endpoint ≠ [] ∧
      c = ⟨channel, endpoint, config.model, config.timeout, config.maxRetries, inSession,
        others⟩ := by
  unfold ofConfig? at h
  cases hendpoint : config.endpoint with
  | none =>
      rw [hendpoint] at h
      cases h
  | some endpoint =>
      simp only [hendpoint] at h
      split at h
      · cases h
      · rename_i hne
        refine ⟨endpoint, rfl, ?_, (Option.some.inj h).symm⟩
        rintro rfl
        exact hne rfl

/-- The content of a request: the phrase, its language, and the model if one is configured. -/
def content (c : Client) (phrase : Text) : List (Text × Json) :=
  let model :=
    match c.model with
    | some model => if model.isEmpty then [] else [("model".toList, .text model)]
    | none => []
  [("text".toList, .text phrase), ("lang".toList, .text "auto".toList)] ++ model

/-- The request for a phrase. -/
def request (c : Client) (phrase : Text) : Request :=
  ⟨c.channel, c.endpoint, c.timeout, c.content phrase⟩

/-- The text of a body. -/
def decodeBody (c : Client) (contentType : Option Text) (bytes : List UInt8) :
    Except Charset.Fault Text :=
  match c.channel with
  | .blocking => ContentType.decode c.others contentType bytes
  | .session => Charset.decodeUtf8 bytes

/-- The payload in a body, with the events on the way. -/
def readBody (body : Except Charset.Fault Text) : Except CallFault (Payload × List Log.Event) := do
  let content ← body.mapError .charset
  let members ← (cleanReply content).mapError .unreadable
  return Payload.ofReply (.object members)

/-- A body that is text is read for its members. -/
theorem readBody_text (content : Text) :
    readBody (.ok content) = (do
      let members ← (cleanReply content).mapError .unreadable
      return Payload.ofReply (.object members)) :=
  rfl

/-- A body whose text is an object is read as its payload. -/
theorem readBody_ok {content : Text} {members : List (Text × Json)}
    (hclean : cleanReply content = .ok members) :
    readBody (.ok content) = .ok (Payload.ofReply (.object members)) := by
  rw [readBody_text, hclean]
  rfl

/-- A body is no text, or its text does not read, or there is a payload. -/
theorem readBody_cases (body : Except Charset.Fault Text) :
    (∃ fault, body = .error fault ∧ readBody body = .error (.charset fault)) ∨
    ∃ content, body = .ok content ∧
      ((∃ error, cleanReply content = .error error ∧ readBody body = .error (.unreadable error)) ∨
      ∃ members, cleanReply content = .ok members ∧
        readBody body = .ok (Payload.ofReply (.object members))) := by
  cases body with
  | error fault => exact Or.inl ⟨fault, rfl, rfl⟩
  | ok content =>
      refine Or.inr ⟨content, rfl, ?_⟩
      cases hclean : cleanReply content with
      | error error =>
          refine Or.inl ⟨error, rfl, ?_⟩
          rw [readBody_text, hclean]
          rfl
      | ok members => exact Or.inr ⟨members, rfl, readBody_ok hclean⟩

/-- A payload comes from the members of the object in a text. -/
theorem exists_of_readBody {body : Except Charset.Fault Text} {read : Payload × List Log.Event}
    (h : readBody body = .ok read) :
    ∃ content members, body = .ok content ∧ cleanReply content = .ok members ∧
      Payload.ofReply (.object members) = read := by
  rcases readBody_cases body with ⟨fault, _, hread⟩ | ⟨content, hbody, hrest⟩
  · rw [hread] at h
    cases h
  rcases hrest with ⟨error, _, hread⟩ | ⟨members, hclean, hread⟩
  · rw [hread] at h
    cases h
  · exact ⟨content, members, hbody, hclean, Except.ok.inj (hread.symm.trans h)⟩

/-- What is wrong with a body lies in its text, not in the transport. -/
theorem fault_of_readBody {body : Except Charset.Fault Text} {fault : CallFault}
    (h : readBody body = .error fault) :
    (∃ charset, fault = .charset charset) ∨ ∃ error, fault = .unreadable error := by
  rcases readBody_cases body with ⟨charset, _, hread⟩ | ⟨content, _, hrest⟩
  · rw [hread] at h
    exact Or.inl ⟨charset, (Except.error.inj h).symm⟩
  rcases hrest with ⟨error, _, hread⟩ | ⟨members, _, hread⟩
  · rw [hread] at h
    exact Or.inr ⟨error, (Except.error.inj h).symm⟩
  · rw [hread] at h
    cases h

/-- The payload in a reply, with the events on the way. -/
def readReply (c : Client) : Reply → Except CallFault (Payload × List Log.Event)
  | .fault fault => .error (.transport fault)
  | .content status reason contentType bytes =>
    if c.channel = .session && 400 ≤ status then
      .error (.transport (.refused status reason c.endpoint))
    else readBody (c.decodeBody contentType bytes)

/-- The name of the event of a failed attempt. -/
def failureName : Channel → String
  | .blocking => "interpreter_call_failed"
  | .session => "async_interpreter_call_failed"

/-- How many attempts a call may take. -/
def attempts (c : Client) : Nat := c.maxRetries + 1

/-- The event of a failed attempt. -/
def failureEvent (c : Client) (attempt : Nat) (fault : CallFault) : Log.Event :=
  event .warning (failureName c.channel)
    [("attempt", .integer (attempt + 1)), ("max_attempts", .integer c.attempts),
     ("error", .text fault.message)]

/-- The words for a call that is left without an attempt. -/
def exhaustedMessage : Channel → Text
  | .blocking => "Interpreter call failed after retries".toList
  | .session => "Async interpreter call failed after retries".toList

/-- At most `count` attempts from number `attempt` on.  A transient fault is logged and followed by
a wait and the next attempt, unless the attempt was the last that a call may take. -/
def attemptFrom (c : Client) (service : Nat → Reply) (phrase : Text) :
    (count : Nat) → (attempt : Nat) → Call
  | 0, _ => ⟨.error (.raised (exhaustedMessage c.channel)), []⟩
  | count + 1, attempt =>
    let request := Step.sent (c.request phrase)
    match c.readReply (service attempt) with
    | .ok (payload, events) => ⟨.ok payload, request :: events.map .logged⟩
    | .error fault =>
      if fault.isTransient c.channel then
        let failure := Step.logged (c.failureEvent attempt fault)
        if c.attempts ≤ attempt + 1 then ⟨.error fault, [request, failure]⟩
        else
          let next := attemptFrom c service phrase count (attempt + 1)
          ⟨next.result, request :: failure :: .waited (2 ^ attempt) :: next.steps⟩
      else ⟨.error fault, [request]⟩

/-- A call of the service. -/
def interpret (c : Client) (service : Nat → Reply) : Interpreter := fun phrase =>
  let address := plainAddress c.endpoint
  if c.channel = .session && !c.inSession then ⟨.error .notInSession, []⟩
  else if c.channel = .blocking && !hasScheme (withoutFragment address) then
    ⟨.error (.noScheme (shownAddress address)), []⟩
  else attemptFrom c service phrase c.attempts 0

end Client

end Interpretation

end Tapeline
