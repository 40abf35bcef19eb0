import Tapeline.Service

/-!
# Logging never fails an action

Logging fails only if a field of an event has the name of an attribute that every record has.  No
event of an evaluation or an interpretation has such a field (`loggable_report`, `loggable_run`), so
these events are always logged (`logEvents_ok`), and so is what the service announces
(`announce_ok`), however the logger is configured.
-/

namespace Tapeline

namespace Log

/-- No field has a name that fields cannot have. -/
def Loggable (fields : List (Text × Json)) : Prop :=
  ∀ field ∈ fields, isWritten field = true

theorem Loggable.nil : Loggable [] := by
  intro field hfield
  cases hfield

/-- The names of the fields that the events of evaluations, interpretations and requests have. -/
def fieldNames : List String :=
  ["trace_id", "expression", "tokens", "shape", "error", "reason", "payload", "attempt",
   "max_attempts", "text", "source", "ok", "display"]

/-- The names of fields are no attributes of records. -/
theorem not_attribute {name : String} (h : name ∈ fieldNames) :
    recordAttributes.contains name.toList = false := by
  have hall : fieldNames.all (fun name => !recordAttributes.contains name.toList) = true := by
    decide
  simpa using List.all_eq_true.mp hall name h

/-- A field with one of the names may be added. -/
theorem Loggable.cons {name : String} {value : Json} {fields : List (Text × Json)}
    (hname : name ∈ fieldNames) (h : Loggable fields) :
    Loggable ((name.toList, value) :: fields) := by
  refine List.forall_mem_cons.mpr ⟨?_, h⟩
  rw [isWritten, not_attribute hname]
  rfl

/-- Fields that are fit to be logged take no name that is taken. -/
theorem takenName?_eq_none {fields : List (Text × Json)} (h : Loggable fields) :
    takenName? fields = none := by
  rw [takenName?, Option.map_eq_none_iff, List.find?_eq_none]
  intro field hfield
  simp [h field hfield]

end Log

open Log (Loggable)

/-- Every event can be logged. -/
def AllLoggable (events : List Log.Event) : Prop :=
  ∀ event ∈ events, Loggable event.fields

theorem AllLoggable.nil : AllLoggable [] := by
  intro event hevent
  cases hevent

theorem AllLoggable.cons {event : Log.Event} {events : List Log.Event}
    (hevent : Loggable event.fields) (h : AllLoggable events) : AllLoggable (event :: events) :=
  List.forall_mem_cons.mpr ⟨hevent, h⟩

theorem AllLoggable.single {event : Log.Event} (hevent : Loggable event.fields) :
    AllLoggable [event] :=
  .cons hevent .nil

theorem AllLoggable.append {first second : List Log.Event} (hfirst : AllLoggable first)
    (hsecond : AllLoggable second) : AllLoggable (first ++ second) :=
  List.forall_mem_append.mpr ⟨hfirst, hsecond⟩

namespace Session

variable {source : Text} {fields : List (Text × Json)}

/-- Fields that are fit to be logged are logged without a fault. -/
theorem log_ok (h : Loggable fields) (level : Int) (template : Text) (args : List Json)
    (s : Session) : ∃ s', log source level template args fields s = .ok () s' := by
  rw [log, get_bind]
  simp only [Log.takenName?_eq_none h]
  split
  · split <;> exact ⟨_, rfl⟩
  · exact ⟨_, rfl⟩

/-- **Events that can be logged are logged.** -/
theorem logEvents_ok {events : List Log.Event} (h : AllLoggable events) (s : Session) :
    ∃ s', logEvents events s = .ok () s' := by
  induction events generalizing s with
  | nil => exact ⟨s, rfl⟩
  | cons event events ih =>
      obtain ⟨hevent, hevents⟩ := List.forall_mem_cons.mp h
      obtain ⟨s₁, hlog⟩ := @log_ok event.source _ hevent event.level event.name [] s
      obtain ⟨s₂, hrest⟩ := ih hevents s₁
      refine ⟨s₂, ?_⟩
      rw [logEvents, List.forM_eq_forM, List.forM_cons, bind_ok hlog]
      exact hrest

/-- **What can be logged can be announced.** -/
theorem announce_ok (h : Loggable fields) (source name : Text) (trace : Option Text) (s : Session) :
    ∃ trace' s', announce source name trace fields s = .ok trace' s' := by
  have hlog : ∀ trace' s', ∃ s'', log source Log.Level.info name []
      (("trace_id".toList, .text trace') :: fields) s' = .ok () s'' :=
    fun trace' s' => log_ok (.cons (by simp [Log.fieldNames]) h) _ _ _ s'
  unfold announce
  cases trace.filter (!·.isEmpty) with
  | some given =>
      obtain ⟨s', hs'⟩ := hlog given s
      exact ⟨given, s', bind_ok hs' fun _ => pure given⟩
  | none =>
      obtain ⟨s', hs'⟩ := hlog (Text.hex traceLength s.nextTrace)
        { s with nextTrace := s.nextTrace + 1 }
      exact ⟨_, s', bind_ok hs' fun _ => pure (Text.hex traceLength s.nextTrace)⟩

end Session

/-! ## The events of an evaluation -/

namespace Evaluation

/-- The names of the events of an evaluation. -/
def routeNames : List String :=
  ["percentage_path", "arithmetic_path", "arithmetic_fallthrough", "measurement_path",
   "measurement_evaluation_failed"]

/-- An event that tells of the route of an evaluation, in fields that can be logged. -/
structure IsRouteEvent (told : Log.Event) : Prop where
  name : ∃ name ∈ routeNames, told.name = name.toList
  fields : Loggable told.fields

/-- An event of a route has one of its names and fields fit to be logged. -/
theorem isRouteEvent_event {name : String} (hname : name ∈ routeNames)
    {fields : List (Text × Json)} (h : Loggable fields) (level : Log.Level) (expression : Text) :
    IsRouteEvent (event level name expression fields) :=
  ⟨⟨name, hname, rfl⟩, .cons (by simp [Log.fieldNames]) h⟩

/-- An event that tells of an error belongs to its route. -/
theorem isRouteEvent_errorEvent {name : String} (hname : name ∈ routeNames) (level : Log.Level)
    (expression message : Text) : IsRouteEvent (errorEvent level name expression message) :=
  isRouteEvent_event hname (.cons (by simp [Log.fieldNames]) .nil) level expression

/-- All that a measurement tells belongs to its route. -/
theorem isRouteEvent_of_mem_measure {e : Text} :
    ∀ told ∈ (measure e).2, IsRouteEvent told := by
  unfold measure
  dsimp only
  split
  · exact fun told htold => absurd htold List.not_mem_nil
  · split
    · exact List.forall_mem_singleton.mpr (isRouteEvent_event (by simp [routeNames])
        (.cons (by simp [Log.fieldNames]) .nil) _ _)
    · exact List.forall_mem_singleton.mpr (isRouteEvent_errorEvent (by simp [routeNames]) _ _ _)

/-- All that a calculation tells belongs to its route. -/
theorem isRouteEvent_of_mem_calculate {e : Text} :
    ∀ told ∈ (calculate e).2, IsRouteEvent told := by
  unfold calculate
  split
  · split
    · exact List.forall_mem_singleton.mpr (isRouteEvent_event (by simp [routeNames]) .nil _ _)
    · exact List.forall_mem_cons.mpr ⟨isRouteEvent_errorEvent (by simp [routeNames]) _ _ _,
        isRouteEvent_of_mem_measure⟩
  · exact isRouteEvent_of_mem_measure

/-- An evaluation logs nothing but its route. -/
theorem isRouteEvent_of_mem_report {e : Text} :
    ∀ told ∈ (report e).2, IsRouteEvent told := by
  unfold report
  dsimp only
  split
  · exact fun told htold => absurd htold List.not_mem_nil
  · split
    · exact List.forall_mem_singleton.mpr (isRouteEvent_event (by simp [routeNames])
        (.cons (by simp [Log.fieldNames]) .nil) _ _)
    · exact isRouteEvent_of_mem_calculate

/-- All that an evaluation tells is fit to be logged. -/
theorem loggable_report (e : Text) : AllLoggable (report e).2 :=
  fun told htold => (isRouteEvent_of_mem_report told htold).fields

end Evaluation

/-! ## The events of an interpretation -/

namespace Interpretation

/-- All that a fallback tells is fit to be logged. -/
theorem loggable_fallBack (phrase : Text) (reason : FallbackReason) :
    AllLoggable (fallBack phrase reason).2 :=
  .cons (.cons (by simp [Log.fieldNames]) .nil) (Evaluation.loggable_report phrase)

/-- All that a resolution tells is fit to be logged. -/
theorem loggable_resolve (phrase : Text) (payload : Option Payload) (missing : FallbackReason) :
    AllLoggable (resolve phrase payload missing).2 := by
  unfold resolve
  split
  · exact loggable_fallBack _ _
  · split
    · exact loggable_fallBack _ _
    · split
      · exact loggable_fallBack _ _
      · exact Evaluation.loggable_report _

/-- All that a payload tells is fit to be logged. -/
theorem Payload.loggable_ofReply (reply : Json) : AllLoggable (ofReply reply).2 := by
  unfold ofReply
  split
  · split
    · exact .nil
    · split
      · exact .nil
      · exact .single (.cons (by simp [Log.fieldNames]) .nil)
  · exact .nil

namespace Client

variable {c : Client}

/-- All that a body tells is fit to be logged. -/
theorem loggable_readBody {body : Except Charset.Fault Text} {payload : Payload}
    {events : List Log.Event} (h : readBody body = .ok (payload, events)) :
    AllLoggable events := by
  obtain ⟨_, members, _, _, hofReply⟩ := exists_of_readBody h
  have hloggable := Payload.loggable_ofReply (.object members)
  rwa [hofReply] at hloggable

/-- All that a reply tells is fit to be logged. -/
theorem loggable_readReply {reply : Reply} {payload : Payload} {events : List Log.Event}
    (h : c.readReply reply = .ok (payload, events)) : AllLoggable events := by
  cases reply with
  | fault fault => cases h
  | content status reason contentType bytes =>
      by_cases hrefused : (c.channel = .session && 400 ≤ status) = true
      · rw [readReply, if_pos hrefused] at h
        cases h
      · rw [readReply, if_neg hrefused] at h
        exact loggable_readBody h

/-- The warning of a failed attempt is fit to be logged. -/
theorem loggable_failureEvent (attempt : Nat) (fault : CallFault) :
    Loggable (c.failureEvent attempt fault).fields :=
  .cons (by simp [Log.fieldNames]) (.cons (by simp [Log.fieldNames])
    (.cons (by simp [Log.fieldNames]) .nil))

/-- All that the attempts of a call tell is fit to be logged, by induction on those that are left.
-/
theorem loggable_attemptFrom (service : Nat → Reply) (phrase : Text) (count : Nat) :
    ∀ attempt, AllLoggable (c.attemptFrom service phrase count attempt).events := by
  induction count with
  | zero => exact fun _ => .nil
  | succ count ih =>
      intro attempt
      unfold attemptFrom
      dsimp only
      split
      · rename_i payload events hread
        change AllLoggable (Step.events (events.map .logged))
        rw [Step.events_map_logged]
        exact loggable_readReply hread
      · split
        · split
          · exact .single (loggable_failureEvent _ _)
          · exact .cons (loggable_failureEvent _ _) (ih _)
        · exact .nil

/-- All that a call tells is fit to be logged. -/
theorem loggable_interpret (service : Nat → Reply) (phrase : Text) :
    AllLoggable (c.interpret service phrase).events := by
  unfold interpret
  dsimp only
  split
  · exact .nil
  · split
    · exact .nil
    · exact loggable_attemptFrom _ _ _ _

end Client

/-- All that a run tells is fit to be logged if its interpreter tells nothing else. -/
theorem loggable_run {interpreter : Interpreter} {phrase : Text}
    (h : AllLoggable (interpreter phrase).events) :
    AllLoggable (run interpreter phrase).events := by
  unfold run
  split
  · exact .nil
  · dsimp only
    rw [Run.events, Step.events_append, Step.events_map_logged]
    refine h.append (.append ?_ (loggable_resolve _ _ _))
    split
    · exact .nil
    · exact .single (.cons (by simp [Log.fieldNames]) .nil)

end Interpretation

end Tapeline
