import Mathlib.Data.List.Basic
import Tapeline.Interpretation.Client

/-!
# Retries

Which attempt a call ends with depends on the replies alone: it is the first after whose reply the
client does not try again, or the last that the retries allow (`EndsAt`).  There is always such an
attempt (`exists_endsAt`).  One turn of the loop either goes on (`attemptFrom_again`) or ends the
call (`attemptFrom_end`), so the whole call is known from the attempt it ends with
(`interpret_eq_callTo`): every attempt before it sends the request, logs its failure and waits, and
it alone gives the result.
-/

namespace Tapeline

namespace Interpretation

namespace Client

/-! ## The attempt that a call ends with -/

/-- Does the client try again after a reply, if a retry is left? -/
def triesAgain (c : Client) (reply : Reply) : Bool :=
  match c.readReply reply with
  | .ok _ => false
  | .error fault => fault.isTransient c.channel

/-- A call ends with attempt `n`, counted from zero. -/
structure EndsAt (c : Client) (service : Nat → Reply) (n : Nat) : Prop where
  within : n ≤ c.maxRetries
  before : ∀ k < n, c.triesAgain (service k) = true
  final : n = c.maxRetries ∨ c.triesAgain (service n) = false

variable {c : Client} {service : Nat → Reply}

/-- Every call ends. -/
theorem exists_endsAt (c : Client) (service : Nat → Reply) : ∃ n, c.EndsAt service n := by
  have hbounded : ∀ retries, ∃ n ≤ retries, (∀ k < n, c.triesAgain (service k) = true) ∧
      (n = retries ∨ c.triesAgain (service n) = false) := by
    intro retries
    induction retries with
    | zero => exact ⟨0, Nat.le_refl 0, fun k hk => absurd hk (Nat.not_lt_zero k), Or.inl rfl⟩
    | succ retries ih =>
        obtain ⟨n, hn, hbefore, hfinal⟩ := ih
        cases hagain : c.triesAgain (service n) with
        | false => exact ⟨n, by omega, hbefore, Or.inr hagain⟩
        | true =>
            -- the last attempt so far fails too, so the new retry is taken
            have heq : n = retries := hfinal.resolve_right (by simp [hagain])
            refine ⟨n + 1, by omega, ?_, Or.inl (by omega)⟩
            intro k hk
            rcases Nat.lt_succ_iff_lt_or_eq.mp hk with hlt | rfl
            · exact hbefore k hlt
            · exact hagain
  obtain ⟨n, hwithin, hbefore, hfinal⟩ := hbounded c.maxRetries
  exact ⟨n, hwithin, hbefore, hfinal⟩

/-! ## One turn -/

/-- What an attempt logs: its failure if it may be repeated, or what there is to tell of its
payload. -/
def attemptEvents (c : Client) (service : Nat → Reply) (attempt : Nat) : List Log.Event :=
  match c.readReply (service attempt) with
  | .ok (_, events) => events
  | .error fault => if fault.isTransient c.channel then [c.failureEvent attempt fault] else []

/-- What an attempt does. -/
def attemptSteps (c : Client) (service : Nat → Reply) (phrase : Text) (attempt : Nat) : List Step :=
  .sent (c.request phrase) :: (c.attemptEvents service attempt).map .logged

/-- What an attempt does that another one follows. -/
def failedSteps (c : Client) (service : Nat → Reply) (phrase : Text) (attempt : Nat) : List Step :=
  c.attemptSteps service phrase attempt ++ [.waited (2 ^ attempt)]

variable {attempt : Nat}

/-- The loop goes on after a transient fault while a retry is left. -/
theorem attemptFrom_again (hagain : c.triesAgain (service attempt) = true)
    (hleft : attempt < c.maxRetries) (phrase : Text) (count : Nat) :
    c.attemptFrom service phrase (count + 1) attempt =
      let next := c.attemptFrom service phrase count (attempt + 1)
      ⟨next.result, c.failedSteps service phrase attempt ++ next.steps⟩ := by
  have hnotLast : ¬ c.attempts ≤ attempt + 1 := by
    unfold attempts
    omega
  unfold triesAgain at hagain
  cases hread : c.readReply (service attempt) with
  | ok read =>
      rw [hread] at hagain
      cases hagain
  | error fault =>
      rw [hread] at hagain
      have htransient : fault.isTransient c.channel = true := hagain
      simp [attemptFrom, failedSteps, attemptSteps, attemptEvents, hread, htransient, hnotLast]

/-- The loop ends with any other reply, and where no retry is left. -/
theorem attemptFrom_end
    (hfinal : attempt = c.maxRetries ∨ c.triesAgain (service attempt) = false)
    (phrase : Text) (count : Nat) :
    c.attemptFrom service phrase (count + 1) attempt =
      ⟨(c.readReply (service attempt)).map (·.1), c.attemptSteps service phrase attempt⟩ := by
  unfold triesAgain at hfinal
  cases hread : c.readReply (service attempt) with
  | ok read => simp [attemptFrom, attemptSteps, attemptEvents, hread, Except.map]
  | error fault =>
      rw [hread] at hfinal
      cases htransient : fault.isTransient c.channel with
      | false => simp [attemptFrom, attemptSteps, attemptEvents, hread, htransient, Except.map]
      | true =>
          have hlast : c.attempts ≤ attempt + 1 := by
            have heq : attempt = c.maxRetries := hfinal.resolve_right (by simp [htransient])
            unfold attempts
            omega
          simp [attemptFrom, attemptSteps, attemptEvents, hread, htransient, hlast, Except.map]

/-! ## The whole call -/

/-- The call that ends with attempt `n`. -/
def callTo (c : Client) (service : Nat → Reply) (phrase : Text) (n : Nat) : Call where
  result := (c.readReply (service n)).map (·.1)
  steps := (List.range n).flatMap (c.failedSteps service phrase) ++ c.attemptSteps service phrase n

/-- The loop from any attempt up to the last.  `left` attempts fail before that. -/
theorem attemptFrom_eq {n : Nat} (h : c.EndsAt service n) (phrase : Text) (left : Nat) :
    ∀ attempt count, attempt + left = n → left < count →
      c.attemptFrom service phrase count attempt =
        ⟨(c.readReply (service n)).map (·.1),
          (List.range' attempt left).flatMap (c.failedSteps service phrase) ++
            c.attemptSteps service phrase n⟩ := by
  induction left with
  | zero =>
      intro attempt count hn hcount
      obtain rfl : attempt = n := by omega
      obtain ⟨count, rfl⟩ : ∃ more, count = more + 1 := ⟨count - 1, by omega⟩
      rw [attemptFrom_end h.final]
      rfl
  | succ left ih =>
      intro attempt count hn hcount
      obtain ⟨count, rfl⟩ : ∃ more, count = more + 1 := ⟨count - 1, by omega⟩
      have hwithin := h.within
      have hagain := h.before attempt (by omega)
      have hrest := ih (attempt + 1) count (by omega) (by omega)
      rw [attemptFrom_again hagain (by omega), hrest]
      simp [List.range'_succ]

/-- The client can send: the scheme of its address is known, or its session is open. -/
def CanSend (c : Client) : Prop :=
  match c.channel with
  | .blocking => hasScheme (withoutFragment (plainAddress c.endpoint)) = true
  | .session => c.inSession = true

/-- **A call is known from the attempt it ends with.** -/
theorem interpret_eq_callTo (hsend : c.CanSend) {n : Nat} (h : c.EndsAt service n) (phrase : Text) :
    c.interpret service phrase = c.callTo service phrase n := by
  have hloop : c.interpret service phrase = c.attemptFrom service phrase c.attempts 0 := by
    unfold CanSend at hsend
    unfold interpret
    cases hchannel : c.channel with
    | blocking =>
        rw [hchannel] at hsend
        have hscheme : hasScheme (withoutFragment (plainAddress c.endpoint)) = true := hsend
        simp [hscheme]
    | session =>
        rw [hchannel] at hsend
        have hopen : c.inSession = true := hsend
        simp [hopen]
  have hwithin := h.within
  rw [hloop, attemptFrom_eq h phrase n 0 c.attempts (by omega) (by unfold attempts; omega), callTo,
    List.range_eq_range']

section Projections

variable (c service) (phrase : Text) (n : Nat)

/-- One attempt sends one request. -/
theorem requests_attemptSteps (attempt : Nat) :
    Step.requests (c.attemptSteps service phrase attempt) = [c.request phrase] :=
  congrArg (c.request phrase :: ·) (Step.requests_map_logged _)

/-- No attempt waits by itself. -/
theorem waits_attemptSteps (attempt : Nat) :
    Step.waits (c.attemptSteps service phrase attempt) = [] :=
  Step.waits_map_logged _

/-- The events of an attempt are those among its steps. -/
theorem events_attemptSteps (attempt : Nat) :
    Step.events (c.attemptSteps service phrase attempt) = c.attemptEvents service attempt :=
  Step.events_map_logged _

/-- What is picked from the steps of a call is picked from each attempt in turn. -/
theorem filterMap_callTo {α : Type} {pick : Step → Option α} {failed : Nat → List α} {last : List α}
    (hfailed : ∀ attempt, (c.failedSteps service phrase attempt).filterMap pick = failed attempt)
    (hlast : (c.attemptSteps service phrase n).filterMap pick = last) :
    (c.callTo service phrase n).steps.filterMap pick = (List.range n).flatMap failed ++ last := by
  rw [callTo, List.filterMap_append, hlast, List.filterMap_flatMap]
  exact congrArg (· ++ last) (List.flatMap_congr fun attempt _ => hfailed attempt)

/-- One request is sent in each attempt. -/
theorem requests_callTo :
    (c.callTo service phrase n).requests = List.replicate (n + 1) (c.request phrase) := by
  have hfailed : ∀ attempt, Step.requests (c.failedSteps service phrase attempt) =
      [c.request phrase] := by
    intro attempt
    rw [failedSteps, Step.requests_append, requests_attemptSteps]
    rfl
  calc (c.callTo service phrase n).requests
      = (List.range n).flatMap (fun _ => [c.request phrase]) ++ [c.request phrase] :=
        filterMap_callTo c service phrase n hfailed (requests_attemptSteps c service phrase n)
    _ = List.replicate (n + 1) (c.request phrase) := by
        rw [← List.map_eq_flatMap, List.map_const', List.length_range, List.replicate_succ']

/-- The client waits between two attempts, twice as long each time. -/
theorem waits_callTo : (c.callTo service phrase n).waits = (List.range n).map (2 ^ ·) := by
  have hfailed : ∀ attempt, Step.waits (c.failedSteps service phrase attempt) = [2 ^ attempt] := by
    intro attempt
    rw [failedSteps, Step.waits_append, waits_attemptSteps]
    rfl
  calc (c.callTo service phrase n).waits
      = (List.range n).flatMap (fun attempt => [2 ^ attempt]) ++ [] :=
        filterMap_callTo c service phrase n hfailed (waits_attemptSteps c service phrase n)
    _ = (List.range n).map (2 ^ ·) := by rw [List.append_nil, List.map_eq_flatMap]

/-- The events of the attempts follow each other. -/
theorem events_callTo :
    (c.callTo service phrase n).events =
      (List.range (n + 1)).flatMap (c.attemptEvents service) := by
  have hfailed : ∀ attempt, Step.events (c.failedSteps service phrase attempt) =
      c.attemptEvents service attempt := by
    intro attempt
    rw [failedSteps, Step.events_append, events_attemptSteps]
    exact List.append_nil _
  calc (c.callTo service phrase n).events
      = (List.range n).flatMap (c.attemptEvents service) ++ c.attemptEvents service n :=
        filterMap_callTo c service phrase n hfailed (events_attemptSteps c service phrase n)
    _ = (List.range (n + 1)).flatMap (c.attemptEvents service) := by
        rw [List.range_succ, List.flatMap_append, List.flatMap_singleton]

end Projections

/-! ## Replies -/

section Replies

variable {status : Int} {reason : Text} {contentType : Option Text} {bytes : List UInt8}

/-- A body is read unless the session client refuses its status. -/
theorem readReply_content (hstatus : c.channel = .session → status < 400) :
    c.readReply (.content status reason contentType bytes) =
      readBody (c.decodeBody contentType bytes) := by
  rw [readReply, if_neg]
  intro hrefused
  obtain ⟨hsession, hlarge⟩ := Bool.and_eq_true_iff.mp hrefused
  have hsmall := hstatus (of_decide_eq_true hsession)
  have hlarge := of_decide_eq_true hlarge
  omega

/-- The blocking client decodes a body by its content type. -/
theorem readReply_blocking (hchannel : c.channel = .blocking) :
    c.readReply (.content status reason contentType bytes) =
      readBody (ContentType.decode c.others contentType bytes) := by
  rw [readReply_content (by simp [hchannel]), decodeBody, hchannel]

/-- The session client has a body as text in UTF-8. -/
theorem readReply_session (hsession : c.channel = .session) (hstatus : status < 400) :
    c.readReply (.content status reason contentType bytes) =
      readBody (Charset.decodeUtf8 bytes) := by
  rw [readReply_content fun _ => hstatus, decodeBody, hsession]

/-- The session client judges the status of a reply. -/
theorem readReply_refused (hsession : c.channel = .session) (hstatus : 400 ≤ status) :
    c.readReply (.content status reason contentType bytes) =
      .error (.transport (.refused status reason c.endpoint)) := by
  rw [readReply, if_pos]
  simp [hsession, hstatus]

/-- A body that is read is not asked for again. -/
theorem triesAgain_content (hstatus : c.channel = .session → status < 400) :
    c.triesAgain (.content status reason contentType bytes) = false := by
  rw [triesAgain, readReply_content hstatus]
  cases hread : readBody (c.decodeBody contentType bytes) with
  | ok read => rfl
  | error fault =>
      rcases fault_of_readBody hread with ⟨charset, rfl⟩ | ⟨error, rfl⟩
      · rfl
      · rfl

/-- No reply leaves a client without an attempt. -/
theorem readReply_map_ne_raised (c : Client) (reply : Reply) (message : Text) :
    (c.readReply reply).map (·.1) ≠ .error (.raised message) := by
  have hbody : ∀ body, (readBody body).map (·.1) ≠ .error (.raised message) := by
    intro body h
    cases hread : readBody body with
    | ok read =>
        rw [hread] at h
        cases h
    | error fault =>
        rw [hread] at h
        rcases fault_of_readBody hread with ⟨charset, rfl⟩ | ⟨error, rfl⟩
        · cases h
        · cases h
  cases reply with
  | fault fault => nofun
  | content status reason contentType bytes =>
      by_cases hstatus : c.channel = .session → status < 400
      · rw [readReply_content hstatus]
        exact hbody _
      · obtain ⟨hsession, hlarge⟩ := Classical.not_imp.mp hstatus
        rw [readReply_refused hsession (Int.not_lt.mp hlarge)]
        nofun

end Replies

end Client

end Interpretation

end Tapeline
