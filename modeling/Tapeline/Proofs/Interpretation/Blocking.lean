import Tapeline.Proofs.Interpretation.Retries

/-!
# The blocking client

What the blocking client does for a phrase is told by the replies: it tries again after an outage,
that is, if the service was not reached, rejected the request or took too long, and after nothing
else.  The main statement, `interpret_blocking`, gives the requests, the waits, the events, their
order and the result of a call for any number of retries and any replies.
-/

namespace Tapeline

namespace Interpretation

namespace Client

variable {c : Client} {service : Nat → Reply}

/-- What was wrong with a reply after which the blocking client tries again: the service was not
reached, rejected the request or took too long. -/
def outage? : Reply → Option TransportFault
  | .fault (.unreachable reason) => some (.unreachable reason)
  | .fault (.rejected status reason) => some (.rejected status reason)
  | .fault (.timedOut message) => some (.timedOut message)
  | _ => none

/-- The warning of an attempt that met an outage. -/
def outageWarnings (config : Config) (service : Nat → Reply) (attempt : Nat) : List Log.Event :=
  (outage? (service attempt)).toList.map fun fault =>
    event .warning "interpreter_call_failed"
      [("attempt", .integer (attempt + 1)), ("max_attempts", .integer (config.maxRetries + 1)),
       ("error", .text fault.message)]

/-- What there is to tell of a reply is that its payload does not fit. -/
theorem name_of_mem_ofReply (reply : Json) :
    ∀ event ∈ (Payload.ofReply reply).2, event.name = "interpretation_payload_invalid".toList := by
  unfold Payload.ofReply
  split
  · split
    · exact fun event hevent => absurd hevent List.not_mem_nil
    · split
      · exact fun event hevent => absurd hevent List.not_mem_nil
      · intro event hevent
        rw [List.mem_singleton.mp hevent]
        rfl
  · exact fun event hevent => absurd hevent List.not_mem_nil

section Blocking

variable {config : Config} (hchannel : c.channel = .blocking)

include hchannel

/-- The blocking client tries again after an outage and after nothing else. -/
theorem triesAgain_blocking (reply : Reply) : c.triesAgain reply = (outage? reply).isSome := by
  cases reply with
  | fault fault =>
      change fault.isTransient c.channel = _
      rw [hchannel]
      cases fault <;> rfl
  | content status reason contentType bytes =>
      rw [triesAgain_content (by simp [hchannel])]
      rfl

/-- The blocking client logs one warning for an outage, and what there is to tell of a body. -/
theorem attemptEvents_blocking (hretries : c.maxRetries = config.maxRetries)
    (service : Nat → Reply) (attempt : Nat) :
    ∃ told, c.attemptEvents service attempt = outageWarnings config service attempt ++ told ∧
      (∀ event ∈ told, event.name = "interpretation_payload_invalid".toList) ∧
      ((outage? (service attempt)).isSome = true → told = []) := by
  unfold attemptEvents outageWarnings
  cases hreply : service attempt with
  | fault fault =>
      refine ⟨[], ?_, fun event hevent => absurd hevent List.not_mem_nil, fun _ => rfl⟩
      simp only [readReply, CallFault.isTransient, hchannel, failureEvent, failureName, attempts,
        hretries]
      cases fault <;> rfl
  | content status reason contentType bytes =>
      rw [readReply_blocking hchannel]
      cases hbody : readBody (ContentType.decode c.others contentType bytes) with
      | ok read =>
          obtain ⟨_, members, _, _, rfl⟩ := exists_of_readBody hbody
          refine ⟨(Payload.ofReply (.object members)).2, rfl, name_of_mem_ofReply _, ?_⟩
          intro houtage
          cases houtage
      | error fault =>
          refine ⟨[], ?_, fun event hevent => absurd hevent List.not_mem_nil, fun _ => rfl⟩
          rcases fault_of_readBody hbody with ⟨charset, rfl⟩ | ⟨error, rfl⟩
          · rfl
          · rfl

/-- An attempt that another one follows logs its warning and nothing else. -/
theorem attemptEvents_failed (hretries : c.maxRetries = config.maxRetries) {n : Nat}
    (hends : c.EndsAt service n) :
    ∀ k ∈ List.range n, c.attemptEvents service k = outageWarnings config service k := by
  intro k hk
  have hagain := hends.before k (List.mem_range.mp hk)
  rw [triesAgain_blocking hchannel] at hagain
  obtain ⟨told, htold, _, hnil⟩ := attemptEvents_blocking hchannel hretries service k
  rw [htold, hnil hagain, List.append_nil]

/-- The blocking client gives the payload of a body, or a fault as it came. -/
theorem result_blocking (reply : Reply) :
    (c.readReply reply).map (·.1) =
      match reply with
      | .fault fault => .error (.transport fault)
      | .content _ _ contentType bytes =>
        (readBody (ContentType.decode c.others contentType bytes)).map (·.1) := by
  cases reply with
  | fault fault => rfl
  | content status reason contentType bytes => rw [readReply_blocking hchannel]

end Blocking

/-- **The retries of the blocking client.**  A call ends with attempt `n`, counted from zero: the
first whose reply is no outage, or the last that the configuration allows.  Each attempt sends the
same request and logs a warning if it meets an outage; before the next one the client waits, twice
as long each time.  Nothing is waited for at the end.  The last reply gives the result: the payload
of its body, or its fault as it came.  No call is left without an attempt. -/
theorem interpret_blocking {config : Config} {c : Client} {inSession : Bool}
    {others : Charset.Decoder}
    (hclient : ofConfig? .blocking inSession config others = some c)
    (haddress : hasScheme (withoutFragment (plainAddress c.endpoint)) = true)
    (service : Nat → Reply) (phrase : Text) :
    ∃ n ≤ config.maxRetries, ∃ told : List Log.Event,
      (∀ k < n, (outage? (service k)).isSome = true) ∧
      (n = config.maxRetries ∨ outage? (service n) = none) ∧
      (c.interpret service phrase).requests = List.replicate (n + 1) (c.request phrase) ∧
      (c.interpret service phrase).waits = (List.range n).map (2 ^ ·) ∧
      (c.interpret service phrase).events =
        (List.range (n + 1)).flatMap (outageWarnings config service) ++ told ∧
      (∀ event ∈ told, event.name = "interpretation_payload_invalid".toList) ∧
      (c.interpret service phrase).steps =
        (List.range n).flatMap (fun k =>
          .sent (c.request phrase) :: (outageWarnings config service k).map .logged ++
            [.waited (2 ^ k)]) ++
        .sent (c.request phrase) :: (outageWarnings config service n ++ told).map .logged ∧
      (c.interpret service phrase).result =
        (match service n with
        | .fault fault => .error (.transport fault)
        | .content _ _ contentType bytes =>
          (readBody (ContentType.decode others contentType bytes)).map (·.1)) ∧
      ∀ message, (c.interpret service phrase).result ≠ .error (.raised message) := by
  obtain ⟨endpoint, _, _, hvalues⟩ := ofConfig?_some hclient
  have hchannel : c.channel = .blocking := by rw [hvalues]
  have hretries : c.maxRetries = config.maxRetries := by rw [hvalues]
  have hothers : c.others = others := by rw [hvalues]
  have hsend : c.CanSend := by
    unfold CanSend
    rw [hchannel]
    exact haddress
  obtain ⟨n, hends⟩ := exists_endsAt c service
  obtain ⟨told, hlast, hnames, _⟩ := attemptEvents_blocking hchannel hretries service n
  have hfailed := attemptEvents_failed hchannel hretries hends
  rw [interpret_eq_callTo hsend hends]
  refine ⟨n, hretries ▸ hends.within, told, ?_, ?_, requests_callTo c service phrase n,
    waits_callTo c service phrase n, ?_, hnames, ?_, hothers ▸ result_blocking hchannel (service n),
    readReply_map_ne_raised c (service n)⟩
  · intro k hk
    rw [← triesAgain_blocking hchannel]
    exact hends.before k hk
  · have hfinal := hends.final
    rwa [triesAgain_blocking hchannel, Option.isSome_eq_false_iff, Option.isNone_iff_eq_none,
      hretries] at hfinal
  · rw [events_callTo, List.range_succ, List.flatMap_append, List.flatMap_append,
      List.flatMap_singleton, List.flatMap_singleton, hlast, List.flatMap_congr hfailed,
      List.append_assoc]
  · rw [callTo, attemptSteps, hlast]
    refine congrArg (· ++ _) (List.flatMap_congr fun k hk => ?_)
    rw [failedSteps, attemptSteps, hfailed k hk]

/-- A service that is not reached at first and then answers with a body. -/
def lateService (contentType : Option Text) (bytes : List UInt8) : Nat → Reply
  | 0 => .fault (.unreachable "refused".toList)
  | _ => .content 200 "OK".toList contentType bytes

/-- The characters of KOI8-R from the byte 128 on. -/
def upperKoi8r : Text :=
  ['─', '│', '┌', '┐', '└', '┘', '├', '┤', '┬', '┴', '┼', '▀', '▄', '█', '▌', '▐', '░', '▒', '▓',
   '⌠', '■', '∙', '√', '≈', '≤', '≥', '\u00a0', '⌡', '°', '²', '·', '÷', '═', '║', '╒', 'ё', '╓',
   '╔', '╕', '╖', '╗', '╘', '╙', '╚', '╛', '╜', '╝', '╞', '╟', '╠', '╡', 'Ё', '╢', '╣', '╤', '╥',
   '╦', '╧', '╨', '╩', '╪', '╫', '╬', '©', 'ю', 'а', 'б', 'ц', 'д', 'е', 'ф', 'г', 'х', 'и', 'й',
   'к', 'л', 'м', 'н', 'о', 'п', 'я', 'р', 'с', 'т', 'у', 'ж', 'в', 'ь', 'ы', 'з', 'ш', 'э', 'щ',
   'ч', 'ъ', 'Ю', 'А', 'Б', 'Ц', 'Д', 'Е', 'Ф', 'Г', 'Х', 'И', 'Й', 'К', 'Л', 'М', 'Н', 'О', 'П',
   'Я', 'Р', 'С', 'Т', 'У', 'Ж', 'В', 'Ь', 'Ы', 'З', 'Ш', 'Э', 'Щ', 'Ч', 'Ъ']

/-- A system whose only further character set is KOI8-R. -/
def withKoi8r : Charset.Decoder := fun name bytes =>
  if ["koi8_r".toList, "cskoi8r".toList].contains (Charset.plainName false name) then
    Charset.decodeSingle "charmap" "character maps to <undefined>"
      (fun byte => if byte < 0x80 then some (Char.ofNat byte) else upperKoi8r[byte - 0x80]?) bytes
  else Charset.noOthers name bytes

/-- A payload with a division glyph, which is the byte 159 in KOI8-R. -/
def dividingBody : List UInt8 :=
  Utf8.encode "\x7b\x22expression\x22: \x226 ".toList ++ 0x9F :: Utf8.encode " 2\x22\x7d".toList

/-- One retry is enough for a service that answers the second time, and its answer is read in the
character set that it names, here one of the system's own. -/
theorem interpret_lateService :
    ∃ c, ofConfig? .blocking false ⟨some "http://svc".toList, none, Config.defaultTimeout, 1⟩
        withKoi8r = some c ∧
      hasScheme (withoutFragment (plainAddress c.endpoint)) = true ∧
      ∃ service,
        service = lateService (some "application/json; charset=KOI8-R".toList) dividingBody ∧
        (c.interpret service "six by two".toList).requests =
          List.replicate 2 (c.request "six by two".toList) ∧
        (c.interpret service "six by two".toList).waits = [1] ∧
        (c.interpret service "six by two".toList).result =
          .ok { expression := some "6 ÷ 2".toList } := by
  let c : Client :=
    ⟨.blocking, "http://svc".toList, none, Config.defaultTimeout, 1, false, withKoi8r⟩
  have hclient : ofConfig? .blocking false
      ⟨some "http://svc".toList, none, Config.defaultTimeout, 1⟩ withKoi8r = some c := by
    simp [ofConfig?, c]
  have haddress : hasScheme (withoutFragment (plainAddress c.endpoint)) = true := by decide +kernel
  let service := lateService (some "application/json; charset=KOI8-R".toList) dividingBody
  obtain ⟨n, hn, _, _, hfinal, hrequests, hwaits, _, _, _, hresult, _⟩ :=
    interpret_blocking hclient haddress service "six by two".toList
  have hsecond : n = 1 := by
    have hpositive : n ≠ 0 := by
      rintro rfl
      rcases hfinal with hlast | hstop
      · cases hlast
      · cases hstop
    have hle : n ≤ 1 := hn
    omega
  subst hsecond
  refine ⟨c, hclient, haddress, service, rfl, hrequests, hwaits, hresult.trans ?_⟩
  decide +kernel

end Client

end Interpretation

end Tapeline
