import Tapeline.Interpretation.Payload
import Tapeline.Proofs.Binary64.ZeroSign

/-!
# Accepted replies

A reply is taken as it is if its error entry denies an error and each of its other entries is
absent, null or of its type (`Carries`).  The error entry is looked at twice: a truthy one ends the
reading, and of the others only `false` and zero are of the type of the field (`DeniesError`).  One
that is null or empty is not, and the reply is refused with a warning as any reply that does not fit
(`ofReply_accepts`).
-/

namespace Tapeline

/-! ## Checked fields -/

namespace Json

section Checked

variable {α β : Type}

/-- A record of checks is complete just if each check is. -/
theorem Checked.apply_eq_ok_iff {f : Checked (α → β)} {a : Checked α} {b : β} :
    f.apply a = Checked.ok b ↔ ∃ g x, f = Checked.ok g ∧ a = Checked.ok x ∧ g x = b := by
  constructor
  · intro h
    cases f with
    | error faults => cases a <;> cases h
    | ok g =>
        cases a with
        | error faults => cases h
        | ok x => exact ⟨g, x, rfl, rfl, Except.ok.inj h⟩
  · rintro ⟨g, x, rfl, rfl, rfl⟩
    rfl

variable {members : List (Text × Json)} {name : String}

/-- An absent field has its default. -/
theorem checkField_absent {default : α} {read : Json → Except FieldFault α}
    (h : member? name.toList members = none) :
    checkField members name (some default) read = Checked.ok default := by
  rw [checkField, h]

/-- A field that is there is what its reader makes of it. -/
theorem checkField_given {default? : Option α} {read : Json → Except FieldFault α} {value : Json}
    (h : member? name.toList members = some value) {x : α} :
    checkField members name default? read = Checked.ok x ↔ read value = .ok x := by
  simp only [checkField, h]
  cases read value with
  | error fault =>
      constructor
      · intro hok
        cases hok
      · intro hok
        cases hok
  | ok y =>
      constructor
      · exact fun hok => congrArg Except.ok (Except.ok.inj hok)
      · exact fun hok => congrArg Except.ok (Except.ok.inj hok)

/-- An entry that is absent, null, or a value as it is written. -/
inductive Entry (write : α → Json) : Option Json → Option α → Prop
  | absent : Entry write none none
  | null : Entry write (some .null) none
  | value (a : α) : Entry write (some (write a)) (some a)

variable {write : α → Json} {read : Json → Except FieldFault α}

/-- A field that may be null is an entry of its type. -/
theorem readOptional_eq_ok_iff (hread : ∀ value a, read value = .ok a ↔ value = write a)
    (hnull : ∀ a, write a ≠ .null) {value : Json} {x : Option α} :
    readOptional read value = .ok x ↔ Entry write (some value) x := by
  by_cases hvalue : value = .null
  · subst hvalue
    constructor
    · intro h
      exact Except.ok.inj h ▸ .null
    · intro h
      generalize hentry : some Json.null = entry at h
      cases h with
      | absent => cases hentry
      | null => rfl
      | value a => exact absurd (Option.some.inj hentry).symm (hnull a)
  · have hmap : readOptional read value = (read value).map some := by
      cases value with
      | null => exact absurd rfl hvalue
      | _ => rfl
    rw [hmap]
    constructor
    · intro h
      cases ha : read value with
      | error fault =>
          rw [ha] at h
          cases h
      | ok a =>
          rw [ha] at h
          obtain rfl := Except.ok.inj h
          exact (hread value a).mp ha ▸ .value a
    · intro h
      generalize hentry : some value = entry at h
      cases h with
      | absent => cases hentry
      | null => exact absurd (Option.some.inj hentry) hvalue
      | value a =>
          rw [(hread value a).mpr (Option.some.inj hentry)]
          rfl

/-- An optional field takes the entries that are absent, null or of its type. -/
theorem checkField_optional (hread : ∀ value a, read value = .ok a ↔ value = write a)
    (hnull : ∀ a, write a ≠ .null) {x : Option α} :
    checkField members name (some none) (readOptional read) = Checked.ok x ↔
      Entry write (member? name.toList members) x := by
  cases hmember : member? name.toList members with
  | some value => rw [checkField_given hmember, readOptional_eq_ok_iff hread hnull]
  | none =>
      rw [checkField_absent hmember]
      constructor
      · intro h
        exact Except.ok.inj h ▸ .absent
      · rintro ⟨⟩
        rfl

end Checked

/-- Only a text is read as a text. -/
theorem readText_eq_ok_iff (value : Json) (t : Text) :
    readText value = .ok t ↔ value = text t := by
  cases value <;> simp [readText]

/-- A zero is false. -/
theorem readTruth_zero {x : Binary64} (h : x.isZero = true) :
    readTruth (.number x) = .ok false := by
  obtain ⟨s, hx⟩ := Binary64.eq_zeroOf_of_isZero h
  rw [Binary64.zeroOf_eq] at hx
  have htruncate : x.truncate = .ok 0 := by
    rw [hx, Binary64.truncate, Nat.zero_div, Binary64.signedUnits_zero]
  have hinteger : x.isInteger = true := by
    rw [hx, Binary64.isInteger, Nat.zero_mod]
    rfl
  have hnumber : integerOfNumber x = .ok 0 := by
    rw [integerOfNumber, htruncate]
    simp [hinteger]
  rw [readTruth, hnumber]
  rfl

end Json

namespace Interpretation

namespace Payload

/-! ## The error entry -/

/-- The error entry is absent, `false` or zero. -/
inductive DeniesError : Option Json → Prop
  | absent : DeniesError none
  | boolean : DeniesError (some (.boolean false))
  | integer : DeniesError (some (.integer 0))
  | number {x : Binary64} (zero : x.isZero = true) : DeniesError (some (.number x))

/-- The error entry is null or empty. -/
inductive HollowError : Option Json → Prop
  | null : HollowError (some .null)
  | text : HollowError (some (.text []))
  | list : HollowError (some (.list []))
  | object : HollowError (some (.object []))

/-- Does the error entry end the reading? -/
def reportsError (entry : Option Json) : Bool :=
  (entry.map isTruthy).getD false

/-- What is not truthy is no error, or is hollow. -/
theorem reportsError_eq_false_iff {entry : Option Json} :
    reportsError entry = false ↔ DeniesError entry ∨ HollowError entry := by
  constructor
  · intro h
    cases entry with
    | none => exact Or.inl .absent
    | some value =>
        replace h : isTruthy value = false := h
        cases value with
        | null => exact Or.inr .null
        | boolean b =>
            obtain rfl : b = false := h
            exact Or.inl .boolean
        | integer n =>
            obtain rfl : n = 0 := by simpa [isTruthy] using h
            exact Or.inl .integer
        | number x => exact Or.inl (.number (by simpa [isTruthy] using h))
        | text t =>
            obtain rfl : t = [] := by simpa [isTruthy] using h
            exact Or.inr .text
        | list items =>
            obtain rfl : items = [] := by simpa [isTruthy] using h
            exact Or.inr .list
        | object entries =>
            obtain rfl : entries = [] := by simpa [isTruthy] using h
            exact Or.inr .object
  · rintro ((_ | _ | _ | hzero) | (_ | _ | _ | _))
    case inl.number => simp [reportsError, isTruthy, hzero]
    all_goals rfl

variable {members : List (Text × Json)} {payload : Payload}

/-- The check of the error entry. -/
def checkError (members : List (Text × Json)) : Json.Checked Bool :=
  Json.checkField members "error" (some false) Json.readTruth

/-- A reply that denies an error has none. -/
theorem DeniesError.checkError (h : DeniesError (Json.member? "error".toList members)) :
    checkError members = Json.Checked.ok false := by
  generalize hentry : Json.member? "error".toList members = entry at h
  cases h with
  | absent => exact Json.checkField_absent hentry
  | boolean => exact (Json.checkField_given hentry).mpr rfl
  | integer => exact (Json.checkField_given hentry).mpr rfl
  | number hzero => exact (Json.checkField_given hentry).mpr (Json.readTruth_zero hzero)

/-- A hollow entry is no truth value. -/
theorem HollowError.checkError (h : HollowError (Json.member? "error".toList members)) (b : Bool) :
    checkError members ≠ Json.Checked.ok b := by
  generalize hentry : Json.member? "error".toList members = entry at h
  intro hok
  cases h with
  | text =>
      have hread : Json.readTruth (.text []) = .error .notATruthWord := rfl
      have hempty := (Json.checkField_given hentry).mp hok
      rw [hread] at hempty
      cases hempty
  | _ => cases (Json.checkField_given hentry).mp hok

/-! ## Replies -/

/-- A mode as it is written. -/
def writeMode (m : Mode) : Json :=
  .text m.name

/-- The payload has the entries of the members, error apart, and each is absent, null or of its
type. -/
structure HasEntries (members : List (Text × Json)) (payload : Payload) : Prop where
  mode : Json.Entry writeMode (Json.member? "mode".toList members) payload.mode
  expression : Json.Entry .text (Json.member? "expression".toList members) payload.expression
  a : Json.Entry .text (Json.member? "a".toList members) payload.a
  op : Json.Entry .text (Json.member? "op".toList members) payload.op
  b : Json.Entry .text (Json.member? "b".toList members) payload.b

/-- The members deny an error, and the payload has their other entries. -/
structure Carries (members : List (Text × Json)) (payload : Payload) : Prop where
  denies : DeniesError (Json.member? "error".toList members)
  noError : payload.error = false
  entries : HasEntries members payload

/-- Only the name of a mode is read as the mode. -/
theorem readMode_eq_ok_iff (value : Json) (m : Mode) :
    readMode value = .ok m ↔ value = writeMode m := by
  have hnames : Mode.normal.name ≠ Mode.inches.name := by decide
  cases value with
  | text t =>
      rw [readMode, writeMode, Json.text.injEq]
      by_cases hinches : t = Mode.inches.name
      · rw [if_pos hinches, hinches]
        cases m <;> simp [hnames.symm]
      · rw [if_neg hinches]
        by_cases hnormal : t = Mode.normal.name
        · rw [if_pos hnormal, hnormal]
          cases m <;> simp [hnames]
        · rw [if_neg hnormal]
          cases m <;> simp [hinches, hnormal]
  | _ => simp [readMode, writeMode]

/-- A payload is read of its entries, each by itself. -/
theorem check_eq_ok_iff :
    check members = Json.Checked.ok payload ↔
      HasEntries members payload ∧ checkError members = Json.Checked.ok payload.error := by
  have hmode : ∀ x : Option Mode,
      Json.checkField members "mode" (some none) (Json.readOptional readMode) =
          Json.Checked.ok x ↔
        Json.Entry writeMode (Json.member? "mode".toList members) x := fun _ =>
    Json.checkField_optional readMode_eq_ok_iff fun _ => by simp [writeMode]
  have htext : ∀ (name : String) (x : Option Text),
      Json.checkField members name (some none) (Json.readOptional Json.readText) =
          Json.Checked.ok x ↔
        Json.Entry .text (Json.member? name.toList members) x := fun _ _ =>
    Json.checkField_optional Json.readText_eq_ok_iff fun _ => by simp
  simp only [checkError, check, Json.Checked.apply_eq_ok_iff, hmode, htext]
  constructor
  · rintro ⟨_, error, ⟨_, b, ⟨_, op, ⟨_, a, ⟨_, expression, ⟨_, mode, hmk, hm, rfl⟩, he, rfl⟩, ha,
      rfl⟩, hop, rfl⟩, hb, rfl⟩, herror, rfl⟩
    obtain rfl := Except.ok.inj hmk
    exact ⟨⟨hm, he, ha, hop, hb⟩, herror⟩
  · rintro ⟨⟨hm, he, ha, hop, hb⟩, herror⟩
    exact ⟨_, _, ⟨_, _, ⟨_, _, ⟨_, _, ⟨_, _, ⟨_, _, rfl, hm, rfl⟩, he, rfl⟩, ha, rfl⟩, hop, rfl⟩,
      hb, rfl⟩, herror, rfl⟩

/-- **A reply passes both tests just if it carries a payload.** -/
theorem carries_iff :
    Carries members payload ↔ reportsError (Json.member? "error".toList members) = false ∧
      check members = Json.Checked.ok payload := by
  rw [check_eq_ok_iff, reportsError_eq_false_iff]
  constructor
  · rintro ⟨hdenies, hnoError, hentries⟩
    exact ⟨Or.inl hdenies, hentries, hnoError ▸ hdenies.checkError⟩
  · rintro ⟨hdenies | hhollow, hentries, herror⟩
    · exact ⟨hdenies, Except.ok.inj (herror.symm.trans hdenies.checkError), hentries⟩
    · exact absurd herror (hhollow.checkError _)

/-- A reply is checked field by field unless it reports an error. -/
theorem ofReply_object (members : List (Text × Json)) :
    ofReply (.object members) =
      if reportsError (Json.member? "error".toList members) then (failed, [])
      else match check members with
        | .ok payload => (payload, [])
        | .error _ =>
          (failed, [event .warning "interpretation_payload_invalid"
            [("payload", .object members)]]) := rfl

/-- **Which replies are accepted.**  A reply that carries a payload is that payload.  Any other is
the failed one.  A hollow error entry is among the others, and tells of itself with a warning. -/
theorem ofReply_accepts (data : Json) :
    (∀ members payload, data = .object members → Carries members payload →
      ofReply data = (payload, [])) ∧
    ((∀ members payload, data = .object members → ¬ Carries members payload) →
      (ofReply data).1 = failed) ∧
    ∀ members, data = .object members → HollowError (Json.member? "error".toList members) →
      ofReply data =
        (failed, [event .warning "interpretation_payload_invalid" [("payload", data)]]) := by
  refine ⟨?_, fun hnone => ?_, ?_⟩
  · rintro members payload rfl hcarries
    obtain ⟨hfalsy, hcheck⟩ := carries_iff.mp hcarries
    rw [ofReply_object, hfalsy, if_neg Bool.false_ne_true, hcheck]
    rfl
  · cases data with
    | object members =>
        rw [ofReply_object]
        cases hreports : reportsError (Json.member? "error".toList members) with
        | true => rfl
        | false =>
            rw [if_neg Bool.false_ne_true]
            cases hcheck : check members with
            | error errors => rfl
            | ok payload => exact absurd (carries_iff.mpr ⟨hreports, hcheck⟩) (hnone _ _ rfl)
    | _ => rfl
  · rintro members rfl hhollow
    rw [ofReply_object, reportsError_eq_false_iff.mpr (Or.inr hhollow), if_neg Bool.false_ne_true]
    cases hcheck : check members with
    | error errors => rfl
    | ok payload => exact absurd (check_eq_ok_iff.mp hcheck).2 (hhollow.checkError _)

example :
    ofReply (.object [("mode".toList, .text "inches".toList),
      ("a".toList, .text "3 1/4".toList), ("b".toList, .null), ("error".toList, .integer 0)]) =
    (⟨some .inches, none, some "3 1/4".toList, none, none, false⟩, []) := rfl

/-- A reply with an expression and an error entry. -/
def sumReply (entry : Json) : List (Text × Json) :=
  [("error".toList, entry), ("mode".toList, .text "normal".toList),
    ("expression".toList, .text "1 + 1".toList)]

/-- The sum is refused, although the error entry is not truthy and all others are of their types. -/
structure RefusesSum (entry : Json) : Prop where
  falsy : isTruthy entry = false
  entries : HasEntries (sumReply entry)
    ⟨some .normal, some "1 + 1".toList, none, none, none, false⟩
  refused : (ofReply (.object (sumReply entry))).1 = failed

/-- Each hollow error entry has the sum refused. -/
theorem refusesSum_hollow :
    RefusesSum .null ∧ RefusesSum (.text []) ∧ RefusesSum (.list []) ∧ RefusesSum (.object []) := by
  have hentries : ∀ entry, HasEntries (sumReply entry)
      ⟨some .normal, some "1 + 1".toList, none, none, none, false⟩ := fun _ =>
    ⟨.value Mode.normal, .value _, .absent, .absent, .absent⟩
  exact ⟨⟨rfl, hentries _, rfl⟩, ⟨rfl, hentries _, rfl⟩, ⟨rfl, hentries _, rfl⟩,
    ⟨rfl, hentries _, rfl⟩⟩

end Payload

end Interpretation

end Tapeline
