import Tapeline.Proofs.Json.Printing
import Tapeline.Proofs.Log.Loggable

/-!
# One record, one line

A record without an exception whose fields are values that last is written on one line without
controls, and the line reads back as the four standard members with the fields set on top of them
(`line_reads`).  Such a record has no line only if its message cannot be formatted or its time has
no timestamp.
-/

namespace Tapeline

namespace Log

namespace Record

variable {r : Record}

/-- The members that every record is written with. -/
def standard (r : Record) (time text : Text) : List (Text × Json) :=
  [("timestamp".toList, .text time), ("level".toList, .text (levelName r.level)),
   ("logger".toList, .text r.source), ("event".toList, .text text)]

/-- Fields that are written change no attribute. -/
theorem applyField_of_isWritten (r : Record) {field : Text × Json}
    (h : isWritten field = true) : r.applyField field = r := by
  obtain ⟨name, value⟩ := field
  have hother : ∀ other ∈ recordAttributes, name ≠ other := by
    intro other hmem heq
    rw [isWritten, heq, List.contains_iff_mem.mpr hmem] at h
    cases h
  unfold applyField
  dsimp only
  rw [if_neg (hother _ (by decide)), if_neg (hother _ (by decide)),
    if_neg (hother _ (by decide))]

/-- Fields that are all written change no attribute, one after the other. -/
theorem foldl_applyField {fields : List (Text × Json)} (h : Loggable fields) :
    ∀ r : Record, fields.foldl applyField r = r := by
  induction fields with
  | nil =>
      intro r
      rfl
  | cons field fields ih =>
      intro r
      obtain ⟨hfield, htail⟩ := List.forall_mem_cons.mp h
      rw [List.foldl_cons, r.applyField_of_isWritten hfield, ih htail]

/-- Without a field for it the level is the record's own. -/
theorem levelText_of_loggable (h : Loggable r.fields) : r.levelText = levelName r.level := by
  have habsent : "levelname".toList ∉ r.fields.map (·.1) := by
    intro hmem
    obtain ⟨field, hfield, hname⟩ := List.mem_map.mp hmem
    have hwritten := h field hfield
    rw [isWritten, hname] at hwritten
    revert hwritten
    decide
  rw [levelText, Json.member?_eq_none habsent]

/-- The members of a record without an exception: its message is formatted, its time gets a
timestamp, and its fields are set. -/
theorem members_eq (h : Loggable r.fields) (hexception : r.exception = none) :
    r.members = do
      let text ← (message r.template r.args).mapError .template
      let time ← (timestamp r.created).mapError .clock
      return Json.putAll (r.standard time text) r.fields := by
  have hfilter : r.fields.filter isWritten = r.fields := List.filter_eq_self.mpr h
  rw [members, foldl_applyField h, hfilter, levelText_of_loggable h, hexception]
  rfl

/-- The members of a record last. -/
theorem lasting_members (hlasting : Json.Lasting (.object r.fields)) (time text : Text) :
    Json.Lasting (.object (Json.putAll (r.standard time text) r.fields)) := by
  cases hlasting with
  | object _ hvalues =>
      apply Json.Lasting.object
      · apply Json.nodup_putAll
        have hnames : (r.standard time text).map (·.1) =
            ["timestamp", "level", "logger", "event"].map String.toList := rfl
        rw [hnames]
        decide
      · intro m hm
        cases Json.mem_putAll hm with
        | inl hstandard =>
            simp only [standard, List.mem_cons, List.not_mem_nil, or_false] at hstandard
            obtain rfl | rfl | rfl | rfl := hstandard <;> exact .text _
        | inr hfield => exact hvalues m hfield

/-- The standard members nest no deeper than any fields. -/
theorem nesting_putAll_standard (r : Record) (time text : Text) :
    (Json.object (Json.putAll (r.standard time text) r.fields)).nesting ≤
      (Json.object r.fields).nesting := by
  rw [Json.nesting, Json.nesting]
  apply Nat.succ_le_succ
  apply Json.nestingOfMembers_le
  intro m hm
  cases Json.mem_putAll hm with
  | inl hstandard =>
      simp only [standard, List.mem_cons, List.not_mem_nil, or_false] at hstandard
      obtain rfl | rfl | rfl | rfl := hstandard <;> exact Nat.zero_le _
  | inr hfield => exact Json.nesting_le_members hfield

/-- **One record, one line.**  The line of a record holds no control and reads back as members
without repetition: what a field is set to, and else the timestamp, the level, the logger and the
message.  The reader takes it if the fields nest no deeper than its limit, and any limit would do
that the members do not exceed.  There is no line only without a message or without a timestamp. -/
theorem line_reads (hloggable : Loggable r.fields) (hlasting : Json.Lasting (.object r.fields))
    (hexception : r.exception = none) :
    (∀ text time, message r.template r.args = .ok text → timestamp r.created = .ok time →
      ∃ line members, r.line = .ok line ∧ Json.NoControl line ∧
        (∀ depth, (Json.object members).nesting ≤ depth →
          Json.readWithin depth line = .ok (.object members)) ∧
        ((Json.object r.fields).nesting ≤ Json.depthLimit →
          Json.read line = .ok (.object members)) ∧
        (members.map (·.1)).Nodup ∧
        ∀ name, Json.member? name members =
          (Json.member? name r.fields).or (Json.member? name (r.standard time text))) ∧
    ∀ error, r.line = .error error →
      (∃ e, message r.template r.args = .error e ∧ error = .template e) ∨
        ∃ e, timestamp r.created = .error e ∧ error = .clock e := by
  have hmembers := members_eq hloggable hexception
  constructor
  · intro text time htext htime
    have hlast := lasting_members hlasting time text
    have hline : r.line =
        .ok (Json.print .line (.object (Json.putAll (r.standard time text) r.fields))) := by
      rw [line, hmembers, htext, htime]
      rfl
    refine ⟨_, Json.putAll (r.standard time text) r.fields, hline, Json.noControl_line hlast 0, ?_,
      ?_, ?_, ?_⟩
    · intro depth hdepth
      exact Json.readWithin_line hlast hdepth
    · intro hdepth
      rw [Json.read_eq_readWithin]
      exact Json.readWithin_line hlast (Nat.le_trans (nesting_putAll_standard r time text) hdepth)
    · cases hlast with
      | object hnames _ => exact hnames
    · intro name
      cases hlasting with
      | object hnames _ => exact Json.member?_putAll name hnames
  · intro error herror
    rw [line, map_eq_error_iff, hmembers] at herror
    cases htext : message r.template r.args with
    | error e =>
        rw [htext] at herror
        cases herror
        exact Or.inl ⟨e, rfl, rfl⟩
    | ok text =>
        cases htime : timestamp r.created with
        | error e =>
            rw [htext, htime] at herror
            cases herror
            exact Or.inr ⟨e, rfl, rfl⟩
        | ok time =>
            rw [htext, htime] at herror
            cases herror

/-- Fields that set the level anew, with a mark and a control in a text. -/
def markedFields : List (Text × Json) :=
  [("level".toList, .list [.null, .integer (-7)]),
   ("expression".toList, .text "5' 3\x22\x01".toList)]

theorem lasting_markedFields : Json.Lasting (.object markedFields) := by
  have hinteger : Json.Lasting (.integer (-7)) := .integer (by decide)
  have hlevel : Json.Lasting (.list [.null, .integer (-7)]) := by
    apply Json.Lasting.list
    intro item hitem
    simp only [List.mem_cons, List.not_mem_nil, or_false] at hitem
    cases hitem with
    | inl heq =>
        rw [heq]
        exact .null
    | inr heq =>
        rw [heq]
        exact hinteger
  have hnames : (markedFields.map (·.1)).Nodup := by decide
  apply Json.Lasting.object hnames
  intro m hm
  simp only [markedFields, List.mem_cons, List.not_mem_nil, or_false] at hm
  cases hm with
  | inl heq =>
      rw [heq]
      exact hlevel
  | inr heq =>
      rw [heq]
      exact .text _

/-- A record with these fields.  Its message has a mark, a line break and a letter outside ASCII. -/
def marked : Record where
  source := "onsitecalc.service".toList
  level := 30
  template := "a \x22b\x22 \\ %s\n".toList
  args := [.text "é".toList]
  created := .zero
  fields := markedFields
  exception := none

/-- The level is set anew by a field, and the message keeps its mark and its line break. -/
theorem line_reads_marked :
    Loggable marked.fields ∧ Json.Lasting (.object marked.fields) ∧ marked.exception = none ∧
      ∃ line members, marked.line = .ok line ∧ Json.NoControl line ∧
        Json.read line = .ok (.object members) ∧
        Json.member? "level".toList members = some (.list [.null, .integer (-7)]) ∧
        Json.member? "event".toList members = some (.text "a \x22b\x22 \\ é\n".toList) := by
  have hloggable : Loggable marked.fields := by
    intro field hfield
    revert field
    decide
  have htext : message marked.template marked.args = .ok "a \x22b\x22 \\ é\n".toList := by
    decide +kernel
  have htime : timestamp marked.created = .ok "1970-01-01T00:00:00.000Z".toList := by
    decide +kernel
  obtain ⟨line, members, hline, hcontrol, -, hread, -, hmember⟩ :=
    (line_reads hloggable lasting_markedFields rfl).1 _ _ htext htime
  have hshallow : (Json.object marked.fields).nesting ≤ Json.depthLimit := by decide
  refine ⟨hloggable, lasting_markedFields, rfl, line, members, hline, hcontrol, hread hshallow,
    ?_, ?_⟩
  · rw [hmember]
    rfl
  · rw [hmember]
    rfl

end Record

end Log

end Tapeline
