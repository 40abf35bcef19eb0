import Tapeline.Proofs.Json.Scalars

/-!
# The grammar of JSON

`Writes depth v t` says that the text `t` writes the value `v` with arrays and objects nested at
most `depth` deep, and `Stops depth t e` that `t` starts like such a text up to a place where
reading is given up: an integer of too many digits, or a container that is nested too deep.  The
reader takes the texts of values and gives up on those others (`readValue_takes`), so a whole text
reads as the value that it writes (`read_ok_iff`), it fails where it has to be given up
(`read_fails_iff`), and any other text is malformed.
-/

namespace Tapeline

namespace Json

/-! ## Members -/

/-- A name, and the value behind it. -/
def readMember (value : Reader Json) : Reader (Text × Json) := fun t =>
  match readName t with
  | .error e => .error e
  | .ok (name, rest) => (value rest).map fun (v, rest) => ((name, v), rest)

/-- A member and the text that writes it. -/
inductive MemberText (Writes : Json → Text → Prop) : Text × Json → Text → Prop where
  | intro {name u t : Text} {v : Json} (hname : NameText name u) (hv : Writes v t) :
      MemberText Writes (name, v) (u ++ t)

/-- A member whose value is given up on. -/
inductive MemberStops (Stops : Text → ReadError → Prop) : Text → ReadError → Prop where
  | intro {name u t : Text} {e : ReadError} (hname : NameText name u) (he : Stops t e) :
      MemberStops Stops (u ++ t) e

section

variable {value : Reader Json} {Writes : Json → Text → Prop} {Stops : Text → ReadError → Prop}

/-- A member is read by the reader of its value once its name is read. -/
theorem readMember_name {name u t : Text} (hname : NameText name u) (ht : NoSpaceAhead t) :
    readMember value (u ++ t) = (value t).map fun (v, rest) => ((name, v), rest) := by
  rw [readMember, readName_ok_iff.mpr ⟨u, hname, ht, rfl⟩]

/-- **A member** is taken if its value is, and given up on if its value is. -/
theorem readMember_takes (h : Takes value Writes Stops) :
    Takes (readMember value) (MemberText Writes) (MemberStops Stops) where
  taken := by
    intro x t rest hx hrest
    cases hx with
    | intro hname hv =>
        have hahead := ((h.starts_of_writes hv).append rest).noSpaceAhead
        rw [List.append_assoc, readMember_name hname hahead, h.taken hv hrest]
        rfl
  sound := by
    intro t x rest hread
    rw [readMember] at hread
    cases hname : readName t with
    | error e =>
        rw [hname] at hread
        cases hread
    | ok read =>
        obtain ⟨name, behind⟩ := read
        rw [hname] at hread
        obtain ⟨⟨v, rest⟩, hvalue, heq⟩ := map_eq_ok_iff.mp hread
        cases heq
        obtain ⟨u, hu, -, rfl⟩ := readName_ok_iff.mp hname
        obtain ⟨w, hw, rfl⟩ := h.sound hvalue
        exact ⟨u ++ w, .intro hu hw, (List.append_assoc ..).symm⟩
  fails_iff := by
    intro t e
    constructor
    · intro ⟨hread, hne⟩
      rw [readMember] at hread
      cases hname : readName t with
      | error e' =>
          rw [hname] at hread
          cases hread
          exact absurd (readName_error hname) hne
      | ok read =>
          obtain ⟨name, behind⟩ := read
          rw [hname] at hread
          obtain ⟨u, hu, -, rfl⟩ := readName_ok_iff.mp hname
          exact .intro hu (h.fails_iff.mp ⟨map_eq_error_iff.mp hread, hne⟩)
    · intro he
      cases he with
      | intro hname he =>
          obtain ⟨hvalue, hne⟩ := h.fails_iff.mpr he
          rw [readMember_name hname (h.starts_of_stops he).noSpaceAhead, hvalue]
          exact ⟨rfl, hne⟩
  refuses := by
    intro t ht
    cases t with
    | nil => rfl
    | cons c t =>
        have hmark : c ≠ '\x22' := by
          intro hc
          subst hc
          exact absurd (ht _ rfl) (by decide)
        have hname : readName (c :: t) = .error .malformed := by
          rw [readName.eq_2 _ fun rest heq => hmark (List.cons.inj heq).1]
        rw [readMember, hname]

end

/-! ## Arrays and objects -/

/-- The items of an array are a list up to its bracket. -/
theorem readItems_eq (value : Reader Json) :
    ∀ (count : Nat) (t : Text), readItems value count t = readListed ']' value count t := by
  intro count
  induction count with
  | zero =>
      intro t
      rfl
  | succ count ih =>
      intro t
      rw [readItems, readListed]
      cases value t with
      | error e => rfl
      | ok read =>
          obtain ⟨v, rest⟩ := read
          dsimp only [bind, Except.bind]
          cases skipSpace rest with
          | nil => rfl
          | cons c after =>
              dsimp only
              split
              · rename_i heq
                cases heq
                rfl
              · rename_i heq
                cases heq
                rw [if_neg (by decide), if_pos rfl, ih]
                cases readListed ']' value count (skipSpace after) <;> rfl
              · rename_i hclosing hcomma
                rw [if_neg fun hc => hclosing after (by rw [hc]),
                  if_neg fun hc => hcomma after (by rw [hc])]

/-- An array is a container of values. -/
theorem readArray_eq (value : Reader Json) (t : Text) :
    readArray value t =
      (readContainer ']' value t).map fun (items, rest) => (.list items, rest) := by
  rw [readArray, readContainer]
  cases skipSpace t with
  | nil => rfl
  | cons c after =>
      dsimp only
      split
      · rename_i heq
        cases heq
        rfl
      · rename_i hclosing
        rw [if_neg fun hc => hclosing after (by rw [hc]), readItems_eq]

/-- The members are those before with the ones that are read set in turn. -/
theorem readMembers_eq (value : Reader Json) :
    ∀ (count : Nat) (members : List (Text × Json)) (t : Text),
      readMembers value count members t =
        (readListed '\x7d' (readMember value) count t).map fun (updates, rest) =>
          (putAll members updates, rest) := by
  intro count
  induction count with
  | zero =>
      intro members t
      rfl
  | succ count ih =>
      intro members t
      rw [readMembers, readListed, readMember]
      cases readName t with
      | error e => rfl
      | ok read =>
          obtain ⟨name, behind⟩ := read
          dsimp only [bind, Except.bind]
          cases value behind with
          | error e => rfl
          | ok read =>
              obtain ⟨v, rest⟩ := read
              dsimp only [Except.map]
              cases skipSpace rest with
              | nil => rfl
              | cons c after =>
                  dsimp only
                  split
                  · rename_i heq
                    cases heq
                    rfl
                  · rename_i heq
                    cases heq
                    rw [if_neg (by decide), if_pos rfl, ih]
                    cases readListed '\x7d' (readMember value) count (skipSpace after) <;> rfl
                  · rename_i hclosing hcomma
                    rw [if_neg fun hc => hclosing after (by rw [hc]),
                      if_neg fun hc => hcomma after (by rw [hc])]

/-- An object is a container of members, the later of which are put over the earlier. -/
theorem readObject_eq (value : Reader Json) (t : Text) :
    readObject value t =
      (readContainer '\x7d' (readMember value) t).map fun (updates, rest) =>
        (.object (putAll [] updates), rest) := by
  rw [readObject, readContainer]
  cases skipSpace t with
  | nil => rfl
  | cons c after =>
      dsimp only
      split
      · rename_i heq
        cases heq
        rfl
      · rename_i hclosing
        rw [if_neg fun hc => hclosing after (by rw [hc]), readMembers_eq]
        cases readListed '\x7d' (readMember value) (c :: after).length (c :: after) <;> rfl

/-- An array and the text that writes it behind its opening bracket. -/
def ArrayText (Writes : Json → Text → Prop) (v : Json) (t : Text) : Prop :=
  ∃ items, .list items = v ∧ Enclosed ']' Writes items t

/-- An object and the text that writes it behind its opening brace.  Its members are set in turn. -/
def ObjectText (Writes : Json → Text → Prop) (v : Json) (t : Text) : Prop :=
  ∃ updates, .object (putAll [] updates) = v ∧ Enclosed '\x7d' (MemberText Writes) updates t

section

variable {value : Reader Json} {Writes : Json → Text → Prop} {Stops : Text → ReadError → Prop}

/-- The reader of arrays reads what an array is written as, and says where it stops. -/
theorem readArray_decides (h : Takes value Writes Stops) :
    Decides (readArray value) (ArrayText Writes) (EnclosedStops Writes Stops) := by
  rw [funext (readArray_eq value)]
  exact (readContainer_decides h (Or.inl rfl)).map Json.list

/-- The reader of objects reads what an object is written as, and says where it stops. -/
theorem readObject_decides (h : Takes value Writes Stops) :
    Decides (readObject value) (ObjectText Writes)
      (EnclosedStops (MemberText Writes) (MemberStops Stops)) := by
  rw [funext (readObject_eq value)]
  exact (readContainer_decides (readMember_takes h) (Or.inr rfl)).map fun updates =>
    Json.object (putAll [] updates)

end

/-! ## Values -/

/-- A value and the text that writes it, where the texts of arrays and objects are given. -/
inductive ValueText (Arrays Objects : Json → Text → Prop) : Json → Text → Prop where
  | word {w : Text} {v : Json} (h : (w, v) ∈ words) : ValueText Arrays Objects v w
  | number {v : Json} {t : Text} (h : WritesNumber v t) : ValueText Arrays Objects v t
  | string {x t : Text} (h : StringText x t) : ValueText Arrays Objects (.text x) ('\x22' :: t)
  | array {v : Json} {t : Text} (h : Arrays v t) : ValueText Arrays Objects v ('[' :: t)
  | object {v : Json} {t : Text} (h : Objects v t) : ValueText Arrays Objects v ('\x7b' :: t)

/-- A value that is given up on, where it is given which arrays and objects are. -/
inductive ValueStops (Arrays Objects : Text → ReadError → Prop) : Text → ReadError → Prop where
  | integer {t : Text} {e : ReadError} (h : Overlong t e) : ValueStops Arrays Objects t e
  | array {t : Text} {e : ReadError} (h : Arrays t e) : ValueStops Arrays Objects ('[' :: t) e
  | object {t : Text} {e : ReadError} (h : Objects t e) : ValueStops Arrays Objects ('\x7b' :: t) e

/-- A value by the mark that it starts with, from readers of arrays and objects. -/
def readByMark (array object : Reader Json) : Reader Json
  | '\x22' :: rest => (readString rest).map fun (t, rest) => (.text t, rest)
  | '[' :: rest => array rest
  | '\x7b' :: rest => object rest
  | t => readScalar t

/-- What starts like a word or a number is read as such. -/
theorem readByMark_of_scalarAhead {t : Text} (h : ScalarAhead t) (array object : Reader Json) :
    readByMark array object t = readScalar t := by
  obtain ⟨c, rest, rfl, hc⟩ := h
  rw [readByMark]
  · intro rest heq
    exact hc.ne (by decide) (List.cons.inj heq).1
  · intro rest heq
    exact hc.ne (by decide) (List.cons.inj heq).1
  · intro rest heq
    exact hc.ne (by decide) (List.cons.inj heq).1

/-- A number is read whatever the readers of arrays and objects are. -/
theorem readByMark_number {v : Json} {t rest : Text} (h : WritesNumber v t)
    (hrest : EndsNumber rest) (array object : Reader Json) :
    readByMark array object (t ++ rest) = .ok (v, rest) := by
  cases h with
  | integer hn hintegral hshort =>
      rw [readByMark_of_scalarAhead (hn.scalarAhead.append rest), readScalar_number hn hrest,
        numberOutcome_integer hintegral hshort]
  | number hn hintegral =>
      rw [readByMark_of_scalarAhead (hn.scalarAhead.append rest), readScalar_number hn hrest,
        numberOutcome_number hintegral]

/-- An integer of too many digits is refused whatever the readers of arrays and objects are. -/
theorem readByMark_overlong {t : Text} {e : ReadError} (h : Overlong t e)
    (array object : Reader Json) :
    readByMark array object t = .error e ∧ e ≠ .malformed := by
  cases h with
  | @intro n rest hn hintegral hlong hrest =>
      rw [readByMark_of_scalarAhead (hn.scalarAhead.append rest), readScalar_number hn hrest,
        numberOutcome_overlong hintegral hlong]
      exact ⟨rfl, by simp⟩

section

variable {array object : Reader Json} {Arrays Objects : Json → Text → Prop}
variable {ArrayStops ObjectStops : Text → ReadError → Prop}

/-- **A value is taken by its mark**: as the string, array or object that the mark opens, or as a word
or a number if there is none. -/
theorem readByMark_takes (harray : Decides array Arrays ArrayStops)
    (hobject : Decides object Objects ObjectStops) :
    Takes (readByMark array object) (ValueText Arrays Objects)
      (ValueStops ArrayStops ObjectStops) where
  taken := by
    intro v t rest hv hrest
    cases hv with
    | word h =>
        rw [readByMark_of_scalarAhead ((scalarAhead_of_word h).append rest)]
        exact readScalar_word h
    | number h => exact readByMark_number h hrest.endsNumber array object
    | string h => exact (readString_decides.map Json.text).taken ⟨_, rfl, h⟩
    | array h => exact harray.taken h
    | object h => exact hobject.taken h
  sound := by
    intro t v rest hread
    unfold readByMark at hread
    split at hread
    · obtain ⟨u, ⟨x, rfl, hx⟩, rfl⟩ := (readString_decides.map Json.text).sound hread
      exact ⟨'\x22' :: u, .string hx, rfl⟩
    · obtain ⟨u, hu, rfl⟩ := harray.sound hread
      exact ⟨'[' :: u, .array hu, rfl⟩
    · obtain ⟨u, hu, rfl⟩ := hobject.sound hread
      exact ⟨'\x7b' :: u, .object hu, rfl⟩
    · obtain hbad | ⟨w, v', after, hw, rfl, hword⟩ | ⟨n, after, hn, rfl, hnumber, -⟩ :=
        readScalar_cases t
      · rw [hbad] at hread
        cases hread
      · rw [hword] at hread
        cases hread
        exact ⟨w, .word hw, rfl⟩
      · obtain ⟨v', hv, hok⟩ | ⟨-, -, hlimit⟩ := numberOutcome_cases hn after
        · rw [hnumber, hok] at hread
          cases hread
          exact ⟨n.text, .number hv, rfl⟩
        · rw [hnumber, hlimit] at hread
          cases hread
  fails_iff := by
    intro t e
    constructor
    · intro ⟨hread, hne⟩
      unfold readByMark at hread
      split at hread
      · exact absurd ⟨hread, hne⟩ (readString_decides.map Json.text).fails_iff.mp
      · exact .array (harray.fails_iff.mp ⟨hread, hne⟩)
      · exact .object (hobject.fails_iff.mp ⟨hread, hne⟩)
      · obtain hbad | ⟨w, v', after, hw, rfl, hword⟩ | ⟨n, after, hn, rfl, hnumber, hends⟩ :=
          readScalar_cases t
        · rw [hbad] at hread
          cases hread
          exact absurd rfl hne
        · rw [hword] at hread
          cases hread
        · obtain ⟨v', hv, hok⟩ | ⟨hintegral, hlong, hlimit⟩ := numberOutcome_cases hn after
          · rw [hnumber, hok] at hread
            cases hread
          · rw [hnumber, hlimit] at hread
            cases hread
            have hbehind := hends hintegral (Nat.lt_trans (by decide) hlong)
            exact .integer (.intro hn hintegral hlong hbehind)
    · intro he
      cases he with
      | integer h => exact readByMark_overlong h array object
      | array h => exact harray.fails_iff.mpr h
      | object h => exact hobject.fails_iff.mpr h
  refuses := by
    intro t ht
    unfold readByMark
    split
    · exact absurd (ht _ rfl) (by decide)
    · exact absurd (ht _ rfl) (by decide)
    · exact absurd (ht _ rfl) (by decide)
    · exact readScalar_refuses ht

end

/-- The texts of values with arrays and objects nested at most `depth` deep. -/
def Writes : (depth : Nat) → Json → Text → Prop
  | 0 => ValueText (fun _ _ => False) (fun _ _ => False)
  | depth + 1 => ValueText (ArrayText (Writes depth)) (ObjectText (Writes depth))

/-- The texts that are given up on: what stands before an integer of too many digits or before a
container too deep is as it would be in the text of a value. -/
def Stops : (depth : Nat) → Text → ReadError → Prop
  | 0 => ValueStops (fun _ e => e = .tooDeep .array) (fun _ e => e = .tooDeep .object)
  | depth + 1 =>
    ValueStops (EnclosedStops (Writes depth) (Stops depth))
      (EnclosedStops (MemberText (Writes depth)) (MemberStops (Stops depth)))

/-- An integer of too many digits stops a reader at any depth. -/
theorem stops_of_overlong (depth : Nat) {t : Text} {e : ReadError} (h : Overlong t e) :
    Stops depth t e := by
  cases depth <;> exact .integer h

/-- Where no container may nest, every one is refused. -/
theorem tooDeep_decides (container : Container) :
    Decides (fun _ => .error (.tooDeep container)) (fun (_ : Json) _ => False)
      (fun _ e => e = .tooDeep container) where
  taken := False.elim
  sound := by
    intro t v rest hread
    cases hread
  fails_iff := by
    intro t e
    constructor
    · intro ⟨hread, _⟩
      cases hread
      rfl
    · intro he
      subst he
      exact ⟨rfl, by simp⟩

/-- At no depth arrays and objects are refused. -/
theorem readValue_zero :
    readValue 0 =
      readByMark (fun _ => .error (.tooDeep .array)) (fun _ => .error (.tooDeep .object)) := by
  funext t
  unfold readValue
  split
  · rfl
  · rfl
  · rfl
  · rename_i hstring hbracket hbrace
    exact (readByMark.eq_4 _ _ t hstring hbracket hbrace).symm

/-- At a depth the items of arrays and objects are read at the one below. -/
theorem readValue_succ (depth : Nat) :
    readValue (depth + 1) =
      readByMark (readArray (readValue depth)) (readObject (readValue depth)) := by
  funext t
  unfold readValue
  split
  · rfl
  · rfl
  · rfl
  · rename_i hstring hbracket hbrace
    exact (readByMark.eq_4 _ _ t hstring hbracket hbrace).symm

/-- **The reader takes the texts of values**, up to what ends one, and gives up on those texts alone
that have to be given up. -/
theorem readValue_takes (depth : Nat) :
    Takes (readValue depth) (Writes depth) (Stops depth) := by
  induction depth with
  | zero =>
      rw [readValue_zero]
      exact readByMark_takes (tooDeep_decides .array) (tooDeep_decides .object)
  | succ depth ih =>
      rw [readValue_succ]
      exact readByMark_takes (readArray_decides ih) (readObject_decides ih)

/-- How many arrays and objects are opened in a text, with the marks inside its strings. -/
def openings (t : Text) : Nat :=
  t.countP fun c => c = '[' || c = '\x7b'

theorem openings_cons {c : Char} (hc : c = '[' ∨ c = '\x7b') (t : Text) :
    openings (c :: t) = openings t + 1 :=
  List.countP_cons_of_pos (by simpa using hc)

/-- A failure that is due to one of the two limits: an integer has too many digits, or more arrays
and objects are opened than may nest. -/
def ReachesLimit (depth : Nat) (t : Text) : ReadError → Prop
  | .malformed => False
  | .tooDeep _ => depth < openings t
  | .tooManyDigits count => maxIntegerDigits < count

/-- Behind more opening marks a limit is reached as before. -/
theorem ReachesLimit.mono {depth : Nat} {t u : Text} {e : ReadError}
    (h : ReachesLimit depth t e) (hle : openings t ≤ openings u) : ReachesLimit depth u e := by
  cases e with
  | malformed => exact h
  | tooDeep container => exact Nat.lt_of_lt_of_le h hle
  | tooManyDigits count => exact h

/-- What stands in front does not take away that a limit is reached. -/
theorem ReachesLimit.append {depth : Nat} {t : Text} {e : ReadError}
    (h : ReachesLimit depth t e) (u : Text) : ReachesLimit depth (u ++ t) e := by
  refine h.mono ?_
  rw [openings, openings, List.countP_append]
  exact Nat.le_add_left _ _

/-- One container more may be opened behind an opening mark. -/
theorem ReachesLimit.cons {depth : Nat} {t : Text} {e : ReadError} (h : ReachesLimit depth t e)
    {c : Char} (hc : c = '[' ∨ c = '\x7b') : ReachesLimit (depth + 1) (c :: t) e := by
  cases e with
  | malformed => exact h
  | tooDeep container =>
      rw [ReachesLimit, openings_cons hc]
      exact Nat.succ_lt_succ h
  | tooManyDigits count => exact h

/-- An integer of too many digits reaches its limit at any depth. -/
theorem Overlong.reachesLimit {t : Text} {e : ReadError} (h : Overlong t e) (depth : Nat) :
    ReachesLimit depth t e := by
  cases h with
  | intro _ _ hlong _ => exact hlong

/-- **Reading is given up only at a limit.** -/
theorem reachesLimit_of_stops {depth : Nat} {t : Text} {e : ReadError} (h : Stops depth t e) :
    ReachesLimit depth t e := by
  have hfront : ∀ depth, ∀ u t e, ReachesLimit depth t e → ReachesLimit depth (u ++ t) e :=
    fun _ u _ _ h => h.append u
  induction depth generalizing t e with
  | zero =>
      cases h with
      | integer h => exact h.reachesLimit 0
      | array h =>
          rw [h, ReachesLimit, openings_cons (Or.inl rfl)]
          exact Nat.zero_lt_succ _
      | object h =>
          rw [h, ReachesLimit, openings_cons (Or.inr rfl)]
          exact Nat.zero_lt_succ _
  | succ depth ih =>
      have hmember : ∀ t e, MemberStops (Stops depth) t e → ReachesLimit depth t e := by
        intro t e he
        cases he with
        | intro _ he => exact (ih he).append _
      cases h with
      | integer h => exact h.reachesLimit (depth + 1)
      | array h => exact (h.of_forall (fun _ _ he => ih he) (hfront depth)).cons (Or.inl rfl)
      | object h => exact (h.of_forall hmember (hfront depth)).cons (Or.inr rfl)

/-- The text of an object goes from its opening brace to its closing brace. -/
theorem exists_braces {depth : Nat} {members : List (Text × Json)} {t : Text}
    (h : Writes depth (.object members) t) : ∃ u, t = '\x7b' :: (u ++ ['\x7d']) := by
  have hobject : ∀ {Arrays Objects : Json → Text → Prop},
      (∀ u, ¬ Arrays (.object members) u) → ValueText Arrays Objects (.object members) t →
        ∃ u, Objects (.object members) u ∧ t = '\x7b' :: u := by
    intro Arrays Objects harray hv
    cases hv with
    | word hw => simp [words] at hw
    | number hn => cases hn
    | array ha => exact absurd ha (harray _)
    | object ho => exact ⟨_, ho, rfl⟩
  cases depth with
  | zero =>
      obtain ⟨u, hfalse, -⟩ := hobject (fun _ => id) h
      exact hfalse.elim
  | succ depth =>
      have harray : ∀ u, ¬ ArrayText (Writes depth) (.object members) u := by
        intro u harray
        obtain ⟨items, hlist, -⟩ := harray
        cases hlist
      obtain ⟨u, ⟨updates, -, hu⟩, rfl⟩ := hobject harray h
      cases hu with
      | empty hs => exact ⟨_, rfl⟩
      | filled hs hxs => exact ⟨_, by rw [List.append_assoc]⟩

/-! ## Whole texts -/

/-- A text that writes a value with any space around it. -/
def WritesWhole (v : Json) (t : Text) : Prop :=
  ∃ s u s', AllSpace s ∧ AllSpace s' ∧ Writes depthLimit v u ∧ t = s ++ (u ++ s')

/-- A text that is given up on behind any space. -/
def StopsWhole (t : Text) (e : ReadError) : Prop :=
  ∃ s u, AllSpace s ∧ Stops depthLimit u e ∧ t = s ++ u

/-- **A whole text reads** as the value that it writes. -/
theorem read_ok_iff {t : Text} {v : Json} : read t = .ok v ↔ WritesWhole v t := by
  have htakes := readValue_takes depthLimit
  constructor
  · intro hread
    obtain ⟨s, hs, -, ht⟩ := exists_space t
    cases hvalue : readValue depthLimit (skipSpace t) with
    | error e =>
        rw [read, hvalue] at hread
        cases hread
    | ok taken =>
        obtain ⟨v', rest⟩ := taken
        rw [read, hvalue] at hread
        dsimp only [bind, Except.bind] at hread
        split at hread
        · rename_i hempty
          cases hread
          obtain ⟨u, hu, heq⟩ := htakes.sound hvalue
          obtain ⟨s', hs', -, hrest⟩ := exists_space rest
          rw [List.isEmpty_iff.mp hempty, List.append_nil] at hrest
          exact ⟨s, u, s', hs, hs', hu, by rw [← hrest, ← heq, ← ht]⟩
        · cases hread
  · intro ⟨s, u, s', hs, hs', hv, ht⟩
    have hahead := ((htakes.starts_of_writes hv).append s').noSpaceAhead
    have hbehind : skipSpace s' = [] := by
      simpa using skipSpace_append hs' noSpaceAhead_nil
    rw [read, ht, skipSpace_append hs hahead, htakes.taken hv (endsItem_allSpace hs')]
    dsimp only [bind, Except.bind]
    rw [hbehind]
    rfl

/-- **A whole text fails to be read**, other than by being malformed, just if it has to be given
up. -/
theorem read_fails_iff {t : Text} {e : ReadError} :
    (read t = .error e ∧ e ≠ .malformed) ↔ StopsWhole t e := by
  have htakes := readValue_takes depthLimit
  constructor
  · intro ⟨hread, hne⟩
    obtain ⟨s, hs, -, ht⟩ := exists_space t
    refine ⟨s, skipSpace t, hs, htakes.fails_iff.mp ⟨?_, hne⟩, ht⟩
    cases hvalue : readValue depthLimit (skipSpace t) with
    | error e' =>
        rw [read, hvalue] at hread
        cases hread
        rfl
    | ok taken =>
        rw [read, hvalue] at hread
        dsimp only [bind, Except.bind] at hread
        split at hread
        · cases hread
        · cases hread
          exact absurd rfl hne
  · intro ⟨s, u, hs, he, ht⟩
    obtain ⟨hread, hne⟩ := htakes.fails_iff.mpr he
    rw [read, ht, skipSpace_append hs (htakes.starts_of_stops he).noSpaceAhead, hread]
    exact ⟨rfl, hne⟩

end Json

end Tapeline
