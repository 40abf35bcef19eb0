import Mathlib.Data.List.TakeWhile
import Tapeline.Json.Reader
import Tapeline.Proofs.Results

/-!
# The items of a container

Arrays and objects are read alike: items with commas between them and space around them, up to a
closing mark (`readContainer`).  Of a reader of items it is said once what texts it takes and what
texts it gives up on (`Takes`).  The reader of a container then takes the same items with commas
between them up to the closing mark, and it gives up where an item behind well-formed ones is given
up on (`readContainer_decides`).
-/

namespace Tapeline

namespace Json

/-- A function that reads what a text starts with and leaves the rest. -/
abbrev Reader (α : Type) := Text → Except ReadError (α × Text)

/-- One of the two marks that close a container. -/
def IsClosing (c : Char) : Prop :=
  c = ']' ∨ c = '\x7d'

instance (c : Char) : Decidable (IsClosing c) :=
  inferInstanceAs (Decidable (_ ∨ _))

theorem IsClosing.not_space {c : Char} (h : IsClosing c) : isSpace c = false := by
  cases h with
  | inl h =>
      rw [h]
      decide
  | inr h =>
      rw [h]
      decide

theorem IsClosing.ne_comma {c : Char} (h : IsClosing c) : c ≠ ',' := by
  cases h with
  | inl h =>
      rw [h]
      decide
  | inr h =>
      rw [h]
      decide

/-! ## Space -/

/-- Space and nothing else. -/
def AllSpace (t : Text) : Prop :=
  ∀ c ∈ t, isSpace c = true

theorem allSpace_nil : AllSpace [] := by
  intro c hc
  cases hc

/-- No space stands first. -/
def NoSpaceAhead (t : Text) : Prop :=
  ∀ c, t.head? = some c → isSpace c = false

theorem noSpaceAhead_nil : NoSpaceAhead [] := by
  intro c hc
  cases hc

theorem noSpaceAhead_cons {c : Char} {t : Text} (h : isSpace c = false) :
    NoSpaceAhead (c :: t) := by
  intro d hd
  cases hd
  exact h

/-- White space in front is skipped up to something else. -/
theorem skipSpace_append {s : Text} (hs : AllSpace s) {t : Text} (ht : NoSpaceAhead t) :
    skipSpace (s ++ t) = t := by
  rw [skipSpace, List.dropWhile_append_of_pos hs]
  cases t with
  | nil => rfl
  | cons c t => simp [ht c rfl]

/-- A text is space and what is left of it without that. -/
theorem exists_space (t : Text) :
    ∃ s, AllSpace s ∧ NoSpaceAhead (skipSpace t) ∧ t = s ++ skipSpace t := by
  refine ⟨t.takeWhile isSpace, fun c hc => List.mem_takeWhile_imp hc, ?_,
    List.takeWhile_append_dropWhile.symm⟩
  intro c hc
  have hnot := List.head?_dropWhile_not isSpace t
  rw [skipSpace] at hc
  rw [hc] at hnot
  simpa using hnot

/-- Nothing that could belong to an item in front. -/
def EndsItem (rest : Text) : Prop :=
  ∀ c, rest.head? = some c → isSpace c = true ∨ c = ',' ∨ IsClosing c

theorem endsItem_allSpace {s : Text} (hs : AllSpace s) : EndsItem s := by
  intro c hc
  exact Or.inl (hs c (List.mem_of_head? hc))

theorem endsItem_cons {c : Char} (h : c = ',' ∨ IsClosing c) {s : Text} (hs : AllSpace s)
    (t : Text) : EndsItem (s ++ c :: t) := by
  intro d hd
  cases s with
  | nil =>
      cases hd
      exact Or.inr h
  | cons e s =>
      cases hd
      exact Or.inl (hs d List.mem_cons_self)

/-! ## Readers of items -/

section

variable {α : Type}

/-- What a reader of items takes, and what it gives up on though the text may be well formed. -/
structure Takes (item : Reader α) (Writes : α → Text → Prop)
    (Stops : Text → ReadError → Prop) : Prop where
  taken : ∀ {x t rest}, Writes x t → EndsItem rest → item (t ++ rest) = .ok (x, rest)
  sound : ∀ {t x rest}, item t = .ok (x, rest) → ∃ u, Writes x u ∧ t = u ++ rest
  fails_iff : ∀ {t e}, (item t = .error e ∧ e ≠ .malformed) ↔ Stops t e
  refuses : ∀ {t}, (∀ c, t.head? = some c → isSpace c = true ∨ IsClosing c) →
    item t = .error .malformed

/-- The same of a reader that ends with a mark, whatever stands behind it. -/
structure Decides (reader : Reader α) (Writes : α → Text → Prop)
    (Stops : Text → ReadError → Prop) : Prop where
  taken : ∀ {x t rest}, Writes x t → reader (t ++ rest) = .ok (x, rest)
  sound : ∀ {t x rest}, reader t = .ok (x, rest) → ∃ u, Writes x u ∧ t = u ++ rest
  fails_iff : ∀ {t e}, (reader t = .error e ∧ e ≠ .malformed) ↔ Stops t e

/-- A function of what is read changes neither where the reader stops nor what is left. -/
theorem Decides.map {β : Type} {reader : Reader α} {Writes : α → Text → Prop}
    {Stops : Text → ReadError → Prop} (h : Decides reader Writes Stops) (f : α → β) :
    Decides (fun t => (reader t).map fun (x, rest) => (f x, rest))
      (fun y u => ∃ x, f x = y ∧ Writes x u) Stops where
  taken := by
    intro y t rest hy
    obtain ⟨x, rfl, hx⟩ := hy
    exact map_eq_ok_iff.mpr ⟨(x, rest), h.taken hx, rfl⟩
  sound := by
    intro t y rest hread
    obtain ⟨⟨x, rest⟩, hx, heq⟩ := map_eq_ok_iff.mp hread
    cases heq
    obtain ⟨u, hu, ht⟩ := h.sound hx
    exact ⟨u, ⟨x, rfl, hu⟩, ht⟩
  fails_iff := by
    intro t e
    rw [map_eq_error_iff]
    exact h.fails_iff

/-- A text that starts neither with space nor with a closing mark. -/
def StartsItem (t : Text) : Prop :=
  ∃ c rest, t = c :: rest ∧ isSpace c = false ∧ ¬ IsClosing c

theorem StartsItem.noSpaceAhead {t : Text} (h : StartsItem t) : NoSpaceAhead t := by
  obtain ⟨c, rest, rfl, hspace, -⟩ := h
  exact noSpaceAhead_cons hspace

theorem StartsItem.append {t : Text} (h : StartsItem t) (rest : Text) : StartsItem (t ++ rest) := by
  obtain ⟨c, more, rfl, hc⟩ := h
  exact ⟨c, more ++ rest, rfl, hc⟩

variable {item : Reader α} {Writes : α → Text → Prop} {Stops : Text → ReadError → Prop}

/-- Only what starts an item is not refused. -/
theorem Takes.starts (h : Takes item Writes Stops) {t : Text}
    (hread : item t ≠ .error .malformed) : StartsItem t := by
  cases t with
  | nil => exact absurd (h.refuses (by simp)) hread
  | cons c t =>
      by_cases hc : isSpace c = true ∨ IsClosing c
      · refine absurd (h.refuses fun d hd => ?_) hread
        cases hd
        exact hc
      · obtain ⟨hspace, hclosing⟩ := not_or.mp hc
        exact ⟨c, t, rfl, by simpa using hspace, hclosing⟩

/-- What is written as an item starts like one. -/
theorem Takes.starts_of_writes (h : Takes item Writes Stops) {x : α} {t : Text}
    (hx : Writes x t) : StartsItem t := by
  apply h.starts
  have htaken := h.taken hx (endsItem_allSpace allSpace_nil)
  rw [List.append_nil] at htaken
  simp [htaken]

/-- What stops the reader of items starts like an item. -/
theorem Takes.starts_of_stops (h : Takes item Writes Stops) {t : Text} {e : ReadError}
    (he : Stops t e) : StartsItem t := by
  obtain ⟨hread, hne⟩ := h.fails_iff.mpr he
  apply h.starts
  simpa [hread] using hne

/-! ## Items with commas between them -/

/-- Items as they are written from the first to the last, space behind the last included. -/
inductive Listed (Writes : α → Text → Prop) : List α → Text → Prop where
  | last {x : α} {t s : Text} (hx : Writes x t) (hs : AllSpace s) : Listed Writes [x] (t ++ s)
  | more {x : α} {xs : List α} {t s s' u : Text} (hx : Writes x t) (hs : AllSpace s)
      (hs' : AllSpace s') (hxs : Listed Writes xs u) :
      Listed Writes (x :: xs) (t ++ (s ++ ',' :: (s' ++ u)))

/-- A text where an item behind well-formed ones is given up on. -/
inductive ListedStops (Writes : α → Text → Prop) (Stops : Text → ReadError → Prop) :
    Text → ReadError → Prop where
  | here {t : Text} {e : ReadError} (he : Stops t e) : ListedStops Writes Stops t e
  | later {x : α} {t s s' u : Text} {e : ReadError} (hx : Writes x t) (hs : AllSpace s)
      (hs' : AllSpace s') (he : ListedStops Writes Stops u e) :
      ListedStops Writes Stops (t ++ (s ++ ',' :: (s' ++ u))) e

/-- Items up to a closing mark, at most `count` of them. -/
def readListed (closing : Char) (item : Reader α) : (count : Nat) → Reader (List α)
  | 0, _ => .error .malformed
  | count + 1, t =>
    match item t with
    | .error e => .error e
    | .ok (x, rest) =>
      match skipSpace rest with
      | [] => .error .malformed
      | c :: rest =>
        if c = closing then .ok ([x], rest)
        else if c = ',' then
          (readListed closing item count (skipSpace rest)).map fun (xs, rest) => (x :: xs, rest)
        else .error .malformed

variable {closing : Char}

/-- Behind the last item the closing mark ends the list. -/
theorem readListed_last (hclosing : IsClosing closing) {count : Nat} {t s rest : Text} {x : α}
    (hitem : item t = .ok (x, s ++ closing :: rest)) (hs : AllSpace s) :
    readListed closing item (count + 1) t = .ok ([x], rest) := by
  rw [readListed, hitem]
  dsimp only
  rw [skipSpace_append hs (noSpaceAhead_cons hclosing.not_space)]
  exact if_pos rfl

/-- Behind an item a comma goes on to the next. -/
theorem readListed_more (hclosing : IsClosing closing) {count : Nat} {t s s' u : Text} {x : α}
    (hitem : item t = .ok (x, s ++ ',' :: (s' ++ u))) (hs : AllSpace s) (hs' : AllSpace s')
    (hu : NoSpaceAhead u) :
    readListed closing item (count + 1) t =
      (readListed closing item count u).map fun (xs, rest) => (x :: xs, rest) := by
  rw [readListed, hitem]
  dsimp only
  rw [skipSpace_append hs (noSpaceAhead_cons (by decide))]
  dsimp only
  rw [if_neg hclosing.ne_comma.symm, if_pos rfl, skipSpace_append hs' hu]

/-- An item that is read is the last one, or there are more, or the text is malformed. -/
theorem readListed_succ_cases (closing : Char) (count : Nat) {t rest : Text} {x : α}
    (hitem : item t = .ok (x, rest)) :
    (∃ s after, AllSpace s ∧ rest = s ++ closing :: after ∧
        readListed closing item (count + 1) t = .ok ([x], after)) ∨
      (∃ s s' u, AllSpace s ∧ AllSpace s' ∧ rest = s ++ ',' :: (s' ++ u) ∧
        readListed closing item (count + 1) t =
          (readListed closing item count u).map fun (xs, rest) => (x :: xs, rest)) ∨
      readListed closing item (count + 1) t = .error .malformed := by
  obtain ⟨s, hs, -, hrest⟩ := exists_space rest
  rw [readListed, hitem]
  dsimp only
  cases hskip : skipSpace rest with
  | nil => exact Or.inr (Or.inr rfl)
  | cons c after =>
      rw [hskip] at hrest
      dsimp only
      by_cases hclosing : c = closing
      · rw [if_pos hclosing, ← hclosing]
        exact Or.inl ⟨s, after, hs, hrest, rfl⟩
      · rw [if_neg hclosing]
        by_cases hcomma : c = ','
        · obtain ⟨s', hs', -, hafter⟩ := exists_space after
          rw [if_pos hcomma]
          refine Or.inr (Or.inl ⟨s, s', skipSpace after, hs, hs', ?_, rfl⟩)
          rw [← hafter, ← hcomma]
          exact hrest
        · rw [if_neg hcomma]
          exact Or.inr (Or.inr rfl)

/-- There are not more items than characters. -/
theorem Listed.length_le (h : Takes item Writes Stops) {xs : List α} {t : Text}
    (hxs : Listed Writes xs t) : xs.length ≤ t.length := by
  induction hxs with
  | last hx _ =>
      obtain ⟨c, rest, rfl, -⟩ := h.starts_of_writes hx
      simp
  | more hx _ _ _ ih =>
      simp only [List.length_cons, List.length_append]
      omega

/-- A list starts like its first item. -/
theorem Listed.starts (h : Takes item Writes Stops) {xs : List α} {t : Text}
    (hxs : Listed Writes xs t) : StartsItem t := by
  cases hxs with
  | last hx _ => exact (h.starts_of_writes hx).append _
  | more hx _ _ _ => exact (h.starts_of_writes hx).append _

/-- What stops the reader of a list starts like an item. -/
theorem ListedStops.starts (h : Takes item Writes Stops) {t : Text} {e : ReadError}
    (he : ListedStops Writes Stops t e) : StartsItem t := by
  cases he with
  | here he => exact h.starts_of_stops he
  | later hx _ _ _ => exact (h.starts_of_writes hx).append _

/-- Items are read up to the closing mark behind them. -/
theorem readListed_listed (h : Takes item Writes Stops) (hclosing : IsClosing closing)
    {xs : List α} {t : Text} (hxs : Listed Writes xs t) (rest : Text) :
    ∀ count, xs.length ≤ count →
      readListed closing item count (t ++ closing :: rest) = .ok (xs, rest) := by
  induction hxs with
  | last hx hs =>
      intro count hcount
      obtain ⟨count, rfl⟩ := Nat.exists_eq_add_one.mpr hcount
      rw [List.append_assoc]
      exact readListed_last hclosing (h.taken hx (endsItem_cons (Or.inr hclosing) hs rest)) hs
  | @more x xs t s s' u hx hs hs' hxs ih =>
      intro count hcount
      obtain ⟨count, rfl⟩ := Nat.exists_eq_add_one.mpr (Nat.zero_lt_of_lt hcount)
      have htaken := h.taken hx (endsItem_cons (Or.inl rfl) hs (s' ++ (u ++ closing :: rest)))
      have hahead := ((hxs.starts h).append (closing :: rest)).noSpaceAhead
      simp only [List.append_assoc, List.cons_append]
      rw [readListed_more hclosing htaken hs hs' hahead, ih count (Nat.le_of_succ_le_succ hcount)]
      rfl

/-- What is read are items with the closing mark behind them. -/
theorem listed_of_readListed (h : Takes item Writes Stops) :
    ∀ (count : Nat) {t rest : Text} {xs : List α},
      readListed closing item count t = .ok (xs, rest) →
        ∃ u, Listed Writes xs u ∧ t = u ++ closing :: rest := by
  intro count
  induction count with
  | zero =>
      intro t rest xs hread
      cases hread
  | succ count ih =>
      intro t rest xs hread
      cases hitem : item t with
      | error e =>
          rw [readListed, hitem] at hread
          cases hread
      | ok read =>
          obtain ⟨x, behind⟩ := read
          obtain ⟨u, hx, rfl⟩ := h.sound hitem
          obtain ⟨s, after, hs, rfl, hlast⟩ | ⟨s, s', v, hs, hs', rfl, hmore⟩ | hbad :=
            readListed_succ_cases closing count hitem
          · rw [hlast] at hread
            cases hread
            exact ⟨u ++ s, .last hx hs, (List.append_assoc ..).symm⟩
          · rw [hmore] at hread
            obtain ⟨⟨ys, after⟩, htail, hcons⟩ := map_eq_ok_iff.mp hread
            cases hcons
            obtain ⟨w, hys, rfl⟩ := ih htail
            exact ⟨u ++ (s ++ ',' :: (s' ++ w)), .more hx hs hs' hys, by simp⟩
          · rw [hbad] at hread
            cases hread

/-- Items are given up on just if one of them is. -/
theorem readListed_fails_iff (h : Takes item Writes Stops) (hclosing : IsClosing closing)
    {e : ReadError} : ∀ (count : Nat) {t : Text}, t.length ≤ count →
      ((readListed closing item count t = .error e ∧ e ≠ .malformed) ↔
        ListedStops Writes Stops t e) := by
  intro count
  induction count with
  | zero =>
      intro t hcount
      obtain rfl := List.eq_nil_of_length_eq_zero (Nat.le_zero.mp hcount)
      constructor
      · intro ⟨hread, hne⟩
        cases hread
        exact absurd rfl hne
      · intro he
        obtain ⟨c, rest, hnil, -⟩ := he.starts h
        cases hnil
  | succ count ih =>
      intro t hcount
      constructor
      · intro ⟨hread, hne⟩
        cases hitem : item t with
        | error e' =>
            rw [readListed, hitem] at hread
            cases hread
            exact .here (h.fails_iff.mp ⟨hitem, hne⟩)
        | ok read =>
            obtain ⟨x, behind⟩ := read
            obtain ⟨u, hx, rfl⟩ := h.sound hitem
            obtain ⟨s, after, hs, rfl, hlast⟩ | ⟨s, s', v, hs, hs', rfl, hmore⟩ | hbad :=
              readListed_succ_cases closing count hitem
            · rw [hlast] at hread
              cases hread
            · rw [hmore] at hread
              have hlength : v.length ≤ count := by
                simp only [List.length_append, List.length_cons] at hcount
                omega
              exact .later hx hs hs' ((ih hlength).mp ⟨map_eq_error_iff.mp hread, hne⟩)
            · rw [hbad] at hread
              cases hread
              exact absurd rfl hne
      · intro he
        cases he with
        | here he =>
            obtain ⟨hitem, hne⟩ := h.fails_iff.mpr he
            exact ⟨by rw [readListed, hitem], hne⟩
        | @later x t s s' u _ hx hs hs' he =>
            have hlength : u.length ≤ count := by
              simp only [List.length_append, List.length_cons] at hcount
              omega
            obtain ⟨htail, hne⟩ := (ih hlength).mpr he
            have htaken := h.taken hx (endsItem_cons (Or.inl rfl) hs (s' ++ u))
            rw [readListed_more hclosing htaken hs hs' (he.starts h).noSpaceAhead, htail]
            exact ⟨rfl, hne⟩

/-- What holds where an item is given up on holds where items are, if it holds with more text in
front. -/
theorem ListedStops.of_forall {P : Text → ReadError → Prop} (h : ∀ t e, Stops t e → P t e)
    (hfront : ∀ u t e, P t e → P (u ++ t) e) {t : Text} {e : ReadError}
    (he : ListedStops Writes Stops t e) : P t e := by
  induction he with
  | here he => exact h _ _ he
  | @later x t s s' u e _ _ _ _ ih =>
      have hbehind := hfront (t ++ (s ++ ',' :: s')) u e ih
      rwa [List.append_assoc, List.append_assoc, List.cons_append] at hbehind

/-! ## Containers -/

/-- What stands behind the opening mark of a container up to its closing mark: space, or items with
space before them. -/
inductive Enclosed (closing : Char) (Writes : α → Text → Prop) : List α → Text → Prop where
  | empty {s : Text} (hs : AllSpace s) : Enclosed closing Writes [] (s ++ [closing])
  | filled {s t : Text} {xs : List α} (hs : AllSpace s) (hxs : Listed Writes xs t) :
      Enclosed closing Writes xs (s ++ (t ++ [closing]))

/-- What stands behind an opening mark if an item is given up on. -/
inductive EnclosedStops (Writes : α → Text → Prop) (Stops : Text → ReadError → Prop) :
    Text → ReadError → Prop where
  | intro {s t : Text} {e : ReadError} (hs : AllSpace s) (he : ListedStops Writes Stops t e) :
      EnclosedStops Writes Stops (s ++ t) e

/-- What holds of the stops of items, whatever comes in front, holds of the stops of containers. -/
theorem EnclosedStops.of_forall {P : Text → ReadError → Prop} (h : ∀ t e, Stops t e → P t e)
    (hfront : ∀ u t e, P t e → P (u ++ t) e) {t : Text} {e : ReadError}
    (he : EnclosedStops Writes Stops t e) : P t e := by
  cases he with
  | intro _ he => exact hfront _ _ _ (he.of_forall h hfront)

/-- The items of a container behind its opening mark. -/
def readContainer (closing : Char) (item : Reader α) : Reader (List α) := fun t =>
  match skipSpace t with
  | [] => .error .malformed
  | c :: rest =>
    if c = closing then .ok ([], rest)
    else readListed closing item (c :: rest).length (c :: rest)

/-- A container that does not close at once is read as a list. -/
theorem readContainer_of_starts (hclosing : IsClosing closing) {s t : Text} (hs : AllSpace s)
    (ht : StartsItem t) :
    readContainer closing item (s ++ t) = readListed closing item t.length t := by
  have hahead := ht.noSpaceAhead
  obtain ⟨c, rest, rfl, -, hopen⟩ := ht
  rw [readContainer, skipSpace_append hs hahead]
  refine if_neg fun hc => hopen ?_
  rw [hc]
  exact hclosing

/-- A text is space and a closing mark behind an opening one, or its items decide. -/
theorem readContainer_cases (closing : Char) (item : Reader α) (t : Text) :
    (∃ s rest, AllSpace s ∧ t = s ++ closing :: rest ∧
        readContainer closing item t = .ok ([], rest)) ∨
      ∃ s u, AllSpace s ∧ t = s ++ u ∧
        readContainer closing item t = readListed closing item u.length u := by
  obtain ⟨s, hs, -, ht⟩ := exists_space t
  rw [readContainer]
  cases hskip : skipSpace t with
  | nil => exact Or.inr ⟨s, [], hs, hskip ▸ ht, rfl⟩
  | cons c rest =>
      rw [hskip] at ht
      by_cases hclosing : c = closing
      · rw [hclosing] at ht
        exact Or.inl ⟨s, rest, hs, ht, if_pos hclosing⟩
      · exact Or.inr ⟨s, c :: rest, hs, ht, if_neg hclosing⟩

/-- **The items of a container** are taken up to its closing mark, and the container is given up on
just if one of its items is. -/
theorem readContainer_decides (h : Takes item Writes Stops) (hclosing : IsClosing closing) :
    Decides (readContainer closing item) (Enclosed closing Writes)
      (EnclosedStops Writes Stops) where
  sound := by
    intro t xs rest hread
    obtain ⟨s, behind, hs, rfl, hempty⟩ | ⟨s, u, hs, rfl, hfilled⟩ :=
      readContainer_cases closing item t
    · rw [hempty] at hread
      cases hread
      exact ⟨s ++ [closing], .empty hs, by simp⟩
    · rw [hfilled] at hread
      obtain ⟨v, hxs, rfl⟩ := listed_of_readListed h u.length hread
      exact ⟨s ++ (v ++ [closing]), .filled hs hxs, by simp⟩
  taken := by
    intro xs t rest hxs
    cases hxs with
    | empty hs =>
        rw [List.append_assoc, List.singleton_append, readContainer,
          skipSpace_append hs (noSpaceAhead_cons hclosing.not_space)]
        exact if_pos rfl
    | filled hs hxs =>
        have hlength := hxs.length_le h
        rw [List.append_assoc, List.append_assoc, List.singleton_append,
          readContainer_of_starts hclosing hs ((hxs.starts h).append _)]
        exact readListed_listed h hclosing hxs rest _ (by rw [List.length_append]; omega)
  fails_iff := by
    intro t e
    constructor
    · intro ⟨hread, hne⟩
      obtain ⟨s, behind, hs, rfl, hempty⟩ | ⟨s, u, hs, rfl, hfilled⟩ :=
        readContainer_cases closing item t
      · rw [hempty] at hread
        cases hread
      · rw [hfilled] at hread
        exact .intro hs
          ((readListed_fails_iff h hclosing u.length (Nat.le_refl _)).mp ⟨hread, hne⟩)
    · intro he
      cases he with
      | intro hs he =>
          rw [readContainer_of_starts hclosing hs (he.starts h)]
          exact (readListed_fails_iff h hclosing _ (Nat.le_refl _)).mpr he

end

end Json

end Tapeline
