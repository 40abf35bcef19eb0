import Tapeline.Proofs.Measure.Folding

/-!
# Tokens in turn

Values and operators in turn are a first value and links, each an operator with the value behind it
(`inTurn`).  Such a list reduces to the fold of its values if all of them read
(`reduce_inTurn`), and fails with the first that does not (`reduce_inTurn_unreadable`).  An even
number of tokens leaves the last one over, and the reduction fails because of it (`reduce_even`).
-/

namespace Tapeline

namespace Measure

open Arithmetic (foldTiers)

/-- A first value, and further values each behind the sign of its operator. -/
def inTurn (first : Text) (links : List (Operator × Text)) : List Text :=
  first :: links.flatMap fun link => [[link.1.sign], link.2]

/-- The values among tokens in turn. -/
def valuesInTurn (first : Text) (links : List (Operator × Text)) : List Text :=
  first :: links.map (·.2)

/-- A value stands behind the tokens `before`, which end with its operator if there are any. -/
def IsValueBehind (tokens before : List Text) (value : Text) : Prop :=
  before.length % 2 = 0 ∧ ∃ behind, tokens = before ++ value :: behind

theorem not_isValueBehind_nil {before : List Text} {value : Text} :
    ¬ IsValueBehind [] before value := by
  rintro ⟨_, behind, htokens⟩
  simp at htokens

/-- The value of a single token. -/
theorem exists_isValueBehind_singleton {token value : Text} :
    (∃ before, IsValueBehind [token] before value) ↔ value = token := by
  constructor
  · rintro ⟨before, _, behind, htokens⟩
    cases before with
    | nil => exact (List.cons.inj htokens).1.symm
    | cons _ before => simp at htokens
  · rintro rfl
    exact ⟨[], rfl, [], rfl⟩

/-- The values are the first token and those behind the operator after it. -/
theorem exists_isValueBehind_cons_cons {first sign value : Text} {rest : List Text} :
    (∃ before, IsValueBehind (first :: sign :: rest) before value) ↔
      value = first ∨ ∃ before, IsValueBehind rest before value := by
  constructor
  · rintro ⟨before, heven, behind, htokens⟩
    match before with
    | [] => exact Or.inl (List.cons.inj htokens).1.symm
    | [_] => simp at heven
    | _ :: _ :: before =>
        simp only [List.cons_append, List.cons.injEq] at htokens
        simp only [List.length_cons] at heven
        exact Or.inr ⟨before, by omega, behind, htokens.2.2⟩
  · rintro (rfl | ⟨before, heven, behind, rfl⟩)
    · exact ⟨[], rfl, _, rfl⟩
    · refine ⟨first :: sign :: before, ?_, behind, rfl⟩
      simp only [List.length_cons]
      omega

theorem inTurn_cons (first : Text) (op : Operator) (value : Text)
    (links : List (Operator × Text)) :
    inTurn first ((op, value) :: links) = first :: [op.sign] :: inTurn value links := rfl

/-- One token for each value and each operator between two. -/
theorem length_inTurn (first : Text) (links : List (Operator × Text)) :
    (inTurn first links).length = 2 * links.length + 1 := by
  induction links generalizing first with
  | nil => rfl
  | cons link links ih =>
      obtain ⟨op, value⟩ := link
      rw [inTurn_cons, List.length_cons, List.length_cons, ih, List.length_cons]
      omega

/-- A value is the first one, or it stands in a link, behind the operator of that link. -/
theorem IsValueBehind.cases {first : Text} {links : List (Operator × Text)} {before : List Text}
    {value : Text} (h : IsValueBehind (inTurn first links) before value) :
    (before = [] ∧ value = first) ∨
      ∃ op, (op, value) ∈ links ∧ before.getLast? = some [op.sign] := by
  induction links generalizing first before with
  | nil =>
      obtain ⟨_, behind, htokens⟩ := h
      cases before with
      | nil =>
          cases htokens
          exact Or.inl ⟨rfl, rfl⟩
      | cons token before => simp [inTurn] at htokens
  | cons link links ih =>
      obtain ⟨op, next⟩ := link
      obtain ⟨heven, behind, htokens⟩ := h
      rw [inTurn_cons] at htokens
      match before with
      | [] =>
          cases htokens
          exact Or.inl ⟨rfl, rfl⟩
      | [token] => simp at heven
      | token :: sign :: before =>
          simp only [List.cons_append, List.cons.injEq] at htokens
          obtain ⟨_, rfl, htokens⟩ := htokens
          have hrest : IsValueBehind (inTurn next links) before value := by
            refine ⟨?_, behind, htokens⟩
            simp only [List.length_cons] at heven
            omega
          rcases ih hrest with ⟨rfl, rfl⟩ | ⟨op', hmem, hlast⟩
          · exact Or.inr ⟨op, List.mem_cons_self, rfl⟩
          · refine Or.inr ⟨op', List.mem_cons_of_mem _ hmem, ?_⟩
            rw [List.getLast?_cons_cons, List.getLast?_cons, hlast]
            rfl

/-- What stands behind tokens in turn is one of the values. -/
theorem IsValueBehind.mem {first : Text} {links : List (Operator × Text)} {before : List Text}
    {value : Text} (h : IsValueBehind (inTurn first links) before value) :
    value ∈ valuesInTurn first links := by
  rcases h.cases with ⟨_, rfl⟩ | ⟨op, hmem, _⟩
  · exact List.mem_cons_self
  · exact List.mem_cons_of_mem _ (List.mem_map.mpr ⟨_, hmem, rfl⟩)

/-- Every value stands at the place of one. -/
theorem exists_isValueBehind {first : Text} {links : List (Operator × Text)} {value : Text}
    (h : value ∈ valuesInTurn first links) :
    ∃ before, IsValueBehind (inTurn first links) before value := by
  induction links generalizing first with
  | nil => exact exists_isValueBehind_singleton.mpr (List.mem_singleton.mp h)
  | cons link links ih =>
      rw [inTurn_cons, exists_isValueBehind_cons_cons]
      exact (List.mem_cons.mp h).imp_right ih

/-- With an odd number of tokens behind the first value, the last one has no value to apply to. -/
theorem pairLinks_odd : ∀ ts : List Text, ts.length % 2 = 1 →
    ∃ token, ts.getLast? = some token ∧ pairLinks ts = .error (.danglingOperator token)
  | [], hodd => absurd hodd (by decide)
  | [token], _ => ⟨token, rfl, rfl⟩
  | op :: value :: rest, hodd => by
      have hrest : rest.length % 2 = 1 := by
        simp only [List.length_cons] at hodd
        omega
      obtain ⟨token, hlast, herror⟩ := pairLinks_odd rest hrest
      refine ⟨token, ?_, by simp only [pairLinks, herror, bind, Except.bind]⟩
      rw [List.getLast?_cons_cons, List.getLast?_cons, hlast]
      rfl

/-- An even number of tokens leaves the last one over. -/
theorem reduce_even {ts : List Text} (hne : ts ≠ []) (heven : ts.length % 2 = 0) :
    ∃ token, ts.getLast? = some token ∧ reduce ts = .error (.danglingOperator token) := by
  cases ts with
  | nil => exact absurd rfl hne
  | cons first rest =>
      have hodd : rest.length % 2 = 1 := by
        rw [List.length_cons] at heven
        omega
      obtain ⟨token, hlast, herror⟩ := pairLinks_odd rest hodd
      refine ⟨token, ?_, by simp only [reduce, herror, bind, Except.bind]⟩
      rw [List.getLast?_cons, hlast]
      rfl

/-- An operator at the end has no value behind it. -/
theorem reduce_dangling (first : Text) (links : List (Operator × Text)) (op : Operator) :
    reduce (inTurn first links ++ [[op.sign]]) = .error (.danglingOperator [op.sign]) := by
  have heven : (inTurn first links ++ [[op.sign]]).length % 2 = 0 := by
    rw [List.length_append, length_inTurn]
    simp only [List.length_singleton]
    omega
  obtain ⟨token, hlast, herror⟩ := reduce_even (by simp) heven
  rw [List.getLast?_concat] at hlast
  rwa [← Option.some.inj hlast] at herror

/-- A value that does not read is unreadable. -/
theorem readValue_error {t : Text} {error : NotANumber} (h : quantity t = .error error) :
    readValue t = .error (.unreadable error) := by
  rw [readValue, h]
  rfl

/-- **Tokens in turn reduce to the fold of their values**, if all of them read. -/
theorem reduce_inTurn {first : Text} {links : List (Operator × Text)} (value : Text → Binary64)
    (hread : ∀ t ∈ valuesInTurn first links, quantity t = .ok (value t)) :
    reduce (inTurn first links) =
      .ok (foldTiers measured none (value first)
        (links.map fun link => (link.1, value link.2))) := by
  exact reduce_flatMap _ (hread first List.mem_cons_self) fun link hlink =>
    hread _ (List.mem_cons_of_mem _ (List.mem_map.mpr ⟨link, hlink, rfl⟩))

/-- A link that does not read makes the links fail. -/
theorem readLinks_unreadable {links : List (Text × Text)}
    (h : ∃ link ∈ links, ∃ error, quantity link.2 = .error error) :
    ∃ error, readLinks links = .error (.unreadable error) := by
  induction links with
  | nil =>
      obtain ⟨link, hlink, _⟩ := h
      cases hlink
  | cons link links ih =>
      obtain ⟨op, value⟩ := link
      cases hvalue : quantity value with
      | error error =>
          exact ⟨error, by simp only [readLinks, readValue_error hvalue, bind, Except.bind]⟩
      | ok x =>
          obtain ⟨link, hlink, error, herror⟩ := h
          have htail : ∃ link ∈ links, ∃ error, quantity link.2 = .error error := by
            rcases List.mem_cons.mp hlink with rfl | hlink
            · rw [hvalue] at herror
              cases herror
            · exact ⟨link, hlink, error, herror⟩
          obtain ⟨error, hrest⟩ := ih htail
          exact ⟨error, by simp only [readLinks, readValue_ok hvalue, hrest, bind, Except.bind]⟩

/-- **A value that does not read makes the reduction fail.** -/
theorem reduce_inTurn_unreadable {first : Text} {links : List (Operator × Text)}
    (h : ∃ t ∈ valuesInTurn first links, ∃ error, quantity t = .error error) :
    ∃ error, reduce (inTurn first links) = .error (.unreadable error) := by
  have hpairs := pairLinks_flatMap (fun link : Operator × Text => [link.1.sign]) (·.2) links
  simp only [inTurn, reduce, hpairs, bind, Except.bind]
  cases hfirst : quantity first with
  | error error => exact ⟨error, by simp only [readValue_error hfirst]⟩
  | ok x =>
      obtain ⟨t, ht, error, herror⟩ := h
      have hlinks : ∃ link ∈ links.map fun link => ([link.1.sign], link.2),
          ∃ error, quantity link.2 = .error error := by
        rcases List.mem_cons.mp ht with rfl | ht
        · rw [hfirst] at herror
          cases herror
        · obtain ⟨link, hlink, rfl⟩ := List.mem_map.mp ht
          exact ⟨_, List.mem_map.mpr ⟨link, hlink, rfl⟩, error, herror⟩
      obtain ⟨error, hrest⟩ := readLinks_unreadable hlinks
      exact ⟨error, by simp only [readValue_ok hfirst, hrest]⟩

end Measure

end Tapeline
