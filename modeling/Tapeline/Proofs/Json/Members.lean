import Tapeline.Json.Basic
import Mathlib.Data.List.Nodup

/-!
# The members of an object

Members are set one after the other: a name that is there keeps its place and changes its value, a
new name comes last.  So setting members names none twice (`nodup_putAll`), each of them is one that
was there or one that was set (`mem_putAll`), and what a name stands for is what was set last, or
else what was there (`member?_putAll`).
-/

namespace Tapeline

namespace Json

/-- A new name is put at the end. -/
theorem put_of_not_mem {name : Text} {members : List (Text × Json)}
    (h : name ∉ members.map (·.1)) (value : Json) :
    put name value members = members ++ [(name, value)] := by
  induction members with
  | nil => rfl
  | cons m members ih =>
      obtain ⟨hne, htail⟩ := List.ne_and_not_mem_of_not_mem_cons h
      rw [put, if_neg fun heq => hne heq.symm, ih htail]
      rfl

/-- Members with names of their own are set one behind the other. -/
theorem putAll_of_nodup {members updates : List (Text × Json)}
    (h : ((members ++ updates).map (·.1)).Nodup) : putAll members updates = members ++ updates := by
  induction updates generalizing members with
  | nil => exact (List.append_nil members).symm
  | cons m updates ih =>
      have hnew : m.1 ∉ members.map (·.1) := by
        rw [List.map_append, List.nodup_append] at h
        intro hmem
        exact h.2.2 m.1 hmem m.1 (by simp) rfl
      have hstep : putAll members (m :: updates) = putAll (members ++ [m]) updates := by
        exact congrArg (putAll · updates) (put_of_not_mem hnew m.2)
      rw [hstep, ih (by simpa using h), List.append_assoc, List.singleton_append]

/-- What stands among members after one was put is that one or stood there before. -/
theorem mem_put {name : Text} {value : Json} {m : Text × Json} {members : List (Text × Json)}
    (h : m ∈ put name value members) : m = (name, value) ∨ m ∈ members := by
  induction members with
  | nil => exact Or.inl (List.mem_singleton.mp h)
  | cons first members ih =>
      rw [put] at h
      split at h
      · rename_i heq
        cases List.mem_cons.mp h with
        | inl hm => exact Or.inl (by rw [hm, heq])
        | inr hm => exact Or.inr (List.mem_cons_of_mem _ hm)
      · cases List.mem_cons.mp h with
        | inl hm => exact Or.inr (by rw [hm]; exact List.mem_cons_self)
        | inr hm => exact (ih hm).imp_right (List.mem_cons_of_mem _)

/-- A member of the result is one that was there or one that was set. -/
theorem mem_putAll {m : Text × Json} {members updates : List (Text × Json)}
    (h : m ∈ putAll members updates) : m ∈ members ∨ m ∈ updates := by
  induction updates generalizing members with
  | nil => exact Or.inl h
  | cons u updates ih =>
      have hsplit : m ∈ put u.1 u.2 members ∨ m ∈ updates := ih h
      cases hsplit with
      | inl hput =>
          cases mem_put hput with
          | inl hm => exact Or.inr (by rw [hm]; exact List.mem_cons_self)
          | inr hm => exact Or.inl hm
      | inr hm => exact Or.inr (List.mem_cons_of_mem _ hm)

/-- Putting a member keeps names from being repeated. -/
theorem nodup_put {name : Text} {value : Json} {members : List (Text × Json)}
    (h : (members.map (·.1)).Nodup) : ((put name value members).map (·.1)).Nodup := by
  induction members with
  | nil => simp [put]
  | cons first members ih =>
      obtain ⟨hfirst, htail⟩ := List.nodup_cons.mp h
      rw [put]
      split
      · exact h
      · rename_i hne
        apply List.nodup_cons.mpr
        constructor
        · intro hmem
          obtain ⟨m, hm, hname⟩ := List.mem_map.mp hmem
          cases mem_put hm with
          | inl heq => exact hne (hname.symm.trans (congrArg Prod.fst heq))
          | inr hm => exact hfirst (List.mem_map.mpr ⟨m, hm, hname⟩)
        · exact ih htail

/-- Setting members names none twice. -/
theorem nodup_putAll {members updates : List (Text × Json)} (h : (members.map (·.1)).Nodup) :
    ((putAll members updates).map (·.1)).Nodup := by
  induction updates generalizing members with
  | nil => exact h
  | cons u updates ih =>
      have hstep : ((put u.1 u.2 members).map (·.1)).Nodup := nodup_put h
      exact ih hstep

/-- The first member of a name counts. -/
theorem member?_cons (name n : Text) (value : Json) (members : List (Text × Json)) :
    member? name ((n, value) :: members) = if n = name then some value else member? name members := by
  by_cases h : n = name
  · simp [member?, h]
  · simp [member?, h]

/-- A member that is put is found, and the others are found as before. -/
theorem member?_put (name n : Text) (value : Json) (members : List (Text × Json)) :
    member? name (put n value members) = if n = name then some value else member? name members := by
  induction members with
  | nil => exact member?_cons name n value []
  | cons first members ih =>
      obtain ⟨first, v⟩ := first
      rw [put]
      split
      · rename_i heq
        subst heq
        rw [member?_cons, member?_cons]
        by_cases h : first = name
        · rw [if_pos h, if_pos h]
        · rw [if_neg h, if_neg h, if_neg h]
      · rename_i hne
        rw [member?_cons, member?_cons, ih]
        by_cases h : first = name
        · rw [if_pos h, if_pos h, if_neg fun hn => hne (h.trans hn.symm)]
        · rw [if_neg h, if_neg h]

/-- A name that no member has finds nothing. -/
theorem member?_eq_none {name : Text} {members : List (Text × Json)}
    (h : name ∉ members.map (·.1)) : member? name members = none := by
  induction members with
  | nil => rfl
  | cons first members ih =>
      obtain ⟨hne, htail⟩ := List.ne_and_not_mem_of_not_mem_cons h
      rw [member?_cons, if_neg fun heq => hne heq.symm, ih htail]

/-- What is set counts, and what is not set is as before. -/
theorem member?_putAll (name : Text) {members updates : List (Text × Json)}
    (h : (updates.map (·.1)).Nodup) :
    member? name (putAll members updates) = (member? name updates).or (member? name members) := by
  induction updates generalizing members with
  | nil => rfl
  | cons u updates ih =>
      obtain ⟨n, value⟩ := u
      obtain ⟨hfirst, htail⟩ := List.nodup_cons.mp h
      have hstep : putAll members ((n, value) :: updates) =
          putAll (put n value members) updates := rfl
      rw [hstep, ih htail, member?_put, member?_cons]
      by_cases hn : n = name
      · rw [hn] at hfirst
        rw [if_pos hn, if_pos hn, member?_eq_none hfirst]
        rfl
      · rw [if_neg hn, if_neg hn]

end Json

end Tapeline
