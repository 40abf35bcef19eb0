import Tapeline.Proofs.Measure.Cutting
import Tapeline.Proofs.Measure.Trees

/-!
# Which tokens reduce

Tokens stand in turn unless there are none, their number is even, or a token in the place of an
operator is not an operator (`outOfTurn_iff`).  Tokens out of turn do not reduce
(`reduce_outOfTurn`): a stray token goes through the pairing and the products as it is, and the
sums fail at it.  Tokens in turn reduce to the value of their tree, if all values read
(`reduce_inTurn_iff`).  Since they have no other tree, the reduction is the value of a tree with its
tiers in order, and it fails for no other reasons than these (`reduce_eq_tree`).
-/

namespace Tapeline

namespace Measure

/-! ## Positions of tokens in turn -/

/-- Values stand at the even positions and operators at the odd ones. -/
theorem getElem?_inTurn (links : List (Operator × Text)) : ∀ (first : Text) (n : Nat),
    (inTurn first links)[2 * n]? = (valuesInTurn first links)[n]? ∧
      (inTurn first links)[2 * n + 1]? = links[n]?.map fun link => [link.1.sign] := by
  induction links with
  | nil =>
      intro first n
      cases n with
      | zero => exact ⟨rfl, rfl⟩
      | succ n => exact ⟨rfl, rfl⟩
  | cons link links ih =>
      obtain ⟨op, next⟩ := link
      intro first n
      rw [inTurn_cons]
      cases n with
      | zero => exact ⟨rfl, rfl⟩
      | succ n => exact ih next n

/-- An operator is written as its sign alone. -/
theorem operator?_eq_some_iff {t : Text} {op : Operator} :
    operator? t = some op ↔ t = [op.sign] := by
  constructor
  · intro h
    unfold operator? at h
    split at h
    · rw [Operator.sign_of_ofSign? h]
    · cases h
  · rintro rfl
    exact operator?_sign op

/-- The tokens of operators. -/
theorem mem_signs_iff {t : Text} :
    t ∈ [['+'], ['-'], ['*'], ['/']] ↔ ∃ op : Operator, t = [op.sign] := by
  constructor
  · intro h
    simp only [List.mem_cons, List.not_mem_nil, or_false] at h
    rcases h with rfl | rfl | rfl | rfl
    · exact ⟨.plus, rfl⟩
    · exact ⟨.minus, rfl⟩
    · exact ⟨.times, rfl⟩
    · exact ⟨.dividedBy, rfl⟩
  · rintro ⟨op, rfl⟩
    cases op <;> decide

/-- The four signs alone are operators. -/
theorem operator?_eq_none_iff {t : Text} :
    operator? t = none ↔ t ∉ [['+'], ['-'], ['*'], ['/']] := by
  simp only [mem_signs_iff, Option.eq_none_iff_forall_ne_some, ne_eq, operator?_eq_some_iff,
    not_exists]

/-! ## Tokens out of turn -/

/-- There is no token, one is left over, or one in the place of an operator is none. -/
def OutOfTurn (ts : List Text) : Prop :=
  ts = [] ∨ ts.length % 2 = 0 ∨
    ∃ n token, ts[2 * n + 1]? = some token ∧ token ∉ [['+'], ['-'], ['*'], ['/']]

/-- An odd number of tokens with operators in their places stands in turn. -/
theorem exists_inTurn : ∀ ts : List Text, ts.length % 2 = 1 →
    (∀ n token, ts[2 * n + 1]? = some token → ∃ op, operator? token = some op) →
    ∃ first links, ts = inTurn first links
  | [], hodd, _ => absurd hodd (by decide)
  | [first], _, _ => ⟨first, [], rfl⟩
  | first :: token :: rest, hodd, hops => by
      obtain ⟨op, hop⟩ := hops 0 token rfl
      obtain rfl := operator?_eq_some_iff.mp hop
      have hrest : rest.length % 2 = 1 := by
        simp only [List.length_cons] at hodd
        omega
      obtain ⟨next, links, rfl⟩ := exists_inTurn rest hrest fun n => hops (n + 1)
      exact ⟨first, (op, next) :: links, rfl⟩

/-- **Tokens stand in turn, or they are out of turn.** -/
theorem outOfTurn_iff {ts : List Text} :
    OutOfTurn ts ↔ ¬ ∃ first links, ts = inTurn first links := by
  constructor
  · rintro hout ⟨first, links, rfl⟩
    rcases hout with hnil | heven | ⟨n, token, htoken, hstray⟩
    · cases hnil
    · rw [length_inTurn] at heven
      omega
    · rw [(getElem?_inTurn links first n).2] at htoken
      obtain ⟨link, _, rfl⟩ := Option.map_eq_some_iff.mp htoken
      rw [← operator?_eq_none_iff, operator?_sign] at hstray
      cases hstray
  · intro hturns
    by_contra hout
    simp only [OutOfTurn, not_or, not_exists, not_and, ← operator?_eq_none_iff] at hout
    obtain ⟨_, hodd, hops⟩ := hout
    refine hturns (exists_inTurn ts (by omega) fun n token htoken => ?_)
    exact Option.ne_none_iff_exists'.mp (hops n token htoken)

/-! ## A stray token on its way -/

section Stray

variable {token : Text}

/-- A token in the place of an operator is paired with a value. -/
theorem mem_of_pairLinks : ∀ {ts : List Text} {pairs : List (Text × Text)} {n : Nat},
    pairLinks ts = .ok pairs → ts[2 * n]? = some token → ∃ value, (token, value) ∈ pairs
  | [], _, n, _, htoken => by simp at htoken
  | [_], _, _, hpairs, _ => nomatch hpairs
  | op :: value :: rest, pairs, n, hpairs, htoken => by
      cases hrest : pairLinks rest with
      | error error => simp [pairLinks, hrest, bind, Except.bind] at hpairs
      | ok more =>
          simp only [pairLinks, hrest, bind, Except.bind, pure, Except.pure] at hpairs
          cases hpairs
          cases n with
          | zero =>
              cases htoken
              exact ⟨value, List.mem_cons_self⟩
          | succ n =>
              obtain ⟨next, hmem⟩ := mem_of_pairLinks hrest (n := n) htoken
              exact ⟨next, List.mem_cons_of_mem _ hmem⟩

/-- Reading the values leaves the operators as they are. -/
theorem mem_of_readLinks {value : Text} : ∀ {pairs : List (Text × Text)}
    {links : List (Text × Binary64)}, readLinks pairs = .ok links → (token, value) ∈ pairs →
    ∃ x, (token, x) ∈ links
  | [], _, _, hmem => nomatch hmem
  | (op, next) :: rest, links, hlinks, hmem => by
      cases hnext : readValue next with
      | error error => simp [readLinks, hnext, bind, Except.bind] at hlinks
      | ok x =>
          cases hrest : readLinks rest with
          | error error => simp [readLinks, hnext, hrest, bind, Except.bind] at hlinks
          | ok more =>
              simp only [readLinks, hnext, hrest, bind, Except.bind, pure, Except.pure] at hlinks
              cases hlinks
              rcases List.mem_cons.mp hmem with heq | hmem
              · cases heq
                exact ⟨x, List.mem_cons_self⟩
              · obtain ⟨y, hy⟩ := mem_of_readLinks hrest hmem
                exact ⟨y, List.mem_cons_of_mem _ hy⟩

/-- Taking the products leaves what is not an operator. -/
theorem mem_takeProducts (hstray : operator? token = none) {x : Binary64} :
    ∀ (links : List (Text × Binary64)) (term : Binary64), (token, x) ∈ links →
      ∃ y, (token, y) ∈ (takeProducts term links).2
  | [], _, hmem => nomatch hmem
  | (op, value) :: rest, term, hmem => by
      have hrest : ∀ next, op ≠ token → ∃ y, (token, y) ∈ (takeProducts next rest).2 := by
        intro next hne
        rcases List.mem_cons.mp hmem with heq | hmem
        · cases heq
          exact absurd rfl hne
        · exact mem_takeProducts hstray rest next hmem
      by_cases heq : op = token
      · subst heq
        refine ⟨(takeProducts value rest).1, ?_⟩
        simp only [takeProducts, hstray]
        exact List.mem_cons_self
      · unfold takeProducts
        split
        · exact hrest _ heq
        · exact hrest _ heq
        · obtain ⟨y, hy⟩ := hrest value heq
          exact ⟨y, List.mem_cons_of_mem _ hy⟩

/-- Taking the sums fails where there is no operator. -/
theorem takeSums_stray (hstray : operator? token = none) {x : Binary64} :
    ∀ (links : List (Text × Binary64)) (sum : Binary64), (token, x) ∈ links →
      ∃ error, takeSums sum links = .error error
  | [], _, hmem => nomatch hmem
  | (op, value) :: rest, sum, hmem => by
      rcases List.mem_cons.mp hmem with heq | hmem
      · cases heq
        exact ⟨.unknownOperator token, by simp only [takeSums, hstray]⟩
      · unfold takeSums
        split
        · exact takeSums_stray hstray rest _ hmem
        · exact takeSums_stray hstray rest _ hmem
        · exact ⟨_, rfl⟩

/-- **A stray token in the place of an operator makes the reduction fail.** -/
theorem reduce_stray {ts : List Text} {n : Nat} (htoken : ts[2 * n + 1]? = some token)
    (hstray : operator? token = none) : ∃ error, reduce ts = .error error := by
  cases ts with
  | nil => simp at htoken
  | cons first rest =>
      rw [reduce]
      cases hpairs : pairLinks rest with
      | error error => exact ⟨error, rfl⟩
      | ok pairs =>
          cases hfirst : readValue first with
          | error error => exact ⟨error, rfl⟩
          | ok x =>
              cases hlinks : readLinks pairs with
              | error error =>
                  exact ⟨error, by simp only [hlinks, bind, Except.bind]⟩
              | ok links =>
                  obtain ⟨value, hvalue⟩ := mem_of_pairLinks hpairs htoken
                  obtain ⟨y, hy⟩ := mem_of_readLinks hlinks hvalue
                  obtain ⟨z, hz⟩ := mem_takeProducts hstray links x hy
                  simp only [hlinks, bind, Except.bind]
                  exact takeSums_stray hstray _ _ hz

end Stray

/-- **Tokens out of turn do not reduce.** -/
theorem reduce_outOfTurn {ts : List Text} (h : OutOfTurn ts) :
    ∃ error, reduce ts = .error error := by
  rcases h with rfl | heven | ⟨n, token, htoken, hstray⟩
  · exact ⟨.noTokens, rfl⟩
  · by_cases hnil : ts = []
    · exact ⟨.noTokens, by rw [hnil, reduce]⟩
    · obtain ⟨token, _, herror⟩ := reduce_even hnil heven
      exact ⟨_, herror⟩
  · exact reduce_stray htoken (operator?_eq_none_iff.mpr hstray)

/-! ## The value of the tree -/

section InTurn

variable {first : Text} {links : List (Operator × Text)}

/-- **Tokens in turn reduce to the value of their tree.** -/
theorem reduce_inTurn_iff {x : Binary64} :
    reduce (inTurn first links) = .ok x ↔ (ofTurns first links).evaluate = .ok x := by
  rcases unreadable_or_read (valuesInTurn first links) with hunreadable | hread
  · obtain ⟨error, hreduce⟩ := reduce_inTurn_unreadable hunreadable
    rw [← leaves_ofTurns] at hunreadable
    obtain ⟨error', hevaluate⟩ := (ValueTree.evaluate_error_iff _).mpr hunreadable
    simp [hreduce, hevaluate]
  · rw [reduce_inTurn valueOf hread, evaluate_ofTurns valueOf hread, Except.ok.injEq,
      Except.ok.injEq]

/-- Tokens in turn fail to reduce just if a value does not read. -/
theorem reduce_inTurn_error_iff :
    (∃ error, reduce (inTurn first links) = .error error) ↔
      ∃ t ∈ valuesInTurn first links, ∃ error, quantity t = .error error := by
  constructor
  · rintro ⟨error, herror⟩
    rcases unreadable_or_read (valuesInTurn first links) with hunreadable | hread
    · exact hunreadable
    · rw [reduce_inTurn valueOf hread] at herror
      cases herror
  · intro h
    obtain ⟨error, herror⟩ := reduce_inTurn_unreadable h
    exact ⟨_, herror⟩

end InTurn

/-- **Tokens reduce to the value of a tree.**  Products bind tighter than sums in it, both associate
to the left, and its leaves are the tokens at even positions.  There is no other such tree of these
tokens.  The reduction fails just if there are no tokens, if their number is even, if a token at an
odd position is not an operator, or if one at an even position does not read. -/
theorem reduce_eq_tree (ts : List Text) :
    (∀ x, reduce ts = .ok x ↔
      ∃ t, IsTreeOf ts t ∧ (∀ t', IsTreeOf ts t' → t' = t) ∧
        (∀ n, t.leaves[n]? = ts[2 * n]?) ∧ t.evaluate = .ok x) ∧
    ((∃ error, reduce ts = .error error) ↔
      ts = [] ∨ ts.length % 2 = 0 ∨
      (∃ n token, ts[2 * n + 1]? = some token ∧ token ∉ [['+'], ['-'], ['*'], ['/']]) ∨
      (∃ n token, ts[2 * n]? = some token ∧ ∃ error, quantity token = .error error)) := by
  by_cases hout : OutOfTurn ts
  · obtain ⟨error, herror⟩ := reduce_outOfTurn hout
    refine ⟨fun x => ⟨fun hvalue => ?_, ?_⟩, fun _ => ?_, fun _ => ⟨error, herror⟩⟩
    · rw [herror] at hvalue
      cases hvalue
    · rintro ⟨t, htree, _⟩
      exact absurd htree.exists_turns (outOfTurn_iff.mp hout)
    · rcases hout with hnil | heven | hstray
      · exact Or.inl hnil
      · exact Or.inr (Or.inl heven)
      · exact Or.inr (Or.inr (Or.inl hstray))
  · obtain ⟨first, links, rfl⟩ := not_not.mp (mt outOfTurn_iff.mpr hout)
    have hleaves : ∀ n, (ofTurns first links).leaves[n]? = (inTurn first links)[2 * n]? := by
      intro n
      rw [leaves_ofTurns, (getElem?_inTurn links first n).1]
    have hunreadable : (∃ n token, (inTurn first links)[2 * n]? = some token ∧
        ∃ error, quantity token = .error error) ↔
          ∃ t ∈ valuesInTurn first links, ∃ error, quantity t = .error error := by
      simp only [(getElem?_inTurn links first _).1, List.mem_iff_getElem?]
      exact ⟨fun ⟨n, t, ht, h⟩ => ⟨t, ⟨n, ht⟩, h⟩, fun ⟨t, ⟨n, ht⟩, h⟩ => ⟨n, t, ht, h⟩⟩
    refine ⟨fun x => ?_, ?_⟩
    · rw [reduce_inTurn_iff]
      constructor
      · intro hvalue
        exact ⟨ofTurns first links, isTreeOf_ofTurns first links,
          fun t' htree => htree.eq_ofTurns, hleaves, hvalue⟩
      · rintro ⟨t, htree, _, _, hvalue⟩
        rwa [htree.eq_ofTurns] at hvalue
    · rw [reduce_inTurn_error_iff, ← hunreadable]
      constructor
      · exact fun h => Or.inr (Or.inr (Or.inr h))
      · rintro (hnil | heven | hstray | h)
        · exact absurd (Or.inl hnil) hout
        · exact absurd (Or.inr (Or.inl heven)) hout
        · exact absurd (Or.inr (Or.inr hstray)) hout
        · exact h

end Measure

end Tapeline
