import CrudQuery.Proofs.DocumentStore.Truth

/-! # Chains without disjunctions

Most chains have no disjunction.  Such a chain is one stretch and one group, so it is true iff all of
its predicates are, its filter is the same whatever is made of disjunctions, and the filter holds iff
all of its tests do.  No condition is lost on the way and none is weakened, also when several are
about one field.
-/

namespace CrudQuery

/-- No disjunction stands behind any of these conditions. -/
def Conjoined (conditions : List Condition) : Prop :=
  ∀ condition ∈ conditions, condition.connector.isOr = false

namespace Sql

/-- The tokens of links that ask for no disjunction are predicates and conjunctions. -/
theorem isOr_of_mem_tokens {α : Type} {links : List (α × Bool)} (h : ∀ link ∈ links, link.2 = false) :
    ∀ token ∈ tokens links, token.isOr = false := by
  induction links with
  | nil => simp [tokens]
  | cons link rest ih =>
    obtain ⟨hlink, hrest⟩ := List.forall_mem_cons.mp h
    cases rest with
    | nil => simp [tokens, Token.isOr]
    | cons next rest =>
      rw [tokens, List.forall_mem_cons, List.forall_mem_cons]
      exact ⟨rfl, by simp [hlink, Token.isOr], ih hrest⟩

/-- Nothing but a false predicate stands in the way of a stretch. -/
theorem all_holds_tokens (links : List (Bool × Bool)) :
    (tokens links).all Token.holds = links.all Prod.fst := by
  induction links with
  | nil => rfl
  | cons link rest ih =>
    cases rest with
    | nil => rfl
    | cons next rest =>
      rw [tokens, List.all_cons, List.all_cons, ih]
      cases link.2 <;> rfl

theorem reading_of_conjoined {links : List (Bool × Bool)} (h : ∀ link ∈ links, link.2 = false) :
    reading (tokens links) = links.all Prod.fst := by
  rw [reading, List.splitOnP_eq_singleton (isOr_of_mem_tokens h), ← all_holds_tokens]
  simp

/-- The tokens of conjoined conditions read as true iff each of the conditions is. -/
theorem reading_of_conjoined_conditions {conditions : List Condition} (hc : Conjoined conditions)
    (truth : Condition → Bool) :
    reading ((chainTokens conditions).map (Token.map truth)) = conditions.all truth := by
  have hlinks : ∀ link ∈ conditions.map fun condition =>
      (truth condition, condition.connector.isOr), link.2 = false :=
    List.forall_mem_map.mpr hc
  rw [map_chainTokens, reading_of_conjoined hlinks, List.all_map]
  rfl

end Sql

namespace DocumentStore

/-- Conjoined conditions are one group. -/
theorem groups_of_conjoined {conditions : List Condition} (h : Conjoined conditions) :
    groups conditions = [conditions] := by
  induction conditions with
  | nil => rfl
  | cons condition rest ih =>
    obtain ⟨hcondition, hrest⟩ := List.forall_mem_cons.mp h
    cases rest with
    | nil => rfl
    | cons next rest => rw [groups_cons_cons (ih hrest), hcondition, if_neg (by decide)]

/-- Without disjunctions it does not matter what would be made of them. -/
theorem filterOf_of_conjoined {conditions : List Condition} (h : Conjoined conditions)
    (disjunction : Disjunction) :
    filterOf disjunction conditions = Traced.ofExcept (conjunction conditions) := by
  unfold filterOf
  rw [groups_of_conjoined h]

/-- The filter of conjoined conditions holds iff each of their tests does. -/
theorem holds_of_conjoined {conditions : List Condition} {disjunction : Disjunction}
    {filter : Filter} (hc : Conjoined conditions)
    (hfields : ∀ condition ∈ conditions, IsFieldName condition.field)
    (h : (filterOf disjunction conditions).outcome = .ok filter) :
    ∃ tests, TestsFor conditions tests ∧ ∀ truth : String → Document → Bool,
      holds truth filter.document = tests.all fun test => truth test.1 test.2.document := by
  rw [filterOf_of_conjoined hc, Traced.outcome_ofExcept] at h
  obtain ⟨tests, htests⟩ := testsFor_conjunction h
  refine ⟨tests, htests, fun truth => ?_⟩
  rw [holds_conjunction truth hfields h, all_truthOf_of_testsFor truth htests]

end DocumentStore

end CrudQuery
