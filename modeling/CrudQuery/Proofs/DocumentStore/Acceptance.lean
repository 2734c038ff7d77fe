import CrudQuery.Proofs.DocumentStore.Truth
import CrudQuery.Proofs.Sql.Acceptance

/-! # When a query has a command

A document store asks less of a query than tables do: its names may be any texts, and no value is
bound under a name.  What is left is the structure of the query, its page bounds, the absence of
clauses that only tables have, a known operation, and a test for every condition that chooses what
the query is about (`Renderable`).  How disjunctions are read plays no part in it.
-/

namespace CrudQuery.DocumentStore

/-- A condition that has a test: its operator is known, and its value is what the operator asks
for. -/
structure HasTest (condition : Condition) : Prop where
  known : ∀ name, condition.operator ≠ .other name
  members : condition.operator ∈ [.memberOf, .notMemberOf] →
    ∃ items, condition.value = .list items
  pattern : condition.operator ∈ [.like, .regex] → ∃ text, condition.value = .text text
  bounds : condition.operator = .between → ∃ low high, condition.value = .list [low, high]

/-- Everything that a document store asks of a query. -/
structure Renderable (query : Query) : Prop where
  valid : query.violation? = none
  pages : query.NaturalPages
  joins : query.joins = []
  grouping : query.grouping = []
  having : query.having = []
  operation : query.operation ∈ Sql.kinds
  tests : query.operation ≠ .insert → ∀ condition ∈ query.conditions, HasTest condition

/-- Whatever has a predicate has a test. -/
theorem hasTest_of_hasForm {condition : Condition} (h : Sql.HasForm condition) :
    HasTest condition := by
  refine ⟨fun name ho => ?_, h.members, h.pattern, h.bounds⟩
  have hsigned := h.signed
  rw [ho] at hsigned
  simp [Operator.signed] at hsigned

/-! ## Filters -/

theorem exists_testOf_iff {condition : Condition} :
    (∃ test, testOf condition = .ok test) ↔ HasTest condition := by
  unfold testOf
  cases ho : condition.operator
  case equal | notEqual | greater | greaterOrEqual | less | lessOrEqual | isNull | isNotNull |
      isPresent =>
    refine ⟨fun _ => ⟨?_, ?_, ?_, ?_⟩, fun _ => ⟨_, rfl⟩⟩ <;> rw [ho] <;> simp
  case like | regex =>
    constructor
    · rintro ⟨test, h⟩
      obtain ⟨text, htext, -⟩ := Except.bind_eq_ok.mp h
      refine ⟨?_, ?_, fun _ => ⟨text, Sql.text_of_pattern htext⟩, ?_⟩ <;> rw [ho] <;> simp
    · intro h
      obtain ⟨text, htext⟩ := h.pattern (by simp [ho])
      exact ⟨_, Except.bind_eq_ok.mpr ⟨text, Sql.pattern_eq_ok htext, rfl⟩⟩
  case memberOf | notMemberOf =>
    constructor
    · rintro ⟨test, h⟩
      obtain ⟨items, hitems, -⟩ := Except.bind_eq_ok.mp h
      refine ⟨?_, fun _ => ⟨items, Sql.items_of_members hitems⟩, ?_, ?_⟩ <;> rw [ho] <;> simp
    · intro h
      obtain ⟨items, hitems⟩ := h.members (by simp [ho])
      exact ⟨_, Except.bind_eq_ok.mpr ⟨items, Sql.members_eq_ok hitems, rfl⟩⟩
  case between =>
    constructor
    · rintro ⟨test, h⟩
      obtain ⟨⟨low, high⟩, hbounds, -⟩ := Except.bind_eq_ok.mp h
      refine ⟨?_, ?_, ?_, fun _ => ⟨low, high, Sql.pair_of_bounds hbounds⟩⟩ <;> rw [ho] <;> simp
    · intro h
      obtain ⟨low, high, hvalue⟩ := h.bounds ho
      exact ⟨_, Except.bind_eq_ok.mpr ⟨(low, high), Sql.bounds_eq_ok hvalue, rfl⟩⟩
  case other name =>
    constructor
    · rintro ⟨test, h⟩
      cases h
    · intro h
      exact absurd ho (h.known name)

theorem exists_fieldTests_iff {conditions : List Condition} :
    (∃ tests, conditions.mapM fieldTest = .ok tests) ↔
      ∀ condition ∈ conditions, HasTest condition := by
  rw [Except.exists_mapM_eq_ok]
  refine forall₂_congr fun condition _ => ?_
  rw [← exists_testOf_iff]
  simp only [fieldTest_eq_ok, Prod.exists, exists_and_left, exists_eq_left]

theorem exists_conjunction_iff {conditions : List Condition} :
    (∃ filter, conjunction conditions = .ok filter) ↔
      ∀ condition ∈ conditions, HasTest condition := by
  rw [← exists_fieldTests_iff]
  constructor
  · rintro ⟨filter, h⟩
    obtain ⟨tests, htests, -⟩ := Except.bind_eq_ok.mp h
    exact ⟨tests, htests⟩
  · rintro ⟨tests, htests⟩
    unfold conjunction
    rw [htests]
    by_cases hfields : (conditions.map Condition.field).Nodup
    · exact ⟨_, if_pos hfields⟩
    · exact ⟨_, if_neg hfields⟩

/-- **A chain has a filter** iff each of its conditions has a test, however disjunctions are
read. -/
theorem exists_filterOf_iff (disjunction : Disjunction) {conditions : List Condition} :
    (∃ filter, (filterOf disjunction conditions).outcome = .ok filter) ↔
      ∀ condition ∈ conditions, HasTest condition := by
  have hwhole := flatten_groups conditions
  unfold filterOf
  split
  · next group hgroup =>
    rw [hgroup, List.flatten_singleton] at hwhole
    rw [← hwhole]
    exact exists_conjunction_iff
  · rw [← exists_fieldTests_iff]
    simp only [Traced.outcome_log_bind, Traced.outcome_ofExcept, Except.map_eq_ok]
    exact ⟨fun ⟨_, tests, htests, _⟩ => ⟨tests, htests⟩, fun ⟨tests, htests⟩ =>
      ⟨_, tests, htests, rfl⟩⟩
  · -- Each group has a filter of its own, and the groups make up the chain.
    have hgroups : (∃ filters, (groups conditions).mapM conjunction = .ok filters) ↔
        ∀ condition ∈ conditions, HasTest condition := by
      simp only [Except.exists_mapM_eq_ok, exists_conjunction_iff, ← List.forall_mem_flatten,
        hwhole]
    rw [← hgroups]
    simp only [Traced.outcome_ofExcept, Except.map_eq_ok]
    exact ⟨fun ⟨_, filters, hfilters, _⟩ => ⟨filters, hfilters⟩, fun ⟨filters, hfilters⟩ =>
      ⟨_, filters, hfilters, rfl⟩⟩

/-! ## Commands -/

/-- A query has a command iff its operation is known and, unless it stores rows, it has a filter. -/
theorem exists_commandOf_iff (disjunction : Disjunction) {query : Query} :
    (∃ command, (commandOf disjunction query).outcome = .ok command) ↔
      query.operation ∈ Sql.kinds ∧
        (query.operation ≠ .insert → ∀ condition ∈ query.conditions, HasTest condition) := by
  have hchoosing : ∀ made : Filter → Command,
      (∃ command, (filterOf disjunction query.conditions >>= fun filter =>
        pure (made filter) : Traced Command).outcome = .ok command) ↔
        ∀ condition ∈ query.conditions, HasTest condition := by
    intro made
    rw [← exists_filterOf_iff disjunction]
    constructor
    · rintro ⟨command, h⟩
      obtain ⟨filter, hfilter, -⟩ := Traced.outcome_bind_eq_ok.mp h
      exact ⟨filter, hfilter⟩
    · rintro ⟨filter, hfilter⟩
      exact ⟨made filter, Traced.outcome_bind_eq_ok.mpr ⟨filter, hfilter, rfl⟩⟩
  unfold commandOf
  cases ho : query.operation with
  | insert => simp [Sql.kinds]
  | other name => simp [Sql.kinds]
  | select | update | delete | count =>
    rw [hchoosing]
    simp [Sql.kinds]

/-- **A query renders** iff it meets every requirement. -/
theorem exists_render_iff (disjunction : Disjunction) {query : Query} :
    (∃ command, (render disjunction query).outcome = .ok command) ↔ Renderable query := by
  have hpages : query.NaturalPages ↔
      (∀ value, query.limit? = some value → Query.isPageBound value = true) ∧
        ∀ value, query.offset? = some value → Query.isPageBound value = true := by
    rw [← Query.requirePageBounds_eq_ok_iff_natural, Query.requirePageBounds_eq_ok]
  simp only [render_eq_ok, exists_and_left, exists_commandOf_iff]
  constructor
  · rintro ⟨ha, hoperation, htests⟩
    exact ⟨ha.valid, hpages.mpr ⟨ha.limit, ha.offset⟩, ha.joins, ha.grouping, ha.having, hoperation,
      htests⟩
  · intro h
    obtain ⟨hlimit, hoffset⟩ := hpages.mp h.pages
    exact ⟨⟨h.valid, hlimit, hoffset, h.joins, h.grouping, h.having⟩, h.operation, h.tests⟩

/-- Whatever renders for tables and has none of the clauses that only they have renders for
documents too. -/
theorem renderable_of_sql {query : Query} (h : Sql.Renderable query) (hjoins : query.joins = [])
    (hgrouping : query.grouping = []) (hhaving : query.having = []) : Renderable query := by
  refine ⟨h.valid, h.pages, hjoins, hgrouping, hhaving, h.operation, ?_⟩
  intro hchooses condition hc
  -- Every operation but an insert writes its conditions.
  refine hasTest_of_hasForm (h.statement.conditions condition ?_)
  have hknown := h.operation
  unfold Query.writtenConditions
  cases ho : query.operation with
  | select => exact List.mem_append_left _ hc
  | update | delete | count => exact hc
  | insert => exact absurd ho hchooses
  | other name => simp [ho, Sql.kinds] at hknown

end CrudQuery.DocumentStore
