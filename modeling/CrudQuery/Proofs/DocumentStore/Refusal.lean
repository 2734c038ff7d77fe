import CrudQuery.Proofs.DocumentStore.Acceptance

/-! # Why a query has no command

A filter is made group by group, and a group is a map or a list; but a fault is always that of the
first condition of the chain that has no test (`filterOf_eq_error`), because the groups make up the
chain in its order.  So neither where a chain is cut nor how its disjunctions are read decides what
a query is refused for.
-/

namespace CrudQuery.DocumentStore

theorem fieldTest_eq_error {condition : Condition} {fault : Fault} :
    fieldTest condition = .error fault ↔ testOf condition = .error fault :=
  Except.bind_pure_eq_error

/-- Which form a group takes is decided when its tests are there. -/
theorem conjunction_eq_error {conditions : List Condition} {fault : Fault} :
    conjunction conditions = .error fault ↔ conditions.mapM fieldTest = .error fault := by
  unfold conjunction
  rw [Except.bind_eq_error, or_iff_left]
  rintro ⟨tests, -, h⟩
  split at h <;> cases h

/-- Groups that are made one after another fail like the chain they make up. -/
theorem mapM_conjunction_eq_error {several : List (List Condition)} {fault : Fault} :
    several.mapM conjunction = .error fault ↔
      several.flatten.mapM fieldTest = .error fault := by
  induction several with
  | nil => exact ⟨nofun, nofun⟩
  | cons group rest ih =>
    rw [List.mapM_cons, List.flatten_cons, Except.bind_eq_error, Except.mapM_append_eq_error,
      conjunction_eq_error, exists_fieldTests_iff, ← exists_conjunction_iff, ← ih]
    simp only [Except.bind_pure_eq_error, exists_and_right]

/-- **A chain has no filter** for the first of its conditions that has no test, however disjunctions
are read. -/
theorem filterOf_eq_error (disjunction : Disjunction) {conditions : List Condition}
    {fault : Fault} :
    (filterOf disjunction conditions).outcome = .error fault ↔
      conditions.mapM fieldTest = .error fault := by
  have hwhole := flatten_groups conditions
  unfold filterOf
  split
  · next group hgroup =>
    rw [hgroup, List.flatten_singleton] at hwhole
    rw [Traced.outcome_ofExcept, conjunction_eq_error, hwhole]
  · rw [Traced.outcome_log_bind, Traced.outcome_ofExcept, Except.map_eq_error]
  · rw [Traced.outcome_ofExcept, Except.map_eq_error, mapM_conjunction_eq_error, hwhole]

/-- A query that chooses has no command for want of a filter only. -/
theorem commandOf_eq_error (disjunction : Disjunction) {query : Query} {fault : Fault}
    (ho : query.operation ∈ choosing) :
    (commandOf disjunction query).outcome = .error fault ↔
      query.conditions.mapM fieldTest = .error fault := by
  have hmade : ∀ made : Filter → Command,
      (filterOf disjunction query.conditions >>= fun filter =>
        pure (made filter) : Traced Command).outcome = .error fault ↔
        query.conditions.mapM fieldTest = .error fault := by
    intro made
    rw [Traced.outcome_bind_pure_eq_error, filterOf_eq_error]
  simp only [choosing, List.mem_cons, List.not_mem_nil, or_false] at ho
  unfold commandOf
  rcases ho with ho | ho | ho | ho <;> rw [ho] <;> exact hmade _

/-- What an accepted query lacks for a command is the fault. -/
theorem render_eq_error_of_command {disjunction : Disjunction} {query : Query} {fault : Fault}
    (ha : Accepted query) (h : (commandOf disjunction query).outcome = .error fault) :
    (render disjunction query).outcome = .error fault := by
  unfold render
  rw [Traced.outcome_log_bind, Traced.outcome_check_bind_eq_error, Query.requireValid_eq_ok,
    Traced.outcome_check_bind_eq_error, Query.requirePageBounds_eq_ok,
    Traced.outcome_check_bind_eq_error, refuseRelationalClauses_eq_ok]
  exact .inr ⟨ha.valid, .inr ⟨⟨ha.limit, ha.offset⟩, .inr ⟨⟨ha.joins, ha.grouping, ha.having⟩,
    Traced.outcome_bind_eq_error.mpr (.inl h)⟩⟩⟩

/-! ## The family of a fault -/

/-- A fault of rendering is that of one step, after every step before it has passed. -/
theorem render_eq_error {disjunction : Disjunction} {query : Query} {fault : Fault}
    (h : (render disjunction query).outcome = .error fault) :
    query.requireValid.outcome = .error fault ∨
      query.requirePageBounds.outcome = .error fault ∨
      (refuseRelationalClauses query).outcome = .error fault ∨
      (commandOf disjunction query).outcome = .error fault := by
  unfold render at h
  rw [Traced.outcome_log_bind, Traced.outcome_check_bind_eq_error,
    Traced.outcome_check_bind_eq_error, Traced.outcome_check_bind_eq_error] at h
  rcases h with h | ⟨-, h | ⟨-, h | ⟨-, h⟩⟩⟩
  · exact .inl h
  · exact .inr (.inl h)
  · exact .inr (.inr (.inl h))
  · rcases Traced.outcome_bind_eq_error.mp h with h | ⟨command, -, h⟩
    · exact .inr (.inr (.inr h))
    · cases h

theorem failsWith_refuseRelationalClauses (query : Query) :
    (refuseRelationalClauses query).FailsWith (fun fault => fault.family = .rendering) := by
  have hclause : ∀ clause isAbsent, (refuseClause query.target clause isAbsent).FailsWith
      (fun fault => fault.family = .rendering) := by
    intro clause isAbsent
    unfold refuseClause
    split
    · exact Traced.failsWith_pure _
    · refine (Traced.failsWith_fail ?_).after_log _ _ _ _
      rfl
  exact (hclause _ _).bind fun _ => (hclause _ _).bind fun _ => hclause _ _

/-- What stands in the way of a test is the operand, or else the operator. -/
theorem testOf_eq_error {condition : Condition} {fault : Fault}
    (h : testOf condition = .error fault) :
    fault = .malformedPair condition.field ∨
      fault = .malformedList condition.operator condition.field ∨
      fault = .malformedPattern condition.operator condition.field ∨
      fault = .unsupportedOperator .documents condition.operator := by
  unfold testOf at h
  cases ho : condition.operator <;> rw [ho] at h
  case equal | notEqual | greater | greaterOrEqual | less | lessOrEqual | isNull | isNotNull |
      isPresent =>
    cases h
  case like | regex =>
    rw [Sql.pattern_eq_error (Except.bind_pure_eq_error.mp h), ho]
    exact .inr (.inr (.inl rfl))
  case memberOf | notMemberOf =>
    rw [Sql.members_eq_error (Except.bind_pure_eq_error.mp h), ho]
    exact .inr (.inl rfl)
  case between =>
    exact .inl (Sql.bounds_eq_error (Except.bind_pure_eq_error.mp h))
  case other name =>
    cases h
    exact .inr (.inr (.inr rfl))

theorem family_of_testOf_eq_error {condition : Condition} {fault : Fault}
    (h : testOf condition = .error fault) : fault.family = .rendering := by
  rcases testOf_eq_error h with rfl | rfl | rfl | rfl <;> rfl

/-- The faults of a filter are those of tests. -/
theorem failsWith_filterOf {kind : Fault → Prop}
    (h : ∀ condition fault, testOf condition = .error fault → kind fault)
    (disjunction : Disjunction) (conditions : List Condition) :
    (filterOf disjunction conditions).FailsWith kind := by
  intro fault hfault
  have hconditions :
      (conditions.mapM fun condition => Traced.ofExcept (fieldTest condition)).FailsWith kind :=
    (Traced.closed_failsWith _).mapM fun condition _ fault hfault =>
      h condition fault (fieldTest_eq_error.mp hfault)
  refine hconditions fault ?_
  rw [Traced.outcome_mapM]
  exact (filterOf_eq_error disjunction).mp hfault

theorem failsWith_commandOf (disjunction : Disjunction) (query : Query) :
    (commandOf disjunction query).FailsWith (fun fault => fault.family = .rendering) := by
  have hfilter : (filterOf disjunction query.conditions).FailsWith
      (fun fault => fault.family = .rendering) :=
    failsWith_filterOf (fun _ _ => family_of_testOf_eq_error) _ _
  unfold commandOf
  split
  case h_2 => exact Traced.failsWith_pure _
  case h_6 => exact Traced.failsWith_fail rfl
  all_goals exact hfilter.bind fun _ => Traced.failsWith_pure _

/-- A query that breaks no structural requirement is not refused for one. -/
theorem family_of_render_eq_error {disjunction : Disjunction} {query : Query} {fault : Fault}
    (hvalid : query.violation? = none) (h : (render disjunction query).outcome = .error fault) :
    fault.family ≠ .validation := by
  intro hfamily
  obtain ⟨violation, rfl⟩ := Fault.family_eq_validation_iff.mp hfamily
  rcases render_eq_error h with hstep | hstep | hstep | hstep
  · exact not_of_error Query.requireValid_eq_ok hstep hvalid
  · have hkind := Query.failsWith_requirePageBounds query _ hstep
    cases violation <;> simp [Fault.kind, Violation.kind] at hkind
  · cases failsWith_refuseRelationalClauses query _ hstep
  · cases failsWith_commandOf disjunction query _ hstep

end CrudQuery.DocumentStore
