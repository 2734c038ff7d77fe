import CrudQuery.Proofs.DocumentStore.Refusal

/-! # Queries that go to both backends

Tables and documents are rendered by two walks that share the structural requirements, the page
bounds and the shapes of operands, and nothing else: tables check words, give every value a name and
take the conditions one by one as a chain, documents cut the chain into groups.  A query without the
clauses that only tables have is nevertheless treated alike (`render_portable`).  Whatever tables
take, documents take; and what documents take, tables refuse only for what documents do not ask:
the words, the columns of rows, the names of parameters, and a test for presence.

Operands need an argument of their own, because either walk may meet several that are malformed.
Both stop at the same one, since whatever has a predicate has a test (`hasTest_of_hasForm`) and an
operand that is malformed for one is so for the other (`predicateOf_eq_error`).
-/

namespace CrudQuery

/-- The kinds of fault of an operand that does not have the shape its operator asks for. -/
def shapeKinds : List String := ["MalformedBetween", "MalformedList", "MalformedPattern"]

/-- The kinds of fault that only tables have. -/
def tableKinds : List String := ["InvalidIdentifier", "MalformedRow", "DuplicateParameter"]

theorem not_mem_tableKinds : ∀ kind ∈ shapeKinds, kind ∉ tableKinds := by decide

/-- What tables make of a query and what documents make of it. -/
structure Portable {α β : Type} (tables : Except Fault α) (documents : Except Fault β) :
    Prop where
  /-- What tables take, documents take. -/
  toDocuments : (∃ rendered, tables = .ok rendered) → ∃ command, documents = .ok command
  /-- What documents take, tables take, or they refuse it for what documents do not ask. -/
  toTables : (∃ command, documents = .ok command) →
    (∃ rendered, tables = .ok rendered) ∨
      ∃ fault, tables = .error fault ∧
        (fault.kind ∈ tableKinds ∨ fault = .unsupportedOperator .sql .isPresent)
  /-- An operand that is malformed for tables is malformed for documents, and it is the same
  one: the fault is the same, and so are its kind, its message and its details. -/
  malformed : ∀ fault, tables = .error fault → fault.kind ∈ shapeKinds →
    documents = .error fault

section Conditions
variable {condition : Condition} {fault : Fault}

/-- A condition lacks a predicate because no sign is written for its operator, or because of its
operand, and then it lacks a test for the same fault. -/
theorem predicateOf_eq_error (h : (Sql.predicateOf condition).outcome = .error fault) :
    (condition.operator ∉ Operator.signed ∧
        fault = .unsupportedOperator .sql condition.operator) ∨
      DocumentStore.testOf condition = .error fault := by
  unfold Sql.predicateOf at h
  unfold DocumentStore.testOf
  cases ho : condition.operator <;> rw [ho] at h
  case equal | notEqual | greater | greaterOrEqual | less | lessOrEqual | isNull | isNotNull =>
    cases h
  case like | regex | memberOf | notMemberOf =>
    -- The operand is all that can be wrong.
    have hoperand := Traced.outcome_bind_pure_eq_error.mp h
    exact .inr (Except.bind_pure_eq_error.mpr hoperand)
  case between =>
    have hoperand := Traced.outcome_bind_pure_eq_error.mp h
    exact .inr (Except.bind_pure_eq_error.mpr hoperand)
  case isPresent | other =>
    cases h
    exact .inl ⟨by simp [Operator.signed], rfl⟩

/-- A condition that has a test lacks a predicate only if it tests for presence. -/
theorem predicateOf_eq_error_of_hasTest (ht : DocumentStore.HasTest condition)
    (h : (Sql.predicateOf condition).outcome = .error fault) :
    fault = .unsupportedOperator .sql .isPresent := by
  obtain ⟨test, htest⟩ := DocumentStore.exists_testOf_iff.mpr ht
  rcases predicateOf_eq_error h with ⟨hsign, rfl⟩ | hoperand
  · cases ho : condition.operator
    case isPresent => rfl
    case other name => exact absurd ho (ht.known name)
    all_goals exact absurd (by simp [ho, Operator.signed]) hsign
  · rw [htest] at hoperand
    cases hoperand

end Conditions

section Queries
variable {query : Query} {fault : Fault}

/-- A query without conditions on groups writes its conditions, if it chooses at all. -/
theorem writtenConditions_cases (hhaving : query.having = []) :
    (query.operation ∈ DocumentStore.choosing ∧ query.writtenConditions = query.conditions) ∨
      query.writtenConditions = [] := by
  unfold Query.writtenConditions
  cases query.operation with
  | select => exact .inl ⟨by decide, by rw [hhaving, List.append_nil]⟩
  | update | delete | count => exact .inl ⟨by decide, rfl⟩
  | insert | other => exact .inr rfl

/-- Names and rows are what tables refuse a query for and documents do not look at. -/
theorem kind_mem_tableKinds
    (h : Sql.NameFault (Sql.boundNames query) fault ∨
      (query.operation = .insert ∧ Sql.RowFault query fault)) : fault.kind ∈ tableKinds := by
  rcases h with ⟨⟨name, rfl⟩, -⟩ | ⟨-, hrow⟩
  · simp [Fault.kind, tableKinds]
  · simp [hrow.kind, tableKinds]

/-- Conditions of which the first that has no predicate has a malformed operand lack a filter for
the same fault. -/
theorem fieldTests_eq_error {conditions : List Condition}
    (h : (conditions.mapM Sql.predicateOf).outcome = .error fault)
    (hkind : fault.kind ∈ shapeKinds) :
    conditions.mapM DocumentStore.fieldTest = .error fault := by
  rw [Traced.outcome_mapM] at h
  refine Except.mapM_eq_error_of_imp (fun condition predicate hp => ?_) (fun condition hp => ?_) h
  · have hform := Sql.exists_predicateOf_iff.mp ⟨predicate, hp⟩
    obtain ⟨test, htest⟩ :=
      DocumentStore.exists_testOf_iff.mpr (DocumentStore.hasTest_of_hasForm hform)
    exact ⟨(condition.field, test), DocumentStore.fieldTest_eq_ok.mpr ⟨rfl, htest⟩⟩
  · rcases predicateOf_eq_error hp with ⟨-, rfl⟩ | htest
    · simp [Fault.kind, shapeKinds] at hkind
    · exact DocumentStore.fieldTest_eq_error.mpr htest

/-- What documents take, tables refuse only for what documents do not ask. -/
theorem tableFault_of_renderable {quoting : Sql.Quoting} (hd : DocumentStore.Renderable query)
    (h : (Sql.render quoting query).outcome = .error fault) :
    fault.kind ∈ tableKinds ∨ fault = .unsupportedOperator .sql .isPresent := by
  rcases Sql.render_eq_error h with hstep | ⟨-, hstep⟩ | ⟨-, -, hstep⟩ | ⟨-, hstep⟩
  · exact absurd hd.valid (not_of_error Query.requireValid_eq_ok hstep)
  · exact absurd hd.pages (not_of_error Query.requirePageBounds_eq_ok_iff_natural hstep)
  · have hkind := Sql.failsWith_checkWords query fault hstep
    exact .inl (by simp [hkind, tableKinds])
  · refine (or_assoc.mpr (Sql.statementOf_eq_error hd.operation hstep)).imp kind_mem_tableKinds
      fun hwritten => ?_
    have htests : ∀ condition ∈ query.writtenConditions, DocumentStore.HasTest condition := by
      rcases writtenConditions_cases hd.having with ⟨ho, hc⟩ | hc <;> rw [hc]
      · exact hd.tests fun hi => by simp [hi, DocumentStore.choosing] at ho
      · simp
    have hpresent : (query.writtenConditions.mapM Sql.predicateOf).FailsWith
        (fun fault => fault = .unsupportedOperator .sql .isPresent) :=
      (Traced.closed_failsWith _).mapM fun condition hc _ =>
        predicateOf_eq_error_of_hasTest (htests condition hc)
    exact hpresent fault hwritten

/-- A malformed operand that tables refuse a query for is what documents refuse it for. -/
theorem documents_eq_error_of_malformed {quoting : Sql.Quoting}
    (disjunction : DocumentStore.Disjunction) (hjoins : query.joins = [])
    (hgrouping : query.grouping = []) (hhaving : query.having = [])
    (h : (Sql.render quoting query).outcome = .error fault) (hkind : fault.kind ∈ shapeKinds) :
    (DocumentStore.render disjunction query).outcome = .error fault := by
  rcases Sql.render_eq_error h with hstep | ⟨-, hstep⟩ | ⟨-, -, hstep⟩ | ⟨ha, hstep⟩
  · obtain ⟨violation, -, rfl⟩ := Query.requireValid_eq_error.mp hstep
    cases violation <;> simp [Fault.kind, Violation.kind, shapeKinds] at hkind
  · simp [Query.failsWith_requirePageBounds query fault hstep, shapeKinds] at hkind
  · simp [Sql.failsWith_checkWords query fault hstep, shapeKinds] at hkind
  · by_cases hknown : query.operation ∈ Sql.kinds
    · rcases or_assoc.mpr (Sql.statementOf_eq_error hknown hstep) with hbinding | hwritten
      · exact absurd (kind_mem_tableKinds hbinding) (not_mem_tableKinds fault.kind hkind)
      rcases writtenConditions_cases hhaving with ⟨ho, hc⟩ | hc <;> rw [hc] at hwritten
      · have htests := fieldTests_eq_error hwritten hkind
        exact DocumentStore.render_eq_error_of_command
          ⟨ha.valid, ha.limit, ha.offset, hjoins, hgrouping, hhaving⟩
          ((DocumentStore.commandOf_eq_error disjunction ho).mpr htests)
      · cases hwritten
    · rw [Sql.statementOf_of_unknown hknown] at hstep
      cases hstep
      simp [Fault.kind, shapeKinds] at hkind

/-- **Both backends treat a query alike** that has none of the clauses that only tables have, in
whatever dialect its statement is written and however its disjunctions are read. -/
theorem render_portable (quoting : Sql.Quoting) (disjunction : DocumentStore.Disjunction)
    (hjoins : query.joins = []) (hgrouping : query.grouping = []) (hhaving : query.having = []) :
    Portable (Sql.render quoting query).outcome
      (DocumentStore.render disjunction query).outcome where
  toDocuments hs :=
    (DocumentStore.exists_render_iff disjunction).mpr <|
      DocumentStore.renderable_of_sql ((Sql.exists_render_iff quoting).mp hs) hjoins hgrouping
        hhaving
  toTables hd := by
    cases h : (Sql.render quoting query).outcome with
    | ok rendered => exact .inl ⟨rendered, rfl⟩
    | error fault =>
      have hdocuments := (DocumentStore.exists_render_iff disjunction).mp hd
      exact .inr ⟨fault, rfl, tableFault_of_renderable hdocuments h⟩
  malformed fault h hkind :=
    documents_eq_error_of_malformed disjunction hjoins hgrouping hhaving h hkind

/-- A test for presence is taken by documents only. -/
theorem render_portable_present :
    let query : Query := { Query.blank .count "users" with
      conditions := [⟨"left", .isPresent, .null, .or, "left"⟩,
        ⟨"age", .between, .list [.text "20", .text "30"], .and, "age"⟩] }
    Portable (Sql.render .doubleQuoted query).outcome
        (DocumentStore.render .precedence query).outcome ∧
      (∃ command, (DocumentStore.render .precedence query).outcome = .ok command) ∧
      ∃ fault, (Sql.render .doubleQuoted query).outcome = .error fault ∧
        (fault.kind ∈ tableKinds ∨ fault = .unsupportedOperator .sql .isPresent) := by
  intro query
  have hportable := @render_portable query .doubleQuoted .precedence rfl rfl rfl
  have hd := Except.exists_of_isOk
    (show (DocumentStore.render .precedence query).outcome.isOk = true by decide +kernel)
  refine ⟨hportable, hd, (hportable.toTables hd).resolve_left ?_⟩
  rintro ⟨rendered, hs⟩
  have hrefused : (Sql.render .doubleQuoted query).outcome.isOk = false := by decide +kernel
  rw [hs] at hrefused
  cases hrefused

end Queries

end CrudQuery
