import CrudQuery.Proofs.Catalog.Composition
import CrudQuery.Proofs.Conjunction

/-! # What guards a default query

Every default query but the one that creates a record is kept to the records of one tenant, to those
not marked as deleted and, if it is about one record, to the one with its identifier.  `guards` reads
these conditions off the entity alone: off the names and tags of its fields, without a word about
resolved fields or calls.  They are the whole chain of the query, and nothing but conjunctions stands
between them, so on both sides a record is chosen only if every guard lets it through.
-/

namespace CrudQuery.Catalog

/-- The verbs that are about the record with a given identifier. -/
def Verb.single : List Verb := [get, update, delete]

/-- The conditions that guard a query, in order. -/
def guards (entity : Entity) (verb : Verb) : List Condition :=
  entity.tenantColumns.map (fun column => ⟨column, .equal, .null, .and, "tenant_id"⟩) ++
    (if entity.hasField "deleted_at" then [⟨"deleted_at", .isNull, .null, .and, "deleted_at"⟩]
      else []) ++
    if verb ∈ Verb.single then [⟨"id", .equal, .null, .and, "id"⟩] else []

theorem mem_guards {entity : Entity} {verb : Verb} {condition : Condition} :
    condition ∈ guards entity verb ↔
      ((∃ column ∈ entity.tenantColumns, ⟨column, .equal, .null, .and, "tenant_id"⟩ = condition) ∨
        (entity.hasField "deleted_at" = true ∧
          condition = ⟨"deleted_at", .isNull, .null, .and, "deleted_at"⟩)) ∨
      (verb ∈ Verb.single ∧ condition = ⟨"id", .equal, .null, .and, "id"⟩) := by
  simp only [guards, List.mem_append, List.mem_map, List.mem_ite_nil_right, List.mem_singleton]

theorem conjoined_guards (entity : Entity) (verb : Verb) : Conjoined (guards entity verb) := by
  intro condition h
  obtain (⟨column, -, rfl⟩ | ⟨-, rfl⟩) | ⟨-, rfl⟩ := mem_guards.mp h <;> rfl

/-- Reading many records and counting them is guarded alike. -/
theorem guards_list_eq_count (entity : Entity) : guards entity .list = guards entity .count := rfl

theorem isFieldName_of_mem_guards {entity : Entity} {verb : Verb} {condition : Condition}
    (htenant : ∀ column ∈ entity.tenantColumns, DocumentStore.IsFieldName column)
    (h : condition ∈ guards entity verb) : DocumentStore.IsFieldName condition.field := by
  obtain (⟨column, hcolumn, rfl⟩ | ⟨-, rfl⟩) | ⟨-, rfl⟩ := mem_guards.mp h
  · exact htenant column hcolumn
  · exact show DocumentStore.IsFieldName "deleted_at" by decide +kernel
  · exact show DocumentStore.IsFieldName "id" by decide +kernel

theorem isById_iff (verb : Verb) : verb.isById = true ↔ verb ∈ Verb.single := by
  cases verb <;> decide

/-- The conditions that the calls of a verb bring are its guards. -/
theorem guardConditions_eq_guards {entity : Entity} {fields : List Resolved} {verb : Verb}
    (hv : verb ≠ .create) (hf : tenantColumns fields = entity.tenantColumns) :
    guardConditions entity fields verb = guards entity verb := by
  rw [guardConditions, if_neg hv, hf, guards]
  simp only [isById_iff]
  rfl

/-! ## Queries -/

theorem conditions_defaultQuery {entity : Entity} {verb : Verb} {query : Query}
    (hv : verb ≠ .create) (h : (defaultQuery entity verb).outcome = .ok query) :
    query.conditions = guards entity verb := by
  obtain ⟨fields, hfields, -, -, rfl⟩ := defaultQuery_eq_ok.mp h
  rw [conditions_draftOf, guardConditions_eq_guards hv (tenantColumns_of_resolve hfields)]

/-- Every default query but the one that creates a record chooses what it is about. -/
theorem operation_defaultQuery {entity : Entity} {verb : Verb} {query : Query}
    (hv : verb ≠ .create) (h : (defaultQuery entity verb).outcome = .ok query) :
    query.operation ∈ DocumentStore.choosing := by
  obtain ⟨fields, -, -, -, rfl⟩ := defaultQuery_eq_ok.mp h
  rw [operation_draftOf]
  cases verb with
  | create => exact absurd rfl hv
  | delete => rw [operationOf]; split <;> decide
  | _ => simp [operationOf, DocumentStore.choosing]

/-- A query is kept to the records that its guards let through. -/
structure Guarded (entity : Entity) (verb : Verb) (query : Query) : Prop where
  /-- One column at most holds the tenant. -/
  tenant : entity.tenantColumns.length ≤ 1
  /-- The guards are all conditions of the query, in order. -/
  conditions : query.conditions = guards entity verb
  /-- The text has the tokens of the guards behind `WHERE`, or no such clause if there is no guard;
  and whatever is true of conditions, what is written reads as true iff every guard is. -/
  statement : ∀ quoting rendered, (Sql.render quoting query).outcome = .ok rendered →
    rendered.text =
      Sql.leadText quoting query ++
        Sql.chainText quoting " WHERE " (Sql.chainTokens (guards entity verb)) ++
        Sql.tailText quoting query ∧
    ∀ truth : Condition → Bool,
      Sql.reading ((Sql.chainTokens (guards entity verb)).map (Sql.Token.map truth)) =
        (guards entity verb).all truth
  /-- Whatever is true of a field and what it is tested for, the filter of the command holds iff the
  test of every guard does. -/
  command : (∀ column ∈ entity.tenantColumns, DocumentStore.IsFieldName column) →
    ∀ disjunction command, (DocumentStore.render disjunction query).outcome = .ok command →
      ∃ (filter : Document) (tests : List (String × DocumentStore.Test)),
        command.arguments.lookup "filter" = some filter ∧
        DocumentStore.TestsFor (guards entity verb) tests ∧
        ∀ truth : String → Document → Bool,
          DocumentStore.holds truth filter = tests.all fun test => truth test.1 test.2.document

/-- **Default queries are guarded**, all but the one that creates a record; and those that list and
count records choose the same ones. -/
theorem defaultQuery_guarded {entity : Entity} {verb : Verb} {query : Query}
    (hv : verb ≠ .create) (h : (defaultQuery entity verb).outcome = .ok query) :
    Guarded entity verb query ∧
      ∀ listed counted, (defaultQuery entity .list).outcome = .ok listed →
        (defaultQuery entity .count).outcome = .ok counted →
        listed.conditions = counted.conditions := by
  have hconditions := conditions_defaultQuery hv h
  have hchoosing := operation_defaultQuery hv h
  have hconjoined := conjoined_guards entity verb
  refine ⟨⟨?_, hconditions, fun quoting rendered hs => ?_, fun hfields disjunction command hd => ?_⟩,
    fun listed counted hlisted hcounted => ?_⟩
  · obtain ⟨fields, hfields, -⟩ := defaultQuery_eq_ok.mp h
    rw [← tenantColumns_of_resolve hfields]
    exact (resolve_eq_ok.mp hfields).2
  · have htext := Sql.text_of_filtering (DocumentStore.operation_ne_insert hchoosing) hs
    rw [hconditions] at htext
    exact ⟨htext, Sql.reading_of_conjoined_conditions hconjoined⟩
  · obtain ⟨filter, hfilter, harguments⟩ := DocumentStore.filter_of_render hchoosing hd
    rw [hconditions] at hfilter
    obtain ⟨tests, htests, hholds⟩ := DocumentStore.holds_of_conjoined hconjoined
      (fun _ => isFieldName_of_mem_guards hfields) hfilter
    exact ⟨filter.document, tests, harguments, htests, hholds⟩
  · rw [conditions_defaultQuery (by decide) hlisted, conditions_defaultQuery (by decide) hcounted,
      guards_list_eq_count]

/-- The tenant's column may be the one that identifies a record: then both guards stand in the text,
and in the filter, which is a list of tests because the field occurs twice. -/
theorem defaultQuery_guarded_tenant_id :
    let entity : Entity := ⟨"Account", none, [⟨"id", none, none, [("astql", "security:tenant")]⟩,
      ⟨"removed", none, some "deleted_at", []⟩]⟩
    let filter : Document := .object [("$and", .list
      [.object [("id", .null)], .object [("deleted_at", .null)], .object [("id", .null)]])]
    ∃ query rendered command, (defaultQuery entity .get).outcome = .ok query ∧
      (Sql.render .plain query).outcome = .ok rendered ∧
      (DocumentStore.render .flatten query).outcome = .ok command ∧
      query.conditions.map Condition.field = ["id", "deleted_at", "id"] ∧
      rendered.text = "SELECT id, deleted_at FROM accounts " ++
        "WHERE id = :tenant_id AND deleted_at IS NULL AND id = :id" ∧
      command.arguments.lookup "filter" = some filter ∧
      (∀ truth : String → Document → Bool, DocumentStore.holds truth filter =
        (truth "id" .null && truth "deleted_at" .null && truth "id" .null)) ∧
      (∀ column ∈ entity.tenantColumns, DocumentStore.IsFieldName column) ∧
      Guarded entity .get query := by
  intro entity filter
  obtain ⟨rendered, hs⟩ := Except.exists_of_isOk
    (show (defaultQuery entity .get >>= Sql.render .plain).outcome.isOk = true by decide +kernel)
  obtain ⟨command, hd⟩ := Except.exists_of_isOk
    (show (defaultQuery entity .get >>= DocumentStore.render .flatten).outcome.isOk = true by
      decide +kernel)
  have hfilter : (defaultQuery entity .get >>= DocumentStore.render .flatten).outcome.map
      (fun command => command.arguments.lookup "filter") = .ok (some filter) := by
    subst entity filter
    rfl
  rw [hd] at hfilter
  obtain ⟨query, hquery, hs⟩ := Traced.outcome_bind_eq_ok.mp hs
  obtain ⟨same, hsame, hd⟩ := Traced.outcome_bind_eq_ok.mp hd
  obtain rfl : query = same := Except.ok.inj (hquery.symm.trans hsame)
  have hguarded := (defaultQuery_guarded (by decide) hquery).1
  have hlead : (defaultQuery entity .get).outcome.toOption.map (fun query =>
      (Sql.leadText .plain query, Sql.tailText .plain query)) =
      some ("SELECT id, deleted_at FROM accounts", "") := by decide +kernel
  rw [hquery] at hlead
  obtain ⟨hlead, htail⟩ := Prod.mk.inj (Option.some.inj hlead)
  refine ⟨query, rendered, command, hquery, hs, hd, ?_, ?_, Except.ok.inj hfilter, ?_,
    by decide +kernel, hguarded⟩
  · rw [hguarded.conditions]
    decide +kernel
  · rw [(hguarded.statement .plain rendered hs).1, hlead, htail]
    decide +kernel
  · intro truth
    change (truth "id" .null && true && ((truth "deleted_at" .null && true) &&
      ((truth "id" .null && true) && true)) && true) = _
    simp only [Bool.and_true, Bool.and_assoc]

end CrudQuery.Catalog
