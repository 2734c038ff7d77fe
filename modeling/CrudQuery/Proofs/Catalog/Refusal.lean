import CrudQuery.Proofs.Catalog.Composition

/-! # When an entity has a default query, and why not

Four things stand in the way of a default query, and they are looked at in this order: a directive
that is none, a second column that holds the tenant, an update with nothing to set, and a target
without a name.  Each is stated here on the entity as it is given (`Refused`, `Served`).  Nothing
else is ever missing: a new record always has its row, and every update an assignment.
-/

namespace CrudQuery.Catalog

/-! ## The structure of a default query -/

/-- Whatever becomes an update sets something. -/
theorem assigned_ne_nil {entity : Entity} {columns : List String} {verb : Verb}
    (h : verb = .update → updatable columns ≠ []) (ho : operationOf entity verb = .update) :
    assigned entity columns verb ≠ [] := by
  cases verb with
  | update => simpa [assigned] using h rfl
  | delete =>
    cases hsoft : isSoftDeleted entity with
    | true => simp [assigned, hsoft]
    | false => simp [operationOf, hsoft] at ho
  | get | list | create | count => cases ho

/-- A default query has its rows and its assignments, so that only a target can be missing. -/
theorem violation_draftOf {entity : Entity} {fields : List Resolved} {verb : Verb}
    (h : verb = .update → updatable (fields.map Resolved.column) ≠ []) :
    (draftOf entity fields verb).violation? =
      if entity.target = "" then some .missingTarget else none := by
  have hrows : ¬((draftOf entity fields verb).operation = .insert ∧
      ((draftOf entity fields verb).rows?.getD []).isEmpty = true) := by
    rintro ⟨ho, hempty⟩
    rw [operation_draftOf] at ho
    have hverb := (operationOf_eq_insert entity verb).mp ho
    rw [rows_draftOf, if_pos hverb] at hempty
    cases hempty
  have hupdates : ¬((draftOf entity fields verb).operation = .update ∧
      ((draftOf entity fields verb).updates?.getD []).isEmpty = true) := by
    rintro ⟨ho, hempty⟩
    rw [operation_draftOf] at ho
    obtain ⟨cell, hcell⟩ := List.exists_mem_of_ne_nil _ (assigned_ne_nil h ho)
    have hcolumn : cell.field ∈
        (Row.assignAll [] (assigned entity (fields.map Resolved.column) verb)).columns :=
      Row.mem_columns_assignAll.mpr (.inr (List.mem_map_of_mem hcell))
    -- Assigning sorts the row, but it leaves every column that was set in it.
    rw [updates_draftOf, if_pos ho, Option.getD_some, List.isEmpty_iff] at hempty
    rw [hempty] at hcolumn
    cases hcolumn
  unfold Query.violation?
  rw [if_neg hrows, if_neg hupdates, target_draftOf]
  simp

/-! ## The fault, if there is one -/

/-- The fault of a verb that would set columns of an entity in which all are managed. -/
def nothingToSet? (entity : Entity) (verb : Verb) : Option Fault :=
  if verb = .update ∧ updatable entity.columns = [] then some (.noUpdatableColumns entity.typeName)
  else none

/-- The fault of an entity whose target has no name. -/
def namelessTarget? (entity : Entity) : Option Fault :=
  if entity.target = "" then some (.invalid .missingTarget) else none

/-- What stands in the way of a default query. -/
def refusal? (entity : Entity) (verb : Verb) : Option Fault :=
  ((unsupported? entity.directives).or (severalTenants? entity)).or
    ((nothingToSet? entity verb).or (namelessTarget? entity))

theorem columns_entity (entity : Entity) :
    entity.resolved.map Resolved.column = entity.columns :=
  columns_resolved entity.fields

/-- **How a default query ends.** -/
theorem outcome_defaultQuery (entity : Entity) (verb : Verb) :
    (defaultQuery entity verb).outcome =
      Except.okUnless (refusal? entity verb) (draftOf entity entity.resolved verb) := by
  unfold defaultQuery
  rw [Traced.outcome_bind, outcome_resolve]
  refine Except.okUnless_bind ?_
  unfold composed
  rw [columns_entity, nothingToSet?]
  by_cases h : verb = .update ∧ updatable entity.columns = []
  · rw [if_pos (by simpa using h), if_pos h]
    rfl
  · rw [if_neg (by simpa using h), if_neg h, Option.none_or, namelessTarget?]
    refine (Draft.outcome_buildOrFail (draftOf entity entity.resolved verb)).trans ?_
    have hset : verb = .update → updatable (entity.resolved.map Resolved.column) ≠ [] := by
      intro hverb hnone
      exact h ⟨hverb, columns_entity entity ▸ hnone⟩
    rw [violation_draftOf hset]
    split <;> rfl

/-! ## The fault, read off the entity -/

/-- Why an entity has no query for a verb: the first of four requirements that it breaks.  A
directive is named with its column, in the order in which fields and directives are given. -/
inductive Refused (entity : Entity) (verb : Verb) : Fault → Prop
  | directive {column text : String}
      (first : entity.directives.find? (fun directive => !Directive.isKnown directive.2) =
        some (column, text)) :
      Refused entity verb (.unsupportedDirective column text)
  | tenants (known : ∀ directive ∈ entity.directives, Directive.isKnown directive.2 = true)
      (several : 2 ≤ entity.tenantColumns.length) :
      Refused entity verb (.duplicateTenant entity.typeName entity.tenantColumns)
  | managed (known : ∀ directive ∈ entity.directives, Directive.isKnown directive.2 = true)
      (tenant : entity.tenantColumns.length ≤ 1) (update : verb = .update)
      (managed : ∀ column ∈ entity.columns, column ∈ ["id", "created_at", "deleted_at"]) :
      Refused entity verb (.noUpdatableColumns entity.typeName)
  | target (known : ∀ directive ∈ entity.directives, Directive.isKnown directive.2 = true)
      (tenant : entity.tenantColumns.length ≤ 1)
      (settable : verb = .update →
        ∃ column ∈ entity.columns, column ∉ ["id", "created_at", "deleted_at"])
      (nameless : entity.target = "") :
      Refused entity verb (.invalid .missingTarget)

/-- An entity that has a query for a verb. -/
structure Served (entity : Entity) (verb : Verb) : Prop where
  known : ∀ directive ∈ entity.directives, Directive.isKnown directive.2 = true
  tenant : entity.tenantColumns.length ≤ 1
  settable : verb = .update →
    ∃ column ∈ entity.columns, column ∉ ["id", "created_at", "deleted_at"]
  target : entity.target ≠ ""

/-- The hint that a directive on a column asks for. -/
inductive HintFor : String × String → Hint → Prop
  | index (column name : String) :
      HintFor (column, "index:" ++ name) ⟨"sql", "index", column ++ ":" ++ name⟩
  | unique (column : String) : HintFor (column, "unique") ⟨"sql", "unique", column⟩

section
variable {entity : Entity} {verb : Verb}

theorem unsupported?_eq_none {directives : List (String × String)} :
    unsupported? directives = none ↔
      ∀ directive ∈ directives, Directive.isKnown directive.2 = true := by
  simp [unsupported?]

theorem updatable_eq_nil {columns : List String} :
    updatable columns = [] ↔ ∀ column ∈ columns, column ∈ ["id", "created_at", "deleted_at"] := by
  have hmanaged : managedFields = ["id", "created_at", "deleted_at"] := rfl
  simp only [updatable, hmanaged, List.filter_eq_nil_iff, Bool.not_eq_true, Bool.not_eq_false',
    List.contains_iff_mem]

theorem nothingToSet?_eq_none :
    nothingToSet? entity verb = none ↔
      (verb = .update →
        ∃ column ∈ entity.columns, column ∉ ["id", "created_at", "deleted_at"]) := by
  rw [nothingToSet?, ite_eq_right_iff, updatable_eq_nil]
  simp only [reduceCtorEq, imp_false, not_and, not_forall, exists_prop]

theorem severalTenants?_eq_none :
    severalTenants? entity = none ↔ entity.tenantColumns.length ≤ 1 := by
  rw [severalTenants?, ite_eq_right_iff]
  simp

theorem refused_iff {fault : Fault} :
    Refused entity verb fault ↔ refusal? entity verb = some fault := by
  rw [refusal?, Option.or_eq_some_iff, Option.or_eq_some_iff, Option.or_eq_some_iff,
    Option.or_eq_none_iff, unsupported?_eq_none, severalTenants?_eq_none, nothingToSet?_eq_none]
  constructor
  · intro h
    cases h with
    | directive first =>
      refine .inl (.inl ?_)
      rw [unsupported?, first]
      rfl
    | tenants known several => exact .inl (.inr ⟨known, if_pos several⟩)
    | managed known tenant update managed =>
      exact .inr ⟨⟨known, tenant⟩, .inl (if_pos ⟨update, updatable_eq_nil.mpr managed⟩)⟩
    | target known tenant settable nameless =>
      exact .inr ⟨⟨known, tenant⟩, .inr ⟨settable, if_pos nameless⟩⟩
  · rintro ((h | ⟨known, h⟩) | ⟨⟨known, tenant⟩, h | ⟨settable, h⟩⟩)
    · obtain ⟨⟨column, text⟩, first, rfl⟩ := Option.map_eq_some_iff.mp h
      exact .directive first
    · obtain ⟨several, hfault⟩ := Option.ite_none_right_eq_some.mp h
      cases hfault
      exact .tenants known several
    · obtain ⟨⟨update, hnone⟩, hfault⟩ := Option.ite_none_right_eq_some.mp h
      cases hfault
      exact .managed known tenant update (updatable_eq_nil.mp hnone)
    · obtain ⟨nameless, hfault⟩ := Option.ite_none_right_eq_some.mp h
      cases hfault
      exact .target known tenant settable nameless

theorem served_iff : Served entity verb ↔ refusal? entity verb = none := by
  have htarget : namelessTarget? entity = none ↔ entity.target ≠ "" := by
    rw [namelessTarget?, ite_eq_right_iff]
    simp
  rw [refusal?, Option.or_eq_none_iff, Option.or_eq_none_iff, Option.or_eq_none_iff,
    unsupported?_eq_none, severalTenants?_eq_none, nothingToSet?_eq_none, htarget]
  exact ⟨fun h => ⟨⟨h.known, h.tenant⟩, h.settable, h.target⟩,
    fun ⟨⟨known, tenant⟩, settable, target⟩ => ⟨known, tenant, settable, target⟩⟩

/-- The one query that an entity can have for a verb is the one that the calls of the verb
compose. -/
theorem defaultQuery_eq_ok_iff_served {query : Query} :
    (defaultQuery entity verb).outcome = .ok query ↔
      Served entity verb ∧ query = draftOf entity entity.resolved verb := by
  rw [outcome_defaultQuery, Except.okUnless_eq_ok, served_iff, eq_comm (a := query)]

/-! ## Hints -/

/-- What a text asks for, on a column. -/
def hintOf? (directive : String × String) : Option Hint :=
  (Directive.ofText? directive.2).bind (·.hint? directive.1)

/-- The hints of an entity are those its directives ask for, field by field. -/
theorem hints_entity (entity : Entity) :
    entity.resolved.flatMap Resolved.hints = entity.directives.filterMap hintOf? := by
  rw [Entity.resolved, Entity.directives]
  induction entity.fields with
  | nil => rfl
  | cons field rest ih =>
    rw [List.filterMap_cons, List.flatMap_cons, List.filterMap_append, ← ih,
      EntityField.directives, EntityField.resolved?]
    cases field.column? with
    | none => rfl
    | some column =>
      rw [Option.map_some, List.flatMap_cons, EntityField.resolvedAs, List.filterMap_filterMap,
        List.filterMap_map]
      rfl

/-- A text introduced by the mark of an index is that mark and a name. -/
theorem eq_indexMark_append {text : String} (h : "index:".toList.isPrefixOf text.toList = true) :
    "index:" ++ String.ofList (text.toList.drop "index:".length) = text := by
  obtain ⟨name, hname⟩ := List.isPrefixOf_iff_prefix.mp h
  refine String.toList_inj.mp ?_
  rw [String.toList_append, ← hname, ← String.length_toList, List.drop_left,
    String.toList_ofList (l := name)]

/-- The hint that a text asks for is the one its directive gives. -/
theorem hintFor_of_hintOf? {directive : String × String} {hint : Hint}
    (h : hintOf? directive = some hint) : HintFor directive hint := by
  obtain ⟨column, text⟩ := directive
  unfold hintOf? Directive.ofText? at h
  split at h
  · next hindex =>
    cases h
    have hspelled := HintFor.index column (String.ofList (text.toList.drop "index:".length))
    rwa [eq_indexMark_append hindex] at hspelled
  · split at h
    · next hunique =>
      cases h
      exact hunique ▸ .unique column
    · split at h <;> cases h

/-- A text asks for a hint iff it names an index or uniqueness. -/
theorem isSome_hintOf? (directive : String × String) :
    (hintOf? directive).isSome = Directive.asksHint directive.2 := by
  have hmark : Directive.indexMark = "index:" := rfl
  unfold hintOf? Directive.ofText? Directive.asksHint
  rw [hmark]
  cases "index:".toList.isPrefixOf directive.2.toList with
  | true => rfl
  | false =>
    by_cases hunique : directive.2 = "unique"
    · simp [hunique, Directive.hint?]
    · by_cases htenant : directive.2 = "security:tenant" <;>
        simp [hunique, htenant, Directive.hint?]

end

/-- The hints of an entity are those that its texts ask for, one for each that asks for one. -/
theorem hintFor_hints (entity : Entity) :
    List.Forall₂ HintFor (entity.directives.filter fun directive => Directive.asksHint directive.2)
      (entity.resolved.flatMap Resolved.hints) := by
  rw [hints_entity]
  simp only [← isSome_hintOf?]
  induction entity.directives with
  | nil => exact .nil
  | cons directive rest ih =>
    cases h : hintOf? directive with
    | none => simpa [h] using ih
    | some hint => simpa [h] using ⟨hintFor_of_hintOf? h, ih⟩

/-! ## The outcome -/

/-- **Outcomes of default queries.**  Each fault that a query can end with has its one reason in
the entity, there is a query whenever none of these reasons is there, and it hints at what the
directives ask for, in order, and at nothing else. -/
theorem defaultQuery_outcome (entity : Entity) (verb : Verb) :
    (∀ fault, (defaultQuery entity verb).outcome = .error fault ↔ Refused entity verb fault) ∧
      ((∃ query, (defaultQuery entity verb).outcome = .ok query) ↔ Served entity verb) ∧
      ∀ query, (defaultQuery entity verb).outcome = .ok query →
        List.Forall₂ HintFor
          (entity.directives.filter fun directive => Directive.asksHint directive.2)
          query.hints := by
  refine ⟨fun fault => ?_, ?_, fun query h => ?_⟩
  · rw [outcome_defaultQuery, Except.okUnless_eq_error, refused_iff]
  · simp only [defaultQuery_eq_ok_iff_served, exists_and_left, exists_eq, and_true]
  · obtain ⟨-, rfl⟩ := defaultQuery_eq_ok_iff_served.mp h
    rw [hints_draftOf]
    exact hintFor_hints entity

/-- Blanks and empty parts are no directives, and an excluded field may carry any text.  The first
text that is none is the one that is named, even if other things are wrong with the entity. -/
theorem defaultQuery_outcome_blanks :
    let code : EntityField :=
      ⟨"Code", some "code", none, [("astql", " , unique ,index:by code,, index:")]⟩
    let secret : EntityField := ⟨"secret", some "-", none, [("astql", "cache:1h")]⟩
    let owner : EntityField :=
      ⟨"id", none, none, [("astql", "security:tenant, relation:x,cache:1h")]⟩
    (∃ query, (defaultQuery ⟨"Account", none, [secret, code]⟩ .count).outcome = .ok query ∧
      List.Forall₂ HintFor [("code", "unique"), ("code", "index:by code"), ("code", "index:")]
        query.hints) ∧
      (defaultQuery ⟨"Account", some "", [secret, owner]⟩ .update).outcome =
        .error (.unsupportedDirective "id" "relation:x") := by
  intro code secret owner
  constructor
  · have hserved : Served ⟨"Account", none, [secret, code]⟩ .count :=
      ⟨by decide +kernel, by decide +kernel, nofun, by decide +kernel⟩
    obtain ⟨-, hok, hhints⟩ := defaultQuery_outcome ⟨"Account", none, [secret, code]⟩ .count
    obtain ⟨query, hquery⟩ := hok.mpr hserved
    have hasked : (Entity.directives ⟨"Account", none, [secret, code]⟩).filter
        (fun directive => Directive.asksHint directive.2) =
          [("code", "unique"), ("code", "index:by code"), ("code", "index:")] := by decide +kernel
    exact ⟨query, hquery, hasked ▸ hhints query hquery⟩
  · exact ((defaultQuery_outcome ⟨"Account", some "", [secret, owner]⟩ .update).1 _).mpr
      (.directive (by decide +kernel))

end CrudQuery.Catalog
