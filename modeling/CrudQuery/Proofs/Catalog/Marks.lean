import CrudQuery.Proofs.Catalog.Refusal

/-! # The columns that mark deletion and creation

Two columns mean something to every default query: the one that marks deleted records and the one
that holds the time of creation.  An entity is looked through for them field by field, under every
name that a field has, while what a query then names is always the fixed column.

Two things that one might expect of default queries therefore hold only up to these marks, and the
theorems here say exactly when.  A query does not depend on the excluded fields iff the entity keeps
its marks when they go (`defaultQuery_withoutExcluded`); and it names nothing but columns of the
entity iff a mark that is found is one of its columns (`defaultQuery_touches_columns`).
-/

namespace CrudQuery.Catalog

/-- The entity without its excluded fields. -/
def Entity.withoutExcluded (entity : Entity) : Entity :=
  { entity with fields := entity.fields.filter fun field => field.serialName? ≠ some "-" }

/-! ## Excluded fields -/

section
variable {entity other : Entity} {fields : List Resolved} {verb : Verb}

theorem mem_deletedGuard :
    ⟨deletedField, .isNull, .null, .and, deletedField⟩ ∈ guardConditions entity fields verb ↔
      verb ≠ .create ∧ entity.hasField deletedField = true := by
  simp [mem_guardConditions, isSoftDeleted]

theorem calls_congr
    (hdeleted : verb ≠ .create → entity.hasField deletedField = other.hasField deletedField)
    (hcreated : verb = .list → entity.hasField createdField = other.hasField createdField) :
    calls entity fields verb = calls other fields verb := by
  have hpage : pageCalls entity verb = pageCalls other verb := by
    unfold pageCalls
    split
    · next hlist => rw [hcreated hlist]
    · rfl
  by_cases hcreate : verb = .create
  · subst hcreate
    rfl
  · have hsoft : isSoftDeleted entity = isSoftDeleted other := hdeleted hcreate
    have hcontent : contentCalls entity (fields.map Resolved.column) verb =
        contentCalls other (fields.map Resolved.column) verb := by
      unfold contentCalls
      rw [hsoft]
    have hguard : guardCalls entity fields verb = guardCalls other fields verb := by
      unfold guardCalls
      rw [hsoft]
    rw [calls, calls, hcontent, hguard, hpage]

theorem operationOf_congr
    (hdeleted : verb ≠ .create → entity.hasField deletedField = other.hasField deletedField) :
    operationOf entity verb = operationOf other verb := by
  cases verb with
  | delete => rw [operationOf, operationOf, isSoftDeleted, isSoftDeleted, hdeleted (by decide)]
  | _ => rfl

/-- Of an entity, a query shows its target and the marks that its verb looks for. -/
theorem draftOf_eq_iff (htarget : entity.target = other.target) :
    draftOf entity fields verb = draftOf other fields verb ↔
      (verb ≠ .create → entity.hasField deletedField = other.hasField deletedField) ∧
        (verb = .list → entity.hasField createdField = other.hasField createdField) := by
  constructor
  · -- The guard against deleted records shows the one mark, the order of a listing the other.
    intro h
    have hconditions := congrArg Query.conditions h
    have hordering := congrArg Query.ordering h
    rw [conditions_draftOf, conditions_draftOf] at hconditions
    rw [ordering_draftOf, ordering_draftOf] at hordering
    refine ⟨fun hverb => Bool.eq_iff_iff.mpr ?_, fun hlist => ?_⟩
    · have hguard := iff_of_eq
        (congrArg (⟨deletedField, .isNull, .null, .and, deletedField⟩ ∈ ·) hconditions)
      simpa only [mem_deletedGuard, ne_eq, hverb, not_false_eq_true, true_and] using hguard
    · cases hentity : entity.hasField createdField <;>
        cases hother : other.hasField createdField <;>
        simp [hlist, hentity, hother] at hordering ⊢
  · rintro ⟨hdeleted, hcreated⟩
    rw [draftOf, draftOf, htarget, operationOf_congr hdeleted, calls_congr hdeleted hcreated]

end

section
variable (entity : Entity)

theorem resolved_withoutExcluded : entity.withoutExcluded.resolved = entity.resolved := by
  unfold Entity.resolved Entity.withoutExcluded
  rw [List.filterMap_filter]
  refine List.filterMap_congr fun field _ => ?_
  by_cases hexcluded : field.serialName? = some "-"
  · simp [EntityField.resolved?, EntityField.column?, hexcluded]
  · simp [hexcluded]

theorem directives_withoutExcluded : entity.withoutExcluded.directives = entity.directives := by
  unfold Entity.directives Entity.withoutExcluded
  induction entity.fields with
  | nil => rfl
  | cons field rest ih =>
    by_cases hexcluded : field.serialName? = some "-"
    · simpa [EntityField.directives, EntityField.column?, hexcluded] using ih
    · simpa [hexcluded] using ih

/-- Whatever stands in the way of a query is looked for in the other fields. -/
theorem refusal?_withoutExcluded (verb : Verb) :
    refusal? entity.withoutExcluded verb = refusal? entity verb := by
  have hcolumns : entity.withoutExcluded.columns = entity.columns := by
    rw [← columns_entity, ← columns_entity, resolved_withoutExcluded]
  have htenants : entity.withoutExcluded.tenantColumns = entity.tenantColumns := by
    rw [← tenantColumns_entity, ← tenantColumns_entity, resolved_withoutExcluded]
  rw [refusal?, refusal?, severalTenants?, severalTenants?, nothingToSet?, nothingToSet?,
    directives_withoutExcluded, hcolumns, htenants]
  rfl

/-- **Excluded fields.** Without them an entity ends up with the same query, or the same fault, iff
it keeps the marks that the verb looks for. -/
theorem defaultQuery_withoutExcluded (verb : Verb) :
    (defaultQuery entity.withoutExcluded verb).outcome = (defaultQuery entity verb).outcome ↔
      (∃ fault, (defaultQuery entity verb).outcome = .error fault) ∨
        ((verb ≠ .create →
            entity.withoutExcluded.hasField "deleted_at" = entity.hasField "deleted_at") ∧
          (verb = .list →
            entity.withoutExcluded.hasField "created_at" = entity.hasField "created_at")) := by
  rw [outcome_defaultQuery, outcome_defaultQuery, refusal?_withoutExcluded,
    resolved_withoutExcluded]
  cases refusal? entity verb with
  | some fault => exact ⟨fun _ => .inl ⟨fault, rfl⟩, fun _ => rfl⟩
  | none =>
    have hmade : ¬∃ fault : Fault, Except.okUnless none (draftOf entity entity.resolved verb) =
        .error fault := by
      rintro ⟨fault, h⟩
      cases h
    rw [or_iff_right hmade]
    exact Iff.trans ⟨Except.ok.inj, congrArg Except.ok⟩ (draftOf_eq_iff rfl)

end

/-- An excluded field that goes by the name of the mark guards the queries of its entity. -/
theorem defaultQuery_shows_excluded :
    ¬∀ (entity : Entity) (verb : Verb),
      (defaultQuery entity.withoutExcluded verb).outcome = (defaultQuery entity verb).outcome := by
  intro h
  have hget := h ⟨"User", none, [⟨"id", none, none, []⟩, ⟨"deleted_at", some "-", none, []⟩]⟩ .get
  have hfields := congrArg
    (fun outcome => outcome.toOption.map fun query => query.conditions.map Condition.field) hget
  exact absurd hfields (by decide +kernel)

/-! ## The columns of a query -/

/-- The columns that a query chooses by, sorts by, sets and stores. -/
def touched (query : Query) : List String :=
  query.conditions.map Condition.field ++ query.ordering.map SortKey.field ++
    query.assignments.columns ++ query.insertRows.flatMap Row.columns

section
variable {entity : Entity} {verb : Verb}

/-- The columns that a default query touches are columns of the entity, the identifier, or marks
that the verb has found. -/
theorem mem_touched_draftOf {column : String}
    (h : column ∈ touched (draftOf entity entity.resolved verb)) :
    column ∈ entity.columns ∨ column = idField ∨
      (verb ≠ .create ∧ entity.hasField deletedField = true ∧ column = deletedField) ∨
      (verb = .list ∧ entity.hasField createdField = true ∧ column = createdField) := by
  simp only [touched, List.mem_append, List.mem_map, List.mem_flatMap] at h
  rcases h with ((⟨condition, hcondition, rfl⟩ | ⟨key, hkey, rfl⟩) | hset) | ⟨row, hrow, hcolumn⟩
  · rw [conditions_draftOf] at hcondition
    obtain ⟨hverb, ⟨column, htenant, rfl⟩ | ⟨hsoft, rfl⟩ | ⟨-, rfl⟩⟩ :=
      mem_guardConditions.mp hcondition
    · rw [tenantColumns_entity] at htenant
      exact .inl (Entity.mem_columns_of_mem_tenantColumns htenant)
    · exact .inr (.inr (.inl ⟨hverb, hsoft, rfl⟩))
    · exact .inr (.inl rfl)
  · rw [ordering_draftOf, List.mem_ite_nil_right, List.mem_singleton] at hkey
    obtain ⟨⟨hlist, hcreated⟩, rfl⟩ := hkey
    exact .inr (.inr (.inr ⟨hlist, hcreated, rfl⟩))
  · rcases mem_columns_of_mem_assignments hset with hcolumn | ⟨rfl, hsoft, rfl⟩
    · exact .inl (columns_entity entity ▸ hcolumn)
    · exact .inr (.inr (.inl ⟨by decide, hsoft, rfl⟩))
  · rw [insertRows_draftOf, columns_entity, List.mem_ite_nil_right, List.mem_singleton] at hrow
    obtain ⟨-, rfl⟩ := hrow
    exact .inl (mem_columns_nullRow.mp hcolumn)

/-- A mark that is found is touched. -/
theorem deletedField_mem_touched (hverb : verb ≠ .create)
    (h : entity.hasField deletedField = true) (fields : List Resolved) :
    deletedField ∈ touched (draftOf entity fields verb) := by
  have hguard := conditions_draftOf entity fields verb ▸ mem_deletedGuard.mpr ⟨hverb, h⟩
  simp only [touched, List.mem_append]
  exact .inl (.inl (.inl (List.mem_map_of_mem hguard)))

theorem createdField_mem_touched (h : entity.hasField createdField = true)
    (fields : List Resolved) : createdField ∈ touched (draftOf entity fields .list) := by
  simp [touched, ordering_draftOf, h]

/-- **The columns of a default query.** If a field of the entity identifies its records, a query
touches nothing but columns of the entity iff every mark that its verb has found is one of them. -/
theorem defaultQuery_touches_columns {query : Query} (hid : "id" ∈ entity.columns)
    (h : (defaultQuery entity verb).outcome = .ok query) :
    (∀ column ∈ touched query, column ∈ entity.columns) ↔
      (verb ≠ .create → entity.hasField "deleted_at" = true → "deleted_at" ∈ entity.columns) ∧
        (verb = .list → entity.hasField "created_at" = true → "created_at" ∈ entity.columns) := by
  obtain ⟨-, rfl⟩ := defaultQuery_eq_ok_iff_served.mp h
  constructor
  · intro hall
    refine ⟨fun hverb hdeleted => hall _ (deletedField_mem_touched hverb hdeleted _), ?_⟩
    rintro rfl hcreated
    exact hall _ (createdField_mem_touched hcreated _)
  · rintro ⟨hdeleted, hcreated⟩ column hcolumn
    rcases mem_touched_draftOf hcolumn with hmem | rfl | ⟨hverb, hfound, rfl⟩ | ⟨hlist, hfound, rfl⟩
    · exact hmem
    · exact hid
    · exact hdeleted hverb hfound
    · exact hcreated hlist hfound

/-- Marks may be columns of other fields than those that go by their names. -/
theorem defaultQuery_touches_columns_renamed :
    let entity : Entity := ⟨"User", none, [⟨"key", some "id", none, [("astql", "security:tenant")]⟩,
      ⟨"removed", none, none, [("db", "deleted_at")]⟩, ⟨"deleted_at", none, some "created_at", []⟩]⟩
    ∃ query, (defaultQuery entity .list).outcome = .ok query ∧
      ∀ column ∈ touched query, column ∈ entity.columns := by
  intro entity
  obtain ⟨query, hquery⟩ := Except.exists_of_isOk
    (show (defaultQuery entity .list).outcome.isOk = true by decide +kernel)
  exact ⟨query, hquery, (defaultQuery_touches_columns (by decide +kernel) hquery).mpr
    ⟨fun _ _ => by decide +kernel, fun _ _ => by decide +kernel⟩⟩

/-- A mark that goes by its name in code only is touched under a name that no column has. -/
theorem defaultQuery_touches_unknown :
    ¬∀ (entity : Entity) (verb : Verb) (query : Query), "id" ∈ entity.columns →
      (defaultQuery entity verb).outcome = .ok query →
      ∀ column ∈ touched query, column ∈ entity.columns := by
  intro hall
  let entity : Entity :=
    ⟨"User", none, [⟨"id", none, none, []⟩, ⟨"deleted_at", none, some "removed_at", []⟩]⟩
  obtain ⟨query, hquery⟩ := Except.exists_of_isOk
    (show (defaultQuery entity .get).outcome.isOk = true by decide +kernel)
  have htouched : (defaultQuery entity .get).outcome.toOption.map touched =
      some ["deleted_at", "id"] := by decide +kernel
  rw [hquery] at htouched
  have hcolumn := hall entity .get query (by decide +kernel) hquery "deleted_at"
    (Option.some.inj htouched ▸ List.mem_cons_self)
  exact absurd hcolumn (by decide +kernel)

end

end CrudQuery.Catalog
