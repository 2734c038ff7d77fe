import CrudQuery.Proofs.Catalog.Refusal
import CrudQuery.Proofs.DocumentStore.Acceptance
import CrudQuery.Proofs.Sql.RowNames

/-! # Default queries render

If the target of an entity is an identifier and its columns are identifiers without dots, then each
of its default queries renders, for tables and for documents.  Whatever the columns are called, the
names that values are bound under are different: those of assignments begin alike and unlike those
of guards, and a column without a dot is its own parameter name.  The one thing that tables refuse
is a row without columns, which is what an entity without columns stores.
-/

namespace CrudQuery.Catalog

/-- An entity whose names may stand in a statement, its columns without a table before them. -/
structure WellNamed (entity : Entity) : Prop where
  target : Sql.isIdentifier entity.target = true
  columns : ∀ column ∈ entity.columns, Sql.isIdentifier column = true ∧ '.' ∉ column.toList

section
variable (entity : Entity) (fields : List Resolved) (verb : Verb)

theorem operationOf_mem_kinds : operationOf entity verb ∈ Sql.kinds := by
  cases verb with
  | delete => rw [operationOf]; split <;> decide
  | _ => simp [operationOf, Sql.kinds]

theorem naturalPages_draftOf : (draftOf entity fields verb).NaturalPages := by
  have hbound : ∀ bound value, (draftOf entity fields verb).page? bound = some value →
      Query.isPageBound value = true := by
    intro bound value h
    rw [page_draftOf] at h
    obtain ⟨-, hvalue⟩ := Option.ite_none_right_eq_some.mp h
    cases hvalue
    cases bound <;> decide +kernel
  exact ⟨fun value h => Query.isPageBound_iff.mp (hbound .limit value h),
    fun value h => Query.isPageBound_iff.mp (hbound .offset value h)⟩

/-- Every default query writes all its guards. -/
theorem writtenConditions_draftOf :
    (draftOf entity fields verb).writtenConditions = guardConditions entity fields verb := by
  unfold Query.writtenConditions
  rw [operation_draftOf, conditions_draftOf, having_draftOf, List.append_nil]
  cases verb with
  | create => rfl
  | delete => cases hsoft : isSoftDeleted entity <;> simp [operationOf, hsoft]
  | _ => rfl

theorem hasForm_of_mem_guardConditions {condition : Condition}
    (h : condition ∈ guardConditions entity fields verb) : Sql.HasForm condition := by
  have hplain : condition.operator = .equal ∨ condition.operator = .isNull := by
    obtain ⟨-, ⟨column, -, rfl⟩ | ⟨-, rfl⟩ | ⟨-, rfl⟩⟩ := mem_guardConditions.mp h
    · exact .inl rfl
    · exact .inr rfl
    · exact .inl rfl
  rcases hplain with ho | ho <;> constructor <;> rw [ho] <;> simp [Operator.signed]

/-- Only the tenant and the identifier of a record are bound by guards. -/
theorem names_guardConditions :
    (guardConditions entity fields verb).flatMap Sql.conditionNames =
      if verb = .create then []
      else
        (tenantColumns fields).map (fun _ => tenantParameter) ++
          if verb.isById then [idField] else [] := by
  unfold guardConditions
  split
  · rfl
  · rw [List.flatMap_append, List.flatMap_append, List.flatMap_map, List.map_eq_flatMap]
    cases isSoftDeleted entity <;> cases verb.isById <;> simp [Sql.conditionNames, Operator.arity?]

end

/-! ## The names of a query -/

section
variable {entity : Entity} {verb : Verb}

/-- Every column that a default query sets is an identifier without a dot. -/
theorem isIdentifier_of_mem_assignments (h : WellNamed entity) {column : String}
    (hcolumn : column ∈ (draftOf entity entity.resolved verb).assignments.columns) :
    Sql.isIdentifier column = true ∧ '.' ∉ column.toList := by
  rcases mem_columns_of_mem_assignments hcolumn with hset | ⟨-, -, rfl⟩
  · exact h.columns column (columns_entity entity ▸ hset)
  · decide +kernel

theorem isIdentifier_of_mem_nullRow (h : WellNamed entity) {column : String}
    (hcolumn : column ∈ (nullRow entity.columns).columns) :
    Sql.isIdentifier column = true ∧ '.' ∉ column.toList :=
  h.columns column (mem_columns_nullRow.mp hcolumn)

theorem acceptedCondition_of_mem_guardConditions (h : WellNamed entity) {condition : Condition}
    (hcondition : condition ∈ guardConditions entity entity.resolved verb) :
    Sql.AcceptedCondition condition := by
  obtain ⟨-, ⟨column, hcolumn, rfl⟩ | ⟨-, rfl⟩ | ⟨-, rfl⟩⟩ := mem_guardConditions.mp hcondition
  · rw [tenantColumns_entity] at hcolumn
    have hidentifier := h.columns column (Entity.mem_columns_of_mem_tenantColumns hcolumn)
    exact ⟨hidentifier.1, show Sql.isWord tenantParameter.toList = true by decide⟩
  · constructor <;> decide +kernel
  · constructor <;> decide +kernel

/-- Every word of a default query is accepted in its role. -/
theorem wordsAccepted_draftOf (h : WellNamed entity) :
    Sql.WordsAccepted (draftOf entity entity.resolved verb) where
  target := by
    rw [target_draftOf]
    exact h.target
  fields := by
    intro field hfield
    rw [fields_draftOf, List.mem_ite_nil_right] at hfield
    obtain ⟨-, hfield⟩ := hfield
    obtain ⟨resolved, hresolved, rfl⟩ := List.mem_map.mp hfield
    have hcolumn : resolved.column ∈ entity.columns :=
      columns_entity entity ▸ List.mem_map_of_mem hresolved
    exact ⟨.inr (h.columns _ hcolumn).1, nofun⟩
  conditions := by
    rw [conditions_draftOf, having_draftOf, List.append_nil]
    exact fun condition => acceptedCondition_of_mem_guardConditions h
  joins := by
    rw [joins_draftOf]
    exact nofun
  ordering := by
    intro key hkey
    rw [ordering_draftOf, List.mem_ite_nil_right, List.mem_singleton] at hkey
    obtain ⟨-, rfl⟩ := hkey
    exact ⟨by decide +kernel, .inr rfl⟩
  grouping := by
    rw [grouping_draftOf]
    exact nofun
  rows := by
    intro row hrow cell hcell
    rw [insertRows_draftOf, columns_entity, List.mem_ite_nil_right, List.mem_singleton] at hrow
    obtain ⟨-, rfl⟩ := hrow
    exact (isIdentifier_of_mem_nullRow h (List.mem_map_of_mem hcell)).1
  updates := fun cell hcell =>
    (isIdentifier_of_mem_assignments h (List.mem_map_of_mem hcell)).1
  returning := by
    intro field hfield
    rw [returning_draftOf, List.mem_ite_nil_right, List.mem_singleton] at hfield
    exact .inl hfield.2

/-! ## The names of its parameters -/

/-- The names that guards bind are different, since one column at most holds the tenant. -/
theorem nodup_names_guardConditions {fields : List Resolved}
    (h : (tenantColumns fields).length ≤ 1) :
    ((guardConditions entity fields verb).flatMap Sql.conditionNames).Nodup := by
  have hne : tenantParameter ≠ idField := by decide
  rw [names_guardConditions]
  match tenantColumns fields, h with
  | [], _ => cases verb <;> simp [Verb.isById]
  | [_], _ => cases verb <;> simp [Verb.isById, hne]

/-- No guard binds a name that an assignment does. -/
theorem not_mem_names_guardConditions {fields : List Resolved} (name : String) :
    "update_" ++ name ∉ (guardConditions entity fields verb).flatMap Sql.conditionNames := by
  have hstart : ∀ fixed : String, fixed.toList.head? ≠ some 'u' → "update_" ++ name ≠ fixed := by
    rintro fixed hhead rfl
    exact hhead (by rw [String.toList_append]; rfl)
  have htenant := hstart tenantParameter (by decide)
  have hid := hstart idField (by decide)
  rw [names_guardConditions]
  intro hmem
  split at hmem
  · cases hmem
  · rcases List.mem_append.mp hmem with hmem | hmem
    · obtain ⟨-, -, hmem⟩ := List.mem_map.mp hmem
      exact htenant hmem.symm
    · exact hid (List.mem_singleton.mp (List.mem_ite_nil_right.mp hmem).2)

/-- A default query binds no name twice. -/
theorem nodup_boundNames_draftOf (h : WellNamed entity) (ht : entity.tenantColumns.length ≤ 1) :
    (Sql.boundNames (draftOf entity entity.resolved verb)).Nodup := by
  have hguards : ((guardConditions entity entity.resolved verb).flatMap
      Sql.conditionNames).Nodup :=
    nodup_names_guardConditions (tenantColumns_entity entity ▸ ht)
  unfold Sql.boundNames
  rw [writtenConditions_draftOf]
  split
  · next hinsert =>
    -- There is one row, so all its names end in the same number.
    rw [operation_draftOf, operationOf_eq_insert] at hinsert
    rw [insertRows_draftOf, if_pos hinsert, columns_entity]
    have hnames := Sql.nodup_rowNames (Sql.nodup_parameterNames (nodup_columns_nullRow entity.columns)
      fun column hcolumn => (isIdentifier_of_mem_nullRow h hcolumn).2) 0
    simpa [Sql.rowNames] using hnames
  · -- The names of assignments start with a word that no name of a guard starts with.
    have hn : (draftOf entity entity.resolved verb).assignments.columns.Nodup := by
      rw [assignments_draftOf]
      exact Row.nodup_columns_assignAll (show (Row.columns []).Nodup from List.nodup_nil) _
    have hnames := (Sql.nodup_parameterNames hn fun column hcolumn =>
      (isIdentifier_of_mem_assignments h hcolumn).2).map
        fun name other => (String.append_right_inj "update_").mp
    rw [List.map_map] at hnames
    refine List.nodup_append.mpr ⟨hnames, hguards, ?_⟩
    rintro name hname _ hguard rfl
    obtain ⟨column, -, rfl⟩ := List.mem_map.mp hname
    exact not_mem_names_guardConditions _ hguard
  · exact hguards

/-! ## Rendering -/

theorem violation_draftOf_of_served (h : Served entity verb) :
    (draftOf entity entity.resolved verb).violation? = none := by
  have hset : verb = .update → updatable (entity.resolved.map Resolved.column) ≠ [] := by
    intro hverb hnone
    obtain ⟨column, hcolumn, hfree⟩ := h.settable hverb
    exact hfree (updatable_eq_nil.mp (columns_entity entity ▸ hnone) column hcolumn)
  rw [violation_draftOf hset, if_neg h.target]

/-- Documents have a form for every default query. -/
theorem renderable_documents (h : Served entity verb) :
    DocumentStore.Renderable (draftOf entity entity.resolved verb) where
  valid := violation_draftOf_of_served h
  pages := naturalPages_draftOf _ _ _
  joins := joins_draftOf _ _ _
  grouping := grouping_draftOf _ _ _
  having := having_draftOf _ _ _
  operation := operation_draftOf entity entity.resolved verb ▸ operationOf_mem_kinds entity verb
  tests := by
    rw [conditions_draftOf]
    exact fun _ condition hcondition => DocumentStore.hasTest_of_hasForm
      (hasForm_of_mem_guardConditions entity entity.resolved verb hcondition)

theorem insertColumns_draftOf (fields : List Resolved) :
    (draftOf entity fields .create).insertColumns =
      (nullRow (fields.map Resolved.column)).columns := by
  rw [Query.insertColumns, insertRows_draftOf, if_pos rfl]
  rfl

/-- Tables have one unless a record without columns is stored. -/
theorem renderable_sql (hw : WellNamed entity) (h : Served entity verb)
    (hcolumns : verb = .create → entity.columns ≠ []) :
    Sql.Renderable (draftOf entity entity.resolved verb) where
  valid := violation_draftOf_of_served h
  pages := naturalPages_draftOf _ _ _
  words := wordsAccepted_draftOf hw
  operation := operation_draftOf entity entity.resolved verb ▸ operationOf_mem_kinds entity verb
  distinct := nodup_boundNames_draftOf hw h.tenant
  statement := by
    refine ⟨?_, ?_, ?_⟩
    · rw [writtenConditions_draftOf]
      exact fun condition => hasForm_of_mem_guardConditions entity entity.resolved verb
    · intro hinsert
      rw [operation_draftOf, operationOf_eq_insert] at hinsert
      subst hinsert
      obtain ⟨column, hcolumn⟩ := List.exists_mem_of_ne_nil _ (hcolumns rfl)
      rw [insertColumns_draftOf, columns_entity]
      exact List.ne_nil_of_mem (mem_columns_nullRow.mpr hcolumn)
    · intro hinsert row hrow
      rw [operation_draftOf, operationOf_eq_insert] at hinsert
      subst hinsert
      rw [insertRows_draftOf, if_pos rfl, List.mem_singleton] at hrow
      rw [hrow, insertColumns_draftOf]

/-- An entity without columns has nothing that could be wrong with its fields. -/
theorem served_create_of_columns_eq_nil (hw : WellNamed entity) (h : entity.columns = []) :
    Served entity .create := by
  have hnone : ∀ field ∈ entity.fields, field.column? = none := List.filterMap_eq_nil_iff.mp h
  have hdirectives : entity.directives = [] := by
    refine List.flatMap_eq_nil_iff.mpr fun field hfield => ?_
    rw [EntityField.directives, hnone field hfield]
  have htenants : entity.tenantColumns = [] := by
    refine List.eq_nil_iff_forall_not_mem.mpr fun column hcolumn => ?_
    exact List.not_mem_nil (h ▸ Entity.mem_columns_of_mem_tenantColumns hcolumn)
  refine ⟨by simp [hdirectives], by simp [htenants], fun hupdate => ?_, fun hempty => ?_⟩
  · cases hupdate
  · have htarget := hw.target
    rw [hempty] at htarget
    exact absurd htarget (by decide)

/-- The row of an entity without columns is refused. -/
theorem outcome_render_of_columns_eq_nil (hw : WellNamed entity) (h : entity.columns = [])
    (quoting : Sql.Quoting) :
    (Sql.render quoting (draftOf entity entity.resolved .create)).outcome = .error .emptyRow := by
  have hserved := served_create_of_columns_eq_nil hw h
  refine Sql.render_eq_error_of_statement (Sql.accepted_iff.mpr
    ⟨violation_draftOf_of_served hserved, naturalPages_draftOf _ _ _, wordsAccepted_draftOf hw⟩) ?_
  have hrow : (draftOf entity entity.resolved .create).insertColumns = [] := by
    refine List.eq_nil_iff_forall_not_mem.mpr fun column hcolumn => ?_
    rw [insertColumns_draftOf, columns_entity, mem_columns_nullRow, h] at hcolumn
    exact List.not_mem_nil hcolumn
  unfold Sql.statementOf
  rw [operation_draftOf]
  refine (congrArg Traced.outcome (Sql.insertOf_eq _)).trans ?_
  rw [hrow]
  rfl

/-- **Default queries render**, for tables and for documents, whatever the names are.  The one that
stores a record without columns is made and has a command, and no statement. -/
theorem defaultQuery_renders (hw : WellNamed entity) :
    (∀ verb query, (defaultQuery entity verb).outcome = .ok query →
      (∀ disjunction, ∃ command,
        (DocumentStore.render disjunction query).outcome = .ok command) ∧
      (¬(verb = .create ∧ entity.columns = []) →
        ∀ quoting, ∃ rendered, (Sql.render quoting query).outcome = .ok rendered)) ∧
    (entity.columns = [] → ∃ query, (defaultQuery entity .create).outcome = .ok query ∧
      ∀ quoting, (Sql.render quoting query).outcome = .error .emptyRow) := by
  constructor
  · intro verb query h
    obtain ⟨hserved, rfl⟩ := defaultQuery_eq_ok_iff_served.mp h
    refine ⟨fun disjunction => ?_, fun hcolumns quoting => ?_⟩
    · exact (DocumentStore.exists_render_iff disjunction).mpr (renderable_documents hserved)
    · exact (Sql.exists_render_iff quoting).mpr
        (renderable_sql hw hserved fun hcreate hnone => hcolumns ⟨hcreate, hnone⟩)
  · intro hnone
    exact ⟨_, defaultQuery_eq_ok_iff_served.mpr ⟨served_create_of_columns_eq_nil hw hnone, rfl⟩,
      outcome_render_of_columns_eq_nil hw hnone⟩

/-- A column may be named like a parameter or like another column, and the one that identifies a
record may hold the tenant. -/
theorem defaultQuery_renders_colliding :
    let colliding : Entity := ⟨"Order", some "shop.orders",
      [⟨"id", none, none, [("astql", "security:tenant")]⟩, ⟨"update_id", none, none, []⟩,
        ⟨"tenant_id", none, none, []⟩, ⟨"id_0", none, none, []⟩,
        ⟨"owner", none, some "tenant_id", []⟩, ⟨"removed", some "deleted_at", none, []⟩]⟩
    let columnless : Entity := ⟨"Order", none, [⟨"id", some "-", none, []⟩]⟩
    (∃ query, (defaultQuery colliding .update).outcome = .ok query ∧
      (∃ command, (DocumentStore.render .flatten query).outcome = .ok command) ∧
      ∃ rendered, (Sql.render .doubleQuoted query).outcome = .ok rendered) ∧
    ∃ query, (defaultQuery columnless .create).outcome = .ok query ∧
      (Sql.render .plain query).outcome = .error .emptyRow := by
  intro colliding columnless
  constructor
  · have hw : WellNamed colliding := ⟨by decide +kernel, by decide +kernel⟩
    obtain ⟨query, hquery⟩ := Except.exists_of_isOk
      (show (defaultQuery colliding .update).outcome.isOk = true by decide +kernel)
    obtain ⟨hcommand, hrendered⟩ := (defaultQuery_renders hw).1 .update query hquery
    exact ⟨query, hquery, hcommand .flatten, hrendered (fun h => nomatch h.1) .doubleQuoted⟩
  · have hw : WellNamed columnless := ⟨by decide +kernel, by decide +kernel⟩
    obtain ⟨query, hquery, hrefused⟩ := (defaultQuery_renders hw).2 (by decide +kernel)
    exact ⟨query, hquery, hrefused .plain⟩

end

end CrudQuery.Catalog
