import CrudQuery.Proofs.Catalog.Resolution
import CrudQuery.Proofs.Row
import CrudQuery.Proofs.Sql.Compilation

/-! # What a default query is made of

The calls that compose a default query come down to a run of steps in four parts: what the verb
reads or writes, the hints of the fields, the conditions that guard the verb, and the page of a
listing (`steps_calls`).  Each clause of the query is read off this run, and what is proved of
default queries later is proved of these clauses.  The only thing left in them that is made step by
step is the row of an update.
-/

namespace CrudQuery.Catalog

/-- A row that gives columns the null value. -/
def nullRow (columns : List String) : Row :=
  Row.ofRecord (Record.ofList (columns.map fun column => (column, .null)))

theorem mem_columns_nullRow {columns : List String} {column : String} :
    column ∈ (nullRow columns).columns ↔ column ∈ columns := by
  rw [nullRow, (Row.columns_ofRecord_perm _).mem_iff, Record.mem_keys_ofList, List.map_map]
  exact iff_of_eq (congrArg (column ∈ ·) (List.map_id columns))

theorem nodup_columns_nullRow (columns : List String) : (nullRow columns).columns.Nodup :=
  (Row.columns_ofRecord_perm _).nodup_iff.mpr (Record.ofList _).keys_nodup

/-- What a verb reads or writes. -/
def contentSteps (entity : Entity) (columns : List String) : Verb → List Step
  | .get | .list => columns.map fun column => .project ⟨column, none⟩
  | .create => [.row (nullRow columns), .giveBack "*"]
  | .update => .giveBack "*" :: (updatable columns).map fun column => .assign column .null
  | .delete => if isSoftDeleted entity then [.assign deletedField .null] else []
  | .count => []

/-- The conditions that guard a verb. -/
def guardConditions (entity : Entity) (fields : List Resolved) (verb : Verb) : List Condition :=
  if verb = .create then []
  else
    (tenantColumns fields).map (fun column => ⟨column, .equal, .null, .and, tenantParameter⟩) ++
      (if isSoftDeleted entity then [⟨deletedField, .isNull, .null, .and, deletedField⟩] else []) ++
      (if verb.isById then [⟨idField, .equal, .null, .and, idField⟩] else [])

theorem mem_guardConditions {entity : Entity} {fields : List Resolved} {verb : Verb}
    {condition : Condition} :
    condition ∈ guardConditions entity fields verb ↔
      verb ≠ .create ∧
        ((∃ column ∈ tenantColumns fields,
            condition = ⟨column, .equal, .null, .and, tenantParameter⟩) ∨
          (isSoftDeleted entity = true ∧
            condition = ⟨deletedField, .isNull, .null, .and, deletedField⟩) ∨
          (verb.isById = true ∧ condition = ⟨idField, .equal, .null, .and, idField⟩)) := by
  unfold guardConditions
  split
  · next hcreate => simp [hcreate]
  · next hcreate =>
    simp only [List.mem_append, List.mem_map, List.mem_ite_nil_right, List.mem_singleton, or_assoc,
      ne_eq, hcreate, not_false_eq_true, true_and, eq_comm (a := condition)]

/-- The order and the page of a listing. -/
def pageSteps (entity : Entity) (verb : Verb) : List Step :=
  if verb = .list then
    (if entity.hasField createdField then [.sort ⟨createdField, .descending⟩] else []) ++
      [.limit listLimit.toFloat, .offset 0]
  else []

section
variable (entity : Entity) (fields : List Resolved) (verb : Verb)

/-! ## The run -/

theorem steps_ite (p : Prop) [Decidable p] (call : Call) :
    (if p then [call] else []).flatMap Call.steps = if p then call.steps else [] := by
  split <;> simp

theorem steps_contentCalls (columns : List String) :
    (contentCalls entity columns verb).flatMap Call.steps = contentSteps entity columns verb := by
  cases verb with
  | delete => exact steps_ite _ _
  | update =>
    rw [contentCalls, contentSteps, List.flatMap_cons, List.flatMap_map, List.map_eq_flatMap]
    rfl
  | _ => simp [contentCalls, contentSteps, nullRow, Call.steps]

theorem steps_hintCalls :
    (hintCalls fields).flatMap Call.steps = (fields.flatMap Resolved.hints).map Step.hint := by
  rw [hintCalls, List.flatMap_map, List.map_eq_flatMap]
  rfl

theorem steps_guardCalls :
    (guardCalls entity fields verb).flatMap Call.steps =
      (guardConditions entity fields verb).map (Step.restrict · false) := by
  have hdeleted : parameterName deletedField = deletedField := by decide +kernel
  have hid : parameterName idField = idField := by decide +kernel
  have hmap : ∀ (p : Prop) [Decidable p] (condition : Condition),
      (if p then [condition] else []).map (Step.restrict · false) =
        if p then [.restrict condition false] else [] := by
    intro p _ condition
    split <;> rfl
  unfold guardCalls guardConditions
  split
  · rfl
  · rw [List.flatMap_append, List.flatMap_append, List.map_append, List.map_append, steps_ite,
      steps_ite, hmap, hmap, List.flatMap_map, List.map_map, List.map_eq_flatMap]
    simp only [Call.steps, Step.onField, hdeleted, hid]
    rfl

theorem steps_pageCalls :
    (pageCalls entity verb).flatMap Call.steps = pageSteps entity verb := by
  unfold pageCalls pageSteps
  split
  · rw [List.flatMap_append, steps_ite]
    rfl
  · rfl

/-- **The run of a default query.** -/
theorem steps_calls :
    (calls entity fields verb).flatMap Call.steps =
      contentSteps entity (fields.map Resolved.column) verb ++
        (fields.flatMap Resolved.hints).map Step.hint ++
        (guardConditions entity fields verb).map (Step.restrict · false) ++
        pageSteps entity verb := by
  rw [calls, List.flatMap_append, List.flatMap_append, List.flatMap_append, steps_contentCalls,
    steps_hintCalls, steps_guardCalls, steps_pageCalls]

/-- What some steps of the run bring, part by part. -/
theorem filterMap_steps_calls {α : Type} (part? : Step → Option α) :
    ((calls entity fields verb).flatMap Call.steps).filterMap part? =
      (contentSteps entity (fields.map Resolved.column) verb).filterMap part? ++
        (fields.flatMap Resolved.hints).filterMap (fun hint => part? (.hint hint)) ++
        (guardConditions entity fields verb).filterMap
          (fun condition => part? (.restrict condition false)) ++
        (pageSteps entity verb).filterMap part? := by
  rw [steps_calls, List.filterMap_append, List.filterMap_append, List.filterMap_append,
    List.filterMap_map, List.filterMap_map]
  rfl

/-! ## The clauses -/

theorem operation_draftOf : (draftOf entity fields verb).operation = operationOf entity verb := by
  rw [draftOf, Draft.applyAll_operation]
  rfl

theorem target_draftOf : (draftOf entity fields verb).target = entity.target := by
  rw [draftOf, Draft.applyAll_eq_steps, Draft.steps_target]
  rfl

theorem operationOf_eq_insert : operationOf entity verb = .insert ↔ verb = .create := by
  cases verb with
  | delete => rw [operationOf]; split <;> simp
  | _ => simp [operationOf]

/-- No step of the run asks for a disjunction. -/
theorem isDisjoined_of_mem_steps_calls :
    ∀ step ∈ (calls entity fields verb).flatMap Call.steps, step.isDisjoined = false := by
  rw [steps_calls]
  simp only [List.forall_mem_append, List.forall_mem_map]
  refine ⟨⟨⟨?_, fun _ _ => rfl⟩, fun _ _ => rfl⟩, ?_⟩
  · cases verb <;> simp [contentSteps, Step.isDisjoined]
  · cases verb <;> cases hcreated : entity.hasField createdField <;>
      simp [pageSteps, Step.isDisjoined, hcreated]

theorem conditions_draftOf :
    (draftOf entity fields verb).conditions = guardConditions entity fields verb := by
  rw [draftOf, Draft.applyAll_eq_steps,
    Draft.steps_conditions _ (isDisjoined_of_mem_steps_calls entity fields verb),
    filterMap_steps_calls]
  cases verb <;> cases hcreated : entity.hasField createdField <;>
    simp [Step.condition?, contentSteps, pageSteps, Draft.start, Query.blank, Function.comp_def,
      hcreated, List.filterMap_cons]

/-- A clause that a draft starts without holds what the run brings. -/
theorem read_draftOf {α : Type} (clause : Draft.Clause α)
    (h : clause.read (Draft.start (operationOf entity verb) entity.target) = []) :
    clause.read (draftOf entity fields verb) =
      ((calls entity fields verb).flatMap Call.steps).filterMap clause.part? := by
  rw [draftOf, Draft.applyAll_eq_steps, clause.read_steps, h, List.nil_append]

/-- A reading verb projects every column. -/
theorem fields_draftOf :
    (draftOf entity fields verb).fields =
      if verb ∈ [.get, .list] then fields.map fun field => ⟨field.column, none⟩ else [] := by
  refine (read_draftOf entity fields verb .fields rfl).trans ?_
  rw [filterMap_steps_calls]
  cases verb <;> simp [Draft.Clause.fields, contentSteps, pageSteps]

theorem joins_draftOf : (draftOf entity fields verb).joins = [] := by
  refine (read_draftOf entity fields verb .joins rfl).trans ?_
  rw [filterMap_steps_calls]
  cases verb <;> simp [Draft.Clause.joins, contentSteps, pageSteps]

theorem grouping_draftOf : (draftOf entity fields verb).grouping = [] := by
  refine (read_draftOf entity fields verb .grouping rfl).trans ?_
  rw [filterMap_steps_calls]
  cases verb <;> simp [Draft.Clause.grouping, contentSteps, pageSteps]

theorem having_draftOf : (draftOf entity fields verb).having = [] := by
  refine (read_draftOf entity fields verb .having rfl).trans ?_
  rw [filterMap_steps_calls]
  cases verb <;> simp [Draft.Clause.having, contentSteps, pageSteps]

/-- Only a listing is ordered, newest first, if some field goes by the name of the time of
creation. -/
theorem ordering_draftOf :
    (draftOf entity fields verb).ordering =
      if verb = .list ∧ entity.hasField createdField then [⟨createdField, .descending⟩]
      else [] := by
  refine (read_draftOf entity fields verb .ordering rfl).trans ?_
  rw [filterMap_steps_calls]
  cases verb <;> cases hcreated : entity.hasField createdField <;>
    simp [Draft.Clause.ordering, contentSteps, pageSteps, hcreated]

theorem returning_draftOf :
    (draftOf entity fields verb).returning =
      if verb ∈ [.create, .update] then ["*"] else [] := by
  refine (read_draftOf entity fields verb .returning rfl).trans ?_
  rw [filterMap_steps_calls]
  cases verb <;> simp [Draft.Clause.returning, contentSteps, pageSteps]

theorem hints_draftOf : (draftOf entity fields verb).hints = fields.flatMap Resolved.hints := by
  refine (read_draftOf entity fields verb .hints rfl).trans ?_
  rw [filterMap_steps_calls]
  cases verb <;> simp [Draft.Clause.hints, contentSteps, pageSteps]

/-- Only a listing is cut to a page. -/
theorem page_draftOf (bound : PageBound) :
    (draftOf entity fields verb).page? bound =
      if verb = .list then
        some (match bound with | .limit => listLimit.toFloat | .offset => 0)
      else none := by
  rw [draftOf, Draft.applyAll_eq_steps, Draft.steps_page, filterMap_steps_calls]
  cases bound <;> cases verb <;> cases hcreated : entity.hasField createdField <;>
    simp [Step.page?, Query.page?, contentSteps, pageSteps, Draft.start, Query.blank,
      Function.comp_def, hcreated, List.filterMap_cons]

/-- Only a new record has a row, which gives every column of the entity the null value. -/
theorem rows_draftOf :
    (draftOf entity fields verb).rows? =
      if verb = .create then some [nullRow (fields.map Resolved.column)] else none := by
  rw [draftOf, Draft.applyAll_eq_steps, Draft.steps_rows, filterMap_steps_calls]
  cases verb <;> cases hsoft : isSoftDeleted entity <;>
    simp [Step.row?, contentSteps, pageSteps, Draft.start, Query.blank, operationOf, hsoft,
      Function.comp_def, List.filterMap_cons]

theorem insertRows_draftOf :
    (draftOf entity fields verb).insertRows =
      if verb = .create then [nullRow (fields.map Resolved.column)] else [] := by
  rw [Query.insertRows, rows_draftOf]
  split <;> rfl

/-- What an update sets, and what marks a record as deleted. -/
def assigned (entity : Entity) (columns : List String) : Verb → List Cell
  | .update => (updatable columns).map fun column => ⟨column, .null⟩
  | .delete => if isSoftDeleted entity then [⟨deletedField, .null⟩] else []
  | _ => []

theorem updates_draftOf :
    (draftOf entity fields verb).updates? =
      if operationOf entity verb = .update then
        some (Row.assignAll [] (assigned entity (fields.map Resolved.column) verb))
      else none := by
  rw [draftOf, Draft.applyAll_eq_steps, Draft.steps_updates, filterMap_steps_calls]
  cases verb <;> cases hsoft : isSoftDeleted entity <;>
    simp [Step.assignment?, assigned, contentSteps, pageSteps, Draft.start, Query.blank,
      operationOf, hsoft, Function.comp_def, List.filterMap_cons]

theorem assignments_draftOf :
    (draftOf entity fields verb).assignments =
      Row.assignAll [] (assigned entity (fields.map Resolved.column) verb) := by
  rw [Query.assignments, updates_draftOf]
  cases verb <;> cases hsoft : isSoftDeleted entity <;>
    simp [operationOf, assigned, hsoft, Row.assignAll]

end

/-- An update sets columns of the entity, and deleting a record sets the mark for it. -/
theorem mem_columns_of_mem_assignments {entity : Entity} {fields : List Resolved} {verb : Verb}
    {column : String} (h : column ∈ (draftOf entity fields verb).assignments.columns) :
    column ∈ fields.map Resolved.column ∨
      (verb = .delete ∧ isSoftDeleted entity = true ∧ column = deletedField) := by
  rw [assignments_draftOf, Row.mem_columns_assignAll] at h
  rcases h with hnone | hset
  · cases hnone
  · obtain ⟨cell, hcell, rfl⟩ := List.mem_map.mp hset
    cases verb with
    | update =>
      obtain ⟨column, hcolumn, rfl⟩ := List.mem_map.mp hcell
      exact .inl (List.mem_filter.mp hcolumn).1
    | delete =>
      obtain ⟨hsoft, hmark⟩ := List.mem_ite_nil_right.mp hcell
      rw [List.mem_singleton.mp hmark]
      exact .inr ⟨rfl, hsoft, rfl⟩
    | get | list | create | count => cases hcell

end CrudQuery.Catalog
