import CrudQuery.Proofs.DocumentStore.Refusal
import CrudQuery.Proofs.Draft
import CrudQuery.Proofs.Row.Order

/-! # What a draft has brought together

Only an insert takes rows and only an update takes assignments; on any other draft such calls leave
no trace.  What a run of calls has brought is therefore known from its calls and from what it
started as (`Filled`), and so is what it still lacks (`Lacking`): a draft is built exactly when it
lacks nothing, and the query that is built lacks nothing a backend could ask of its structure.
-/

namespace CrudQuery

namespace Call

/-- The record that a call brings. -/
def record? : Call → Option (Record Value)
  | values record => some record
  | _ => none

/-- The assignment that a call makes. -/
def assignment? : Call → Option Cell
  | assign column value => some ⟨column, value⟩
  | _ => none

theorem rows_steps (call : Call) :
    call.steps.filterMap Step.row? = (call.record?.map Row.ofRecord).toList := by
  cases call
  case fields | groupBy | returning => simp [steps, Step.row?, record?]
  all_goals rfl

theorem assignments_steps (call : Call) :
    call.steps.filterMap Step.assignment? = call.assignment?.toList := by
  cases call
  case fields | groupBy | returning => simp [steps, Step.assignment?, assignment?]
  all_goals rfl

theorem filterMap_record?_eq_nil {calls : List Call} :
    calls.filterMap record? = [] ↔ ∀ record, values record ∉ calls := by
  rw [List.filterMap_eq_nil_iff]
  constructor
  · intro h record hcall
    cases h _ hcall
  · intro h call hcall
    cases call with
    | values record => exact absurd hcall (h record)
    | _ => rfl

theorem filterMap_assignment?_eq_nil {calls : List Call} :
    calls.filterMap assignment? = [] ↔ ∀ column value, assign column value ∉ calls := by
  rw [List.filterMap_eq_nil_iff]
  constructor
  · intro h column value hcall
    cases h _ hcall
  · intro h call hcall
    cases call with
    | assign column value => exact absurd hcall (h column value)
    | _ => rfl

end Call

/-- A row is empty behind assignments iff it was before and none was made. -/
theorem Row.assignAll_eq_nil {row : Row} {cells : List Cell} :
    row.assignAll cells = [] ↔ row = [] ∧ cells = [] := by
  constructor
  · intro h
    have hcolumns : ∀ column, column ∉ row.columns ∧ column ∉ cells.map Cell.field := by
      intro column
      rw [← not_or, ← mem_columns_assignAll, h]
      exact List.not_mem_nil
    constructor
    · exact List.map_eq_nil_iff.mp
        (List.eq_nil_iff_forall_not_mem.mpr fun column => (hcolumns column).1)
    · exact List.map_eq_nil_iff.mp
        (List.eq_nil_iff_forall_not_mem.mpr fun column => (hcolumns column).2)
  · rintro ⟨rfl, rfl⟩
    rfl

/-- The rows and the assignments of a draft are those that its calls bring. -/
structure Filled (operation : Operation) (calls : List Call) (draft : Draft) : Prop where
  /-- An insert, and no other draft, has rows: one for each record that the calls bring, in their
  order. -/
  rows : draft.rows? =
    if operation = .insert then some ((calls.filterMap Call.record?).map Row.ofRecord) else none
  /-- An update, and no other draft, has assignments: those of the calls, made one after another. -/
  updates : draft.updates? =
    if operation = .update then some (Row.assignAll [] (calls.filterMap Call.assignment?))
    else none
  /-- Every row is strictly increasing, so no column stands twice in it. -/
  rowsOrdered : ∀ rows, draft.rows? = some rows → ∀ row ∈ rows, row.Ordered ∧ row.columns.Nodup
  /-- The assignments are strictly increasing, so no column is assigned twice. -/
  updatesOrdered : ∀ updates, draft.updates? = some updates →
    updates.Ordered ∧ updates.columns.Nodup

/-- What a draft needs to be built. -/
structure Complete (operation : Operation) (target : String) (calls : List Call) : Prop where
  target : target ≠ ""
  rows : operation = .insert → ∃ record, Call.values record ∈ calls
  updates : operation = .update → ∃ column value, Call.assign column value ∈ calls

/-- What a draft lacks first: the target is asked for before what it is for. -/
inductive Lacking (operation : Operation) (target : String) (calls : List Call) :
    Violation → Prop
  | target (missing : target = "") : Lacking operation target calls .missingTarget
  | rows (named : target ≠ "") (insert : operation = .insert)
      (missing : ∀ record, Call.values record ∉ calls) :
      Lacking operation target calls .missingInsertRows
  | updates (named : target ≠ "") (update : operation = .update)
      (missing : ∀ column value, Call.assign column value ∉ calls) :
      Lacking operation target calls .missingUpdates

/-- A draft has all that it needs iff there is nothing that it lacks first. -/
theorem complete_iff {operation : Operation} {target : String} {calls : List Call} :
    Complete operation target calls ↔ ∀ violation, ¬ Lacking operation target calls violation := by
  constructor
  · intro h violation hlacking
    cases hlacking with
    | target missing => exact h.target missing
    | rows _ insert missing =>
      obtain ⟨record, hcall⟩ := h.rows insert
      exact missing record hcall
    | updates _ update missing =>
      obtain ⟨column, value, hcall⟩ := h.updates update
      exact missing column value hcall
  · intro h
    have hnamed : target ≠ "" := fun missing => h _ (.target missing)
    refine ⟨hnamed, fun insert => ?_, fun update => ?_⟩
    · by_contra hnone
      exact h _ (.rows hnamed insert (not_exists.mp hnone))
    · by_contra hnone
      exact h _ (.updates hnamed update fun column => not_exists.mp (not_exists.mp hnone column))

/-- What a draft holds and what becomes of it, as far as the calls that it was put together by say. -/
structure Composed (operation : Operation) (target : String) (calls : List Call) (draft : Draft) :
    Prop where
  filled : Filled operation calls draft
  /-- The draft is built iff it lacks nothing. -/
  built : (∃ query, draft.build.outcome = .ok (.ok query)) ↔ Complete operation target calls
  /-- A draft that is not built reports what it lacks first. -/
  refused : ∀ violation, draft.build.outcome = .ok (.error violation) ↔
    Lacking operation target calls violation
  /-- A query that was built is not refused for its structure when it is rendered for tables. -/
  tables : ∀ query, draft.build.outcome = .ok (.ok query) →
    ∀ quoting fault, (Sql.render quoting query).outcome = .error fault →
      fault.family ≠ .validation
  /-- Nor is it when it is rendered for documents. -/
  documents : ∀ query, draft.build.outcome = .ok (.ok query) →
    ∀ disjunction fault, (DocumentStore.render disjunction query).outcome = .error fault →
      fault.family ≠ .validation

namespace Draft
variable (operation : Operation) (target : String) (calls : List Call)

theorem rows_applyAll :
    ((start operation target).applyAll calls).rows? =
      if operation = .insert then some ((calls.filterMap Call.record?).map Row.ofRecord)
      else none := by
  rw [applyAll_eq_steps, steps_rows, Call.filterMap_steps Call.rows_steps, List.map_filterMap]
  change Option.map _ (if operation = .insert then some [] else none) = _
  split <;> rfl

theorem updates_applyAll :
    ((start operation target).applyAll calls).updates? =
      if operation = .update then some (Row.assignAll [] (calls.filterMap Call.assignment?))
      else none := by
  rw [applyAll_eq_steps, steps_updates, Call.filterMap_steps Call.assignments_steps]
  change Option.map _ (if operation = .update then some [] else none) = _
  split <;> rfl

theorem filled_applyAll : Filled operation calls ((start operation target).applyAll calls) where
  rows := rows_applyAll operation target calls
  updates := updates_applyAll operation target calls
  rowsOrdered := by
    intro rows h row hrow
    rw [rows_applyAll] at h
    split at h
    · cases h
      obtain ⟨record, -, rfl⟩ := List.mem_map.mp hrow
      exact ⟨Row.ordered_ofRecord record, (Row.ordered_ofRecord record).nodup_columns⟩
    · cases h
  updatesOrdered := by
    intro updates h
    rw [updates_applyAll] at h
    split at h
    · cases h
      have hordered := Row.ordered_assignAll List.Pairwise.nil (calls.filterMap Call.assignment?)
      exact ⟨hordered, hordered.nodup_columns⟩
    · cases h

/-- The requirements of a query, asked of the calls of a draft. -/
theorem violation_applyAll :
    ((start operation target).applyAll calls).violation? =
      if target = "" then some .missingTarget
      else if operation = .insert ∧ calls.filterMap Call.record? = [] then
        some .missingInsertRows
      else if operation = .update ∧ calls.filterMap Call.assignment? = [] then some .missingUpdates
      else none := by
  unfold Query.violation?
  rw [applyAll_target, applyAll_operation, rows_applyAll, updates_applyAll]
  refine if_congr String.isEmpty_iff rfl (if_congr ?_ rfl (if_congr ?_ rfl rfl))
  · refine and_congr_right fun (ho : operation = .insert) => ?_
    rw [if_pos ho, Option.getD_some, List.isEmpty_iff, List.map_eq_nil_iff]
  · refine and_congr_right fun (ho : operation = .update) => ?_
    rw [if_pos ho, Option.getD_some, List.isEmpty_iff, Row.assignAll_eq_nil, eq_self, true_and]

/-- The requirement that a draft breaks is the first thing that it lacks. -/
theorem violation_applyAll_eq_some {violation : Violation} :
    ((start operation target).applyAll calls).violation? = some violation ↔
      Lacking operation target calls violation := by
  rw [violation_applyAll]
  constructor
  · intro h
    split at h
    · next htarget =>
      cases h
      exact .target htarget
    next htarget =>
    split at h
    · next hrows =>
      cases h
      exact .rows htarget hrows.1 (Call.filterMap_record?_eq_nil.mp hrows.2)
    split at h
    · next hupdates =>
      cases h
      exact .updates htarget hupdates.1 (Call.filterMap_assignment?_eq_nil.mp hupdates.2)
    · cases h
  · intro h
    cases h with
    | target htarget => rw [if_pos htarget]
    | rows htarget ho hnone =>
      rw [if_neg htarget, if_pos ⟨ho, Call.filterMap_record?_eq_nil.mpr hnone⟩]
    | updates htarget ho hnone =>
      rw [if_neg htarget, if_neg (by simp [ho]),
        if_pos ⟨ho, Call.filterMap_assignment?_eq_nil.mpr hnone⟩]

/-- A draft breaks no requirement iff it has all that it needs. -/
theorem violation_applyAll_eq_none :
    ((start operation target).applyAll calls).violation? = none ↔
      Complete operation target calls := by
  rw [complete_iff, Option.eq_none_iff_forall_ne_some]
  exact forall_congr' fun violation =>
    not_congr (violation_applyAll_eq_some operation target calls)

/-- **What a run of calls comes to**, whatever a draft starts as and whatever calls are made. -/
theorem applyAll_composed :
    Composed operation target calls ((start operation target).applyAll calls) where
  filled := filled_applyAll operation target calls
  built := by
    rw [← violation_applyAll_eq_none]
    exact ⟨fun ⟨_, h⟩ => (build_eq_ok.mp h).1, fun h => ⟨_, build_eq_ok.mpr ⟨h, rfl⟩⟩⟩
  refused := by
    intro violation
    rw [← violation_applyAll_eq_some, outcome_build, Except.ok.injEq, Except.okUnless_eq_error]
  tables := by
    intro query h quoting fault
    obtain ⟨hvalid, rfl⟩ := build_eq_ok.mp h
    exact Sql.family_of_render_eq_error hvalid
  documents := by
    intro query h disjunction fault
    obtain ⟨hvalid, rfl⟩ := build_eq_ok.mp h
    exact DocumentStore.family_of_render_eq_error hvalid

/-- A column that is assigned again keeps its place and has its last value. -/
example : ((start .update "users").applyAll [.assign "name" .null, .limit 1, .values .empty,
    .assign "age" .null, .assign "name" (.text "A")]).updates? =
      some [⟨"age", .null⟩, ⟨"name", .text "A"⟩] := by rfl

end Draft

end CrudQuery
