import CrudQuery.Draft
import CrudQuery.Proofs.Outcome

/-! # What a draft is made of

A draft is a run of steps, each of which adds to one clause and leaves the others alone.  So a
clause of a draft is read off its run: the operation and the target are those it started with, the
conditions are those the steps bring, in order, as long as no step asks for a disjunction, and the
same is so of every clause that steps only add to (`Clause`).  A page bound is the last one given,
and the assignments of an update are made one after another.
-/

namespace CrudQuery

/-- The condition that a step brings. -/
def Step.condition? : Step → Option Condition
  | restrict condition _ => some condition
  | _ => none

/-- Whether a step puts a disjunction before what it brings. -/
def Step.isDisjoined : Step → Bool
  | restrict _ disjoined => disjoined
  | _ => false

/-- The row that a step brings. -/
def Step.row? : Step → Option Row
  | row cells => some cells
  | _ => none

/-- The assignment that a step brings. -/
def Step.assignment? : Step → Option Cell
  | assign field value => some ⟨field, value⟩
  | _ => none

/-- What a step sets a page bound to. -/
def Step.page? (bound : PageBound) : Step → Option Float
  | limit value => if bound = .limit then some value else none
  | offset value => if bound = .offset then some value else none
  | _ => none

/-- A page bound of a query. -/
def Query.page? (query : Query) : PageBound → Option Float
  | .limit => query.limit?
  | .offset => query.offset?

/-- A row with some cells assigned one after another. -/
def Row.assignAll (row : Row) (cells : List Cell) : Row :=
  cells.foldl (fun row cell => row.assign cell.field cell.value) row

namespace Call

/-- Whether a call puts a disjunction before what it brings. -/
def isDisjoined : Call → Bool
  | orFilter .. => true
  | _ => false

/-- What a run of calls comes down to, if each call comes down to one thing at most. -/
theorem filterMap_steps {α : Type} {part? : Step → Option α} {whole? : Call → Option α}
    (h : ∀ call : Call, call.steps.filterMap part? = (whole? call).toList) (calls : List Call) :
    (calls.flatMap steps).filterMap part? = calls.filterMap whole? := by
  rw [List.filterMap_flatMap, List.filterMap_eq_flatMap_toList]
  exact List.flatMap_congr fun call _ => h call

end Call

namespace Draft

/-! ## One step -/

theorem step_operation (draft : Draft) (step : Step) :
    (draft.step step).operation = draft.operation := by
  cases step <;> rfl

theorem step_conditions (draft : Draft) {step : Step} (h : step.isDisjoined = false) :
    (draft.step step).conditions = draft.conditions ++ step.condition?.toList := by
  cases step with
  | restrict condition disjoined => cases h; rfl
  | _ => exact (List.append_nil _).symm

/-! ## A run of steps -/

theorem steps_operation (draft : Draft) (taken : List Step) :
    (draft.steps taken).operation = draft.operation := by
  induction taken generalizing draft with
  | nil => rfl
  | cons step rest ih => exact (ih (draft.step step)).trans (step_operation draft step)

theorem steps_conditions (draft : Draft) {taken : List Step}
    (h : ∀ step ∈ taken, step.isDisjoined = false) :
    (draft.steps taken).conditions = draft.conditions ++ taken.filterMap Step.condition? := by
  induction taken generalizing draft with
  | nil => exact (List.append_nil _).symm
  | cons step rest ih =>
    obtain ⟨hstep, hrest⟩ := List.forall_mem_cons.mp h
    have hcons : (draft.steps (step :: rest)).conditions =
        draft.conditions ++ (step.condition?.toList ++ rest.filterMap Step.condition?) := by
      rw [← List.append_assoc, ← step_conditions draft hstep]
      exact ih (draft.step step) hrest
    rw [hcons, List.filterMap_cons]
    cases step.condition? <;> rfl

theorem steps_target (draft : Draft) (taken : List Step) :
    (draft.steps taken).target = draft.target := by
  induction taken generalizing draft with
  | nil => rfl
  | cons step rest ih => exact (ih (draft.step step)).trans (by cases step <;> rfl)

/-- Only an insert has rows; the steps add theirs behind those there are. -/
theorem steps_rows (draft : Draft) (taken : List Step) :
    (draft.steps taken).rows? = draft.rows?.map (· ++ taken.filterMap Step.row?) := by
  induction taken generalizing draft with
  | nil => simp [steps]
  | cons step rest ih =>
    change ((draft.step step).steps rest).rows? = _
    rw [ih, List.filterMap_cons]
    cases step <;> simp [Draft.step, Step.row?, Function.comp_def]

/-- Only an update has assignments; the steps make theirs one after another. -/
theorem steps_updates (draft : Draft) (taken : List Step) :
    (draft.steps taken).updates? =
      draft.updates?.map (·.assignAll (taken.filterMap Step.assignment?)) := by
  induction taken generalizing draft with
  | nil => simp [steps, Row.assignAll]
  | cons step rest ih =>
    change ((draft.step step).steps rest).updates? = _
    rw [ih, List.filterMap_cons]
    cases step <;> simp [Draft.step, Step.assignment?, Function.comp_def, Row.assignAll]

/-- A page bound is what the last step that sets it says. -/
theorem steps_page (bound : PageBound) (draft : Draft) (taken : List Step) :
    (draft.steps taken).page? bound =
      (taken.filterMap (Step.page? bound)).getLast?.or (draft.page? bound) := by
  induction taken generalizing draft with
  | nil => rfl
  | cons step rest ih =>
    have hstep : (draft.step step).page? bound = (step.page? bound).or (draft.page? bound) := by
      cases bound <;> cases step <;> rfl
    change ((draft.step step).steps rest).page? bound = _
    rw [ih, hstep, List.filterMap_cons]
    cases step.page? bound with
    | none => rfl
    | some value => cases rest.filterMap (Step.page? bound) <;> simp [List.getLast?_cons]

/-! ## Clauses that only grow -/

/-- A clause that steps only add to, at its end and whatever else the draft has: how it is read, and
what a step adds. -/
structure Clause (α : Type) where
  read : Draft → List α
  part? : Step → Option α
  read_step : ∀ draft step, read (draft.step step) = read draft ++ (part? step).toList

namespace Clause

/-- The projected fields. -/
def fields : Clause Projection where
  read := Query.fields
  part?
    | .project field => some field
    | _ => none
  read_step _ step := by cases step <;> simp [Draft.step]

/-- The joins. -/
def joins : Clause Join where
  read := Query.joins
  part?
    | .join join => some join
    | _ => none
  read_step _ step := by cases step <;> simp [Draft.step]

/-- The sort keys. -/
def ordering : Clause SortKey where
  read := Query.ordering
  part?
    | .sort key => some key
    | _ => none
  read_step _ step := by cases step <;> simp [Draft.step]

/-- The grouped fields. -/
def grouping : Clause String where
  read := Query.grouping
  part?
    | .group field => some field
    | _ => none
  read_step _ step := by cases step <;> simp [Draft.step]

/-- The conditions on groups. -/
def having : Clause Condition where
  read := Query.having
  part?
    | .having condition => some condition
    | _ => none
  read_step _ step := by cases step <;> simp [Draft.step]

/-- The fields that are given back. -/
def returning : Clause String where
  read := Query.returning
  part?
    | .giveBack field => some field
    | _ => none
  read_step _ step := by cases step <;> simp [Draft.step]

/-- The hints. -/
def hints : Clause Hint where
  read := Query.hints
  part?
    | .hint hint => some hint
    | _ => none
  read_step _ step := by cases step <;> simp [Draft.step]

/-- A clause holds what was there and what the steps add, in order. -/
theorem read_steps {α : Type} (clause : Clause α) (draft : Draft) (taken : List Step) :
    clause.read (draft.steps taken) = clause.read draft ++ taken.filterMap clause.part? := by
  induction taken generalizing draft with
  | nil => exact (List.append_nil _).symm
  | cons step rest ih =>
    change clause.read ((draft.step step).steps rest) = _
    rw [ih, clause.read_step, List.append_assoc, List.filterMap_cons]
    cases clause.part? step <;> rfl

end Clause

/-! ## A run of calls -/

theorem applyAll_target (draft : Draft) (calls : List Call) :
    (draft.applyAll calls).target = draft.target := by
  rw [applyAll_eq_steps, steps_target]

theorem applyAll_operation (draft : Draft) (calls : List Call) :
    (draft.applyAll calls).operation = draft.operation := by
  rw [applyAll_eq_steps, steps_operation]

/-- A draft that is built is the query it was, unless it lacks something that every query must
have. -/
theorem outcome_build (draft : Draft) :
    draft.build.outcome = .ok (Except.okUnless draft.violation? draft) := by
  unfold build Query.inspect
  cases draft.violation? <;> rfl

theorem build_eq_ok {draft : Draft} {query : Query} :
    draft.build.outcome = .ok (.ok query) ↔ draft.violation? = none ∧ query = draft := by
  rw [outcome_build, Except.ok.injEq, Except.okUnless_eq_ok, eq_comm (a := draft)]

theorem outcome_buildOrFail (draft : Draft) :
    draft.buildOrFail.outcome = Except.okUnless (draft.violation?.map .invalid) draft := by
  unfold buildOrFail build Query.inspect
  cases draft.violation? <;> rfl

theorem buildOrFail_eq_ok {draft : Draft} {query : Query} :
    draft.buildOrFail.outcome = .ok query ↔ draft.violation? = none ∧ query = draft := by
  rw [outcome_buildOrFail, Except.okUnless_eq_ok, Option.map_eq_none_iff, eq_comm (a := draft)]

end Draft

end CrudQuery
