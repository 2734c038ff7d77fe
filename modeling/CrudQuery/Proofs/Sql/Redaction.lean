import CrudQuery.Proofs.Sql.Acceptance
import CrudQuery.Proofs.Sql.Placeholders

/-! # The text does not depend on the values

Values travel beside the text of a statement.  A query is redacted by leaving out every value that
it carries; what is written and the names that are bound can be computed from what is left.  Two
queries that are equal up to their values are therefore rendered alike, if both are: the values
decide only whether a query is accepted and what stands behind the names.
-/

namespace CrudQuery

/-- A condition without its value. -/
def Condition.redacted (condition : Condition) : Condition := { condition with value := .null }

/-- A row without the values of its cells. -/
def Row.redacted (row : Row) : Row := row.map fun cell => { cell with value := .null }

/-- A query without the values of its conditions, its rows and its assignments. -/
def Query.redacted (query : Query) : Query :=
  { query with
    conditions := query.conditions.map Condition.redacted
    having := query.having.map Condition.redacted
    rows? := query.rows?.map fun rows => rows.map Row.redacted
    updates? := query.updates?.map Row.redacted }

@[simp] theorem Row.columns_redacted (row : Row) : row.redacted.columns = row.columns := by
  simp [Row.redacted, Row.columns, Function.comp_def]

namespace Query
variable (query : Query)

@[simp] theorem insertRows_redacted :
    query.redacted.insertRows = query.insertRows.map Row.redacted := by
  unfold insertRows redacted
  cases query.rows? <;> rfl

@[simp] theorem insertColumns_redacted : query.redacted.insertColumns = query.insertColumns := by
  unfold insertColumns
  rw [insertRows_redacted]
  cases query.insertRows with
  | nil => rfl
  | cons row rest => exact row.columns_redacted

@[simp] theorem assignments_redacted :
    query.redacted.assignments = query.assignments.redacted := by
  unfold assignments redacted
  cases query.updates? <;> rfl

theorem writtenConditions_redacted :
    query.redacted.writtenConditions = query.writtenConditions.map Condition.redacted := by
  unfold writtenConditions
  have ho : query.redacted.operation = query.operation := rfl
  rw [ho]
  cases query.operation <;> simp [redacted]

end Query

namespace Sql

/-! ## Conditions -/

theorem chainPieces_redacted (conditions : List Condition) :
    chainPieces (conditions.map Condition.redacted) = chainPieces conditions := by
  induction conditions with
  | nil => rfl
  | cons condition rest ih =>
    have hcondition : conditionPieces condition.redacted = conditionPieces condition := rfl
    cases rest with
    | nil => exact hcondition
    | cons next rest =>
      rw [chainPieces, ← ih, ← hcondition]
      rfl

theorem conditionClause_redacted (keyword : String) (conditions : List Condition) :
    conditionClause keyword (conditions.map Condition.redacted) =
      conditionClause keyword conditions := by
  rw [conditionClause, conditionClause, chainPieces_redacted, List.isEmpty_map]

/-! ## Rows and assignments -/

theorem tuplePieces_redacted (number : Nat) (row : Row) :
    tuplePieces (row.redacted.map (cellBinding number)) =
      tuplePieces (row.map (cellBinding number)) := by
  simp [tuplePieces, Row.redacted, Binding.pieces, cellBinding, Function.comp_def]

theorem tuplesPieces_redacted (number : Nat) (rows : List Row) :
    (tuplesFrom number (rows.map Row.redacted)).map tuplePieces =
      (tuplesFrom number rows).map tuplePieces := by
  simp [tuplesFrom, List.zipIdx_map, tuplePieces_redacted, Function.comp_def]

theorem assignmentPieces_redacted (row : Row) :
    (row.redacted.map fun cell => (cellAssignment cell).pieces) =
      row.map fun cell => (cellAssignment cell).pieces := by
  simp [Row.redacted, cellAssignment, Assignment.pieces, Binding.pieces, Function.comp_def]

/-! ## Queries -/

/-- What a query writes, it writes without its values too. -/
theorem queryPieces_redacted (query : Query) : queryPieces query.redacted = queryPieces query := by
  have ho : query.redacted.operation = query.operation := rfl
  have hwhere : conditionClause " WHERE " query.redacted.conditions =
      conditionClause " WHERE " query.conditions := conditionClause_redacted _ _
  have hhaving : conditionClause " HAVING " query.redacted.having =
      conditionClause " HAVING " query.having := conditionClause_redacted _ _
  unfold queryPieces
  rw [ho]
  cases query.operation with
  | select =>
    dsimp only
    rw [hwhere, hhaving]
    rfl
  | insert =>
    dsimp only
    rw [query.insertRows_redacted, query.insertColumns_redacted, tuplesPieces_redacted]
    rfl
  | update =>
    dsimp only
    rw [hwhere, query.assignments_redacted, assignmentPieces_redacted]
    rfl
  | delete | count =>
    dsimp only
    rw [hwhere]
    rfl
  | other name => rfl

/-- The names that a query binds do not depend on its values. -/
theorem boundNames_redacted (query : Query) : boundNames query.redacted = boundNames query := by
  have ho : query.redacted.operation = query.operation := rfl
  have hconditions : query.redacted.writtenConditions.flatMap conditionNames =
      query.writtenConditions.flatMap conditionNames := by
    rw [query.writtenConditions_redacted, List.flatMap_map]
    rfl
  unfold boundNames
  rw [ho, hconditions]
  cases query.operation with
  | insert => simp [List.zipIdx_map, List.flatMap_map, rowNames]
  | update => simp
  | select | delete | count | other => rfl

/-- The keys of the parameters of a rendered query, as a record lists them, are its names. -/
theorem keys_of_render {quoting : Quoting} {query : Query} {rendered : Rendered}
    (h : (render quoting query).outcome = .ok rendered) :
    rendered.parameters.record.toList.map Prod.fst = boundNames query := by
  have hnames := names_of_render h
  have hwords : ∀ binding ∈ rendered.parameters.bindings,
      isWord binding.name.toList = true := by
    intro binding hb
    refine isWord_of_mem_boundNames (render_eq h).1.words binding.name ?_
    rw [← hnames]
    exact List.mem_map_of_mem hb
  rw [Parameters.toList_record hwords, List.map_map, ← hnames]
  rfl

/-- **No value is written into a text.**  Two queries that are equal up to the values they carry are
rendered to the same text, and their parameters list the same names in the same order. -/
theorem text_eq_of_redacted_eq {quoting : Quoting} {query other : Query}
    {rendered twin : Rendered} (hq : (render quoting query).outcome = .ok rendered)
    (ho : (render quoting other).outcome = .ok twin) (h : query.redacted = other.redacted) :
    rendered.text = twin.text ∧
      rendered.parameters.record.toList.map Prod.fst =
        twin.parameters.record.toList.map Prod.fst := by
  have hpieces : queryPieces query = queryPieces other := by
    rw [← queryPieces_redacted query, h, queryPieces_redacted]
  have hnames : boundNames query = boundNames other := by
    rw [← boundNames_redacted query, h, boundNames_redacted]
  constructor
  · rw [← String.toList_inj, (render_eq hq).2.2.1, (render_eq ho).2.2.1, hpieces]
  · rw [keys_of_render hq, keys_of_render ho, hnames]

theorem text_eq_of_redacted_eq_update :
    let query : Query := { Query.blank .update "users" with
      conditions := [⟨"u.age", .between, .list [.text "20", .text "30"], .or, "age"⟩,
        ⟨"name", .like, .text "A%", .and, "name"⟩, ⟨"id", .memberOf, .list [], .and, "id"⟩]
      updates? := some [⟨"name", .text "'; DROP TABLE users"⟩] }
    let other : Query := { Query.blank .update "users" with
      conditions := [⟨"u.age", .between, .list [.null, .list [.text ":name"]], .or, "age"⟩,
        ⟨"name", .like, .text "", .and, "name"⟩,
        ⟨"id", .memberOf, .list [.bool true, .null], .and, "id"⟩]
      updates? := some [⟨"name", .list []⟩] }
    ∃ rendered twin, (render .plain query).outcome = .ok rendered ∧
      (render .plain other).outcome = .ok twin ∧ query.redacted = other.redacted ∧
      rendered.text = twin.text ∧
      rendered.parameters.record.toList.map Prod.fst =
        twin.parameters.record.toList.map Prod.fst := by
  intro query other
  obtain ⟨rendered, hq⟩ := Except.exists_of_isOk
    (show (render .plain query).outcome.isOk = true by decide +kernel)
  obtain ⟨twin, ho⟩ := Except.exists_of_isOk
    (show (render .plain other).outcome.isOk = true by decide +kernel)
  exact ⟨rendered, twin, hq, ho, rfl, text_eq_of_redacted_eq hq ho rfl⟩

end Sql

end CrudQuery
