import CrudQuery.Query.Validity
import CrudQuery.Sql.Check
import CrudQuery.Sql.Statement

/-! # Queries as SQL

A query is checked, brought into the form of a statement while its values are bound, and written.
Values are bound in the order in which the statement is built up, predicate by predicate and row by
row, so the first fault of that walk is the one that is reported.
-/

namespace CrudQuery.Sql

/-- The text of a statement with the values for its placeholders. -/
structure Rendered where
  text : String
  parameters : Parameters

/-- The name under which this module logs. -/
def renderContext : String := "SQLRenderer"

/-- A comparison of the field of a condition with its value. -/
def comparePredicate (comparison : Comparison) (condition : Condition) : Traced Predicate :=
  pure (.compare condition.field comparison ⟨condition.parameter, condition.value⟩)

/-- A comparison of the field of a condition with its pattern. -/
def patternPredicate (comparison : Comparison) (condition : Condition) : Traced Predicate := do
  let pattern ← Traced.ofExcept condition.pattern
  pure (.compare condition.field comparison ⟨condition.parameter, .text pattern⟩)

/-- The predicate of a condition, if its operator has one and its value the right shape. -/
def predicateOf (condition : Condition) : Traced Predicate := do
  match condition.operator with
  | .equal => comparePredicate .equal condition
  | .notEqual => comparePredicate .notEqual condition
  | .greater => comparePredicate .greater condition
  | .greaterOrEqual => comparePredicate .greaterOrEqual condition
  | .less => comparePredicate .less condition
  | .lessOrEqual => comparePredicate .lessOrEqual condition
  | .like => patternPredicate .like condition
  | .regex => patternPredicate .regex condition
  | .memberOf =>
    let members ← Traced.ofExcept condition.members
    pure (.anyOf condition.field ⟨condition.parameter, .list members⟩)
  | .notMemberOf =>
    let members ← Traced.ofExcept condition.members
    pure (.noneOf condition.field ⟨condition.parameter, .list members⟩)
  | .isNull => pure (.isNull condition.field)
  | .isNotNull => pure (.isNotNull condition.field)
  | .between =>
    let (low, high) ← Traced.ofExcept condition.bounds
    pure (.between condition.field ⟨condition.parameter ++ "_lo", low⟩
      ⟨condition.parameter ++ "_hi", high⟩)
  | .isPresent | .other _ =>
    Traced.log renderContext .error "Operator has no SQL form"
      [("operator", .text condition.operator.name), ("field", .text condition.field)]
    Traced.fail (.unsupportedOperator .sql condition.operator)

/-- The chain of some conditions, with their values bound after those there are. -/
def chainOf (parameters : Parameters) : List Condition → Traced (Chain × Parameters)
  | [] => pure ([], parameters)
  | condition :: rest => do
    let predicate ← predicateOf condition
    let parameters ← Traced.ofExcept (parameters.bindAll predicate.bindings)
    let (chain, parameters) ← chainOf parameters rest
    pure (⟨predicate, condition.connector.isOr⟩ :: chain, parameters)

/-- A value of an inserted row is bound under its column and the number of the row. -/
def cellBinding (row : Nat) (cell : Cell) : Binding :=
  ⟨parameterName cell.field ++ "_" ++ row.repr, cell.value⟩

/-- Fails unless a row has the columns of the first one. -/
def requireColumns (expected : List String) (number : Nat) (row : Row) : Traced Unit := do
  if row.columns = expected then pure ()
  else
    Traced.log renderContext .error "INSERT rows have different columns"
      [("row", .ofNat number), ("expected", .ofTexts expected), ("actual", .ofTexts row.columns)]
    Traced.fail (.mismatchedRow number expected row.columns)

/-- The tuples of rows numbered from some number on. -/
def tuplesOf (columns : List String) (parameters : Parameters) (number : Nat) :
    List Row → Traced (List (List Binding) × Parameters)
  | [] => pure ([], parameters)
  | row :: rest => do
    requireColumns columns number row
    let tuple := row.map (cellBinding number)
    let parameters ← Traced.ofExcept (parameters.bindAll tuple)
    let (tuples, parameters) ← tuplesOf columns parameters (number + 1) rest
    pure (tuple :: tuples, parameters)

/-- A value that an update sets is bound under its column. -/
def cellAssignment (cell : Cell) : Assignment :=
  ⟨cell.field, ⟨"update_" ++ parameterName cell.field, cell.value⟩⟩

/-- A select statement. -/
def selectOf (query : Query) : Traced (Statement × Parameters) := do
  let (filter, parameters) ← chainOf .empty query.conditions
  let (having, parameters) ← chainOf parameters query.having
  pure (.select query.fields query.target query.joins filter query.grouping having query.ordering
    query.limit? query.offset?, parameters)

/-- An insert statement, its columns those of the first row. -/
def insertOf (query : Query) : Traced (Statement × Parameters) := do
  let rows := query.rows?.getD []
  let columns := (rows.head?.getD []).columns
  if columns.isEmpty then Traced.fail .emptyRow
  else
    let (tuples, parameters) ← tuplesOf columns .empty 0 rows
    pure (.insert query.target columns tuples query.returning, parameters)

/-- An update statement. -/
def updateOf (query : Query) : Traced (Statement × Parameters) := do
  let assignments := (query.updates?.getD []).map cellAssignment
  let parameters ← Traced.ofExcept (Parameters.empty.bindAll (assignments.map Assignment.operand))
  let (filter, parameters) ← chainOf parameters query.conditions
  pure (.update query.target assignments filter query.returning, parameters)

/-- A delete statement. -/
def deleteOf (query : Query) : Traced (Statement × Parameters) := do
  let (filter, parameters) ← chainOf .empty query.conditions
  pure (.delete query.target filter query.returning, parameters)

/-- A statement that counts rows. -/
def countOf (query : Query) : Traced (Statement × Parameters) := do
  let (filter, parameters) ← chainOf .empty query.conditions
  pure (.count query.target filter, parameters)

/-- The statement of a checked query. -/
def statementOf (query : Query) : Traced (Statement × Parameters) :=
  match query.operation with
  | .select => selectOf query
  | .insert => insertOf query
  | .update => updateOf query
  | .delete => deleteOf query
  | .count => countOf query
  | .other _ => Traced.fail (.unsupportedOperation query.operation)

/-- Checks a query and brings it into the form of a statement. -/
def compile (query : Query) : Traced (Statement × Parameters) := do
  Traced.log renderContext .debug "Rendering query"
    [("operation", .text query.operation.name), ("target", .text query.target)]
  query.requireValid
  query.requirePageBounds
  checkWords query
  let (statement, parameters) ← statementOf query
  Traced.log renderContext .debug "Query rendered"
    [("operation", .text query.operation.name), ("paramCount", .ofNat parameters.names.length)]
  pure (statement, parameters)

/-- A query as SQL text in a dialect, with its parameters. -/
def render (quoting : Quoting) (query : Query) : Traced Rendered := do
  let (statement, parameters) ← compile query
  pure ⟨statement.text quoting, parameters⟩

end CrudQuery.Sql
