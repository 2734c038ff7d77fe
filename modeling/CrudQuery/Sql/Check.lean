import CrudQuery.Sql.Word

/-! # Checking the words of a query

Every place of a query that holds a word is looked at, also those that a statement of its kind does
not write. The first word that is refused is the fault.
-/

namespace CrudQuery.Sql

/-- Checks a projected field and its label. An empty label is none. -/
def checkProjection (field : Projection) : Traced Unit := do
  requireIdentifierOrAll field.name
  match field.label? with
  | some label => if label.isEmpty then pure () else requireLabel label
  | none => pure ()

/-- Checks the field and the parameter of a predicate. -/
def checkCondition (condition : Condition) : Traced Unit := do
  requireIdentifier condition.field
  requireParameter condition.parameter

/-- Checks the kind and the target of a join. -/
def checkJoin (join : Join) : Traced Unit := do
  requireJoinKind join.kind
  requireIdentifier join.target

/-- Checks the field and the direction of a sort key. -/
def checkSortKey (key : SortKey) : Traced Unit := do
  requireIdentifier key.field
  requireDirection key.direction

/-- Checks the column names of a row. -/
def checkRow (row : Row) : Traced Unit := row.forM fun cell => requireIdentifier cell.field

/-- Checks every word of a query. -/
def checkWords (query : Query) : Traced Unit := do
  Traced.log checkContext .debug "Validating SQL identifiers"
    [("operation", .text query.operation.name), ("target", .text query.target)]
  requireIdentifier query.target
  query.fields.forM checkProjection
  (query.conditions ++ query.having).forM checkCondition
  query.joins.forM checkJoin
  query.ordering.forM checkSortKey
  query.grouping.forM requireIdentifier
  (query.rows?.getD []).forM checkRow
  checkRow (query.updates?.getD [])
  query.returning.forM requireIdentifierOrAll

end CrudQuery.Sql
