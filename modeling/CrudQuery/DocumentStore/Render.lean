import CrudQuery.DocumentStore.Command
import CrudQuery.Query.Validity

/-! # Queries as document-store commands
-/

namespace CrudQuery.DocumentStore

/-- Fails if a clause that only tables have is there. -/
def refuseClause (target : String) (clause : RelationalClause) (isAbsent : Bool) : Traced Unit := do
  if isAbsent then pure ()
  else
    Traced.log renderContext .error "Clause has no document-store form"
      [("clause", .text clause.name), ("target", .text target)]
    Traced.fail (.unsupportedClause clause)

/-- Fails with the first clause that only tables have. -/
def refuseRelationalClauses (query : Query) : Traced Unit := do
  refuseClause query.target .joins query.joins.isEmpty
  refuseClause query.target .grouping query.grouping.isEmpty
  refuseClause query.target .having query.having.isEmpty

/-- A projection keeps the fields it names; an empty one keeps every field and is none. -/
def projection? (fields : List Projection) : Option (Record Unit) :=
  if fields.isEmpty then none else some (Record.ofList (fields.map fun field => (field.name, ())))

/-- Only a descending key sorts downwards; an ordering without keys is none. -/
def sort? (ordering : List SortKey) : Option (Record SortWay) :=
  if ordering.isEmpty then none
  else
    some <| Record.ofList <| ordering.map fun key =>
      (key.field, if key.direction = .descending then .down else .up)

/-- The call that stores rows. -/
def insertCommand (collection : String) (rows : List Row) : Command :=
  match rows with
  | [row] => .insertOne collection row.toRecord
  | rows => .insertMany collection (rows.map Row.toRecord)

/-- The command of a checked query. -/
def commandOf (disjunction : Disjunction) (query : Query) : Traced Command := do
  match query.operation with
  | .select =>
    let filter ← filterOf disjunction query.conditions
    pure <| .find query.target filter
      ⟨projection? query.fields, sort? query.ordering, query.limit?, query.offset?⟩
  | .insert => pure (insertCommand query.target (query.rows?.getD []))
  | .update =>
    let filter ← filterOf disjunction query.conditions
    pure (.updateOne query.target filter (query.updates?.getD []).toRecord)
  | .delete =>
    let filter ← filterOf disjunction query.conditions
    pure (.deleteOne query.target filter)
  | .count =>
    let filter ← filterOf disjunction query.conditions
    pure (.countDocuments query.target filter)
  | .other _ => Traced.fail (.unsupportedOperation query.operation)

/-- A query as a command. -/
def render (disjunction : Disjunction) (query : Query) : Traced Command := do
  Traced.log renderContext .debug "Rendering query"
    [("operation", .text query.operation.name), ("target", .text query.target)]
  query.requireValid
  query.requirePageBounds
  refuseRelationalClauses query
  let command ← commandOf disjunction query
  Traced.log renderContext .debug "Query rendered"
    [("operation", .text command.operation), ("collection", .text command.collection)]
  pure command

end CrudQuery.DocumentStore
