import CrudQuery.Operator
import CrudQuery.Row

/-! # Queries

One data operation, described without reference to a backend: what is read or written, under which
predicates, in which order. Places that hold a word from a fixed set keep a foreign word as it is,
because a query may be made by hand and is judged only when it is compiled.
-/

namespace CrudQuery

/-- The kind of a data operation. -/
inductive Operation where
  | select
  | insert
  | update
  | delete
  | count
  | other (name : String)
  deriving Repr, DecidableEq

/-- What stands between a predicate and the next one. -/
inductive Connector where
  | and
  | or
  | other (name : String)
  deriving Repr, DecidableEq

/-- Which way a sort key orders. -/
inductive Direction where
  | ascending
  | descending
  | other (name : String)
  deriving Repr, DecidableEq

/-- Which rows without a partner a join keeps. -/
inductive JoinKind where
  | inner
  | left
  | right
  | full
  | fullOuter
  | cross
  | other (name : String)
  deriving Repr, DecidableEq

/-- A projected field, with the name it gets in the result if that is another one. -/
structure Projection where
  name : String
  label? : Option String
  deriving Repr, DecidableEq

/-- One predicate of a chain. The connector stands between it and the next predicate of the chain
and means nothing on the last one; the value is bound under the parameter name. -/
structure Condition where
  field : String
  operator : Operator
  value : Value
  connector : Connector
  parameter : String

/-- A joined table and the raw text of its join predicate. -/
structure Join where
  kind : JoinKind
  target : String
  predicate : String
  deriving Repr, DecidableEq

/-- One key of an ordering. -/
structure SortKey where
  field : String
  direction : Direction
  deriving Repr, DecidableEq

/-- A directive that only one provider understands. -/
structure Hint where
  provider : String
  kind : String
  value : String
  deriving Repr, DecidableEq

/-- A data operation. An empty projection selects every field. Rows belong to an insert and updates
to an update; an operation of another kind may carry them all the same. -/
structure Query where
  operation : Operation
  target : String
  fields : List Projection
  conditions : List Condition
  joins : List Join
  ordering : List SortKey
  grouping : List String
  having : List Condition
  limit? : Option Float
  offset? : Option Float
  rows? : Option (List Row)
  updates? : Option Row
  returning : List String
  hints : List Hint

/-- The query of an operation with no clause yet. -/
def Query.blank (operation : Operation) (target : String) : Query where
  operation
  target
  fields := []
  conditions := []
  joins := []
  ordering := []
  grouping := []
  having := []
  limit? := none
  offset? := none
  rows? := none
  updates? := none
  returning := []
  hints := []

namespace Operation

/-- The word for an operation. -/
def name : Operation → String
  | select => "SELECT"
  | insert => "INSERT"
  | update => "UPDATE"
  | delete => "DELETE"
  | count => "COUNT"
  | other name => name

/-- The operation of a word. -/
def ofName (name : String) : Operation :=
  match name with
  | "SELECT" => select
  | "INSERT" => insert
  | "UPDATE" => update
  | "DELETE" => delete
  | "COUNT" => count
  | name => other name

end Operation

namespace Connector

/-- The word for a connector. -/
def name : Connector → String
  | and => "AND"
  | or => "OR"
  | other name => name

/-- The connector of a word. -/
def ofName (name : String) : Connector :=
  match name with
  | "AND" => and
  | "OR" => or
  | name => other name

/-- Only a disjunction counts; any other connector is read as a conjunction. -/
def isOr : Connector → Bool
  | or => true
  | _ => false

end Connector

namespace Direction

/-- The word for a direction. -/
def name : Direction → String
  | ascending => "ASC"
  | descending => "DESC"
  | other name => name

/-- The direction of a word. -/
def ofName (name : String) : Direction :=
  match name with
  | "ASC" => ascending
  | "DESC" => descending
  | name => other name

end Direction

namespace JoinKind

/-- The words for a join. -/
def name : JoinKind → String
  | inner => "INNER"
  | left => "LEFT"
  | right => "RIGHT"
  | full => "FULL"
  | fullOuter => "FULL OUTER"
  | cross => "CROSS"
  | other name => name

/-- Every join that has a meaning. -/
def known : List JoinKind := [inner, left, right, full, fullOuter, cross]

/-- The join of some words. -/
def ofName (name : String) : JoinKind :=
  (known.find? fun kind => kind.name = name).getD (other name)

end JoinKind

end CrudQuery
