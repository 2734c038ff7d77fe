import CrudQuery.Query
import CrudQuery.Sql.Parameters
import CrudQuery.Text

/-! # Statements

A statement as SQL has it, every placeholder with the value that is bound to it. Its text is a list
of pieces first, so that what is quoted, what is a placeholder and what is written as it stands can
be told apart; only then are the pieces put together.
-/

namespace CrudQuery.Sql

/-- A comparison with one operand. -/
inductive Comparison where
  | equal
  | notEqual
  | greater
  | greaterOrEqual
  | less
  | lessOrEqual
  | like
  | regex
  deriving Repr, DecidableEq

/-- The sign of a comparison. -/
def Comparison.sign : Comparison → String
  | equal => "="
  | notEqual => "!="
  | greater => ">"
  | greaterOrEqual => ">="
  | less => "<"
  | lessOrEqual => "<="
  | like => "LIKE"
  | regex => "~"

/-- A predicate on one field. -/
inductive Predicate where
  | compare (field : String) (comparison : Comparison) (operand : Binding)
  | anyOf (field : String) (operand : Binding)
  | noneOf (field : String) (operand : Binding)
  | isNull (field : String)
  | isNotNull (field : String)
  | between (field : String) (low high : Binding)

/-- A predicate of a chain, and whether a disjunction stands between it and the next one. -/
structure Link where
  predicate : Predicate
  orNext : Bool

/-- Predicates joined left to right without brackets, so that conjunction binds before
disjunction. -/
abbrev Chain := List Link

/-- An assignment of an update. -/
structure Assignment where
  column : String
  operand : Binding

/-- A data operation as SQL has it. -/
inductive Statement where
  | select (columns : List Projection) (source : String) (joins : List Join) (filter : Chain)
      (grouping : List String) (having : Chain) (ordering : List SortKey)
      (limit? offset? : Option Float)
  | insert (target : String) (columns : List String) (tuples : List (List Binding))
      (returning : List String)
  | update (target : String) (assignments : List Assignment) (filter : Chain)
      (returning : List String)
  | delete (target : String) (filter : Chain) (returning : List String)
  | count (source : String) (filter : Chain)

/-! ## Identifiers in a dialect -/

/-- How a dialect writes identifiers. -/
inductive Quoting where
  /-- As they are. -/
  | plain
  /-- Each part of a dotted identifier between double quotes. -/
  | doubleQuoted
  deriving Repr, DecidableEq

/-- A text between double quotes. -/
def inQuotes (cs : List Char) : List Char := '"' :: cs ++ ['"']

/-- An identifier as a dialect writes it. It has been checked, so it holds no quote of its own. -/
def Quoting.write (quoting : Quoting) (identifier : String) : List Char :=
  match quoting with
  | .plain => identifier.toList
  | .doubleQuoted => ['.'].intercalate ((Text.parts '.' identifier.toList).map inQuotes)

example : Quoting.doubleQuoted.write "u.id" = "\"u\".\"id\"".toList := by decide

/-! ## Pieces of text -/

/-- A piece of the text of a statement. -/
inductive Piece where
  /-- Written as it stands. -/
  | verbatim (text : String)
  /-- Written as the dialect writes identifiers. -/
  | identifier (name : String)
  /-- A colon and the name. -/
  | placeholder (name : String)
  deriving Repr, DecidableEq

/-- The characters of a piece. -/
def Piece.write (quoting : Quoting) : Piece → List Char
  | verbatim text => text.toList
  | identifier name => quoting.write name
  | placeholder name => ':' :: name.toList

/-- Lists of pieces with a comma between them. -/
def commaSeparated (items : List (List Piece)) : List Piece :=
  [Piece.verbatim ", "].intercalate items

/-- A name; the one that stands for every field is never quoted. -/
def namePieces (name : String) : List Piece :=
  if name = "*" then [.verbatim "*"] else [.identifier name]

/-- The placeholder of a binding. -/
def Binding.pieces (binding : Binding) : List Piece := [.placeholder binding.name]

/-- A column of a projection, under its label if it has one. -/
def columnPieces (column : Projection) : List Piece :=
  namePieces column.name ++
    match column.label? with
    | some label => if label.isEmpty then [] else [.verbatim " AS ", .identifier label]
    | none => []

/-- A projection; an empty one selects every field. -/
def projectionPieces (columns : List Projection) : List Piece :=
  if columns.isEmpty then [.verbatim "*"] else commaSeparated (columns.map columnPieces)

/-- A join, with its predicate as it was given unless that is empty. -/
def joinPieces (join : Join) : List Piece :=
  .verbatim (" " ++ join.kind.name ++ " JOIN ") :: namePieces join.target ++
    if join.predicate.isEmpty then [] else [.verbatim (" ON " ++ join.predicate)]

namespace Predicate

/-- The values that a predicate binds, in the order of their placeholders. -/
def bindings : Predicate → List Binding
  | compare _ _ operand | anyOf _ operand | noneOf _ operand => [operand]
  | isNull _ | isNotNull _ => []
  | between _ low high => [low, high]

/-- The pieces of a predicate. -/
def pieces : Predicate → List Piece
  | compare field comparison operand =>
    namePieces field ++ .verbatim (" " ++ comparison.sign ++ " ") :: operand.pieces
  | anyOf field operand =>
    namePieces field ++ .verbatim " = ANY(" :: operand.pieces ++ [.verbatim ")"]
  | noneOf field operand =>
    namePieces field ++ .verbatim " != ALL(" :: operand.pieces ++ [.verbatim ")"]
  | isNull field => namePieces field ++ [.verbatim " IS NULL"]
  | isNotNull field => namePieces field ++ [.verbatim " IS NOT NULL"]
  | between field low high =>
    namePieces field ++ .verbatim " BETWEEN " :: low.pieces ++ .verbatim " AND " :: high.pieces

end Predicate

namespace Chain

/-- The values that a chain binds. -/
def bindings (chain : Chain) : List Binding := chain.flatMap fun link => link.predicate.bindings

/-- The word between a predicate and the next one. -/
def connectorPiece (orNext : Bool) : Piece := .verbatim (if orNext then " OR " else " AND ")

/-- The pieces of a chain. -/
def pieces : Chain → List Piece
  | [] => []
  | [link] => link.predicate.pieces
  | link :: next :: rest =>
    link.predicate.pieces ++ connectorPiece link.orNext :: pieces (next :: rest)

end Chain

/-- A clause of a chain; an empty chain has none. -/
def chainClause (keyword : String) (chain : Chain) : List Piece :=
  if chain.isEmpty then [] else .verbatim keyword :: Chain.pieces chain

/-- A clause of comma-separated items; an empty list has none. -/
def listClause (keyword : String) (items : List (List Piece)) : List Piece :=
  if items.isEmpty then [] else .verbatim keyword :: commaSeparated items

/-- A clause that sets a page bound. -/
def pageClause (bound : PageBound) (value? : Option Float) : List Piece :=
  match value? with
  | some value => [.verbatim (" " ++ bound.keyword ++ " " ++ Number.text value)]
  | none => []

/-- A sort key. -/
def sortKeyPieces (key : SortKey) : List Piece :=
  namePieces key.field ++ [.verbatim (" " ++ key.direction.name)]

/-- The condition on rows. -/
def whereClause (filter : Chain) : List Piece := chainClause " WHERE " filter

/-- What a write gives back. -/
def returningClause (fields : List String) : List Piece :=
  listClause " RETURNING " (fields.map namePieces)

/-- The placeholders of a row between brackets. -/
def tuplePieces (tuple : List Binding) : List Piece :=
  .verbatim "(" :: commaSeparated (tuple.map Binding.pieces) ++ [.verbatim ")"]

/-- An assignment. -/
def Assignment.pieces (assignment : Assignment) : List Piece :=
  namePieces assignment.column ++ .verbatim " = " :: assignment.operand.pieces

namespace Statement

/-- The values that a statement binds, in the order of their placeholders. -/
def bindings : Statement → List Binding
  | select _ _ _ filter _ having _ _ _ => Chain.bindings filter ++ Chain.bindings having
  | insert _ _ tuples _ => tuples.flatten
  | update _ assignments filter _ =>
    assignments.map Assignment.operand ++ Chain.bindings filter
  | delete _ filter _ => Chain.bindings filter
  | count _ filter => Chain.bindings filter

/-- The pieces of a statement. -/
def pieces : Statement → List Piece
  | select columns source joins filter grouping having ordering limit? offset? =>
    .verbatim "SELECT " :: projectionPieces columns ++
      .verbatim " FROM " :: namePieces source ++
      joins.flatMap joinPieces ++
      whereClause filter ++
      listClause " GROUP BY " (grouping.map namePieces) ++
      chainClause " HAVING " having ++
      listClause " ORDER BY " (ordering.map sortKeyPieces) ++
      pageClause .limit limit? ++
      pageClause .offset offset?
  | insert target columns tuples returning =>
    .verbatim "INSERT INTO " :: namePieces target ++
      .verbatim " (" :: commaSeparated (columns.map namePieces) ++
      .verbatim ") VALUES " :: commaSeparated (tuples.map tuplePieces) ++
      returningClause returning
  | update target assignments filter returning =>
    .verbatim "UPDATE " :: namePieces target ++
      .verbatim " SET " :: commaSeparated (assignments.map Assignment.pieces) ++
      whereClause filter ++
      returningClause returning
  | delete target filter returning =>
    .verbatim "DELETE FROM " :: namePieces target ++ whereClause filter ++ returningClause returning
  | count source filter =>
    .verbatim "SELECT COUNT(*) FROM " :: namePieces source ++ whereClause filter

/-- The text of a statement in a dialect. -/
def text (quoting : Quoting) (statement : Statement) : String :=
  String.ofList (statement.pieces.flatMap (Piece.write quoting))

end Statement

end CrudQuery.Sql
