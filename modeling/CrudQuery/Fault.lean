import CrudQuery.Document
import CrudQuery.Query

/-! # Faults

Why a query is refused. A fault is its cause; the kind that programs match on, the message that
people read and the details that go with it are functions of the cause.
-/

namespace CrudQuery

/-- A structural requirement that a query breaks. -/
inductive Violation where
  | missingTarget
  | missingInsertRows
  | missingUpdates
  deriving Repr, DecidableEq

/-- What a query can be compiled to. -/
inductive Backend where
  | sql
  | documents
  deriving Repr, DecidableEq

/-- A clause that only relational queries have. -/
inductive RelationalClause where
  | joins
  | grouping
  | having
  deriving Repr, DecidableEq

/-- One of the two numbers that cut a result to a page. -/
inductive PageBound where
  | limit
  | offset
  deriving Repr, DecidableEq

/-- What a word of SQL text stands for. -/
inductive WordRole where
  | identifier
  | label
  | parameter
  | direction
  | joinKind
  deriving Repr, DecidableEq

/-- A cause for refusing a query. -/
inductive Fault where
  /-- The query breaks a structural requirement. -/
  | invalid (violation : Violation)
  /-- The backend has no form for an operator. -/
  | unsupportedOperator (backend : Backend) (operator : Operator)
  /-- The word for the operation names none. -/
  | unsupportedOperation (operation : Operation)
  /-- A relational clause meets a backend without tables. -/
  | unsupportedClause (clause : RelationalClause)
  /-- The operand of an interval test is not a pair. -/
  | malformedPair (field : String)
  /-- The operand of a membership test is not a list. -/
  | malformedList (operator : Operator) (field : String)
  /-- The operand of a pattern test is not a text. -/
  | malformedPattern (operator : Operator) (field : String)
  /-- The first row to insert has no columns. -/
  | emptyRow
  /-- A later row does not have the columns of the first one. -/
  | mismatchedRow (row : Nat) (expected actual : List String)
  /-- A word may not stand in SQL text in its role. -/
  | invalidWord (role : WordRole) (word : String)
  /-- A page bound is no natural number. -/
  | invalidPageBound (bound : PageBound) (value : Float)
  /-- Two values claim the same parameter. -/
  | duplicateParameter (name : String)
  /-- A directive of a field is unknown. -/
  | unsupportedDirective (column directive : String)
  /-- More than one field is to hold the tenant. -/
  | duplicateTenant (typeName : String) (columns : List String)
  /-- An update would have nothing to set. -/
  | noUpdatableColumns (typeName : String)

/-- The family of a fault: what was being done when it arose. -/
inductive FaultFamily where
  /-- A fault of no particular family. -/
  | query
  | validation
  | rendering
  | catalog
  deriving Repr, DecidableEq

/-- A fault as it is shown. -/
structure Report where
  family : FaultFamily
  kind : String
  message : String
  details? : Option (List (String × Document))

/-- Every family is part of the general one. -/
def FaultFamily.isWithin (part whole : FaultFamily) : Bool := whole == query || part == whole

namespace Violation

/-- The kind of a violation. -/
def kind : Violation → String
  | missingTarget => "MissingTarget"
  | missingInsertRows => "MissingInsertValues"
  | missingUpdates => "MissingUpdateFields"

/-- What a violation says. -/
def message : Violation → String
  | missingTarget => "target (table/collection) is required"
  | missingInsertRows => "INSERT requires at least one row of values"
  | missingUpdates => "UPDATE requires at least one field to update"

end Violation

/-- The short name of a backend. -/
def Backend.name : Backend → String
  | sql => "sql"
  | documents => "mongo"

/-- The word for a clause. -/
def RelationalClause.name : RelationalClause → String
  | joins => "joins"
  | grouping => "grouping"
  | having => "having"

namespace PageBound

/-- The word for a page bound. -/
def name : PageBound → String
  | limit => "limit"
  | offset => "offset"

/-- The word for a page bound as SQL has it. -/
def keyword : PageBound → String
  | limit => "LIMIT"
  | offset => "OFFSET"

end PageBound

namespace WordRole

/-- The name under which a refused word is reported. -/
def key : WordRole → String
  | identifier => "identifier"
  | label => "alias"
  | parameter => "paramName"
  | direction => "direction"
  | joinKind => "joinType"

/-- The words for a role inside a message. -/
def phrase : WordRole → String
  | identifier => "identifier"
  | label => "alias"
  | parameter => "parameter name"
  | direction => "ORDER BY direction"
  | joinKind => "JOIN type"

end WordRole

namespace Fault

/-- The family of a fault. -/
def family : Fault → FaultFamily
  | invalid _ => .validation
  | unsupportedDirective .. | duplicateTenant .. | noUpdatableColumns _ => .catalog
  | _ => .rendering

/-- The kind of a fault. -/
def kind : Fault → String
  | invalid violation => violation.kind
  | unsupportedOperator .. => "UnsupportedOperator"
  | unsupportedOperation _ => "UnsupportedOperation"
  | unsupportedClause _ => "UnsupportedClause"
  | malformedPair _ => "MalformedBetween"
  | malformedList .. => "MalformedList"
  | malformedPattern .. => "MalformedPattern"
  | emptyRow | mismatchedRow .. => "MalformedRow"
  | invalidWord .. => "InvalidIdentifier"
  | invalidPageBound .. => "InvalidPagination"
  | duplicateParameter _ => "DuplicateParameter"
  | unsupportedDirective .. => "UnsupportedDirective"
  | duplicateTenant .. => "DuplicateTenantField"
  | noUpdatableColumns _ => "NoUpdatableColumns"

/-- What a fault says. -/
def message : Fault → String
  | invalid violation => violation.message
  | unsupportedOperator .sql operator => "unsupported operator for SQL: " ++ operator.name
  | unsupportedOperator .documents operator =>
    "unsupported operator for document store: " ++ operator.name
  | unsupportedOperation operation => "unsupported operation: " ++ operation.name
  | unsupportedClause clause => clause.name ++ " cannot be rendered as a document-store command"
  | malformedPair field => "BETWEEN on \"" ++ field ++ "\" requires exactly two values"
  | malformedList operator field =>
    operator.name ++ " on \"" ++ field ++ "\" requires a list of values"
  | malformedPattern operator field =>
    operator.name ++ " on \"" ++ field ++ "\" requires a string pattern"
  | emptyRow => "INSERT row 0 has no columns"
  | mismatchedRow row _ _ => "INSERT row " ++ row.repr ++ " does not have the columns of row 0"
  | invalidWord role word => "Invalid " ++ role.phrase ++ ": " ++ word
  | invalidPageBound bound value => "Invalid " ++ bound.keyword ++ " value: " ++ Number.text value
  | duplicateParameter name => "Parameter \"" ++ name ++ "\" is bound more than once"
  | unsupportedDirective column directive =>
    "Unsupported astql directive \"" ++ directive ++ "\" on field \"" ++ column ++ "\""
  | duplicateTenant typeName columns =>
    typeName ++ " has more than one security:tenant field: " ++ ", ".intercalate columns
  | noUpdatableColumns typeName => typeName ++ " has no columns an update can set"

/-- What goes with a fault. -/
def details? : Fault → Option (List (String × Document))
  | invalid _ => none
  | unsupportedOperator _ operator => some [("operator", .text operator.name)]
  | unsupportedOperation operation => some [("operation", .text operation.name)]
  | unsupportedClause clause => some [("clause", .text clause.name)]
  | malformedPair field | malformedList _ field | malformedPattern _ field =>
    some [("field", .text field)]
  | emptyRow => some [("row", .ofNat 0)]
  | mismatchedRow row expected actual =>
    some [("row", .ofNat row), ("expected", .ofTexts expected), ("actual", .ofTexts actual)]
  | invalidWord role word => some [(role.key, .text word)]
  | invalidPageBound bound value => some [(bound.name, .number value)]
  | duplicateParameter name => some [("paramName", .text name)]
  | unsupportedDirective column directive =>
    some [("column", .text column), ("directive", .text directive)]
  | duplicateTenant _ columns => some [("columns", .ofTexts columns)]
  | noUpdatableColumns typeName => some [("typeName", .text typeName)]

/-- A fault as it is shown. -/
def report (fault : Fault) : Report :=
  ⟨fault.family, fault.kind, fault.message, fault.details?⟩

end Fault

/-- The name of a family. -/
def FaultFamily.name : FaultFamily → String
  | query => "QueryError"
  | validation => "ValidationError"
  | rendering => "RenderError"
  | catalog => "CatalogError"

end CrudQuery
