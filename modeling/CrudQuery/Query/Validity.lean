import CrudQuery.Log.Traced

/-! # What every query must have

Structural requirements that hold for every backend, and the page bounds, which are looked at only
when a query is compiled: a query with a senseless bound can still be composed. What the value of a
condition must be like depends on its operator, and is asked when a backend makes a predicate of it.
-/

namespace CrudQuery

namespace Query

/-- The name under which these checks log. -/
def validityContext : String := "Validator"

/-- The first requirement that a query breaks: it has a target, an insert has a row, an update has
an assignment. -/
def violation? (query : Query) : Option Violation :=
  if query.target.isEmpty then some .missingTarget
  else if query.operation = .insert ∧ (query.rows?.getD []).isEmpty then some .missingInsertRows
  else if query.operation = .update ∧ (query.updates?.getD []).isEmpty then some .missingUpdates
  else none

/-- The first requirement that a query breaks, with a warning about it. -/
def inspect (query : Query) : Traced (Option Violation) := do
  match query.violation? with
  | none => pure none
  | some violation =>
    Traced.log validityContext .warning "AST validation failed"
      [("operation", .text query.operation.name), ("target", .text query.target),
        ("kind", .text violation.kind)]
    pure (some violation)

/-- Fails with the first requirement that a query breaks. -/
def requireValid (query : Query) : Traced Unit := do
  match ← query.inspect with
  | none => pure ()
  | some violation => Traced.fail (.invalid violation)

/-- A page bound is a natural number. -/
def isPageBound (value : Float) : Bool :=
  match Number.toInt? value with
  | some n => 0 ≤ n
  | none => false

/-- Fails if a page bound is there and is none. -/
def requirePageBound (bound : PageBound) (value? : Option Float) : Traced Unit := do
  match value? with
  | none => pure ()
  | some value =>
    if isPageBound value then pure ()
    else
      Traced.log validityContext .error "Invalid pagination value" [(bound.name, .number value)]
      Traced.fail (.invalidPageBound bound value)

/-- Fails with the first page bound that is none. -/
def requirePageBounds (query : Query) : Traced Unit := do
  requirePageBound .limit query.limit?
  requirePageBound .offset query.offset?

end Query

/-! ## Operands of conditions -/

/-- The parameter name of a field: dots become underscores, so that the name is one word. -/
def parameterName (field : String) : String := field.map fun c => if c = '.' then '_' else c

namespace Condition

/-- The two bounds of an interval test. -/
def bounds (condition : Condition) : Except Fault (Value × Value) :=
  match condition.value.pair? with
  | some pair => .ok pair
  | none => .error (.malformedPair condition.field)

/-- The members of a membership test. -/
def members (condition : Condition) : Except Fault (List Value) :=
  match condition.value.items? with
  | some items => .ok items
  | none => .error (.malformedList condition.operator condition.field)

/-- The pattern of a pattern test. -/
def pattern (condition : Condition) : Except Fault String :=
  match condition.value.text? with
  | some text => .ok text
  | none => .error (.malformedPattern condition.operator condition.field)

end Condition

end CrudQuery
