import CrudQuery.Instant

/-! # Values

What a predicate, a row or an assignment carries. Values are never written into the text of a
query: they are bound to its parameters or become part of a document.
-/

namespace CrudQuery

/-- A literal, or a list of values: the operands of a membership test, or the two bounds of an
interval. -/
inductive Value where
  | null
  | bool (b : Bool)
  | number (x : Float)
  | text (s : String)
  | instant (t : Instant)
  | list (items : List Value)
  deriving Inhabited

namespace Value

/-- The members of a list value. -/
def items? : Value → Option (List Value)
  | list items => some items
  | _ => none

/-- The two members of a list value of that length. -/
def pair? : Value → Option (Value × Value)
  | list [low, high] => some (low, high)
  | _ => none

/-- The characters of a text value. -/
def text? : Value → Option String
  | text s => some s
  | _ => none

end Value

end CrudQuery
