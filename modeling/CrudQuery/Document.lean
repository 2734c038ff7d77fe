import CrudQuery.Record
import CrudQuery.Value

/-! # Documents

Values with named members at any depth. A command for a document store is one, and so are the data
of a log entry and the details of a fault.
-/

namespace CrudQuery

/-- A tree of values. The members of an object stand in the order in which they are listed. -/
inductive Document where
  | null
  | bool (b : Bool)
  | number (x : Float)
  | text (s : String)
  | instant (t : Instant)
  | list (items : List Document)
  | object (members : List (String × Document))
  deriving Inhabited

namespace Document

/-- The object with the members of a record, each brought into document form. -/
def ofRecord {α : Type} (form : α → Document) (record : Record α) : Document :=
  .object (record.toList.map fun member => (member.1, form member.2))

/-- A count as a document. -/
def ofNat (n : Nat) : Document := .number n.toFloat

/-- A list of texts as a document. -/
def ofTexts (texts : List String) : Document := .list (texts.map .text)

mutual

/-- A value as a document. -/
def ofValue : Value → Document
  | .null => .null
  | .bool b => .bool b
  | .number x => .number x
  | .text s => .text s
  | .instant t => .instant t
  | .list items => .list (ofValues items)

/-- Each of a list of values as a document. -/
def ofValues : List Value → List Document
  | [] => []
  | value :: rest => ofValue value :: ofValues rest

end

end Document

end CrudQuery
