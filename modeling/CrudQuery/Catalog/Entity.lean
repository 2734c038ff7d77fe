import CrudQuery.Text.LowerCase

/-! # Entities

What is known of a type whose records are stored: its fields, the names each goes by, and the table
or collection that holds it.
-/

namespace CrudQuery.Catalog

/-- A field of an entity. Its serialized name, a column name and the tags are optional; the
serialized name `-` keeps it out of every query. -/
structure EntityField where
  name : String
  serialName? : Option String
  columnName? : Option String
  tags : List (String × String)
  deriving Repr, DecidableEq

/-- A type whose records are stored. -/
structure Entity where
  typeName : String
  table? : Option String
  fields : List EntityField
  deriving Repr, DecidableEq

namespace EntityField

/-- The value of a tag. -/
def tag? (field : EntityField) (key : String) : Option String := field.tags.lookup key

/-- The last of some names that is there and not empty. -/
def lastGiven (default : String) (names : List (Option String)) : String :=
  names.foldl
    (fun chosen name? =>
      match name? with
      | some name => if name.isEmpty then chosen else name
      | none => chosen)
    default

/-- The column of a field: its own name, unless a serialized name, a column name or a column tag
says otherwise, a later one of these before an earlier one. An excluded field has no column; a
column tag `-` says nothing. -/
def column? (field : EntityField) : Option String :=
  if field.serialName? = some "-" then none
  else
    some <| lastGiven field.name
      [field.serialName?, field.columnName?, (field.tag? "db").filter fun tag => tag != "-"]

/-- Whether a field goes by a name in any of its spellings. -/
def isNamed (field : EntityField) (name : String) : Bool :=
  field.name == name || field.serialName? == some name || field.columnName? == some name ||
    field.tag? "db" == some name

end EntityField

namespace Entity

/-- Whether some field goes by a name, an excluded one included. -/
def hasField (entity : Entity) (name : String) : Bool :=
  entity.fields.any fun field => field.isNamed name

/-- The table or collection of an entity: the plural of its type name in lower case, unless one is
given. -/
def target (entity : Entity) : String :=
  entity.table?.getD (Text.lower entity.typeName ++ "s")

end Entity

end CrudQuery.Catalog
