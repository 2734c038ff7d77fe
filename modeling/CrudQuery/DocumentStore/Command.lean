import CrudQuery.DocumentStore.Filter

/-! # Commands

A call of a document store as plain data, in the order in which its members are written.
-/

namespace CrudQuery.DocumentStore

/-- Which way a field sorts. -/
inductive SortWay where
  | up
  | down
  deriving Repr, DecidableEq

/-- How the documents that are found come back: the fields they keep, the fields they are sorted by,
and the page they are cut to. -/
structure FindOptions where
  projection? : Option (Record Unit)
  sort? : Option (Record SortWay)
  limit? : Option Float
  skip? : Option Float

/-- A call of a document store. -/
inductive Command where
  | find (collection : String) (filter : Filter) (options : FindOptions)
  | insertOne (collection : String) (document : Record Value)
  | insertMany (collection : String) (documents : List (Record Value))
  | updateOne (collection : String) (filter : Filter) (changes : Record Value)
  | deleteOne (collection : String) (filter : Filter)
  | countDocuments (collection : String) (filter : Filter)

/-- A way to sort is one, with its sign. -/
def SortWay.document : SortWay → Document
  | up => .number 1
  | down => .number (-1)

/-- A record of values as a document. -/
def valuesDocument (record : Record Value) : Document := .ofRecord Document.ofValue record

/-- A member that is there only if it has a value. -/
def optionalMember (key : String) (value? : Option Document) : List (String × Document) :=
  (value?.map fun value => (key, value)).toList

/-- The options that are set. -/
def FindOptions.members (options : FindOptions) : List (String × Document) :=
  optionalMember "projection" (options.projection?.map (.ofRecord fun _ => .number 1)) ++
    optionalMember "sort" (options.sort?.map (.ofRecord SortWay.document)) ++
    optionalMember "limit" (options.limit?.map .number) ++
    optionalMember "skip" (options.skip?.map .number)

namespace Command

/-- The name of a call. -/
def operation : Command → String
  | find .. => "find"
  | insertOne .. => "insertOne"
  | insertMany .. => "insertMany"
  | updateOne .. => "updateOne"
  | deleteOne .. => "deleteOne"
  | countDocuments .. => "countDocuments"

/-- The collection that a call is about. -/
def collection : Command → String
  | find collection .. | insertOne collection _ | insertMany collection _
  | updateOne collection .. | deleteOne collection _ | countDocuments collection _ => collection

/-- What a call says beyond its name and its collection. Options none of which is set are left
out. -/
def arguments : Command → List (String × Document)
  | find _ filter options =>
    ("filter", filter.document) ::
      if options.members.isEmpty then [] else [("options", .object options.members)]
  | insertOne _ document => [("document", valuesDocument document)]
  | insertMany _ documents => [("documents", .list (documents.map valuesDocument))]
  | updateOne _ filter changes =>
    [("filter", filter.document), ("update", .object [("$set", valuesDocument changes)])]
  | deleteOne _ filter | countDocuments _ filter => [("filter", filter.document)]

/-- A call as a document. -/
def document (command : Command) : Document :=
  .object <|
    ("operation", .text command.operation) :: ("collection", .text command.collection) ::
      command.arguments

end Command

end CrudQuery.DocumentStore
