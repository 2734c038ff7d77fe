import CrudQuery.Catalog.Directive
import CrudQuery.Catalog.Entity
import CrudQuery.Draft

/-! # Default queries of an entity

One query for each thing that is usually done with a stored type. What is known only when a query
runs, such as the record's identifier, the tenant and the values of columns, is a null value under a
fixed parameter name. A tenant and a mark for deleted records guard every query but the one that
creates a record.
-/

namespace CrudQuery.Catalog

/-- Something that is usually done with a stored type. -/
inductive Verb where
  | get
  | list
  | create
  | update
  | delete
  | count
  deriving Repr, DecidableEq

namespace Verb

/-- Every verb, in the order in which queries are made. -/
def all : List Verb := [get, list, create, update, delete, count]

/-- The word for a verb. -/
def name : Verb → String
  | get => "get"
  | list => "list"
  | create => "create"
  | update => "update"
  | delete => "delete"
  | count => "count"

/-- The verb of a word. -/
def ofName? (name : String) : Option Verb := all.find? fun verb => verb.name = name

end Verb

/-- The page size of the query that lists records. -/
def listLimit : Nat := 100

/-- The column that marks deleted records. -/
def deletedField : String := "deleted_at"

/-- The column that holds the time of creation. -/
def createdField : String := "created_at"

/-- The column that identifies a record. -/
def idField : String := "id"

/-- The parameter that the tenant is bound under, whatever its column is called. -/
def tenantParameter : String := "tenant_id"

/-- Columns that an update does not set. -/
def managedFields : List String := [idField, createdField, deletedField]

/-- A field that takes part in queries. -/
structure Resolved where
  column : String
  hints : List Hint
  isTenant : Bool
  deriving Repr, DecidableEq

/-- The name under which this module logs. -/
def catalogContext : String := "Catalog"

/-- The directive of a text on a column; an unknown one is logged and is a fault. -/
def requireDirective (column text : String) : Traced Directive := do
  match Directive.ofText? text with
  | some directive => pure directive
  | none =>
    Traced.log catalogContext .error "Unsupported astql directive"
      [("column", .text column), ("directive", .text text)]
    Traced.fail (.unsupportedDirective column text)

/-- A column with the directives of its field. -/
def resolveColumn (field : EntityField) (column : String) : Traced Resolved := do
  let texts := Directive.texts ((field.tag? "astql").getD "")
  let directives ← texts.mapM (requireDirective column)
  pure ⟨column, directives.filterMap (·.hint? column), directives.contains .tenant⟩

/-- The fields that take part in queries, in order; excluded ones do not. -/
def resolveFields : List EntityField → Traced (List Resolved)
  | [] => pure []
  | field :: rest => do
    match field.column? with
    | none => resolveFields rest
    | some column =>
      let resolved ← resolveColumn field column
      let others ← resolveFields rest
      pure (resolved :: others)

/-- The columns that hold the tenant. -/
def tenantColumns (fields : List Resolved) : List String :=
  (fields.filter Resolved.isTenant).map Resolved.column

/-- The fields that take part in the queries of an entity. At most one of them holds the tenant. -/
def resolve (entity : Entity) : Traced (List Resolved) := do
  let fields ← resolveFields entity.fields
  let tenants := tenantColumns fields
  if tenants.length > 1 then
    Traced.log catalogContext .error "More than one tenant field"
      [("typeName", .text entity.typeName), ("columns", .ofTexts tenants)]
    Traced.fail (.duplicateTenant entity.typeName tenants)
  else pure fields

/-- Whether records are marked as deleted and kept. -/
def isSoftDeleted (entity : Entity) : Bool := entity.hasField deletedField

/-- Columns that an update sets. -/
def updatable (columns : List String) : List String :=
  columns.filter fun column => !managedFields.contains column

/-- The operation that a verb needs. Marking a record as deleted is an update. -/
def operationOf (entity : Entity) : Verb → Operation
  | .get | .list => .select
  | .create => .insert
  | .update => .update
  | .delete => if isSoftDeleted entity then .update else .delete
  | .count => .count

/-- What a verb reads or writes. -/
def contentCalls (entity : Entity) (columns : List String) : Verb → List Call
  | .get | .list => [.fields columns]
  | .create =>
    [.values (Record.ofList (columns.map fun column => (column, .null))), .returning ["*"]]
  | .update => .returning ["*"] :: (updatable columns).map fun column => .assign column .null
  | .delete => if isSoftDeleted entity then [.assign deletedField .null] else []
  | .count => []

/-- The hints of every field. -/
def hintCalls (fields : List Resolved) : List Call :=
  (fields.flatMap Resolved.hints).map fun hint => .hint hint.provider hint.kind hint.value

/-- Whether a verb is about one record. -/
def Verb.isById : Verb → Bool
  | get | update | delete => true
  | _ => false

/-- The conditions that keep a query to the records it may touch: those of the tenant, those not
marked as deleted, and the one with the given identifier. -/
def guardCalls (entity : Entity) (fields : List Resolved) (verb : Verb) : List Call :=
  if verb = .create then []
  else
    (tenantColumns fields).map (fun column => .filterAs column .equal .null tenantParameter) ++
      (if isSoftDeleted entity then [.filterNull deletedField] else []) ++
      (if verb.isById then [.filter idField .equal .null] else [])

/-- A listing has the newest records first, where their time of creation is known, and is cut to its
first page. -/
def pageCalls (entity : Entity) (verb : Verb) : List Call :=
  if verb = .list then
    (if entity.hasField createdField then [.orderByDesc createdField] else []) ++
      [.limit listLimit.toFloat, .offset 0]
  else []

/-- Every call that composes the query of a verb. -/
def calls (entity : Entity) (fields : List Resolved) (verb : Verb) : List Call :=
  contentCalls entity (fields.map Resolved.column) verb ++ hintCalls fields ++
    guardCalls entity fields verb ++ pageCalls entity verb

/-- The query of a verb over resolved fields. -/
def composed (entity : Entity) (fields : List Resolved) (verb : Verb) : Traced Query := do
  if verb = .update ∧ (updatable (fields.map Resolved.column)).isEmpty then
    Traced.fail (.noUpdatableColumns entity.typeName)
  else
    ((Draft.start (operationOf entity verb) entity.target).applyAll
      (calls entity fields verb)).buildOrFail

/-- The default query of an entity for a verb. -/
def defaultQuery (entity : Entity) (verb : Verb) : Traced Query := do
  let fields ← resolve entity
  composed entity fields verb

/-- The default query for a word. A word that is no verb has no query, but the faults of the entity
come first. -/
def defaultQueryNamed (entity : Entity) (word : String) : Traced (Option Query) := do
  match Verb.ofName? word with
  | some verb => some <$> defaultQuery entity verb
  | none =>
    let _ ← resolve entity
    pure none

/-- Says which query a verb got. -/
def sayMade (entity : Entity) (verb : Verb) (query : Query) : Traced Unit :=
  Traced.log catalogContext .debug "Generated AST"
    [("typeName", .text entity.typeName), ("verb", .text verb.name), ("target", .text query.target),
      ("fieldCount", .ofNat query.fields.length),
      ("conditionCount", .ofNat query.conditions.length)]

/-- Says why a verb got no query. -/
def saySkipped (entity : Entity) (verb : Verb) (fault : Fault) : Traced Unit :=
  Traced.log catalogContext .debug "Skipping verb"
    [("typeName", .text entity.typeName), ("verb", .text verb.name), ("reason", .text fault.message)]

/-- The query of a verb, or none for an update that would have nothing to set. -/
def generateVerb (entity : Entity) (verb : Verb) : Traced (Option (Verb × Query)) :=
  let made : Traced (Option (Verb × Query)) := do
    let query ← defaultQuery entity verb
    sayMade entity verb query
    pure (some (verb, query))
  made.rescue fun fault =>
    match fault with
    | .noUpdatableColumns _ => do
      saySkipped entity verb fault
      pure none
    | _ => Traced.fail fault

/-- The default queries of an entity, in the order of the verbs. -/
def generate (entity : Entity) : Traced (List (Verb × Query)) := do
  Traced.log catalogContext .info "Generating queries from metadata"
    [("typeName", .text entity.typeName), ("fieldCount", .ofNat entity.fields.length)]
  let made ← Verb.all.mapM (generateVerb entity)
  let queries := made.filterMap id
  Traced.log catalogContext .info "Query generation completed"
    [("typeName", .text entity.typeName), ("queryCount", .ofNat queries.length)]
  pure queries

end CrudQuery.Catalog
