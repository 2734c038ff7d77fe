import CrudQuery.Catalog.DefaultQuery
import CrudQuery.Proofs.Draft

/-! # What the fields of an entity resolve to

A field resolves if each of its directives is one, and an entity if each of its fields that is not
excluded does and at most one of them holds the tenant.  Both the resolved fields and the first
directive that stands in the way can be read off the names and tags as they are written, since every
directive has one spelling: `outcome_resolve` says how the resolution of an entity ends, without a
word about the walk that resolves it.
-/

namespace CrudQuery.Catalog

namespace EntityField

/-- The texts of the directives of a field, as they are written but for the blanks around them. -/
def texts (field : EntityField) : List String := Directive.texts ((field.tag? "astql").getD "")

/-- Whether a field is marked as the one that holds the tenant. -/
def marksTenant (field : EntityField) : Bool :=
  (Directive.texts ((field.tag? "astql").getD "")).contains "security:tenant"

/-- The texts of the directives of a field, each with the column it is about.  An excluded field has
no column, so none of its directives counts. -/
def directives (field : EntityField) : List (String × String) :=
  match field.column? with
  | some column => field.texts.map fun text => (column, text)
  | none => []

/-- What a field resolves to under a column. -/
def resolvedAs (field : EntityField) (column : String) : Resolved :=
  ⟨column, (field.texts.filterMap Directive.ofText?).filterMap (·.hint? column), field.marksTenant⟩

/-- What a field resolves to, which is nothing if it is excluded. -/
def resolved? (field : EntityField) : Option Resolved := field.column?.map field.resolvedAs

end EntityField

namespace Entity

/-- The columns that the fields of an entity have. -/
def columns (entity : Entity) : List String := entity.fields.filterMap EntityField.column?

/-- The columns of the fields that are marked as holding the tenant.  An excluded field has none. -/
def tenantColumns (entity : Entity) : List String :=
  (entity.fields.filter EntityField.marksTenant).filterMap EntityField.column?

/-- The directives of an entity, field by field. -/
def directives (entity : Entity) : List (String × String) :=
  entity.fields.flatMap EntityField.directives

/-- What the fields of an entity resolve to. -/
def resolved (entity : Entity) : List Resolved := entity.fields.filterMap EntityField.resolved?

theorem mem_columns_of_mem_tenantColumns {entity : Entity} {column : String}
    (h : column ∈ entity.tenantColumns) : column ∈ entity.columns :=
  (List.filter_sublist.filterMap _).subset h

end Entity

/-! ## Directives -/

namespace Directive

/-- A text that names an index or asks for uniqueness. -/
def asksHint (text : String) : Bool := "index:".toList.isPrefixOf text.toList || text == "unique"

/-- A text that is a directive. -/
def isKnown (text : String) : Bool := asksHint text || text == "security:tenant"

theorem ofText?_eq_tenant {text : String} :
    ofText? text = some .tenant ↔ text = "security:tenant" := by
  constructor
  · intro h
    unfold ofText? at h
    split at h
    · cases h
    · split at h
      · cases h
      · split at h
        · assumption
        · cases h
  · rintro rfl
    decide +kernel

theorem isNone_ofText? (text : String) : (ofText? text).isNone = !isKnown text := by
  have hindex : indexMark = "index:" := rfl
  unfold ofText? isKnown asksHint
  rw [hindex]
  cases "index:".toList.isPrefixOf text.toList with
  | true => simp
  | false =>
    by_cases hunique : text = "unique"
    · simp [hunique]
    · by_cases htenant : text = "security:tenant" <;> simp [hunique, htenant]

theorem contains_tenant (texts : List String) :
    (texts.filterMap ofText?).contains .tenant = texts.contains "security:tenant" := by
  rw [Bool.eq_iff_iff, List.contains_iff_mem, List.contains_iff_mem, List.mem_filterMap]
  simp only [ofText?_eq_tenant, exists_eq_right]

end Directive

theorem outcome_requireDirective (column text : String) :
    (requireDirective column text).outcome =
      (Directive.ofText? text).elim (.error (.unsupportedDirective column text)) .ok := by
  unfold requireDirective
  cases Directive.ofText? text <;> rfl

/-! ## Fields -/

/-- The fault of the first directive among some that is none. -/
def unsupported? (directives : List (String × String)) : Option Fault :=
  (directives.find? fun directive => !Directive.isKnown directive.2).map fun directive =>
    .unsupportedDirective directive.1 directive.2

theorem unsupported?_append (xs ys : List (String × String)) :
    unsupported? (xs ++ ys) = (unsupported? xs).or (unsupported? ys) := by
  rw [unsupported?, List.find?_append, Option.map_or]
  rfl

theorem outcome_resolveColumn (field : EntityField) (column : String) :
    (resolveColumn field column).outcome =
      Except.okUnless (unsupported? (field.texts.map fun text => (column, text)))
        (field.resolvedAs column) := by
  have hwalk : (field.texts.mapM (requireDirective column)).outcome =
      Except.okUnless (unsupported? (field.texts.map fun text => (column, text)))
        (field.texts.filterMap Directive.ofText?) := by
    rw [Traced.outcome_mapM, Except.mapM_eq_okUnless (outcome_requireDirective column),
      unsupported?, List.find?_map, Option.map_map]
    simp only [Directive.isNone_ofText?]
    rfl
  rw [EntityField.resolvedAs, EntityField.marksTenant, ← EntityField.texts,
    ← Directive.contains_tenant]
  unfold resolveColumn
  rw [Traced.outcome_bind]
  refine (congrArg (· >>= _) hwalk).trans ?_
  exact Except.okUnless_map _ _ _

/-- **Resolution of fields.** It ends with the first directive that is none, field by field, or else
with what the fields resolve to. -/
theorem outcome_resolveFields (fields : List EntityField) :
    (resolveFields fields).outcome =
      Except.okUnless (unsupported? (fields.flatMap EntityField.directives))
        (fields.filterMap EntityField.resolved?) := by
  induction fields with
  | nil => rfl
  | cons field rest ih =>
    rw [resolveFields, List.flatMap_cons, List.filterMap_cons, EntityField.directives,
      EntityField.resolved?]
    cases field.column? with
    | none => exact ih
    | some column =>
      rw [Traced.outcome_bind, outcome_resolveColumn, unsupported?_append]
      refine Except.okUnless_bind ?_
      rw [Traced.outcome_bind, ih]
      exact Except.okUnless_map _ _ _

/-- A field that resolves keeps its column. -/
theorem columns_resolved (fields : List EntityField) :
    (fields.filterMap EntityField.resolved?).map Resolved.column =
      fields.filterMap EntityField.column? := by
  rw [List.map_filterMap]
  refine List.filterMap_congr fun field _ => ?_
  rw [EntityField.resolved?, Option.map_map]
  exact Option.map_id'

/-- A field that resolves holds the tenant iff it is marked so. -/
theorem tenantColumns_resolved (fields : List EntityField) :
    tenantColumns (fields.filterMap EntityField.resolved?) =
      (fields.filter EntityField.marksTenant).filterMap EntityField.column? := by
  rw [tenantColumns, List.filter_filterMap, List.map_filterMap, List.filterMap_filter]
  refine List.filterMap_congr fun field _ => ?_
  rw [EntityField.resolved?]
  cases field.column? with
  | none => simp
  | some column => cases h : field.marksTenant <;> simp [Option.filter, EntityField.resolvedAs, h]

/-! ## Entities -/

/-- The fault of an entity in which more than one field holds the tenant. -/
def severalTenants? (entity : Entity) : Option Fault :=
  if entity.tenantColumns.length > 1 then
    some (.duplicateTenant entity.typeName entity.tenantColumns)
  else none

/-- **Resolution of an entity.** -/
theorem outcome_resolve (entity : Entity) :
    (resolve entity).outcome =
      Except.okUnless ((unsupported? entity.directives).or (severalTenants? entity))
        entity.resolved := by
  unfold resolve
  rw [Traced.outcome_bind, outcome_resolveFields]
  refine Except.okUnless_bind ?_
  rw [tenantColumns_resolved, ← Entity.tenantColumns, severalTenants?]
  by_cases hmany : entity.tenantColumns.length > 1
  · rw [if_pos hmany]
    simp only [hmany, if_true]
    rfl
  · rw [if_neg hmany]
    simp only [hmany, if_false]
    rfl

theorem tenantColumns_entity (entity : Entity) :
    Catalog.tenantColumns entity.resolved = entity.tenantColumns :=
  tenantColumns_resolved entity.fields

/-- An entity resolves iff its directives are known and one column at most holds the tenant. -/
theorem resolve_eq_ok {entity : Entity} {fields : List Resolved} :
    (resolve entity).outcome = .ok fields ↔
      (unsupported? entity.directives = none ∧ fields = entity.resolved) ∧
        (tenantColumns fields).length ≤ 1 := by
  rw [outcome_resolve, Except.okUnless_eq_ok, Option.or_eq_none_iff, severalTenants?,
    ite_eq_right_iff]
  constructor
  · rintro ⟨⟨hknown, hone⟩, rfl⟩
    rw [tenantColumns_entity]
    exact ⟨⟨hknown, rfl⟩, Nat.le_of_not_lt fun hmany => by simp [hmany] at hone⟩
  · rintro ⟨⟨hknown, rfl⟩, hone⟩
    rw [tenantColumns_entity] at hone
    exact ⟨⟨hknown, fun hmany => absurd hmany (by omega)⟩, rfl⟩

theorem tenantColumns_of_resolve {entity : Entity} {fields : List Resolved}
    (h : (resolve entity).outcome = .ok fields) : tenantColumns fields = entity.tenantColumns := by
  obtain ⟨⟨-, rfl⟩, -⟩ := resolve_eq_ok.mp h
  exact tenantColumns_entity entity

/-! ## Queries -/

/-- What the calls of a verb compose. -/
def draftOf (entity : Entity) (fields : List Resolved) (verb : Verb) : Draft :=
  (Draft.start (operationOf entity verb) entity.target).applyAll (calls entity fields verb)

/-- **A default query, taken apart.**  The entity resolves, an update has something to set, and the
query is what the calls of the verb compose, lacking nothing that every query must have. -/
theorem defaultQuery_eq_ok {entity : Entity} {verb : Verb} {query : Query} :
    (defaultQuery entity verb).outcome = .ok query ↔
      ∃ fields, (resolve entity).outcome = .ok fields ∧
        ¬(verb = .update ∧ (updatable (fields.map Resolved.column)).isEmpty = true) ∧
        (draftOf entity fields verb).violation? = none ∧ query = draftOf entity fields verb := by
  unfold defaultQuery
  rw [Traced.outcome_bind_eq_ok]
  refine exists_congr fun fields => and_congr_right fun _ => ?_
  unfold composed
  by_cases h : verb = .update ∧ (updatable (fields.map Resolved.column)).isEmpty = true
  · simp [h]
  · rw [if_neg h, Draft.buildOrFail_eq_ok, draftOf]
    exact (and_iff_right h).symm

end CrudQuery.Catalog
