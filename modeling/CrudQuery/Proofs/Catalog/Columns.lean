import CrudQuery.Proofs.Catalog.Generation
import CrudQuery.Proofs.Row.RoundTrip

/-! # The default queries of an entity agree on its columns

The columns of an entity go three ways.  Queries that read list them, as often as the fields have
them and in the order of the fields; the query that creates a record collects them as the keys of a
record, and the one that updates a record assigns them one after another.  A record and a sequence
of assignments both forget how often and in which order a column came, so what a new record stores
and what an update sets are the same columns, each once and sorted, but for those that are managed.
-/

namespace CrudQuery.Catalog

/-- A row that gives some columns the null value, each once and in strictly increasing order. -/
structure Nulls (columns : List String) (row : Row) : Prop where
  ordered : row.Ordered
  columns : ∀ column, column ∈ row.columns ↔ column ∈ columns
  null : ∀ cell ∈ row, cell.value = .null

/-! ## Rows of null values -/

/-- The cells that give columns the null value. -/
def nullCells (columns : List String) : List Cell := columns.map fun column => ⟨column, .null⟩

theorem value_of_mem_nullCells {columns : List String} {cell : Cell}
    (h : cell ∈ nullCells columns) : cell.value = .null := by
  obtain ⟨column, -, rfl⟩ := List.mem_map.mp h
  rfl

theorem nullRow_eq (columns : List String) :
    nullRow columns = Row.ofRecord (Row.toRecord (nullCells columns)) := by
  rw [nullRow, Row.toRecord, nullCells, List.map_map]
  rfl

/-- A record keeps a column once, whose value is that of some cell. -/
theorem nulls_nullRow (columns : List String) : Nulls columns (nullRow columns) where
  ordered := Row.ordered_ofRecord _
  columns _ := mem_columns_nullRow
  null cell hcell := by
    rw [nullRow_eq, Row.mem_ofRecord, Row.get?_toRecord] at hcell
    exact value_of_mem_nullCells (Row.mem_of_lastValue? hcell)

/-- And so does a row that is made by assignments. -/
theorem nulls_assignAll (columns : List String) :
    Nulls columns (Row.assignAll [] (nullCells columns)) where
  ordered := Row.ordered_assignAll List.Pairwise.nil _
  columns column := by
    rw [Row.mem_columns_assignAll, nullCells, List.map_map]
    simp [Row.columns, Function.comp_def]
  null cell hcell := by
    have hordered := Row.ordered_assignAll List.Pairwise.nil (nullCells columns)
    have hvalue := (Row.value?_eq_some_iff hordered.nodup_columns).mpr hcell
    rw [Row.value?_assignAll List.Pairwise.nil, Row.value?, List.find?_nil, Option.map_none,
      Option.or_none] at hvalue
    exact value_of_mem_nullCells (Row.mem_of_lastValue? hvalue)

theorem Nulls.congr {columns others : List String} {row : Row} (h : Nulls columns row)
    (hsame : ∀ column, column ∈ columns ↔ column ∈ others) : Nulls others row :=
  ⟨h.ordered, fun column => (h.columns column).trans (hsame column), h.null⟩

/-! ## The queries -/

/-- The query that was made for a verb. -/
theorem lookup_of_generate {entity : Entity} {queries : List (Verb × Query)}
    (h : (generate entity).outcome = .ok queries) (verb : Verb) :
    queries.lookup verb =
      if Offers entity verb then some (draftOf entity entity.resolved verb) else none := by
  cases hget : refusal? entity .get with
  | some fault =>
    rw [generate_of_get_refused hget] at h
    cases h
  | none =>
    rw [generate_of_get_made hget] at h
    cases h
    have hoffered : verb ∈ offered entity ↔ Offers entity verb := by
      rw [offered, List.mem_filter, decide_eq_true_eq]
      exact and_iff_right (by cases verb <;> decide)
    split
    · next hverb => exact List.lookup_graph _ (hoffered.mpr hverb)
    · next hverb =>
      rw [List.lookup_eq_none_iff]
      intro made hmade
      obtain ⟨other, hother, rfl⟩ := List.mem_map.mp hmade
      refine bne_iff_ne.mpr ?_
      rintro rfl
      exact hverb (hoffered.mp hother)

/-- A verb other than an update has its query. -/
theorem lookup_of_ne_update {entity : Entity} {queries : List (Verb × Query)}
    (h : (generate entity).outcome = .ok queries) {verb : Verb} (hverb : verb ≠ .update) :
    queries.lookup verb = some (draftOf entity entity.resolved verb) := by
  have hoffers : Offers entity verb := fun hupdate => absurd hupdate hverb
  rw [lookup_of_generate h, if_pos hoffers]

/-- What the queries made for an entity say about its columns, verb by verb. -/
structure Agree (entity : Entity) (queries : List (Verb × Query)) : Prop where
  /-- Reading shows the columns of the fields, in their order and under their own names. -/
  read : ∀ verb ∈ [Verb.get, .list], ∃ query, queries.lookup verb = some query ∧
    query.operation = .select ∧ query.fields = entity.columns.map fun column => ⟨column, none⟩
  /-- Creating stores one row of all columns and gives it back. -/
  created : ∃ query row, queries.lookup .create = some query ∧ query.operation = .insert ∧
    query.rows? = some [row] ∧ Nulls entity.columns row ∧ query.returning = ["*"]
  /-- Updating, if there is anything to set, sets all columns that are not managed. -/
  updated : ∀ query, queries.lookup .update = some query → query.operation = .update ∧
    (∃ row, query.updates? = some row ∧
      Nulls (entity.columns.filter (· ∉ ["id", "created_at", "deleted_at"])) row) ∧
    query.returning = ["*"]
  /-- It is left out iff there is nothing to set. -/
  settable : queries.lookup .update = none ↔
    ∀ column ∈ entity.columns, column ∈ ["id", "created_at", "deleted_at"]
  /-- Deleting sets the mark for it, if some field goes by its name, and nothing else. -/
  deleted : ∃ query, queries.lookup .delete = some query ∧
    if entity.hasField "deleted_at" then
      query.operation = .update ∧ query.updates? = some [⟨"deleted_at", .null⟩]
    else query.operation = .delete

/-- **The columns of the default queries.** -/
theorem generate_agree {entity : Entity} {queries : List (Verb × Query)}
    (h : (generate entity).outcome = .ok queries) : Agree entity queries where
  read verb hverb := by
    have hmade : verb ≠ .update := by
      rintro rfl
      exact absurd hverb (by decide)
    refine ⟨_, lookup_of_ne_update h hmade, ?_, ?_⟩
    · rw [operation_draftOf]
      rcases List.mem_pair.mp hverb with rfl | rfl <;> rfl
    · rw [fields_draftOf, if_pos hverb, ← columns_entity, List.map_map]
      rfl
  created := by
    refine ⟨_, _, lookup_of_ne_update h (by decide), operation_draftOf entity _ .create, ?_,
      nulls_nullRow entity.columns, ?_⟩
    · rw [rows_draftOf, if_pos rfl, columns_entity]
    · rw [returning_draftOf, if_pos (by decide)]
  updated query hquery := by
    rw [lookup_of_generate h, Option.ite_none_right_eq_some] at hquery
    obtain rfl := Option.some.inj hquery.2
    have hrow : (draftOf entity entity.resolved .update).updates? =
        some (Row.assignAll [] (nullCells (updatable entity.columns))) := by
      rw [updates_draftOf, columns_entity]
      rfl
    refine ⟨operation_draftOf entity _ .update,
      ⟨_, hrow, (nulls_assignAll _).congr fun column => ?_⟩, ?_⟩
    · simp [updatable, managedFields, idField, createdField, deletedField]
    · rw [returning_draftOf, if_pos (by decide)]
  settable := by
    rw [lookup_of_generate h, ite_eq_right_iff]
    simp only [Offers, reduceCtorEq, imp_false, forall_const, not_exists, not_and, not_not]
  deleted := by
    refine ⟨_, lookup_of_ne_update h (by decide), ?_⟩
    have hoperation := operation_draftOf entity entity.resolved .delete
    have hupdates := updates_draftOf entity entity.resolved .delete
    split
    · next hmarked =>
      have hupdate : operationOf entity .delete = .update := if_pos hmarked
      have hassigned : assigned entity (entity.resolved.map Resolved.column) .delete =
          [⟨deletedField, .null⟩] := if_pos hmarked
      rw [if_pos hupdate, hassigned] at hupdates
      exact ⟨hoperation.trans hupdate, hupdates⟩
    · next hmarked =>
      exact hoperation.trans (if_neg hmarked)

/-- Columns may come twice, be array indices or be called `__proto__`, and the mark of deleted
records may be the column of a field that goes by another name. -/
theorem generate_agree_repeated :
    let entity : Entity := ⟨"Event", none,
      [⟨"10", none, none, []⟩, ⟨"id", none, none, []⟩, ⟨"when", some "2", none, []⟩,
        ⟨"secret", some "-", none, []⟩, ⟨"__proto__", none, none, []⟩, ⟨"x", none, some "10", []⟩,
        ⟨"removed", none, none, [("db", "deleted_at")]⟩]⟩
    ∃ queries, (generate entity).outcome = .ok queries ∧ Agree entity queries ∧
      entity.columns = ["10", "id", "2", "__proto__", "10", "deleted_at"] ∧
      entity.hasField "deleted_at" = true := by
  intro entity
  obtain ⟨queries, hqueries⟩ := Except.exists_of_isOk
    (show (generate entity).outcome.isOk = true by decide +kernel)
  exact ⟨queries, hqueries, generate_agree hqueries, by decide +kernel, by decide +kernel⟩

end CrudQuery.Catalog
