import CrudQuery.Proofs.Draft
import CrudQuery.Proofs.Record
import Mathlib.Data.List.Nodup

/-! # The columns of a row

Assigning a cell to a row gives it that column, once, and leaves it the others; a row made from a
record has the keys of the record, once each.  In which order they stand plays no part here.
-/

namespace CrudQuery

/-- The keys of a filled record are those of the members it was filled with. -/
theorem Record.mem_keys_ofList {α : Type} {members : List (String × α)} {key : String} :
    key ∈ (Record.ofList members).keys ↔ key ∈ members.map Prod.fst := by
  rw [keys_ofList, List.mem_eraseDups]

namespace Row

theorem columns_sorted_perm (row : Row) : row.sorted.columns.Perm row.columns :=
  (sorted_perm row).map Cell.field

theorem columns_assign_perm (row : Row) (field : String) (value : Value) :
    (row.assign field value).columns.Perm ((row.columns.filter (· ≠ field)) ++ [field]) := by
  refine (columns_sorted_perm _).trans (.of_eq ?_)
  rw [columns, List.map_append, columns, List.filter_map]
  rfl

theorem mem_columns_assign {row : Row} {field column : String} {value : Value} :
    column ∈ (row.assign field value).columns ↔ column ∈ row.columns ∨ column = field := by
  rw [(columns_assign_perm row field value).mem_iff, List.mem_append, List.mem_filter,
    List.mem_singleton, decide_eq_true_eq]
  tauto

theorem nodup_columns_assign {row : Row} (h : row.columns.Nodup) (field : String) (value : Value) :
    (row.assign field value).columns.Nodup := by
  rw [(columns_assign_perm row field value).nodup_iff]
  refine List.nodup_append.mpr ⟨h.filter _, List.nodup_singleton field, ?_⟩
  intro column hcolumn other hother
  rw [List.mem_singleton.mp hother]
  exact of_decide_eq_true (List.mem_filter.mp hcolumn).2

/-- Cells that are assigned one after another give a row their columns. -/
theorem mem_columns_assignAll {row : Row} {cells : List Cell} {column : String} :
    column ∈ (row.assignAll cells).columns ↔
      column ∈ row.columns ∨ column ∈ cells.map Cell.field := by
  induction cells generalizing row with
  | nil => simp [assignAll]
  | cons cell rest ih =>
    change column ∈ ((row.assign cell.field cell.value).assignAll rest).columns ↔ _
    rw [ih, mem_columns_assign, or_assoc, List.map_cons, List.mem_cons]

theorem nodup_columns_assignAll {row : Row} (h : row.columns.Nodup) (cells : List Cell) :
    (row.assignAll cells).columns.Nodup := by
  induction cells generalizing row with
  | nil => exact h
  | cons cell rest ih => exact ih (nodup_columns_assign h cell.field cell.value)

/-- A row without repeated columns fills a record cell by cell. -/
theorem entries_toRecord {row : Row} (h : row.columns.Nodup) :
    row.toRecord.entries = row.map fun cell => (cell.field, cell.value) := by
  refine Record.entries_ofList ?_
  rw [List.map_map]
  exact h

/-- Under a column of such a row the record has the value of its cell. -/
theorem get?_toRecord_eq_some {row : Row} (h : row.columns.Nodup) (cell : Cell) :
    row.toRecord.get? cell.field = some cell.value ↔ cell ∈ row := by
  have hinj : Function.Injective fun cell : Cell => (cell.field, cell.value) := by
    rintro ⟨⟩ ⟨⟩ hsame
    cases hsame
    rfl
  rw [Record.get?_eq_some_iff, entries_toRecord h]
  exact List.mem_map_of_injective hinj

/-- A row has the columns of its record, once each. -/
theorem columns_ofRecord_perm (record : Record Value) :
    (Row.ofRecord record).columns.Perm record.keys := by
  refine (columns_sorted_perm _).trans ?_
  rw [columns, List.map_map]
  exact (Record.toList_perm record).map Prod.fst

end Row

end CrudQuery
