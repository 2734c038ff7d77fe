import CrudQuery.Proofs.Row
import CrudQuery.Proofs.Text.Order

/-! # The order of a row

Sorting puts one cell after another into its place, and a row whose columns are all different comes
out strictly increasing (`ordered_sorted`): cells of one name would stay side by side.  A record has
different keys, and an assignment first takes away the cell it replaces, so whatever rows are made
of, they are strictly increasing, and in such a row no column stands twice.
-/

namespace CrudQuery.Row

theorem mem_place {cell other : Cell} {row : Row} :
    other ∈ place cell row ↔ other = cell ∨ other ∈ row := by
  rw [(place_perm cell row).mem_iff, List.mem_cons]

/-- A cell of a new column is put where the order is kept. -/
theorem ordered_place {cell : Cell} {row : Row} (h : Ordered row)
    (hnew : cell.field ∉ row.columns) : Ordered (place cell row) := by
  induction row with
  | nil => exact List.pairwise_singleton _ _
  | cons other rest ih =>
    obtain ⟨hother, hrest⟩ := List.pairwise_cons.mp h
    rw [columns, List.map_cons, List.mem_cons, not_or] at hnew
    unfold place
    split
    · next hbefore =>
      refine List.pairwise_cons.mpr ⟨fun behind hbehind => ?_, ih hrest hnew.2⟩
      rcases mem_place.mp hbehind with rfl | hbehind
      · exact hbefore
      · exact hother behind hbehind
    · next hbefore =>
      have hcell : Text.before cell.field other.field = true :=
        (Text.before_or_before hnew.1).resolve_right hbefore
      refine List.pairwise_cons.mpr ⟨fun behind hbehind => ?_, h⟩
      rcases List.mem_cons.mp hbehind with rfl | hbehind
      · exact hcell
      · exact Text.before_trans hcell (hother behind hbehind)

/-- Cells of different columns are sorted. -/
theorem ordered_sorted {row : Row} (h : row.columns.Nodup) : Ordered row.sorted := by
  induction row with
  | nil => exact List.Pairwise.nil
  | cons cell rest ih =>
    obtain ⟨hnew, hrest⟩ : cell.field ∉ columns rest ∧ (columns rest).Nodup :=
      List.nodup_cons.mp h
    exact ordered_place (ih hrest) fun hcell =>
      hnew ((columns_sorted_perm rest).mem_iff.mp hcell)

/-- No column stands twice in a row that is strictly increasing. -/
theorem Ordered.nodup_columns {row : Row} (h : Ordered row) : row.columns.Nodup := by
  refine List.pairwise_map.mpr (h.imp fun {cell other} hbefore hsame => ?_)
  rw [hsame, Text.before_irrefl] at hbefore
  cases hbefore

theorem ordered_ofRecord (record : Record Value) : Ordered (ofRecord record) := by
  have hkeys := (columns_ofRecord_perm record).nodup_iff.mpr record.keys_nodup
  exact ordered_sorted ((columns_sorted_perm _).nodup_iff.mp hkeys)

theorem ordered_assign {row : Row} (h : row.columns.Nodup) (field : String) (value : Value) :
    Ordered (row.assign field value) :=
  ordered_sorted ((columns_sorted_perm _).nodup_iff.mp (nodup_columns_assign h field value))

/-- Assignments keep a row in order. -/
theorem ordered_assignAll {row : Row} (h : Ordered row) (cells : List Cell) :
    Ordered (row.assignAll cells) := by
  induction cells generalizing row with
  | nil => exact h
  | cons cell rest ih => exact ih (ordered_assign h.nodup_columns cell.field cell.value)

/-- Strictly increasing rows of the same cells are equal. -/
theorem Ordered.eq_of_perm {row other : Row} (h : Ordered row) (ho : Ordered other)
    (hperm : row.Perm other) : row = other :=
  Text.eq_of_perm Cell.field h ho hperm

/-- Nothing is left in a row of the order in which a record was filled. -/
theorem ofRecord_eq_of_perm {record other : Record Value}
    (h : record.entries.Perm other.entries) : ofRecord record = ofRecord other := by
  refine (ordered_ofRecord record).eq_of_perm (ordered_ofRecord other) ?_
  have hlisted := (Record.toList_perm record).trans (h.trans (Record.toList_perm other).symm)
  exact (sorted_perm _).trans ((hlisted.map _).trans (sorted_perm _).symm)

theorem columns_ofRecord_eq_nil_iff {record : Record Value} :
    (ofRecord record).columns = [] ↔ record.keys = [] := by
  have hperm := columns_ofRecord_perm record
  exact ⟨fun h => List.nil_perm.mp (h ▸ hperm), fun h => (h ▸ hperm).eq_nil⟩

/-- The rows of two records have the same columns iff the records have the same keys. -/
theorem columns_ofRecord_eq_iff {record other : Record Value} :
    (ofRecord record).columns = (ofRecord other).columns ↔
      ∀ key, key ∈ record.keys ↔ key ∈ other.keys := by
  have hkeys := columns_ofRecord_perm record
  have hothers := columns_ofRecord_perm other
  constructor
  · intro h key
    rw [← hkeys.mem_iff, h, hothers.mem_iff]
  · intro h
    have hperm : record.keys.Perm other.keys :=
      (List.perm_ext_iff_of_nodup record.keys_nodup other.keys_nodup).mpr h
    exact Text.eq_of_perm id (List.pairwise_map.mpr (ordered_ofRecord record))
      (List.pairwise_map.mpr (ordered_ofRecord other)) (hkeys.trans (hperm.trans hothers.symm))

/-- The keys of a record that are array indices are listed by their number, but they are texts. -/
example : (ofRecord (Record.ofList [("～", .null), ("b", .null), ("10", .null), ("😀", .null),
    ("2", .null)])).columns = ["10", "2", "b", "😀", "～"] := by decide +kernel

end CrudQuery.Row
