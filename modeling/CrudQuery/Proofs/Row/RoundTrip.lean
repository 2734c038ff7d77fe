import CrudQuery.Proofs.Record.Listing
import CrudQuery.Proofs.Row.Assignment

/-! # Rows as records and back

A row is sorted by the units of its column names and a record lists its members in an order of its
own, so neither keeps the order of the other: `10` comes before `2` in a row and behind it in a
record.  What is kept is which value stands under which name.  A strictly increasing row is known by
that alone, and so comes back as it was; a record comes back with the same values, though perhaps in
another order.

A row made by hand may repeat a column.  Its record has the last value of each one, at the place
that the column has in the listing of a record.
-/

namespace CrudQuery.Row

/-! ## From a record -/

/-- A row made from a record has a cell for every member. -/
theorem mem_ofRecord {record : Record Value} {cell : Cell} :
    cell ∈ ofRecord record ↔ record.get? cell.field = some cell.value := by
  rw [ofRecord, (sorted_perm _).mem_iff, List.mem_map]
  constructor
  · rintro ⟨member, hmember, rfl⟩
    exact Record.mem_toList.mp hmember
  · exact fun hvalue => ⟨(cell.field, cell.value), Record.mem_toList.mpr hvalue, rfl⟩

theorem get?_toRecord_ofRecord (record : Record Value) (key : String) :
    (ofRecord record).toRecord.get? key = record.get? key := by
  have hcell := get?_toRecord_eq_some (ordered_ofRecord record).nodup_columns
  exact Option.ext fun value => (hcell ⟨key, value⟩).trans mem_ofRecord

/-! ## From a row -/

theorem toRecord_append_singleton (row : Row) (cell : Cell) :
    toRecord (row ++ [cell]) = (toRecord row).insert cell.field cell.value := by
  rw [toRecord, List.map_append]
  exact Record.ofList_append_singleton _ _

theorem lastValue?_append_singleton (cells : List Cell) (cell : Cell) (field : String) :
    lastValue? (cells ++ [cell]) field =
      if field = cell.field then some cell.value else lastValue? cells field := by
  unfold lastValue?
  rw [List.filter_append]
  by_cases hfield : field = cell.field
  · rw [if_pos hfield, List.filter_cons_of_pos (by simpa using hfield.symm), List.filter_nil,
      List.getLast?_append, List.getLast?_singleton]
    rfl
  · rw [if_neg hfield, List.filter_cons_of_neg (by simpa using Ne.symm hfield), List.filter_nil,
      List.append_nil]

/-- The last value of a field is that of some cell. -/
theorem mem_of_lastValue? {cells : List Cell} {field : String} {value : Value}
    (h : lastValue? cells field = some value) : ⟨field, value⟩ ∈ cells := by
  obtain ⟨cell, hlast, rfl⟩ := Option.map_eq_some_iff.mp h
  obtain ⟨hcell, hfield⟩ := List.mem_filter.mp (List.mem_of_getLast? hlast)
  obtain rfl := of_decide_eq_true hfield
  exact hcell

/-- A record has under each key the value that the row gives it last. -/
theorem get?_toRecord (row : Row) (key : String) :
    row.toRecord.get? key = lastValue? row key := by
  induction row using List.reverseRecOn with
  | nil => rfl
  | append_singleton row cell ih =>
    rw [toRecord_append_singleton, Record.get?_insert, ih, lastValue?_append_singleton]

/-- The keys of a record are set where their columns first stand. -/
theorem keys_toRecord (row : Row) : row.toRecord.keys = row.columns.eraseDups := by
  rw [toRecord, Record.keys_ofList, List.map_map]
  rfl

/-- A strictly increasing row comes back from its record. -/
theorem Ordered.ofRecord_toRecord {row : Row} (h : Ordered row) : ofRecord row.toRecord = row := by
  refine (ordered_ofRecord _).eq_of_perm h ((List.perm_ext_iff_of_nodup ?_ ?_).mpr fun cell => ?_)
  · exact (ordered_ofRecord _).nodup_columns.of_map _
  · exact h.nodup_columns.of_map _
  · rw [mem_ofRecord, get?_toRecord_eq_some h.nodup_columns]

/-! ## Both ways -/

/-- What a record must be like to hold what a row holds, whatever the row is. -/
structure HeldBy (record : Record Value) (row : Row) : Prop where
  /-- No key is listed twice. -/
  once : (record.toList.map Prod.fst).Nodup
  /-- The keys are the columns of the row. -/
  keys : ∀ key, key ∈ record.toList.map Prod.fst ↔ key ∈ row.columns
  /-- The last value of a column counts. -/
  values : ∀ key, record.get? key = lastValue? row key
  /-- Array indices are listed by their number, and behind them the other columns as they first
  stand in the row. -/
  listed : ∃ indices : List Nat, indices.Pairwise (· < ·) ∧ (∀ n ∈ indices, n < 4294967295) ∧
    record.toList.map Prod.fst = indices.map Record.indexKey ++
      row.columns.eraseDups.filter fun column => ¬Record.IsIndex column

theorem heldBy_toRecord (row : Row) : HeldBy row.toRecord row where
  once := Record.nodup_toList _
  keys key := by rw [Record.mem_keys_toList, keys_toRecord, List.mem_eraseDups]
  values := get?_toRecord row
  listed := keys_toRecord row ▸ row.toRecord.keys_toList

/-- **Nothing is lost between rows and records.**  A strictly increasing row comes back from its
record, a record comes back from its row with the same values under the same keys, and the record of
any row at all holds the last value of each column. -/
theorem records_hold_rows :
    (∀ row, Ordered row → ofRecord row.toRecord = row) ∧
      (∀ record key, (ofRecord record).toRecord.get? key = record.get? key) ∧
      ∀ row, HeldBy row.toRecord row :=
  ⟨fun _ h => h.ofRecord_toRecord, get?_toRecord_ofRecord, heldBy_toRecord⟩

/-- A number with a zero in front or beyond the last index is a name, and so is `__proto__`. -/
theorem records_hold_rows_indices :
    let row : Row := [⟨"10", .text "A"⟩, ⟨"2", .null⟩, ⟨"4294967295", .null⟩,
      ⟨"__proto__", .bool true⟩, ⟨"😀", .null⟩, ⟨"～", .null⟩]
    let repeated : Row := [⟨"__proto__", .null⟩, ⟨"10", .null⟩, ⟨"01", .null⟩, ⟨"2", .null⟩,
      ⟨"__proto__", .text "B"⟩, ⟨"10", .bool false⟩]
    row.Ordered ∧ ofRecord row.toRecord = row ∧
      row.toRecord.toList.map Prod.fst = ["2", "10", "4294967295", "__proto__", "😀", "～"] ∧
      HeldBy repeated.toRecord repeated ∧
      repeated.toRecord.toList.map Prod.fst = ["2", "10", "__proto__", "01"] ∧
      repeated.toRecord.get? "__proto__" = some (.text "B") := by
  intro row repeated
  have hordered : row.Ordered := by
    unfold Ordered
    decide +kernel
  obtain ⟨hback, -, hheld⟩ := records_hold_rows
  exact ⟨hordered, hback row hordered, by decide +kernel, hheld repeated, by decide +kernel,
    (hheld repeated).values "__proto__"⟩

end CrudQuery.Row
