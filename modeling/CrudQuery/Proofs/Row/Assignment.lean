import CrudQuery.Proofs.Draft.Content
import CrudQuery.Proofs.Sql.Text

/-! # What assignments make of a row

A strictly increasing row is known by what it holds: two of them that give every field the same
value are one row (`Ordered.eq_of_value?`).  An assignment takes cells away, adds one and sorts,
but of all this only the values remain to be said: the assigned field has its new value and every
other field the one it had (`value?_assign`), so behind a sequence of assignments each field has
the value that it was assigned last.  Nothing else decides what the row is, and least of all the
order in which different fields were assigned.
-/

namespace CrudQuery

namespace Row

/-- The value that a row has under a field. -/
def value? (row : Row) (field : String) : Option Value :=
  (row.find? fun cell => cell.field = field).map Cell.value

/-- The value that some cells assign to a field last. -/
def lastValue? (cells : List Cell) (field : String) : Option Value :=
  ((cells.filter fun cell => cell.field = field).getLast?).map Cell.value

/-! ## A row is known by what it holds -/

theorem value?_eq_some_iff {row : Row} (h : row.columns.Nodup) {field : String} {value : Value} :
    row.value? field = some value ↔ ⟨field, value⟩ ∈ row := by
  rw [value?, Option.map_eq_some_iff]
  constructor
  · rintro ⟨cell, hfound, rfl⟩
    obtain ⟨hcell, rfl⟩ := (List.find?_key_eq_some_iff h).mp hfound
    exact hcell
  · intro hcell
    exact ⟨_, (List.find?_key_eq_some_iff h).mpr ⟨hcell, rfl⟩, rfl⟩

/-- Strictly increasing rows that give every field the same value are equal. -/
theorem Ordered.eq_of_value? {row other : Row} (h : Ordered row) (ho : Ordered other)
    (hvalues : ∀ field, row.value? field = other.value? field) : row = other := by
  refine h.eq_of_perm ho ((List.perm_ext_iff_of_nodup ?_ ?_).mpr fun cell => ?_)
  · exact h.nodup_columns.of_map _
  · exact ho.nodup_columns.of_map _
  · rw [← value?_eq_some_iff h.nodup_columns, ← value?_eq_some_iff ho.nodup_columns,
      hvalues cell.field]

/-! ## Assignments -/

theorem mem_assign {row : Row} {field : String} {value : Value} {cell : Cell} :
    cell ∈ row.assign field value ↔ (cell ∈ row ∧ cell.field ≠ field) ∨ cell = ⟨field, value⟩ := by
  rw [assign, (sorted_perm _).mem_iff, List.mem_append, List.mem_filter, List.mem_singleton,
    decide_eq_true_eq]

/-- An assignment changes the value of its field and no other. -/
theorem value?_assign {row : Row} (h : row.columns.Nodup) (field : String) (value : Value)
    (other : String) :
    (row.assign field value).value? other =
      if other = field then some value else row.value? other := by
  refine Option.ext fun held => ?_
  rw [value?_eq_some_iff (nodup_columns_assign h field value), mem_assign, Cell.mk.injEq]
  split
  · next hfield => simp [hfield, eq_comm]
  · next hfield => simp [hfield, value?_eq_some_iff h]

theorem lastValue?_cons (cell : Cell) (rest : List Cell) (field : String) :
    lastValue? (cell :: rest) field =
      (lastValue? rest field).or (if field = cell.field then some cell.value else none) := by
  unfold lastValue?
  by_cases hfield : field = cell.field
  · rw [List.filter_cons_of_pos (by simpa using hfield.symm), if_pos hfield, List.getLast?_cons]
    cases (rest.filter fun other => other.field = field).getLast? <;> rfl
  · rw [List.filter_cons_of_neg (by simpa using Ne.symm hfield), if_neg hfield, Option.or_none]

/-- Behind a run of assignments a field has the value it was assigned last, or else the one it
had. -/
theorem value?_assignAll {row : Row} (h : Ordered row) (cells : List Cell) (field : String) :
    (row.assignAll cells).value? field = (lastValue? cells field).or (row.value? field) := by
  induction cells generalizing row with
  | nil => rfl
  | cons cell rest ih =>
    have hassigned := ordered_assign h.nodup_columns cell.field cell.value
    change ((row.assign cell.field cell.value).assignAll rest).value? field = _
    rw [ih hassigned, value?_assign h.nodup_columns, lastValue?_cons, Option.or_assoc]
    split <;> rfl

/-- A row is what some assignments make of another: it is strictly increasing, and each field has
the value of its last assignment, or else the one that it had; a field with neither is not in it. -/
structure MadeFrom (row : Row) (cells : List Cell) (result : Row) : Prop where
  ordered : result.Ordered
  values : ∀ field, result.value? field = (lastValue? cells field).or (row.value? field)

theorem madeFrom_assignAll {row : Row} (h : Ordered row) (cells : List Cell) :
    MadeFrom row cells (row.assignAll cells) :=
  ⟨ordered_assignAll h cells, value?_assignAll h cells⟩

theorem MadeFrom.unique {row result other : Row} {cells : List Cell} (h : MadeFrom row cells result)
    (ho : MadeFrom row cells other) : other = result :=
  ho.ordered.eq_of_value? h.ordered fun field => (ho.values field).trans (h.values field).symm

/-- What assignments make of a row is known from those to each field. -/
theorem MadeFrom.congr {row result : Row} {cells others : List Cell} (h : MadeFrom row cells result)
    (hsame : ∀ field, (others.filter fun cell => cell.field = field) =
      cells.filter fun cell => cell.field = field) : MadeFrom row others result := by
  refine ⟨h.ordered, fun field => ?_⟩
  rw [h.values, lastValue?, lastValue?, hsame]

end Row

/-! ## Updates -/

/-- A row that assignments came to, whatever the order in which they went from field to field. -/
structure Settled (row : Row) (cells : List Cell) (result : Row) : Prop where
  /-- It is the one row that has the values. -/
  unique : ∀ other, Row.MadeFrom row cells other ↔ other = result
  /-- Any other order of the assignments to different fields comes to the same. -/
  reordered : ∀ others, (∀ field, (others.filter fun cell => cell.field = field) =
      cells.filter fun cell => cell.field = field) → row.assignAll others = result
  /-- The text of an update that sets the row has its columns behind `SET`, each once and in their
  order, with a placeholder of its own for each. -/
  written : ∀ query : Query, query.operation = .update → query.updates? = some result →
    ∀ quoting rendered, (Sql.render quoting query).outcome = .ok rendered →
      rendered.text =
        "UPDATE " ++ Sql.nameText quoting query.target ++ " SET " ++
          Sql.setText quoting (result.columns.map fun column =>
            (column, "update_" ++ parameterName column)) ++
          Sql.chainText quoting " WHERE " (Sql.chainTokens query.conditions) ++
          Sql.returningText quoting query.returning ∧
      result.columns.Pairwise fun a b => Text.before a b = true

theorem Row.settled_assignAll {row : Row} (h : row.Ordered) (cells : List Cell) :
    Settled row cells (row.assignAll cells) where
  unique other := by
    have hmade := madeFrom_assignAll h cells
    exact ⟨hmade.unique, fun e => e ▸ hmade⟩
  reordered others hsame :=
    ((madeFrom_assignAll h cells).congr hsame).unique (madeFrom_assignAll h others)
  written query ho hupdates quoting rendered hrendered := by
    have hitems : Sql.setItems query = (row.assignAll cells).columns.map fun column =>
        (column, "update_" ++ parameterName column) := by
      rw [Sql.setItems, Query.assignments, hupdates, Option.getD_some, Row.columns, List.map_map]
      rfl
    rw [← hitems]
    exact ⟨Sql.text_of_update ho hrendered, List.pairwise_map.mpr (ordered_assignAll h cells)⟩

/-- **The last assignment to each field counts**, and nothing else does: for any assignments to a
strictly increasing row, and for those of any run of calls on an update. -/
theorem Draft.assignments_settled (target : String) (calls : List Call) :
    (∀ row cells, Row.Ordered row → Settled row cells (row.assignAll cells)) ∧
      ∃ updates, ((start .update target).applyAll calls).updates? = some updates ∧
        Settled [] (calls.filterMap Call.assignment?) updates :=
  ⟨fun _ cells h => Row.settled_assignAll h cells,
    _, updates_applyAll .update target calls, Row.settled_assignAll List.Pairwise.nil _⟩

/-- A field that is assigned again keeps its place, and a character beyond the first plane comes
before one at the end of it; and an update that can be rendered writes its columns so. -/
theorem Draft.assignments_settled_planes :
    let row : Row := [⟨"10", .null⟩, ⟨"2", .null⟩, ⟨"～", .null⟩]
    let cells : List Cell := [⟨"～", .text "A"⟩, ⟨"😀", .null⟩, ⟨"2", .text "B"⟩, ⟨"～", .bool true⟩]
    let update := (start .update "users").applyAll [.assign "name" .null,
      .filter "id" .equal .null, .assign "age" .null, .assign "name" (.text "A")]
    (row.Ordered ∧ Settled row cells
      [⟨"10", .null⟩, ⟨"2", .text "B"⟩, ⟨"😀", .null⟩, ⟨"～", .bool true⟩]) ∧
      ∃ rendered, (Sql.render .plain update).outcome = .ok rendered ∧
        rendered.text =
          "UPDATE users SET age = :update_age, name = :update_name WHERE id = :id" := by
  intro row cells update
  have hordered : row.Ordered := by
    unfold Row.Ordered
    decide +kernel
  have hresult : row.assignAll cells =
      [⟨"10", .null⟩, ⟨"2", .text "B"⟩, ⟨"😀", .null⟩, ⟨"～", .bool true⟩] := by rfl
  have hsettled := (assignments_settled "users" []).1 row cells hordered
  rw [hresult] at hsettled
  obtain ⟨updates, hupdates, hbuilt⟩ := (assignments_settled "users" [.assign "name" .null,
    .filter "id" .equal .null, .assign "age" .null, .assign "name" (.text "A")]).2
  obtain ⟨rendered, hrendered⟩ :=
    Except.exists_of_isOk (x := (Sql.render .plain update).outcome) (by decide +kernel)
  obtain ⟨htext, -⟩ := hbuilt.written update rfl hupdates .plain rendered hrendered
  obtain rfl : updates = [⟨"age", .null⟩, ⟨"name", .text "A"⟩] :=
    (Option.some.inj hupdates).symm
  exact ⟨⟨hordered, hsettled⟩, rendered, hrendered, htext.trans (by decide +kernel)⟩

end CrudQuery
