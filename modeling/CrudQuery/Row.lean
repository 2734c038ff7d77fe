import CrudQuery.Record
import CrudQuery.Value
import CrudQuery.Text

/-! # Rows

A row names columns and gives each a value. Rows that this library makes are strictly increasing by
column name in the order of UTF-16 units, so that what is written from them never depends on the
order in which the columns were given. A row made by hand may be in any order and may repeat a name.
-/

namespace CrudQuery

/-- One column of a row. -/
structure Cell where
  field : String
  value : Value
  deriving Inhabited

/-- An insert row or the assignments of an update. -/
abbrev Row := List Cell

namespace Row

/-- The column names of a row. -/
def columns (row : Row) : List String := row.map Cell.field

/-- Puts a cell before the first one that does not come strictly before it. -/
def place (cell : Cell) : Row → Row
  | [] => [cell]
  | other :: rest =>
    if Text.before other.field cell.field then other :: place cell rest else cell :: other :: rest

/-- The cells in ascending order; cells of one name keep their order. -/
def sorted (row : Row) : Row := row.foldr place []

/-- The row of a record. -/
def ofRecord (record : Record Value) : Row :=
  sorted (record.toList.map fun member => ⟨member.1, member.2⟩)

/-- The row with one column assigned: an earlier cell of that name goes, and the row is in order. -/
def assign (row : Row) (field : String) (value : Value) : Row :=
  sorted ((row.filter fun cell => cell.field ≠ field) ++ [⟨field, value⟩])

/-- The record of a row. Of several cells with one name the last value stays, at the first place. -/
def toRecord (row : Row) : Record Value :=
  Record.ofList (row.map fun cell => (cell.field, cell.value))

/-- Strictly increasing column names. -/
def Ordered (row : Row) : Prop :=
  row.Pairwise fun a b => Text.before a.field b.field = true

theorem place_perm (cell : Cell) (row : Row) : (place cell row).Perm (cell :: row) := by
  induction row with
  | nil => exact .refl _
  | cons other rest ih =>
    unfold place
    split
    · exact (ih.cons other).trans (.swap cell other rest)
    · exact .refl _

theorem sorted_perm (row : Row) : row.sorted.Perm row := by
  induction row with
  | nil => exact .refl _
  | cons cell rest ih => exact (place_perm cell _).trans (ih.cons cell)

end Row

end CrudQuery
