import CrudQuery.Document.Printer
import CrudQuery.Proofs.Draft.Content
import CrudQuery.Proofs.Sql.RowNames

/-! # Inserts that are filled from records

A call for an insert brings a record, and the row that is made of it has forgotten in which order
the record was filled (`Row.ofRecord_eq_of_perm`).  Records that hold the same members therefore
make the same draft (`inserting_congr`), and nothing that is read off a draft can tell them apart.

Columns of rows are compared place by place, but for the same reason rows have the same list of
columns iff their records have the same keys (`Row.columns_ofRecord_eq_iff`).  So an insert whose
names may stand in a statement is refused exactly where a record has other keys than the first
one, or where the first one has none.
-/

namespace CrudQuery

/-- Two records hold the same members, whatever the order of their keys. -/
def Record.SameMembers {α : Type} (record other : Record α) : Prop :=
  record.entries.Perm other.entries

/-- Two records have the same keys. -/
def Record.SameKeys {α : Type} (record other : Record α) : Prop :=
  ∀ key, key ∈ record.keys ↔ key ∈ other.keys

namespace Draft

/-- An insert that is filled from records. -/
def inserting (target : String) (records : List (Record Value)) : Draft :=
  (start .insert target).applyAll (records.map .values)

/-- An insert with some rows and no other clause. -/
def withRows (target : String) (rows : List Row) : Draft :=
  { Query.blank .insert target with rows? := some rows }

/-- The rows of records are put behind those there are. -/
theorem applyAll_withRows (target : String) (rows : List Row) (records : List (Record Value)) :
    (withRows target rows).applyAll (records.map .values) =
      withRows target (rows ++ records.map Row.ofRecord) := by
  induction records generalizing rows with
  | nil => rw [List.map_nil, List.map_nil, List.append_nil]; rfl
  | cons record rest ih =>
    have hrest := ih (rows ++ [Row.ofRecord record])
    rwa [List.append_assoc, List.singleton_append] at hrest

theorem inserting_eq (target : String) (records : List (Record Value)) :
    inserting target records = withRows target (records.map Row.ofRecord) :=
  applyAll_withRows target [] records

theorem operation_inserting (target : String) (records : List (Record Value)) :
    (inserting target records).operation = .insert := by
  rw [inserting_eq]
  rfl

theorem insertRows_inserting (target : String) (records : List (Record Value)) :
    (inserting target records).insertRows = records.map Row.ofRecord := by
  rw [inserting_eq]
  rfl

theorem insertColumns_inserting (target : String) (first : Record Value)
    (rest : List (Record Value)) :
    (inserting target (first :: rest)).insertColumns = (Row.ofRecord first).columns := by
  rw [inserting_eq]
  rfl

/-- Rows lack columns, or differ in them, where their records do in keys. -/
theorem columns_differ_iff (target : String) (first : Record Value) (rest : List (Record Value)) :
    ((inserting target (first :: rest)).insertColumns = [] ∨
        ∃ row ∈ (inserting target (first :: rest)).insertRows,
          row.columns ≠ (inserting target (first :: rest)).insertColumns) ↔
      first.keys = [] ∨ ∃ record ∈ rest, ¬ record.SameKeys first := by
  rw [insertColumns_inserting, insertRows_inserting]
  refine or_congr Row.columns_ofRecord_eq_nil_iff ⟨?_, ?_⟩
  · rintro ⟨row, hrow, hother⟩
    obtain ⟨record, hrecord, rfl⟩ := List.mem_map.mp hrow
    rcases List.mem_cons.mp hrecord with rfl | hrecord
    · exact absurd rfl hother
    · exact ⟨record, hrecord, fun hsame => hother (Row.columns_ofRecord_eq_iff.mpr hsame)⟩
  · rintro ⟨record, hrecord, hother⟩
    exact ⟨Row.ofRecord record, List.mem_map_of_mem (List.mem_cons_of_mem first hrecord),
      fun hsame => hother (Row.columns_ofRecord_eq_iff.mp hsame)⟩

/-- What can be seen of two drafts alike: what is built of them, and what it is rendered to. -/
structure Alike (draft other : Draft) : Prop where
  built : draft.build = other.build
  /-- The text and the parameters, in their order, or the fault. -/
  tables : ∀ quoting, (Sql.render quoting draft).outcome = (Sql.render quoting other).outcome
  /-- The text of the command, or the fault. -/
  documents : ∀ disjunction,
    (fun command => command.document.pretty) <$> (DocumentStore.render disjunction draft).outcome =
      (fun command => command.document.pretty) <$> (DocumentStore.render disjunction other).outcome

/-- Records that hold the same members make the same draft. -/
theorem inserting_congr (target : String) {records others : List (Record Value)}
    (h : List.Forall₂ Record.SameMembers records others) :
    inserting target records = inserting target others := by
  have hrows : records.map Row.ofRecord = others.map Row.ofRecord := by
    induction h with
    | nil => rfl
    | cons hsame _ ih => rw [List.map_cons, List.map_cons, Row.ofRecord_eq_of_perm hsame, ih]
  rw [inserting_eq, inserting_eq, hrows]

/-- The target and all keys may stand in a statement, and no key has a dot. -/
structure Nameable (target : String) (records : List (Record Value)) : Prop where
  target : Sql.isIdentifier target = true
  keys : ∀ record ∈ records, ∀ key ∈ record.keys,
    Sql.isIdentifier key = true ∧ '.' ∉ key.toList

section Records
variable {target : String} {first : Record Value} {rest : List (Record Value)}

/-- Records under names that may stand in a statement make an insert that is accepted. -/
theorem Nameable.accepted (h : Nameable target (first :: rest)) :
    Sql.Accepted (inserting target (first :: rest)) := by
  have hcells : ∀ row ∈ (first :: rest).map Row.ofRecord, ∀ cell ∈ row,
      Sql.isIdentifier cell.field = true := by
    intro row hrow cell hcell
    obtain ⟨record, hrecord, rfl⟩ := List.mem_map.mp hrow
    have hkey : cell.field ∈ record.keys :=
      (Row.columns_ofRecord_perm record).mem_iff.mp (List.mem_map_of_mem hcell)
    exact (h.keys record hrecord cell.field hkey).1
  have hnamed : target ≠ "" := by
    intro hempty
    have hidentifier := h.target
    rw [hempty] at hidentifier
    exact absurd hidentifier (by decide)
  have hvalid : (inserting target (first :: rest)).violation? = none :=
    (violation_applyAll_eq_none .insert target _).mpr
      ⟨hnamed, fun _ => ⟨first, by simp⟩, fun hupdate => nomatch hupdate⟩
  rw [inserting_eq] at hvalid ⊢
  refine ⟨hvalid, nofun, nofun, ?_⟩
  exact ⟨h.target, nofun, nofun, nofun, nofun, nofun, hcells, nofun, nofun⟩

/-- Columns without dots are bound under different names. -/
theorem Nameable.distinct (h : Nameable target (first :: rest)) :
    ((inserting target (first :: rest)).insertColumns.map parameterName).Nodup := by
  have hperm := Row.columns_ofRecord_perm first
  rw [insertColumns_inserting]
  refine Sql.nodup_parameterNames (hperm.nodup_iff.mpr first.keys_nodup) fun column hcolumn => ?_
  exact (h.keys first List.mem_cons_self column (hperm.mem_iff.mp hcolumn)).2

end Records

/-- **The order of keys plays no part.**  Records that hold the same members are built and rendered
alike; and where names may stand in a statement, an insert is built, and its rendering fails exactly
for a first record without keys or a later one with other keys. -/
theorem inserting_unordered (target : String) :
    (∀ records others, List.Forall₂ Record.SameMembers records others →
      Alike (inserting target records) (inserting target others)) ∧
    ∀ first rest, Nameable target (first :: rest) →
      ∃ query, (inserting target (first :: rest)).build.outcome = .ok (.ok query) ∧
        ∀ quoting,
          ((∃ fault, (Sql.render quoting query).outcome = .error fault) ↔
            first.keys = [] ∨ ∃ record ∈ rest, ¬ record.SameKeys first) ∧
          ∀ fault, (Sql.render quoting query).outcome = .error fault →
            fault.kind = "MalformedRow" := by
  constructor
  · intro records others h
    rw [inserting_congr target h]
    exact ⟨rfl, fun _ => rfl, fun _ => rfl⟩
  intro first rest h
  have hinsert := operation_inserting target (first :: rest)
  refine ⟨_, build_eq_ok.mpr ⟨h.accepted.valid, rfl⟩, fun quoting => ⟨?_, fun fault hfault => ?_⟩⟩
  · rw [Sql.exists_render_eq_error_iff h.accepted hinsert h.distinct]
    exact columns_differ_iff target first rest
  · exact (Sql.rowFault_of_render h.accepted hinsert h.distinct hfault).kind

/-- Keys that are array indices are listed out of turn, and a row that has all columns of the first
one may have another column besides. -/
theorem inserting_unordered_indices :
    let records : List (Record Value) := [
      .ofList [("b", .null), ("10", .bool true), ("2", .text "x")],
      .ofList [("～", .null), ("😀", .null)]]
    let others : List (Record Value) := [
      .ofList [("2", .text "x"), ("b", .null), ("10", .bool true)],
      .ofList [("😀", .null), ("～", .null)]]
    let first : Record Value := .ofList [("name", .text "A"), ("age", .null)]
    let longer : Record Value := .ofList [("age", .null), ("id", .null), ("name", .text "B")]
    List.Forall₂ Record.SameMembers records others ∧
      Alike (inserting "users" records) (inserting "users" others) ∧
      Nameable "users" [first, longer] ∧
      ∃ query, (inserting "users" [first, longer]).build.outcome = .ok (.ok query) ∧
        ∃ fault, (Sql.render .plain query).outcome = .error fault ∧
          fault.kind = "MalformedRow" := by
  intro records others first longer
  have hsame : List.Forall₂ Record.SameMembers records others := by
    have hmoved : (Record.SameMembers records[0] others[0]) :=
      ((List.Perm.swap _ _ _).cons _).trans (.swap _ _ _)
    exact .cons hmoved (.cons (.swap _ _ _) .nil)
  have hnames : Nameable "users" [first, longer] := by
    refine ⟨by decide, ?_⟩
    decide +kernel
  obtain ⟨hrecords, hrendered⟩ := inserting_unordered "users"
  obtain ⟨query, hbuilt, hquery⟩ := hrendered first [longer] hnames
  obtain ⟨hfails, hkind⟩ := hquery .plain
  have hother : ¬ longer.SameKeys first := fun h => absurd ((h "id").mp (by decide)) (by decide)
  obtain ⟨fault, hfault⟩ := hfails.mpr (.inr ⟨longer, List.mem_singleton_self _, hother⟩)
  exact ⟨hsame, hrecords records others hsame, hnames, query, hbuilt, fault, hfault,
    hkind fault hfault⟩

end Draft

end CrudQuery
