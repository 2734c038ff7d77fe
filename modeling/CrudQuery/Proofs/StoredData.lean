import CrudQuery.Proofs.DocumentStore.Compilation
import CrudQuery.Proofs.Row
import CrudQuery.Proofs.Sql.Placeholders
import CrudQuery.Proofs.Sql.Text
import Mathlib.Data.List.Nodup

/-! # Both backends store the same data

A statement that writes lists its columns once and its values by position, as placeholders with
names of their own; a command has documents, in which every value stands under its column.  That
both say the same has two sides.  A document is filled from a row cell by cell, and a column that
came twice would lose its first value; and a value could be bound under a name that belongs to
another place.  Neither happens, for one reason: the names of all placeholders are different, and
two cells of one column would claim one name.
-/

namespace CrudQuery

/-- A row of different columns that are identifiers fills a record which lists its cells in their
order. -/
theorem Row.toList_toRecord {row : Row} (h : row.columns.Nodup)
    (hfields : ∀ cell ∈ row, Sql.isIdentifier cell.field = true) :
    row.toRecord.toList = row.map fun cell => (cell.field, cell.value) := by
  rw [Record.toList_of_named, Row.entries_toRecord h]
  rw [Row.entries_toRecord h]
  refine List.forall_mem_map.mpr fun cell hcell => ?_
  exact Record.index?_of_head fun c hc => Sql.isDigit_of_head_identifier (hfields cell hcell) hc

/-- A parameter has the value that was bound under its name. -/
theorem Sql.Parameters.get?_record {parameters : Sql.Parameters} {binding : Sql.Binding}
    (h : binding ∈ parameters.bindings) :
    parameters.record.get? binding.name = some binding.value :=
  Record.get?_eq_some_iff.mpr
    (List.mem_map_of_mem (f := fun binding : Sql.Binding => (binding.name, binding.value)) h)

namespace DocumentStore

/-- The documents that a command stores. -/
def Command.stored : Command → List (Record Value)
  | insertOne _ document => [document]
  | insertMany _ documents => documents
  | _ => []

/-- What a command sets in a document. -/
def Command.changes? : Command → Option (Record Value)
  | updateOne _ _ changes => some changes
  | _ => none

/-- The document of a record, member by member. -/
def recordDocument (record : Record Value) : Document :=
  .object (record.toList.map fun member => (member.1, .ofValue member.2))

/-- What a command says that stores some documents: one document by itself, any other number of them
as a list. -/
def storingArguments (documents : List (Record Value)) : List (String × Document) :=
  match documents with
  | [document] => [("document", recordDocument document)]
  | documents => [("documents", .list (documents.map recordDocument))]

theorem stored_insertCommand (collection : String) (rows : List Row) :
    (insertCommand collection rows).stored = rows.map Row.toRecord ∧
      (insertCommand collection rows).arguments = storingArguments (rows.map Row.toRecord) := by
  unfold insertCommand storingArguments
  match rows with
  | [] | [_] | _ :: _ :: _ => exact ⟨rfl, rfl⟩

theorem stored_of_render {disjunction : Disjunction} {query : Query} {command : Command}
    (ho : query.operation = .insert) (h : (render disjunction query).outcome = .ok command) :
    command.stored = query.insertRows.map Row.toRecord ∧
      command.arguments = storingArguments command.stored := by
  obtain ⟨-, hmade⟩ := render_eq_ok.mp h
  unfold commandOf at hmade
  rw [ho] at hmade
  cases hmade
  obtain ⟨hstored, harguments⟩ := stored_insertCommand query.target query.insertRows
  exact ⟨hstored, harguments.trans (congrArg storingArguments hstored.symm)⟩

theorem changes_of_render {disjunction : Disjunction} {query : Query} {command : Command}
    (ho : query.operation = .update) (h : (render disjunction query).outcome = .ok command) :
    command.changes? = some query.assignments.toRecord ∧
      command.arguments.lookup "update" =
        some (.object [("$set", recordDocument query.assignments.toRecord)]) := by
  obtain ⟨-, hmade⟩ := render_eq_ok.mp h
  unfold commandOf at hmade
  rw [ho] at hmade
  obtain ⟨filter, -, hmade⟩ := Traced.outcome_bind_eq_ok.mp hmade
  cases hmade
  exact ⟨rfl, rfl⟩

/-- The placeholders of a tuple and a document hold the same data: the document has the given
columns and no others, and under the column at the place of a placeholder it has the value of that
parameter. -/
structure SameRow (parameters : Sql.Parameters) (columns placeholders : List String)
    (document : Record Value) : Prop where
  keys : document.toList.map Prod.fst = columns
  values : List.Forall₂
    (fun placeholder column =>
      ∃ value, parameters.record.get? placeholder = some value ∧
        document.get? column = some value)
    placeholders columns

/-- A column that is set to a placeholder and a member of a document say the same. -/
structure SameChange (parameters : Sql.Parameters) (item : String × String)
    (member : String × Value) : Prop where
  column : item.1 = member.1
  value : parameters.record.get? item.2 = some member.2

section Agreement
variable {parameters : Sql.Parameters}

theorem sameRow_of_bound {number : Nat} {row : Row}
    (hfields : ∀ cell ∈ row, Sql.isIdentifier cell.field = true)
    (hbound : ∀ cell ∈ row, Sql.cellBinding number cell ∈ parameters.bindings)
    (hnames : ((row.map (Sql.cellBinding number)).map Sql.Binding.name).Nodup) :
    SameRow parameters row.columns ((row.map (Sql.cellBinding number)).map Sql.Binding.name)
      row.toRecord := by
  have hcolumns : row.columns.Nodup := by
    have hname : (row.map (Sql.cellBinding number)).map Sql.Binding.name =
        row.columns.map fun column => parameterName column ++ "_" ++ number.repr := by
      simp [Row.columns, Sql.cellBinding, Function.comp_def]
    exact List.Nodup.of_map _ (hname ▸ hnames)
  constructor
  · rw [Row.toList_toRecord hcolumns hfields, List.map_map]
    rfl
  · rw [List.map_map, Row.columns, List.forall₂_map_left_iff, List.forall₂_map_right_iff,
      List.forall₂_same]
    intro cell hcell
    exact ⟨cell.value, Sql.Parameters.get?_record (hbound cell hcell),
      (Row.get?_toRecord_eq_some hcolumns cell).mpr hcell⟩

/-- The tuples of some rows hold the data of their documents, row by row. -/
theorem sameRows_of_bound {rows : List Row} {columns : List String}
    (hfields : ∀ row ∈ rows, ∀ cell ∈ row, Sql.isIdentifier cell.field = true)
    (huniform : ∀ row ∈ rows, row.columns = columns)
    (hbindings : parameters.bindings = (Sql.tuplesFrom 0 rows).flatten) :
    List.Forall₂ (SameRow parameters columns)
      ((Sql.tuplesFrom 0 rows).map fun tuple => tuple.map Sql.Binding.name)
      (rows.map Row.toRecord) := by
  have hnames : ∀ tuple ∈ Sql.tuplesFrom 0 rows, (tuple.map Sql.Binding.name).Nodup := by
    intro tuple ht
    have hn := parameters.names_nodup
    rw [hbindings, List.map_flatten] at hn
    exact (List.nodup_flatten.mp hn).1 _ (List.mem_map_of_mem ht)
  -- Tuples and documents are both made from the numbered rows.
  have hnumbered : rows.map Row.toRecord = rows.zipIdx.map fun numbered => numbered.1.toRecord := by
    conv_lhs => rw [← List.zipIdx_map_fst 0 rows, List.map_map]
    rfl
  rw [hnumbered, Sql.tuplesFrom, List.map_map, List.forall₂_map_left_iff,
    List.forall₂_map_right_iff, List.forall₂_same]
  rintro ⟨row, number⟩ hrow
  have hmem : row ∈ rows := List.fst_mem_of_mem_zipIdx hrow
  have htuple : row.map (Sql.cellBinding number) ∈ Sql.tuplesFrom 0 rows :=
    List.mem_map.mpr ⟨(row, number), hrow, rfl⟩
  rw [← huniform row hmem]
  refine sameRow_of_bound (hfields row hmem) (fun cell hcell => ?_) (hnames _ htuple)
  rw [hbindings]
  exact List.mem_flatten_of_mem htuple (List.mem_map_of_mem hcell)

/-- The columns of a row are set to what its record says. -/
theorem sameChanges_of_bound {row : Row}
    (hfields : ∀ cell ∈ row, Sql.isIdentifier cell.field = true)
    (hbound : ∀ cell ∈ row, (Sql.cellAssignment cell).operand ∈ parameters.bindings)
    (hnames : (row.map fun cell => (Sql.cellAssignment cell).operand.name).Nodup) :
    List.Forall₂ (SameChange parameters)
      (row.map fun cell => (cell.field, "update_" ++ parameterName cell.field))
      row.toRecord.toList := by
  have hcolumns : row.columns.Nodup := by
    have hname : (row.map fun cell => (Sql.cellAssignment cell).operand.name) =
        row.columns.map fun column => "update_" ++ parameterName column := by
      simp [Row.columns, Sql.cellAssignment, Function.comp_def]
    exact List.Nodup.of_map _ (hname ▸ hnames)
  rw [Row.toList_toRecord hcolumns hfields, List.forall₂_map_left_iff,
    List.forall₂_map_right_iff, List.forall₂_same]
  exact fun cell hcell => ⟨rfl, Sql.Parameters.get?_record (hbound cell hcell)⟩

end Agreement

/-- **Both backends store the same data.**  Let a query be accepted by both.  If it inserts, its
text is a list of columns and a list of tuples of placeholders, as many as its command has
documents, and each tuple holds the data of its document under these columns.  If it updates, the
columns that its text sets, each to its placeholder, are in order the members of what its command
sets. -/
theorem writes_agree {quoting : Sql.Quoting} {disjunction : Disjunction} {query : Query}
    {rendered : Sql.Rendered} {command : Command}
    (hs : (Sql.render quoting query).outcome = .ok rendered)
    (hd : (render disjunction query).outcome = .ok command) :
    let columns := query.insertColumns
    let tuples := Sql.tupleNames query
    let items := Sql.setItems query
    (query.operation = .insert →
      rendered.text =
        "INSERT INTO " ++ Sql.nameText quoting query.target ++
          " (" ++ ", ".intercalate (columns.map (Sql.nameText quoting)) ++
          ") VALUES " ++ ", ".intercalate (tuples.map Sql.tupleText) ++
          Sql.returningText quoting query.returning ∧
      command.arguments = storingArguments command.stored ∧
      List.Forall₂ (SameRow rendered.parameters columns) tuples command.stored) ∧
    (query.operation = .update →
      rendered.text =
        "UPDATE " ++ Sql.nameText quoting query.target ++ " SET " ++ Sql.setText quoting items ++
          Sql.chainText quoting " WHERE " (Sql.chainTokens query.conditions) ++
          Sql.returningText quoting query.returning ∧
      ∃ changes : Record Value, command.changes? = some changes ∧
        command.arguments.lookup "update" = some (.object [("$set", recordDocument changes)]) ∧
        List.Forall₂ (SameChange rendered.parameters) items changes.toList) := by
  obtain ⟨ha, ⟨statement, hstatement⟩, -, hbindings⟩ := Sql.render_eq hs
  constructor
  · intro hinsert
    have huniform : ∀ row ∈ query.insertRows, row.columns = query.insertColumns := by
      cases hstatement with
      | insert _ _ huniform => exact huniform
      | select ho | update ho | delete ho | count ho => rw [ho] at hinsert; cases hinsert
    obtain ⟨hstored, harguments⟩ := stored_of_render hinsert hd
    refine ⟨Sql.text_of_insert hinsert hs, harguments, ?_⟩
    rw [hstored, Sql.tupleNames_eq]
    simp only [Sql.queryBindings, hinsert] at hbindings
    exact sameRows_of_bound ha.words.rows huniform hbindings
  · intro hupdate
    obtain ⟨hchanges, harguments⟩ := changes_of_render hupdate hd
    refine ⟨Sql.text_of_update hupdate hs, _, hchanges, harguments, ?_⟩
    simp only [Sql.queryBindings, hupdate] at hbindings
    have hnames := rendered.parameters.names_nodup
    rw [hbindings, List.map_append, List.nodup_append, List.map_map] at hnames
    refine sameChanges_of_bound ha.words.updates (fun cell hcell => ?_) hnames.1
    rw [hbindings]
    exact List.mem_append_left _ (List.mem_map_of_mem hcell)

/-- A column whose name has a dot, in an insert of two rows and in an update. -/
theorem writes_agree_dotted :
    let insertion : Query := { Query.blank .insert "users" with
      rows? := some [[⟨"a_1", .text "Ann"⟩, ⟨"u.b", .null⟩],
        [⟨"a_1", .list [.bool true]⟩, ⟨"u.b", .text "Bob"⟩]] }
    let change : Query := { Query.blank .update "users" with
      conditions := [⟨"id", .equal, .text "7", .and, "id"⟩]
      updates? := some [⟨"u.name", .text "Ann"⟩, ⟨"id", .null⟩] }
    (∃ rendered command, (Sql.render .doubleQuoted insertion).outcome = .ok rendered ∧
      (render .flatten insertion).outcome = .ok command ∧
      rendered.text = "INSERT INTO \"users\" (\"a_1\", \"u\".\"b\") " ++
        "VALUES (:a_1_0, :u_b_0), (:a_1_1, :u_b_1)" ∧
      command.arguments = [("documents", .list
        [.object [("a_1", .text "Ann"), ("u.b", .null)],
          .object [("a_1", .list [.bool true]), ("u.b", .text "Bob")]])] ∧
      List.Forall₂ (SameRow rendered.parameters ["a_1", "u.b"])
        [["a_1_0", "u_b_0"], ["a_1_1", "u_b_1"]] command.stored) ∧
    ∃ rendered command changes, (Sql.render .plain change).outcome = .ok rendered ∧
      (render .precedence change).outcome = .ok command ∧
      rendered.text = "UPDATE users SET u.name = :update_u_name, id = :update_id WHERE id = :id" ∧
      command.changes? = some changes ∧
      command.arguments.lookup "update" =
        some (.object [("$set", .object [("u.name", .text "Ann"), ("id", .null)])]) ∧
      List.Forall₂ (SameChange rendered.parameters)
        [("u.name", "update_u_name"), ("id", "update_id")] changes.toList := by
  intro insertion change
  obtain ⟨inserted, hi⟩ := Except.exists_of_isOk
    (show (Sql.render .doubleQuoted insertion).outcome.isOk = true by decide +kernel)
  obtain ⟨storing, hstoring⟩ := Except.exists_of_isOk
    (show (render .flatten insertion).outcome.isOk = true by decide +kernel)
  obtain ⟨changed, hc⟩ := Except.exists_of_isOk
    (show (Sql.render .plain change).outcome.isOk = true by decide +kernel)
  obtain ⟨setting, hsetting⟩ := Except.exists_of_isOk
    (show (render .precedence change).outcome.isOk = true by decide +kernel)
  obtain ⟨htext, harguments, hrows⟩ := (writes_agree hi hstoring).1 rfl
  obtain ⟨hset, changes, hchanges, hupdate, hsame⟩ := (writes_agree hc hsetting).2 rfl
  rw [(stored_of_render rfl hstoring).1] at harguments
  obtain rfl := Option.some.inj (hchanges.symm.trans (changes_of_render rfl hsetting).1)
  have hnames : Sql.tupleNames insertion = [["a_1_0", "u_b_0"], ["a_1_1", "u_b_1"]] := by
    decide +kernel
  have hitems : Sql.setItems change = [("u.name", "update_u_name"), ("id", "update_id")] := by
    decide +kernel
  exact ⟨⟨inserted, storing, hi, hstoring, htext.trans (by decide +kernel), harguments.trans rfl,
    hnames ▸ hrows⟩, changed, setting, _, hc, hsetting, hset.trans (by decide +kernel), hchanges,
    hupdate.trans rfl, hitems ▸ hsame⟩

end DocumentStore

end CrudQuery
