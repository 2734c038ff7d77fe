import CrudQuery.Proofs.Sql.Layout

/-! # Quoting is only quoting

How a dialect writes identifiers is asked last, when the pieces of a statement are put together.
Whether a query is refused, for what, and which values are bound under which names is settled by
then, so two dialects can differ in the text of a statement only.  They do so by quotes and by
nothing else: the pieces that are no identifiers hold none, and of an identifier a dialect that
quotes puts each part between two.

How many quotes there are is therefore known from the names that a query writes (`writtenNames`),
which are read off its clauses and not off the pieces.
-/

namespace CrudQuery.Sql

/-! ## The names that a query writes -/

/-- The names of a column: its own and, if it has one that is not empty, its label. -/
def columnNames (column : Projection) : List String :=
  [column.name] ++ column.label?.toList.filter (· != "")

/-- The names that the statement of a query writes, in order. -/
def writtenNames (query : Query) : List String :=
  match query.operation with
  | .select =>
    query.fields.flatMap columnNames ++ [query.target] ++ query.joins.map Join.target ++
      query.conditions.map Condition.field ++ query.grouping ++
      query.having.map Condition.field ++ query.ordering.map SortKey.field
  | .insert => [query.target] ++ query.insertColumns ++ query.returning
  | .update =>
    [query.target] ++ query.assignments.columns ++ query.conditions.map Condition.field ++
      query.returning
  | .delete => [query.target] ++ query.conditions.map Condition.field ++ query.returning
  | .count => [query.target] ++ query.conditions.map Condition.field
  | .other _ => []

/-- The parts of some names, which dots divide. -/
def partsOf (names : List String) : List (List Char) :=
  names.flatMap fun name => Text.parts '.' name.toList

theorem partsOf_cons (name : String) (rest : List String) :
    partsOf (name :: rest) = Text.parts '.' name.toList ++ partsOf rest :=
  List.flatMap_cons

/-- The parts of the names that the statement of a query writes.  The name that stands for every
field is none of them. -/
def writtenParts (query : Query) : List (List Char) :=
  partsOf ((writtenNames query).filter (· != "*"))

/-! ## The identifiers among the pieces -/

/-- The name that a piece writes as the dialect writes identifiers. -/
def Piece.identifier? : Piece → Option String
  | identifier name => some name
  | _ => none

/-- The identifiers among some pieces, in order. -/
def identifiers (pieces : List Piece) : List String := pieces.filterMap Piece.identifier?

@[simp] theorem identifiers_nil : identifiers [] = [] := rfl

@[simp] theorem identifiers_verbatim (text : String) (rest : List Piece) :
    identifiers (.verbatim text :: rest) = identifiers rest := rfl

@[simp] theorem identifiers_placeholder (name : String) (rest : List Piece) :
    identifiers (.placeholder name :: rest) = identifiers rest := rfl

@[simp] theorem identifiers_identifier (name : String) (rest : List Piece) :
    identifiers (.identifier name :: rest) = name :: identifiers rest := rfl

@[simp] theorem identifiers_append (pieces more : List Piece) :
    identifiers (pieces ++ more) = identifiers pieces ++ identifiers more :=
  List.filterMap_append

theorem identifiers_namePieces (name : String) :
    identifiers (namePieces name) = [name].filter (· != "*") := by
  unfold namePieces
  by_cases h : name = "*" <;> simp [h]

theorem identifiers_commaSeparated (items : List (List Piece)) :
    identifiers (commaSeparated items) = items.flatMap identifiers := by
  cases items with
  | nil => rfl
  | cons item rest =>
    rw [commaSeparated_cons, identifiers_append, List.flatMap_cons]
    congr 1
    induction rest with
    | nil => rfl
    | cons next rest ih => simp [ih]

theorem identifiers_listClause (keyword : String) (items : List (List Piece)) :
    identifiers (listClause keyword items) = items.flatMap identifiers := by
  unfold listClause
  split
  · next h => rw [List.isEmpty_iff.mp h]; rfl
  · exact identifiers_commaSeparated items

/-- Items that each write one name, and perhaps no name at all for the one that is not quoted. -/
theorem flatMap_identifiers {α : Type} {form : α → List Piece} {name : α → String}
    (h : ∀ item, identifiers (form item) = [name item].filter (· != "*")) (items : List α) :
    (items.map form).flatMap identifiers = (items.map name).filter (· != "*") := by
  induction items with
  | nil => rfl
  | cons item rest ih =>
    rw [List.map_cons, List.flatMap_cons, ih, h, List.map_cons, ← List.filter_append]
    rfl

theorem identifiers_columns (names : List String) :
    identifiers (commaSeparated (names.map namePieces)) = names.filter (· != "*") := by
  rw [identifiers_commaSeparated, flatMap_identifiers identifiers_namePieces, List.map_id']

theorem identifiers_nameClause (keyword : String) (names : List String) :
    identifiers (listClause keyword (names.map namePieces)) = names.filter (· != "*") := by
  rw [identifiers_listClause, flatMap_identifiers identifiers_namePieces, List.map_id']

theorem identifiers_conditionPieces (condition : Condition) :
    identifiers (conditionPieces condition) = [condition.field].filter (· != "*") := by
  have hoperands : identifiers (operandPieces condition) = [] := by
    unfold operandPieces
    split <;> rfl
  rw [conditionPieces, identifiers_append, identifiers_namePieces, identifiers_verbatim, hoperands,
    List.append_nil]

theorem identifiers_chainPieces (conditions : List Condition) :
    identifiers (chainPieces conditions) =
      (conditions.map Condition.field).filter (· != "*") := by
  induction conditions with
  | nil => rfl
  | cons condition rest ih =>
    cases rest with
    | nil => exact identifiers_conditionPieces condition
    | cons next rest =>
      rw [chainPieces, identifiers_append, identifiers_conditionPieces, Chain.connectorPiece,
        identifiers_verbatim, ih, ← List.filter_append]
      rfl

theorem identifiers_conditionClause (keyword : String) (conditions : List Condition) :
    identifiers (conditionClause keyword conditions) =
      (conditions.map Condition.field).filter (· != "*") := by
  unfold conditionClause
  split
  · next h => rw [List.isEmpty_iff.mp h]; rfl
  · exact identifiers_chainPieces conditions

/-- A label is written as it is given, so here it matters that it was checked. -/
theorem identifiers_columnPieces {column : Projection} (h : AcceptedColumn column) :
    identifiers (columnPieces column) = (columnNames column).filter (· != "*") := by
  rw [columnPieces, columnNames, identifiers_append, identifiers_namePieces, List.filter_append]
  congr 1
  cases hlabel : column.label? with
  | none => rfl
  | some label =>
    by_cases hempty : label = ""
    · simp [hempty]
    · have hne : label ≠ "*" := by
        rintro rfl
        exact absurd (h.label "*" hlabel hempty) (by decide)
      simp [hempty, hne]

theorem identifiers_projectionPieces {columns : List Projection}
    (h : ∀ column ∈ columns, AcceptedColumn column) :
    identifiers (projectionPieces columns) = (columns.flatMap columnNames).filter (· != "*") := by
  unfold projectionPieces
  split
  · next hnone => rw [List.isEmpty_iff.mp hnone]; rfl
  · rw [identifiers_commaSeparated, List.flatMap_map, List.filter_flatMap]
    exact List.flatMap_congr fun column hc => identifiers_columnPieces (h column hc)

theorem identifiers_joins (joins : List Join) :
    identifiers (joins.flatMap joinPieces) = (joins.map Join.target).filter (· != "*") := by
  have hjoin : ∀ join, identifiers (joinPieces join) = [join.target].filter (· != "*") := by
    intro join
    rw [joinPieces, List.cons_append, identifiers_verbatim, identifiers_append,
      identifiers_namePieces]
    split <;> simp
  induction joins with
  | nil => rfl
  | cons join rest ih =>
    rw [List.flatMap_cons, identifiers_append, hjoin, ih, ← List.filter_append]
    rfl

theorem identifiers_ordering (ordering : List SortKey) :
    identifiers (listClause " ORDER BY " (ordering.map sortKeyPieces)) =
      (ordering.map SortKey.field).filter (· != "*") := by
  rw [identifiers_listClause]
  refine flatMap_identifiers (fun key => ?_) ordering
  rw [sortKeyPieces, identifiers_append, identifiers_namePieces, identifiers_verbatim,
    identifiers_nil, List.append_nil]

@[simp] theorem identifiers_pageClause (bound : PageBound) (value? : Option Float) :
    identifiers (pageClause bound value?) = [] := by
  cases value? <;> rfl

theorem identifiers_tuples (tuples : List (List Binding)) :
    identifiers (commaSeparated (tuples.map tuplePieces)) = [] := by
  have htuple : ∀ tuple, identifiers (tuplePieces tuple) = [] := by
    intro tuple
    rw [tuplePieces, List.cons_append, identifiers_verbatim, identifiers_append,
      identifiers_commaSeparated, List.flatMap_map]
    simp [Binding.pieces]
  rw [identifiers_commaSeparated, List.flatMap_map]
  simp [htuple]

theorem identifiers_assignments (row : Row) :
    identifiers (commaSeparated (row.map fun cell => (cellAssignment cell).pieces)) =
      row.columns.filter (· != "*") := by
  rw [identifiers_commaSeparated]
  refine flatMap_identifiers (fun cell => ?_) row
  rw [Assignment.pieces, identifiers_append, identifiers_namePieces]
  simp [cellAssignment, Binding.pieces]

/-- **The identifiers of a statement** are the names that its query writes, in order and each once,
save the name that stands for every field. -/
theorem identifiers_queryPieces {query : Query} (h : WordsAccepted query) :
    identifiers (queryPieces query) = (writtenNames query).filter (· != "*") := by
  unfold queryPieces writtenNames
  cases query.operation with
  | select =>
    simp only [List.filter_append]
    simp only [identifiers_append, identifiers_verbatim, identifiers_projectionPieces h.fields,
      identifiers_namePieces, identifiers_joins, identifiers_conditionClause,
      identifiers_nameClause, identifiers_ordering, identifiers_pageClause, List.append_nil,
      List.cons_append, List.append_assoc]
  | insert =>
    simp only [List.filter_append]
    simp only [identifiers_append, identifiers_verbatim, identifiers_namePieces,
      identifiers_columns, identifiers_tuples, returningClause, identifiers_nameClause,
      List.nil_append, List.cons_append, List.append_assoc]
  | update =>
    simp only [List.filter_append]
    simp only [identifiers_append, identifiers_verbatim, identifiers_namePieces,
      identifiers_assignments, identifiers_conditionClause, returningClause,
      identifiers_nameClause, List.cons_append, List.append_assoc]
  | delete =>
    simp only [List.filter_append]
    simp only [identifiers_append, identifiers_verbatim, identifiers_namePieces,
      identifiers_conditionClause, returningClause, identifiers_nameClause, List.cons_append]
  | count =>
    simp only [List.filter_append]
    simp only [identifiers_append, identifiers_verbatim, identifiers_namePieces,
      identifiers_conditionClause, List.cons_append]
  | other name => rfl

/-! ## The quotes among the characters -/

theorem quote_not_mem_word {cs : List Char} (h : isWord cs = true) : '"' ∉ cs :=
  not_mem_word h (by decide)

section Quotes
variable {pieces : List Piece} (h : AllWithin (· ≠ '"') pieces)
include h

/-- Without its quotes a text is the one of the dialect that quotes nothing. -/
theorem filter_write : (write .doubleQuoted pieces).filter (· != '"') = write .plain pieces := by
  induction pieces with
  | nil => rfl
  | cons piece rest ih =>
    obtain ⟨hpiece, hrest⟩ := allWithin_cons.mp h
    rw [write_cons, List.filter_append, ih hrest, write_cons]
    congr 1
    cases piece with
    | verbatim text => exact List.filter_eq_self.mpr fun c hc => bne_iff_ne.mpr (hpiece c hc)
    | identifier name =>
      change (Quoting.doubleQuoted.write name).filter (· != '"') = name.toList
      exact filter_write_identifier hpiece
    | placeholder name =>
      refine List.filter_eq_self.mpr fun c hc => bne_iff_ne.mpr ?_
      rintro rfl
      exact List.not_mem_cons_of_ne_of_not_mem (by decide) (quote_not_mem_word hpiece) hc

/-- The quotes of a text are those around the parts of its identifiers. -/
theorem count_write :
    (write .doubleQuoted pieces).count '"' = 2 * (partsOf (identifiers pieces)).length := by
  induction pieces with
  | nil => rfl
  | cons piece rest ih =>
    obtain ⟨hpiece, hrest⟩ := allWithin_cons.mp h
    rw [write_cons, List.count_append, ih hrest]
    cases piece with
    | verbatim text =>
      have hnone : text.toList.count '"' = 0 :=
        List.count_eq_zero_of_not_mem fun hc => hpiece _ hc rfl
      rw [Piece.write, hnone, identifiers_verbatim, Nat.zero_add]
    | identifier name =>
      rw [Piece.write, count_write_identifier hpiece, identifiers_identifier, partsOf_cons,
        List.length_append, Nat.mul_add]
    | placeholder name =>
      have hnone : (':' :: name.toList).count '"' = 0 := List.count_eq_zero_of_not_mem
        (List.not_mem_cons_of_ne_of_not_mem (by decide) (quote_not_mem_word hpiece))
      rw [Piece.write, hnone, identifiers_placeholder, Nat.zero_add]

end Quotes

/-! ## The same query in two dialects -/

/-- Two outcomes agree when both are the same fault, or both are results and these are related. -/
def Agree {α β : Type} (related : α → β → Prop) : Except Fault α → Except Fault β → Prop
  | .ok a, .ok b => related a b
  | .error fault, .error other => fault = other
  | _, _ => False

/-- What a query is written as in a dialect that quotes, beside what it is written as in one that
does not. -/
structure OnlyQuoted (query : Query) (quoted plain : Rendered) : Prop where
  parameters : quoted.parameters = plain.parameters
  text : plain.text.toList = quoted.text.toList.filter (· != '"')
  quotes : quoted.text.toList.count '"' = 2 * (writtenParts query).length

/-- **Quoting is only quoting.** Unless the text of a join holds quotes of its own, a dialect that
quotes and one that does not refuse the same queries with the same faults; any other query they
render with the same parameters and, but for the quotes, with the same text.  The quotes are two
for each part of each name and label that the query writes. -/
theorem render_onlyQuoted {query : Query}
    (hraw : ∀ join ∈ query.joins, '"' ∉ join.predicate.toList) :
    Agree (OnlyQuoted query) (render .doubleQuoted query).outcome
      (render .plain query).outcome := by
  unfold render
  rw [Traced.outcome_bind, Traced.outcome_bind]
  cases hc : (compile query).outcome with
  | error fault => exact rfl
  | ok made =>
    obtain ⟨statement, parameters⟩ := made
    obtain ⟨ha, hs, -⟩ := compile_eq_ok.mp hc
    have hwithin : AllWithin (· ≠ '"') (queryPieces query) :=
      ha.pieces_within (fun c hplain => by rintro rfl; exact absurd hplain (by decide))
        fun _ join hj c hm => ne_of_mem_of_not_mem hm (hraw join hj)
    have htext : ∀ quoting, (statement.text quoting).toList = write quoting (queryPieces query) := by
      intro quoting
      rw [Statement.text, String.toList_ofList, pieces_of_statementFor hs]
      rfl
    refine ⟨rfl, ?_, ?_⟩
    · rw [htext, htext, filter_write hwithin]
    · rw [htext, count_write hwithin, identifiers_queryPieces ha.words]
      rfl

/-- Names with and without a dot, a label, and the name that stands for every field. -/
theorem render_onlyQuoted_labelled :
    let query : Query := { Query.blank .select "users" with
      fields := [⟨"u.name", some "n"⟩, ⟨"*", none⟩]
      joins := [⟨.left, "orders", "u.id = orders.user_id"⟩]
      conditions := [⟨"u.age", .greaterOrEqual, .bool true, .and, "u_age"⟩]
      ordering := [⟨"u.name", .descending⟩] }
    (∀ join ∈ query.joins, '"' ∉ join.predicate.toList) ∧ (writtenParts query).length = 9 ∧
      ∃ quoted plain, (render .doubleQuoted query).outcome = .ok quoted ∧
        (render .plain query).outcome = .ok plain ∧ OnlyQuoted query quoted plain := by
  intro query
  have hraw : ∀ join ∈ query.joins, '"' ∉ join.predicate.toList := by decide +kernel
  obtain ⟨quoted, hquoted⟩ := Except.exists_of_isOk
    (show (render .doubleQuoted query).outcome.isOk = true by decide +kernel)
  obtain ⟨plain, hplain⟩ := Except.exists_of_isOk
    (show (render .plain query).outcome.isOk = true by decide +kernel)
  have hagree := render_onlyQuoted hraw
  rw [hquoted, hplain] at hagree
  exact ⟨hraw, by decide +kernel, quoted, plain, hquoted, hplain, hagree⟩

end CrudQuery.Sql
