import CrudQuery.Proofs.Number.PageText
import CrudQuery.Proofs.Sql.Predicate
import CrudQuery.Proofs.Sql.Word

/-! # What a query writes

The pieces of the text of a query and the bindings that go with it, both as functions of the query
alone: a statement is a way to compute them, and `render_eq` says that a rendered query consists of
exactly them.  Which characters they hold follows from what was checked before
(`Accepted.pieces_within`): names are identifiers, placeholders are words, and whatever is written
as it stands is a keyword, a sign, a number or the text of a join.
-/

namespace CrudQuery.Sql

/-- The characters of some pieces. -/
def write (quoting : Quoting) (pieces : List Piece) : List Char :=
  pieces.flatMap (Piece.write quoting)

section Write
variable (quoting : Quoting)

@[simp] theorem write_nil : write quoting [] = [] := rfl

@[simp] theorem write_cons (piece : Piece) (rest : List Piece) :
    write quoting (piece :: rest) = piece.write quoting ++ write quoting rest := rfl

@[simp] theorem write_append (pieces more : List Piece) :
    write quoting (pieces ++ more) = write quoting pieces ++ write quoting more :=
  List.flatMap_append

end Write

/-- The pieces of the text of a query. -/
def queryPieces (query : Query) : List Piece :=
  match query.operation with
  | .select =>
    .verbatim "SELECT " :: projectionPieces query.fields ++
      .verbatim " FROM " :: namePieces query.target ++
      query.joins.flatMap joinPieces ++
      conditionClause " WHERE " query.conditions ++
      listClause " GROUP BY " (query.grouping.map namePieces) ++
      conditionClause " HAVING " query.having ++
      listClause " ORDER BY " (query.ordering.map sortKeyPieces) ++
      pageClause .limit query.limit? ++
      pageClause .offset query.offset?
  | .insert =>
    .verbatim "INSERT INTO " :: namePieces query.target ++
      .verbatim " (" :: commaSeparated (query.insertColumns.map namePieces) ++
      .verbatim ") VALUES " :: commaSeparated ((tuplesFrom 0 query.insertRows).map tuplePieces) ++
      returningClause query.returning
  | .update =>
    .verbatim "UPDATE " :: namePieces query.target ++
      .verbatim " SET " ::
        commaSeparated (query.assignments.map fun cell => (cellAssignment cell).pieces) ++
      conditionClause " WHERE " query.conditions ++
      returningClause query.returning
  | .delete =>
    .verbatim "DELETE FROM " :: namePieces query.target ++
      conditionClause " WHERE " query.conditions ++
      returningClause query.returning
  | .count =>
    .verbatim "SELECT COUNT(*) FROM " :: namePieces query.target ++
      conditionClause " WHERE " query.conditions
  | .other _ => []

/-- The bindings of a query, in the order of its placeholders. -/
def queryBindings (query : Query) : List Binding :=
  match query.operation with
  | .select => (query.conditions ++ query.having).flatMap operands
  | .insert => (tuplesFrom 0 query.insertRows).flatten
  | .update =>
    (query.assignments.map fun cell => (cellAssignment cell).operand) ++
      query.conditions.flatMap operands
  | .delete | .count => query.conditions.flatMap operands
  | .other _ => []

theorem pieces_of_statementFor {query : Query} {statement : Statement}
    (h : StatementFor query statement) : statement.pieces = queryPieces query := by
  cases h with
  | select ho hf hh =>
    simp only [queryPieces, ho, Statement.pieces, whereClause, chainClause_of_chainFor hf,
      chainClause_of_chainFor hh]
  | insert ho => simp only [queryPieces, ho, Statement.pieces]
  | update ho hf =>
    simp only [queryPieces, ho, Statement.pieces, whereClause, chainClause_of_chainFor hf,
      List.map_map, Function.comp_def]
  | delete ho hf =>
    simp only [queryPieces, ho, Statement.pieces, whereClause, chainClause_of_chainFor hf]
  | count ho hf =>
    simp only [queryPieces, ho, Statement.pieces, whereClause, chainClause_of_chainFor hf]

theorem bindings_of_statementFor {query : Query} {statement : Statement}
    (h : StatementFor query statement) : statement.bindings = queryBindings query := by
  cases h with
  | select ho hf hh =>
    simp only [queryBindings, ho, Statement.bindings, bindings_of_chainFor hf,
      bindings_of_chainFor hh, List.flatMap_append]
  | insert ho => simp only [queryBindings, ho, Statement.bindings]
  | update ho hf =>
    simp only [queryBindings, ho, Statement.bindings, bindings_of_chainFor hf, List.map_map,
      Function.comp_def]
  | delete ho hf => simp only [queryBindings, ho, Statement.bindings, bindings_of_chainFor hf]
  | count ho hf => simp only [queryBindings, ho, Statement.bindings, bindings_of_chainFor hf]

/-- **A rendered query** has passed the checks, has a statement, and consists of the pieces and the
bindings of the query. -/
theorem render_eq {quoting : Quoting} {query : Query} {rendered : Rendered}
    (h : (render quoting query).outcome = .ok rendered) :
    Accepted query ∧ (∃ statement, StatementFor query statement) ∧
      rendered.text.toList = write quoting (queryPieces query) ∧
      rendered.parameters.bindings = queryBindings query := by
  obtain ⟨ha, statement, hs, ht, hp⟩ := render_eq_ok.mp h
  refine ⟨ha, ⟨statement, hs⟩, ?_, ?_⟩
  · rw [ht, Statement.text, String.toList_ofList, pieces_of_statementFor hs]
    rfl
  · rw [hp, bindings_of_statementFor hs]

/-! ## The characters of the pieces -/

theorem isWord_lowName {parameter : String} (h : isWord parameter.toList = true) :
    isWord (lowName parameter).toList = true :=
  isWord_toList_append h (t := "_lo") (List.all_eq_true.mp (by decide))

theorem isWord_highName {parameter : String} (h : isWord parameter.toList = true) :
    isWord (highName parameter).toList = true :=
  isWord_toList_append h (t := "_hi") (List.all_eq_true.mp (by decide))

/-- The name an assignment is bound under. -/
theorem isWord_updateName {field : String} (h : isIdentifier field = true) :
    isWord ("update_" ++ parameterName field).toList = true :=
  isWord_prepend (by decide) (isWord_parameterName (isDottedWord_of_isIdentifier h))

/-- The characters that keywords, signs and page bounds are written with. -/
def isPlain (c : Char) : Bool :=
  c.isAlphanum || [' ', '_', '.', ',', '(', ')', '*', '=', '!', '<', '>', '~', '+'].contains c

theorem isPlain_of_isUnsigned {c : Char} (h : Number.IsUnsigned c) : isPlain c = true := by
  rcases h with h | rfl | rfl | rfl
  · simp [isPlain, Char.isAlphanum, h]
  all_goals decide

/-- A piece is what its kind says, and what is written as it stands holds accepted characters
only. -/
def Piece.Within (accepted : Char → Prop) : Piece → Prop
  | verbatim text => ∀ c ∈ text.toList, accepted c
  | identifier name => isDottedWord name.toList = true
  | placeholder name => isWord name.toList = true

/-- Every piece of a list is within. -/
def AllWithin (accepted : Char → Prop) (pieces : List Piece) : Prop :=
  ∀ piece ∈ pieces, piece.Within accepted

theorem commaSeparated_cons_cons (item next : List Piece) (rest : List (List Piece)) :
    commaSeparated (item :: next :: rest) =
      item ++ .verbatim ", " :: commaSeparated (next :: rest) := by
  simp [commaSeparated, List.intercalate, List.intersperse]

theorem commaSeparated_singleton (item : List Piece) : commaSeparated [item] = item := by
  simp [commaSeparated, List.intercalate]

theorem commaSeparated_cons (item : List Piece) (rest : List (List Piece)) :
    commaSeparated (item :: rest) = item ++ rest.flatMap fun next => .verbatim ", " :: next := by
  induction rest generalizing item with
  | nil => simp [commaSeparated_singleton]
  | cons next rest ih => rw [commaSeparated_cons_cons, ih, List.flatMap_cons, List.cons_append]

section Within
variable {accepted : Char → Prop}

@[simp] theorem allWithin_nil : AllWithin accepted [] := by simp [AllWithin]

@[simp] theorem allWithin_cons {piece : Piece} {rest : List Piece} :
    AllWithin accepted (piece :: rest) ↔ piece.Within accepted ∧ AllWithin accepted rest :=
  List.forall_mem_cons

@[simp] theorem allWithin_append {pieces more : List Piece} :
    AllWithin accepted (pieces ++ more) ↔ AllWithin accepted pieces ∧ AllWithin accepted more :=
  List.forall_mem_append

variable (plain : ∀ c, isPlain c = true → accepted c)
include plain

theorem within_verbatim {text : String} (h : text.toList.all isPlain = true) :
    Piece.Within accepted (.verbatim text) :=
  fun c hc => plain c (List.all_eq_true.mp h c hc)

theorem allWithin_namePieces {name : String} (h : IsName name) :
    AllWithin accepted (namePieces name) := by
  unfold namePieces
  split
  · exact allWithin_cons.mpr ⟨within_verbatim plain rfl, allWithin_nil⟩
  · next hne =>
    have := isDottedWord_of_isIdentifier (h.resolve_left hne)
    exact allWithin_cons.mpr ⟨this, allWithin_nil⟩

theorem allWithin_commaSeparated {items : List (List Piece)}
    (h : ∀ item ∈ items, AllWithin accepted item) : AllWithin accepted (commaSeparated items) := by
  induction items with
  | nil => exact allWithin_nil
  | cons item rest ih =>
    obtain ⟨hitem, hrest⟩ := List.forall_mem_cons.mp h
    cases rest with
    | nil => rwa [commaSeparated_singleton]
    | cons next rest =>
      rw [commaSeparated_cons_cons]
      exact allWithin_append.mpr
        ⟨hitem, allWithin_cons.mpr ⟨within_verbatim plain (by decide), ih hrest⟩⟩

theorem allWithin_listClause (keyword : String) (hk : keyword.toList.all isPlain = true)
    {items : List (List Piece)} (h : ∀ item ∈ items, AllWithin accepted item) :
    AllWithin accepted (listClause keyword items) := by
  unfold listClause
  split
  · exact allWithin_nil
  · exact allWithin_cons.mpr ⟨within_verbatim plain hk, allWithin_commaSeparated plain h⟩

theorem allWithin_nameClause (keyword : String) (hk : keyword.toList.all isPlain = true)
    {names : List String} (h : ∀ name ∈ names, IsName name) :
    AllWithin accepted (listClause keyword (names.map namePieces)) :=
  allWithin_listClause plain keyword hk
    (List.forall_mem_map.mpr fun name hname => allWithin_namePieces plain (h name hname))

theorem allWithin_columnPieces {column : Projection} (h : AcceptedColumn column) :
    AllWithin accepted (columnPieces column) := by
  refine allWithin_append.mpr ⟨allWithin_namePieces plain h.name, ?_⟩
  split
  · next label hlabel =>
    split
    · exact allWithin_nil
    · next hne =>
      have hw := isDottedWord_of_isWord (h.label label hlabel (by simpa using hne))
      exact allWithin_cons.mpr ⟨within_verbatim plain (by decide),
        allWithin_cons.mpr ⟨hw, allWithin_nil⟩⟩
  · exact allWithin_nil

theorem allWithin_projectionPieces {columns : List Projection}
    (h : ∀ column ∈ columns, AcceptedColumn column) :
    AllWithin accepted (projectionPieces columns) := by
  unfold projectionPieces
  split
  · exact allWithin_cons.mpr ⟨within_verbatim plain rfl, allWithin_nil⟩
  · exact allWithin_commaSeparated plain
      (List.forall_mem_map.mpr fun column hc => allWithin_columnPieces plain (h column hc))

/-- The text of a join is the one thing that is written and not checked. -/
theorem allWithin_joinPieces {join : Join} (h : AcceptedJoin join)
    (hraw : ∀ c ∈ join.predicate.toList, accepted c) : AllWithin accepted (joinPieces join) := by
  have hkind : ∀ kind ∈ JoinKind.known,
      (" " ++ kind.name ++ " JOIN ").toList.all isPlain = true := by decide
  refine allWithin_cons.mpr ⟨within_verbatim plain (hkind _ h.kind), ?_⟩
  refine allWithin_append.mpr ⟨allWithin_namePieces plain (.inr h.target), ?_⟩
  split
  · exact allWithin_nil
  · refine allWithin_cons.mpr ⟨?_, allWithin_nil⟩
    intro c hc
    rw [String.toList_append] at hc
    rcases List.mem_append.mp hc with hc | hc
    · exact within_verbatim plain (by decide) c hc
    · exact hraw c hc

theorem allWithin_conditionPieces {condition : Condition} (h : AcceptedCondition condition) :
    AllWithin accepted (conditionPieces condition) := by
  have hsign : (condition.operator.sign?.getD "").toList.all isPlain = true := by
    cases condition.operator <;> rfl
  refine allWithin_append.mpr ⟨allWithin_namePieces plain (.inr h.field), ?_⟩
  refine allWithin_cons.mpr ⟨within_verbatim plain hsign, ?_⟩
  unfold operandPieces
  split
  · exact allWithin_cons.mpr ⟨h.parameter, allWithin_nil⟩
  · exact allWithin_cons.mpr ⟨h.parameter, allWithin_nil⟩
  · exact allWithin_cons.mpr ⟨h.parameter, allWithin_cons.mpr
      ⟨within_verbatim plain (by decide), allWithin_nil⟩⟩
  · exact allWithin_cons.mpr ⟨isWord_lowName h.parameter,
      allWithin_cons.mpr ⟨within_verbatim plain (by decide),
        allWithin_cons.mpr ⟨isWord_highName h.parameter, allWithin_nil⟩⟩⟩
  · exact allWithin_nil
  · exact allWithin_nil

theorem allWithin_chainPieces {conditions : List Condition}
    (h : ∀ condition ∈ conditions, AcceptedCondition condition) :
    AllWithin accepted (chainPieces conditions) := by
  induction conditions with
  | nil => exact allWithin_nil
  | cons condition rest ih =>
    obtain ⟨hcondition, hrest⟩ := List.forall_mem_cons.mp h
    cases rest with
    | nil => exact allWithin_conditionPieces plain hcondition
    | cons next rest =>
      -- A connector is written as one of two words, whatever the condition calls it.
      have hconnector : ∀ b : Bool, (if b then " OR " else " AND ").toList.all isPlain = true := by
        decide
      exact allWithin_append.mpr ⟨allWithin_conditionPieces plain hcondition,
        allWithin_cons.mpr ⟨within_verbatim plain (hconnector _), ih hrest⟩⟩

theorem allWithin_conditionClause (keyword : String) (hk : keyword.toList.all isPlain = true)
    {conditions : List Condition} (h : ∀ condition ∈ conditions, AcceptedCondition condition) :
    AllWithin accepted (conditionClause keyword conditions) := by
  unfold conditionClause
  split
  · exact allWithin_nil
  · exact allWithin_cons.mpr ⟨within_verbatim plain hk, allWithin_chainPieces plain h⟩

theorem allWithin_sortKeyPieces {key : SortKey} (h : AcceptedSortKey key) :
    AllWithin accepted (sortKeyPieces key) := by
  have hdirection : (" " ++ key.direction.name).toList.all isPlain = true := by
    rcases h.direction with hd | hd <;> rw [hd] <;> decide
  exact allWithin_append.mpr ⟨allWithin_namePieces plain (.inr h.field),
    allWithin_cons.mpr ⟨within_verbatim plain hdirection, allWithin_nil⟩⟩

theorem allWithin_pageClause (bound : PageBound) {value? : Option Float}
    (h : ∀ value, value? = some value → Query.isPageBound value = true) :
    AllWithin accepted (pageClause bound value?) := by
  cases value? with
  | none => exact allWithin_nil
  | some value =>
    have hkeyword : ((" " ++ bound.keyword) ++ " ").toList.all isPlain = true := by
      cases bound <;> decide
    refine allWithin_cons.mpr ⟨within_verbatim plain ?_, allWithin_nil⟩
    -- The number is not quoted, so it matters that its text has no sign in front.
    rw [String.toList_append, List.all_append, Bool.and_eq_true]
    exact ⟨hkeyword, List.all_eq_true.mpr fun c hc =>
      isPlain_of_isUnsigned (Number.isUnsigned_of_mem_text (h value rfl) c hc)⟩

theorem allWithin_tuplePieces {tuple : List Binding}
    (h : ∀ binding ∈ tuple, isWord binding.name.toList = true) :
    AllWithin accepted (tuplePieces tuple) := by
  refine allWithin_append.mpr ⟨allWithin_cons.mpr ⟨within_verbatim plain (by decide), ?_⟩,
    allWithin_cons.mpr ⟨within_verbatim plain (by decide), allWithin_nil⟩⟩
  refine allWithin_commaSeparated plain (List.forall_mem_map.mpr fun binding hb => ?_)
  exact allWithin_cons.mpr ⟨h binding hb, allWithin_nil⟩

theorem allWithin_assignment {cell : Cell} (h : isIdentifier cell.field = true) :
    AllWithin accepted (cellAssignment cell).pieces := by
  exact allWithin_append.mpr ⟨allWithin_namePieces plain (.inr h),
    allWithin_cons.mpr ⟨within_verbatim plain (by decide),
      allWithin_cons.mpr ⟨isWord_updateName h, allWithin_nil⟩⟩⟩

end Within

/-- The names a tuple binds are words. -/
theorem isWord_of_mem_tuplesFrom (number : Nat) {rows : List Row}
    (h : ∀ row ∈ rows, ∀ cell ∈ row, isIdentifier cell.field = true) :
    ∀ tuple ∈ tuplesFrom number rows, ∀ binding ∈ tuple, isWord binding.name.toList = true := by
  intro tuple ht binding hb
  obtain ⟨⟨row, i⟩, hrow, rfl⟩ := List.mem_map.mp ht
  obtain ⟨cell, hcell, rfl⟩ := List.mem_map.mp hb
  have hfield := h row (List.fst_mem_of_mem_zipIdx hrow) cell hcell
  exact isWord_numbered (isWord_parameterName (isDottedWord_of_isIdentifier hfield)) i

theorem isName_of_mem_insertColumns {query : Query} (h : WordsAccepted query) :
    ∀ column ∈ query.insertColumns, IsName column := by
  intro column hc
  unfold Query.insertColumns at hc
  cases hrows : query.insertRows with
  | nil => simp [hrows, Row.columns] at hc
  | cons row rest =>
    rw [hrows] at hc
    obtain ⟨cell, hcell, rfl⟩ := List.mem_map.mp hc
    exact .inr (h.rows row (by rw [hrows]; exact List.mem_cons_self) cell hcell)

/-- **Checked words make checked pieces.**  All that is asked beyond the checks is that the raw text
of the joins a select writes holds accepted characters only. -/
theorem Accepted.pieces_within {accepted : Char → Prop} {query : Query} (ha : Accepted query)
    (plain : ∀ c, isPlain c = true → accepted c)
    (raw : query.operation = .select →
      ∀ join ∈ query.joins, ∀ c ∈ join.predicate.toList, accepted c) :
    AllWithin accepted (queryPieces query) := by
  have hw := ha.words
  have hboth := List.forall_mem_append.mp hw.conditions
  have htarget := allWithin_namePieces plain (.inr hw.target)
  have hreturning := allWithin_nameClause plain " RETURNING " (by decide) hw.returning
  have hwhere := allWithin_conditionClause plain " WHERE " (by decide) hboth.1
  have hkeyword : ∀ text : String, text.toList.all isPlain = true →
      Piece.Within accepted (.verbatim text) := fun _ => within_verbatim plain
  unfold queryPieces
  split
  · next ho =>
    have hprojection := allWithin_projectionPieces plain hw.fields
    have hjoins : AllWithin accepted (query.joins.flatMap joinPieces) := by
      intro piece hp
      obtain ⟨join, hj, hp⟩ := List.mem_flatMap.mp hp
      exact allWithin_joinPieces plain (hw.joins join hj) (raw ho join hj) piece hp
    have hgrouping := allWithin_nameClause plain " GROUP BY " (by decide)
      fun field hf => .inr (hw.grouping field hf)
    have hhaving := allWithin_conditionClause plain " HAVING " (by decide) hboth.2
    have hordering := allWithin_listClause plain " ORDER BY " (by decide)
      (List.forall_mem_map.mpr fun key hk => allWithin_sortKeyPieces plain (hw.ordering key hk))
    have hlimit := allWithin_pageClause plain .limit ha.limit
    have hoffset := allWithin_pageClause plain .offset ha.offset
    simp only [allWithin_append, allWithin_cons, hprojection, htarget, hjoins, hwhere, hgrouping,
      hhaving, hordering, hlimit, hoffset, and_true]
    exact ⟨hkeyword _ (by decide), hkeyword _ (by decide)⟩
  · have hcolumns := allWithin_commaSeparated plain (List.forall_mem_map.mpr fun column hc =>
      allWithin_namePieces plain (isName_of_mem_insertColumns hw column hc))
    have htuples := allWithin_commaSeparated plain (List.forall_mem_map.mpr fun tuple ht =>
      allWithin_tuplePieces plain (isWord_of_mem_tuplesFrom 0 hw.rows tuple ht))
    simp only [allWithin_append, allWithin_cons, returningClause, htarget, hcolumns, htuples,
      hreturning, and_true]
    exact ⟨⟨hkeyword _ (by decide), hkeyword _ (by decide)⟩, hkeyword _ (by decide)⟩
  · have hassignments := allWithin_commaSeparated plain (List.forall_mem_map.mpr fun cell hc =>
      allWithin_assignment plain (hw.updates cell hc))
    simp only [allWithin_append, allWithin_cons, returningClause, htarget, hassignments, hwhere,
      hreturning, and_true]
    exact ⟨hkeyword _ (by decide), hkeyword _ (by decide)⟩
  · simp only [allWithin_append, allWithin_cons, returningClause, htarget, hwhere, hreturning,
      and_true]
    exact hkeyword _ (by decide)
  · simp only [allWithin_append, allWithin_cons, htarget, hwhere, and_true]
    exact hkeyword _ (by decide)
  · exact allWithin_nil

end CrudQuery.Sql
