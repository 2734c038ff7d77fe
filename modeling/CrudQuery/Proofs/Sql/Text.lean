import CrudQuery.Proofs.Sql.Decoding

/-! # The text of a query, word for word

The text of a rendered query is said here as it is read: every keyword, blank, comma and bracket
stands where it will be found, and no pieces and no statement are between the query and its text.
A chain of conditions is a list of tokens.  Its clause is those tokens one behind the other, or
nothing at all if there are none, and whoever asks what the chain means reads the same tokens.

Rendering comes to this text (`text_of_filtering`, `text_of_insert`).  For each part of it a lemma
compares its characters with those of the pieces that are written.
-/

namespace CrudQuery.Sql

/-! ## Chains as tokens -/

/-- What a chain consists of when it is read from left to right. -/
inductive Token (α : Type) where
  | atom (a : α)
  | and
  | or

/-- The tokens of some links, each with whether a disjunction stands behind it.  What the last one
says about that is not looked at, since nothing stands behind it. -/
def tokens {α : Type} : List (α × Bool) → List (Token α)
  | [] => []
  | [link] => [.atom link.1]
  | link :: next :: rest =>
    .atom link.1 :: (if link.2 then .or else .and) :: tokens (next :: rest)

/-- The tokens of a chain of conditions. -/
def chainTokens (conditions : List Condition) : List (Token Condition) :=
  tokens (conditions.map fun condition => (condition, decide (condition.connector = .or)))

/-- A token with something else for its atom. -/
def Token.map {α β : Type} (f : α → β) : Token α → Token β
  | atom a => .atom (f a)
  | and => .and
  | or => .or

theorem map_tokens {α β : Type} (f : α → β) (links : List (α × Bool)) :
    (tokens links).map (Token.map f) = tokens (links.map fun link => (f link.1, link.2)) := by
  induction links with
  | nil => rfl
  | cons link rest ih =>
    cases rest with
    | nil => rfl
    | cons next rest =>
      rw [tokens, List.map_cons, List.map_cons, ih]
      cases h : link.2 <;> simp [tokens, Token.map, h]

theorem chainTokens_eq (conditions : List Condition) :
    chainTokens conditions =
      tokens (conditions.map fun condition => (condition, condition.connector.isOr)) := by
  have hor : ∀ connector : Connector, decide (connector = .or) = connector.isOr := by
    intro connector
    cases connector <;> rfl
  simp only [chainTokens, hor]

theorem map_chainTokens {β : Type} (f : Condition → β) (conditions : List Condition) :
    (chainTokens conditions).map (Token.map f) =
      tokens (conditions.map fun condition => (f condition, condition.connector.isOr)) := by
  rw [chainTokens_eq, map_tokens, List.map_map]
  rfl

/-! ## How things are written -/

section Spelling
variable (quoting : Quoting)

/-- An identifier: as it is, or between double quotes, which leave its dots outside. -/
def identifierText (name : String) : String :=
  match quoting with
  | .plain => name
  | .doubleQuoted =>
    "\"" ++ String.ofList (name.toList.flatMap fun c => if c = '.' then "\".\"".toList else [c]) ++
      "\""

/-- A name: an identifier, or the star that stands for every field. -/
def nameText (name : String) : String := if name = "*" then "*" else identifierText quoting name

/-- A condition.  One whose operator has no form in SQL is never written. -/
def conditionText (condition : Condition) : String :=
  let field := nameText quoting condition.field
  let value := ":" ++ condition.parameter
  match condition.operator with
  | .equal => field ++ " = " ++ value
  | .notEqual => field ++ " != " ++ value
  | .greater => field ++ " > " ++ value
  | .greaterOrEqual => field ++ " >= " ++ value
  | .less => field ++ " < " ++ value
  | .lessOrEqual => field ++ " <= " ++ value
  | .like => field ++ " LIKE " ++ value
  | .regex => field ++ " ~ " ++ value
  | .memberOf => field ++ " = ANY(" ++ value ++ ")"
  | .notMemberOf => field ++ " != ALL(" ++ value ++ ")"
  | .isNull => field ++ " IS NULL"
  | .isNotNull => field ++ " IS NOT NULL"
  | .between => field ++ " BETWEEN " ++ value ++ "_lo AND " ++ value ++ "_hi"
  | .isPresent | .other _ => field

/-- A token of a chain. -/
def Token.text : Token Condition → String
  | atom condition => conditionText quoting condition
  | and => " AND "
  | or => " OR "

/-- A chain behind its keyword; without tokens there is no clause. -/
def chainText (keyword : String) (chain : List (Token Condition)) : String :=
  if chain.isEmpty then "" else keyword ++ String.join (chain.map (Token.text quoting))

/-- Items behind their keyword with commas between them; without items there is no clause. -/
def listText (keyword : String) (items : List String) : String :=
  if items.isEmpty then "" else keyword ++ ", ".intercalate items

/-- A column of a projection, under its label if it has one. -/
def columnText (column : Projection) : String :=
  nameText quoting column.name ++
    match column.label? with
    | some label => if label = "" then "" else " AS " ++ identifierText quoting label
    | none => ""

/-- A projection; an empty one selects every field. -/
def projectionText (columns : List Projection) : String :=
  if columns.isEmpty then "*" else ", ".intercalate (columns.map (columnText quoting))

/-- A join, with its predicate as it was given unless that is empty. -/
def joinText (join : Join) : String :=
  " " ++ join.kind.name ++ " JOIN " ++ nameText quoting join.target ++
    if join.predicate = "" then "" else " ON " ++ join.predicate

/-- A sort key.  A foreign direction is never written. -/
def sortKeyText (key : SortKey) : String :=
  nameText quoting key.field ++
    match key.direction with
    | .ascending => " ASC"
    | .descending => " DESC"
    | .other name => " " ++ name

/-- The sort keys of a select. -/
def orderText (keys : List SortKey) : String :=
  listText " ORDER BY " (keys.map (sortKeyText quoting))

/-- The placeholders of a row. -/
def tupleText (names : List String) : String :=
  "(" ++ ", ".intercalate (names.map fun name => ":" ++ name) ++ ")"

/-- The columns that an update sets, each to the placeholder beside it. -/
def setText (items : List (String × String)) : String :=
  ", ".intercalate (items.map fun item => nameText quoting item.1 ++ " = :" ++ item.2)

/-- What a write gives back. -/
def returningText (names : List String) : String :=
  listText " RETURNING " (names.map (nameText quoting))

/-- What stands between the conditions and the ordering of a select. -/
def groupText (query : Query) : String :=
  listText " GROUP BY " (query.grouping.map (nameText quoting)) ++
    chainText quoting " HAVING " (chainTokens query.having)

/-- The page that a select is cut to. -/
def boundsText (query : Query) : String :=
  pageText .limit (boundText? query.limit?) ++ pageText .offset (boundText? query.offset?)

/-- The columns that an update sets and the names its values are bound under. -/
def setItems (query : Query) : List (String × String) :=
  query.assignments.map fun cell => (cell.field, "update_" ++ parameterName cell.field)

/-- The names that the values of an insert are bound under, row by row. -/
def tupleNames (query : Query) : List (List String) :=
  query.insertRows.zipIdx.map fun numbered =>
    numbered.1.map fun cell => parameterName cell.field ++ "_" ++ numbered.2.repr

/-- What stands before the conditions of a query, if it is of a kind that has some. -/
def leadText (query : Query) : String :=
  match query.operation with
  | .select =>
    "SELECT " ++ projectionText quoting query.fields ++ " FROM " ++ nameText quoting query.target ++
      String.join (query.joins.map (joinText quoting))
  | .update =>
    "UPDATE " ++ nameText quoting query.target ++ " SET " ++ setText quoting (setItems query)
  | .delete => "DELETE FROM " ++ nameText quoting query.target
  | .count => "SELECT COUNT(*) FROM " ++ nameText quoting query.target
  | .insert | .other _ => ""

/-- What stands behind the conditions of such a query. -/
def tailText (query : Query) : String :=
  match query.operation with
  | .select => groupText quoting query ++ orderText quoting query.ordering ++ boundsText query
  | .update | .delete => returningText quoting query.returning
  | .count | .insert | .other _ => ""

end Spelling

/-! ## What is written is this text -/

section Written
variable {quoting : Quoting}

/-- Quotes around every part of a name are quotes around the name and around its dots. -/
theorem inQuotes_parts (cs : List Char) :
    ['.'].intercalate ((Text.parts '.' cs).map inQuotes) =
      '"' :: (cs.flatMap fun c => if c = '.' then "\".\"".toList else [c]) ++ ['"'] := by
  induction cs with
  | nil => rfl
  | cons c rest ih =>
    obtain ⟨part, others, hparts⟩ := List.exists_cons_of_ne_nil (Text.parts_ne_nil '.' rest)
    rw [hparts] at ih
    rw [Text.parts, hparts, List.flatMap_cons]
    by_cases hc : c = '.'
    · simp only [if_pos hc, List.map_cons, List.intercalate_cons_cons] at ih ⊢
      rw [ih]
      rfl
    · -- The character goes into the first part, behind its quote.
      simp only [if_neg hc]
      cases others with
      | nil =>
        simp only [List.map_cons, List.map_nil, List.intercalate_singleton, inQuotes] at ih ⊢
        simpa using ih
      | cons next others =>
        simp only [List.map_cons, List.intercalate_cons_cons, inQuotes] at ih ⊢
        simpa using ih

@[simp] theorem toList_identifierText (name : String) :
    (identifierText quoting name).toList = quoting.write name := by
  cases quoting with
  | plain => rfl
  | doubleQuoted =>
    rw [Quoting.write, inQuotes_parts, identifierText]
    simp only [String.toList_append, String.toList_ofList]
    rfl

@[simp] theorem toList_nameText (name : String) :
    (nameText quoting name).toList = write quoting (namePieces name) := by
  unfold nameText namePieces
  split
  · rfl
  · simp [Piece.write]

theorem write_commaSeparated (items : List (List Piece)) :
    write quoting (commaSeparated items) = ", ".toList.intercalate (items.map (write quoting)) := by
  induction items with
  | nil => rfl
  | cons item rest ih =>
    cases rest with
    | nil => simp [commaSeparated_singleton]
    | cons next rest =>
      rw [commaSeparated_cons_cons, write_append, write_cons, ih]
      simp [Piece.write]

/-- Items written with commas between them. -/
theorem toList_commas {α : Type} {text : α → String} {pieces : α → List Piece}
    (h : ∀ item, (text item).toList = write quoting (pieces item)) (items : List α) :
    (", ".intercalate (items.map text)).toList =
      write quoting (commaSeparated (items.map pieces)) := by
  rw [String.toList_intercalate, write_commaSeparated, List.map_map, List.map_map]
  congr 2
  exact funext h

theorem toList_listText {α : Type} {text : α → String} {pieces : α → List Piece}
    (h : ∀ item, (text item).toList = write quoting (pieces item)) (keyword : String)
    (items : List α) :
    (listText keyword (items.map text)).toList =
      write quoting (listClause keyword (items.map pieces)) := by
  unfold listText listClause
  simp only [List.isEmpty_map]
  split
  · rfl
  · rw [String.toList_append, toList_commas h]
    rfl

theorem toList_conditionText (condition : Condition) :
    (conditionText quoting condition).toList = write quoting (conditionPieces condition) := by
  unfold conditionText conditionPieces operandPieces
  cases condition.operator <;>
    simp [Operator.sign?, Operator.arity?, Piece.write, lowName, highName]

theorem toList_chain (conditions : List Condition) :
    (String.join ((chainTokens conditions).map (Token.text quoting))).toList =
      write quoting (chainPieces conditions) := by
  induction conditions with
  | nil => rfl
  | cons condition rest ih =>
    cases rest with
    | nil => simp [chainTokens_eq, tokens, chainPieces, Token.text, toList_conditionText]
    | cons next rest =>
      rw [chainPieces, write_append, write_cons, ← ih]
      cases h : condition.connector.isOr <;>
        simp [chainTokens_eq, tokens, h, Token.text, toList_conditionText, Chain.connectorPiece,
          Piece.write]

@[simp] theorem toList_chainText (keyword : String) (conditions : List Condition) :
    (chainText quoting keyword (chainTokens conditions)).toList =
      write quoting (conditionClause keyword conditions) := by
  have hempty : (chainTokens conditions).isEmpty = conditions.isEmpty := by
    cases conditions with
    | nil => rfl
    | cons condition rest => cases rest <;> rfl
  unfold chainText conditionClause
  rw [hempty]
  split
  · rfl
  · rw [String.toList_append, toList_chain]
    rfl

theorem toList_columnText (column : Projection) :
    (columnText quoting column).toList = write quoting (columnPieces column) := by
  unfold columnText columnPieces
  cases column.label? with
  | none => simp
  | some label => by_cases h : label = "" <;> simp [h, Piece.write]

@[simp] theorem toList_projectionText (columns : List Projection) :
    (projectionText quoting columns).toList = write quoting (projectionPieces columns) := by
  unfold projectionText projectionPieces
  split
  · rfl
  · exact toList_commas toList_columnText columns

theorem toList_joinText (join : Join) :
    (joinText quoting join).toList = write quoting (joinPieces join) := by
  unfold joinText joinPieces
  by_cases h : join.predicate = "" <;> simp [h, Piece.write]

@[simp] theorem flatMap_joinText (joins : List Join) :
    (joins.map (joinText quoting)).flatMap String.toList =
      write quoting (joins.flatMap joinPieces) := by
  induction joins with
  | nil => rfl
  | cons join rest ih =>
    rw [List.map_cons, List.flatMap_cons, ih, toList_joinText, List.flatMap_cons, write_append]

theorem toList_sortKeyText (key : SortKey) :
    (sortKeyText quoting key).toList = write quoting (sortKeyPieces key) := by
  unfold sortKeyText sortKeyPieces
  cases key.direction <;> simp [Direction.name, Piece.write]

variable (quoting) in
theorem toList_tupleText (tuple : List Binding) :
    (tupleText (tuple.map Binding.name)).toList = write quoting (tuplePieces tuple) := by
  have hplaceholder : ∀ binding : Binding,
      (":" ++ binding.name).toList = write quoting binding.pieces := by
    simp [Binding.pieces, Piece.write]
  have hcommas := toList_commas hplaceholder tuple
  unfold tupleText tuplePieces
  simp only [String.toList_append, List.map_map, Function.comp_def, hcommas, List.cons_append,
    write_cons, write_append]
  rfl

@[simp] theorem toList_setText (query : Query) :
    (setText quoting (setItems query)).toList =
      write quoting (commaSeparated (query.assignments.map fun cell =>
        (cellAssignment cell).pieces)) := by
  have hitem : ∀ cell : Cell,
      (nameText quoting cell.field ++ " = :" ++ ("update_" ++ parameterName cell.field)).toList =
        write quoting (cellAssignment cell).pieces := by
    simp [cellAssignment, Assignment.pieces, Binding.pieces, Piece.write]
  rw [setText, setItems, List.map_map]
  exact toList_commas hitem query.assignments

variable (quoting) in
theorem toList_boundsText (query : Query) :
    (boundsText query).toList =
      write quoting (pageClause .limit query.limit? ++ pageClause .offset query.offset?) := by
  rw [boundsText, String.toList_append, write_append, write_pageClause, write_pageClause]

@[simp] theorem toList_returningText (names : List String) :
    (returningText quoting names).toList = write quoting (returningClause names) :=
  toList_listText toList_nameText " RETURNING " names

end Written

/-! ## Queries -/

section Queries
variable {quoting : Quoting} {query : Query} {rendered : Rendered}

/-- **The text of a query of a kind that has conditions**: between what stands before them and what
stands behind them there is the clause of their tokens, and nothing else. -/
theorem text_of_filtering (ho : query.operation ≠ .insert)
    (h : (render quoting query).outcome = .ok rendered) :
    rendered.text =
      leadText quoting query ++ chainText quoting " WHERE " (chainTokens query.conditions) ++
        tailText quoting query := by
  obtain ⟨-, ⟨statement, hstatement⟩, htext, -⟩ := render_eq h
  refine String.toList_inj.mp (htext.trans ?_)
  cases hstatement with
  | select hs =>
    simp [queryPieces, leadText, tailText, hs, groupText, orderText,
      toList_listText toList_nameText, toList_listText toList_sortKeyText,
      toList_boundsText quoting, Piece.write]
  | insert hi => exact absurd hi ho
  | update hu => simp [queryPieces, leadText, tailText, hu, Piece.write]
  | delete hd => simp [queryPieces, leadText, tailText, hd, Piece.write]
  | count hc => simp [queryPieces, leadText, tailText, hc, Piece.write]

/-- The text of a select behind its conditions, clause by clause. -/
theorem text_of_select (ho : query.operation = .select)
    (h : (render quoting query).outcome = .ok rendered) :
    rendered.text =
      leadText quoting query ++ chainText quoting " WHERE " (chainTokens query.conditions) ++
        groupText quoting query ++ orderText quoting query.ordering ++ boundsText query := by
  rw [text_of_filtering (by simp [ho]) h]
  simp only [tailText, ho, String.append_assoc]

/-- The text of an update: its target, what it sets, where, and what it gives back. -/
theorem text_of_update (ho : query.operation = .update)
    (h : (render quoting query).outcome = .ok rendered) :
    rendered.text =
      "UPDATE " ++ nameText quoting query.target ++ " SET " ++ setText quoting (setItems query) ++
        chainText quoting " WHERE " (chainTokens query.conditions) ++
        returningText quoting query.returning := by
  rw [text_of_filtering (by simp [ho]) h]
  simp only [leadText, tailText, ho]

theorem tupleNames_eq (query : Query) :
    tupleNames query =
      (tuplesFrom 0 query.insertRows).map fun tuple => tuple.map Binding.name := by
  simp [tupleNames, tuplesFrom, cellBinding, Function.comp_def]

/-- **The text of an insert**: its columns once, and a tuple of placeholders for each row. -/
theorem text_of_insert (ho : query.operation = .insert)
    (h : (render quoting query).outcome = .ok rendered) :
    rendered.text =
      "INSERT INTO " ++ nameText quoting query.target ++
        " (" ++ ", ".intercalate (query.insertColumns.map (nameText quoting)) ++
        ") VALUES " ++
        ", ".intercalate ((tupleNames query).map tupleText) ++
        returningText quoting query.returning := by
  obtain ⟨-, -, htext, -⟩ := render_eq h
  refine String.toList_inj.mp (htext.trans ?_)
  simp [queryPieces, ho, tupleNames_eq, Function.comp_def, toList_commas toList_nameText,
    toList_commas (toList_tupleText quoting), Piece.write]

end Queries

end CrudQuery.Sql
