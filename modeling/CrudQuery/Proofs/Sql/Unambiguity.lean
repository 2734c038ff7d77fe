import CrudQuery.Proofs.Sql.Decoding

/-! # The text of a query determines the query

No text is written for two queries that differ in anything a statement of their kind says.  The text
does not say everything: the values are not in it, nor the parameter of a test that takes none, nor
the connector of a last condition; and an empty projection reads as one that names every field, an
empty label as none.  `SameClauses` says what is left, and the main theorem that it can be read off.

A statement is a keyword, a target, and clauses that may be left out.  Two kinds of statement begin
with the same word; they are told apart by what stands behind the name that comes next.
-/

namespace CrudQuery.Sql
open Text

/-! ## What a text says -/

/-- The columns of a projection with their labels, an empty label for none.  An empty projection is
one column that names every field. -/
def shownColumns (fields : List Projection) : List (String × String) :=
  if fields.isEmpty then [("*", "")]
  else fields.map fun field => (field.name, field.label?.getD "")

/-- Two queries of one kind whose statements have the same clauses. -/
def SameClauses (query other : Query) : Prop :=
  match query.operation with
  | .select =>
    shownColumns query.fields = shownColumns other.fields ∧
      SameChain query.conditions other.conditions ∧ query.grouping = other.grouping ∧
      SameChain query.having other.having ∧ query.ordering = other.ordering ∧
      boundText? query.limit? = boundText? other.limit? ∧
      boundText? query.offset? = boundText? other.offset?
  | .insert =>
    query.insertColumns = other.insertColumns ∧
      query.insertRows.length = other.insertRows.length ∧ query.returning = other.returning
  | .update =>
    query.assignments.columns = other.assignments.columns ∧
      SameChain query.conditions other.conditions ∧ query.returning = other.returning
  | .delete => SameChain query.conditions other.conditions ∧ query.returning = other.returning
  | .count => SameChain query.conditions other.conditions
  | .other _ => True

section Parts
variable {quoting : Quoting}

/-! ## Projections -/

/-- A column with its label, an empty label for none. -/
def shownPieces (column : String × String) : List Piece :=
  namePieces column.1 ++
    if column.2.isEmpty then [] else [.verbatim " AS ", .identifier column.2]

theorem projectionPieces_eq_shown (fields : List Projection) :
    projectionPieces fields = commaSeparated ((shownColumns fields).map shownPieces) := by
  have hcolumn : columnPieces = fun field => shownPieces (field.name, field.label?.getD "") := by
    funext ⟨name, label?⟩
    cases label? <;> rfl
  cases fields with
  | nil => rfl
  | cons field rest =>
    simp only [projectionPieces, shownColumns, List.isEmpty_cons, if_neg Bool.false_ne_true,
      List.map_map, Function.comp_def, hcolumn]

theorem write_shownPieces (column : String × String) :
    write quoting (shownPieces column) = write quoting (namePieces column.1) ++
      clauseText " AS " column.2.isEmpty (quoting.write column.2) := by
  rw [shownPieces, write_append, clauseText]
  split <;> simp [Piece.write]

theorem clauseDecodes_label (quoting : Quoting) {later : List String}
    (hk : clear " AS " later = true) (hbreak : allBreak later = true) :
    DecodesClause " AS " later
      (fun label : String => clauseText " AS " label.isEmpty (quoting.write label)) (· = ·)
      fun label => label ≠ "" → isWord label.toList = true := by
  have hbody : Decodes quoting.write (Follows later) (· = ·) fun label =>
      label.isEmpty = false ∧ (label ≠ "" → isWord label.toList = true) :=
    (decodes_identifier.on id fun label hl =>
      isDottedWord_of_isWord (hl.2 (by simpa using hl.1))).ends_mono
      fun rest hr => hr.broken hbreak
  refine hbody.clause (fun label other hl ho => ?_) hk fun _ => rfl
  rw [String.isEmpty_iff.mp hl, String.isEmpty_iff.mp ho]

theorem decodes_column {later : List String} (hk : clear " AS " later = true)
    (hbreak : allBreak later = true) :
    Decodes (fun column => write quoting (shownPieces column)) (Follows later) (· = ·)
      fun column => IsName column.1 ∧ (column.2 ≠ "" → isWord column.2.toList = true) := by
  have hname : Decodes (fun column : String × String => write quoting (namePieces column.1))
      (Follows (" AS " :: later)) (fun column other => column.1 = other.1)
      fun column => IsName column.1 ∧ (column.2 ≠ "" → isWord column.2.toList = true) :=
    (decodes_name.on Prod.fst fun _ hc => hc.1).ends_mono fun rest hr =>
      hr.broken (by simpa [allBreak, isBreak] using hbreak)
  have hcolumn :=
    hname.before ((clauseDecodes_label quoting hk hbreak).on Prod.snd fun _ hc => hc.2)
  exact (hcolumn.congr fun column _ => write_shownPieces column).same_mono
    fun _ _ _ _ h => Prod.ext h.1 h.2

theorem shownColumns_checked {fields : List Projection}
    (h : ∀ field ∈ fields, AcceptedColumn field) :
    (shownColumns fields).isEmpty = false ∧ ∀ column ∈ shownColumns fields,
      IsName column.1 ∧ (column.2 ≠ "" → isWord column.2.toList = true) := by
  cases fields with
  | nil => exact ⟨rfl, List.forall_mem_singleton.mpr ⟨.inl rfl, fun hne => absurd rfl hne⟩⟩
  | cons first rest =>
    refine ⟨rfl, List.forall_mem_map.mpr fun field hf => ⟨(h field hf).name, fun hne => ?_⟩⟩
    cases hlabel : field.label? with
    | none => exact absurd (by rw [hlabel]; rfl) hne
    | some label =>
      rw [hlabel] at hne
      exact (h field hf).label label hlabel hne

theorem decodes_projection :
    Decodes (fun fields => write quoting (projectionPieces fields)) (Follows [" FROM "])
      (fun fields others => shownColumns fields = shownColumns others)
      fun fields => ∀ field ∈ fields, AcceptedColumn field := by
  have hcolumn : Decodes (fun column => write quoting (shownPieces column))
      (Follows [", ", " FROM "]) (· = ·)
      fun column => IsName column.1 ∧ (column.2 ≠ "" → isWord column.2.toList = true) :=
    decodes_column (by decide) (by decide)
  refine (((decodes_commaSeparated (by decide) hcolumn).on shownColumns fun _ =>
    shownColumns_checked).congr fun fields _ => by rw [projectionPieces_eq_shown]).same_mono
    fun _ _ _ _ h => ?_
  exact List.forall₂_eq_eq_eq ▸ h

/-- A projection starts with a name, and what stands behind that is one of three words. -/
theorem exists_name_of_projection {fields : List Projection} {rest : List Char}
    (h : ∀ field ∈ fields, AcceptedColumn field)
    (hr : Follows [" FROM "] rest) :
    ∃ name more, IsName name ∧ Follows [" AS ", ", ", " FROM "] more ∧
      write quoting (projectionPieces fields) ++ rest =
        write quoting (namePieces name) ++ more := by
  obtain ⟨hne, hcolumns⟩ := shownColumns_checked h
  rw [projectionPieces_eq_shown]
  cases hshown : shownColumns fields with
  | nil => rw [hshown] at hne; cases hne
  | cons column columns =>
    obtain ⟨hname, hlabel⟩ := hcolumns column (hshown ▸ List.mem_cons_self)
    have hothers : Follows [", ", " FROM "]
        (write quoting (columns.flatMap fun next => .verbatim ", " :: shownPieces next) ++
          rest) := by
      cases columns with
      | nil => exact hr.mono fun _ => List.mem_cons_of_mem _
      | cons next columns =>
        rw [List.flatMap_cons, List.cons_append, write_cons, List.append_assoc]
        exact follows_append List.mem_cons_self _
    refine ⟨column.1, _, hname, (clauseDecodes_label quoting (by decide) (by decide)).follows
      column.2 _ hlabel hothers, ?_⟩
    rw [List.map_cons, commaSeparated_cons, write_append, write_shownPieces, List.flatMap_map]
    simp only [List.append_assoc]

/-! ## Rows and assignments -/

/-- A tuple closes with a bracket, which tells it from what is behind it. -/
theorem decodes_tuple (ends : List Char → Prop) :
    Decodes (fun tuple => write quoting (tuplePieces tuple)) ends (fun _ _ => True)
      fun tuple => tuple.isEmpty = false ∧
        ∀ binding ∈ tuple, isWord binding.name.toList = true := by
  have hbinding : Decodes (fun binding : Binding => write quoting binding.pieces)
      (Follows [", ", ")"]) (fun binding other => binding.name = other.name)
      fun binding => isWord binding.name.toList = true :=
    (decodes_placeholder.on Binding.name fun _ h => h).ends_mono fun rest hr =>
      hr.broken (by decide)
  have htuple := ((decodes_commaSeparated (by decide) hbinding).behind "(").seq
    (decodes_const ")" ends) fun _ rest _ _ => follows_append List.mem_cons_self rest
  refine (htuple.congr fun tuple _ => ?_).same_mono fun _ _ _ _ _ => trivial
  simp [tuplePieces, Piece.write]

theorem decodes_assignment :
    Decodes (fun cell => write quoting (cellAssignment cell).pieces) Broken
      (fun cell other => cell.field = other.field) fun cell => isIdentifier cell.field = true := by
  have hfield : Decodes (fun cell : Cell => write quoting (namePieces cell.field)) Broken
      (fun cell other => cell.field = other.field) fun cell => isIdentifier cell.field = true :=
    decodes_name.on Cell.field fun cell hc => .inr hc
  have hoperand : Decodes (fun cell => write quoting (cellAssignment cell).operand.pieces) Broken
      (fun cell other => (cellAssignment cell).operand.name = (cellAssignment other).operand.name)
      fun cell => isIdentifier cell.field = true :=
    decodes_placeholder.on (fun cell : Cell => (cellAssignment cell).operand.name) fun cell hc =>
      isWord_updateName hc
  have hcell := hfield.seq (hoperand.behind " = ") fun _ rest _ _ => by
    rw [List.append_assoc]
    exact broken_append (by decide) _
  refine (hcell.congr fun cell _ => ?_).same_mono fun _ _ _ _ h => h.1
  simp [Assignment.pieces, Piece.write, cellAssignment]

end Parts

/-! ## Statements -/

/-- A query of some kind that has a statement, without joins if it is a select. -/
structure Written (operation : Operation) (query : Query) : Prop where
  kind : query.operation = operation
  accepted : Accepted query
  statement : ∃ statement, StatementFor query statement
  bare : query.operation = .select → query.joins = []

theorem shaped_of_chainFor {conditions : List Condition} {chain : Chain}
    (hw : ∀ c ∈ conditions, AcceptedCondition c)
    (h : ChainFor conditions chain) : ∀ c ∈ conditions, Shaped c :=
  fun c hc => ⟨hw c hc, signed_of_chainFor h c hc⟩

section Written
variable {operation : Operation} {query : Query}

theorem Written.isName_target (h : Written operation query) : IsName query.target :=
  .inr h.accepted.words.target

theorem Written.shaped_conditions (h : Written operation query) (ho : operation ≠ .insert) :
    ∀ c ∈ query.conditions, Shaped c := by
  have hw := (List.forall_mem_append.mp h.accepted.words.conditions).1
  obtain ⟨statement, hs⟩ := h.statement
  cases hs with
  | select _ hf _ => exact shaped_of_chainFor hw hf
  | insert hi => exact absurd (h.kind.symm.trans hi) ho
  | update _ hf => exact shaped_of_chainFor hw hf
  | delete _ hf => exact shaped_of_chainFor hw hf
  | count _ hf => exact shaped_of_chainFor hw hf

theorem Written.shaped_having (h : Written .select query) : ∀ c ∈ query.having, Shaped c := by
  have hw := (List.forall_mem_append.mp h.accepted.words.conditions).2
  obtain ⟨statement, hs⟩ := h.statement
  have hkind := h.kind
  cases hs with
  | select _ _ hh => exact shaped_of_chainFor hw hh
  | insert ho | update ho | delete ho | count ho => rw [ho] at hkind; cases hkind

theorem Written.columns (h : Written .insert query) :
    query.insertColumns.isEmpty = false ∧ ∀ column ∈ query.insertColumns, IsName column := by
  obtain ⟨statement, hs⟩ := h.statement
  have hkind := h.kind
  cases hs with
  | insert _ hne => exact ⟨by simpa using hne, isName_of_mem_insertColumns h.accepted.words⟩
  | select ho | update ho | delete ho | count ho => rw [ho] at hkind; cases hkind

theorem Written.tuples (h : Written .insert query) :
    (tuplesFrom 0 query.insertRows).isEmpty = false ∧
      ∀ tuple ∈ tuplesFrom 0 query.insertRows, tuple.isEmpty = false ∧
        ∀ binding ∈ tuple, isWord binding.name.toList = true := by
  have hword := isWord_of_mem_tuplesFrom 0 h.accepted.words.rows
  obtain ⟨statement, hs⟩ := h.statement
  have hkind := h.kind
  cases hs with
  | insert _ hne huniform =>
    refine ⟨?_, fun tuple ht => ⟨?_, hword tuple ht⟩⟩
    · cases hrows : query.insertRows with
      | nil => exact absurd (by rw [Query.insertColumns, hrows]; rfl) hne
      | cons row rest => simp [tuplesFrom, List.zipIdx_cons]
    · obtain ⟨⟨row, number⟩, hrow, rfl⟩ := List.mem_map.mp ht
      have hcolumns := huniform row (List.fst_mem_of_mem_zipIdx hrow)
      cases row with
      | nil => exact absurd hcolumns.symm hne
      | cons cell row => rfl
  | select ho | update ho | delete ho | count ho => rw [ho] at hkind; cases hkind

theorem Written.assigned (h : Written .update query) :
    query.assignments.isEmpty = false ∧
      ∀ cell ∈ query.assignments, isIdentifier cell.field = true := by
  refine ⟨?_, h.accepted.words.updates⟩
  have hvalid := h.accepted.valid
  cases hempty : query.assignments.isEmpty with
  | false => rfl
  | true =>
    have hupdates : (query.updates?.getD []).isEmpty = true := hempty
    simp only [Query.violation?, h.kind, hupdates] at hvalid
    split at hvalid <;> simp at hvalid

end Written

theorem columns_of_forall₂ {row other : Row}
    (h : List.Forall₂ (fun cell last => cell.field = last.field) row other) :
    row.columns = other.columns := by
  induction h with
  | nil => rfl
  | cons hcell hrest ih => exact congrArg₂ List.cons hcell ih

section Statements
variable (quoting : Quoting)

/-- A target before words that start with a break. -/
theorem decodes_target (operation : Operation) (later : List String)
    (hbreak : allBreak later = true) :
    Decodes (fun query : Query => write quoting (namePieces query.target)) (Follows later)
      (fun query other => query.target = other.target) (Written operation) :=
  (decodes_name.on Query.target fun _ hq => hq.isName_target).ends_mono fun _ hr => hr.broken hbreak

theorem clauseDecodes_where {operation : Operation} (ho : operation ≠ .insert)
    {later : List String} (hk : clear " WHERE " later = true) (hends : endsChain later = true) :
    DecodesClause " WHERE " later
      (fun query : Query => write quoting (conditionClause " WHERE " query.conditions))
      (fun query other => SameChain query.conditions other.conditions) (Written operation) :=
  (clauseDecodes_chain hk hends).on Query.conditions fun _ hq => hq.shaped_conditions ho

/-- What a write gives back is the last thing it says. -/
theorem clauseDecodes_returned {operation : Operation} :
    DecodesClause " RETURNING " []
      (fun query : Query => write quoting (returningClause query.returning))
      (fun query other => query.returning = other.returning) (Written operation) :=
  (clauseDecodes_names (by decide) (by decide)).on Query.returning
    fun _ hq => hq.accepted.words.returning

/-- The text of a query of some kind tells its target and its clauses. -/
abbrev DecodesQuery (operation : Operation) : Prop :=
  Decodes (fun query => write quoting (queryPieces query)) (Follows [])
    (fun query other => query.target = other.target ∧ SameClauses query other) (Written operation)

theorem decodes_count : DecodesQuery quoting .count := by
  have htarget := decodes_target quoting .count [" WHERE "] (by decide)
  have h := (htarget.behind "SELECT COUNT(*) FROM ").before
    (clauseDecodes_where quoting (by decide) (by decide) (by decide))
  refine (h.congr fun query hq => ?_).same_mono fun query other hq _ hs => ?_
  · simp [queryPieces, hq.kind, Piece.write]
  · simp only [SameClauses, hq.kind]
    exact hs

theorem decodes_delete : DecodesQuery quoting .delete := by
  have htarget := decodes_target quoting .delete [" WHERE ", " RETURNING "] (by decide)
  have h := ((htarget.behind "DELETE FROM ").before
    (clauseDecodes_where quoting (by decide) (by decide) (by decide))).before
    (clauseDecodes_returned quoting)
  refine (h.congr fun query hq => ?_).same_mono fun query other hq _ hs => ?_
  · simp [queryPieces, hq.kind, Piece.write]
  · obtain ⟨⟨htarget, hwhere⟩, hreturning⟩ := hs
    simp only [SameClauses, hq.kind]
    exact ⟨htarget, hwhere, hreturning⟩

theorem decodes_update : DecodesQuery quoting .update := by
  have hassignments : Decodes
      (fun query : Query => write quoting
        (commaSeparated (query.assignments.map fun cell => (cellAssignment cell).pieces)))
      (Follows [" WHERE ", " RETURNING "])
      (fun query other => List.Forall₂ (fun cell last => cell.field = last.field)
        query.assignments other.assignments) (Written .update) :=
    (decodes_commaSeparated (by decide)
      (decodes_assignment.ends_mono fun _ hr => hr.broken (by decide))).on Query.assignments
      fun _ hq => hq.assigned
  have htarget := decodes_target quoting .update [" SET "] (by decide)
  have h := (((htarget.behind "UPDATE ").seq_behind hassignments).before
    (clauseDecodes_where quoting (by decide) (by decide) (by decide))).before
    (clauseDecodes_returned quoting)
  refine (h.congr fun query hq => ?_).same_mono fun query other hq _ hs => ?_
  · simp [queryPieces, hq.kind, Piece.write]
  · obtain ⟨⟨⟨htarget, hassigned⟩, hwhere⟩, hreturning⟩ := hs
    simp only [SameClauses, hq.kind]
    exact ⟨htarget, columns_of_forall₂ hassigned, hwhere, hreturning⟩

theorem decodes_insert : DecodesQuery quoting .insert := by
  have htarget := decodes_target quoting .insert [" ("] (by decide)
  have hcolumns : Decodes
      (fun query : Query => write quoting (commaSeparated (query.insertColumns.map namePieces)))
      (Follows [") VALUES "]) (fun query other => query.insertColumns = other.insertColumns)
      (Written .insert) :=
    (decodes_names (by decide)).on Query.insertColumns fun _ hq => hq.columns
  have htuples : Decodes
      (fun query : Query => write quoting
        (commaSeparated ((tuplesFrom 0 query.insertRows).map tuplePieces)))
      (Follows [" RETURNING "])
      (fun query other => List.Forall₂ (fun _ _ => True) (tuplesFrom 0 query.insertRows)
        (tuplesFrom 0 other.insertRows)) (Written .insert) :=
    (decodes_commaSeparated (by decide) (decodes_tuple _)).on
      (fun query : Query => tuplesFrom 0 query.insertRows) fun _ hq => hq.tuples
  have h := (((htarget.behind "INSERT INTO ").seq_behind hcolumns).seq_behind htuples).before
    (clauseDecodes_returned quoting)
  refine (h.congr fun query hq => ?_).same_mono fun query other hq _ hs => ?_
  · simp [queryPieces, hq.kind, Piece.write]
  · obtain ⟨⟨⟨htarget, hcolumns⟩, htuples⟩, hreturning⟩ := hs
    simp only [SameClauses, hq.kind]
    -- The names in the tuples follow from the columns and the row, so their number is what is left.
    refine ⟨htarget, hcolumns, ?_, hreturning⟩
    simpa [tuplesFrom] using htuples.length_eq

theorem decodes_select : DecodesQuery quoting .select := by
  have hprojection : Decodes (fun query : Query => write quoting (projectionPieces query.fields))
      (Follows [" FROM "])
      (fun query other => shownColumns query.fields = shownColumns other.fields)
      (Written .select) :=
    decodes_projection.on Query.fields fun _ hq => hq.accepted.words.fields
  have htarget := decodes_target quoting .select
    [" WHERE ", " GROUP BY ", " HAVING ", " ORDER BY ", pageKeyword .limit, pageKeyword .offset]
    (by decide)
  have hgrouping : DecodesClause " GROUP BY "
      [" HAVING ", " ORDER BY ", pageKeyword .limit, pageKeyword .offset]
      (fun query : Query => write quoting (listClause " GROUP BY " (query.grouping.map namePieces)))
      (fun query other => query.grouping = other.grouping) (Written .select) :=
    (clauseDecodes_names (by decide) (by decide)).on Query.grouping
      fun _ hq name hn => .inr (hq.accepted.words.grouping name hn)
  have hhaving : DecodesClause " HAVING " [" ORDER BY ", pageKeyword .limit, pageKeyword .offset]
      (fun query : Query => write quoting (conditionClause " HAVING " query.having))
      (fun query other => SameChain query.having other.having) (Written .select) :=
    (clauseDecodes_chain (by decide) (by decide)).on Query.having
      fun _ hq => hq.shaped_having
  have hordering : DecodesClause " ORDER BY " [pageKeyword .limit, pageKeyword .offset]
      (fun query : Query =>
        write quoting (listClause " ORDER BY " (query.ordering.map sortKeyPieces)))
      (fun query other => query.ordering = other.ordering) (Written .select) :=
    (clauseDecodes_list (by decide) (decodes_sortKeys (by decide))).on Query.ordering
      fun _ hq => hq.accepted.words.ordering
  have hlimit : DecodesClause (pageKeyword .limit) [pageKeyword .offset]
      (fun query : Query => write quoting (pageClause .limit query.limit?))
      (fun query other => boundText? query.limit? = boundText? other.limit?) (Written .select) :=
    (clauseDecodes_page .limit (by decide) (by decide)).on Query.limit?
      fun _ hq => hq.accepted.limit
  have hoffset : DecodesClause (pageKeyword .offset) []
      (fun query : Query => write quoting (pageClause .offset query.offset?))
      (fun query other => boundText? query.offset? = boundText? other.offset?) (Written .select) :=
    (clauseDecodes_page .offset (by decide) (by decide)).on Query.offset?
      fun _ hq => hq.accepted.offset
  have hhead := (hprojection.behind "SELECT ").seq_behind htarget
  have h := (((((hhead.before
    (clauseDecodes_where quoting (by decide) (by decide) (by decide))).before
    hgrouping).before hhaving).before hordering).before hlimit).before hoffset
  refine (h.congr fun query hq => ?_).same_mono fun query other hq _ hs => ?_
  · simp [queryPieces, hq.kind, hq.bare hq.kind, Piece.write]
  · obtain ⟨⟨⟨⟨⟨⟨⟨hshown, hfrom⟩, hwhere⟩, hgroups⟩, hgrouped⟩, hsorted⟩, hlimited⟩, hskipped⟩ := hs
    simp only [SameClauses, hq.kind]
    exact ⟨hfrom, hshown, hwhere, hgroups, hgrouped, hsorted, hlimited, hskipped⟩

/-! ## Kinds -/

/-- What a statement of some kind begins with. -/
def openingOf : Operation → String
  | .select => "SELECT "
  | .insert => "INSERT INTO "
  | .update => "UPDATE "
  | .delete => "DELETE FROM "
  | .count => "SELECT COUNT(*) FROM "
  | .other _ => ""

theorem openingOf_prefix (query : Query) :
    (openingOf query.operation).toList <+: write quoting (queryPieces query) := by
  unfold queryPieces
  cases query.operation <;> simp [openingOf, Piece.write]

/-- A projection is not mistaken for a count, whose bracket stands where no word behind a name
does. -/
theorem select_ne_count {query other : Query} (hq : Written .select query)
    (ho : Written .count other) :
    write quoting (queryPieces query) ≠ write quoting (queryPieces other) := by
  intro e
  obtain ⟨rest, hselect⟩ : ∃ rest, write quoting (queryPieces query) =
      "SELECT ".toList ++ (write quoting (projectionPieces query.fields) ++
        (" FROM ".toList ++ rest)) := by
    simp [queryPieces, hq.kind, Piece.write]
  obtain ⟨counted, hcount⟩ : ∃ counted, write quoting (queryPieces other) =
      "SELECT ".toList ++ ("COUNT".toList ++ ("(*) FROM ".toList ++ counted)) := by
    simp [queryPieces, ho.kind, Piece.write]
  obtain ⟨name, more, hname, hmore, hwritten⟩ := exists_name_of_projection
    hq.accepted.words.fields (follows_append List.mem_cons_self rest)
  rw [hselect, hwritten, hcount] at e
  -- Both go on with a stretch without breaks, so what is behind it is the same.
  have hsolid : Decodes id Broken (fun text twin => id text = id twin) Solid :=
    decodes_solid fun _ h => h
  have hend : more = "(*) FROM ".toList ++ counted :=
    (hsolid _ _ _ _ (solid_write_namePieces hname)
      (solid_word (show isWord "COUNT".toList = true by decide)) (hmore.broken (by decide))
      (broken_append (by decide) _) (List.append_cancel_left e)).2
  exact not_follows (by decide) counted (hend ▸ hmore)

theorem Written.mem_kinds {operation : Operation} {query : Query} (h : Written operation query) :
    operation ∈ kinds := by
  obtain ⟨statement, hs⟩ := h.statement
  rw [← h.kind]
  cases hs with
  | select ho | insert ho | update ho | delete ho | count ho => rw [ho]; decide

/-- The text of a query tells its kind. -/
theorem operation_eq {operation kind : Operation} {query other : Query}
    (hq : Written operation query) (ho : Written kind other)
    (h : write quoting (queryPieces query) = write quoting (queryPieces other)) :
    operation = kind := by
  have hfree : ∀ a ∈ kinds, ∀ b ∈ kinds, (openingOf a).toList <+: (openingOf b).toList →
      a = b ∨ (a = .select ∧ b = .count) := by decide
  have hopening := hq.kind ▸ openingOf_prefix quoting query
  have hother := ho.kind ▸ openingOf_prefix quoting other
  rcases List.prefix_or_prefix_of_prefix hopening (h ▸ hother) with hp | hp
  · rcases hfree _ hq.mem_kinds _ ho.mem_kinds hp with rfl | ⟨rfl, rfl⟩
    · rfl
    · exact absurd h (select_ne_count quoting hq ho)
  · rcases hfree _ ho.mem_kinds _ hq.mem_kinds hp with rfl | ⟨rfl, rfl⟩
    · rfl
    · exact absurd h.symm (select_ne_count quoting ho hq)

theorem decodes_query {operation : Operation} (h : operation ∈ kinds) :
    DecodesQuery quoting operation := by
  simp only [kinds, List.mem_cons, List.not_mem_nil, or_false] at h
  rcases h with rfl | rfl | rfl | rfl | rfl
  · exact decodes_select quoting
  · exact decodes_insert quoting
  · exact decodes_update quoting
  · exact decodes_delete quoting
  · exact decodes_count quoting

end Statements

theorem written_of_render {quoting : Quoting} {query : Query} {rendered : Rendered}
    (h : (render quoting query).outcome = .ok rendered)
    (bare : query.operation = .select → query.joins = []) : Written query.operation query := by
  obtain ⟨ha, hs, -, -⟩ := render_eq h
  exact ⟨rfl, ha, hs, bare⟩

/-- **The text of a query determines the query.**  Two queries that are rendered to the same text,
in the same dialect and without joins, are of one kind, have one target, and say the same in every
clause of a statement of that kind. -/
theorem text_determines {quoting : Quoting} {query other : Query} {rendered twin : Rendered}
    (hq : (render quoting query).outcome = .ok rendered)
    (ho : (render quoting other).outcome = .ok twin)
    (hqj : query.operation = .select → query.joins = [])
    (hoj : other.operation = .select → other.joins = []) (h : rendered.text = twin.text) :
    query.operation = other.operation ∧ query.target = other.target ∧ SameClauses query other := by
  have hwritten := written_of_render hq hqj
  have htwin := written_of_render ho hoj
  have htext : write quoting (queryPieces query) = write quoting (queryPieces other) := by
    rw [← (render_eq hq).2.2.1, ← (render_eq ho).2.2.1, h]
  have hkind := operation_eq quoting hwritten htwin htext
  rw [← hkind] at htwin
  exact ⟨hkind, (decodes_query quoting hwritten.mem_kinds query other [] [] hwritten htwin
    (follows_nil _) (follows_nil _) (congrArg (· ++ []) htext)).1⟩

theorem text_determines_unsaid :
    let query : Query := { Query.blank .select "FROM" with
      fields := [⟨"AS", some "FROM"⟩, ⟨"u.id", none⟩]
      conditions := [⟨"age", .between, .list [.text "20", .text "30"], .or, "age"⟩,
        ⟨"AND", .isNull, .null, .and, "gone"⟩] }
    let other : Query := { Query.blank .select "FROM" with
      fields := [⟨"AS", some "FROM"⟩, ⟨"u.id", some ""⟩]
      conditions := [⟨"age", .between, .list [.text "1", .text "2"], .or, "age"⟩,
        ⟨"AND", .isNull, .text "", .or, "left"⟩] }
    ∃ rendered twin, (render .plain query).outcome = .ok rendered ∧
      (render .plain other).outcome = .ok twin ∧ rendered.text = twin.text ∧
      query.operation = other.operation ∧ query.target = other.target ∧
      SameClauses query other := by
  intro query other
  obtain ⟨rendered, hq⟩ := Except.exists_of_isOk
    (show (render .plain query).outcome.isOk = true by decide +kernel)
  obtain ⟨twin, ho⟩ := Except.exists_of_isOk
    (show (render .plain other).outcome.isOk = true by decide +kernel)
  have htext : rendered.text = twin.text := by
    rw [← String.toList_inj, (render_eq hq).2.2.1, (render_eq ho).2.2.1]
    decide +kernel
  exact ⟨rendered, twin, hq, ho, htext, text_determines hq ho (fun _ => rfl) (fun _ => rfl) htext⟩

end CrudQuery.Sql
