import CrudQuery.Proofs.Outcome
import CrudQuery.Sql.Render

/-! # What a compiled statement is made of

Compilation interleaves three things: it checks words, shapes conditions into predicates and binds
values.  Here they are taken apart.  `Accepted` is what the checks ask of a query before anything is
built; `StatementFor` relates a query to the statement it has, without a word about parameters; and
`compile_eq_ok` says that a query compiles to a statement and some parameters iff it is accepted,
the statement is its statement, and the parameters are the bindings of that statement in order.
Since `Parameters` cannot hold a name twice, the last condition is also where duplicates are
refused.
-/

namespace CrudQuery.Query

/-- The rows an insert stores. -/
def insertRows (query : Query) : List Row := query.rows?.getD []

/-- The columns of an insert are those of its first row. -/
def insertColumns (query : Query) : List String := (query.insertRows.head?.getD []).columns

/-- The assignments an update makes. -/
def assignments (query : Query) : Row := query.updates?.getD []

theorem requireValid_eq_ok {query : Query} :
    query.requireValid.outcome = .ok () ↔ query.violation? = none := by
  unfold requireValid inspect
  cases h : query.violation? <;> simp

theorem requirePageBound_eq_ok {bound : PageBound} {value? : Option Float} :
    (requirePageBound bound value?).outcome = .ok () ↔
      ∀ value, value? = some value → isPageBound value = true := by
  unfold requirePageBound
  cases value? with
  | none => simp
  | some value => cases h : isPageBound value <;> simp [h]

theorem requirePageBounds_eq_ok {query : Query} :
    query.requirePageBounds.outcome = .ok () ↔
      (∀ value, query.limit? = some value → isPageBound value = true) ∧
        ∀ value, query.offset? = some value → isPageBound value = true := by
  unfold requirePageBounds
  rw [Traced.outcome_check_bind_eq_ok, requirePageBound_eq_ok, requirePageBound_eq_ok]

end CrudQuery.Query

namespace CrudQuery.Sql

/-! ## The checks -/

/-- A text that may stand where a projection may name every field. -/
def IsName (name : String) : Prop := name = "*" ∨ isIdentifier name = true

/-- A projected column that is accepted; an empty label is none. -/
structure AcceptedColumn (column : Projection) : Prop where
  name : IsName column.name
  label : ∀ label, column.label? = some label → label ≠ "" → isWord label.toList = true

/-- A condition whose words are accepted. -/
structure AcceptedCondition (condition : Condition) : Prop where
  field : isIdentifier condition.field = true
  parameter : isWord condition.parameter.toList = true

/-- A join that is accepted but for its raw text. -/
structure AcceptedJoin (join : Join) : Prop where
  kind : join.kind ∈ JoinKind.known
  target : isIdentifier join.target = true

/-- A sort key that is accepted. -/
structure AcceptedSortKey (key : SortKey) : Prop where
  field : isIdentifier key.field = true
  direction : key.direction = .ascending ∨ key.direction = .descending

/-- Every word of a query is accepted in its role. -/
structure WordsAccepted (query : Query) : Prop where
  target : isIdentifier query.target = true
  fields : ∀ field ∈ query.fields, AcceptedColumn field
  conditions : ∀ condition ∈ query.conditions ++ query.having, AcceptedCondition condition
  joins : ∀ join ∈ query.joins, AcceptedJoin join
  ordering : ∀ key ∈ query.ordering, AcceptedSortKey key
  grouping : ∀ field ∈ query.grouping, isIdentifier field = true
  rows : ∀ row ∈ query.insertRows, ∀ cell ∈ row, isIdentifier cell.field = true
  updates : ∀ cell ∈ query.assignments, isIdentifier cell.field = true
  returning : ∀ field ∈ query.returning, IsName field

theorem require_eq_ok {role : WordRole} {accepted : Bool} {word : String} :
    (require role accepted word).outcome = .ok () ↔ accepted = true := by
  unfold require
  cases accepted <;> simp

theorem requireIdentifierOrAll_eq_ok {s : String} :
    (requireIdentifierOrAll s).outcome = .ok () ↔ IsName s := by
  unfold requireIdentifierOrAll IsName
  rw [require_eq_ok]
  simp

theorem checkProjection_eq_ok {field : Projection} :
    (checkProjection field).outcome = .ok () ↔ AcceptedColumn field := by
  obtain ⟨name, label?⟩ := field
  unfold checkProjection
  rw [Traced.outcome_check_bind_eq_ok, requireIdentifierOrAll_eq_ok]
  cases label? with
  | none => exact ⟨fun h => ⟨h.1, by simp⟩, fun h => ⟨h.name, rfl⟩⟩
  | some label =>
    have hlabel : (if label.isEmpty then pure () else requireLabel label : Traced Unit).outcome =
        .ok () ↔ (label ≠ "" → isWord label.toList = true) := by
      by_cases h : label = "" <;> simp [h, requireLabel, require_eq_ok]
    refine ⟨fun h => ⟨h.1, fun _ hl => ?_⟩, fun h => ⟨h.name, hlabel.mpr (h.label label rfl)⟩⟩
    cases hl
    exact hlabel.mp h.2

theorem checkCondition_eq_ok {condition : Condition} :
    (checkCondition condition).outcome = .ok () ↔ AcceptedCondition condition := by
  unfold checkCondition requireIdentifier requireParameter
  rw [Traced.outcome_check_bind_eq_ok, require_eq_ok, require_eq_ok]
  exact ⟨fun h => ⟨h.1, h.2⟩, fun h => ⟨h.field, h.parameter⟩⟩

theorem checkJoin_eq_ok {join : Join} :
    (checkJoin join).outcome = .ok () ↔ AcceptedJoin join := by
  unfold checkJoin requireJoinKind requireIdentifier
  rw [Traced.outcome_check_bind_eq_ok, require_eq_ok, require_eq_ok, List.contains_iff_mem]
  exact ⟨fun h => ⟨h.1, h.2⟩, fun h => ⟨h.kind, h.target⟩⟩

theorem checkSortKey_eq_ok {key : SortKey} :
    (checkSortKey key).outcome = .ok () ↔ AcceptedSortKey key := by
  unfold checkSortKey requireIdentifier requireDirection
  rw [Traced.outcome_check_bind_eq_ok, require_eq_ok, require_eq_ok, Bool.or_eq_true, beq_iff_eq,
    beq_iff_eq]
  exact ⟨fun h => ⟨h.1, h.2⟩, fun h => ⟨h.field, h.direction⟩⟩

theorem checkRow_eq_ok {row : Row} :
    (checkRow row).outcome = .ok () ↔ ∀ cell ∈ row, isIdentifier cell.field = true := by
  unfold checkRow
  rw [Traced.outcome_forM_eq_ok]
  simp only [requireIdentifier, require_eq_ok]

/-- The checks pass iff every word is accepted in its role. -/
theorem checkWords_eq_ok {query : Query} :
    (checkWords query).outcome = .ok () ↔ WordsAccepted query := by
  unfold checkWords
  simp only [Traced.outcome_log_bind, Traced.outcome_check_bind_eq_ok, Traced.outcome_forM_eq_ok,
    checkProjection_eq_ok, checkCondition_eq_ok, checkJoin_eq_ok, checkSortKey_eq_ok,
    checkRow_eq_ok, requireIdentifierOrAll_eq_ok, requireIdentifier, require_eq_ok]
  constructor
  · rintro ⟨h₁, h₂, h₃, h₄, h₅, h₆, h₇, h₈, h₉⟩
    exact ⟨h₁, h₂, h₃, h₄, h₅, h₆, h₇, h₈, h₉⟩
  · rintro ⟨h₁, h₂, h₃, h₄, h₅, h₆, h₇, h₈, h₉⟩
    exact ⟨h₁, h₂, h₃, h₄, h₅, h₆, h₇, h₈, h₉⟩

/-- What is asked of a query before a statement is built. -/
structure Accepted (query : Query) : Prop where
  valid : query.violation? = none
  limit : ∀ value, query.limit? = some value → Query.isPageBound value = true
  offset : ∀ value, query.offset? = some value → Query.isPageBound value = true
  words : WordsAccepted query

/-! ## Parameters -/

namespace Parameters

theorem ext_bindings {p q : Parameters} (h : p.bindings = q.bindings) : p = q := by
  cases p; cases q; simp_all

/-- What was bound first is a set of parameters of its own. -/
theorem exists_of_append {p : Parameters} {earlier later : List Binding}
    (h : p.bindings = earlier ++ later) : ∃ q : Parameters, q.bindings = earlier := by
  have hn : (earlier.map Binding.name).Nodup := by
    have := p.names_nodup
    rw [h, List.map_append] at this
    exact (List.nodup_append.mp this).1
  exact ⟨⟨earlier, hn⟩, rfl⟩

theorem bind_eq_ok {p q : Parameters} {b : Binding} :
    p.bind b = .ok q ↔ q.bindings = p.bindings ++ [b] := by
  unfold bind
  split
  · next h =>
    -- The name is taken, and the names of `q` would not be different.
    refine ⟨fun e => absurd e (by simp), fun e => ?_⟩
    have hn := q.names_nodup
    rw [e, List.map_append, List.nodup_append] at hn
    exact absurd rfl (hn.2.2 b.name h b.name (by simp))
  · exact ⟨fun e => by cases e; rfl, fun e => congrArg _ (ext_bindings e.symm)⟩

/-- Bindings made one after another stand behind those there were. -/
theorem bindAll_eq_ok {p q : Parameters} {bs : List Binding} :
    p.bindAll bs = .ok q ↔ q.bindings = p.bindings ++ bs := by
  induction bs generalizing p with
  | nil =>
    rw [List.append_nil]
    exact ⟨fun e => by cases e; rfl, fun e => congrArg _ (ext_bindings e.symm)⟩
  | cons b rest ih =>
    change (p.bind b >>= fun r => r.bindAll rest) = .ok q ↔ _
    rw [Except.bind_eq_ok]
    constructor
    · rintro ⟨r, hr, h⟩
      rw [ih.mp h, bind_eq_ok.mp hr]
      simp
    · intro h
      have h' : q.bindings = (p.bindings ++ [b]) ++ rest := by simpa using h
      obtain ⟨r, hr⟩ := exists_of_append h'
      exact ⟨r, bind_eq_ok.mpr hr, ih.mpr (by rw [hr, h'])⟩

end Parameters

/-! ## Statements -/

/-- A link of a chain has the predicate of its condition, and a disjunction behind it iff the
connector of the condition is one. -/
def LinkFor (condition : Condition) (link : Link) : Prop :=
  (predicateOf condition).outcome = .ok link.predicate ∧ link.orNext = condition.connector.isOr

/-- A chain has the links of its conditions, in order. -/
abbrev ChainFor (conditions : List Condition) (chain : Chain) : Prop :=
  List.Forall₂ LinkFor conditions chain

/-- The tuples of rows numbered from some number on. -/
def tuplesFrom (number : Nat) (rows : List Row) : List (List Binding) :=
  (rows.zipIdx number).map fun numbered => numbered.1.map (cellBinding numbered.2)

/-- The statement of a query, which it has whether or not its parameters can be bound. -/
inductive StatementFor (query : Query) : Statement → Prop
  | select {filter having : Chain} (operation : query.operation = .select)
      (filtered : ChainFor query.conditions filter) (grouped : ChainFor query.having having) :
      StatementFor query (.select query.fields query.target query.joins filter query.grouping having
        query.ordering query.limit? query.offset?)
  | insert (operation : query.operation = .insert) (nonempty : query.insertColumns ≠ [])
      (uniform : ∀ row ∈ query.insertRows, row.columns = query.insertColumns) :
      StatementFor query (.insert query.target query.insertColumns (tuplesFrom 0 query.insertRows)
        query.returning)
  | update {filter : Chain} (operation : query.operation = .update)
      (filtered : ChainFor query.conditions filter) :
      StatementFor query (.update query.target (query.assignments.map cellAssignment) filter
        query.returning)
  | delete {filter : Chain} (operation : query.operation = .delete)
      (filtered : ChainFor query.conditions filter) :
      StatementFor query (.delete query.target filter query.returning)
  | count {filter : Chain} (operation : query.operation = .count)
      (filtered : ChainFor query.conditions filter) :
      StatementFor query (.count query.target filter)

/-- The kinds of query that have statements. -/
def kinds : List Operation := [.select, .insert, .update, .delete, .count]

/-- The bindings of a chain are made behind those there were. -/
theorem chainOf_eq_ok {p q : Parameters} {conditions : List Condition} {chain : Chain} :
    (chainOf p conditions).outcome = .ok (chain, q) ↔
      ChainFor conditions chain ∧ q.bindings = p.bindings ++ Chain.bindings chain := by
  induction conditions generalizing p chain with
  | nil =>
    simp only [chainOf, Traced.outcome_pure, Except.ok.injEq, Prod.mk.injEq]
    constructor
    · rintro ⟨rfl, rfl⟩
      exact ⟨.nil, by simp [Chain.bindings]⟩
    · rintro ⟨h, hq⟩
      cases h
      exact ⟨rfl, Parameters.ext_bindings (by simpa [Chain.bindings] using hq.symm)⟩
  | cons condition rest ih =>
    simp only [chainOf, Traced.outcome_bind_eq_ok, Traced.outcome_ofExcept, Traced.outcome_pure,
      Parameters.bindAll_eq_ok]
    constructor
    · rintro ⟨predicate, hpredicate, r, hr, ⟨links, s⟩, hlinks, h⟩
      cases h
      obtain ⟨hchain, hs⟩ := ih.mp hlinks
      refine ⟨.cons ⟨hpredicate, rfl⟩ hchain, ?_⟩
      rw [hs, hr, List.append_assoc]
      rfl
    · rintro ⟨hchain, hq⟩
      -- All names are different, so those of the first predicate are, and they bind on their own.
      cases hchain with
      | @cons _ link _ links hlink hlinks =>
        have hq' : q.bindings =
            (p.bindings ++ link.predicate.bindings) ++ Chain.bindings links := by
          rw [hq, List.append_assoc]
          rfl
        obtain ⟨r, hr⟩ := Parameters.exists_of_append hq'
        refine ⟨link.predicate, hlink.1, r, hr, (links, q), ih.mpr ⟨hlinks, by rw [hr, hq']⟩, ?_⟩
        rw [← hlink.2]

theorem requireColumns_eq_ok {expected : List String} {number : Nat} {row : Row} :
    (requireColumns expected number row).outcome = .ok () ↔ row.columns = expected := by
  unfold requireColumns
  split <;> simp [*]

/-- The bindings of rows are made row by row behind those there were. -/
theorem tuplesOf_eq_ok {columns : List String} {p q : Parameters} {number : Nat} {rows : List Row}
    {tuples : List (List Binding)} :
    (tuplesOf columns p number rows).outcome = .ok (tuples, q) ↔
      (∀ row ∈ rows, row.columns = columns) ∧ tuples = tuplesFrom number rows ∧
        q.bindings = p.bindings ++ tuples.flatten := by
  induction rows generalizing p number tuples with
  | nil =>
    simp only [tuplesOf, Traced.outcome_pure, Except.ok.injEq, Prod.mk.injEq]
    constructor
    · rintro ⟨rfl, rfl⟩
      simp [tuplesFrom]
    · rintro ⟨-, rfl, hq⟩
      exact ⟨rfl, Parameters.ext_bindings (by simpa [tuplesFrom] using hq.symm)⟩
  | cons row rest ih =>
    rw [tuplesOf, Traced.outcome_check_bind_eq_ok, requireColumns_eq_ok]
    simp only [Traced.outcome_bind_eq_ok, Traced.outcome_ofExcept, Traced.outcome_pure,
      Parameters.bindAll_eq_ok, List.forall_mem_cons]
    constructor
    · rintro ⟨hrow, r, hr, ⟨others, s⟩, hothers, h⟩
      cases h
      obtain ⟨hrest, rfl, hs⟩ := ih.mp hothers
      refine ⟨⟨hrow, hrest⟩, by simp [tuplesFrom, List.zipIdx_cons], ?_⟩
      rw [hs, hr, List.flatten_cons, List.append_assoc]
    · rintro ⟨⟨hrow, hrest⟩, rfl, hq⟩
      have hq' : q.bindings = (p.bindings ++ row.map (cellBinding number)) ++
          (tuplesFrom (number + 1) rest).flatten := by
        rw [hq]
        simp [tuplesFrom, List.zipIdx_cons]
      obtain ⟨r, hr⟩ := Parameters.exists_of_append hq'
      exact ⟨hrow, r, hr, (tuplesFrom (number + 1) rest, q), ih.mpr ⟨hrest, rfl, by rw [hr, hq']⟩,
        by simp [tuplesFrom, List.zipIdx_cons]⟩

theorem selectOf_eq_ok {query : Query} {statement : Statement} {p : Parameters} :
    (selectOf query).outcome = .ok (statement, p) ↔
      ∃ filter having, ChainFor query.conditions filter ∧ ChainFor query.having having ∧
        statement = .select query.fields query.target query.joins filter query.grouping having
          query.ordering query.limit? query.offset? ∧
        p.bindings = statement.bindings := by
  simp only [selectOf, Traced.outcome_bind_eq_ok, Traced.outcome_pure]
  constructor
  · rintro ⟨⟨filter, q⟩, hfilter, ⟨having, r⟩, hhaving, h⟩
    cases h
    obtain ⟨hf, hq⟩ := chainOf_eq_ok.mp hfilter
    obtain ⟨hh, hr⟩ := chainOf_eq_ok.mp hhaving
    refine ⟨filter, having, hf, hh, rfl, ?_⟩
    rw [hr, hq]
    rfl
  · rintro ⟨filter, having, hf, hh, rfl, hp⟩
    obtain ⟨q, hq⟩ := Parameters.exists_of_append hp
    exact ⟨(filter, q), chainOf_eq_ok.mpr ⟨hf, hq⟩, (having, p),
      chainOf_eq_ok.mpr ⟨hh, by rw [hq]; exact hp⟩, rfl⟩

theorem insertOf_eq (query : Query) :
    insertOf query =
      if query.insertColumns.isEmpty then Traced.fail .emptyRow
      else
        tuplesOf query.insertColumns .empty 0 query.insertRows >>= fun made =>
          pure (Statement.insert query.target query.insertColumns made.1 query.returning, made.2) :=
  rfl

theorem insertOf_eq_ok {query : Query} {statement : Statement} {p : Parameters} :
    (insertOf query).outcome = .ok (statement, p) ↔
      query.insertColumns ≠ [] ∧ (∀ row ∈ query.insertRows, row.columns = query.insertColumns) ∧
        statement = .insert query.target query.insertColumns (tuplesFrom 0 query.insertRows)
          query.returning ∧
        p.bindings = statement.bindings := by
  rw [insertOf_eq]
  cases h : query.insertColumns.isEmpty with
  | true => simp [List.isEmpty_iff.mp h]
  | false =>
    have hne : query.insertColumns ≠ [] := by simpa using h
    simp only [Bool.false_eq_true, if_false, Traced.outcome_bind_eq_ok, Traced.outcome_pure]
    constructor
    · rintro ⟨⟨tuples, q⟩, htuples, h⟩
      cases h
      obtain ⟨huniform, rfl, hq⟩ := tuplesOf_eq_ok.mp htuples
      exact ⟨hne, huniform, rfl, hq⟩
    · rintro ⟨-, huniform, rfl, hp⟩
      exact ⟨(_, p), tuplesOf_eq_ok.mpr ⟨huniform, rfl, hp⟩, rfl⟩

theorem updateOf_eq_ok {query : Query} {statement : Statement} {p : Parameters} :
    (updateOf query).outcome = .ok (statement, p) ↔
      ∃ filter, ChainFor query.conditions filter ∧
        statement = .update query.target (query.assignments.map cellAssignment) filter
          query.returning ∧
        p.bindings = statement.bindings := by
  simp only [updateOf, Traced.outcome_bind_eq_ok, Traced.outcome_ofExcept, Traced.outcome_pure,
    Parameters.bindAll_eq_ok]
  constructor
  · rintro ⟨q, hq, ⟨filter, r⟩, hfilter, h⟩
    cases h
    obtain ⟨hf, hr⟩ := chainOf_eq_ok.mp hfilter
    refine ⟨filter, hf, rfl, ?_⟩
    rw [hr, hq]
    rfl
  · rintro ⟨filter, hf, rfl, hp⟩
    obtain ⟨q, hq⟩ := Parameters.exists_of_append hp
    exact ⟨q, hq, (filter, p), chainOf_eq_ok.mpr ⟨hf, by rw [hq]; exact hp⟩, rfl⟩

theorem deleteOf_eq_ok {query : Query} {statement : Statement} {p : Parameters} :
    (deleteOf query).outcome = .ok (statement, p) ↔
      ∃ filter, ChainFor query.conditions filter ∧
        statement = .delete query.target filter query.returning ∧
        p.bindings = statement.bindings := by
  simp only [deleteOf, Traced.outcome_bind_eq_ok, Traced.outcome_pure]
  constructor
  · rintro ⟨⟨filter, q⟩, hfilter, h⟩
    cases h
    obtain ⟨hf, hq⟩ := chainOf_eq_ok.mp hfilter
    exact ⟨filter, hf, rfl, hq⟩
  · rintro ⟨filter, hf, rfl, hp⟩
    exact ⟨(filter, p), chainOf_eq_ok.mpr ⟨hf, hp⟩, rfl⟩

theorem countOf_eq_ok {query : Query} {statement : Statement} {p : Parameters} :
    (countOf query).outcome = .ok (statement, p) ↔
      ∃ filter, ChainFor query.conditions filter ∧ statement = .count query.target filter ∧
        p.bindings = statement.bindings := by
  simp only [countOf, Traced.outcome_bind_eq_ok, Traced.outcome_pure]
  constructor
  · rintro ⟨⟨filter, q⟩, hfilter, h⟩
    cases h
    obtain ⟨hf, hq⟩ := chainOf_eq_ok.mp hfilter
    exact ⟨filter, hf, rfl, hq⟩
  · rintro ⟨filter, hf, rfl, hp⟩
    exact ⟨(filter, p), chainOf_eq_ok.mpr ⟨hf, hp⟩, rfl⟩

/-- A query has a statement and parameters iff the parameters are the bindings of its statement. -/
theorem statementOf_eq_ok {query : Query} {statement : Statement} {p : Parameters} :
    (statementOf query).outcome = .ok (statement, p) ↔
      StatementFor query statement ∧ p.bindings = statement.bindings := by
  unfold statementOf
  constructor
  · intro h
    split at h
    · next ho =>
      obtain ⟨filter, having, hf, hh, rfl, hp⟩ := selectOf_eq_ok.mp h
      exact ⟨.select ho hf hh, hp⟩
    · next ho =>
      obtain ⟨hne, huniform, rfl, hp⟩ := insertOf_eq_ok.mp h
      exact ⟨.insert ho hne huniform, hp⟩
    · next ho =>
      obtain ⟨filter, hf, rfl, hp⟩ := updateOf_eq_ok.mp h
      exact ⟨.update ho hf, hp⟩
    · next ho =>
      obtain ⟨filter, hf, rfl, hp⟩ := deleteOf_eq_ok.mp h
      exact ⟨.delete ho hf, hp⟩
    · next ho =>
      obtain ⟨filter, hf, rfl, hp⟩ := countOf_eq_ok.mp h
      exact ⟨.count ho hf, hp⟩
    · simp at h
  · rintro ⟨hs, hp⟩
    cases hs with
    | select ho hf hh => rw [ho]; exact selectOf_eq_ok.mpr ⟨_, _, hf, hh, rfl, hp⟩
    | insert ho hne huniform => rw [ho]; exact insertOf_eq_ok.mpr ⟨hne, huniform, rfl, hp⟩
    | update ho hf => rw [ho]; exact updateOf_eq_ok.mpr ⟨_, hf, rfl, hp⟩
    | delete ho hf => rw [ho]; exact deleteOf_eq_ok.mpr ⟨_, hf, rfl, hp⟩
    | count ho hf => rw [ho]; exact countOf_eq_ok.mpr ⟨_, hf, rfl, hp⟩

/-- **Compilation, taken apart.** -/
theorem compile_eq_ok {query : Query} {statement : Statement} {p : Parameters} :
    (compile query).outcome = .ok (statement, p) ↔
      Accepted query ∧ StatementFor query statement ∧ p.bindings = statement.bindings := by
  unfold compile
  simp only [Traced.outcome_log_bind, Traced.outcome_check_bind_eq_ok, Query.requireValid_eq_ok,
    Query.requirePageBounds_eq_ok, checkWords_eq_ok]
  constructor
  · rintro ⟨hvalid, ⟨hlimit, hoffset⟩, hwords, h⟩
    obtain ⟨⟨s, q⟩, hs, h⟩ := Traced.outcome_bind_eq_ok.mp h
    cases h
    exact ⟨⟨hvalid, hlimit, hoffset, hwords⟩, statementOf_eq_ok.mp hs⟩
  · rintro ⟨⟨hvalid, hlimit, hoffset, hwords⟩, hs⟩
    exact ⟨hvalid, ⟨hlimit, hoffset⟩, hwords,
      Traced.outcome_bind_eq_ok.mpr ⟨_, statementOf_eq_ok.mpr hs, rfl⟩⟩

/-- A query renders to the text of its statement, with the bindings of that statement. -/
theorem render_eq_ok {quoting : Quoting} {query : Query} {rendered : Rendered} :
    (render quoting query).outcome = .ok rendered ↔
      Accepted query ∧ ∃ statement, StatementFor query statement ∧
        rendered.text = statement.text quoting ∧
        rendered.parameters.bindings = statement.bindings := by
  unfold render
  rw [Traced.outcome_bind_eq_ok]
  constructor
  · rintro ⟨⟨statement, p⟩, hc, h⟩
    cases h
    obtain ⟨ha, hs, hp⟩ := compile_eq_ok.mp hc
    exact ⟨ha, statement, hs, rfl, hp⟩
  · rintro ⟨ha, statement, hs, ht, hp⟩
    refine ⟨(statement, rendered.parameters), compile_eq_ok.mpr ⟨ha, hs, hp⟩, ?_⟩
    rw [Traced.outcome_pure, ← ht]

end CrudQuery.Sql
