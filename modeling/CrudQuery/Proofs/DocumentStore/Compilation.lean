import CrudQuery.DocumentStore.Render
import CrudQuery.Proofs.Sql.Compilation

/-! # What a command is made of

A query that is rendered for documents has passed the checks that every backend makes, has none of
the clauses that only tables have, and its command is the one of its operation.  No word is checked
on the way.
-/

namespace CrudQuery.DocumentStore

/-- What is asked of a query before a command is made. -/
structure Accepted (query : Query) : Prop where
  valid : query.violation? = none
  limit : ∀ value, query.limit? = some value → Query.isPageBound value = true
  offset : ∀ value, query.offset? = some value → Query.isPageBound value = true
  joins : query.joins = []
  grouping : query.grouping = []
  having : query.having = []

theorem refuseClause_eq_ok {target : String} {clause : RelationalClause} {isAbsent : Bool} :
    (refuseClause target clause isAbsent).outcome = .ok () ↔ isAbsent = true := by
  unfold refuseClause
  cases isAbsent <;> simp

theorem refuseRelationalClauses_eq_ok {query : Query} :
    (refuseRelationalClauses query).outcome = .ok () ↔
      query.joins = [] ∧ query.grouping = [] ∧ query.having = [] := by
  unfold refuseRelationalClauses
  simp only [Traced.outcome_check_bind_eq_ok, refuseClause_eq_ok, List.isEmpty_iff]

/-- **Rendering, taken apart.** -/
theorem render_eq_ok {disjunction : Disjunction} {query : Query} {command : Command} :
    (render disjunction query).outcome = .ok command ↔
      Accepted query ∧ (commandOf disjunction query).outcome = .ok command := by
  unfold render
  simp only [Traced.outcome_log_bind, Traced.outcome_check_bind_eq_ok, Query.requireValid_eq_ok,
    Query.requirePageBounds_eq_ok, refuseRelationalClauses_eq_ok]
  constructor
  · rintro ⟨hvalid, ⟨hlimit, hoffset⟩, ⟨hjoins, hgrouping, hhaving⟩, h⟩
    obtain ⟨made, hmade, h⟩ := Traced.outcome_bind_eq_ok.mp h
    cases h
    exact ⟨⟨hvalid, hlimit, hoffset, hjoins, hgrouping, hhaving⟩, hmade⟩
  · rintro ⟨ha, hmade⟩
    exact ⟨ha.valid, ⟨ha.limit, ha.offset⟩, ⟨ha.joins, ha.grouping, ha.having⟩,
      Traced.outcome_bind_eq_ok.mpr ⟨command, hmade, rfl⟩⟩

/-- The command of a select has the options that its query asks for. -/
theorem find_of_render {disjunction : Disjunction} {query : Query} {command : Command}
    (ho : query.operation = .select) (h : (render disjunction query).outcome = .ok command) :
    ∃ filter, command = .find query.target filter
      ⟨projection? query.fields, sort? query.ordering, query.limit?, query.offset?⟩ := by
  have hmade := (render_eq_ok.mp h).2
  unfold commandOf at hmade
  rw [ho] at hmade
  obtain ⟨filter, -, hmade⟩ := Traced.outcome_bind_eq_ok.mp hmade
  cases hmade
  exact ⟨filter, rfl⟩

/-- What a command has under a key of its options. -/
def Command.option? (command : Command) (key : String) : Option Document :=
  match command.arguments.lookup "options" with
  | some (.object members) => members.lookup key
  | _ => none

/-- The options of a call that finds are those that are set. -/
theorem option?_find (collection : String) (filter : Filter) (options : FindOptions) :
    (Command.find collection filter options).option? "projection" =
        options.projection?.map (.ofRecord fun _ => .number 1) ∧
      (Command.find collection filter options).option? "sort" =
        options.sort?.map (.ofRecord SortWay.document) := by
  obtain ⟨projection?, sort?, limit?, skip?⟩ := options
  cases projection? <;> cases sort? <;> cases limit? <;> cases skip? <;> exact ⟨rfl, rfl⟩

end CrudQuery.DocumentStore
