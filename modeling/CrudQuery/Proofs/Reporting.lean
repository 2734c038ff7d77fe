import CrudQuery.Proofs.Catalog.Resolution
import CrudQuery.Proofs.DocumentStore.Refusal

/-! # Which faults are said as errors

A check that refuses something says so as an error before it fails, in the name of the part it
belongs to.  Not every check does: those of operands and of bindings have no name to speak in, and
some that have one are silent too.  `Fault.reporter?` lists who says what.

A computation `Reports` if it says an error for each fault that has a reporter, once and in the
name of the reporter, and none for any other reason.  Computations that report can be put one
after another (`Reports.bind`), so that rendering and the queries of a catalog report because
their steps do (`faults_reported`).  A fault without a reporter is then one that nobody ever hears
of as an error (`Heard`), and the first row of an insert can have such a fault
(`emptyRow_unreported`), although a later row of the same insert cannot.
-/

namespace CrudQuery

/-- The part of the library that says a fault as an error, if there is one. -/
def Fault.reporter? : Fault → Option String
  | invalidPageBound .. => some Query.validityContext
  | invalidWord .. => some Sql.checkContext
  | unsupportedOperator .sql _ | mismatchedRow .. => some Sql.renderContext
  | unsupportedClause _ => some DocumentStore.renderContext
  | unsupportedDirective .. | duplicateTenant .. => some Catalog.catalogContext
  | invalid _ | unsupportedOperator .documents _ | unsupportedOperation _ | malformedPair _
  | malformedList .. | malformedPattern .. | emptyRow | duplicateParameter _
  | noUpdatableColumns _ => none

/-- Every severity passes the lowest threshold. -/
theorem Log.passes_all (severity : Log.Severity) : Log.passes Log.all severity.level = true := by
  cases severity <;> decide +kernel

namespace Traced
variable {α β : Type}

/-- What a logger of some threshold is given by a computation. -/
def entries (threshold : Float) (x : Traced α) : List Log.Message :=
  x.messages.filter fun message => Log.passes threshold message.severity.level

/-- The parts that say something as an error to a logger that is given everything, in order. -/
def errors (x : Traced α) : List (Option String) :=
  ((x.entries Log.all).filter fun message => message.severity = .error).map Log.Message.context?

/-- A computation says an error for each fault that has a reporter, and no other. -/
structure Reports (x : Traced α) : Prop where
  /-- No error is said on the way to a result. -/
  quiet : ∀ a, x.outcome = .ok a → x.errors = []
  /-- A fault is said as an error once, by its reporter. -/
  once : ∀ fault, x.outcome = .error fault → x.errors = fault.reporter?.toList.map some

/-! ## Computations that report -/

theorem errors_eq (x : Traced α) :
    x.errors =
      (x.messages.filter fun message => message.severity = .error).map Log.Message.context? := by
  have hall : x.entries Log.all = x.messages :=
    List.filter_eq_self.mpr fun message _ => Log.passes_all message.severity
  rw [errors, hall]

theorem errors_bind_of_ok {x : Traced α} {a : α} (h : x.outcome = .ok a) (f : α → Traced β) :
    (x >>= f).errors = x.errors ++ (f a).errors := by
  have hmessages : (x >>= f).messages = x.messages ++ (f a).messages := by
    rw [bind_def, andThen, h]
  rw [errors_eq, errors_eq, errors_eq, hmessages, List.filter_append, List.map_append]

theorem errors_bind_of_error {x : Traced α} {fault : Fault} (h : x.outcome = .error fault)
    (f : α → Traced β) : (x >>= f).errors = x.errors := by
  have hmessages : (x >>= f).messages = x.messages := by rw [bind_def, andThen, h]
  rw [errors_eq, errors_eq, hmessages]

theorem reports_pure (a : α) : Reports (pure a : Traced α) := ⟨fun _ _ => rfl, nofun⟩

/-- What says no error reports if all its faults lack a reporter. -/
theorem reports_of_errors_eq_nil {x : Traced α} (hx : x.errors = [])
    (h : x.FailsWith fun fault => fault.reporter? = none) : Reports x := by
  refine ⟨fun _ _ => hx, fun fault hfault => ?_⟩
  rw [hx, h fault hfault]
  rfl

theorem reports_fail {fault : Fault} (h : fault.reporter? = none) :
    Reports (fail fault : Traced α) :=
  reports_of_errors_eq_nil rfl (failsWith_fail h)

/-- The reporter of a fault says it as an error and then fails. -/
theorem reports_said {fault : Fault} {context : String} (h : fault.reporter? = some context)
    (text : String) (data : List (String × Document)) :
    Reports (log context .error text data >>= fun _ => fail fault : Traced α) := by
  refine ⟨nofun, fun other hother => ?_⟩
  cases hother
  rw [errors_eq, h]
  rfl

theorem Reports.bind {x : Traced α} {f : α → Traced β} (hx : Reports x)
    (hf : ∀ a, Reports (f a)) : Reports (x >>= f) := by
  -- Behind a result the messages of both parts count, but the first part has said no error.
  constructor
  · intro b h
    obtain ⟨a, ha, hb⟩ := outcome_bind_eq_ok.mp h
    rw [errors_bind_of_ok ha, hx.quiet a ha, (hf a).quiet b hb, List.nil_append]
  · intro fault h
    rcases outcome_bind_eq_error.mp h with h | ⟨a, ha, h⟩
    · rw [errors_bind_of_error h, hx.once fault h]
    · rw [errors_bind_of_ok ha, hx.quiet a ha, (hf a).once fault h, List.nil_append]

/-- What is not said as an error is no report of anything. -/
theorem reports_log (context : String) {severity : Log.Severity} (h : severity ≠ .error)
    (text : String) (data : List (String × Document)) :
    Reports (log context severity text data) := by
  refine ⟨fun _ _ => ?_, nofun⟩
  rw [errors_eq]
  simp [log, say, h]

theorem closed_reports : Closed fun _ => Reports :=
  ⟨reports_pure, fun _ _ _ => reports_log _ (by decide) _ _, Reports.bind⟩

/-- A computation reports, and so a fault is heard of as an error iff it has a reporter. -/
structure Heard (x : Traced α) : Prop extends Reports x where
  heard : ∀ fault, x.outcome = .error fault →
    ((∃ entry ∈ x.entries Log.all, entry.severity = .error) ↔ fault.reporter? ≠ none)

theorem Reports.heard {x : Traced α} (h : Reports x) : Heard x := by
  refine ⟨h, fun fault hfault => ?_⟩
  have honce := h.once fault hfault
  rw [errors] at honce
  constructor
  · rintro ⟨entry, hentry, hseverity⟩ hnone
    rw [hnone] at honce
    have hsaid := List.filter_eq_nil_iff.mp (List.map_eq_nil_iff.mp honce) entry hentry
    exact hsaid (decide_eq_true hseverity)
  · intro hsome
    obtain ⟨context, hcontext⟩ := Option.ne_none_iff_exists'.mp hsome
    have hmem : some context ∈ fault.reporter?.toList.map some := by simp [hcontext]
    rw [← honce] at hmem
    obtain ⟨entry, hentry, -⟩ := List.mem_map.mp hmem
    obtain ⟨hentry, hseverity⟩ := List.mem_filter.mp hentry
    exact ⟨entry, hentry, of_decide_eq_true hseverity⟩

end Traced

open Traced

/-! ## The checks of a query -/

namespace Query
variable (query : Query)

/-- A requirement that is broken is warned about. -/
theorem reports_inspect : Reports query.inspect := by
  unfold inspect
  split
  · exact reports_pure _
  · exact (reports_log _ (by decide) _ _).bind fun _ => reports_pure _

theorem reports_requireValid : Reports query.requireValid := by
  unfold requireValid
  refine (reports_inspect query).bind fun violation? => ?_
  split
  · exact reports_pure _
  · exact reports_fail rfl

theorem reports_requirePageBounds : Reports query.requirePageBounds := by
  have hbound : ∀ bound value?, Reports (requirePageBound bound value?) := by
    intro bound value?
    unfold requirePageBound
    split
    · exact reports_pure _
    · split
      · exact reports_pure _
      · exact reports_said rfl _ _
  exact (hbound _ _).bind fun _ => hbound _ _

end Query

/-! ## Tables -/

namespace Sql

theorem reports_require (role : WordRole) (accepted : Bool) (word : String) :
    Reports (require role accepted word) := by
  unfold require
  split
  · exact reports_pure _
  · exact reports_said rfl _ _

/-- An operand that is malformed is not said. -/
theorem reports_predicateOf (condition : Condition) : Reports (predicateOf condition) := by
  have hpattern : Reports (ofExcept condition.pattern) :=
    reports_of_errors_eq_nil rfl fun fault h => by rw [pattern_eq_error h]; rfl
  have hmembers : Reports (ofExcept condition.members) :=
    reports_of_errors_eq_nil rfl fun fault h => by rw [members_eq_error h]; rfl
  have hbounds : Reports (ofExcept condition.bounds) :=
    reports_of_errors_eq_nil rfl fun fault h => by rw [bounds_eq_error h]; rfl
  unfold predicateOf
  cases condition.operator
  case equal | notEqual | greater | greaterOrEqual | less | lessOrEqual | isNull | isNotNull =>
    exact reports_pure _
  case like | regex => exact hpattern.bind fun _ => reports_pure _
  case memberOf | notMemberOf => exact hmembers.bind fun _ => reports_pure _
  case between => exact hbounds.bind fun _ => reports_pure _
  case isPresent | other => exact reports_said rfl _ _

/-- A name that is bound twice is not said. -/
theorem reports_bindAll (parameters : Parameters) (bindings : List Binding) :
    Reports (ofExcept (parameters.bindAll bindings)) := by
  refine reports_of_errors_eq_nil rfl fun fault h => ?_
  obtain ⟨_, taken, _, -, -, -, rfl⟩ := bindAll_eq_error h
  rfl

theorem reports_chainOf (parameters : Parameters) (conditions : List Condition) :
    Reports (chainOf parameters conditions) := by
  induction conditions generalizing parameters with
  | nil => exact reports_pure _
  | cons condition rest ih =>
    refine (reports_predicateOf condition).bind fun _ => ?_
    exact (reports_bindAll _ _).bind fun _ => (ih _).bind fun _ => reports_pure _

theorem reports_tuplesOf (columns : List String) (parameters : Parameters) (number : Nat)
    (rows : List Row) : Reports (tuplesOf columns parameters number rows) := by
  refine holds_tuplesOf closed_reports (fun number row => ?_) reports_bindAll _ _ _
  unfold requireColumns
  split
  · exact reports_pure _
  · exact reports_said rfl _ _

/-- A first row without columns is not said. -/
theorem reports_insertOf (query : Query) : Reports (insertOf query) := by
  rw [insertOf_eq]
  split
  · exact reports_fail rfl
  · exact (reports_tuplesOf _ _ _ _).bind fun _ => reports_pure _

theorem reports_statementOf (query : Query) : Reports (statementOf query) := by
  have hchain := reports_chainOf
  unfold statementOf
  split
  case h_1 => exact (hchain _ _).bind fun _ => (hchain _ _).bind fun _ => reports_pure _
  case h_2 => exact reports_insertOf query
  case h_3 =>
    -- An update binds its assignments before its conditions.
    exact (reports_bindAll _ _).bind fun _ => (hchain _ _).bind fun _ => reports_pure _
  case h_6 => exact reports_fail rfl
  all_goals exact (hchain _ _).bind fun _ => reports_pure _

theorem reports_render (quoting : Quoting) (query : Query) : Reports (render quoting query) := by
  have hcompile : Reports (compile query) := by
    refine (closed_reports.debug _ _ _).bind fun _ => ?_
    refine (Query.reports_requireValid query).bind fun _ => ?_
    refine (Query.reports_requirePageBounds query).bind fun _ => ?_
    refine (holds_checkWords closed_reports reports_require query).bind fun _ => ?_
    refine (reports_statementOf query).bind fun _ => ?_
    exact (closed_reports.debug _ _ _).bind fun _ => reports_pure _
  exact hcompile.bind fun _ => reports_pure _

end Sql

/-! ## Documents -/

namespace DocumentStore

theorem reports_refuseRelationalClauses (query : Query) :
    Reports (refuseRelationalClauses query) := by
  have hclause : ∀ clause isAbsent, Reports (refuseClause query.target clause isAbsent) := by
    intro clause isAbsent
    unfold refuseClause
    split
    · exact reports_pure _
    · exact reports_said rfl _ _
  exact (hclause _ _).bind fun _ => (hclause _ _).bind fun _ => hclause _ _

/-- A condition that has no test is not said. -/
theorem reports_filterOf (disjunction : Disjunction) (conditions : List Condition) :
    Reports (filterOf disjunction conditions) := by
  refine reports_of_errors_eq_nil ?_ (failsWith_filterOf (fun condition fault h => ?_) _ _)
  · rw [errors_eq]
    unfold filterOf
    split <;> rfl
  · rcases testOf_eq_error h with rfl | rfl | rfl | rfl <;> rfl

theorem reports_render (disjunction : Disjunction) (query : Query) :
    Reports (render disjunction query) := by
  have hcommand : Reports (commandOf disjunction query) := by
    have hfilter := reports_filterOf disjunction query.conditions
    unfold commandOf
    split
    case h_2 => exact reports_pure _
    case h_6 => exact reports_fail rfl
    all_goals exact hfilter.bind fun _ => reports_pure _
  refine (closed_reports.debug _ _ _).bind fun _ => ?_
  refine (Query.reports_requireValid query).bind fun _ => ?_
  refine (Query.reports_requirePageBounds query).bind fun _ => ?_
  refine (reports_refuseRelationalClauses query).bind fun _ => ?_
  refine hcommand.bind fun _ => ?_
  exact (closed_reports.debug _ _ _).bind fun _ => reports_pure _

end DocumentStore

/-! ## Catalogs -/

namespace Catalog

theorem reports_resolveColumn (field : EntityField) (column : String) :
    Reports (resolveColumn field column) := by
  have hdirective : ∀ text, Reports (requireDirective column text) := by
    intro text
    unfold requireDirective
    split
    · exact reports_pure _
    · exact reports_said rfl _ _
  exact (closed_reports.mapM fun text _ => hdirective text).bind fun _ => reports_pure _

theorem reports_resolve (entity : Entity) : Reports (resolve entity) := by
  have hfields : ∀ fields, Reports (resolveFields fields) := by
    intro fields
    induction fields with
    | nil => exact reports_pure _
    | cons field rest ih =>
      unfold resolveFields
      split
      · exact ih
      · exact (reports_resolveColumn _ _).bind fun _ => ih.bind fun _ => reports_pure _
  refine (hfields _).bind fun fields => ?_
  change Reports (if (tenantColumns fields).length > 1 then _ else _)
  split
  · exact reports_said rfl _ _
  · exact reports_pure _

/-- An update that would have nothing to set is not said. -/
theorem reports_composed (entity : Entity) (fields : List Resolved) (verb : Verb) :
    Reports (composed entity fields verb) := by
  unfold composed
  split
  · exact reports_fail rfl
  · refine Reports.bind ?_ fun built => ?_
    · refine (Query.reports_inspect _).bind fun violation? => ?_
      split <;> exact reports_pure _
    · split
      · exact reports_fail rfl
      · exact reports_pure _

theorem reports_defaultQuery (entity : Entity) (verb : Verb) :
    Reports (defaultQuery entity verb) :=
  (reports_resolve entity).bind fun _ => reports_composed _ _ _

end Catalog

/-- **Faults are said by the parts that have them**, as far as these say errors at all: whatever is
rendered, and whatever query an entity is asked for, an error is said iff there is a fault with a
reporter, and then once and by the reporter. -/
theorem faults_reported (quoting : Sql.Quoting) (disjunction : DocumentStore.Disjunction)
    (query : Query) (entity : Catalog.Entity) (verb : Catalog.Verb) :
    Heard (Sql.render quoting query) ∧ Heard (DocumentStore.render disjunction query) ∧
      Heard (Catalog.defaultQuery entity verb) :=
  ⟨(Sql.reports_render quoting query).heard,
    (DocumentStore.reports_render disjunction query).heard,
    (Catalog.reports_defaultQuery entity verb).heard⟩

/-- An insert can be refused for its first row, and nothing is said as an error. -/
theorem emptyRow_unreported :
    ¬∀ (quoting : Sql.Quoting) (query : Query) (fault : Fault),
      (Sql.render quoting query).outcome = .error fault → fault.family = .rendering →
        ∃ entry ∈ (Sql.render quoting query).entries Log.all, entry.severity = .error := by
  intro h
  have hrefused : (Sql.render .plain
      { Query.blank .insert "users" with rows? := some [[]] }).outcome = .error .emptyRow := by rfl
  have hheard := h .plain _ .emptyRow hrefused rfl
  exact ((Sql.reports_render .plain _).heard.heard _ hrefused).mp hheard rfl

end CrudQuery
