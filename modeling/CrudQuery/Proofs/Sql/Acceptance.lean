import CrudQuery.Proofs.Sql.Layout

/-! # When a query renders, and why it does not

Six groups of requirements decide whether a query renders: its structure, its page bounds, its
words, its operation, the form of what its statement says, and the names it binds.  Each is stated
here on the query itself (`Renderable`), apart from the walk that checks it; `exists_render_iff`
says that together they are what rendering needs.

The first three groups are looked at one after another before anything is built, so a query that
breaks one of them is refused for the first that it breaks.  Behind them the statement is built and
its values are bound in one walk, and which fault comes first depends on where it stands: a name
that is bound twice, a row, or the first condition that has no predicate (`statementOf_eq_error`).
Its kind is what can be said of it in general (`RefusedWith`).
-/

namespace CrudQuery

theorem Fault.family_eq_validation_iff {fault : Fault} :
    fault.family = .validation ↔ ∃ violation, fault = .invalid violation := by
  cases fault <;> simp [family]

namespace Query

/-- Page bounds that are there are natural numbers. -/
structure NaturalPages (query : Query) : Prop where
  limit : ∀ value, query.limit? = some value → ∃ n : Nat, Number.toInt? value = some (n : Int)
  offset : ∀ value, query.offset? = some value → ∃ n : Nat, Number.toInt? value = some (n : Int)

/-- The conditions that the statement of a query writes. -/
def writtenConditions (query : Query) : List Condition :=
  match query.operation with
  | .select => query.conditions ++ query.having
  | .update | .delete | .count => query.conditions
  | .insert | .other _ => []

/-- The conditions that are written are among those that are checked. -/
theorem writtenConditions_subset (query : Query) :
    query.writtenConditions ⊆ query.conditions ++ query.having := by
  unfold writtenConditions
  split <;> simp

theorem requirePageBounds_eq_ok_iff_natural {query : Query} :
    query.requirePageBounds.outcome = .ok () ↔ query.NaturalPages := by
  simp only [requirePageBounds_eq_ok, isPageBound_iff]
  exact ⟨fun h => ⟨h.1, h.2⟩, fun h => ⟨h.limit, h.offset⟩⟩

/-- A violation that is found is the fault. -/
theorem requireValid_eq_error {query : Query} {fault : Fault} :
    query.requireValid.outcome = .error fault ↔
      ∃ violation, query.violation? = some violation ∧ fault = .invalid violation := by
  unfold requireValid inspect
  cases query.violation? with
  | none => simp
  | some violation => simp [eq_comm]

theorem failsWith_requirePageBounds (query : Query) :
    query.requirePageBounds.FailsWith (fun fault => fault.kind = "InvalidPagination") := by
  have hbound : ∀ bound value?, (requirePageBound bound value?).FailsWith
      (fun fault => fault.kind = "InvalidPagination") := by
    intro bound value?
    unfold requirePageBound
    cases value? with
    | none => exact Traced.failsWith_pure _
    | some value =>
      dsimp only
      split
      · exact Traced.failsWith_pure _
      · refine (Traced.failsWith_fail ?_).after_log _ _ _ _
        rfl
  exact (hbound _ _).bind fun _ => hbound _ _

end Query

namespace Sql

/-! ## What a statement needs -/

/-- A condition that has a predicate: there is a sign for its operator, and its value is what the
operator asks for. -/
structure HasForm (condition : Condition) : Prop where
  signed : condition.operator ∈ Operator.signed
  members : condition.operator ∈ [.memberOf, .notMemberOf] →
    ∃ items, condition.value = .list items
  pattern : condition.operator ∈ [.like, .regex] → ∃ text, condition.value = .text text
  bounds : condition.operator = .between → ∃ low high, condition.value = .list [low, high]

/-- A query that has a statement, as far as its operation asks: the conditions it writes have
predicates, and the rows of an insert have columns, which are the same in every row. -/
structure HasStatement (query : Query) : Prop where
  conditions : ∀ condition ∈ query.writtenConditions, HasForm condition
  columns : query.operation = .insert → query.insertColumns ≠ []
  uniform : query.operation = .insert →
    ∀ row ∈ query.insertRows, row.columns = query.insertColumns

/-- The names that a condition binds: its parameter, or that with two suffixes for an interval. -/
def conditionNames (condition : Condition) : List String :=
  match condition.operator.arity? with
  | some .binary | some .pattern | some .list => [condition.parameter]
  | some .pair => [lowName condition.parameter, highName condition.parameter]
  | some .unary | none => []

/-- The names that a numbered row binds. -/
def rowNames (number : Nat) (row : Row) : List String :=
  row.columns.map fun column => parameterName column ++ "_" ++ number.repr

/-- The names that a query binds, in the order of its placeholders. -/
def boundNames (query : Query) : List String :=
  match query.operation with
  | .insert => query.insertRows.zipIdx.flatMap fun numbered => rowNames numbered.2 numbered.1
  | .update =>
    query.assignments.columns.map (fun column => "update_" ++ parameterName column) ++
      query.writtenConditions.flatMap conditionNames
  | _ => query.writtenConditions.flatMap conditionNames

/-- Everything that rendering asks of a query. -/
structure Renderable (query : Query) : Prop where
  valid : query.violation? = none
  pages : query.NaturalPages
  words : WordsAccepted query
  operation : query.operation ∈ kinds
  statement : HasStatement query
  distinct : (boundNames query).Nodup

theorem bounds_eq_ok {condition : Condition} {low high : Value}
    (h : condition.value = .list [low, high]) : condition.bounds = .ok (low, high) := by
  rw [Condition.bounds, h]
  rfl

theorem members_eq_ok {condition : Condition} {items : List Value}
    (h : condition.value = .list items) : condition.members = .ok items := by
  rw [Condition.members, h]
  rfl

theorem pattern_eq_ok {condition : Condition} {text : String}
    (h : condition.value = .text text) : condition.pattern = .ok text := by
  rw [Condition.pattern, h]
  rfl

/-- A condition has a predicate iff it has the form of one. -/
theorem exists_predicateOf_iff {condition : Condition} :
    (∃ predicate, (predicateOf condition).outcome = .ok predicate) ↔ HasForm condition := by
  unfold predicateOf
  -- The form of a condition is asked operator by operator; operators of one arity ask the same.
  cases ho : condition.operator
  case equal | notEqual | greater | greaterOrEqual | less | lessOrEqual | isNull | isNotNull =>
    refine ⟨fun _ => ⟨?_, ?_, ?_, ?_⟩, fun _ => ⟨_, rfl⟩⟩ <;> rw [ho] <;> simp [Operator.signed]
  case like | regex =>
    constructor
    · rintro ⟨predicate, h⟩
      obtain ⟨text, htext, -⟩ := Traced.outcome_bind_eq_ok.mp h
      refine ⟨?_, ?_, fun _ => ⟨text, text_of_pattern htext⟩, ?_⟩ <;> rw [ho] <;>
        simp [Operator.signed]
    · intro h
      obtain ⟨text, htext⟩ := h.pattern (by simp [ho])
      exact ⟨_, Traced.outcome_bind_eq_ok.mpr ⟨text, pattern_eq_ok htext, rfl⟩⟩
  case memberOf | notMemberOf =>
    constructor
    · rintro ⟨predicate, h⟩
      obtain ⟨items, hitems, -⟩ := Traced.outcome_bind_eq_ok.mp h
      refine ⟨?_, fun _ => ⟨items, items_of_members hitems⟩, ?_, ?_⟩ <;> rw [ho] <;>
        simp [Operator.signed]
    · intro h
      obtain ⟨items, hitems⟩ := h.members (by simp [ho])
      exact ⟨_, Traced.outcome_bind_eq_ok.mpr ⟨items, members_eq_ok hitems, rfl⟩⟩
  case between =>
    constructor
    · rintro ⟨predicate, h⟩
      obtain ⟨⟨low, high⟩, hbounds, -⟩ := Traced.outcome_bind_eq_ok.mp h
      refine ⟨?_, ?_, ?_, fun _ => ⟨low, high, pair_of_bounds hbounds⟩⟩ <;> rw [ho] <;>
        simp [Operator.signed]
    · intro h
      obtain ⟨low, high, hvalue⟩ := h.bounds ho
      exact ⟨_, Traced.outcome_bind_eq_ok.mpr ⟨(low, high), bounds_eq_ok hvalue, rfl⟩⟩
  case isPresent | other =>
    refine ⟨fun ⟨predicate, h⟩ => ?_, fun h => ?_⟩
    · simp at h
    · have hsigned := h.signed
      rw [ho] at hsigned
      simp [Operator.signed] at hsigned

theorem exists_chainFor_iff {conditions : List Condition} :
    (∃ chain, ChainFor conditions chain) ↔ ∀ condition ∈ conditions, HasForm condition := by
  induction conditions with
  | nil => exact ⟨fun _ => by simp, fun _ => ⟨[], .nil⟩⟩
  | cons condition rest ih =>
    rw [List.forall_mem_cons, ← ih, ← exists_predicateOf_iff]
    constructor
    · rintro ⟨chain, h⟩
      cases h with
      | cons hlink hrest => exact ⟨⟨_, hlink.1⟩, ⟨_, hrest⟩⟩
    · rintro ⟨⟨predicate, hpredicate⟩, ⟨chain, hchain⟩⟩
      exact ⟨⟨predicate, condition.connector.isOr⟩ :: chain, .cons ⟨hpredicate, rfl⟩ hchain⟩

/-- A query has a statement iff its operation is known and it has what the operation asks for. -/
theorem exists_statementFor_iff {query : Query} :
    (∃ statement, StatementFor query statement) ↔
      query.operation ∈ kinds ∧ HasStatement query := by
  constructor
  · rintro ⟨statement, h⟩
    cases h with
    | select ho hf hh =>
      refine ⟨by simp [ho, kinds], ?_, by simp [ho], by simp [ho]⟩
      simp only [Query.writtenConditions, ho]
      exact List.forall_mem_append.mpr
        ⟨exists_chainFor_iff.mp ⟨_, hf⟩, exists_chainFor_iff.mp ⟨_, hh⟩⟩
    | insert ho hne huniform =>
      refine ⟨by simp [ho, kinds], ?_, fun _ => hne, fun _ => huniform⟩
      simp [Query.writtenConditions, ho]
    | update ho hf | delete ho hf | count ho hf =>
      refine ⟨by simp [ho, kinds], ?_, by simp [ho], by simp [ho]⟩
      simp only [Query.writtenConditions, ho]
      exact exists_chainFor_iff.mp ⟨_, hf⟩
  · rintro ⟨hknown, hconditions, hcolumns, huniform⟩
    simp only [kinds, List.mem_cons, List.not_mem_nil, or_false] at hknown
    unfold Query.writtenConditions at hconditions
    rcases hknown with ho | ho | ho | ho | ho <;> simp only [ho] at hconditions
    · obtain ⟨hwhere, hhaving⟩ := List.forall_mem_append.mp hconditions
      obtain ⟨filter, hf⟩ := exists_chainFor_iff.mpr hwhere
      obtain ⟨having, hh⟩ := exists_chainFor_iff.mpr hhaving
      exact ⟨_, .select ho hf hh⟩
    · exact ⟨_, .insert ho (hcolumns ho) (huniform ho)⟩
    · obtain ⟨filter, hf⟩ := exists_chainFor_iff.mpr hconditions
      exact ⟨_, .update ho hf⟩
    · obtain ⟨filter, hf⟩ := exists_chainFor_iff.mpr hconditions
      exact ⟨_, .delete ho hf⟩
    · obtain ⟨filter, hf⟩ := exists_chainFor_iff.mpr hconditions
      exact ⟨_, .count ho hf⟩

/-! ## The names a query binds -/

theorem names_operands {condition : Condition} (h : HasForm condition) :
    (operands condition).map Binding.name = conditionNames condition := by
  unfold operands conditionNames
  cases ho : condition.operator
  case between =>
    obtain ⟨low, high, hvalue⟩ := h.bounds ho
    rw [hvalue]
    rfl
  all_goals rfl

theorem names_flatMap_operands {conditions : List Condition}
    (h : ∀ condition ∈ conditions, HasForm condition) :
    (conditions.flatMap operands).map Binding.name = conditions.flatMap conditionNames := by
  rw [List.map_flatMap]
  exact List.flatMap_congr fun condition hc => names_operands (h condition hc)

/-- What a query binds is bound under its names. -/
theorem names_queryBindings {query : Query} (h : HasStatement query) :
    (queryBindings query).map Binding.name = boundNames query := by
  have hconditions := names_flatMap_operands h.conditions
  unfold Query.writtenConditions at hconditions
  unfold queryBindings boundNames Query.writtenConditions
  cases ho : query.operation <;> simp only [ho] at hconditions ⊢
  case insert =>
    simp [tuplesFrom, List.flatMap_def, List.map_flatten, rowNames, Row.columns, cellBinding,
      Function.comp_def]
  case update =>
    simp [hconditions, Row.columns, cellAssignment, Function.comp_def]
  all_goals exact hconditions

/-- Every name that is bound is a word. -/
theorem isWord_of_mem_boundNames {query : Query} (h : WordsAccepted query) :
    ∀ name ∈ boundNames query, isWord name.toList = true := by
  have hwritten : ∀ condition ∈ query.writtenConditions, AcceptedCondition condition :=
    fun condition hc => h.conditions condition (query.writtenConditions_subset hc)
  have hconditions : ∀ name ∈ query.writtenConditions.flatMap conditionNames,
      isWord name.toList = true := by
    intro name hn
    obtain ⟨condition, hc, hn⟩ := List.mem_flatMap.mp hn
    have hword := (hwritten condition hc).parameter
    unfold conditionNames at hn
    split at hn <;> simp only [List.mem_cons, List.not_mem_nil, or_false] at hn
    · rwa [hn]
    · rwa [hn]
    · rwa [hn]
    · rcases hn with rfl | rfl
      · exact isWord_lowName hword
      · exact isWord_highName hword
  unfold boundNames
  split
  · intro name hn
    obtain ⟨⟨row, number⟩, hrow, hn⟩ := List.mem_flatMap.mp hn
    obtain ⟨column, hcolumn, rfl⟩ := List.mem_map.mp hn
    obtain ⟨cell, hcell, rfl⟩ := List.mem_map.mp hcolumn
    have hfield := h.rows row (List.fst_mem_of_mem_zipIdx hrow) cell hcell
    exact isWord_numbered (isWord_parameterName (isDottedWord_of_isIdentifier hfield)) number
  · refine List.forall_mem_append.mpr ⟨?_, hconditions⟩
    refine List.forall_mem_map.mpr fun column hcolumn => ?_
    obtain ⟨cell, hcell, rfl⟩ := List.mem_map.mp hcolumn
    exact isWord_updateName (h.updates cell hcell)
  · exact hconditions

/-! ## What rendering asks -/

theorem accepted_iff {query : Query} :
    Accepted query ↔ query.violation? = none ∧ query.NaturalPages ∧ WordsAccepted query := by
  rw [← Query.requirePageBounds_eq_ok_iff_natural, Query.requirePageBounds_eq_ok]
  exact ⟨fun h => ⟨h.valid, ⟨h.limit, h.offset⟩, h.words⟩,
    fun ⟨hvalid, ⟨hlimit, hoffset⟩, hwords⟩ => ⟨hvalid, hlimit, hoffset, hwords⟩⟩

/-- Whether a query without a page is accepted can be found out by checking its words. -/
theorem Accepted.of_checkWords {query : Query} (hvalid : query.violation? = none)
    (hlimit : query.limit? = none) (hoffset : query.offset? = none)
    (h : (checkWords query).outcome.isOk = true) : Accepted query := by
  obtain ⟨_, hwords⟩ := Except.exists_of_isOk h
  exact ⟨hvalid, by simp [hlimit], by simp [hoffset], checkWords_eq_ok.mp hwords⟩

/-- **A query renders** iff it meets every requirement. -/
theorem exists_render_iff (quoting : Quoting) {query : Query} :
    (∃ rendered, (render quoting query).outcome = .ok rendered) ↔ Renderable query := by
  constructor
  · rintro ⟨rendered, h⟩
    obtain ⟨haccepted, hstatement, -, hbindings⟩ := render_eq h
    obtain ⟨hvalid, hpages, hwords⟩ := accepted_iff.mp haccepted
    obtain ⟨hknown, hform⟩ := exists_statementFor_iff.mp hstatement
    refine ⟨hvalid, hpages, hwords, hknown, hform, ?_⟩
    rw [← names_queryBindings hform, ← hbindings]
    exact rendered.parameters.names_nodup
  · intro h
    obtain ⟨statement, hstatement⟩ := exists_statementFor_iff.mpr ⟨h.operation, h.statement⟩
    have hnames : (statement.bindings.map Binding.name).Nodup := by
      rw [bindings_of_statementFor hstatement, names_queryBindings h.statement]
      exact h.distinct
    exact ⟨⟨statement.text quoting, ⟨statement.bindings, hnames⟩⟩,
      render_eq_ok.mpr ⟨accepted_iff.mpr ⟨h.valid, h.pages, h.words⟩, statement, hstatement, rfl,
        rfl⟩⟩

/-- The parameters of a rendered query have its names. -/
theorem names_of_render {quoting : Quoting} {query : Query} {rendered : Rendered}
    (h : (render quoting query).outcome = .ok rendered) :
    rendered.parameters.names = boundNames query := by
  obtain ⟨-, hstatement, -, hbindings⟩ := render_eq h
  rw [Parameters.names, hbindings, names_queryBindings (exists_statementFor_iff.mp hstatement).2]

/-! ## Faults -/

/-- A word that is not accepted is the fault, in its role. -/
theorem require_eq_error {role : WordRole} {accepted : Bool} {word : String} {fault : Fault} :
    (require role accepted word).outcome = .error fault ↔
      accepted = false ∧ fault = .invalidWord role word := by
  unfold require
  cases accepted <;> simp [eq_comm]

theorem failsWith_require (role : WordRole) (accepted : Bool) (word : String) :
    (require role accepted word).FailsWith (fun fault => fault.kind = "InvalidIdentifier") := by
  intro fault h
  rw [(require_eq_error.mp h).2]
  rfl

section Closed
variable {holds : (α : Type) → Traced α → Prop}

/-- The checks of a query are checks of one word after another.  Parameters are looked at condition
by condition and nowhere else. -/
theorem holds_checkWords_of (h : Traced.Closed holds) {query : Query}
    (hword : ∀ role accepted word, role ≠ .parameter → holds Unit (require role accepted word))
    (hcondition : ∀ condition ∈ query.conditions ++ query.having,
      holds Unit (checkCondition condition)) :
    holds Unit (checkWords query) := by
  have hname : ∀ accepted word, holds Unit (require .identifier accepted word) :=
    fun accepted word => hword _ accepted word (by decide)
  have hprojection : ∀ field, holds Unit (checkProjection field) := by
    intro field
    refine h.bind (hname _ _) fun _ => ?_
    split
    · split
      · exact h.pure _
      · exact hword _ _ _ (by decide)
    · exact h.pure _
  have hrow : ∀ row, holds Unit (checkRow row) := fun _ => h.forM fun _ _ => hname _ _
  refine h.bind (h.debug _ _ _) fun _ => ?_
  refine h.bind (hname _ _) fun _ => ?_
  refine h.bind (h.forM fun field _ => hprojection field) fun _ => ?_
  refine h.bind (h.forM hcondition) fun _ => ?_
  -- Joins and sort keys have two words each.
  refine h.bind (h.forM fun _ _ => h.bind (hword _ _ _ (by decide)) fun _ => hname _ _) fun _ => ?_
  refine h.bind (h.forM fun _ _ => h.bind (hname _ _) fun _ => hword _ _ _ (by decide)) fun _ => ?_
  refine h.bind (h.forM fun _ _ => hname _ _) fun _ => ?_
  refine h.bind (h.forM fun row _ => hrow row) fun _ => ?_
  exact h.bind (hrow _) fun _ => h.forM fun _ _ => hname _ _

theorem holds_checkWords (h : Traced.Closed holds)
    (hword : ∀ role accepted word, holds Unit (require role accepted word)) (query : Query) :
    holds Unit (checkWords query) :=
  holds_checkWords_of h (fun role accepted word _ => hword role accepted word)
    fun _ _ => h.bind (hword _ _ _) fun _ => hword _ _ _

/-- Rows are compared and bound one after another. -/
theorem holds_tuplesOf (h : Traced.Closed holds) {columns : List String}
    (hcolumns : ∀ number row, holds Unit (requireColumns columns number row))
    (hbind : ∀ (parameters : Parameters) bindings,
      holds Parameters (Traced.ofExcept (parameters.bindAll bindings)))
    (parameters : Parameters) (number : Nat) (rows : List Row) :
    holds _ (tuplesOf columns parameters number rows) := by
  induction rows generalizing parameters number with
  | nil => exact h.pure _
  | cons row rest ih =>
    refine h.bind (hcolumns number row) fun _ => ?_
    refine h.bind (hbind parameters _) fun more => ?_
    exact h.bind (ih more (number + 1)) fun _ => h.pure _

end Closed

/-- Whatever word is refused, in whatever role, the fault is of one kind. -/
theorem failsWith_checkWords (query : Query) :
    (checkWords query).FailsWith (fun fault => fault.kind = "InvalidIdentifier") :=
  holds_checkWords (Traced.closed_failsWith _) failsWith_require query

/-- The kinds of fault that arise while a statement is built and its values are bound. -/
def statementKinds : List String :=
  ["UnsupportedOperator", "MalformedBetween", "MalformedList", "MalformedPattern", "MalformedRow",
    "DuplicateParameter"]

/-- A fault of one of those kinds. -/
def IsOfStatement : Fault → Prop
  | .unsupportedOperator .. | .malformedPair _ | .malformedList .. | .malformedPattern ..
  | .emptyRow | .mismatchedRow .. | .duplicateParameter _ => True
  | _ => False

theorem kind_mem_of_isOfStatement {fault : Fault} (h : IsOfStatement fault) :
    fault.kind ∈ statementKinds := by
  cases fault
  case unsupportedOperator | malformedPair | malformedList | malformedPattern | emptyRow |
      mismatchedRow | duplicateParameter =>
    simp [Fault.kind, statementKinds]
  all_goals exact h.elim

/-- The faults of a condition that has no predicate. -/
def IsOfCondition : Fault → Prop
  | .unsupportedOperator .. | .malformedPair _ | .malformedList .. | .malformedPattern .. => True
  | _ => False

theorem isOfStatement_of_isOfCondition {fault : Fault} (h : IsOfCondition fault) :
    IsOfStatement fault := by
  cases fault
  case unsupportedOperator | malformedPair | malformedList | malformedPattern => trivial
  all_goals exact h.elim

/-- The fault of binding some names that are not all different. -/
def NameFault (names : List String) (fault : Fault) : Prop :=
  (∃ name, fault = .duplicateParameter name) ∧ ¬ names.Nodup

/-- What can be wrong with the rows of an insert: there is no column, or a row has others than the
first one. -/
inductive RowFault (query : Query) : Fault → Prop
  | empty (missing : query.insertColumns = []) : RowFault query .emptyRow
  | mismatched {number : Nat} {row : Row} (found : query.insertRows[number]? = some row)
      (other : row.columns ≠ query.insertColumns) :
      RowFault query (.mismatchedRow number query.insertColumns row.columns)

theorem RowFault.kind {query : Query} {fault : Fault} (h : RowFault query fault) :
    fault.kind = "MalformedRow" := by
  cases h <;> rfl

/-- Names can be bound behind those there are iff no name comes twice. -/
theorem exists_bindAll_iff {parameters : Parameters} {bindings : List Binding} :
    (∃ more, parameters.bindAll bindings = .ok more) ↔
      (parameters.names ++ bindings.map Binding.name).Nodup := by
  simp only [Parameters.bindAll_eq_ok]
  constructor
  · rintro ⟨more, hmore⟩
    have hnames := more.names_nodup
    rwa [hmore, List.map_append] at hnames
  · intro h
    rw [Parameters.names, ← List.map_append] at h
    exact ⟨⟨parameters.bindings ++ bindings, h⟩, rfl⟩

/-- Bindings can fail for a name that is taken and for nothing else, and the first name that is
taken is the fault. -/
theorem bindAll_eq_error {parameters : Parameters} {bindings : List Binding} {fault : Fault}
    (h : parameters.bindAll bindings = .error fault) :
    ∃ front binding behind, bindings = front ++ binding :: behind ∧
      (parameters.names ++ front.map Binding.name).Nodup ∧
      binding.name ∈ parameters.names ++ front.map Binding.name ∧
      fault = .duplicateParameter binding.name := by
  induction bindings generalizing parameters with
  | nil => cases h
  | cons binding rest ih =>
    change (parameters.bind binding >>= fun more => more.bindAll rest) = .error fault at h
    rcases Except.bind_eq_error.mp h with h | ⟨more, hmore, h⟩
    · unfold Parameters.bind at h
      split at h
      · next htaken =>
        cases h
        refine ⟨[], binding, rest, rfl, ?_, ?_, rfl⟩
        · simpa [Parameters.names] using parameters.names_nodup
        · simpa using htaken
      · cases h
    · obtain ⟨front, taken, behind, rfl, hnodup, htaken, rfl⟩ := ih h
      have hnames : more.names = parameters.names ++ [binding.name] := by
        rw [Parameters.names, Parameters.bind_eq_ok.mp hmore, List.map_append]
        rfl
      rw [hnames, List.append_assoc] at hnodup htaken
      exact ⟨binding :: front, taken, behind, rfl, hnodup, htaken, rfl⟩

/-- Names that cannot all be bound, cannot be bound among others either. -/
theorem NameFault.mono {names more : List String} {fault : Fault} (h : NameFault names fault)
    (hmore : names.Sublist more) : NameFault more fault :=
  ⟨h.1, fun hn => h.2 (hn.sublist hmore)⟩

theorem nameFault_of_bindAll {parameters : Parameters} {bindings : List Binding} {fault : Fault}
    (h : parameters.bindAll bindings = .error fault) :
    NameFault (parameters.names ++ bindings.map Binding.name) fault := by
  obtain ⟨_, taken, _, -, -, -, hfault⟩ := bindAll_eq_error h
  refine ⟨⟨_, hfault⟩, fun hn => ?_⟩
  obtain ⟨more, hmore⟩ := exists_bindAll_iff.mpr hn
  rw [hmore] at h
  cases h

/-- The names that are there once some more are bound. -/
theorem names_of_bindAll {parameters more : Parameters} {bindings : List Binding}
    (h : parameters.bindAll bindings = .ok more) :
    more.names = parameters.names ++ bindings.map Binding.name := by
  rw [Parameters.names, Parameters.bindAll_eq_ok.mp h, List.map_append]
  rfl

section Operands
variable {condition : Condition} {fault : Fault}

theorem bounds_eq_error (h : condition.bounds = .error fault) :
    fault = .malformedPair condition.field := by
  unfold Condition.bounds at h
  split at h <;> cases h
  rfl

theorem members_eq_error (h : condition.members = .error fault) :
    fault = .malformedList condition.operator condition.field := by
  unfold Condition.members at h
  split at h <;> cases h
  rfl

theorem pattern_eq_error (h : condition.pattern = .error fault) :
    fault = .malformedPattern condition.operator condition.field := by
  unfold Condition.pattern at h
  split at h <;> cases h
  rfl

end Operands

theorem failsWith_predicateOf (condition : Condition) :
    (predicateOf condition).FailsWith IsOfCondition := by
  have hpattern : (Traced.ofExcept condition.pattern).FailsWith IsOfCondition := by
    intro fault h
    rw [pattern_eq_error h]
    trivial
  have hmembers : (Traced.ofExcept condition.members).FailsWith IsOfCondition := by
    intro fault h
    rw [members_eq_error h]
    trivial
  have hbounds : (Traced.ofExcept condition.bounds).FailsWith IsOfCondition := by
    intro fault h
    rw [bounds_eq_error h]
    trivial
  unfold predicateOf
  cases condition.operator
  case equal | notEqual | greater | greaterOrEqual | less | lessOrEqual | isNull | isNotNull =>
    exact Traced.failsWith_pure _
  case like | regex => exact hpattern.bind fun _ => Traced.failsWith_pure _
  case memberOf | notMemberOf => exact hmembers.bind fun _ => Traced.failsWith_pure _
  case between => exact hbounds.bind fun _ => Traced.failsWith_pure _
  case isPresent | other =>
    exact (Traced.failsWith_fail trivial).after_log _ _ _ _

theorem failsWith_mapM_predicateOf (conditions : List Condition) :
    (conditions.mapM predicateOf).FailsWith IsOfCondition :=
  (Traced.closed_failsWith _).mapM fun condition _ => failsWith_predicateOf condition

/-- A predicate binds the names of its condition. -/
theorem names_of_predicateOf {condition : Condition} {predicate : Predicate}
    (h : (predicateOf condition).outcome = .ok predicate) :
    predicate.bindings.map Binding.name = conditionNames condition := by
  rw [(predicateOf_eq_ok h).2]
  exact names_operands (exists_predicateOf_iff.mp ⟨predicate, h⟩)

/-- The names that are there once those of a chain are bound. -/
theorem names_of_chainOf {parameters more : Parameters} {conditions : List Condition}
    {chain : Chain} (h : (chainOf parameters conditions).outcome = .ok (chain, more)) :
    more.names = parameters.names ++ conditions.flatMap conditionNames := by
  obtain ⟨hchain, hmore⟩ := chainOf_eq_ok.mp h
  rw [Parameters.names, hmore, List.map_append, bindings_of_chainFor hchain,
    names_flatMap_operands (exists_chainFor_iff.mp ⟨chain, hchain⟩)]
  rfl

/-- A chain is lacking for a name that is bound twice, or because its conditions, one after another
and without a word about names, do not all have predicates. -/
theorem chainOf_eq_error {parameters : Parameters} {conditions : List Condition} {fault : Fault}
    (h : (chainOf parameters conditions).outcome = .error fault) :
    NameFault (parameters.names ++ conditions.flatMap conditionNames) fault ∨
      (conditions.mapM predicateOf).outcome = .error fault := by
  induction conditions generalizing parameters with
  | nil => cases h
  | cons condition rest ih =>
    rw [List.mapM_cons, Traced.outcome_bind_eq_error]
    rcases Traced.outcome_bind_eq_error.mp h with h | ⟨predicate, hpredicate, h⟩
    · exact .inr (.inl h)
    rw [List.flatMap_cons, ← List.append_assoc, ← names_of_predicateOf hpredicate]
    rcases Traced.outcome_bind_eq_error.mp h with h | ⟨more, hmore, h⟩
    · exact .inl ((nameFault_of_bindAll h).mono (List.sublist_append_left _ _))
    rw [← names_of_bindAll hmore]
    refine (ih (Traced.outcome_bind_pure_eq_error.mp h)).imp_right fun hrest => ?_
    exact .inr ⟨predicate, hpredicate, Traced.outcome_bind_pure_eq_error.mpr hrest⟩

/-- Behind a chain that is built, the conditions it was built of need no second look. -/
theorem mapM_predicateOf_append {p q : Parameters} {front behind : List Condition} {chain : Chain}
    {fault : Fault} (hfront : (chainOf p front).outcome = .ok (chain, q))
    (h : (behind.mapM predicateOf).outcome = .error fault) :
    ((front ++ behind).mapM predicateOf).outcome = .error fault := by
  rw [Traced.outcome_mapM] at h ⊢
  refine Except.mapM_append_eq_error.mpr (.inr ⟨Except.exists_mapM_eq_ok.mpr ?_, h⟩)
  intro condition hc
  exact exists_predicateOf_iff.mpr
    (exists_chainFor_iff.mp ⟨chain, (chainOf_eq_ok.mp hfront).1⟩ condition hc)

theorem names_row (number : Nat) (row : Row) :
    (row.map (cellBinding number)).map Binding.name = rowNames number row := by
  rw [rowNames, Row.columns, List.map_map, List.map_map]
  rfl

/-- Rows are lacking for a name that is bound twice, or because one of them has other columns. -/
theorem tuplesOf_fault {columns : List String} {parameters : Parameters} {number : Nat}
    {rows : List Row} {fault : Fault}
    (h : (tuplesOf columns parameters number rows).outcome = .error fault) :
    NameFault (parameters.names ++
        (rows.zipIdx number).flatMap fun numbered => rowNames numbered.2 numbered.1) fault ∨
      ∃ k row, rows[k]? = some row ∧ row.columns ≠ columns ∧
        fault = .mismatchedRow (number + k) columns row.columns := by
  induction rows generalizing parameters number with
  | nil => cases h
  | cons row rest ih =>
    rw [tuplesOf, Traced.outcome_check_bind_eq_error] at h
    rcases h with h | ⟨-, h⟩
    · unfold requireColumns at h
      split at h
      · cases h
      · next hrow =>
        cases h
        exact .inr ⟨0, row, rfl, hrow, rfl⟩
    rw [List.zipIdx_cons, List.flatMap_cons, ← List.append_assoc, ← names_row]
    rcases Traced.outcome_bind_eq_error.mp h with h | ⟨more, hmore, h⟩
    · exact .inl ((nameFault_of_bindAll h).mono (List.sublist_append_left _ _))
    rw [← names_of_bindAll hmore]
    refine (ih (Traced.outcome_bind_pure_eq_error.mp h)).imp_right ?_
    rintro ⟨k, other, hother, hcolumns, rfl⟩
    exact ⟨k + 1, other, hother, hcolumns, by rw [Nat.add_assoc, Nat.add_comm 1]⟩

theorem insertOf_fault {query : Query} {fault : Fault} (ho : query.operation = .insert)
    (h : (insertOf query).outcome = .error fault) :
    NameFault (boundNames query) fault ∨ RowFault query fault := by
  rw [insertOf_eq] at h
  split at h
  · next hempty =>
    cases h
    exact .inr (.empty (List.isEmpty_iff.mp hempty))
  · rcases tuplesOf_fault (Traced.outcome_bind_pure_eq_error.mp h) with
      hname | ⟨k, row, hrow, hcolumns, rfl⟩
    · left
      rw [boundNames, ho]
      exact hname
    · rw [Nat.zero_add]
      exact .inr (.mismatched hrow hcolumns)

theorem names_assignments (row : Row) :
    ((row.map cellAssignment).map Assignment.operand).map Binding.name =
      row.columns.map fun column => "update_" ++ parameterName column := by
  rw [Row.columns, List.map_map, List.map_map, List.map_map]
  rfl

/-- A query of a known operation lacks a statement for a name that it binds twice, an insert for a
fault of its rows, and any other query for the first of the conditions it writes that has no
predicate. -/
theorem statementOf_eq_error {query : Query} {fault : Fault} (hknown : query.operation ∈ kinds)
    (h : (statementOf query).outcome = .error fault) :
    NameFault (boundNames query) fault ∨ (query.operation = .insert ∧ RowFault query fault) ∨
      (query.writtenConditions.mapM predicateOf).outcome = .error fault := by
  simp only [kinds, List.mem_cons, List.not_mem_nil, or_false] at hknown
  unfold statementOf at h
  unfold boundNames Query.writtenConditions
  rcases hknown with ho | ho | ho | ho | ho <;> rw [ho] at h ⊢
  · rcases Traced.outcome_bind_eq_error.mp h with h | ⟨⟨filter, q⟩, hfilter, h⟩
    · rcases chainOf_eq_error h with hname | hwhere
      · rw [List.flatMap_append]
        exact .inl (hname.mono (List.sublist_append_left _ _))
      · rw [Traced.outcome_mapM] at hwhere ⊢
        exact .inr (.inr (Except.mapM_append_eq_error.mpr (.inl hwhere)))
    rcases chainOf_eq_error (Traced.outcome_bind_pure_eq_error.mp h) with hname | hhaving
    · rw [names_of_chainOf hfilter, List.append_assoc, ← List.flatMap_append] at hname
      exact .inl hname
    · exact .inr (.inr (mapM_predicateOf_append hfilter hhaving))
  · rcases insertOf_fault ho h with hname | hrow
    · rw [boundNames, ho] at hname
      exact .inl hname
    · exact .inr (.inl ⟨rfl, hrow⟩)
  · have hassigned : Parameters.empty.names ++
        (((query.updates?.getD []).map cellAssignment).map Assignment.operand).map Binding.name =
          query.assignments.columns.map fun column => "update_" ++ parameterName column :=
      names_assignments query.assignments
    rcases Traced.outcome_bind_eq_error.mp h with h | ⟨more, hmore, h⟩
    · have hname := nameFault_of_bindAll h
      rw [hassigned] at hname
      exact .inl (hname.mono (List.sublist_append_left _ _))
    · rcases chainOf_eq_error (Traced.outcome_bind_pure_eq_error.mp h) with hname | hwhere
      · rw [names_of_bindAll hmore, hassigned] at hname
        exact .inl hname
      · exact .inr (.inr hwhere)
  all_goals
    exact (chainOf_eq_error (Traced.outcome_bind_pure_eq_error.mp h)).imp_right .inr

/-- A query of a known operation lacks a statement only for a fault of those kinds. -/
theorem failsWith_statementOf {query : Query} (h : query.operation ∈ kinds) :
    (statementOf query).FailsWith IsOfStatement := by
  intro fault hfault
  rcases statementOf_eq_error h hfault with ⟨⟨name, rfl⟩, -⟩ | ⟨-, hrow⟩ | hconditions
  · trivial
  · cases hrow <;> trivial
  · exact isOfStatement_of_isOfCondition (failsWith_mapM_predicateOf _ fault hconditions)

theorem statementOf_of_unknown {query : Query} (h : query.operation ∉ kinds) :
    statementOf query = Traced.fail (.unsupportedOperation query.operation) := by
  unfold statementOf
  split
  case h_6 => rfl
  all_goals simp [*, kinds] at h

/-- Why a query is refused: for the first of the groups that are checked one after another which it
breaks, and behind them for an operation that is unknown, or else for something that its statement
or its names lack. -/
inductive RefusedWith (query : Query) (fault : Fault) : Prop
  | structure (broken : query.violation? ≠ none) (family : fault.family = .validation)
  | page (valid : query.violation? = none) (broken : ¬ query.NaturalPages)
      (kind : fault.kind = "InvalidPagination")
  | word (valid : query.violation? = none) (pages : query.NaturalPages)
      (broken : ¬ WordsAccepted query) (kind : fault.kind = "InvalidIdentifier")
  | operation (accepted : Accepted query) (broken : query.operation ∉ kinds)
      (kind : fault.kind = "UnsupportedOperation")
  | statement (accepted : Accepted query) (operation : query.operation ∈ kinds)
      (broken : ¬ (HasStatement query ∧ (boundNames query).Nodup))
      (kind : fault.kind ∈ statementKinds)

/-- A fault of rendering is that of one step, after every step before it has passed. -/
theorem render_eq_error {quoting : Quoting} {query : Query} {fault : Fault}
    (h : (render quoting query).outcome = .error fault) :
    query.requireValid.outcome = .error fault ∨
      (query.violation? = none ∧ query.requirePageBounds.outcome = .error fault) ∨
      (query.violation? = none ∧ query.NaturalPages ∧ (checkWords query).outcome = .error fault) ∨
      (Accepted query ∧ (statementOf query).outcome = .error fault) := by
  unfold render at h
  rcases Traced.outcome_bind_eq_error.mp h with h | ⟨made, -, h⟩
  case inr => cases h
  unfold compile at h
  rw [Traced.outcome_log_bind, Traced.outcome_check_bind_eq_error, Query.requireValid_eq_ok,
    Traced.outcome_check_bind_eq_error, Query.requirePageBounds_eq_ok_iff_natural,
    Traced.outcome_check_bind_eq_error, checkWords_eq_ok] at h
  rcases h with h | ⟨hvalid, h | ⟨hpages, h | ⟨hwords, h⟩⟩⟩
  · exact .inl h
  · exact .inr (.inl ⟨hvalid, h⟩)
  · exact .inr (.inr (.inl ⟨hvalid, hpages, h⟩))
  · refine .inr (.inr (.inr ⟨accepted_iff.mpr ⟨hvalid, hpages, hwords⟩, ?_⟩))
    rcases Traced.outcome_bind_eq_error.mp h with h | ⟨made, -, h⟩
    · exact h
    · cases h

/-- A query that passes the checks is refused for its statement or its names. -/
theorem statementOf_of_accepted {quoting : Quoting} {query : Query} {fault : Fault}
    (ha : Accepted query) (h : (render quoting query).outcome = .error fault) :
    (statementOf query).outcome = .error fault := by
  obtain ⟨hvalid, hpages, hwords⟩ := accepted_iff.mp ha
  rcases render_eq_error h with hstep | ⟨-, hstep⟩ | ⟨-, -, hstep⟩ | ⟨-, hstep⟩
  · exact absurd hvalid (not_of_error Query.requireValid_eq_ok hstep)
  · exact absurd hpages (not_of_error Query.requirePageBounds_eq_ok_iff_natural hstep)
  · exact absurd hwords (not_of_error checkWords_eq_ok hstep)
  · exact hstep

/-- A name that is taken is found out when everything else has been checked. -/
theorem statementOf_of_duplicate {quoting : Quoting} {query : Query} {name : String}
    (h : (render quoting query).outcome = .error (.duplicateParameter name)) :
    Accepted query ∧ (statementOf query).outcome = .error (.duplicateParameter name) := by
  rcases render_eq_error h with hstep | ⟨-, hstep⟩ | ⟨-, -, hstep⟩ | hstep
  · obtain ⟨violation, -, hfault⟩ := Query.requireValid_eq_error.mp hstep
    cases hfault
  · have hkind := Query.failsWith_requirePageBounds query _ hstep
    simp [Fault.kind] at hkind
  · have hkind := failsWith_checkWords query _ hstep
    simp [Fault.kind] at hkind
  · exact hstep

/-- A word is refused where the words are checked. -/
theorem checkWords_of_invalidWord {quoting : Quoting} {query : Query} {role : WordRole}
    {word : String} (h : (render quoting query).outcome = .error (.invalidWord role word)) :
    (checkWords query).outcome = .error (.invalidWord role word) := by
  rcases render_eq_error h with hstep | ⟨-, hstep⟩ | ⟨-, -, hstep⟩ | ⟨-, hstep⟩
  · obtain ⟨violation, -, hfault⟩ := Query.requireValid_eq_error.mp hstep
    cases hfault
  · have hkind := Query.failsWith_requirePageBounds query _ hstep
    simp [Fault.kind] at hkind
  · exact hstep
  · by_cases hknown : query.operation ∈ kinds
    · exact (failsWith_statementOf hknown _ hstep).elim
    · rw [statementOf_of_unknown hknown] at hstep
      cases hstep

/-- A query that breaks no structural requirement is not refused for one. -/
theorem family_of_render_eq_error {quoting : Quoting} {query : Query} {fault : Fault}
    (hvalid : query.violation? = none) (h : (render quoting query).outcome = .error fault) :
    fault.family ≠ .validation := by
  intro hfamily
  obtain ⟨violation, rfl⟩ := Fault.family_eq_validation_iff.mp hfamily
  rcases render_eq_error h with hstep | ⟨-, hstep⟩ | ⟨-, -, hstep⟩ | ⟨-, hstep⟩
  · exact not_of_error Query.requireValid_eq_ok hstep hvalid
  · have hkind := Query.failsWith_requirePageBounds query _ hstep
    cases violation <;> simp [Fault.kind, Violation.kind] at hkind
  · have hkind := failsWith_checkWords query _ hstep
    cases violation <;> simp [Fault.kind, Violation.kind] at hkind
  · by_cases hknown : query.operation ∈ kinds
    · exact failsWith_statementOf hknown _ hstep
    · rw [statementOf_of_unknown hknown] at hstep
      cases hstep

/-- What an accepted query lacks for a statement is the fault. -/
theorem render_eq_error_of_statement {quoting : Quoting} {query : Query} {fault : Fault}
    (ha : Accepted query) (h : (statementOf query).outcome = .error fault) :
    (render quoting query).outcome = .error fault := by
  obtain ⟨hvalid, hpages, hwords⟩ := accepted_iff.mp ha
  have hcompile : (compile query).outcome = .error fault := by
    unfold compile
    rw [Traced.outcome_log_bind, Traced.outcome_check_bind_eq_error, Query.requireValid_eq_ok,
      Traced.outcome_check_bind_eq_error, Query.requirePageBounds_eq_ok_iff_natural,
      Traced.outcome_check_bind_eq_error, checkWords_eq_ok]
    exact .inr ⟨hvalid, .inr ⟨hpages, .inr ⟨hwords, Traced.outcome_bind_eq_error.mpr (.inl h)⟩⟩⟩
  exact Traced.outcome_bind_eq_error.mpr (.inl hcompile)

/-- **When a query renders, and why it does not.** -/
theorem render_outcome (quoting : Quoting) (query : Query) :
    ((∃ rendered, (render quoting query).outcome = .ok rendered) ↔ Renderable query) ∧
      ∀ fault, (render quoting query).outcome = .error fault → RefusedWith query fault := by
  refine ⟨exists_render_iff quoting, fun fault h => ?_⟩
  rcases render_eq_error h with hstep | ⟨hvalid, hstep⟩ | ⟨hvalid, hpages, hstep⟩ | ⟨ha, hstep⟩
  · obtain ⟨violation, hviolation, rfl⟩ := Query.requireValid_eq_error.mp hstep
    exact .structure (by simp [hviolation]) rfl
  · exact .page hvalid (not_of_error Query.requirePageBounds_eq_ok_iff_natural hstep)
      (Query.failsWith_requirePageBounds query fault hstep)
  · exact .word hvalid hpages (not_of_error checkWords_eq_ok hstep)
      (failsWith_checkWords query fault hstep)
  · by_cases hknown : query.operation ∈ kinds
    · refine .statement ha hknown ?_
        (kind_mem_of_isOfStatement (failsWith_statementOf hknown fault hstep))
      -- A query that lacked nothing would render.
      rintro ⟨hform, hdistinct⟩
      obtain ⟨hvalid, hpages, hwords⟩ := accepted_iff.mp ha
      obtain ⟨rendered, hrendered⟩ := (exists_render_iff quoting).mpr
        ⟨hvalid, hpages, hwords, hknown, hform, hdistinct⟩
      rw [hrendered] at h
      cases h
    · rw [statementOf_of_unknown hknown] at hstep
      cases hstep
      exact .operation ha hknown rfl

end Sql

end CrudQuery
