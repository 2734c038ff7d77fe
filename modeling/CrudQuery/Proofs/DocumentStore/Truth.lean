import CrudQuery.Proofs.DocumentStore.Compilation
import CrudQuery.Proofs.Record
import CrudQuery.Proofs.Sql.Text

/-! # One truth for a chain and its filter

A chain of conditions is written twice: for tables as predicates with words between them and no
brackets, for documents as a tree of fields, conjunctions and disjunctions.  Both are given a
meaning here, by what is written and not by how it was made: the chain by the tokens that its text
consists of, the filter by the document it is.  Whatever truth is assigned to a field and what it is
tested for, the two agree (`filter_agrees`).

What makes them agree is that the stretches of a chain between its disjunctions are the groups that
the filter is made of, one for one (`stretches_tokens`).  That the tree has one group or several,
and that a group is one map or a list of maps, changes its form only.
-/

namespace CrudQuery.Sql

/-! ## How a chain reads -/

namespace Token
variable {α : Type}

/-- Whether a token ends a stretch of conjoined predicates. -/
def isOr : Token α → Bool
  | or => true
  | _ => false

/-- Whether a token lets the stretch it is in hold: of all tokens only a false predicate does not. -/
def holds : Token Bool → Bool
  | atom truth => truth
  | _ => true

end Token

/-- Conjunction binds before disjunction: the tokens are cut at their disjunctions, and in one of
the stretches every predicate is true.  Without tokens there is one stretch, and nothing in it to be
false. -/
def reading (tokens : List (Token Bool)) : Bool :=
  (tokens.splitOnP Token.isOr).any fun stretch => stretch.all Token.holds

/-- `a AND b OR c` and `a OR b AND c`, with `a` and `b` false and `c` true. -/
example : reading (tokens [(false, false), (false, true), (true, false)]) = true ∧
    reading (tokens [(false, true), (false, false), (true, false)]) = false := by decide

end CrudQuery.Sql

namespace CrudQuery.DocumentStore

/-! ## How a filter reads -/

mutual

/-- Whether a filter holds, given what is true of a field and what it is tested for. -/
def holds (truth : String → Document → Bool) : Document → Bool
  | .object members => membersHold truth members
  | _ => false

/-- Whether every member of a filter holds. -/
def membersHold (truth : String → Document → Bool) : List (String × Document) → Bool
  | [] => true
  | (key, value) :: rest => memberHolds truth key value && membersHold truth rest

/-- Whether a member of a filter holds: a conjunction if all its filters do, a disjunction if one of
them does, and any other member if what its field is tested for is true of it. -/
def memberHolds (truth : String → Document → Bool) (key : String) : Document → Bool
  | .list items =>
    if key = "$and" then everyHolds truth items
    else if key = "$or" then someHolds truth items
    else truth key (.list items)
  | value => truth key value

/-- Whether every filter of a list holds. -/
def everyHolds (truth : String → Document → Bool) : List Document → Bool
  | [] => true
  | item :: rest => holds truth item && everyHolds truth rest

/-- Whether a filter of a list holds. -/
def someHolds (truth : String → Document → Bool) : List Document → Bool
  | [] => false
  | item :: rest => holds truth item || someHolds truth rest

end

section Holds
variable (truth : String → Document → Bool)

theorem membersHold_eq_all (members : List (String × Document)) :
    membersHold truth members = members.all fun member => memberHolds truth member.1 member.2 := by
  induction members with
  | nil => rfl
  | cons member rest ih => rw [membersHold, ih, List.all_cons]

theorem everyHolds_eq_all (items : List Document) :
    everyHolds truth items = items.all (holds truth) := by
  induction items with
  | nil => rfl
  | cons item rest ih => rw [everyHolds, ih, List.all_cons]

theorem someHolds_eq_any (items : List Document) :
    someHolds truth items = items.any (holds truth) := by
  induction items with
  | nil => rfl
  | cons item rest ih => rw [someHolds, ih, List.any_cons]

theorem documents_eq_map (filters : List Filter) :
    Filter.documents filters = filters.map Filter.document := by
  induction filters with
  | nil => rfl
  | cons filter rest ih => rw [Filter.documents, ih, List.map_cons]

/-- The store reads a name as that of a field unless it begins like one of its operators. -/
def IsFieldName (name : String) : Prop := name.toList.head? ≠ some '$'

instance : DecidablePred IsFieldName := fun name =>
  inferInstanceAs (Decidable (name.toList.head? ≠ some '$'))

theorem isFieldName_of_isIdentifier {name : String} (h : Sql.isIdentifier name = true) :
    IsFieldName name :=
  fun hhead => absurd (Sql.isWordStart_of_head_identifier h hhead) (by decide)

/-- A member under the name of a field is a test of that field. -/
theorem memberHolds_field {key : String} (h : IsFieldName key) (value : Document) :
    memberHolds truth key value = truth key value := by
  have hand : key ≠ "$and" := fun e => absurd (e ▸ h) (by simp [IsFieldName])
  have hor : key ≠ "$or" := fun e => absurd (e ▸ h) (by simp [IsFieldName])
  cases value <;> simp [memberHolds, hand, hor]

end Holds

/-! ## Groups are stretches -/

theorem groups_cons_cons {condition next : Condition} {rest group : List Condition}
    {others : List (List Condition)} (h : groups (next :: rest) = group :: others) :
    groups (condition :: next :: rest) =
      if condition.connector.isOr then [condition] :: group :: others
      else (condition :: group) :: others := by
  rw [groups, h]

theorem groups_ne_nil (conditions : List Condition) : groups conditions ≠ [] := by
  induction conditions with
  | nil => simp [groups]
  | cons condition rest ih =>
    cases rest with
    | nil => simp [groups]
    | cons next rest =>
      obtain ⟨group, others, hgroups⟩ := List.exists_cons_of_ne_nil ih
      rw [groups_cons_cons hgroups]
      split <;> simp

/-- A chain is the groups it is cut into, one behind the other. -/
theorem flatten_groups (conditions : List Condition) :
    (groups conditions).flatten = conditions := by
  induction conditions with
  | nil => rfl
  | cons condition rest ih =>
    cases rest with
    | nil => rfl
    | cons next rest =>
      obtain ⟨group, others, hgroups⟩ := List.exists_cons_of_ne_nil (groups_ne_nil (next :: rest))
      rw [hgroups, List.flatten_cons] at ih
      rw [groups_cons_cons hgroups]
      split <;> simp [ih]

/-- The stretches of a chain between its disjunctions are its groups: each is true iff every
condition of its group is. -/
theorem stretches_tokens (truth : Condition → Bool) (conditions : List Condition) :
    ((Sql.tokens (conditions.map fun c => (truth c, c.connector.isOr))).splitOnP Sql.Token.isOr).map
        (fun stretch => stretch.all Sql.Token.holds) =
      (groups conditions).map fun group => group.all truth := by
  induction conditions with
  | nil => rfl
  | cons condition rest ih =>
    cases rest with
    | nil =>
      simp [Sql.tokens, groups, List.splitOnP_cons_eq_if_modifyHead, Sql.Token.isOr,
        Sql.Token.holds]
    | cons next rest =>
      obtain ⟨group, others, hgroups⟩ := List.exists_cons_of_ne_nil (groups_ne_nil (next :: rest))
      obtain ⟨stretch, more, hstretches⟩ := List.exists_cons_of_ne_nil
        (List.splitOnP_ne_nil Sql.Token.isOr
          (Sql.tokens ((next :: rest).map fun c => (truth c, c.connector.isOr))))
      rw [hgroups, hstretches, List.map_cons, List.map_cons, List.cons.injEq] at ih
      simp only [List.map_cons] at hstretches
      rw [groups_cons_cons hgroups]
      -- The word behind the condition either ends its stretch or joins it to the next one.
      cases hconnector : condition.connector.isOr with
      | true =>
        simp [Sql.tokens, hconnector, List.splitOnP_cons_eq_if_modifyHead, Sql.Token.isOr,
          Sql.Token.holds, hstretches, ih.1, ih.2]
      | false =>
        simp [Sql.tokens, hconnector, List.splitOnP_cons_eq_if_modifyHead, Sql.Token.isOr,
          Sql.Token.holds, hstretches, ih.1, ih.2]

/-- A chain is true iff all conditions of one of its groups are. -/
theorem reading_tokens (truth : Condition → Bool) (conditions : List Condition) :
    Sql.reading (Sql.tokens (conditions.map fun c => (truth c, c.connector.isOr))) =
      (groups conditions).any fun group => group.all truth := by
  have hstretches := congrArg (fun truths => truths.any id) (stretches_tokens truth conditions)
  simp only [List.any_map, Function.id_comp] at hstretches
  exact hstretches

/-! ## The filter of a chain -/

/-- What is true of the field of a condition and of what it is tested for.  A condition without a
test has no filter either. -/
def truthOf (truth : String → Document → Bool) (condition : Condition) : Bool :=
  match testOf condition with
  | .ok test => truth condition.field test.document
  | .error _ => false

/-- Tests are those of some conditions, in order. -/
abbrev TestsFor (conditions : List Condition) (tests : List (String × Test)) : Prop :=
  List.Forall₂ (fun condition test => fieldTest condition = .ok test) conditions tests

section Filters
variable (truth : String → Document → Bool)

theorem fieldTest_eq_ok {condition : Condition} {test : String × Test} :
    fieldTest condition = .ok test ↔
      test.1 = condition.field ∧ testOf condition = .ok test.2 := by
  obtain ⟨field, form⟩ := test
  unfold fieldTest
  rw [Except.bind_eq_ok]
  constructor
  · rintro ⟨made, hmade, h⟩
    cases h
    exact ⟨rfl, hmade⟩
  · rintro ⟨rfl, hmade⟩
    exact ⟨form, hmade, rfl⟩

theorem fields_of_testsFor {conditions : List Condition} {tests : List (String × Test)}
    (h : TestsFor conditions tests) : tests.map Prod.fst = conditions.map Condition.field := by
  induction h with
  | nil => rfl
  | cons htest htests ih => rw [List.map_cons, List.map_cons, ih, (fieldTest_eq_ok.mp htest).1]

theorem truths_of_testsFor {conditions : List Condition} {tests : List (String × Test)}
    (h : TestsFor conditions tests) :
    tests.map (fun test => truth test.1 test.2.document) = conditions.map (truthOf truth) := by
  induction h with
  | nil => rfl
  | cons htest htests ih =>
    obtain ⟨hfield, hform⟩ := fieldTest_eq_ok.mp htest
    simp only [List.map_cons, ih, truthOf, hform, hfield]

theorem all_truthOf_of_testsFor {conditions : List Condition} {tests : List (String × Test)}
    (h : TestsFor conditions tests) :
    conditions.all (truthOf truth) = tests.all fun test => truth test.1 test.2.document := by
  have := congrArg (fun truths => truths.all id) (truths_of_testsFor truth h)
  simp only [List.all_map, Function.id_comp] at this
  exact this.symm

/-- The filters of conjoined tests: a map that is given each of its fields once, or a list in which
every test has a map of its own. -/
inductive Gathers (tests : List (String × Test)) : Filter → Prop
  | fields (once : (tests.map Prod.fst).Nodup) : Gathers tests (.fields (Record.ofList tests))
  | all : Gathers tests (.all tests)

theorem gathers_of_conjunction {conditions : List Condition} {filter : Filter}
    (h : conjunction conditions = .ok filter) :
    ∃ tests, TestsFor conditions tests ∧ Gathers tests filter := by
  obtain ⟨tests, htests, h⟩ := Except.bind_eq_ok.mp h
  have htests := Except.mapM_eq_ok.mp htests
  refine ⟨tests, htests, ?_⟩
  split at h
  · next hnodup =>
    cases h
    exact .fields (fields_of_testsFor htests ▸ hnodup)
  · cases h
    exact .all

/-- The map of some tests has them as its members, perhaps in another order. -/
theorem toList_perm_of_once {tests : List (String × Test)} (once : (tests.map Prod.fst).Nodup) :
    (Record.ofList tests).toList.Perm tests :=
  (Record.toList_perm _).trans (.of_eq (Record.entries_ofList once))

theorem isFieldName_of_testsFor {conditions : List Condition} {tests : List (String × Test)}
    (h : TestsFor conditions tests)
    (hfields : ∀ condition ∈ conditions, IsFieldName condition.field) :
    ∀ test ∈ tests, IsFieldName test.1 := by
  intro test ht
  obtain ⟨condition, hc, hfield⟩ :=
    List.mem_map.mp (fields_of_testsFor h ▸ List.mem_map_of_mem (f := Prod.fst) ht)
  exact hfield ▸ hfields condition hc

/-- One map of fields and a list of maps of one field each say the same about conjoined tests. -/
theorem holds_of_gathers {tests : List (String × Test)} {filter : Filter}
    (h : Gathers tests filter) (hnames : ∀ test ∈ tests, IsFieldName test.1) :
    holds truth filter.document = tests.all fun test => truth test.1 test.2.document := by
  have hmembers : (tests.all fun test => memberHolds truth test.1 test.2.document) =
      tests.all fun test => truth test.1 test.2.document := by
    rw [Bool.eq_iff_iff, List.all_eq_true, List.all_eq_true]
    exact forall₂_congr fun test ht => by rw [memberHolds_field truth (hnames test ht)]
  rw [← hmembers]
  cases h with
  | fields once =>
    rw [Filter.document, Document.ofRecord, holds, membersHold_eq_all, List.all_map]
    exact (toList_perm_of_once once).all_eq
  | all =>
    have hand : holds truth (Filter.all tests).document =
        everyHolds truth (tests.map fun test => .object [member test]) := by
      rw [Filter.document, holds, membersHold, membersHold, Bool.and_true, memberHolds, if_pos rfl]
    rw [hand, everyHolds_eq_all, List.all_map]
    congr 1
    funext test
    rw [Function.comp_apply, holds, membersHold, membersHold, Bool.and_true, member]

/-- The filter of conjoined conditions holds iff each of them does. -/
theorem holds_conjunction {conditions : List Condition} {filter : Filter}
    (hfields : ∀ condition ∈ conditions, IsFieldName condition.field)
    (h : conjunction conditions = .ok filter) :
    holds truth filter.document = conditions.all (truthOf truth) := by
  obtain ⟨tests, htests, hgathers⟩ := gathers_of_conjunction h
  rw [all_truthOf_of_testsFor truth htests,
    holds_of_gathers truth hgathers (isFieldName_of_testsFor htests hfields)]

theorem holds_conjunctions {several : List (List Condition)} {filters : List Filter}
    (hfields : ∀ group ∈ several, ∀ condition ∈ group, IsFieldName condition.field)
    (h : List.Forall₂ (fun group filter => conjunction group = .ok filter) several filters) :
    (filters.any fun filter => holds truth filter.document) =
      several.any fun group => group.all (truthOf truth) := by
  induction h with
  | nil => rfl
  | cons hgroup hrest ih =>
    obtain ⟨hfirst, hothers⟩ := List.forall_mem_cons.mp hfields
    rw [List.any_cons, List.any_cons, ih hothers, holds_conjunction truth hfirst hgroup]

/-- The filter of a chain is that of its one group, or one of several. -/
theorem filterOf_precedence_eq_ok {conditions : List Condition} {filter : Filter}
    (h : (filterOf .precedence conditions).outcome = .ok filter) :
    (∃ group, groups conditions = [group] ∧ conjunction group = .ok filter) ∨
      ∃ filters, filter = .any filters ∧ (∀ group, groups conditions ≠ [group]) ∧
        List.Forall₂ (fun group filter => conjunction group = .ok filter) (groups conditions)
          filters := by
  unfold filterOf at h
  split at h
  · next group hgroup => exact .inl ⟨group, hgroup, h⟩
  · next hprecedence _ => cases hprecedence
  · next hseveral =>
    obtain ⟨filters, hfilters, h⟩ := Except.map_eq_ok.mp h
    exact .inr ⟨filters, h.symm, hseveral, Except.mapM_eq_ok.mp hfilters⟩

/-- The filter of a chain holds iff all conditions of one of its groups do. -/
theorem holds_filterOf {conditions : List Condition} {filter : Filter}
    (hfields : ∀ condition ∈ conditions, Sql.isIdentifier condition.field = true)
    (h : (filterOf .precedence conditions).outcome = .ok filter) :
    holds truth filter.document =
      (groups conditions).any fun group => group.all (truthOf truth) := by
  have hgroups : ∀ group ∈ groups conditions, ∀ condition ∈ group, IsFieldName condition.field :=
    fun group hg condition hc => isFieldName_of_isIdentifier
      (hfields condition (flatten_groups conditions ▸ List.mem_flatten_of_mem hg hc))
  rcases filterOf_precedence_eq_ok h with ⟨group, hgroup, hfilter⟩ | ⟨filters, rfl, -, hfilters⟩
  · rw [hgroup] at hgroups ⊢
    rw [holds_conjunction truth (hgroups group List.mem_cons_self) hfilter]
    simp
  · have hany : holds truth (Filter.any filters).document =
        someHolds truth (Filter.documents filters) := by
      rw [Filter.document, holds, membersHold, membersHold, Bool.and_true, memberHolds,
        if_neg (by decide), if_pos rfl]
    rw [hany, someHolds_eq_any, documents_eq_map, List.any_map]
    exact holds_conjunctions truth hgroups hfilters

theorem testsFor_conjunction {conditions : List Condition} {filter : Filter}
    (h : conjunction conditions = .ok filter) : ∃ tests, TestsFor conditions tests := by
  obtain ⟨tests, htests, -⟩ := gathers_of_conjunction h
  exact ⟨tests, htests⟩

/-- Every condition of a chain that has a filter has a test. -/
theorem testsFor_filterOf {conditions : List Condition} {filter : Filter}
    (h : (filterOf .precedence conditions).outcome = .ok filter) :
    ∃ tests, TestsFor conditions tests := by
  have hflatten : ∀ {several : List (List Condition)} {filters : List Filter},
      List.Forall₂ (fun group filter => conjunction group = .ok filter) several filters →
      ∃ tests, TestsFor several.flatten tests := by
    intro several filters hfilters
    induction hfilters with
    | nil => exact ⟨[], .nil⟩
    | cons hgroup hrest ih =>
      obtain ⟨tests, htests⟩ := testsFor_conjunction hgroup
      obtain ⟨more, hmore⟩ := ih
      exact ⟨tests ++ more, List.rel_append htests hmore⟩
  -- The tests were made group by group, and the groups make up the chain.
  rw [← flatten_groups conditions]
  rcases filterOf_precedence_eq_ok h with ⟨group, hgroup, hfilter⟩ | ⟨filters, rfl, -, hfilters⟩
  · rw [hgroup, List.flatten_singleton]
    exact testsFor_conjunction hfilter
  · exact hflatten hfilters

end Filters

/-! ## Queries -/

/-- The operations that choose what they are about. -/
def choosing : List Operation := [.select, .update, .delete, .count]

/-- The command of a query that chooses has the filter of its conditions. -/
theorem filter_of_render {disjunction : Disjunction} {query : Query} {command : Command}
    (ho : query.operation ∈ choosing) (h : (render disjunction query).outcome = .ok command) :
    ∃ filter, (filterOf disjunction query.conditions).outcome = .ok filter ∧
      command.arguments.lookup "filter" = some filter.document := by
  obtain ⟨-, hmade⟩ := render_eq_ok.mp h
  unfold commandOf at hmade
  simp only [choosing, List.mem_cons, List.not_mem_nil, or_false] at ho
  rcases ho with ho | ho | ho | ho <;> rw [ho] at hmade <;>
    obtain ⟨filter, hfilter, hmade⟩ := Traced.outcome_bind_eq_ok.mp hmade <;>
    cases hmade <;> exact ⟨filter, hfilter, rfl⟩

/-- A query that chooses is none that inserts. -/
theorem operation_ne_insert {query : Query} (ho : query.operation ∈ choosing) :
    query.operation ≠ .insert := fun h => absurd (h ▸ ho) (by decide)

/-- **A chain and its filter agree.**  Let a query that chooses be accepted for tables and, with
conjunction before disjunction, for documents.  Its text has the tokens of its conditions behind
`WHERE`, or no such clause if it has none; its command has a filter and a test for each condition;
and whatever is true of a field and what it is tested for, the filter holds iff the tokens that are
written read as true when each condition has the truth of its own test. -/
theorem filter_agrees {quoting : Sql.Quoting} {query : Query} {rendered : Sql.Rendered}
    {command : Command} (ho : query.operation ∈ choosing)
    (hs : (Sql.render quoting query).outcome = .ok rendered)
    (hd : (render .precedence query).outcome = .ok command) :
    ∃ (filter : Document) (tests : List (String × Test)),
      rendered.text =
        Sql.leadText quoting query ++
          Sql.chainText quoting " WHERE " (Sql.chainTokens query.conditions) ++
          Sql.tailText quoting query ∧
      command.arguments.lookup "filter" = some filter ∧
      TestsFor query.conditions tests ∧
      ∀ truth : String → Document → Bool,
        holds truth filter =
          Sql.reading ((Sql.chainTokens query.conditions).map (Sql.Token.map (truthOf truth))) := by
  obtain ⟨ha, -⟩ := Sql.render_eq hs
  obtain ⟨filter, hfilter, harguments⟩ := filter_of_render ho hd
  obtain ⟨tests, htests⟩ := testsFor_filterOf hfilter
  have hfields : ∀ condition ∈ query.conditions, Sql.isIdentifier condition.field = true :=
    fun condition hc => (ha.words.conditions condition (List.mem_append_left _ hc)).field
  refine ⟨filter.document, tests, Sql.text_of_filtering (operation_ne_insert ho) hs, harguments,
    htests, fun truth => ?_⟩
  rw [holds_filterOf truth hfields hfilter, ← reading_tokens, Sql.map_chainTokens]

/-- Two conditions on one field in one stretch, and a disjunction behind the last condition, which
is not written. -/
theorem filter_agrees_repeated_field :
    let query : Query := { Query.blank .select "users" with
      conditions := [⟨"age", .greater, .text "20", .and, "age"⟩,
        ⟨"age", .less, .text "30", .or, "age_2"⟩, ⟨"left_at", .isNull, .null, .or, "left_at"⟩] }
    let above : Document := .object [("$gt", .text "20")]
    let below : Document := .object [("$lt", .text "30")]
    let filter : Document := .object [("$or", .list
      [.object [("$and", .list [.object [("age", above)], .object [("age", below)]])],
        .object [("left_at", .null)]])]
    ∃ rendered command, (Sql.render .plain query).outcome = .ok rendered ∧
      (render .precedence query).outcome = .ok command ∧
      rendered.text = "SELECT * FROM users WHERE age > :age AND age < :age_2 OR left_at IS NULL" ∧
      command.arguments.lookup "filter" = some filter ∧
      ∀ truth : String → Document → Bool,
        holds truth filter = (truth "age" above && truth "age" below || truth "left_at" .null) := by
  intro query above below filter
  obtain ⟨rendered, hs⟩ := Except.exists_of_isOk
    (show (Sql.render .plain query).outcome.isOk = true by decide +kernel)
  obtain ⟨command, hd⟩ := Except.exists_of_isOk
    (show (render .precedence query).outcome.isOk = true by decide +kernel)
  obtain ⟨found, tests, htext, hfound, -, hholds⟩ := filter_agrees (by decide) hs hd
  have hmade : (render .precedence query).outcome.map (fun command =>
      command.arguments.lookup "filter") = .ok (some filter) := rfl
  rw [hd] at hmade
  obtain rfl : found = filter := Option.some.inj (hfound.symm.trans (Except.ok.inj hmade))
  refine ⟨rendered, command, hs, hd, htext.trans (by decide +kernel), hfound, fun truth => ?_⟩
  -- The stretches of the tokens are the first two conditions and the last one.
  rw [hholds]
  change (truth "age" above && (true && (truth "age" below && true)) ||
    (truth "left_at" .null && true || false)) = _
  simp only [Bool.true_and, Bool.and_true, Bool.or_false]

end CrudQuery.DocumentStore
