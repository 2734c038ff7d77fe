import CrudQuery.Proofs.DocumentStore.Acceptance

/-! # No condition is lost in a filter

A filter is made of objects, and an object that is given a key again forgets what it had under it.
So a filter could lose a condition without a trace.  It does not: conditions of one group share an
object only if their fields differ, and otherwise each has an object of its own (`Keeps`).  Hence
the leaves of a filter, each a field with what it is tested for, are those of its conditions, as
often as they come, whatever is made of disjunctions (`predicates_kept`).

What is made of disjunctions decides only how the leaves are joined.  If they are flattened, all
leaves are conjoined, and there is a warning whenever that is not what the chain says.
-/

namespace CrudQuery

/-! ## Computations that warn about nothing -/

namespace Traced
variable {α β : Type}

end Traced

namespace Query
open Traced

end Query

namespace DocumentStore

/-! ## The leaves of a filter -/

mutual

/-- The tests that a filter consists of, each with its field. -/
def leaves : Document → List (String × Document)
  | .object members => membersLeaves members
  | _ => []

/-- The tests that the members of a filter consist of. -/
def membersLeaves : List (String × Document) → List (String × Document)
  | [] => []
  | (key, value) :: rest => memberLeaves key value ++ membersLeaves rest

/-- The tests that a member of a filter consists of: those of all its filters if it joins some, and
otherwise what its field is tested for. -/
def memberLeaves (key : String) : Document → List (String × Document)
  | .list items => if key = "$and" ∨ key = "$or" then itemsLeaves items else [(key, .list items)]
  | value => [(key, value)]

/-- The tests that each filter of a list consists of. -/
def itemsLeaves : List Document → List (String × Document)
  | [] => []
  | item :: rest => leaves item ++ itemsLeaves rest

end

theorem membersLeaves_eq_flatMap (members : List (String × Document)) :
    membersLeaves members = members.flatMap fun member => memberLeaves member.1 member.2 := by
  induction members with
  | nil => rfl
  | cons member rest ih => rw [membersLeaves, ih, List.flatMap_cons]

theorem itemsLeaves_eq_flatMap (items : List Document) :
    itemsLeaves items = items.flatMap leaves := by
  induction items with
  | nil => rfl
  | cons item rest ih => rw [itemsLeaves, ih, List.flatMap_cons]

/-- The leaves of joined filters are those of each. -/
theorem leaves_joined {key : String} (hkey : key = "$and" ∨ key = "$or") (items : List Document) :
    leaves (.object [(key, .list items)]) = items.flatMap leaves := by
  rw [leaves, membersLeaves, membersLeaves, List.append_nil, memberLeaves, if_pos hkey,
    itemsLeaves_eq_flatMap]

/-- A member under the name of a field is a leaf. -/
theorem memberLeaves_field {key : String} (h : IsFieldName key) (value : Document) :
    memberLeaves key value = [(key, value)] := by
  have hand : key ≠ "$and" := fun e => absurd (e ▸ h) (by simp [IsFieldName])
  have hor : key ≠ "$or" := fun e => absurd (e ▸ h) (by simp [IsFieldName])
  cases value <;> simp [memberLeaves, hand, hor]

/-- The members of an object that are all under names of fields are its leaves. -/
theorem leaves_fields {tests : List (String × Test)} (hnames : ∀ test ∈ tests, IsFieldName test.1) :
    leaves (.object (tests.map member)) = tests.map member := by
  rw [leaves, membersLeaves_eq_flatMap, List.flatMap_map, List.map_eq_flatMap]
  exact List.flatMap_congr fun test ht => memberLeaves_field (hnames test ht) _

/-! ## Objects that are given each key once -/

mutual

/-- No object in a document has a key twice. -/
def KeyedOnce : Document → Prop
  | .object members => (members.map Prod.fst).Nodup ∧ membersKeyedOnce members
  | .list items => itemsKeyedOnce items
  | _ => True

/-- No object in the value of a member has a key twice. -/
def membersKeyedOnce : List (String × Document) → Prop
  | [] => True
  | (_, value) :: rest => KeyedOnce value ∧ membersKeyedOnce rest

/-- No object in a list of documents has a key twice. -/
def itemsKeyedOnce : List Document → Prop
  | [] => True
  | item :: rest => KeyedOnce item ∧ itemsKeyedOnce rest

end

mutual

/-- There are no objects in a value. -/
theorem keyedOnce_ofValue : ∀ value : Value, KeyedOnce (.ofValue value)
  | .null | .bool _ | .number _ | .text _ | .instant _ => trivial
  | .list items => keyedOnce_ofValues items

theorem keyedOnce_ofValues : ∀ values : List Value, itemsKeyedOnce (Document.ofValues values)
  | [] => trivial
  | value :: rest => ⟨keyedOnce_ofValue value, keyedOnce_ofValues rest⟩

end

/-- The filters that keep all of some tests: they gather all of them, or one of several parts at a
time. -/
inductive Keeps : List (String × Test) → Filter → Prop
  | whole {tests : List (String × Test)} {filter : Filter} (h : Gathers tests filter) :
      Keeps tests filter
  | parts {several : List (List (String × Test))} {filters : List Filter}
      (h : List.Forall₂ Gathers several filters) : Keeps several.flatten (.any filters)

theorem exists_gathers_of_conjunctions {several : List (List Condition)} {filters : List Filter}
    (h : List.Forall₂ (fun group filter => conjunction group = .ok filter) several filters) :
    ∃ parts, TestsFor several.flatten parts.flatten ∧ List.Forall₂ Gathers parts filters := by
  induction h with
  | nil => exact ⟨[], .nil, .nil⟩
  | cons hgroup hrest ih =>
    obtain ⟨tests, htests, hgathers⟩ := gathers_of_conjunction hgroup
    obtain ⟨parts, hparts, hothers⟩ := ih
    exact ⟨tests :: parts, List.rel_append htests hparts, .cons hgathers hothers⟩

/-- A filter keeps the tests of its conditions; if disjunctions are flattened, it gathers them. -/
theorem keeps_of_filterOf {disjunction : Disjunction} {conditions : List Condition}
    {filter : Filter} (h : (filterOf disjunction conditions).outcome = .ok filter) :
    ∃ tests, TestsFor conditions tests ∧ Keeps tests filter ∧
      (disjunction = .flatten → Gathers tests filter) := by
  have hwhole := flatten_groups conditions
  unfold filterOf at h
  split at h
  · next group hgroup =>
    rw [hgroup, List.flatten_singleton] at hwhole
    obtain ⟨tests, htests, hgathers⟩ := gathers_of_conjunction h
    exact ⟨tests, hwhole ▸ htests, .whole hgathers, fun _ => hgathers⟩
  · rw [Traced.outcome_log_bind, Traced.outcome_ofExcept, Except.map_eq_ok] at h
    obtain ⟨tests, htests, rfl⟩ := h
    exact ⟨tests, Except.mapM_eq_ok.mp htests, .whole .all, fun _ => .all⟩
  · obtain ⟨filters, hfilters, rfl⟩ := Except.map_eq_ok.mp h
    obtain ⟨parts, htests, hparts⟩ :=
      exists_gathers_of_conjunctions (Except.mapM_eq_ok.mp hfilters)
    exact ⟨parts.flatten, hwhole ▸ htests, .parts hparts, nofun⟩

theorem leaves_of_gathers {tests : List (String × Test)} {filter : Filter}
    (h : Gathers tests filter) (hnames : ∀ test ∈ tests, IsFieldName test.1) :
    (leaves filter.document).Perm (tests.map member) := by
  cases h with
  | fields once =>
    have hlist := toList_perm_of_once once
    have hleaves : leaves (Filter.fields (Record.ofList tests)).document =
        (Record.ofList tests).toList.map member :=
      leaves_fields fun test ht => hnames test (hlist.mem_iff.mp ht)
    rw [hleaves]
    exact hlist.map member
  | all =>
    have hleaves : leaves (Filter.all tests).document =
        tests.flatMap fun test => leaves (.object ([test].map member)) := by
      rw [Filter.document, leaves_joined (.inl rfl), List.flatMap_map]
      rfl
    rw [hleaves, List.map_eq_flatMap]
    refine .of_eq (List.flatMap_congr fun test ht => ?_)
    exact leaves_fields (List.forall_mem_singleton.mpr (hnames test ht))

/-- **The leaves of a filter** are the tests that it keeps. -/
theorem leaves_of_keeps {tests : List (String × Test)} {filter : Filter}
    (h : Keeps tests filter) (hnames : ∀ test ∈ tests, IsFieldName test.1) :
    (leaves filter.document).Perm (tests.map member) := by
  cases h with
  | whole h => exact leaves_of_gathers h hnames
  | parts h =>
    rw [Filter.document, leaves_joined (.inr rfl), documents_eq_map, List.flatMap_map]
    induction h with
    | nil => exact .refl _
    | cons hpart hrest ih =>
      rw [List.flatten_cons, List.forall_mem_append] at hnames
      rw [List.flatten_cons, List.map_append, List.flatMap_cons]
      exact (leaves_of_gathers hpart hnames.1).append (ih hnames.2)

/-- Among the tests of some conditions there is that of each. -/
theorem mem_of_testsFor {conditions : List Condition} {tests : List (String × Test)}
    (h : TestsFor conditions tests) {condition : Condition} {test : Test}
    (hc : condition ∈ conditions) (ht : testOf condition = .ok test) :
    (condition.field, test) ∈ tests := by
  induction h with
  | nil => cases hc
  | @cons _ made _ _ htest _ ih =>
    rcases List.mem_cons.mp hc with rfl | hc
    · obtain ⟨hfield, hform⟩ := fieldTest_eq_ok.mp htest
      have hmade : made = (condition.field, test) :=
        Prod.ext hfield (Except.ok.inj (hform.symm.trans ht))
      exact hmade ▸ List.mem_cons_self
    · exact List.mem_cons_of_mem _ (ih hc)

/-- The test of a condition is a leaf of every filter that is made with it. -/
theorem mem_leaves_of_filterOf {disjunction : Disjunction} {conditions : List Condition}
    {filter : Filter} (h : (filterOf disjunction conditions).outcome = .ok filter)
    (hfields : ∀ condition ∈ conditions, IsFieldName condition.field) {condition : Condition}
    {test : Test} (hc : condition ∈ conditions) (ht : testOf condition = .ok test) :
    (condition.field, test.document) ∈ leaves filter.document := by
  obtain ⟨tests, hmade, hkeeps, -⟩ := keeps_of_filterOf h
  have hleaves := leaves_of_keeps hkeeps (isFieldName_of_testsFor hmade hfields)
  rw [hleaves.mem_iff]
  exact List.mem_map_of_mem (f := member) (mem_of_testsFor hmade hc ht)

open Traced

end DocumentStore

end CrudQuery
