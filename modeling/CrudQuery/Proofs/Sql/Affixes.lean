import CrudQuery.Proofs.Sql.RowNames
import Mathlib.Data.List.Pairwise

/-! # Names that meet

Names of four kinds are bound in one statement: those of conditions, those of conditions on groups,
those of assignments, and the two that an interval makes of its own.  Affixes tell the kinds apart
as long as no other name carries the same affix, which nothing prevents.  So what can meet is listed
(`Clash`): a value and a bound, a condition and one on groups, an assignment and a condition.  Where
the names of each kind are different among themselves (`NamesApart`), nothing else can
(`nodup_boundNames_iff`), and a query that lacks nothing else is refused for a name that is bound
twice if and only if there is such a meeting (`duplicate_of_apart`).
-/

namespace CrudQuery.Sql

/-! ## The names of two conditions -/

/-- A condition that binds one value, under its parameter. -/
def IsSingle (condition : Condition) : Prop :=
  condition.operator.arity? ∈ [some .binary, some .pattern, some .list]

/-- A condition that binds two bounds, under its parameter with suffixes. -/
def IsInterval (condition : Condition) : Prop := condition.operator.arity? = some .pair

theorem IsSingle.not_isInterval {condition : Condition} (h : IsSingle condition) :
    ¬ IsInterval condition := by
  intro hi
  rw [IsSingle, hi] at h
  exact absurd h (by decide)

theorem mem_conditionNames {condition : Condition} {name : String} :
    name ∈ conditionNames condition ↔
      (IsSingle condition ∧ name = condition.parameter) ∨
        (IsInterval condition ∧
          (name = lowName condition.parameter ∨ name = highName condition.parameter)) := by
  unfold conditionNames IsSingle IsInterval
  cases condition.operator.arity? with
  | none => simp
  | some arity => cases arity <;> simp

theorem nodup_conditionNames (condition : Condition) : (conditionNames condition).Nodup := by
  unfold conditionNames
  split
  · exact List.nodup_singleton _
  · exact List.nodup_singleton _
  · exact List.nodup_singleton _
  · simp [lowName_ne_highName]
  · exact List.nodup_nil
  · exact List.nodup_nil

/-- A value that is bound under the name of a bound. -/
structure OnBound (value range : Condition) : Prop where
  single : IsSingle value
  interval : IsInterval range
  taken : value.parameter = lowName range.parameter ∨
    value.parameter = highName range.parameter

/-- Conditions with one parameter that make the same names of it. -/
structure SameNames (condition other : Condition) : Prop where
  parameter : condition.parameter = other.parameter
  form : (IsSingle condition ∧ IsSingle other) ∨ (IsInterval condition ∧ IsInterval other)

/-- Conditions that have no name in common. -/
def Separate (condition other : Condition) : Prop :=
  (conditionNames condition).Disjoint (conditionNames other)

instance : Std.Symm Separate := ⟨fun _ _ h _ hother hcondition => h hcondition hother⟩

section Pairs
variable {condition other : Condition}

theorem OnBound.mem (h : OnBound condition other) :
    condition.parameter ∈ conditionNames condition ∧
      condition.parameter ∈ conditionNames other :=
  ⟨mem_conditionNames.mpr (.inl ⟨h.single, rfl⟩),
    mem_conditionNames.mpr (.inr ⟨h.interval, h.taken⟩)⟩

/-- **When two conditions have no name in common.** -/
theorem separate_iff :
    Separate condition other ↔
      ¬ SameNames condition other ∧ ¬ OnBound condition other ∧ ¬ OnBound other condition := by
  constructor
  · intro hdisjoint
    refine ⟨?_, fun h => hdisjoint h.mem.1 h.mem.2, fun h => hdisjoint h.mem.2 h.mem.1⟩
    rintro ⟨hparameter, ⟨hc, ho⟩ | ⟨hc, ho⟩⟩
    · exact hdisjoint (mem_conditionNames.mpr (.inl ⟨hc, rfl⟩))
        (mem_conditionNames.mpr (.inl ⟨ho, hparameter⟩))
    · exact hdisjoint (mem_conditionNames.mpr (.inr ⟨hc, .inl rfl⟩))
        (mem_conditionNames.mpr (.inr ⟨ho, .inl (congrArg lowName hparameter)⟩))
  · rintro ⟨hsame, hbound, hbehind⟩ name hcondition hother
    rcases mem_conditionNames.mp hcondition with ⟨hc, rfl⟩ | ⟨hc, hname⟩ <;>
      rcases mem_conditionNames.mp hother with ⟨ho, hparameter⟩ | ⟨ho, htaken⟩
    · exact hsame ⟨hparameter, .inl ⟨hc, ho⟩⟩
    · exact hbound ⟨hc, ho, htaken⟩
    · exact hbehind ⟨ho, hc, hparameter ▸ hname⟩
    · -- Two intervals share a bound only if they share their parameter.
      refine hsame ⟨?_, .inr ⟨hc, ho⟩⟩
      rcases hname with rfl | rfl <;> rcases htaken with htaken | htaken
      · exact lowName_inj htaken
      · exact absurd htaken (lowName_ne_highName _ _)
      · exact absurd htaken.symm (lowName_ne_highName _ _)
      · exact highName_inj htaken

end Pairs

/-! ## The names of a query -/

section Chains
variable {conditions : List Condition}

theorem nodup_flatMap_conditionNames :
    (conditions.flatMap conditionNames).Nodup ↔ conditions.Pairwise Separate := by
  rw [List.nodup_flatMap]
  exact and_iff_right fun condition _ => nodup_conditionNames condition

/-- Conditions with different parameters meet at the bounds of intervals only. -/
theorem pairwise_separate_iff (h : (conditions.map Condition.parameter).Nodup) :
    conditions.Pairwise Separate ↔
      ∀ value ∈ conditions, ∀ range ∈ conditions, ¬ OnBound value range := by
  constructor
  · intro hpairs value hvalue range hrange hbound
    have hne : value ≠ range := fun e => hbound.single.not_isInterval (e ▸ hbound.interval)
    exact (separate_iff.mp (hpairs.forall hvalue hrange hne)).2.1 hbound
  · intro hnone
    refine (List.pairwise_map.mp h).imp_of_mem fun hc ho hne => ?_
    exact separate_iff.mpr ⟨fun hsame => hne hsame.parameter, hnone _ hc _ ho, hnone _ ho _ hc⟩

end Chains

/-- The names of each kind are different among themselves. -/
structure NamesApart (query : Query) : Prop where
  conditions : (query.conditions.map Condition.parameter).Nodup
  having : (query.having.map Condition.parameter).Nodup
  updates : (query.assignments.columns.map parameterName).Nodup
  columns : (query.insertColumns.map parameterName).Nodup

/-- Names of a query that meet although they are of different kinds. -/
inductive Clash (query : Query) : Prop
  /-- A value is bound under the name of a bound. -/
  | bound {value range : Condition} (value_mem : value ∈ query.writtenConditions)
      (range_mem : range ∈ query.writtenConditions) (taken : OnBound value range)
  /-- A condition has the names of a condition on groups. -/
  | having (operation : query.operation = .select) {condition group : Condition}
      (condition_mem : condition ∈ query.conditions) (group_mem : group ∈ query.having)
      (taken : SameNames condition group)
  /-- A condition binds the name of an assignment. -/
  | update (operation : query.operation = .update) {column : String} {condition : Condition}
      (column_mem : column ∈ query.assignments.columns)
      (condition_mem : condition ∈ query.conditions)
      (taken : "update_" ++ parameterName column ∈ conditionNames condition)

section Queries
variable {query : Query}

/-- Only queries that write conditions have names that could meet. -/
theorem Clash.operation (h : Clash query) :
    query.operation ∈ [.select, .update, .delete, .count] := by
  cases h with
  | bound hvalue =>
    cases ho : query.operation with
    | select | update | delete | count => decide
    | insert | other =>
      rw [Query.writtenConditions, ho] at hvalue
      cases hvalue
  | having ho | update ho => simp [ho]

/-- A select has two kinds of names and no assignments. -/
theorem pairwise_separate_select (h : NamesApart query) (hs : query.operation = .select) :
    (query.conditions ++ query.having).Pairwise Separate ↔ ¬ Clash query := by
  have hwritten : query.writtenConditions = query.conditions ++ query.having := by
    rw [Query.writtenConditions, hs]
  rw [List.pairwise_append, pairwise_separate_iff h.conditions, pairwise_separate_iff h.having]
  constructor
  · rintro ⟨hwhere, hhaving, hbetween⟩ hclash
    cases hclash with
    | bound hvalue hrange htaken =>
      rw [hwritten, List.mem_append] at hvalue hrange
      rcases hvalue with hvalue | hvalue <;> rcases hrange with hrange | hrange
      · exact hwhere _ hvalue _ hrange htaken
      · exact (separate_iff.mp (hbetween _ hvalue _ hrange)).2.1 htaken
      · exact (separate_iff.mp (hbetween _ hrange _ hvalue)).2.2 htaken
      · exact hhaving _ hvalue _ hrange htaken
    | having _ hcondition hgroup htaken =>
      exact (separate_iff.mp (hbetween _ hcondition _ hgroup)).1 htaken
    | update hu =>
      rw [hs] at hu
      cases hu
  · intro hclash
    have hbound : ∀ value ∈ query.conditions ++ query.having,
        ∀ range ∈ query.conditions ++ query.having, ¬ OnBound value range :=
      hwritten ▸ fun value hvalue range hrange htaken => hclash (.bound hvalue hrange htaken)
    obtain ⟨hwhere, hhaving⟩ := List.forall_mem_append.mp hbound
    refine ⟨fun value hvalue range hrange => ?_, fun value hvalue range hrange => ?_,
      fun condition hc group hg => separate_iff.mpr ⟨fun hsame => ?_, ?_, ?_⟩⟩
    · exact hwhere value hvalue range (List.mem_append_left _ hrange)
    · exact hhaving value hvalue range (List.mem_append_right _ hrange)
    · exact hclash (.having hs hc hg hsame)
    · exact hwhere condition hc group (List.mem_append_right _ hg)
    · exact hhaving group hg condition (List.mem_append_left _ hc)

/-- Where only one kind of conditions is written, they meet at bounds or at assignments. -/
theorem pairwise_separate_chain (h : NamesApart query)
    (hwritten : query.writtenConditions = query.conditions) (hs : query.operation ≠ .select) :
    query.conditions.Pairwise Separate ∧
        (query.operation = .update → ∀ column ∈ query.assignments.columns,
          ∀ condition ∈ query.conditions,
            "update_" ++ parameterName column ∉ conditionNames condition) ↔
      ¬ Clash query := by
  rw [pairwise_separate_iff h.conditions]
  constructor
  · rintro ⟨hbound, hupdate⟩ hclash
    cases hclash with
    | bound hvalue hrange htaken =>
      rw [hwritten] at hvalue hrange
      exact hbound _ hvalue _ hrange htaken
    | having ho => exact hs ho
    | update ho hcolumn hcondition htaken => exact hupdate ho _ hcolumn _ hcondition htaken
  · intro hclash
    refine ⟨fun value hvalue range hrange htaken => ?_, ?_⟩
    · rw [← hwritten] at hvalue hrange
      exact hclash (.bound hvalue hrange htaken)
    · exact fun ho column hcolumn condition hc htaken => hclash (.update ho hcolumn hc htaken)

theorem nodup_updateNames (h : NamesApart query) :
    (query.assignments.columns.map fun column => "update_" ++ parameterName column).Nodup := by
  have hprefixed := h.updates.map (f := ("update_" ++ ·))
    fun _ _ e => (String.append_right_inj _).mp e
  rwa [List.map_map] at hprefixed

/-- **When the names of a query meet.** -/
theorem nodup_boundNames_iff (h : NamesApart query) (ho : query.operation ≠ .insert) :
    (boundNames query).Nodup ↔ ¬ Clash query := by
  cases hs : query.operation with
  | select =>
    rw [← pairwise_separate_select h hs, ← nodup_flatMap_conditionNames, boundNames,
      Query.writtenConditions, hs]
  | insert => exact absurd hs ho
  | update =>
    rw [← pairwise_separate_chain h (by rw [Query.writtenConditions, hs]) (by simp [hs]),
      ← nodup_flatMap_conditionNames, boundNames, Query.writtenConditions, hs, List.nodup_append,
      and_iff_right (nodup_updateNames h), List.forall_mem_map]
    refine and_congr_right fun _ => ?_
    constructor
    · intro hdifferent _ column hcolumn condition hc htaken
      exact hdifferent column hcolumn _ (List.mem_flatMap.mpr ⟨condition, hc, htaken⟩) rfl
    · rintro hdifferent column hcolumn name hname rfl
      obtain ⟨condition, hc, htaken⟩ := List.mem_flatMap.mp hname
      exact hdifferent rfl column hcolumn condition hc htaken
  | delete | count =>
    rw [← pairwise_separate_chain h (by rw [Query.writtenConditions, hs]) (by simp [hs]),
      ← nodup_flatMap_conditionNames, boundNames, Query.writtenConditions, hs]
    simp
  | other name =>
    rw [boundNames, Query.writtenConditions, hs]
    refine iff_of_true List.nodup_nil fun hclash => ?_
    exact absurd hclash.operation (by simp [hs])

/-! ## Refusals -/

variable {quoting : Quoting} {name : String}

/-- A query that is refused for a name binds one twice. -/
theorem not_nodup_of_duplicate
    (h : (render quoting query).outcome = .error (.duplicateParameter name)) :
    ¬ (boundNames query).Nodup := by
  have hstep := (statementOf_of_duplicate h).2
  by_cases hknown : query.operation ∈ kinds
  · rcases statementOf_eq_error hknown hstep with hname | ⟨-, hrow⟩ | hconditions
    · exact hname.2
    · cases hrow
    · exact (failsWith_mapM_predicateOf _ _ hconditions).elim
  · rw [statementOf_of_unknown hknown] at hstep
    cases hstep

/-- A query that binds a name twice and lacks nothing else is refused for a name. -/
theorem exists_duplicate (ha : Accepted query) (hknown : query.operation ∈ kinds)
    (hs : HasStatement query) (h : ¬ (boundNames query).Nodup) :
    ∃ name, (render quoting query).outcome = .error (.duplicateParameter name) := by
  cases hrendered : (render quoting query).outcome with
  | ok rendered => exact absurd ((exists_render_iff quoting).mp ⟨rendered, hrendered⟩).distinct h
  | error fault =>
    rcases statementOf_eq_error hknown (statementOf_of_accepted ha hrendered) with
      ⟨⟨name, rfl⟩, -⟩ | ⟨ho, hrow⟩ | hconditions
    · exact ⟨name, rfl⟩
    · cases hrow with
      | empty missing => exact absurd missing (hs.columns ho)
      | mismatched found other => exact absurd (hs.uniform ho _ (List.mem_of_getElem? found)) other
    · obtain ⟨predicates, hpredicates⟩ := Except.exists_mapM_eq_ok.mpr fun condition hc =>
        exists_predicateOf_iff.mpr (hs.conditions condition hc)
      rw [Traced.outcome_mapM, hpredicates] at hconditions
      cases hconditions

/-- **What affixes keep apart.**  A query whose names are different kind by kind is refused for a
name that is bound twice only if two kinds meet; and then it is, unless it lacks something else. -/
theorem duplicate_of_apart (h : NamesApart query) (quoting : Quoting) :
    (¬ Clash query → ∀ name,
      (render quoting query).outcome ≠ .error (.duplicateParameter name)) ∧
    (Clash query → Accepted query → HasStatement query →
      ∃ name, (render quoting query).outcome = .error (.duplicateParameter name)) := by
  constructor
  · intro hclash name hrender
    by_cases ho : query.operation = .insert
    · have hstep := (statementOf_of_duplicate hrender).2
      rw [statementOf, ho] at hstep
      cases insertOf_eq_error h.columns hstep
    · exact not_nodup_of_duplicate hrender ((nodup_boundNames_iff h ho).mpr hclash)
  · intro hclash ha hs
    have hknown : query.operation ∈ kinds ∧ query.operation ≠ .insert := by
      have hchoosing := hclash.operation
      revert hchoosing
      cases query.operation <;> simp [kinds]
    exact exists_duplicate ha hknown.1 hs fun hn =>
      (nodup_boundNames_iff h hknown.2).mp hn hclash

end Queries

end CrudQuery.Sql
