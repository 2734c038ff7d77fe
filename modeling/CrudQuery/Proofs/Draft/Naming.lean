import CrudQuery.Proofs.Draft.Chain
import CrudQuery.Proofs.Draft.Content
import CrudQuery.Proofs.Sql.Affixes

/-! # The names of a run

A run of calls names what it binds by the fields it is about.  If the calls that restrict are about
different fields, and so are those that restrict groups, and no field has a dot, the names are
different kind by kind (`apart_applyAll`); assignments and the columns of rows are so by
themselves.  Whether names of two kinds meet is then read off the query that is built
(`build_duplicate`), and they can: a field may be called what another one is called with an affix
(`names_meet`).
-/

namespace CrudQuery

namespace Call

/-- The condition on groups that a call adds, if it adds one. -/
def having? : Call → Option Condition
  | having column operator value =>
    some ⟨column, operator, value, .and, "having_" ++ parameterName column⟩
  | _ => none

theorem having_steps (call : Call) :
    call.steps.filterMap Draft.Clause.having.part? = call.having?.toList := by
  cases call
  case fields | groupBy | returning => simp [steps, Draft.Clause.having, having?]
  all_goals rfl

/-- Whether a call gives the name that its value is bound under. -/
def givesName : Call → Bool
  | filterAs .. => true
  | _ => false

/-- What tells a call that restricts from another one: the name that it gives for its value or, if
it gives none, its field. -/
def told? : Call → Option String
  | filterAs _ _ _ parameter => some parameter
  | call => call.restriction?.map Condition.field

/-- The fields that a call gives values for. -/
def valued : Call → List String
  | having column _ _ | assign column _ => [column]
  | values record => record.keys
  | call => (call.restriction?.map Condition.field).toList

/-- A call that restricts binds its value under what it is told by. -/
theorem parameter_restriction? {call : Call} (h : ∀ field ∈ call.valued, '.' ∉ field.toList) :
    call.restriction?.map Condition.parameter = call.told? := by
  cases call <;> first
    | rfl
    | exact congrArg some (Sql.parameterName_of_not_mem (h _ List.mem_cons_self))

end Call

/-- The calls of a run that restrict are about different fields, and so are those that restrict
groups; and no field has a dot. -/
structure Told (calls : List Call) : Prop where
  restricting : (calls.filterMap Call.told?).Nodup
  having : ((calls.filterMap Call.having?).map Condition.field).Nodup
  dotless : ∀ call ∈ calls, ∀ field ∈ call.valued, '.' ∉ field.toList

namespace Draft
variable {operation : Operation} {target : String} {calls : List Call}

theorem having_applyAll :
    ((start operation target).applyAll calls).having = calls.filterMap Call.having? := by
  rw [applyAll_eq_steps]
  exact (Clause.having.read_steps _ _).trans (Call.filterMap_steps Call.having_steps calls)

theorem parameters_applyAll :
    ((start operation target).applyAll calls).conditions.map Condition.parameter =
      (calls.filterMap Call.restriction?).map Condition.parameter := by
  have hchained : Chained calls ((start operation target).applyAll calls).conditions :=
    chained_applyAll
  rw [← hchained.restrictions, List.map_map]
  rfl

/-- **The names of a run** are different kind by kind. -/
theorem apart_applyAll (h : Told calls) :
    Sql.NamesApart ((start operation target).applyAll calls) where
  conditions := by
    have htold : calls.filterMap (fun call => call.restriction?.map Condition.parameter) =
        calls.filterMap Call.told? :=
      List.filterMap_congr fun call hcall => Call.parameter_restriction? (h.dotless call hcall)
    rw [parameters_applyAll, List.map_filterMap, htold]
    exact h.restricting
  having := by
    rw [having_applyAll]
    have hparameters : (calls.filterMap Call.having?).map Condition.parameter =
        ((calls.filterMap Call.having?).map Condition.field).map ("having_" ++ ·) := by
      rw [List.map_map]
      refine List.map_congr_left fun condition hc => ?_
      obtain ⟨call, hcall, hcondition⟩ := List.mem_filterMap.mp hc
      cases call <;> cases hcondition
      have hdotless := h.dotless _ hcall _ List.mem_cons_self
      exact congrArg ("having_" ++ ·) (Sql.parameterName_of_not_mem hdotless)
    rw [hparameters]
    exact h.having.map fun _ _ e => (String.append_right_inj _).mp e
  updates := by
    rw [Query.assignments, updates_applyAll]
    split
    · have hnone : Row.columns [] = [] := rfl
      refine Sql.nodup_parameterNames (Row.nodup_columns_assignAll (hnone ▸ List.nodup_nil) _) ?_
      intro column hcolumn
      obtain ⟨cell, hcell, rfl⟩ := List.mem_map.mp
        ((Row.mem_columns_assignAll.mp hcolumn).resolve_left List.not_mem_nil)
      obtain ⟨call, hcall, hassigned⟩ := List.mem_filterMap.mp hcell
      cases call <;> cases hassigned
      exact h.dotless _ hcall _ List.mem_cons_self
    · exact List.nodup_nil
  columns := by
    rw [Query.insertColumns, Query.insertRows, rows_applyAll]
    split
    · cases hrecords : calls.filterMap Call.record? with
      | nil => exact List.nodup_nil
      | cons record rest =>
        have hkeys := Row.columns_ofRecord_perm record
        refine Sql.nodup_parameterNames (hkeys.nodup_iff.mpr record.keys_nodup) ?_
        intro column hcolumn
        obtain ⟨call, hcall, hrecord⟩ := List.mem_filterMap.mp
          (hrecords ▸ List.mem_cons_self : record ∈ calls.filterMap Call.record?)
        cases call <;> cases hrecord
        exact h.dotless _ hcall _ (hkeys.mem_iff.mp hcolumn)
    · exact List.nodup_nil

/-- The name that an outcome says is bound twice. -/
def takenName? {α : Type} : Except Fault α → Option String
  | .error (.duplicateParameter name) => some name
  | _ => none

theorem eq_error_of_takenName? {α : Type} {x : Except Fault α} {name : String}
    (h : takenName? x = some name) : x = .error (.duplicateParameter name) := by
  unfold takenName? at h
  split at h <;> cases h
  rfl

/-- **Which runs are refused for a name.** Let a query be built by calls that are about different
fields.  Rendering it fails for a name that is bound twice only if a name that one clause makes with
an affix is a name that another one has; and then it does fail, unless something else is wrong. -/
theorem build_duplicate (h : Told calls) {query : Query}
    (hb : ((start operation target).applyAll calls).build.outcome = .ok (.ok query))
    (quoting : Sql.Quoting) :
    (¬ Sql.Clash query → ∀ name,
      (Sql.render quoting query).outcome ≠ .error (.duplicateParameter name)) ∧
    (Sql.Clash query → Sql.Accepted query → Sql.HasStatement query →
      ∃ name, (Sql.render quoting query).outcome = .error (.duplicateParameter name)) := by
  obtain ⟨-, rfl⟩ := build_eq_ok.mp hb
  exact Sql.duplicate_of_apart (apart_applyAll h) quoting

/-- A run that sets the field it restricts, and one that asks for an interval of a field and for a
field that is called like the lower bound. -/
theorem build_duplicate_prefixed :
    let prefixed : List Call := [.filter "name" .equal .null, .assign "name" .null]
    let meeting : List Call := [.filterBetween "age" .null .null, .filter "age_lo" .equal .null]
    (Told prefixed ∧
      ∃ query, ((start .update "users").applyAll prefixed).build.outcome = .ok (.ok query) ∧
        ¬ Sql.Clash query ∧ ∀ quoting name,
          (Sql.render quoting query).outcome ≠ .error (.duplicateParameter name)) ∧
    (Told meeting ∧
      ∃ query, ((start .select "users").applyAll meeting).build.outcome = .ok (.ok query) ∧
        Sql.Clash query ∧ ∀ quoting, ∃ name,
          (Sql.render quoting query).outcome = .error (.duplicateParameter name)) := by
  intro prefixed meeting
  have hprefixed : Told prefixed := ⟨by decide +kernel, by decide +kernel, by decide +kernel⟩
  have hmeeting : Told meeting := ⟨by decide +kernel, by decide +kernel, by decide +kernel⟩
  have hseparate : ¬ Sql.Clash ((start .update "users").applyAll prefixed) :=
    (Sql.nodup_boundNames_iff (apart_applyAll hprefixed) (by decide)).mp (by decide +kernel)
  have hclash : Sql.Clash ((start .select "users").applyAll meeting) := by
    by_contra hnone
    exact absurd ((Sql.nodup_boundNames_iff (apart_applyAll hmeeting) (by decide)).mpr hnone)
      (by decide +kernel)
  have hforms : ∀ condition ∈ Query.writtenConditions ((start .select "users").applyAll meeting),
      (Sql.predicateOf condition).outcome.isOk = true := by decide +kernel
  have hstatement : Sql.HasStatement ((start .select "users").applyAll meeting) :=
    ⟨fun condition hc =>
        Sql.exists_predicateOf_iff.mp (Except.exists_of_isOk (hforms condition hc)),
      fun ho => absurd ho (by decide), fun ho => absurd ho (by decide)⟩
  have haccepted : Sql.Accepted ((start .select "users").applyAll meeting) :=
    .of_checkWords (by decide +kernel) rfl rfl (by decide +kernel)
  have hbuilt : ((start .update "users").applyAll prefixed).build.outcome = .ok (.ok _) :=
    build_eq_ok.mpr ⟨by decide +kernel, rfl⟩
  have hbuiltMeeting : ((start .select "users").applyAll meeting).build.outcome = .ok (.ok _) :=
    build_eq_ok.mpr ⟨haccepted.valid, rfl⟩
  exact ⟨⟨hprefixed, _, hbuilt, hseparate,
      fun quoting => (build_duplicate hprefixed hbuilt quoting).1 hseparate⟩,
    ⟨hmeeting, _, hbuiltMeeting, hclash, fun quoting =>
      (build_duplicate hmeeting hbuiltMeeting quoting).2 hclash haccepted hstatement⟩⟩

/-- Runs that are refused for a name although they are about different fields, as far as their
calls do not give names: one for each affix that a field can carry, and one that gives a name to two
values. -/
theorem names_meet :
    let runs : List (Operation × List Call × String) :=
      [(.select, [.filterBetween "age" (.number 3) (.number 5), .filter "age_lo" .equal (.number 3)],
          "age_lo"),
        (.select, [.filter "having_n" .equal .null, .having "n" .greater .null], "having_n"),
        (.update, [.filter "update_n" .equal .null, .assign "n" .null], "update_n"),
        (.select, [.filterAs "n" .equal .null "p", .filterAs "m" .equal .null "p"], "p")]
    ∀ run ∈ runs,
      (∀ call ∈ run.2.1, ∀ field ∈ call.valued,
        Sql.isIdentifier field = true ∧ '.' ∉ field.toList) ∧
      (((run.2.1.filter (!·.givesName)).filterMap Call.restriction?).map Condition.field).Nodup ∧
      ((run.2.1.filterMap Call.having?).map Condition.field).Nodup ∧
      ∃ query, ((start run.1 "users").applyAll run.2.1).build.outcome = .ok (.ok query) ∧
        (Sql.render .plain query).outcome = .error (.duplicateParameter run.2.2) := by
  intro runs
  have hfields : ∀ run ∈ runs,
      (∀ call ∈ run.2.1, ∀ field ∈ call.valued,
        Sql.isIdentifier field = true ∧ '.' ∉ field.toList) ∧
      (((run.2.1.filter (!·.givesName)).filterMap Call.restriction?).map
        Condition.field).Nodup ∧
      ((run.2.1.filterMap Call.having?).map Condition.field).Nodup := by decide +kernel
  have houtcomes : ∀ run ∈ runs,
      ((start run.1 "users").applyAll run.2.1).violation? = none ∧
      takenName? (Sql.render .plain ((start run.1 "users").applyAll run.2.1)).outcome =
        some run.2.2 := by decide +kernel
  intro run hrun
  obtain ⟨hcalls, hrestricting, hhaving⟩ := hfields run hrun
  obtain ⟨hvalid, htaken⟩ := houtcomes run hrun
  exact ⟨hcalls, hrestricting, hhaving, _, build_eq_ok.mpr ⟨hvalid, rfl⟩,
    eq_error_of_takenName? htaken⟩

end Draft

end CrudQuery
