import CrudQuery.Proofs.Draft.Naming
import CrudQuery.Proofs.Sql.Derivation

/-! # Runs on identifiers

A call that restricts makes the name for its value of its field, unless it is of the one kind that
gives a name.  If no call of a run gives one and the fields are identifiers, the names are therefore
derived from identifiers, and no check of a parameter can fail for them (`wellNamed_applyAll`).
This is so of every query with conditions that a run made, whatever else stands in the query and in
whatever order it has them.
-/

namespace CrudQuery

namespace Call
variable {call : Call} {condition : Condition}

/-- A call that gives no name has it made of the field. -/
theorem parameter_of_restriction? (hunnamed : call.givesName = false)
    (h : call.restriction? = some condition) :
    condition.parameter = parameterName condition.field := by
  cases call
  case filterAs => cases hunnamed
  all_goals cases h <;> rfl

theorem parameter_of_having? (h : call.having? = some condition) :
    condition.parameter = "having_" ++ parameterName condition.field := by
  cases call <;> cases h
  rfl

end Call

/-- No call of a run gives a name, and the fields that its conditions are on are accepted. -/
structure OnIdentifiers (calls : List Call) : Prop where
  unnamed : ∀ call ∈ calls, call.givesName = false
  restricting : ∀ condition ∈ calls.filterMap Call.restriction?,
    (Sql.requireIdentifier condition.field).outcome = .ok ()
  having : ∀ condition ∈ calls.filterMap Call.having?,
    (Sql.requireIdentifier condition.field).outcome = .ok ()

namespace Draft
variable {operation : Operation} {target : String} {calls : List Call}

/-- But for its connector a condition of a run is what one of the calls says. -/
theorem mem_conditions_applyAll {condition : Condition}
    (h : condition ∈ ((start operation target).applyAll calls).conditions) :
    { condition with connector := .and } ∈ calls.filterMap Call.restriction? := by
  have hchained : Chained calls ((start operation target).applyAll calls).conditions :=
    chained_applyAll
  rw [← hchained.restrictions]
  exact List.mem_map_of_mem h

/-- **A run on identifiers makes no bad name**, for any query that has its conditions. -/
theorem wellNamed_applyAll (h : OnIdentifiers calls) {query : Query}
    (hconditions : query.conditions ⊆ ((start operation target).applyAll calls).conditions)
    (hhaving : query.having ⊆ ((start operation target).applyAll calls).having) :
    Sql.WellNamed query := by
  have hmade : ∀ condition ∈ query.conditions ++ query.having,
      (Sql.requireIdentifier condition.field).outcome = .ok () ∧
        Sql.Derived condition.field condition.parameter := by
    intro condition hc
    rcases List.mem_append.mp hc with hc | hc
    · have hsaid := mem_conditions_applyAll (hconditions hc)
      obtain ⟨call, hcall, hrestriction⟩ := List.mem_filterMap.mp hsaid
      have haccepted := h.restricting _ hsaid
      have hparameter := Call.parameter_of_restriction? (h.unnamed call hcall) hrestriction
      exact ⟨haccepted, hparameter ▸ .parameter⟩
    · have hsaid := hhaving hc
      rw [having_applyAll] at hsaid
      obtain ⟨call, -, hgroup⟩ := List.mem_filterMap.mp hsaid
      exact ⟨h.having _ hsaid, Call.parameter_of_having? hgroup ▸ .having .parameter⟩
  exact Sql.wellNamed_of_derived
    (fun condition hc => Sql.requireIdentifier_eq_ok.mp (hmade condition hc).1)
    fun condition hc => (hmade condition hc).2

/-- A name that a call gives is taken as it is, and refused when it is checked. -/
example :
    (Sql.checkWords ((start .select "users").applyAll
      [.filterAs "age" .equal .null "no word"])).outcome =
        .error (.invalidWord .parameter "no word") := by rfl

/-- **Identifiers and what is made of them.**  A text is accepted as an identifier iff it is short
enough and is one word, or two with a dot between them, and is refused otherwise; every name that is
derived from an accepted text can be the name of a parameter; and so a query whose conditions come
from a run on accepted fields, in which no call gives a name, is never refused for the name of a
parameter.  That one name is bound twice is another matter. -/
theorem identifiers_derived :
    (∀ s, Sql.Judged s) ∧
      ∀ operation target calls, OnIdentifiers calls → ∀ query : Query,
        query.conditions ⊆ ((start operation target).applyAll calls).conditions →
        query.having ⊆ ((start operation target).applyAll calls).having →
          Sql.WellNamed query :=
  ⟨Sql.judged, fun _ _ _ h _ hconditions hhaving => wellNamed_applyAll h hconditions hhaving⟩

/-- A field with a table before it, the same text with a line break behind it, and a run that asks
for an interval, for a disjunction and for an interval of groups. -/
theorem identifiers_derived_qualified :
    let calls : List Call := [.filterBetween "u.age" (.text "20") (.text "30"),
      .orFilter "u.id" .equal .null, .having "u.id" .between (.list [.null, .null])]
    (Sql.requireIdentifier "u.id").outcome = .ok () ∧
      (Sql.requireParameter "having_u_id_lo").outcome = .ok () ∧
      (∃ fault, (Sql.requireIdentifier "u.id\n").outcome = .error fault ∧
        fault.kind = "InvalidIdentifier") ∧
      OnIdentifiers calls ∧ Sql.WellNamed ((start .select "users").applyAll calls) ∧
      Sql.boundNames ((start .select "users").applyAll calls) =
        ["u_age_lo", "u_age_hi", "u_id", "having_u_id_lo", "having_u_id_hi"] := by
  intro calls
  obtain ⟨hjudged, hruns⟩ := identifiers_derived
  have haccepted : (Sql.requireIdentifier "u.id").outcome = .ok () :=
    Sql.requireIdentifier_eq_ok.mpr (by decide)
  have hname : "having_" ++ parameterName "u.id" ++ "_lo" = "having_u_id_lo" := by decide +kernel
  have hderived : Sql.Derived "u.id" "having_u_id_lo" := hname ▸ .low (.having .parameter)
  have hbroken : ¬ ("u.id\n".length ≤ 128 ∧ Sql.Identifier "u.id\n".toList) := by
    rw [← Sql.isIdentifier_iff]
    decide
  obtain ⟨fault, hfault, hreport⟩ := (hjudged "u.id\n").refused hbroken
  have hcalls : OnIdentifiers calls :=
    ⟨by decide, by simp only [Sql.requireIdentifier_eq_ok]; decide +kernel,
      by simp only [Sql.requireIdentifier_eq_ok]; decide +kernel⟩
  exact ⟨haccepted, (hjudged "u.id").derived haccepted _ hderived,
    ⟨fault, hfault, congrArg Report.kind hreport⟩, hcalls,
    hruns _ _ _ hcalls _ (List.Subset.refl _) (List.Subset.refl _), by decide +kernel⟩

end Draft

end CrudQuery
