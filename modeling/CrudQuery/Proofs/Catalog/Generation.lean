import CrudQuery.Proofs.Catalog.Refusal

/-! # The default queries of an entity, all or none

Making a query for every verb either fails or makes them all.  Directives, tenants and the target are
read off the entity and not off the verb, so what stands in the way of one query stands in the way
of the first one already, and the walk goes no further.  Only an update can have a reason of its own,
namely that every column is managed, and such an update is left out and ends nothing.
-/

namespace CrudQuery

/-- A computation that is rescued ends as it would have, or else as what was done about its fault. -/
theorem Traced.outcome_rescue {α : Type} (x : Traced α) (handle : Fault → Traced α) :
    (x.rescue handle).outcome = x.outcome.tryCatch fun fault => (handle fault).outcome := by
  unfold Traced.rescue
  cases h : x.outcome with
  | ok a => exact h
  | error fault => rfl

namespace Catalog

/-- An update needs a column that is not managed; any other verb needs none. -/
def Offers (entity : Entity) (verb : Verb) : Prop :=
  verb = .update → ∃ column ∈ entity.columns, column ∉ ["id", "created_at", "deleted_at"]

instance (entity : Entity) : DecidablePred (Offers entity) := fun verb =>
  inferInstanceAs (Decidable (verb = .update →
    ∃ column ∈ entity.columns, column ∉ ["id", "created_at", "deleted_at"]))

/-- The verbs that an entity has queries for, in the order in which queries are made. -/
def offered (entity : Entity) : List Verb := Verb.all.filter (Offers entity)

section
variable {entity : Entity}

/-- Behind the first query nothing can fail but an update that would have nothing to set. -/
theorem refusal?_of_get (h : refusal? entity .get = none) (verb : Verb) :
    refusal? entity verb = nothingToSet? entity verb := by
  obtain ⟨hresolution, hget⟩ := Option.or_eq_none_iff.mp h
  obtain ⟨-, htarget⟩ := Option.or_eq_none_iff.mp hget
  rw [refusal?, hresolution, htarget, Option.none_or, Option.or_none]

theorem outcome_defaultQuery_of_get (h : refusal? entity .get = none) (verb : Verb) :
    (defaultQuery entity verb).outcome =
      Except.okUnless (nothingToSet? entity verb) (draftOf entity entity.resolved verb) := by
  rw [outcome_defaultQuery, refusal?_of_get h]

/-! ## One verb -/

/-- The fault of the first verb is not one that is rescued. -/
theorem outcome_generateVerb_get {fault : Fault} (h : refusal? entity .get = some fault) :
    (generateVerb entity .get).outcome = .error fault := by
  unfold generateVerb
  rw [Traced.outcome_rescue, Traced.outcome_bind, outcome_defaultQuery, h]
  cases refused_iff.mpr h with
  | managed _ _ update => cases update
  | _ => rfl

/-- If the first verb has a query, then so has each verb that is not left out. -/
theorem outcome_generateVerb (h : refusal? entity .get = none) (verb : Verb) :
    (generateVerb entity verb).outcome =
      .ok (if Offers entity verb then some (verb, draftOf entity entity.resolved verb)
        else none) := by
  have hoffers : Offers entity verb ↔ nothingToSet? entity verb = none := nothingToSet?_eq_none.symm
  simp only [hoffers]
  unfold generateVerb
  rw [Traced.outcome_rescue, Traced.outcome_bind, outcome_defaultQuery_of_get h]
  unfold nothingToSet?
  split <;> rfl

/-! ## All verbs -/

theorem outcome_generate (entity : Entity) :
    (generate entity).outcome =
      (Verb.all.mapM fun verb => (generateVerb entity verb).outcome) >>= fun made =>
        .ok (made.filterMap id) := by
  unfold generate
  rw [Traced.outcome_log_bind, Traced.outcome_bind, Traced.outcome_mapM]
  rfl

theorem generate_of_get_refused {fault : Fault} (h : refusal? entity .get = some fault) :
    (generate entity).outcome = .error fault := by
  rw [outcome_generate, Verb.all, List.mapM_cons, outcome_generateVerb_get h]
  rfl

theorem generate_of_get_made (h : refusal? entity .get = none) :
    (generate entity).outcome =
      .ok ((offered entity).map fun verb => (verb, draftOf entity entity.resolved verb)) := by
  have hwalk : (Verb.all.mapM fun verb => (generateVerb entity verb).outcome) =
      .ok (Verb.all.map fun verb =>
        if Offers entity verb then some (verb, draftOf entity entity.resolved verb) else none) := by
    simp only [outcome_generateVerb h]
    exact List.mapM_pure
  rw [outcome_generate, hwalk]
  refine congrArg Except.ok ?_
  rw [List.filterMap_map, Function.id_comp, ← List.filterMap_eq_map, offered,
    List.filterMap_filter]
  simp only [decide_eq_true_eq, Function.comp_apply]

end

/-- **Default queries are made for every verb or for none.**  Making them fails with the fault of the
first verb, if that has one; otherwise each verb has its default query, in order, but for an update of
an entity in which every column is managed. -/
theorem generate_outcome (entity : Entity) :
    (∀ fault, (generate entity).outcome = .error fault ↔
      (defaultQuery entity .get).outcome = .error fault) ∧
    ((∃ queries, (generate entity).outcome = .ok queries) ↔
      ∃ query, (defaultQuery entity .get).outcome = .ok query) ∧
    ∀ queries, (generate entity).outcome = .ok queries →
      queries.map Prod.fst = offered entity ∧
        ∀ made ∈ queries, (defaultQuery entity made.1).outcome = .ok made.2 := by
  have hget := outcome_defaultQuery entity .get
  cases h : refusal? entity .get with
  | some fault =>
    rw [generate_of_get_refused h, hget, h]
    simp [Except.okUnless]
  | none =>
    rw [generate_of_get_made h, hget, h]
    refine ⟨by simp [Except.okUnless], by simp [Except.okUnless], ?_⟩
    rintro _ ⟨⟩
    refine ⟨by simp [Function.comp_def], ?_⟩
    intro made hmade
    obtain ⟨verb, hverb, rfl⟩ := List.mem_map.mp hmade
    have hoffers : Offers entity verb := of_decide_eq_true (List.mem_filter.mp hverb).2
    rw [outcome_defaultQuery_of_get h, nothingToSet?_eq_none.mpr hoffers]
    rfl

/-- An update is left out if every column is managed, and also if there is none.  A directive that
is none ends it all, whatever the verbs are. -/
theorem generate_outcome_managed :
    let stamped : Entity := ⟨"Event", none,
      [⟨"id", none, none, []⟩, ⟨"at", some "when", none, [("db", "created_at")]⟩]⟩
    let columnless : Entity := ⟨"Event", none, [⟨"deleted_at", some "-", none, []⟩]⟩
    let related : Entity := ⟨"Event", some "", [⟨"id", none, none, [("astql", "relation:x")]⟩]⟩
    (∃ queries, (generate stamped).outcome = .ok queries ∧
      queries.map Prod.fst = [.get, .list, .create, .delete, .count] ∧
      ∀ made ∈ queries, (defaultQuery stamped made.1).outcome = .ok made.2) ∧
    (∃ queries, (generate columnless).outcome = .ok queries ∧
      queries.map Prod.fst = [.get, .list, .create, .delete, .count]) ∧
    (generate related).outcome = .error (.unsupportedDirective "id" "relation:x") := by
  intro stamped columnless related
  have hmanaged : offered stamped = [.get, .list, .create, .delete, .count] := by decide +kernel
  have hnone : offered columnless = [.get, .list, .create, .delete, .count] := by decide +kernel
  obtain ⟨-, hstamped, hmade⟩ := generate_outcome stamped
  obtain ⟨-, hcolumnless, hother⟩ := generate_outcome columnless
  obtain ⟨queries, hqueries⟩ := hstamped.mpr (Except.exists_of_isOk (by decide +kernel))
  obtain ⟨others, hothers⟩ := hcolumnless.mpr (Except.exists_of_isOk (by decide +kernel))
  refine ⟨⟨queries, hqueries, hmanaged ▸ hmade queries hqueries⟩,
    ⟨others, hothers, hnone ▸ (hother others hothers).1⟩, ?_⟩
  have hrefused : Refused related .get (.unsupportedDirective "id" "relation:x") :=
    .directive (by decide +kernel)
  refine ((generate_outcome related).1 _).mpr ?_
  rw [outcome_defaultQuery, refused_iff.mp hrefused]
  rfl

end Catalog

end CrudQuery
