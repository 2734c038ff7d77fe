import CrudQuery.Proofs.DocumentStore.Truth
import CrudQuery.Proofs.Draft

/-! # Chains that are composed call by call

The connector of a condition stands behind it, but a call that asks for a disjunction asks for one
before what it brings, and the condition it changes was brought by an earlier call, with any number
of other calls in between.  So what a call says is kept apart from where it ends up: a run brings
links, conditions with what is to stand before each (`linksOf`), and the chain of the run is what
they amount to when every word is moved to the condition before it (`linked`,
`conditions_applyAll`).  What the first link asks for moves nowhere.

Both backends take the words back to where the calls had them, tables by writing them between two
predicates (`spoken`) and documents by opening a group (`opens`).
-/

namespace CrudQuery

/-! ## The calls that restrict -/

/-- A condition that a step brings, and whether a disjunction is to stand before it. -/
def Step.link? : Step → Option (Condition × Bool)
  | restrict condition disjoined => some (condition, disjoined)
  | _ => none

namespace Call

/-- The condition that a call adds to the chain, if it adds one. -/
def restriction? : Call → Option Condition
  | filter column operator value | orFilter column operator value =>
    some ⟨column, operator, value, .and, parameterName column⟩
  | filterAs column operator value parameter => some ⟨column, operator, value, .and, parameter⟩
  | filterNull column => some ⟨column, .isNull, .null, .and, parameterName column⟩
  | filterNotNull column => some ⟨column, .isNotNull, .null, .and, parameterName column⟩
  | filterIn column items => some ⟨column, .memberOf, .list items, .and, parameterName column⟩
  | filterNotIn column items =>
    some ⟨column, .notMemberOf, .list items, .and, parameterName column⟩
  | filterBetween column low high =>
    some ⟨column, .between, .list [low, high], .and, parameterName column⟩
  | filterLike column pattern => some ⟨column, .like, .text pattern, .and, parameterName column⟩
  | _ => none

/-- Whether a call adds a condition to the chain. -/
def restricts (call : Call) : Bool := call.restriction?.isSome

/-- What a call says about the chain. -/
def link? (call : Call) : Option (Condition × Bool) :=
  call.restriction?.map fun condition => (condition, call.isDisjoined)

/-- A call that restricts takes one step to do so, and no other call takes such a step. -/
theorem links_steps (call : Call) : call.steps.filterMap Step.link? = call.link?.toList := by
  cases call
  case fields | groupBy | returning => simp [steps, Step.link?, link?, restriction?]
  all_goals rfl

end Call

/-- What the calls of a run say about the chain, in order. -/
def linksOf (calls : List Call) : List (Condition × Bool) := calls.filterMap Call.link?

/-- Of the calls that restrict all but the first, with whether each puts a disjunction before its
condition. -/
def disjunctions (calls : List Call) : List Bool :=
  ((calls.filter Call.restricts).map Call.isDisjoined).tail

theorem fst_linksOf (calls : List Call) :
    (linksOf calls).map Prod.fst = calls.filterMap Call.restriction? := by
  simp only [linksOf, List.map_filterMap, Call.link?, Option.map_map, Function.comp_def,
    Option.map_id']

theorem snd_linksOf (calls : List Call) :
    ((linksOf calls).map Prod.snd).tail = disjunctions calls := by
  unfold disjunctions linksOf
  congr 1
  induction calls with
  | nil => rfl
  | cons call rest ih =>
    rw [List.filterMap_cons, List.filter_cons, Call.link?, Call.restricts]
    cases call.restriction? with
    | none => exact ih
    | some condition => exact congrArg _ ih

theorem connector_of_mem_linksOf {calls : List Call} {link : Condition × Bool}
    (h : link ∈ linksOf calls) : link.1.connector = .and := by
  obtain ⟨call, -, hlink⟩ := List.mem_filterMap.mp h
  obtain ⟨condition, hcondition, rfl⟩ := Option.map_eq_some_iff.mp hlink
  cases call <;> cases hcondition <;> rfl

/-! ## The chain of a run -/

/-- The chain of some links: what is to stand before a condition is the connector of the one before
it. -/
def linked : List (Condition × Bool) → List Condition
  | [] => []
  | [last] => [last.1]
  | link :: next :: rest =>
    (if next.2 then { link.1 with connector := .or } else link.1) :: linked (next :: rest)

namespace Draft

/-- A link more is what a step does to a chain. -/
theorem linked_concat (links : List (Condition × Bool)) (condition : Condition)
    (disjoined : Bool) :
    linked (links ++ [(condition, disjoined)]) =
      (if disjoined then endInOr (linked links) else linked links) ++ [condition] := by
  induction links with
  | nil => cases disjoined <;> rfl
  | cons link rest ih =>
    cases rest with
    | nil => cases disjoined <;> rfl
    | cons next rest =>
      change _ :: linked (next :: rest ++ [(condition, disjoined)]) = _
      rw [ih]
      cases disjoined with
      | false => rfl
      | true =>
        -- The chain of two links or more does not end with the first condition.
        cases rest <;> rfl

/-- A step adds its link to the chain, if it has one. -/
theorem step_linked {draft : Draft} {links : List (Condition × Bool)} (step : Step)
    (h : draft.conditions = linked links) :
    (draft.step step).conditions = linked (links ++ step.link?.toList) := by
  cases step with
  | restrict condition disjoined =>
    change (if disjoined then endInOr draft.conditions else draft.conditions) ++ [condition] = _
    rw [h]
    exact (linked_concat links condition disjoined).symm
  | _ => exact h.trans (congrArg linked (List.append_nil links).symm)

/-- A run adds its links to the chain, in order. -/
theorem steps_linked {draft : Draft} {links : List (Condition × Bool)} (taken : List Step)
    (h : draft.conditions = linked links) :
    (draft.steps taken).conditions = linked (links ++ taken.filterMap Step.link?) := by
  induction taken generalizing draft links with
  | nil => simpa [steps] using h
  | cons step rest ih =>
    have hrest := ih (step_linked step h)
    change ((draft.step step).steps rest).conditions = _
    rw [hrest, List.append_assoc, List.filterMap_cons]
    cases step.link? <;> rfl

/-- **The chain of a run** that begins with an empty one is that of its links. -/
theorem conditions_applyAll (operation : Operation) (target : String) (calls : List Call) :
    ((start operation target).applyAll calls).conditions = linked (linksOf calls) := by
  rw [applyAll_eq_steps, linksOf, ← Call.filterMap_steps Call.links_steps]
  exact @steps_linked _ [] _ rfl

end Draft

/-- The condition in a place of a chain is that of its link, with the word before the next one. -/
theorem getElem?_linked (links : List (Condition × Bool)) (k : Nat) :
    (linked links)[k]? =
      links[k]?.map fun link =>
        if (links.tail.map Prod.snd).getD k false then { link.1 with connector := .or }
        else link.1 := by
  induction links generalizing k with
  | nil => rfl
  | cons link rest ih =>
    cases rest with
    | nil => cases k <;> rfl
    | cons next rest =>
      cases k with
      | zero => simp [linked]
      | succ k =>
        rw [linked, List.getElem?_cons_succ, ih, List.getElem?_cons_succ]
        rfl

/-- Between two conditions of a chain stands what the link of the second one asks for. -/
theorem between_linked {links : List (Condition × Bool)}
    (h : ∀ link ∈ links, link.1.connector = .and) :
    ((linked links).map fun condition => condition.connector.isOr).dropLast =
      (links.map Prod.snd).tail := by
  induction links with
  | nil => rfl
  | cons link rest ih =>
    obtain ⟨hlink, hrest⟩ := List.forall_mem_cons.mp h
    cases rest with
    | nil => rfl
    | cons next rest =>
      have hne : (linked (next :: rest)).map (fun condition => condition.connector.isOr) ≠ [] := by
        cases rest <;> simp [linked]
      rw [linked, List.map_cons, List.dropLast_cons_of_ne_nil hne, ih hrest]
      cases hword : next.2 <;> simp [hword, hlink, Connector.isOr]

/-! ## What becomes of it -/

namespace Sql

/-- Tokens with a word before each atom but the first. -/
def spoken {α : Type} (disjoined : List Bool) : List α → List (Token α)
  | [] => []
  | first :: rest =>
    .atom first :: (disjoined.zip rest).flatMap fun link =>
      [if link.1 then .or else .and, .atom link.2]

/-- Tokens are the same when each word is said before the atom behind it. -/
theorem tokens_eq_spoken {α : Type} (links : List (α × Bool)) :
    tokens links = spoken (links.map Prod.snd).dropLast (links.map Prod.fst) := by
  induction links with
  | nil => rfl
  | cons link rest ih =>
    cases rest with
    | nil => rfl
    | cons next rest =>
      rw [tokens, ih]
      simp [spoken]

end Sql

namespace DocumentStore

/-- For every member of some groups, one after another, whether it is the first of its group. -/
def opens {α : Type} (several : List (List α)) : List Bool :=
  several.flatMap fun
    | [] => []
    | _ :: rest => true :: rest.map fun _ => false

theorem groups_ne_nil_of_mem {conditions : List Condition} (h : conditions ≠ []) :
    ∀ group ∈ groups conditions, group ≠ [] := by
  induction conditions with
  | nil => exact absurd rfl h
  | cons condition rest ih =>
    cases rest with
    | nil => simp [groups]
    | cons next rest =>
      obtain ⟨group, others, hgroups⟩ := List.exists_cons_of_ne_nil (groups_ne_nil (next :: rest))
      have hbehind := ih (by simp)
      rw [hgroups] at hbehind
      rw [groups_cons_cons hgroups]
      split
      · exact List.forall_mem_cons.mpr ⟨by simp, hbehind⟩
      · exact List.forall_mem_cons.mpr ⟨by simp, (List.forall_mem_cons.mp hbehind).2⟩

/-- Behind the first condition of a chain, one opens a group iff a disjunction stands before it. -/
theorem tail_opens_groups (conditions : List Condition) :
    (opens (groups conditions)).tail =
      (conditions.map fun condition => condition.connector.isOr).dropLast := by
  induction conditions with
  | nil => rfl
  | cons condition rest ih =>
    cases rest with
    | nil => rfl
    | cons next rest =>
      obtain ⟨group, others, hgroups⟩ := List.exists_cons_of_ne_nil (groups_ne_nil (next :: rest))
      have hgroup : group ≠ [] :=
        groups_ne_nil_of_mem (List.cons_ne_nil next rest) group (by rw [hgroups]; simp)
      obtain ⟨first, behind, rfl⟩ := List.exists_cons_of_ne_nil hgroup
      rw [hgroups] at ih
      rw [groups_cons_cons hgroups, List.map_cons, List.dropLast_cons_of_ne_nil (by simp), ← ih]
      cases condition.connector.isOr <;> simp [opens, List.replicate_succ]

/-- The filter of some groups: that of the only one, or one of several. -/
def anyOf : List Filter → Document
  | [only] => only.document
  | several => .object [("$or", .list (several.map Filter.document))]

/-- The filter of a command is made of the groups of the conditions. -/
theorem filter_of_groups {query : Query} {command : Command} (ho : query.operation ∈ choosing)
    (h : (render .precedence query).outcome = .ok command) :
    ∃ filters, List.Forall₂ (fun group filter => conjunction group = .ok filter)
        (groups query.conditions) filters ∧
      command.arguments.lookup "filter" = some (anyOf filters) := by
  obtain ⟨filter, hfilter, harguments⟩ := filter_of_render ho h
  rcases filterOf_precedence_eq_ok hfilter with
    ⟨group, hgroup, hmade⟩ | ⟨filters, rfl, hseveral, hfilters⟩
  · rw [hgroup]
    exact ⟨[filter], .cons hmade .nil, harguments⟩
  · refine ⟨filters, hfilters, harguments.trans ?_⟩
    rw [Filter.document, documents_eq_map, anyOf]
    -- There are as many filters as groups, so there are several.
    rintro only rfl
    obtain ⟨group, hgroup⟩ := List.length_eq_one_iff.mp hfilters.length_eq
    exact hseveral group hgroup

end DocumentStore

/-! ## Runs -/

/-- A chain is the one that some calls ask for. -/
structure Chained (calls : List Call) (conditions : List Condition) : Prop where
  /-- There is one condition for each call that restricts, in the order of the calls, and but for
  its connector it is what the call says. -/
  restrictions : conditions.map (fun condition => { condition with connector := .and }) =
    calls.filterMap Call.restriction?
  /-- Behind a condition stands a disjunction iff the call of the next one asks for it; behind the
  last one stands none. -/
  connectors : ∀ k condition, conditions[k]? = some condition →
    condition.connector = if (disjunctions calls).getD k false then .or else .and

/-- A query that chooses is what the calls of its run say, in either backend. -/
structure Followed (calls : List Call) (query : Query) : Prop where
  /-- In the text the word before each condition but the first is ` OR ` iff its call asks for a
  disjunction, and ` AND ` otherwise. -/
  statement : ∀ quoting rendered, (Sql.render quoting query).outcome = .ok rendered →
    rendered.text =
      Sql.leadText quoting query ++
        Sql.chainText quoting " WHERE " (Sql.spoken (disjunctions calls) query.conditions) ++
        Sql.tailText quoting query
  /-- In the filter each condition but the first opens a group of its own iff its call asks for a
  disjunction. -/
  command : ∀ command, (DocumentStore.render .precedence query).outcome = .ok command →
    ∃ (groups : List (List Condition)) (filters : List DocumentStore.Filter),
      command.arguments.lookup "filter" = some (DocumentStore.anyOf filters) ∧
      List.Forall₂ (fun group filter => DocumentStore.conjunction group = .ok filter) groups
        filters ∧
      groups.flatten = query.conditions ∧
      (query.conditions ≠ [] → ∀ group ∈ groups, group ≠ []) ∧
      (DocumentStore.opens groups).tail = disjunctions calls

namespace Draft
variable {operation : Operation} {target : String} {calls : List Call}

theorem chained_applyAll : Chained calls ((start operation target).applyAll calls).conditions where
  restrictions := by
    rw [conditions_applyAll, ← fst_linksOf]
    refine List.ext_getElem? fun k => ?_
    rw [List.getElem?_map, List.getElem?_map, getElem?_linked, Option.map_map]
    cases hlink : (linksOf calls)[k]? with
    | none => rfl
    | some link =>
      have hand := connector_of_mem_linksOf (List.mem_of_getElem? hlink)
      obtain ⟨⟨field, operator, value, connector, parameter⟩, disjoined⟩ := link
      cases hand
      simp only [Option.map_some, Function.comp_apply]
      split <;> rfl
  connectors := by
    intro k condition h
    rw [conditions_applyAll, getElem?_linked, List.map_tail, snd_linksOf] at h
    obtain ⟨link, hlink, rfl⟩ := Option.map_eq_some_iff.mp h
    have hand := connector_of_mem_linksOf (List.mem_of_getElem? hlink)
    split
    · rfl
    · exact hand

/-- Between two conditions stands a disjunction iff the call of the second one asks for it. -/
theorem between_applyAll :
    (((start operation target).applyAll calls).conditions.map fun condition =>
      condition.connector.isOr).dropLast = disjunctions calls := by
  rw [conditions_applyAll, between_linked fun _ => connector_of_mem_linksOf, snd_linksOf]

/-- **Disjunctions stand where the calls put them.**  Whatever calls a query is built by, its
conditions are those of the calls that restrict, in order, with a disjunction before each condition
whose call asks for one, save the first of all; and both backends render it so. -/
theorem build_chained {query : Query}
    (h : ((start operation target).applyAll calls).build.outcome = .ok (.ok query)) :
    Chained calls query.conditions ∧
      (operation ∈ DocumentStore.choosing → Followed calls query) := by
  obtain rfl := (build_eq_ok.mp h).2
  refine ⟨chained_applyAll, fun hchoosing => ?_⟩
  have ho : ((start operation target).applyAll calls).operation ∈ DocumentStore.choosing := by
    rw [applyAll_operation]
    exact hchoosing
  refine ⟨fun quoting rendered hs => ?_, fun command hd => ?_⟩
  · have htokens : Sql.chainTokens ((start operation target).applyAll calls).conditions =
        Sql.spoken (disjunctions calls) ((start operation target).applyAll calls).conditions := by
      rw [Sql.chainTokens_eq, Sql.tokens_eq_spoken, List.map_map, List.map_map, ← between_applyAll]
      exact congrArg (Sql.spoken _) (List.map_id _)
    rw [← htokens]
    exact Sql.text_of_filtering (DocumentStore.operation_ne_insert ho) hs
  · obtain ⟨filters, hfilters, harguments⟩ := DocumentStore.filter_of_groups ho hd
    refine ⟨_, filters, harguments, hfilters, DocumentStore.flatten_groups _,
      DocumentStore.groups_ne_nil_of_mem, ?_⟩
    rw [DocumentStore.tail_opens_groups, between_applyAll]

/-- A disjunction that is asked for first stands nowhere, and two that are asked for one after
another, with a call of another kind between them, stand where they were asked for. -/
theorem build_chained_disjoined :
    let calls : List Call := [.orFilter "age" .greater (.text "20"), .limit 10,
      .filterNull "left_at", .orFilter "city" .equal (.text "Bern"), .orderByAsc "age",
      .orFilter "city_code" .equal (.text "BE"), .filterLike "name" "A%"]
    let filter : Document := .object [("$or", .list
      [.object [("age", .object [("$gt", .text "20")]), ("left_at", .null)],
        .object [("city", .text "Bern")],
        .object [("city_code", .text "BE"),
          ("name", .object [("$regex", .text "^A.*$"), ("$options", .text "i")])]])]
    ∃ query rendered command,
      ((start .select "users").applyAll calls).build.outcome = .ok (.ok query) ∧
      (Sql.render .plain query).outcome = .ok rendered ∧
      (DocumentStore.render .precedence query).outcome = .ok command ∧
      disjunctions calls = [false, true, true, false] ∧
      rendered.text = "SELECT * FROM users WHERE age > :age AND left_at IS NULL " ++
        "OR city = :city OR city_code = :city_code AND name LIKE :name " ++
        "ORDER BY age ASC LIMIT 10" ∧
      command.arguments.lookup "filter" = some filter ∧
      Chained calls query.conditions ∧ Followed calls query := by
  intro calls filter
  obtain ⟨rendered, hs⟩ := Except.exists_of_isOk
    (show (Sql.render .plain ((start .select "users").applyAll calls)).outcome.isOk = true by
      decide +kernel)
  obtain ⟨command, hd⟩ := Except.exists_of_isOk
    (show (DocumentStore.render .precedence
      ((start .select "users").applyAll calls)).outcome.isOk = true by decide +kernel)
  have hquery := build_eq_ok.mpr
    ⟨show ((start .select "users").applyAll calls).violation? = none by decide, rfl⟩
  obtain ⟨hchained, hfollowed⟩ := build_chained hquery
  have hfollowed := hfollowed (by decide)
  obtain ⟨made, hmade, harguments⟩ := DocumentStore.filter_of_render (by decide) hd
  have hfilter : (DocumentStore.filterOf .precedence
      ((start .select "users").applyAll calls).conditions).outcome.map
        DocumentStore.Filter.document = .ok filter := by
    subst calls filter
    rfl
  rw [hmade] at hfilter
  exact ⟨_, rendered, command, hquery, hs, hd, rfl,
    (hfollowed.statement .plain rendered hs).trans (by decide +kernel),
    harguments.trans (congrArg some (Except.ok.inj hfilter)), hchained, hfollowed⟩

end Draft

end CrudQuery
