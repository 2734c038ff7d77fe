import CrudQuery.Proofs.Draft

/-! # Calls on different clauses

Every step of a draft is about one part of it, and two steps on different parts can change places
(`step_comm`): neither reads what the other writes.  So a step can be taken before all steps on
other parts that were taken before it, and a run is known from what it does to each part
(`steps_congr`): the first step of one run is, among the steps on its part, the first of the other
run too, and can be brought to the front there.

Calls are about one part each as well, save that a call for a page is one for its size and one for
its beginning (`Call.spelledOut`).  Which other calls stand between two calls on a part, and how
many, therefore plays no part in what is built (`build_interleaved`).
-/

namespace CrudQuery

/-- A part of a draft that is put together by steps of its own. -/
inductive Part where
  | projection
  | filter
  | joins
  | ordering
  | grouping
  | having
  | limit
  | offset
  | rows
  | assignments
  | returning
  | hints
  deriving Repr, DecidableEq

/-- The part that a step is about. -/
def Step.part : Step → Part
  | project _ => .projection
  | restrict .. => .filter
  | join _ => .joins
  | sort _ => .ordering
  | group _ => .grouping
  | having _ => .having
  | limit _ => .limit
  | offset _ => .offset
  | row _ => .rows
  | assign .. => .assignments
  | giveBack _ => .returning
  | hint _ => .hints

namespace Call

/-- A call by calls that are about one part each: a call for a page is one for its size, and then
one for its beginning. -/
def spelledOut : Call → List Call
  | paginate page size => [limit size, offset ((page - 1) * size)]
  | call => [call]

/-- The part that a call is about, unless it is about two. -/
def part? : Call → Option Part
  | fields _ | field .. => some .projection
  | filter .. | filterAs .. | orFilter .. | filterNull _ | filterNotNull _ | filterIn ..
  | filterNotIn .. | filterBetween .. | filterLike .. => some .filter
  | join .. | innerJoin .. | leftJoin .. => some .joins
  | orderBy .. | orderByAsc _ | orderByDesc _ => some .ordering
  | groupBy _ => some .grouping
  | having .. => some .having
  | limit _ => some .limit
  | offset _ => some .offset
  | paginate .. => none
  | values _ => some .rows
  | assign .. => some .assignments
  | returning _ => some .returning
  | hint .. => some .hints

theorem steps_spelledOut (call : Call) : call.spelledOut.flatMap steps = call.steps := by
  cases call with
  | paginate page size => rfl
  | _ => exact List.append_nil _

/-- A call that is about one part takes steps on this part only. -/
theorem part_of_mem_steps {call : Call} {part : Part} (h : call.part? = some part) :
    ∀ step ∈ call.steps, step.part = part := by
  cases call <;> cases h <;> simp [steps, Step.onField, Step.part]

/-- Spelled out, every call is about one part. -/
theorem exists_part_of_mem_spelledOut {call said : Call} (h : said ∈ call.spelledOut) :
    ∃ part, said.part? = some part := by
  cases call with
  | paginate page size =>
    simp only [spelledOut, List.mem_cons, List.not_mem_nil, or_false] at h
    rcases h with rfl | rfl <;> exact ⟨_, rfl⟩
  | _ =>
    obtain rfl := List.mem_singleton.mp h
    exact ⟨_, rfl⟩

end Call

/-- The calls of a run, spelled out, that are about a part, in order. -/
def callsOn (part : Part) (calls : List Call) : List Call :=
  (calls.flatMap Call.spelledOut).filter fun call => call.part? = some part

/-- The steps of a run on a part are those of its calls on that part. -/
theorem steps_callsOn (part : Part) (calls : List Call) :
    (callsOn part calls).flatMap Call.steps =
      (calls.flatMap Call.steps).filter fun step => step.part = part := by
  have hsaid : ∀ said ∈ calls.flatMap Call.spelledOut,
      (if said.part? = some part then said.steps else []) =
        said.steps.filter fun step => step.part = part := by
    intro said hsaid
    obtain ⟨call, -, hcall⟩ := List.mem_flatMap.mp hsaid
    obtain ⟨own, hown⟩ := Call.exists_part_of_mem_spelledOut hcall
    have hsteps := Call.part_of_mem_steps hown
    split
    · next h =>
      refine (List.filter_eq_self.mpr fun step hstep => decide_eq_true ?_).symm
      exact (hsteps step hstep).trans (Option.some.inj (hown.symm.trans h))
    · next h =>
      refine (List.filter_eq_nil_iff.mpr fun step hstep hpart => h ?_).symm
      rw [hown, ← hsteps step hstep, of_decide_eq_true hpart]
  have hspelled : calls.flatMap Call.steps =
      (calls.flatMap Call.spelledOut).flatMap Call.steps := by
    rw [List.flatMap_assoc]
    exact List.flatMap_congr fun call _ => (Call.steps_spelledOut call).symm
  rw [hspelled, List.filter_flatMap, callsOn, ← List.flatMap_congr hsaid]
  induction calls.flatMap Call.spelledOut with
  | nil => rfl
  | cons said rest ih =>
    rw [List.filter_cons, List.flatMap_cons, ← ih]
    by_cases h : said.part? = some part <;> simp [h]

namespace Draft

/-- Steps on different parts can change places. -/
theorem step_comm (draft : Draft) {first second : Step} (h : first.part ≠ second.part) :
    (draft.step first).step second = (draft.step second).step first := by
  -- Either both are on one part, or each writes a field that the other one does not look at.
  cases first <;> cases second <;> first | exact absurd rfl h | rfl

/-- A step can be taken before all steps on other parts. -/
theorem steps_to_front (draft : Draft) {front : List Step} {moved : Step}
    (h : ∀ step ∈ front, step.part ≠ moved.part) (rest : List Step) :
    draft.steps (front ++ moved :: rest) = draft.steps (moved :: (front ++ rest)) := by
  induction front generalizing draft with
  | nil => rfl
  | cons step front ih =>
    obtain ⟨hstep, hfront⟩ := List.forall_mem_cons.mp h
    calc draft.steps (step :: front ++ moved :: rest)
        = (draft.step step).steps (moved :: (front ++ rest)) := ih (draft.step step) hfront
      _ = ((draft.step step).step moved).steps (front ++ rest) := rfl
      _ = ((draft.step moved).step step).steps (front ++ rest) := by rw [step_comm draft hstep]
      _ = draft.steps (moved :: (step :: front ++ rest)) := rfl

/-- **Runs that do the same to each part** do the same. -/
theorem steps_congr (draft : Draft) {taken others : List Step}
    (h : ∀ part, (taken.filter fun step => step.part = part) =
      others.filter fun step => step.part = part) :
    draft.steps taken = draft.steps others := by
  induction taken generalizing draft others with
  | nil =>
    -- A step of the other run would be one on its own part.
    have hnone : others = [] := List.eq_nil_iff_forall_not_mem.mpr fun step hstep =>
      List.filter_eq_nil_iff.mp (h step.part).symm step hstep (decide_eq_true rfl)
    rw [hnone]
  | cons moved rest ih =>
    have hown : (others.filter fun step => step.part = moved.part) =
        moved :: rest.filter fun step => step.part = moved.part := by
      rw [← h moved.part]
      exact List.filter_cons_of_pos (decide_eq_true rfl)
    obtain ⟨front, behind, rfl, hfront, -, hbehind⟩ := List.filter_eq_cons_iff.mp hown
    have hothers : ∀ step ∈ front, step.part ≠ moved.part :=
      fun step hstep hpart => hfront step hstep (decide_eq_true hpart)
    rw [steps_to_front draft hothers]
    refine ih (draft.step moved) fun part => ?_
    by_cases hpart : moved.part = part
    · subst hpart
      rw [List.filter_append, List.filter_eq_nil_iff.mpr hfront, hbehind, List.nil_append]
    · have hrest := h part
      rw [List.filter_append, List.filter_cons_of_neg (by simpa using hpart),
        List.filter_cons_of_neg (by simpa using hpart), ← List.filter_append] at hrest
      exact hrest

variable {operation : Operation} {target : String} {calls others : List Call}

/-- **Calls on different clauses are independent.**  Two runs of calls that say the same of each
part of a query, in whatever order they go from part to part, build the same query or lack the
same. -/
theorem build_interleaved (h : ∀ part, callsOn part calls = callsOn part others) :
    ((start operation target).applyAll calls).build =
      ((start operation target).applyAll others).build := by
  have hsteps : ∀ part, ((calls.flatMap Call.steps).filter fun step => step.part = part) =
      (others.flatMap Call.steps).filter fun step => step.part = part := by
    intro part
    rw [← steps_callsOn, ← steps_callsOn, h part]
  rw [applyAll_eq_steps, applyAll_eq_steps, steps_congr _ hsteps]

/-- A call for a page says what two calls say that are far apart, a disjunction goes before the
condition of its own call, and what an update does not take is left out wherever it stands. -/
theorem build_interleaved_page :
    let calls : List Call := [.orFilter "age" .greater (.text "20"), .paginate 3 20,
      .assign "name" .null, .filterNull "left_at", .values .empty, .limit 5,
      .orFilter "city" .equal (.text "Bern"), .assign "age" .null, .assign "name" (.text "A"),
      .returning ["*"]]
    let others : List Call := [.values .empty, .limit 20, .returning ["*"], .assign "name" .null,
      .orFilter "age" .greater (.text "20"), .limit 5, .assign "age" .null, .filterNull "left_at",
      .orFilter "city" .equal (.text "Bern"), .assign "name" (.text "A"), .offset 40]
    (∀ part, callsOn part calls = callsOn part others) ∧
      ((start .update "users").applyAll calls).build =
        ((start .update "users").applyAll others).build := by
  intro calls others
  have h : ∀ part, callsOn part calls = callsOn part others := by
    have hbeginning : ((3 : Float) - 1) * 20 = 40 := by decide +kernel
    intro part
    cases part <;> simp [callsOn, calls, others, Call.spelledOut, Call.part?, hbeginning]
  exact ⟨h, build_interleaved h⟩

end Draft

end CrudQuery
