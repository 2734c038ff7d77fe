import CrudQuery.Log.Traced
import Mathlib.Data.List.Forall2

/-! # When a computation succeeds

A computation succeeds iff each of its steps does, and its result is made of theirs.  The lemmas
here take a sequence of steps or a walk over a list apart in that way, so that what follows from a
success is read off the steps and no proof has to look at messages or at the order of faults.

How a computation fails is asked in two ways.  `outcome_bind_eq_error` keeps the order of the steps:
the fault is that of the first step that has one.  `FailsWith` forgets it, and says only what every
fault of a computation is like.  That is a property which computations have when their steps have it
(`Closed`), and a walk through such steps need be made only once for all properties of this sort.
-/

namespace CrudQuery

theorem Except.bind_eq_ok {ε α β : Type} {x : Except ε α} {f : α → Except ε β} {b : β} :
    (x >>= f) = .ok b ↔ ∃ a, x = .ok a ∧ f a = .ok b := by
  cases x <;> simp [Bind.bind, Except.bind]

theorem Except.map_eq_ok {ε α β : Type} {x : Except ε α} {f : α → β} {b : β} :
    f <$> x = .ok b ↔ ∃ a, x = .ok a ∧ f a = b := by
  cases x <;> simp [Functor.map, Except.map]

theorem Except.bind_eq_error {ε α β : Type} {x : Except ε α} {f : α → Except ε β} {fault : ε} :
    (x >>= f) = .error fault ↔ x = .error fault ∨ ∃ a, x = .ok a ∧ f a = .error fault := by
  cases x <;> simp [Bind.bind, Except.bind]

/-- What is made of a result is no fault. -/
theorem Except.bind_pure_eq_error {ε α β : Type} {x : Except ε α} {f : α → β} {fault : ε} :
    (x >>= fun a => pure (f a)) = .error fault ↔ x = .error fault := by
  cases x <;> simp [Bind.bind, Except.bind, pure, Except.pure]

theorem Except.map_eq_error {ε α β : Type} {x : Except ε α} {f : α → β} {fault : ε} :
    f <$> x = .error fault ↔ x = .error fault := by
  cases x <;> simp [Functor.map, Except.map]

theorem Except.exists_of_isOk {ε α : Type} {x : Except ε α} (h : x.isOk = true) :
    ∃ a, x = .ok a := by
  cases x with
  | ok a => exact ⟨a, rfl⟩
  | error fault => cases h

/-- A walk over a list that makes one result for each member succeeds iff each member has a result,
and the results stand in the order of the members. -/
theorem Except.mapM_eq_ok {ε α β : Type} {f : α → Except ε β} {xs : List α} {ys : List β} :
    xs.mapM f = .ok ys ↔ List.Forall₂ (fun x y => f x = .ok y) xs ys := by
  induction xs generalizing ys with
  | nil => cases ys <;> simp [pure, Except.pure]
  | cons x xs ih =>
    rw [List.mapM_cons, Except.bind_eq_ok]
    constructor
    · rintro ⟨y, hy, h⟩
      obtain ⟨rest, hrest, h⟩ := Except.bind_eq_ok.mp h
      cases h
      exact .cons hy (ih.mp hrest)
    · intro h
      cases h with
      | cons hy hrest => exact ⟨_, hy, Except.bind_eq_ok.mpr ⟨_, ih.mpr hrest, rfl⟩⟩

/-- Such a walk has results iff each member has one. -/
theorem Except.exists_mapM_eq_ok {ε α β : Type} {f : α → Except ε β} {xs : List α} :
    (∃ ys, xs.mapM f = .ok ys) ↔ ∀ x ∈ xs, ∃ y, f x = .ok y := by
  simp only [Except.mapM_eq_ok]
  induction xs with
  | nil => exact ⟨fun _ => by simp, fun _ => ⟨[], .nil⟩⟩
  | cons x xs ih =>
    rw [List.forall_mem_cons, ← ih]
    constructor
    · rintro ⟨ys, h⟩
      cases h with
      | cons hy hrest => exact ⟨⟨_, hy⟩, ⟨_, hrest⟩⟩
    · rintro ⟨⟨y, hy⟩, ⟨ys, hrest⟩⟩
      exact ⟨y :: ys, .cons hy hrest⟩

/-- Such a walk fails for what it has in front, or behind that when everything in front has a
result. -/
theorem Except.mapM_append_eq_error {ε α β : Type} {f : α → Except ε β} {xs ys : List α}
    {fault : ε} :
    (xs ++ ys).mapM f = .error fault ↔
      xs.mapM f = .error fault ∨ (∃ zs, xs.mapM f = .ok zs) ∧ ys.mapM f = .error fault := by
  rw [List.mapM_append, Except.bind_eq_error]
  simp only [Except.bind_pure_eq_error, exists_and_right]

/-- Two walks over a list fail alike if the second one accepts whatever the first accepts, and
refuses for the same fault what the first refuses for it. -/
theorem Except.mapM_eq_error_of_imp {ε α β γ : Type} {f : α → Except ε β} {g : α → Except ε γ}
    {fault : ε} {xs : List α} (haccepts : ∀ x y, f x = .ok y → ∃ z, g x = .ok z)
    (hrefuses : ∀ x, f x = .error fault → g x = .error fault) (h : xs.mapM f = .error fault) :
    xs.mapM g = .error fault := by
  induction xs with
  | nil => cases h
  | cons x xs ih =>
    rw [List.mapM_cons, Except.bind_eq_error] at h ⊢
    rcases h with h | ⟨y, hy, h⟩
    · exact .inl (hrefuses x h)
    · obtain ⟨z, hz⟩ := haccepts x y hy
      exact .inr ⟨z, hz, Except.bind_pure_eq_error.mpr (ih (Except.bind_pure_eq_error.mp h))⟩

/-- A result, unless a fault stands in its way. -/
def Except.okUnless {ε α : Type} (fault? : Option ε) (a : α) : Except ε α :=
  fault?.elim (.ok a) .error

theorem Except.okUnless_eq_ok {ε α : Type} {fault? : Option ε} {a b : α} :
    okUnless fault? a = .ok b ↔ fault? = none ∧ a = b := by
  cases fault? <;> simp [okUnless]

theorem Except.okUnless_eq_error {ε α : Type} {fault? : Option ε} {a : α} {fault : ε} :
    okUnless fault? a = .error fault ↔ fault? = some fault := by
  cases fault? <;> simp [okUnless]

/-- Of two faults one after another the first one counts. -/
theorem Except.okUnless_bind {ε α β : Type} {first? second? : Option ε} {a : α} {b : β}
    {f : α → Except ε β} (h : f a = okUnless second? b) :
    (okUnless first? a >>= f) = okUnless (first?.or second?) b := by
  cases first? with
  | none => exact h
  | some fault => rfl

theorem Except.okUnless_map {ε α β : Type} (fault? : Option ε) (a : α) (f : α → β) :
    (okUnless fault? a >>= fun a => .ok (f a)) = okUnless fault? (f a) := by
  cases fault? <;> rfl

/-- A walk in which each member has a result or a fault of its own ends with the fault of the first
member that has no result, or else with all results. -/
theorem Except.mapM_eq_okUnless {ε α β : Type} {f : α → Except ε β} {result? : α → Option β}
    {fault : α → ε} (h : ∀ x, f x = (result? x).elim (.error (fault x)) .ok) (xs : List α) :
    xs.mapM f =
      okUnless ((xs.find? fun x => (result? x).isNone).map fault) (xs.filterMap result?) := by
  induction xs with
  | nil => rfl
  | cons x xs ih =>
    rw [List.mapM_cons, h x, ih, List.find?_cons, List.filterMap_cons]
    cases result? x with
    | none => rfl
    | some y => cases xs.find? fun x => (result? x).isNone <;> rfl

namespace Traced
variable {α β : Type}

@[simp] theorem outcome_pure (a : α) : (pure a : Traced α).outcome = .ok a := rfl

@[simp] theorem outcome_fail (fault : Fault) : (fail fault : Traced α).outcome = .error fault := rfl

@[simp] theorem outcome_ofExcept (outcome : Except Fault α) :
    (ofExcept outcome).outcome = outcome := rfl

@[simp] theorem outcome_log (context : String) (severity : Log.Severity) (text : String)
    (data : List (String × Document)) : (log context severity text data).outcome = .ok () := rfl

theorem outcome_bind_eq_ok {x : Traced α} {f : α → Traced β} {b : β} :
    (x >>= f).outcome = .ok b ↔ ∃ a, x.outcome = .ok a ∧ (f a).outcome = .ok b := by
  rw [outcome_bind, Except.bind_eq_ok]

/-- A message does not change how the computation behind it ends. -/
@[simp] theorem outcome_log_bind (context : String) (severity : Log.Severity) (text : String)
    (data : List (String × Document)) (f : Unit → Traced α) :
    (log context severity text data >>= f).outcome = (f ()).outcome := rfl

theorem outcome_check_bind_eq_ok {x : Traced Unit} {f : Unit → Traced β} {b : β} :
    (x >>= f).outcome = .ok b ↔ x.outcome = .ok () ∧ (f ()).outcome = .ok b := by
  rw [outcome_bind_eq_ok]
  exact ⟨fun ⟨_, hx, hf⟩ => ⟨hx, hf⟩, fun ⟨hx, hf⟩ => ⟨(), hx, hf⟩⟩

/-- A walk that only checks succeeds iff it accepts every member. -/
theorem outcome_forM_eq_ok {xs : List α} {f : α → Traced PUnit} :
    (xs.forM f).outcome = .ok ⟨⟩ ↔ ∀ x ∈ xs, (f x).outcome = .ok ⟨⟩ := by
  induction xs with
  | nil => simp
  | cons x xs ih =>
    change (f x >>= fun _ => xs.forM f).outcome = .ok ⟨⟩ ↔ _
    rw [outcome_check_bind_eq_ok, ih, List.forall_mem_cons]

/-- A walk that makes one result for each member ends like the walk over how its steps end. -/
theorem outcome_mapM (xs : List α) (f : α → Traced β) :
    (xs.mapM f).outcome = xs.mapM fun x => (f x).outcome := by
  induction xs with
  | nil => rfl
  | cons x xs ih => simp only [List.mapM_cons, outcome_bind, ih]; rfl

/-! ## Failure -/

theorem outcome_bind_eq_error {x : Traced α} {f : α → Traced β} {fault : Fault} :
    (x >>= f).outcome = .error fault ↔
      x.outcome = .error fault ∨ ∃ a, x.outcome = .ok a ∧ (f a).outcome = .error fault := by
  rw [outcome_bind, Except.bind_eq_error]

theorem outcome_check_bind_eq_error {x : Traced Unit} {f : Unit → Traced β} {fault : Fault} :
    (x >>= f).outcome = .error fault ↔
      x.outcome = .error fault ∨ (x.outcome = .ok () ∧ (f ()).outcome = .error fault) := by
  rw [outcome_bind_eq_error]
  exact or_congr_right ⟨fun ⟨_, hx, hf⟩ => ⟨hx, hf⟩, fun ⟨hx, hf⟩ => ⟨(), hx, hf⟩⟩

theorem outcome_bind_pure_eq_error {x : Traced α} {f : α → β} {fault : Fault} :
    (x >>= fun a => pure (f a)).outcome = .error fault ↔ x.outcome = .error fault := by
  rw [outcome_bind]
  exact Except.bind_pure_eq_error

/-- A property that computations have with a result or a message for debugging, and that is kept when
they are put one after another. -/
structure Closed (holds : (α : Type) → Traced α → Prop) : Prop where
  pure : ∀ {α : Type} (a : α), holds α (Pure.pure a)
  debug : ∀ context text data, holds Unit (log context .debug text data)
  bind : ∀ {α β : Type} {x : Traced α} {f : α → Traced β},
    holds α x → (∀ a, holds β (f a)) → holds β (x >>= f)

namespace Closed
variable {holds : (α : Type) → Traced α → Prop}

theorem forM (h : Closed holds) {xs : List α} {f : α → Traced PUnit}
    (hf : ∀ x ∈ xs, holds PUnit (f x)) : holds PUnit (xs.forM f) := by
  induction xs with
  | nil => exact h.pure _
  | cons x xs ih =>
    obtain ⟨hx, hxs⟩ := List.forall_mem_cons.mp hf
    exact h.bind hx fun _ => ih hxs

theorem mapM (h : Closed holds) {xs : List α} {f : α → Traced β}
    (hf : ∀ x ∈ xs, holds β (f x)) : holds (List β) (xs.mapM f) := by
  induction xs with
  | nil => exact h.pure _
  | cons x xs ih =>
    obtain ⟨hx, hxs⟩ := List.forall_mem_cons.mp hf
    rw [List.mapM_cons]
    exact h.bind hx fun _ => h.bind (ih hxs) fun _ => h.pure _

end Closed

/-- Every fault that a computation ends with, if it ends with one, is of some kind. -/
def FailsWith (kind : Fault → Prop) (x : Traced α) : Prop :=
  ∀ fault, x.outcome = .error fault → kind fault

section FailsWith
variable {kind : Fault → Prop}

theorem failsWith_pure (a : α) : FailsWith kind (pure a : Traced α) := fun _ h => nomatch h

theorem failsWith_fail {fault : Fault} (h : kind fault) :
    FailsWith kind (fail fault : Traced α) := by
  intro other hother
  cases hother
  exact h

theorem FailsWith.bind {x : Traced α} {f : α → Traced β} (hx : FailsWith kind x)
    (hf : ∀ a, FailsWith kind (f a)) : FailsWith kind (x >>= f) := by
  intro fault h
  rcases outcome_bind_eq_error.mp h with h | ⟨a, -, h⟩
  · exact hx fault h
  · exact hf a fault h

/-- What is said before a computation is no fault of it. -/
theorem FailsWith.after_log {x : Traced α} (h : FailsWith kind x) (context : String)
    (severity : Log.Severity) (text : String) (data : List (String × Document)) :
    FailsWith kind (log context severity text data >>= fun _ => x) := h

theorem closed_failsWith (kind : Fault → Prop) : Closed fun _ => FailsWith kind :=
  ⟨failsWith_pure, fun _ _ _ => nofun, FailsWith.bind⟩

end FailsWith

end Traced

/-- A step that fails does not pass. -/
theorem not_of_error {x : Traced Unit} {passes : Prop} {fault : Fault}
    (hpass : x.outcome = .ok () ↔ passes) (h : x.outcome = .error fault) : ¬ passes := by
  intro hp
  rw [hpass.mpr hp] at h
  cases h

end CrudQuery
