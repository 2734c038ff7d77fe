import CrudQuery.Fault
import CrudQuery.Log.Message

/-! # Traced computations

A computation that says things on its way and ends with a result or a fault. What it says is kept,
oldest first, also when it fails.
-/

namespace CrudQuery

/-- The messages of a computation and how it ends. -/
@[ext]
structure Traced (α : Type) where
  messages : List Log.Message
  outcome : Except Fault α

namespace Traced
variable {α β : Type}

/-- Ends with a result and says nothing. -/
def done (a : α) : Traced α := ⟨[], .ok a⟩

/-- Ends with a fault and says nothing. -/
def fail (fault : Fault) : Traced α := ⟨[], .error fault⟩

/-- Says one thing. -/
def say (message : Log.Message) : Traced Unit := ⟨[message], .ok ()⟩

/-- Says one thing on behalf of a part of the library, with data to go with it. -/
def log (context : String) (severity : Log.Severity) (text : String)
    (data : List (String × Document)) : Traced Unit :=
  say ⟨severity, text, some context, some data⟩

/-- Goes on from a result; after a fault nothing more is said. -/
def andThen (first : Traced α) (next : α → Traced β) : Traced β :=
  match first.outcome with
  | .error fault => ⟨first.messages, .error fault⟩
  | .ok a => ⟨first.messages ++ (next a).messages, (next a).outcome⟩

/-- Goes on from a fault; what was said before it stays said. -/
def rescue (first : Traced α) (handle : Fault → Traced α) : Traced α :=
  match first.outcome with
  | .error fault => ⟨first.messages ++ (handle fault).messages, (handle fault).outcome⟩
  | .ok _ => first

instance : Monad Traced where
  pure := done
  bind := andThen

/-- The result or the fault alone, said to nobody. -/
def ofExcept (outcome : Except Fault α) : Traced α := ⟨[], outcome⟩

theorem bind_def (x : Traced α) (f : α → Traced β) : x >>= f = x.andThen f := rfl

instance : LawfulMonad Traced :=
  LawfulMonad.mk' Traced
    (by
      intro α x
      obtain ⟨messages, outcome⟩ := x
      cases outcome <;> simp [Functor.map, andThen, done])
    (by
      intro α β a f
      simp [Bind.bind, Pure.pure, andThen, done])
    (by
      intro α β γ x f g
      obtain ⟨messages, outcome⟩ := x
      cases outcome with
      | error fault => rfl
      | ok a =>
        simp only [Bind.bind, andThen]
        cases h : (f a).outcome <;> simp [List.append_assoc])

theorem outcome_bind (x : Traced α) (f : α → Traced β) :
    (x >>= f).outcome = x.outcome >>= fun a => (f a).outcome := by
  obtain ⟨messages, outcome⟩ := x
  cases outcome <;> rfl

end Traced

end CrudQuery
