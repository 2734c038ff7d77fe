import CrudQuery.Fault

/-! # Parameters of a statement

Values travel beside the text of a statement under names that occur in it. A name is bound once.
-/

namespace CrudQuery.Sql

/-- A value under the name of its placeholder. -/
structure Binding where
  name : String
  value : Value

/-- Bindings in the order in which they were made, no name twice. -/
structure Parameters where
  bindings : List Binding
  names_nodup : (bindings.map Binding.name).Nodup

namespace Parameters

/-- No bindings. -/
def empty : Parameters := ⟨[], List.nodup_nil⟩

/-- The bound names. -/
def names (parameters : Parameters) : List String := parameters.bindings.map Binding.name

/-- One more binding, refused if its name is taken. -/
def bind (parameters : Parameters) (binding : Binding) : Except Fault Parameters :=
  if h : binding.name ∈ parameters.names then .error (.duplicateParameter binding.name)
  else
    .ok
      { bindings := parameters.bindings ++ [binding]
        names_nodup := by
          rw [List.map_append]
          refine List.nodup_append.2 ⟨parameters.names_nodup, by simp, ?_⟩
          intro a ha b hb
          simp only [List.map_cons, List.map_nil, List.mem_singleton] at hb
          subst hb
          exact fun e => h (e ▸ ha) }

/-- Bindings made one after another. -/
def bindAll (parameters : Parameters) (bindings : List Binding) : Except Fault Parameters :=
  bindings.foldlM bind parameters

end Parameters

end CrudQuery.Sql
