import CrudQuery.Query.Validity

/-! # Composing queries

A draft is a query that is put together call by call. Each call of the vocabulary comes down to
steps, and each step adds to one clause; nothing is judged until the draft is built. Values are
immutable, so a query that was built is not touched by later calls on its draft.
-/

namespace CrudQuery

/-- An addition to one clause of a draft. -/
inductive Step where
  | project (field : Projection)
  /-- A condition at the end of the chain, behind a disjunction if so marked. -/
  | restrict (condition : Condition) (disjoined : Bool)
  | join (join : Join)
  | sort (key : SortKey)
  | group (field : String)
  | having (condition : Condition)
  | limit (value : Float)
  | offset (value : Float)
  | row (row : Row)
  | assign (field : String) (value : Value)
  | giveBack (field : String)
  | hint (hint : Hint)

/-- The vocabulary for composing queries. -/
inductive Call where
  | fields (names : List String)
  | field (name : String) (label? : Option String)
  | filter (field : String) (operator : Operator) (value : Value)
  | filterAs (field : String) (operator : Operator) (value : Value) (parameter : String)
  | orFilter (field : String) (operator : Operator) (value : Value)
  | filterNull (field : String)
  | filterNotNull (field : String)
  | filterIn (field : String) (values : List Value)
  | filterNotIn (field : String) (values : List Value)
  | filterBetween (field : String) (low high : Value)
  | filterLike (field pattern : String)
  | join (kind : JoinKind) (target predicate : String)
  | innerJoin (target predicate : String)
  | leftJoin (target predicate : String)
  | orderBy (field : String) (direction? : Option Direction)
  | orderByAsc (field : String)
  | orderByDesc (field : String)
  | groupBy (fields : List String)
  | having (field : String) (operator : Operator) (value : Value)
  | limit (value : Float)
  | offset (value : Float)
  | paginate (page size : Float)
  | values (record : Record Value)
  | assign (field : String) (value : Value)
  | returning (fields : List String)
  | hint (provider kind value : String)

namespace Step

/-- A condition bound under the name of its field. -/
def onField (field : String) (operator : Operator) (value : Value) (disjoined : Bool) : Step :=
  restrict ⟨field, operator, value, .and, parameterName field⟩ disjoined

end Step

/-- What a call comes down to. An empty label is none; pages are counted from one, and a page is not
checked. -/
def Call.steps : Call → List Step
  | .fields names => names.map fun name => .project ⟨name, none⟩
  | .field name label? => [.project ⟨name, label?.filter fun label => !label.isEmpty⟩]
  | .filter column operator value => [.onField column operator value false]
  | .filterAs column operator value parameter =>
    [.restrict ⟨column, operator, value, .and, parameter⟩ false]
  | .orFilter column operator value => [.onField column operator value true]
  | .filterNull column => [.onField column .isNull .null false]
  | .filterNotNull column => [.onField column .isNotNull .null false]
  | .filterIn column items => [.onField column .memberOf (.list items) false]
  | .filterNotIn column items => [.onField column .notMemberOf (.list items) false]
  | .filterBetween column low high => [.onField column .between (.list [low, high]) false]
  | .filterLike column pattern => [.onField column .like (.text pattern) false]
  | .join kind target predicate => [.join ⟨kind, target, predicate⟩]
  | .innerJoin target predicate => [.join ⟨.inner, target, predicate⟩]
  | .leftJoin target predicate => [.join ⟨.left, target, predicate⟩]
  | .orderBy column direction? => [.sort ⟨column, direction?.getD .ascending⟩]
  | .orderByAsc column => [.sort ⟨column, .ascending⟩]
  | .orderByDesc column => [.sort ⟨column, .descending⟩]
  | .groupBy columns => columns.map .group
  | .having column operator value =>
    [.having ⟨column, operator, value, .and, "having_" ++ parameterName column⟩]
  | .limit value => [.limit value]
  | .offset value => [.offset value]
  | .paginate page size => [.limit size, .offset ((page - 1) * size)]
  | .values record => [.row (Row.ofRecord record)]
  | .assign column value => [.assign column value]
  | .returning columns => columns.map .giveBack
  | .hint provider kind value => [.hint ⟨provider, kind, value⟩]

/-- A query under composition. -/
abbrev Draft := Query

namespace Draft

/-- A draft without clauses. Only an insert can take rows and only an update can take
assignments. -/
def start (operation : Operation) (target : String) : Draft :=
  { Query.blank operation target with
    rows? := if operation = .insert then some [] else none
    updates? := if operation = .update then some [] else none }

/-- The chain with its last connector a disjunction. -/
def endInOr : List Condition → List Condition
  | [] => []
  | [last] => [{ last with connector := .or }]
  | condition :: next :: rest => condition :: endInOr (next :: rest)

/-- Adds to one clause. A row is ignored unless the draft is an insert, and an assignment unless it
is an update. -/
def step (draft : Draft) : Step → Draft
  | .project field => { draft with fields := draft.fields ++ [field] }
  | .restrict condition disjoined =>
    let chain := if disjoined then endInOr draft.conditions else draft.conditions
    { draft with conditions := chain ++ [condition] }
  | .join join => { draft with joins := draft.joins ++ [join] }
  | .sort key => { draft with ordering := draft.ordering ++ [key] }
  | .group field => { draft with grouping := draft.grouping ++ [field] }
  | .having condition => { draft with having := draft.having ++ [condition] }
  | .limit value => { draft with limit? := some value }
  | .offset value => { draft with offset? := some value }
  | .row row => { draft with rows? := draft.rows?.map (· ++ [row]) }
  | .assign field value => { draft with updates? := draft.updates?.map (·.assign field value) }
  | .giveBack field => { draft with returning := draft.returning ++ [field] }
  | .hint hint => { draft with hints := draft.hints ++ [hint] }

/-- Takes steps one after another. -/
def steps (draft : Draft) (taken : List Step) : Draft := taken.foldl step draft

/-- A call. -/
def apply (draft : Draft) (call : Call) : Draft := draft.steps call.steps

/-- Calls one after another. -/
def applyAll (draft : Draft) (calls : List Call) : Draft := calls.foldl apply draft

/-- The query of a draft, or the first requirement that it breaks. -/
def build (draft : Draft) : Traced (Except Violation Query) := do
  match ← draft.inspect with
  | some violation => pure (.error violation)
  | none => pure (.ok draft)

/-- The query of a draft; a broken requirement is a fault. -/
def buildOrFail (draft : Draft) : Traced Query := do
  match ← draft.build with
  | .error violation => Traced.fail (.invalid violation)
  | .ok query => pure query

theorem applyAll_eq_steps (draft : Draft) (calls : List Call) :
    draft.applyAll calls = draft.steps (calls.flatMap Call.steps) := by
  induction calls generalizing draft with
  | nil => rfl
  | cons call rest ih =>
    simp only [applyAll, List.foldl_cons, List.flatMap_cons, steps, List.foldl_append]
    exact ih (draft.apply call)

end Draft

end CrudQuery
