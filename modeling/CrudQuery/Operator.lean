/-! # Operators

The comparisons a predicate may make, what operand each takes, and the names they go by. A query
made by hand may carry any name; one that is no operator is kept, so that it can be reported.
-/

namespace CrudQuery

/-- How many values an operator consumes. -/
inductive Arity where
  /-- A single comparison value. -/
  | binary
  /-- A sequence of values. -/
  | list
  /-- A text pattern. -/
  | pattern
  /-- A lower and an upper bound. -/
  | pair
  /-- No value. -/
  | unary
  deriving Repr, DecidableEq

/-- The word for an arity. -/
def Arity.name : Arity → String
  | binary => "binary"
  | list => "list"
  | pattern => "pattern"
  | pair => "pair"
  | unary => "unary"

/-- A comparison, or a name that stands where one should. -/
inductive Operator where
  | equal
  | notEqual
  | greater
  | greaterOrEqual
  | less
  | lessOrEqual
  | memberOf
  | notMemberOf
  | like
  | regex
  | isNull
  | isNotNull
  | between
  | isPresent
  | other (name : String)
  deriving Repr, DecidableEq

namespace Operator

/-- Every operator that has a meaning, in the order of the operator table. -/
def known : List Operator :=
  [equal, notEqual, greater, greaterOrEqual, less, lessOrEqual, memberOf, notMemberOf, like, regex,
    isNull, isNotNull, between, isPresent]

/-- The name an operator goes by in a query. -/
def name : Operator → String
  | equal => "EQ"
  | notEqual => "NE"
  | greater => "GT"
  | greaterOrEqual => "GE"
  | less => "LT"
  | lessOrEqual => "LE"
  | memberOf => "IN"
  | notMemberOf => "NOT_IN"
  | like => "LIKE"
  | regex => "REGEX"
  | isNull => "IS_NULL"
  | isNotNull => "IS_NOT_NULL"
  | between => "BETWEEN"
  | isPresent => "EXISTS"
  | other name => name

/-- The operator of a name. -/
def ofName (name : String) : Operator :=
  (known.find? fun operator => operator.name = name).getD (other name)

/-- What an operator consumes; a name without meaning has no arity. -/
def arity? : Operator → Option Arity
  | equal | notEqual | greater | greaterOrEqual | less | lessOrEqual => some .binary
  | memberOf | notMemberOf => some .list
  | like | regex => some .pattern
  | isNull | isNotNull | isPresent => some .unary
  | between => some .pair
  | other _ => none

/-- What an operator says, for readers. -/
def description : Operator → String
  | equal => "equal to"
  | notEqual => "not equal to"
  | greater => "greater than"
  | greaterOrEqual => "greater than or equal to"
  | less => "less than"
  | lessOrEqual => "less than or equal to"
  | memberOf => "member of"
  | notMemberOf => "not a member of"
  | like => "matches a % / _ wildcard pattern"
  | regex => "matches a backend regular expression"
  | isNull => "is null"
  | isNotNull => "is not null"
  | between => "between two bounds, inclusive"
  | isPresent => "field is present"
  | other _ => ""

/-- Words that the operator table answers to although they name no operator: every table knows
them, and what it has under them carries no arity. -/
def tableWords : List String :=
  ["constructor", "__defineGetter__", "__defineSetter__", "hasOwnProperty", "__lookupGetter__",
    "__lookupSetter__", "isPrototypeOf", "propertyIsEnumerable", "toString", "valueOf",
    "__proto__", "toLocaleString"]

/-- Looks a name up in the operator table: nothing for a name the table does not answer to, and
otherwise the arity, if what the table has carries one. -/
def lookup? (operator : Operator) : Option (Option Arity) :=
  match operator with
  | other name => if name ∈ tableWords then some none else none
  | _ => some operator.arity?

/-- Whether the value of a predicate with this operator is bound, which is so for every entry of
the table whose arity is not unary. -/
def usesValue? (operator : Operator) : Option Bool :=
  operator.lookup?.map fun arity => arity != some .unary

theorem ofName_name {operator : Operator} (h : operator ∈ known) : ofName operator.name = operator := by
  simp only [known, List.mem_cons, List.not_mem_nil, or_false] at h
  rcases h with rfl | rfl | rfl | rfl | rfl | rfl | rfl | rfl | rfl | rfl | rfl | rfl | rfl | rfl <;>
    decide

theorem name_ofName (name : String) : (ofName name).name = name := by
  unfold ofName
  cases h : known.find? fun operator => operator.name = name with
  | none => rfl
  | some operator => simpa using List.find?_some h

end Operator

end CrudQuery
