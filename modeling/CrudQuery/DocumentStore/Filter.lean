import CrudQuery.DocumentStore.Wildcard
import CrudQuery.Log.Traced
import CrudQuery.Query.Validity

/-! # Filters

What a document must satisfy. A chain of conditions is cut at its disjunctions into groups of
conjoined conditions, which is the reading in which conjunction binds before disjunction. Conditions
of a group become one map from fields to tests, unless a field occurs twice: such a map would lose a
condition, so the group is then a list of filters of one field each.
-/

namespace CrudQuery.DocumentStore

/-- What the field of a document is tested for. -/
inductive Test where
  | equals (value : Value)
  | differs (value : Value)
  | above (value : Value)
  | notBelow (value : Value)
  | below (value : Value)
  | notAbove (value : Value)
  | within (low high : Value)
  | oneOf (values : List Value)
  | noneOf (values : List Value)
  | matchesRegex (source : String)
  | matchesAnyCase (source : String)
  | isPresent

/-- A condition on documents. -/
inductive Filter where
  /-- Every field of the map passes its test. -/
  | fields (tests : Record Test)
  /-- Every one of these fields passes its test; a field may occur again. -/
  | all (tests : List (String × Test))
  /-- One of these filters holds. -/
  | any (groups : List Filter)

/-- How a chain with disjunctions becomes a filter. -/
inductive Disjunction where
  /-- Conjunction binds before disjunction. -/
  | precedence
  /-- Disjunctions are read as conjunctions, for consumers that depend on such filters. -/
  | flatten
  deriving Repr, DecidableEq

/-- The name under which filters and commands log. -/
def renderContext : String := "MongoRenderer"

/-- The test of a condition, if its operator has one and its value the right shape. A field is null
when it equals null. -/
def testOf (condition : Condition) : Except Fault Test := do
  match condition.operator with
  | .equal => pure (.equals condition.value)
  | .notEqual => pure (.differs condition.value)
  | .greater => pure (.above condition.value)
  | .greaterOrEqual => pure (.notBelow condition.value)
  | .less => pure (.below condition.value)
  | .lessOrEqual => pure (.notAbove condition.value)
  | .memberOf => pure (.oneOf (← condition.members))
  | .notMemberOf => pure (.noneOf (← condition.members))
  | .like => pure (.matchesAnyCase (Wildcard.regex (← condition.pattern)))
  | .regex => pure (.matchesRegex (← condition.pattern))
  | .isNull => pure (.equals .null)
  | .isNotNull => pure (.differs .null)
  | .between =>
    let (low, high) ← condition.bounds
    pure (.within low high)
  | .isPresent => pure .isPresent
  | .other _ => throw (.unsupportedOperator .documents condition.operator)

/-- The field of a condition with its test. -/
def fieldTest (condition : Condition) : Except Fault (String × Test) := do
  pure (condition.field, ← testOf condition)

/-- Cuts a chain after every disjunction but one at its end, which joins nothing. -/
def groups : List Condition → List (List Condition)
  | [] => [[]]
  | [condition] => [[condition]]
  | condition :: next :: rest =>
    match groups (next :: rest) with
    | [] => [[condition]]
    | group :: others =>
      if condition.connector.isOr then [condition] :: group :: others
      else (condition :: group) :: others

/-- The filter of conjoined conditions. -/
def conjunction (conditions : List Condition) : Except Fault Filter := do
  let tests ← conditions.mapM fieldTest
  if (conditions.map Condition.field).Nodup then pure (.fields (Record.ofList tests))
  else pure (.all tests)

/-- The filter of a chain. Reading disjunctions as conjunctions is not what the chain says, so it is
warned about every time. -/
def filterOf (disjunction : Disjunction) (conditions : List Condition) : Traced Filter := do
  match groups conditions, disjunction with
  | [group], _ => Traced.ofExcept (conjunction group)
  | _, .flatten =>
    Traced.log renderContext .warning
      "OR connectors flattened into $and; the filter matches only documents satisfying every condition"
      [("conditionCount", .ofNat conditions.length)]
    Traced.ofExcept (Filter.all <$> conditions.mapM fieldTest)
  | several, .precedence => Traced.ofExcept (Filter.any <$> several.mapM conjunction)

/-- A test as the store has it: equality is the value itself, any other test an object of named
operands. -/
def Test.document : Test → Document
  | equals value => .ofValue value
  | differs value => .object [("$ne", .ofValue value)]
  | above value => .object [("$gt", .ofValue value)]
  | notBelow value => .object [("$gte", .ofValue value)]
  | below value => .object [("$lt", .ofValue value)]
  | notAbove value => .object [("$lte", .ofValue value)]
  | within low high => .object [("$gte", .ofValue low), ("$lte", .ofValue high)]
  | oneOf values => .object [("$in", .list (values.map .ofValue))]
  | noneOf values => .object [("$nin", .list (values.map .ofValue))]
  | matchesRegex source => .object [("$regex", .text source)]
  | matchesAnyCase source => .object [("$regex", .text source), ("$options", .text "i")]
  | isPresent => .object [("$exists", .bool true)]

/-- A field with its test. -/
def member (test : String × Test) : String × Document := (test.1, test.2.document)

mutual

/-- A filter as the store has it. -/
def Filter.document : Filter → Document
  | fields tests => .ofRecord Test.document tests
  | all tests => .object [("$and", .list (tests.map fun test => .object [member test]))]
  | any groups => .object [("$or", .list (Filter.documents groups))]

/-- Each of a list of filters as the store has it. -/
def Filter.documents : List Filter → List Document
  | [] => []
  | filter :: rest => filter.document :: Filter.documents rest

end

end CrudQuery.DocumentStore
