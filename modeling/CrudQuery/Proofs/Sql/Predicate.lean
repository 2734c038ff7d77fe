import CrudQuery.Proofs.Sql.Compilation

/-! # The shape of a predicate

Every predicate is its field, a sign, and what the arity of its operator calls for: nothing, one
placeholder, or two.  `predicateOf_eq_ok` reads the pieces and the bindings of a predicate off its
condition, and nothing later has to look at the operators one by one.
-/

namespace CrudQuery

/-- What stands between the field of a predicate and its first placeholder, or behind the field if
it has none.  An operator without a sign has no predicate. -/
def Operator.sign? : Operator → Option String
  | equal => some " = "
  | notEqual => some " != "
  | greater => some " > "
  | greaterOrEqual => some " >= "
  | less => some " < "
  | lessOrEqual => some " <= "
  | memberOf => some " = ANY("
  | notMemberOf => some " != ALL("
  | like => some " LIKE "
  | regex => some " ~ "
  | isNull => some " IS NULL"
  | isNotNull => some " IS NOT NULL"
  | between => some " BETWEEN "
  | isPresent | other _ => none

/-- The operators that have a sign. -/
def Operator.signed : List Operator :=
  [equal, notEqual, greater, greaterOrEqual, less, lessOrEqual, memberOf, notMemberOf, like, regex,
    isNull, isNotNull, between]

theorem Operator.mem_signed {operator : Operator} {sign : String}
    (h : operator.sign? = some sign) : operator ∈ signed := by
  cases operator <;> first | decide | cases h

namespace Sql

/-- The name that the lower bound of an interval is bound under. -/
def lowName (parameter : String) : String := parameter ++ "_lo"

/-- The name that the upper bound of an interval is bound under. -/
def highName (parameter : String) : String := parameter ++ "_hi"

theorem lowName_inj {parameter other : String} (h : lowName parameter = lowName other) :
    parameter = other :=
  (String.append_left_inj _).mp h

theorem highName_inj {parameter other : String} (h : highName parameter = highName other) :
    parameter = other :=
  (String.append_left_inj _).mp h

theorem lowName_ne_highName (parameter other : String) : lowName parameter ≠ highName other := by
  intro h
  have hlists := congrArg String.toList h
  rw [lowName, highName, String.toList_append, String.toList_append] at hlists
  have hsuffixes : "_lo".toList = "_hi".toList := List.append_inj_right' hlists (by decide)
  exact absurd hsuffixes (by decide)

/-- What a condition writes behind its sign. -/
def operandPieces (condition : Condition) : List Piece :=
  match condition.operator.arity? with
  | some .binary | some .pattern => [.placeholder condition.parameter]
  | some .list => [.placeholder condition.parameter, .verbatim ")"]
  | some .pair =>
    [.placeholder (lowName condition.parameter), .verbatim " AND ",
      .placeholder (highName condition.parameter)]
  | some .unary | none => []

/-- The values a condition binds, each under the name of its placeholder: the value itself under the
parameter, the two bounds of an interval under the parameter with a suffix, nothing for a test
without a value. -/
def operands (condition : Condition) : List Binding :=
  match condition.operator.arity? with
  | some .binary | some .pattern | some .list => [⟨condition.parameter, condition.value⟩]
  | some .pair =>
    match condition.value with
    | .list [low, high] =>
      [⟨lowName condition.parameter, low⟩, ⟨highName condition.parameter, high⟩]
    | _ => []
  | some .unary | none => []

theorem items_of_members {condition : Condition} {items : List Value}
    (h : condition.members = .ok items) : condition.value = .list items := by
  unfold Condition.members at h
  cases hv : condition.value <;> simp_all [Value.items?]

theorem text_of_pattern {condition : Condition} {text : String}
    (h : condition.pattern = .ok text) : condition.value = .text text := by
  unfold Condition.pattern at h
  cases hv : condition.value <;> simp_all [Value.text?]

theorem pair_of_bounds {condition : Condition} {low high : Value}
    (h : condition.bounds = .ok (low, high)) : condition.value = .list [low, high] := by
  unfold Condition.bounds at h
  split at h
  · next pair hp =>
    cases h
    unfold Value.pair? at hp
    split at hp
    · next hv => cases hp; exact hv
    · cases hp
  · cases h

/-- **The shape of a predicate.** -/
theorem predicateOf_eq_ok {condition : Condition} {predicate : Predicate}
    (h : (predicateOf condition).outcome = .ok predicate) :
    (∃ sign, condition.operator.sign? = some sign ∧
      predicate.pieces =
        namePieces condition.field ++ .verbatim sign :: operandPieces condition) ∧
      predicate.bindings = operands condition := by
  unfold predicateOf at h
  -- Operators of one arity are made alike, so the cases are the arities.
  cases ho : condition.operator
  case equal | notEqual | greater | greaterOrEqual | less | lessOrEqual =>
    rw [ho] at h
    cases h
    refine ⟨⟨_, rfl, ?_⟩, ?_⟩
    · simp only [operandPieces, ho, Operator.arity?]
      rfl
    · simp only [operands, ho, Operator.arity?]
      rfl
  case like | regex =>
    rw [ho] at h
    obtain ⟨pattern, hp, h⟩ := Traced.outcome_bind_eq_ok.mp h
    cases h
    refine ⟨⟨_, rfl, ?_⟩, ?_⟩
    · simp only [operandPieces, ho, Operator.arity?]
      rfl
    · simp only [operands, ho, Operator.arity?, text_of_pattern hp]
      rfl
  case memberOf | notMemberOf =>
    rw [ho] at h
    obtain ⟨members, hm, h⟩ := Traced.outcome_bind_eq_ok.mp h
    cases h
    refine ⟨⟨_, rfl, ?_⟩, ?_⟩
    · simp only [operandPieces, ho, Operator.arity?]
      simp [Predicate.pieces, Binding.pieces]
    · simp only [operands, ho, Operator.arity?, items_of_members hm]
      rfl
  case isNull | isNotNull =>
    rw [ho] at h
    cases h
    refine ⟨⟨_, rfl, ?_⟩, ?_⟩
    · simp only [operandPieces, ho, Operator.arity?]
      rfl
    · simp only [operands, ho, Operator.arity?]
      rfl
  case between =>
    rw [ho] at h
    obtain ⟨⟨low, high⟩, hb, h⟩ := Traced.outcome_bind_eq_ok.mp h
    cases h
    refine ⟨⟨_, rfl, ?_⟩, ?_⟩
    · simp only [operandPieces, ho, Operator.arity?]
      simp [Predicate.pieces, Binding.pieces, lowName, highName]
    · simp only [operands, ho, Operator.arity?, pair_of_bounds hb]
      rfl
  case isPresent | other =>
    rw [ho] at h
    simp at h

/-- An interval that has a predicate has two bounds. -/
theorem value_of_predicateOf {condition : Condition} {predicate : Predicate}
    (h : (predicateOf condition).outcome = .ok predicate)
    (ha : condition.operator.arity? = some .pair) :
    ∃ low high, condition.value = .list [low, high] := by
  cases ho : condition.operator <;> rw [ho] at ha <;> cases ha
  -- Only `between` is left.
  unfold predicateOf at h
  rw [ho] at h
  obtain ⟨⟨low, high⟩, hb, -⟩ := Traced.outcome_bind_eq_ok.mp h
  exact ⟨low, high, pair_of_bounds hb⟩

/-! ## Chains -/

/-- What a condition writes. -/
def conditionPieces (condition : Condition) : List Piece :=
  namePieces condition.field ++
    .verbatim (condition.operator.sign?.getD "") :: operandPieces condition

/-- What the chain of some conditions writes. -/
def chainPieces : List Condition → List Piece
  | [] => []
  | [condition] => conditionPieces condition
  | condition :: next :: rest =>
    conditionPieces condition ++
      Chain.connectorPiece condition.connector.isOr :: chainPieces (next :: rest)

theorem pieces_of_linkFor {condition : Condition} {link : Link} (h : LinkFor condition link) :
    link.predicate.pieces = conditionPieces condition := by
  obtain ⟨⟨sign, hsign, hpieces⟩, -⟩ := predicateOf_eq_ok h.1
  rw [hpieces, conditionPieces, hsign]
  rfl

/-- What a chain writes depends on its conditions only, and not on the values they carry. -/
theorem pieces_of_chainFor {conditions : List Condition} {chain : Chain}
    (h : ChainFor conditions chain) : Chain.pieces chain = chainPieces conditions := by
  induction h with
  | nil => rfl
  | cons hlink hchain ih =>
    cases hchain with
    | nil => exact pieces_of_linkFor hlink
    | cons hnext hrest =>
      rw [Chain.pieces, chainPieces, ← ih, pieces_of_linkFor hlink, hlink.2]

/-- A chain binds the operands of its conditions, in order. -/
theorem bindings_of_chainFor {conditions : List Condition} {chain : Chain}
    (h : ChainFor conditions chain) : Chain.bindings chain = conditions.flatMap operands := by
  induction h with
  | nil => rfl
  | cons hlink hchain ih =>
    rw [List.flatMap_cons, ← ih, ← (predicateOf_eq_ok hlink.1).2]
    rfl

/-- Every condition of a chain has a sign. -/
theorem signed_of_chainFor {conditions : List Condition} {chain : Chain}
    (h : ChainFor conditions chain) :
    ∀ condition ∈ conditions, condition.operator ∈ Operator.signed := by
  induction h with
  | nil => simp
  | cons hlink hchain ih =>
    obtain ⟨⟨sign, hsign, -⟩, -⟩ := predicateOf_eq_ok hlink.1
    exact List.forall_mem_cons.mpr ⟨Operator.mem_signed hsign, ih⟩

/-- A clause of conditions; without conditions there is none. -/
def conditionClause (keyword : String) (conditions : List Condition) : List Piece :=
  if conditions.isEmpty then [] else .verbatim keyword :: chainPieces conditions

theorem chainClause_of_chainFor {conditions : List Condition} {chain : Chain}
    (h : ChainFor conditions chain) (keyword : String) :
    chainClause keyword chain = conditionClause keyword conditions := by
  have hempty : chain.isEmpty = conditions.isEmpty := by cases h <;> rfl
  rw [chainClause, conditionClause, hempty, pieces_of_chainFor h]

end Sql

end CrudQuery
