import CrudQuery.Proofs.Record
import CrudQuery.Proofs.Sql.Layout
import CrudQuery.Proofs.Text.Decoding

/-! # Placeholders and what they are bound to

The text of a statement and its parameters are built on different ways: an insert binds its rows
before it writes its columns, a select binds two chains with other clauses between them.  Here they
are brought together again.  A `Slot` is a place of a query that takes a value, with what is written
right before its placeholder; `Reads` cuts a text at its colons and finds at each of them the slot
that belongs there.  The main theorem says that the text of a rendered query reads as the slots of
the query, and that its parameters, listed as a record lists its members, are the bindings of those
slots.
-/

namespace CrudQuery.Sql

/-! ## Reading a text -/

/-- The placeholders of a text: for each colon, the longest stretch of letters, digits and
underscores behind it. -/
def placeholders : List Char → List String
  | [] => []
  | c :: rest =>
    if c = ':' then String.ofList (rest.takeWhile isWordPart) :: placeholders rest
    else placeholders rest

example : placeholders "a = :a AND b = ANY(:b_1)".toList = ["a", "b_1"] := by decide

/-- A place of a query that takes a value: what is written right before the placeholder, and the
value with the name it is bound under. -/
structure Slot where
  lead : List Piece
  binding : Binding

/-- A text that does not go on a word written before it. -/
def Apart (text : List Char) : Prop := ∀ c ∈ text.head?, isWordPart c = false

/-- A text whose placeholders are those of some slots, in order: each stands right behind the lead
of its slot, and no character behind it could belong to its name. -/
inductive Reads (quoting : Quoting) : List Char → List Slot → Prop
  | done {text : List Char} (silent : ':' ∉ text) : Reads quoting text []
  | slot {before rest : List Char} {slot : Slot} {slots : List Slot} (silent : ':' ∉ before)
      (own : write quoting slot.lead <:+ before) (word : isWord slot.binding.name.toList = true)
      (apart : Apart rest) (more : Reads quoting rest slots) :
      Reads quoting (before ++ ':' :: (slot.binding.name.toList ++ rest)) (slot :: slots)

theorem placeholders_append_of_silent {text : List Char} (h : ':' ∉ text) (rest : List Char) :
    placeholders (text ++ rest) = placeholders rest := by
  induction text with
  | nil => rfl
  | cons c text ih =>
    simp only [List.mem_cons, not_or] at h
    rw [List.cons_append, placeholders, if_neg (fun e => h.1 e.symm), ih h.2]

theorem placeholders_of_silent {text : List Char} (h : ':' ∉ text) : placeholders text = [] := by
  have := placeholders_append_of_silent h []
  rwa [List.append_nil] at this

theorem colon_not_mem_word {word : List Char} (h : isWord word = true) : ':' ∉ word :=
  not_mem_word h (by decide)

section Reads
variable {quoting : Quoting}

/-- The placeholders of a text are the names its slots bind. -/
theorem Reads.placeholders_eq {text : List Char} {slots : List Slot}
    (h : Reads quoting text slots) :
    placeholders text = slots.map fun slot => slot.binding.name := by
  induction h with
  | done silent => exact placeholders_of_silent silent
  | slot silent own word apart more ih =>
    rw [placeholders_append_of_silent silent, placeholders, if_pos rfl,
      Text.takeWhile_append_of_head (fun c => isWordPart_of_mem_word word) apart,
      String.ofList_toList, placeholders_append_of_silent (colon_not_mem_word word), ih]
    rfl

theorem Reads.after_silent {text rest : List Char} {slots : List Slot} (h : ':' ∉ text)
    (hr : Reads quoting rest slots) : Reads quoting (text ++ rest) slots := by
  cases hr with
  | done silent => exact .done fun hm => (List.mem_append.mp hm).elim h silent
  | slot silent own word apart more =>
    rw [← List.append_assoc]
    exact .slot (fun hm => (List.mem_append.mp hm).elim h silent)
      (own.trans (List.suffix_append _ _)) word apart more

/-! ## Pieces that carry slots -/

/-- Some pieces carry some slots: whatever is written behind them, apart from their last word, the
slots come first in what the text reads as. -/
def Carries (quoting : Quoting) (pieces : List Piece) (slots : List Slot) : Prop :=
  ∀ rest more, Apart rest → Reads quoting rest more →
    Reads quoting (write quoting pieces ++ rest) (slots ++ more)

/-- Pieces that carry slots and can stand behind a word. -/
structure Clause (quoting : Quoting) (pieces : List Piece) (slots : List Slot) : Prop where
  apart : ∀ rest, Apart rest → Apart (write quoting pieces ++ rest)
  carries : Carries quoting pieces slots

/-- A text that ends a word before it and starts no placeholder. -/
def isSeparator (text : String) : Bool :=
  (text.toList.head?.any fun c => !isWordPart c) && !text.toList.contains ':'

theorem carries_silent {pieces : List Piece} (h : ':' ∉ write quoting pieces) :
    Carries quoting pieces [] :=
  fun _ _ _ hr => hr.after_silent h

theorem carries_nil : Carries quoting [] [] := carries_silent (by simp)

theorem clause_nil : Clause quoting [] [] := ⟨fun _ h => h, carries_nil⟩

/-- Pieces without a placeholder may end in a word. -/
theorem Carries.after_silent {pieces more : List Piece} {slots : List Slot}
    (h : ':' ∉ write quoting pieces) (hm : Carries quoting more slots) :
    Carries quoting (pieces ++ more) slots := by
  intro rest others ha hr
  rw [write_append, List.append_assoc]
  exact (hm rest others ha hr).after_silent h

theorem Carries.after_verbatim {text : String} {more : List Piece} {slots : List Slot}
    (h : ':' ∉ text.toList) (hm : Carries quoting more slots) :
    Carries quoting (.verbatim text :: more) slots := by
  have hs : ':' ∉ write quoting [.verbatim text] := by simpa [Piece.write] using h
  exact hm.after_silent hs

theorem apart_of_isSeparator {text : String} (h : isSeparator text = true) (pieces : List Piece)
    (rest : List Char) : Apart (write quoting (.verbatim text :: pieces) ++ rest) := by
  intro c hc
  rw [isSeparator, Bool.and_eq_true] at h
  obtain ⟨d, hd, hpart⟩ := (Option.any_eq_true _ _).mp h.1
  obtain ⟨tail, ht⟩ := List.head?_eq_some_iff.mp hd
  simp only [write_cons, Piece.write, ht, List.cons_append, List.head?_cons, Option.mem_def,
    Option.some.injEq] at hc
  subst hc
  simpa using hpart

theorem colon_not_mem_of_isSeparator {text : String} (h : isSeparator text = true) :
    ':' ∉ text.toList := by
  rw [isSeparator, Bool.and_eq_true] at h
  simpa using h.2

theorem Carries.behind {text : String} {more : List Piece} {slots : List Slot}
    (h : isSeparator text = true) (hm : Carries quoting more slots) :
    Clause quoting (.verbatim text :: more) slots :=
  ⟨fun rest _ => apart_of_isSeparator h more rest,
    hm.after_verbatim (colon_not_mem_of_isSeparator h)⟩

theorem Carries.append {pieces more : List Piece} {slots others : List Slot}
    (hp : Carries quoting pieces slots) (hm : Clause quoting more others) :
    Carries quoting (pieces ++ more) (slots ++ others) := by
  intro rest tail ha hr
  rw [write_append, List.append_assoc, List.append_assoc]
  exact hp _ _ (hm.apart rest ha) (hm.carries rest tail ha hr)

theorem Clause.append {pieces more : List Piece} {slots others : List Slot}
    (hp : Clause quoting pieces slots) (hm : Clause quoting more others) :
    Clause quoting (pieces ++ more) (slots ++ others) := by
  refine ⟨fun rest hr => ?_, hp.carries.append hm⟩
  rw [write_append, List.append_assoc]
  exact hp.apart _ (hm.apart _ hr)

theorem carries_slot (slot : Slot) (hl : ':' ∉ write quoting slot.lead)
    (hn : isWord slot.binding.name.toList = true) :
    Carries quoting (slot.lead ++ [.placeholder slot.binding.name]) [slot] := by
  intro rest more ha hr
  have h := Reads.slot hl (List.suffix_refl _) hn ha hr
  simpa [Piece.write] using h

theorem clause_slot (text : String) (binding : Binding) (ht : isSeparator text = true)
    (hn : isWord binding.name.toList = true) :
    Clause quoting [.verbatim text, .placeholder binding.name] [⟨[.verbatim text], binding⟩] := by
  have hl : ':' ∉ write quoting [.verbatim text] := by
    simpa [Piece.write] using colon_not_mem_of_isSeparator ht
  exact ⟨fun rest _ => apart_of_isSeparator ht _ rest,
    carries_slot ⟨[.verbatim text], binding⟩ hl hn⟩

/-- Clauses written one after another. -/
theorem clause_flatMap {α : Type} {items : List α} {pieces : α → List Piece}
    {slots : α → List Slot} (h : ∀ item ∈ items, Clause quoting (pieces item) (slots item)) :
    Clause quoting (items.flatMap pieces) (items.flatMap slots) := by
  induction items with
  | nil => exact clause_nil
  | cons item rest ih =>
    obtain ⟨hitem, hrest⟩ := List.forall_mem_cons.mp h
    rw [List.flatMap_cons, List.flatMap_cons]
    exact hitem.append (ih hrest)

/-- A list of items carries what the items carry, since a comma ends every word. -/
theorem carries_commaSeparated {α : Type} {items : List α} {pieces : α → List Piece}
    {slots : α → List Slot} (h : ∀ item ∈ items, Carries quoting (pieces item) (slots item)) :
    Carries quoting (commaSeparated (items.map pieces)) (items.flatMap slots) := by
  cases items with
  | nil => exact carries_nil
  | cons item rest =>
    obtain ⟨hitem, hrest⟩ := List.forall_mem_cons.mp h
    rw [List.map_cons, commaSeparated_cons, List.flatMap_map, List.flatMap_cons]
    exact hitem.append (clause_flatMap fun next hn => (hrest next hn).behind (by decide))

/-- A list of items none of which takes a value. -/
theorem carries_silent_items {α : Type} {items : List α} {pieces : α → List Piece}
    (h : ∀ item ∈ items, Carries quoting (pieces item) []) :
    Carries quoting (commaSeparated (items.map pieces)) [] := by
  have hitems : Carries quoting (commaSeparated (items.map pieces)) (items.flatMap fun _ => []) :=
    carries_commaSeparated h
  rwa [List.flatMap_eq_nil_iff.mpr fun _ _ => rfl] at hitems

theorem clause_list {keyword : String} (hk : isSeparator keyword = true) {α : Type}
    {items : List α} {pieces : α → List Piece}
    (h : ∀ item ∈ items, Carries quoting (pieces item) []) :
    Clause quoting (listClause keyword (items.map pieces)) [] := by
  unfold listClause
  split
  · exact clause_nil
  · exact (carries_silent_items h).behind hk

/-! ## Clauses without values -/

theorem colon_not_mem_write_identifier {name : String} (h : isDottedWord name.toList = true) :
    ':' ∉ quoting.write name := by
  intro hc
  rcases mem_write_identifier h hc with hw | he | ⟨he, -⟩
  · exact absurd hw (by decide)
  · exact absurd he (by decide)
  · exact absurd he (by decide)

theorem colon_not_mem_namePieces {name : String} (h : IsName name) :
    ':' ∉ write quoting (namePieces name) := by
  unfold namePieces
  split
  · simp [Piece.write]
  · next hne =>
    have := isDottedWord_of_isIdentifier (h.resolve_left hne)
    simpa [Piece.write] using colon_not_mem_write_identifier this

theorem carries_namePieces {name : String} (h : IsName name) :
    Carries quoting (namePieces name) [] :=
  carries_silent (colon_not_mem_namePieces h)

theorem carries_columnPieces {column : Projection} (h : AcceptedColumn column) :
    Carries quoting (columnPieces column) [] := by
  refine Carries.after_silent (colon_not_mem_namePieces h.name) ?_
  split
  · next label hlabel =>
    split
    · exact carries_nil
    · next hne =>
      have hw := isDottedWord_of_isWord (h.label label hlabel (by simpa using hne))
      refine Carries.after_verbatim (by decide) (carries_silent ?_)
      simpa [Piece.write] using colon_not_mem_write_identifier hw
  · exact carries_nil

theorem carries_projectionPieces {columns : List Projection}
    (h : ∀ column ∈ columns, AcceptedColumn column) :
    Carries quoting (projectionPieces columns) [] := by
  unfold projectionPieces
  split
  · exact carries_nil.after_verbatim (by decide)
  · exact carries_silent_items fun column hc => carries_columnPieces (h column hc)

/-- A join takes no value, whatever text it was given, as long as that has no colon. -/
theorem clause_join {join : Join} (h : AcceptedJoin join)
    (hraw : ':' ∉ join.predicate.toList) : Clause quoting (joinPieces join) [] := by
  have hkind : ∀ kind ∈ JoinKind.known, isSeparator (" " ++ kind.name ++ " JOIN ") = true := by
    decide
  refine Carries.behind (hkind _ h.kind) ?_
  refine Carries.after_silent (colon_not_mem_namePieces (.inr h.target)) ?_
  split
  · exact carries_nil
  · refine carries_nil.after_verbatim ?_
    rw [String.toList_append]
    exact fun hm => (List.mem_append.mp hm).elim (by decide) hraw

theorem clause_joins {joins : List Join}
    (h : ∀ join ∈ joins, AcceptedJoin join)
    (hraw : ∀ join ∈ joins, ':' ∉ join.predicate.toList) :
    Clause quoting (joins.flatMap joinPieces) [] := by
  have hjoins : Clause quoting (joins.flatMap joinPieces) (joins.flatMap fun _ => []) :=
    clause_flatMap fun join hj => clause_join (h join hj) (hraw join hj)
  rwa [List.flatMap_eq_nil_iff.mpr fun _ _ => rfl] at hjoins

theorem carries_sortKeyPieces {key : SortKey} (h : AcceptedSortKey key) :
    Carries quoting (sortKeyPieces key) [] := by
  refine Carries.after_silent (colon_not_mem_namePieces (.inr h.field)) ?_
  refine carries_nil.after_verbatim ?_
  rcases h.direction with hd | hd <;> rw [hd] <;> decide

theorem clause_page (bound : PageBound) {value? : Option Float}
    (h : ∀ value, value? = some value → Query.isPageBound value = true) :
    Clause quoting (pageClause bound value?) [] := by
  cases value? with
  | none => exact clause_nil
  | some value =>
    refine carries_nil.behind ?_
    have hkeyword : ':' ∉ ((" " ++ bound.keyword) ++ " ").toList := by cases bound <;> decide
    have htext : ':' ∉ (Number.text value).toList := fun hc =>
      absurd (isPlain_of_isUnsigned (Number.isUnsigned_of_mem_text (h value rfl) _ hc)) (by decide)
    have hall : ':' ∉ (" " ++ bound.keyword ++ " " ++ Number.text value).toList := by
      rw [String.toList_append]
      exact fun hm => (List.mem_append.mp hm).elim hkeyword htext
    have hblank : ((" " ++ bound.keyword ++ " " ++ Number.text value).toList.head?.any
        fun c => !isWordPart c) = true := by
      simp [String.toList_append, isWordPart, isWordStart]
    rw [isSeparator, hblank]
    simpa using hall

end Reads

/-! ## The slots of a query -/

/-- The slots of a condition: the first behind its field and sign, the second behind the conjunction
between the bounds of an interval. -/
def conditionSlots (condition : Condition) : List Slot :=
  match operands condition with
  | [] => []
  | first :: others =>
    ⟨namePieces condition.field ++ [.verbatim (condition.operator.sign?.getD "")], first⟩ ::
      others.map fun other => ⟨[.verbatim " AND "], other⟩

/-- The slots of a row with its number: the value of each cell under the parameter name of its
column and the number, between the brackets of one tuple. -/
def rowSlots (number : Nat) : Row → List Slot
  | [] => []
  | first :: others =>
    ⟨[.verbatim "("], ⟨parameterName first.field ++ "_" ++ number.repr, first.value⟩⟩ ::
      others.map fun other =>
        ⟨[.verbatim ", "], ⟨parameterName other.field ++ "_" ++ number.repr, other.value⟩⟩

/-- The slot of an assignment. -/
def assignmentSlot (cell : Cell) : Slot :=
  ⟨namePieces cell.field ++ [.verbatim " = "], ⟨"update_" ++ parameterName cell.field, cell.value⟩⟩

/-- The slots of a query, in the order in which they are written. -/
def querySlots (query : Query) : List Slot :=
  match query.operation with
  | .select => (query.conditions ++ query.having).flatMap conditionSlots
  | .insert => query.insertRows.zipIdx.flatMap fun numbered => rowSlots numbered.2 numbered.1
  | .update => query.assignments.map assignmentSlot ++ query.conditions.flatMap conditionSlots
  | .delete | .count => query.conditions.flatMap conditionSlots
  | .other _ => []

/-- The values of the slots of a query are the ones it binds. -/
theorem bindings_querySlots (query : Query) :
    (querySlots query).map Slot.binding = queryBindings query := by
  have hcondition : ∀ condition : Condition,
      (conditionSlots condition).map Slot.binding = operands condition := by
    intro condition
    unfold conditionSlots
    cases operands condition <;> simp [Function.comp_def]
  have hrow : ∀ numbered : Row × Nat, (rowSlots numbered.2 numbered.1).map Slot.binding =
      numbered.1.map (cellBinding numbered.2) := by
    rintro ⟨row, number⟩
    cases row <;> simp [rowSlots, cellBinding, Function.comp_def]
  unfold querySlots queryBindings
  cases query.operation <;>
    simp [hcondition, hrow, tuplesFrom, assignmentSlot, cellAssignment, List.flatMap_def,
      Function.comp_def]

section Slots
variable {quoting : Quoting}

theorem carries_conditionPieces {condition : Condition} {predicate : Predicate}
    (hw : AcceptedCondition condition)
    (hp : (predicateOf condition).outcome = .ok predicate) :
    Carries quoting (conditionPieces condition) (conditionSlots condition) := by
  have hlow := isWord_lowName hw.parameter
  have hhigh := isWord_highName hw.parameter
  have hlead : ':' ∉ write quoting
      (namePieces condition.field ++ [.verbatim (condition.operator.sign?.getD "")]) := by
    have hsign : ':' ∉ (condition.operator.sign?.getD "").toList := by
      cases condition.operator <;> first | decide | exact List.not_mem_nil
    rw [write_append]
    refine fun hm => (List.mem_append.mp hm).elim (colon_not_mem_namePieces (.inr hw.field)) ?_
    simpa [Piece.write] using hsign
  have hpieces : conditionPieces condition =
      (namePieces condition.field ++ [.verbatim (condition.operator.sign?.getD "")]) ++
        operandPieces condition := by
    simp [conditionPieces]
  rw [hpieces]
  unfold conditionSlots operandPieces operands
  cases ha : condition.operator.arity? with
  | none => exact Carries.after_silent hlead carries_nil
  | some arity =>
    cases arity with
    | binary | pattern => exact carries_slot ⟨_, ⟨_, _⟩⟩ hlead hw.parameter
    | unary => exact Carries.after_silent hlead carries_nil
    | list =>
      have hclose : Clause quoting [.verbatim ")"] [] := carries_nil.behind (by decide)
      have h := (carries_slot ⟨_, ⟨condition.parameter, condition.value⟩⟩ hlead
        hw.parameter).append hclose
      simpa using h
    | pair =>
      obtain ⟨low, high, hv⟩ := value_of_predicateOf hp ha
      rw [hv]
      have hupper : Clause quoting [.verbatim " AND ", .placeholder (highName condition.parameter)]
          [⟨[.verbatim " AND "], ⟨highName condition.parameter, high⟩⟩] :=
        clause_slot " AND " ⟨highName condition.parameter, high⟩ (by decide) hhigh
      have h := (carries_slot ⟨_, ⟨lowName condition.parameter, low⟩⟩ hlead hlow).append hupper
      simpa using h

theorem carries_chainPieces {conditions : List Condition} {chain : Chain}
    (hw : ∀ condition ∈ conditions, AcceptedCondition condition)
    (h : ChainFor conditions chain) :
    Carries quoting (chainPieces conditions) (conditions.flatMap conditionSlots) := by
  induction h with
  | nil => exact carries_nil
  | cons hlink hchain ih =>
    obtain ⟨hcondition, hrest⟩ := List.forall_mem_cons.mp hw
    cases hchain with
    | nil =>
      rw [chainPieces, List.flatMap_singleton]
      exact carries_conditionPieces hcondition hlink.1
    | cons hnext hmore =>
      have hconnector : ∀ b : Bool, isSeparator (if b then " OR " else " AND ") = true := by decide
      rw [chainPieces, List.flatMap_cons]
      exact (carries_conditionPieces hcondition hlink.1).append ((ih hrest).behind (hconnector _))

theorem clause_conditions {keyword : String} (hk : isSeparator keyword = true)
    {conditions : List Condition} {chain : Chain}
    (hw : ∀ condition ∈ conditions, AcceptedCondition condition)
    (h : ChainFor conditions chain) :
    Clause quoting (conditionClause keyword conditions) (conditions.flatMap conditionSlots) := by
  unfold conditionClause
  split
  · next hempty =>
    rw [List.isEmpty_iff.mp hempty]
    exact clause_nil
  · exact (carries_chainPieces hw h).behind hk

/-- The tuple of a numbered row: one slot behind its bracket, the others behind commas. -/
theorem carries_tuplePieces {number : Nat} {row : Row}
    (h : ∀ cell ∈ row, isIdentifier cell.field = true) :
    Carries quoting (tuplePieces (row.map (cellBinding number))) (rowSlots number row) := by
  have hname : ∀ cell ∈ row, isWord (cellBinding number cell).name.toList = true := fun cell hc =>
    isWord_numbered (isWord_parameterName (isDottedWord_of_isIdentifier (h cell hc))) number
  have hclose : Clause quoting [.verbatim ")"] [] := carries_nil.behind (by decide)
  cases row with
  | nil =>
    change Carries quoting [.verbatim "(", .verbatim ")"] []
    exact hclose.carries.after_verbatim (by decide)
  | cons first others =>
    obtain ⟨hfirst, hothers⟩ := List.forall_mem_cons.mp hname
    have hopen : Clause quoting [.verbatim "(", .placeholder (cellBinding number first).name]
        [⟨[.verbatim "("], cellBinding number first⟩] :=
      clause_slot "(" (cellBinding number first) (by decide) hfirst
    have hmore : Clause quoting
        (others.flatMap fun cell => .verbatim ", " :: (cellBinding number cell).pieces)
        (others.flatMap fun cell => [⟨[.verbatim ", "], cellBinding number cell⟩]) :=
      clause_flatMap fun cell hc =>
        clause_slot ", " (cellBinding number cell) (by decide) (hothers cell hc)
    have hpieces : tuplePieces ((first :: others).map (cellBinding number)) =
        ([.verbatim "(", .placeholder (cellBinding number first).name] ++
          others.flatMap fun cell => .verbatim ", " :: (cellBinding number cell).pieces) ++
          [.verbatim ")"] := by
      simp [tuplePieces, commaSeparated_cons, Binding.pieces, List.flatMap_map, Function.comp_def]
    have hslots : rowSlots number (first :: others) =
        ([⟨[.verbatim "("], cellBinding number first⟩] ++
          others.flatMap fun cell => [⟨[.verbatim ", "], cellBinding number cell⟩]) ++ [] := by
      simp [rowSlots, cellBinding, List.map_eq_flatMap]
    rw [hpieces, hslots]
    exact (hopen.carries.append hmore).append hclose

theorem carries_assignment {cell : Cell} (h : isIdentifier cell.field = true) :
    Carries quoting (cellAssignment cell).pieces [assignmentSlot cell] := by
  have hlead : ':' ∉ write quoting (namePieces cell.field ++ [.verbatim " = "]) := by
    rw [write_append]
    refine fun hm => (List.mem_append.mp hm).elim (colon_not_mem_namePieces (.inr h)) ?_
    simp [Piece.write]
  have hpieces : (cellAssignment cell).pieces =
      (assignmentSlot cell).lead ++ [.placeholder (assignmentSlot cell).binding.name] := by
    simp [Assignment.pieces, cellAssignment, assignmentSlot, Binding.pieces]
  rw [hpieces]
  exact carries_slot (assignmentSlot cell) hlead (isWord_updateName h)

/-! ## The whole query -/

/-- What a query writes carries its slots. -/
theorem carries_queryPieces {query : Query} {statement : Statement} (ha : Accepted query)
    (hs : StatementFor query statement)
    (raw : query.operation = .select → ∀ join ∈ query.joins, ':' ∉ join.predicate.toList) :
    Carries quoting (queryPieces query) (querySlots query) := by
  -- Every clause but the first starts with a separator, so none goes on with the word before it.
  have hw := ha.words
  obtain ⟨hconditions, hhaving⟩ := List.forall_mem_append.mp hw.conditions
  have htarget : Carries quoting (namePieces query.target) [] := carries_namePieces (.inr hw.target)
  have hreturning : Clause quoting (returningClause query.returning) [] :=
    clause_list (by decide) fun name hn => carries_namePieces (hw.returning name hn)
  have hwhere : ∀ {chain : Chain}, ChainFor query.conditions chain →
      Clause quoting (conditionClause " WHERE " query.conditions)
        (query.conditions.flatMap conditionSlots) := clause_conditions (by decide) hconditions
  cases hs with
  | select ho hf hh =>
    have hselect : Carries quoting (.verbatim "SELECT " :: projectionPieces query.fields) [] :=
      (carries_projectionPieces hw.fields).after_verbatim (by decide)
    have hfrom : Clause quoting (.verbatim " FROM " :: namePieces query.target) [] :=
      htarget.behind (by decide)
    have hgroups : Clause quoting (listClause " GROUP BY " (query.grouping.map namePieces)) [] :=
      clause_list (by decide) fun name hn => carries_namePieces (.inr (hw.grouping name hn))
    have hgrouped : Clause quoting (conditionClause " HAVING " query.having)
        (query.having.flatMap conditionSlots) := clause_conditions (by decide) hhaving hh
    have hsorted : Clause quoting (listClause " ORDER BY " (query.ordering.map sortKeyPieces)) [] :=
      clause_list (by decide) fun key hk => carries_sortKeyPieces (hw.ordering key hk)
    have h := (((((((hselect.append hfrom).append (clause_joins hw.joins (raw ho))).append
      (hwhere hf)).append hgroups).append hgrouped).append hsorted).append
      (clause_page .limit ha.limit)).append (clause_page .offset ha.offset)
    simp only [List.append_nil, List.nil_append] at h
    simp only [queryPieces, querySlots, ho, List.flatMap_append]
    exact h
  | insert ho =>
    have hinto : Carries quoting (.verbatim "INSERT INTO " :: namePieces query.target) [] :=
      htarget.after_verbatim (by decide)
    have hcolumns : Clause quoting
        (.verbatim " (" :: commaSeparated (query.insertColumns.map namePieces)) [] :=
      (carries_silent_items fun column hc =>
        carries_namePieces (isName_of_mem_insertColumns hw column hc)).behind (by decide)
    have hvalues : Clause quoting
        (.verbatim ") VALUES " :: commaSeparated ((tuplesFrom 0 query.insertRows).map tuplePieces))
        (query.insertRows.zipIdx.flatMap fun numbered => rowSlots numbered.2 numbered.1) := by
      rw [tuplesFrom, List.map_map]
      exact (carries_commaSeparated fun numbered hn => carries_tuplePieces
        (hw.rows _ (List.fst_mem_of_mem_zipIdx hn))).behind (by decide)
    have h := ((hinto.append hcolumns).append hvalues).append hreturning
    simp only [List.append_nil, List.nil_append] at h
    simp only [queryPieces, querySlots, ho]
    exact h
  | update ho hf =>
    have hupdate : Carries quoting (.verbatim "UPDATE " :: namePieces query.target) [] :=
      htarget.after_verbatim (by decide)
    have hset : Clause quoting
        (.verbatim " SET " ::
          commaSeparated (query.assignments.map fun cell => (cellAssignment cell).pieces))
        (query.assignments.flatMap fun cell => [assignmentSlot cell]) :=
      (carries_commaSeparated fun cell hc => carries_assignment (hw.updates cell hc)).behind
        (by decide)
    have h := ((hupdate.append hset).append (hwhere hf)).append hreturning
    simp only [List.append_nil, List.nil_append, ← List.map_eq_flatMap] at h
    simp only [queryPieces, querySlots, ho]
    exact h
  | delete ho hf =>
    have hdelete : Carries quoting (.verbatim "DELETE FROM " :: namePieces query.target) [] :=
      htarget.after_verbatim (by decide)
    have h := (hdelete.append (hwhere hf)).append hreturning
    simp only [List.append_nil, List.nil_append] at h
    simp only [queryPieces, querySlots, ho]
    exact h
  | count ho hf =>
    have hcount : Carries quoting
        (.verbatim "SELECT COUNT(*) FROM " :: namePieces query.target) [] :=
      htarget.after_verbatim (by decide)
    have h := hcount.append (hwhere hf)
    simp only [List.nil_append] at h
    simp only [queryPieces, querySlots, ho]
    exact h

end Slots

/-! ## What the parameters hold -/

/-- The parameters as a record of values under their names. -/
def Parameters.record (parameters : Parameters) : Record Value where
  entries := parameters.bindings.map fun binding => (binding.name, binding.value)
  keys_nodup := by
    rw [List.map_map]
    exact parameters.names_nodup

theorem Reads.isWord_of_mem {quoting : Quoting} {text : List Char} {slots : List Slot}
    (h : Reads quoting text slots) : ∀ slot ∈ slots, isWord slot.binding.name.toList = true := by
  induction h with
  | done silent => simp
  | slot silent own word apart more ih => exact List.forall_mem_cons.mpr ⟨word, ih⟩

/-- Names that are words are listed in the order in which they were bound. -/
theorem Parameters.toList_record {parameters : Parameters}
    (h : ∀ binding ∈ parameters.bindings, isWord binding.name.toList = true) :
    parameters.record.toList =
      parameters.bindings.map fun binding => (binding.name, binding.value) := by
  refine Record.toList_of_named (List.forall_mem_map.mpr fun binding hb => ?_)
  exact Record.index?_of_head fun c hc => isDigit_of_head_word (h binding hb) hc

/-- **Every placeholder is bound to the value of its own place.**  The placeholders of a rendered
query are its parameters, in the order in which those are listed and none of them twice; and the
text reads as the slots of the query, whose names and values are what the parameters list.  The raw
text of the joins is not checked, so it is asked not to bring placeholders of its own. -/
theorem placeholders_bound {quoting : Quoting} {query : Query} {rendered : Rendered}
    (h : (render quoting query).outcome = .ok rendered)
    (raw : query.operation = .select → ∀ join ∈ query.joins, ':' ∉ join.predicate.toList) :
    placeholders rendered.text.toList = rendered.parameters.record.toList.map Prod.fst ∧
      (placeholders rendered.text.toList).Nodup ∧
      Reads quoting rendered.text.toList (querySlots query) ∧
      rendered.parameters.record.toList =
        (querySlots query).map fun slot => (slot.binding.name, slot.binding.value) := by
  obtain ⟨ha, ⟨statement, hs⟩, htext, hbindings⟩ := render_eq h
  -- Nothing stands behind the last clause, which ends any word.
  have hreads : Reads quoting rendered.text.toList (querySlots query) := by
    have hend : Reads quoting [] [] := .done List.not_mem_nil
    have := carries_queryPieces ha hs raw [] [] (by simp [Apart]) hend
    rwa [List.append_nil, List.append_nil, ← htext] at this
  have hslots : rendered.parameters.bindings = (querySlots query).map Slot.binding := by
    rw [hbindings, bindings_querySlots]
  have hlist : rendered.parameters.record.toList =
      (querySlots query).map fun slot => (slot.binding.name, slot.binding.value) := by
    rw [Parameters.toList_record, hslots, List.map_map]
    · rfl
    · rw [hslots]
      exact List.forall_mem_map.mpr hreads.isWord_of_mem
  have hnames : placeholders rendered.text.toList = rendered.parameters.names := by
    rw [hreads.placeholders_eq, Parameters.names, hslots, List.map_map]
    rfl
  refine ⟨?_, hnames ▸ rendered.parameters.names_nodup, hreads, hlist⟩
  rw [hreads.placeholders_eq, hlist, List.map_map]
  rfl

theorem placeholders_bound_interval :
    let query : Query := { Query.blank .update "users" with
      conditions := [⟨"u.age", .between, .list [.text "20", .text "30"], .or, "age"⟩,
        ⟨"left_at", .isNull, .null, .and, "left_at"⟩, ⟨"id", .memberOf, .list [], .and, "id"⟩]
      updates? := some [⟨"u.name", .text "Ann"⟩] }
    ∃ rendered, (render .doubleQuoted query).outcome = .ok rendered ∧
      placeholders rendered.text.toList = ["update_u_name", "age_lo", "age_hi", "id"] ∧
      rendered.parameters.record.toList.map Prod.fst = placeholders rendered.text.toList ∧
      Reads .doubleQuoted rendered.text.toList (querySlots query) := by
  intro query
  obtain ⟨rendered, h⟩ := Except.exists_of_isOk
    (show (render .doubleQuoted query).outcome.isOk = true by decide +kernel)
  obtain ⟨hnames, -, hreads, -⟩ := placeholders_bound h fun e => absurd e (by decide)
  refine ⟨rendered, h, ?_, hnames.symm, hreads⟩
  rw [hreads.placeholders_eq]
  decide +kernel

end CrudQuery.Sql
