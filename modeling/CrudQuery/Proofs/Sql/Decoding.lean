import CrudQuery.Proofs.Sql.Layout
import CrudQuery.Proofs.Text.Decoding

/-! # Telling the parts of a statement apart

Names are not told from keywords by what they are, since a name may be any word; they are told by
where they end.  So a text is taken apart from left to right: a name ends at the first break, the
sign of an operator is not the beginning of another, and behind a list or a chain stands one of a
few words that do not continue it.  Each lemma takes one part, up to the clauses a statement is
made of.
-/

namespace CrudQuery.Sql
open Text

/-! ## What a chain says -/

/-- Two conditions that read the same. -/
structure SameCondition (condition other : Condition) : Prop where
  field : condition.field = other.field
  operator : condition.operator = other.operator
  parameter : condition.operator.usesValue? = some true → condition.parameter = other.parameter

/-- Two chains that read the same: as long as each other, the same condition by condition, and with
a disjunction before a next condition in the same places. -/
inductive SameChain : List Condition → List Condition → Prop
  | nil : SameChain [] []
  | single {condition other : Condition} (same : SameCondition condition other) :
      SameChain [condition] [other]
  | cons {condition other next follower : Condition} {rest more : List Condition}
      (same : SameCondition condition other)
      (connector : condition.connector.isOr = other.connector.isOr)
      (others : SameChain (next :: rest) (follower :: more)) :
      SameChain (condition :: next :: rest) (other :: follower :: more)

section Decoding
variable {quoting : Quoting}

/-! ## Names -/

theorem isBreak_of_isWordPart {c : Char} (h : isWordPart c = true) : isBreak c = false := by
  by_contra hc
  have hc : c ∈ [' ', ',', '(', ')'] :=
    List.contains_iff_mem.mp ((Bool.not_eq_false _).mp hc)
  simp only [List.mem_cons, List.not_mem_nil, or_false] at hc
  rcases hc with rfl | rfl | rfl | rfl <;> exact absurd h (by decide)

theorem solid_word {word : List Char} (h : isWord word = true) : Solid word :=
  fun _ hc => isBreak_of_isWordPart (isWordPart_of_mem_word h hc)

theorem solid_write_identifier {name : String} (h : isDottedWord name.toList = true) :
    Solid (quoting.write name) := by
  intro c hc
  rcases mem_write_identifier h hc with hw | rfl | ⟨rfl, -⟩
  · exact isBreak_of_isWordPart hw
  · decide
  · decide

theorem decodes_identifier :
    Decodes quoting.write Broken (· = ·) fun name => isDottedWord name.toList = true := by
  -- Two names written alike are the same once their quotes are left out.
  refine (decodes_solid fun name => solid_write_identifier).same_mono fun x y hx hy e => ?_
  have := congrArg (List.filter (· != '"')) e
  rw [filter_write_identifier hx, filter_write_identifier hy] at this
  exact String.toList_inj.mp this

theorem write_namePieces {name : String} :
    write quoting (namePieces name) = if name = "*" then ['*'] else quoting.write name := by
  unfold namePieces
  split <;> simp [Piece.write]

theorem solid_write_namePieces {name : String} (h : IsName name) :
    Solid (write quoting (namePieces name)) := by
  rw [write_namePieces]
  split
  · exact fun c hc => List.mem_singleton.mp hc ▸ rfl
  · next hne => exact solid_write_identifier (isDottedWord_of_isIdentifier (h.resolve_left hne))

theorem decodes_name :
    Decodes (fun name => write quoting (namePieces name)) Broken (· = ·) IsName := by
  have hfilter : ∀ name, IsName name →
      (write quoting (namePieces name)).filter (· != '"') = name.toList := by
    intro name h
    rw [write_namePieces]
    split
    · next he => rw [he]; rfl
    · next hne => exact filter_write_identifier (isDottedWord_of_isIdentifier (h.resolve_left hne))
  refine (decodes_solid fun name => solid_write_namePieces).same_mono fun x y hx hy e => ?_
  have := congrArg (List.filter (· != '"')) e
  rw [hfilter x hx, hfilter y hy] at this
  exact String.toList_inj.mp this

theorem decodes_word :
    Decodes String.toList Broken (· = ·) fun name => isWord name.toList = true :=
  (decodes_solid fun _ => solid_word).same_mono fun _ _ _ _ e => String.toList_inj.mp e

/-- A placeholder is its name behind a colon. -/
theorem decodes_placeholder :
    Decodes (fun name => write quoting [.placeholder name]) Broken (· = ·)
      fun name => isWord name.toList = true :=
  (decodes_word.behind ":").congr fun name _ => by simp [Piece.write]

/-! ## Conditions -/

/-- What stands between a field and the first name or the end of its condition. -/
def signText (operator : Operator) : List Char :=
  (operator.sign?.getD "").toList ++ if operator.arity? = some .unary then [] else [':']

/-- What stands behind that. -/
def operandText (condition : Condition) : List Char :=
  match condition.operator.arity? with
  | some .binary | some .pattern => condition.parameter.toList
  | some .list => condition.parameter.toList ++ [')']
  | some .pair =>
    (lowName condition.parameter).toList ++ " AND :".toList ++
      (highName condition.parameter).toList
  | some .unary | none => []

/-- An accepted condition whose operator has a sign. -/
structure Shaped (condition : Condition) : Prop extends AcceptedCondition condition where
  operator : condition.operator ∈ Operator.signed

theorem write_conditionPieces {condition : Condition} (h : Shaped condition) :
    write quoting (conditionPieces condition) =
      write quoting (namePieces condition.field) ++ signText condition.operator ++
        operandText condition := by
  have hsigned := h.operator
  unfold conditionPieces operandPieces operandText signText
  cases ho : condition.operator with
  | isPresent => rw [ho] at hsigned; exact absurd hsigned (by decide)
  | other name => rw [ho] at hsigned; simp [Operator.signed] at hsigned
  | _ => simp [Operator.arity?, Piece.write]

/-- No sign begins another. -/
theorem decodes_signText (ends : List Char → Prop) :
    Decodes signText ends (· = ·) (· ∈ Operator.signed) := by
  have hfree : ∀ a ∈ Operator.signed, ∀ b ∈ Operator.signed, signText a <+: signText b → a = b := by
    decide
  exact decodes_of_prefix_free ends
    (fun a b ha hb hp => ⟨hfree a ha b hb hp, congrArg signText (hfree a ha b hb hp)⟩)
    fun _ _ => Eq.symm

/-- Behind the same sign, what takes a value tells its parameter. -/
theorem decodes_operandText (operator : Operator) :
    Decodes operandText Broken
      (fun c d => operator.usesValue? = some true → c.parameter = d.parameter)
      fun c => Shaped c ∧ c.operator = operator := by
  have hparameter : Decodes (fun c : Condition => c.parameter.toList) Broken
      (fun c d => c.parameter = d.parameter) fun c => Shaped c ∧ c.operator = operator :=
    decodes_word.on Condition.parameter fun c hc => hc.1.parameter
  -- How many names there are, and what closes them, depends on the operator alone.
  cases ha : operator.arity? with
  | none =>
    rintro c d rest more ⟨hc, rfl⟩
    have hsigned : ∀ o ∈ Operator.signed, o.arity? ≠ none := by decide
    exact absurd ha (hsigned _ hc.operator)
  | some arity =>
    cases arity with
    | binary | pattern =>
      refine (hparameter.congr fun c hc => ?_).same_mono fun _ _ _ _ hs _ => hs
      simp only [operandText, hc.2, ha]
    | list =>
      have hclosed := hparameter.seq (decodes_const ")" Broken)
        fun _ rest _ _ => broken_append (by decide) rest
      refine (hclosed.congr fun c hc => ?_).same_mono fun _ _ _ _ hs _ => hs.1
      simp only [operandText, hc.2, ha]
      rfl
    | pair =>
      have hlow : Decodes (fun c : Condition => (lowName c.parameter).toList) Broken
          (fun c d => lowName c.parameter = lowName d.parameter)
          fun c => Shaped c ∧ c.operator = operator :=
        decodes_word.on (fun c : Condition => lowName c.parameter) fun c hc =>
          isWord_lowName hc.1.parameter
      have hhigh : Decodes (fun c : Condition => (highName c.parameter).toList) Broken
          (fun c d => highName c.parameter = highName d.parameter)
          fun c => Shaped c ∧ c.operator = operator :=
        decodes_word.on (fun c : Condition => highName c.parameter) fun c hc =>
          isWord_highName hc.1.parameter
      have hboth := hlow.seq (hhigh.behind " AND :") fun c rest _ _ => by
        rw [List.append_assoc]
        exact broken_append (by decide) _
      have htext : ∀ c : Condition, Shaped c ∧ c.operator = operator → operandText c =
          (lowName c.parameter).toList ++ (" AND :".toList ++ (highName c.parameter).toList) := by
        intro c hc
        simp only [operandText, hc.2, ha, List.append_assoc]
      exact (hboth.congr htext).same_mono fun _ _ _ _ hs _ => lowName_inj hs.1
    | unary =>
      have hsilent : operator.usesValue? ≠ some true := by
        cases operator <;> first | decide | cases ha
      have hempty : Decodes (fun _ : Condition => "".toList) Broken (fun _ _ => True)
          fun c => Shaped c ∧ c.operator = operator := decodes_const "" Broken
      refine (hempty.congr fun c hc => ?_).same_mono fun _ _ _ _ _ hu => absurd hu hsilent
      simp only [operandText, hc.2, ha]
      rfl

/-- A condition is told apart by its field, its sign and its parameter. -/
theorem decodes_condition :
    Decodes (fun c => write quoting (conditionPieces c)) Broken SameCondition Shaped := by
  have hfield : Decodes (fun c : Condition => write quoting (namePieces c.field)) Broken
      (fun c d => c.field = d.field) Shaped :=
    decodes_name.on Condition.field fun c hc => .inr hc.field
  have hsign : Decodes (fun c : Condition => signText c.operator) (fun _ => True)
      (fun c d => c.operator = d.operator) Shaped :=
    (decodes_signText _).on Condition.operator fun c hc => hc.operator
  have hoperator : Decodes (fun c => signText c.operator ++ operandText c) Broken
      (fun c d => c.operator = d.operator ∧
        (c.operator.usesValue? = some true → c.parameter = d.parameter)) Shaped :=
    hsign.seq_of_same
      (fun c d rest more hc hd ho =>
        decodes_operandText c.operator c d rest more ⟨hc, rfl⟩ ⟨hd, ho.symm⟩)
      fun _ _ _ _ => trivial
  have hbreak : ∀ o ∈ Operator.signed, (signText o).head?.any isBreak = true := by decide
  have hcondition := hfield.seq hoperator fun c rest hc _ => by
    rw [List.append_assoc]
    exact broken_append (hbreak _ hc.operator) _
  refine (hcondition.congr fun c hc => ?_).same_mono fun c d _ _ h => ⟨h.1, h.2.1, h.2.2⟩
  rw [write_conditionPieces hc, List.append_assoc]

/-! ## Chains -/

/-- The word before a further condition. -/
def connectorWord (orNext : Bool) : String := if orNext then " OR " else " AND "

/-- The further conditions of a chain, each with what the one before it says about disjunction. -/
def links : Condition → List Condition → List (Bool × Condition)
  | _, [] => []
  | condition, next :: rest => (condition.connector.isOr, next) :: links next rest

theorem mem_of_mem_links {condition : Condition} {rest : List Condition} {link : Bool × Condition}
    (h : link ∈ links condition rest) : link.2 ∈ rest := by
  induction rest generalizing condition with
  | nil => cases h
  | cons next rest ih =>
    rcases List.mem_cons.mp h with rfl | h
    · exact List.mem_cons_self
    · exact List.mem_cons_of_mem _ (ih h)

theorem write_chainPieces (condition : Condition) (rest : List Condition) :
    write quoting (chainPieces (condition :: rest)) =
      write quoting (conditionPieces condition) ++ (links condition rest).flatMap fun link =>
        (connectorWord link.1).toList ++ write quoting (conditionPieces link.2) := by
  induction rest generalizing condition with
  | nil => simp [chainPieces, links]
  | cons next rest ih =>
    rw [chainPieces, write_append, write_cons, ih, links, List.flatMap_cons, List.append_assoc]
    rfl

theorem sameChain_of_links {condition other : Condition} {rest more : List Condition}
    (h : SameCondition condition other)
    (hl : List.Forall₂ (fun link last => link.1 = last.1 ∧ SameCondition link.2 last.2)
      (links condition rest) (links other more)) :
    SameChain (condition :: rest) (other :: more) := by
  induction rest generalizing condition other more with
  | nil =>
    cases more with
    | nil => exact .single h
    | cons follower more => cases hl
  | cons next rest ih =>
    cases more with
    | nil => cases hl
    | cons follower more =>
      cases hl with
      | cons hlink hrest => exact .cons h hlink.1 (ih hlink.2 hrest)

theorem decodes_connector (ends : List Char → Prop) :
    Decodes (fun orNext => (connectorWord orNext).toList) ends (· = ·) fun _ => True := by
  have hfree : ∀ a b : Bool,
      (connectorWord a).toList <+: (connectorWord b).toList → a = b := by decide
  refine decodes_of_prefix_free ends (fun a b _ _ hp => ?_) fun _ _ => Eq.symm
  exact ⟨hfree a b hp, by rw [hfree a b hp]⟩

/-- Words that may stand behind a chain: they end a name, and none of them is a connector. -/
def endsChain (later : List String) : Bool :=
  allBreak later && clear " AND " later && clear " OR " later

/-- A chain is told apart before words that do not continue it. -/
theorem decodes_chain {later : List String} (hends : endsChain later = true) :
    Decodes (fun cs => write quoting (chainPieces cs)) (Follows later) SameChain
      fun cs => cs.isEmpty = false ∧ ∀ c ∈ cs, Shaped c := by
  simp only [endsChain, Bool.and_eq_true] at hends
  obtain ⟨⟨hbreak, hand⟩, hor⟩ := hends
  have hclear : ∀ orNext : Bool, clear (connectorWord orNext) later = true :=
    fun orNext => by cases orNext <;> assumption
  have hword : ∀ orNext : Bool, connectorWord orNext ∈ " AND " :: " OR " :: later :=
    fun orNext => by cases orNext <;> simp [connectorWord]
  have hitem : Decodes (fun c => write quoting (conditionPieces c))
      (Follows (" AND " :: " OR " :: later)) SameCondition Shaped := by
    refine decodes_condition.ends_mono fun rest hr => hr.broken ?_
    simpa [allBreak, isBreak] using hbreak
  have hlink : Decodes
      (fun link : Bool × Condition =>
        (connectorWord link.1).toList ++ write quoting (conditionPieces link.2))
      (Follows (" AND " :: " OR " :: later))
      (fun link last => link.1 = last.1 ∧ SameCondition link.2 last.2) fun link => Shaped link.2 :=
    ((decodes_connector fun _ => True).on Prod.fst fun _ _ => trivial).seq
      (hitem.on Prod.snd fun _ hl => hl) fun _ _ _ _ => trivial
  have hlinks : Decodes
      (fun ls : List (Bool × Condition) => ls.flatMap fun link =>
        (connectorWord link.1).toList ++ write quoting (conditionPieces link.2))
      (Follows later)
      (List.Forall₂ fun link last => link.1 = last.1 ∧ SameCondition link.2 last.2)
      fun ls => ∀ link ∈ ls, Shaped link.2 := hlink.many
    (fun rest hr => hr.mono fun _ hm => List.mem_cons_of_mem _ (List.mem_cons_of_mem _ hm))
    (fun link rest _ => by
      rw [List.append_assoc]
      exact follows_append (hword link.1) _)
    (fun link rest _ => by
      rw [List.append_assoc]
      exact not_follows (hclear link.1) _)
  have hchain : Decodes
      (fun cs : Condition × List Condition =>
        write quoting (conditionPieces cs.1) ++ (links cs.1 cs.2).flatMap fun link =>
          (connectorWord link.1).toList ++ write quoting (conditionPieces link.2))
      (Follows later) (fun cs ds => SameChain (cs.1 :: cs.2) (ds.1 :: ds.2))
      fun cs => ∀ c ∈ cs.1 :: cs.2, Shaped c := by
    refine ((hitem.on Prod.fst fun cs hcs => hcs _ List.mem_cons_self).seq
      (hlinks.on (fun cs : Condition × List Condition => links cs.1 cs.2) fun cs hcs link hl =>
        hcs _ (List.mem_cons_of_mem _ (mem_of_mem_links hl))) ?_).same_mono
      fun _ _ _ _ h => sameChain_of_links h.1 h.2
    rintro ⟨c, cs⟩ rest - hr
    cases cs with
    | nil => exact hr.mono fun _ hm => List.mem_cons_of_mem _ (List.mem_cons_of_mem _ hm)
    | cons next cs =>
      rw [links, List.flatMap_cons, List.append_assoc, List.append_assoc]
      exact follows_append (hword _) _
  exact decodes_cons hchain write_chainPieces

/-! ## Lists of items -/

/-- Items with commas are told apart before words that start with a break and are no comma. -/
theorem decodes_commaSeparated {α : Type} {pieces : α → List Piece} {same : α → α → Prop}
    {valid : α → Prop} {later : List String} (hc : clear ", " later = true)
    (h : Decodes (fun x => write quoting (pieces x)) (Follows (", " :: later)) same valid) :
    Decodes (fun xs : List α => write quoting (commaSeparated (xs.map pieces))) (Follows later)
      (List.Forall₂ same) fun xs => xs.isEmpty = false ∧ ∀ x ∈ xs, valid x := by
  refine h.list hc fun x xs => ?_
  rw [List.map_cons, commaSeparated_cons, write_append, List.flatMap_map]
  simp only [write, List.flatMap_assoc, List.flatMap_cons]
  rfl

/-- Words that may stand behind a list of names: they end a name, and none of them is a comma. -/
def endsList (later : List String) : Bool := allBreak later && clear ", " later

theorem decodes_names {later : List String} (hends : endsList later = true) :
    Decodes (fun names : List String => write quoting (commaSeparated (names.map namePieces)))
      (Follows later) (· = ·)
      fun names => names.isEmpty = false ∧ ∀ name ∈ names, IsName name := by
  rw [endsList, Bool.and_eq_true] at hends
  obtain ⟨hbreak, hc⟩ := hends
  have hitem : Decodes (fun name => write quoting (namePieces name)) (Follows (", " :: later))
      (· = ·) IsName :=
    decodes_name.ends_mono fun rest hr => hr.broken (by simpa [allBreak, isBreak] using hbreak)
  exact (decodes_commaSeparated hc hitem).same_mono
    fun _ _ _ _ h => List.forall₂_eq_eq_eq ▸ h

/-! ## Clauses -/

theorem clauseDecodes_chain {keyword : String} {later : List String}
    (hk : clear keyword later = true) (hends : endsChain later = true) :
    DecodesClause keyword later (fun cs => write quoting (conditionClause keyword cs)) SameChain
      fun cs => ∀ c ∈ cs, Shaped c := by
  have hchain : Decodes (fun cs => write quoting (chainPieces cs)) (Follows later) SameChain
      fun cs => cs.isEmpty = false ∧ ∀ c ∈ cs, Shaped c := decodes_chain hends
  refine hchain.clause (fun cs ds hcs hds => ?_) hk fun cs => ?_
  · rw [List.isEmpty_iff.mp hcs, List.isEmpty_iff.mp hds]
    exact .nil
  · unfold conditionClause clauseText
    split <;> rfl

theorem clauseDecodes_list {α : Type} {pieces : α → List Piece} {valid : α → Prop}
    {keyword : String} {later : List String} (hk : clear keyword later = true)
    (h : Decodes (fun xs : List α => write quoting (commaSeparated (xs.map pieces)))
      (Follows later) (· = ·) fun xs => xs.isEmpty = false ∧ ∀ x ∈ xs, valid x) :
    DecodesClause keyword later
      (fun xs : List α => write quoting (listClause keyword (xs.map pieces))) (· = ·)
      fun xs => ∀ x ∈ xs, valid x := by
  refine h.clause (fun xs ys hxs hys => ?_) hk fun xs => ?_
  · rw [List.isEmpty_iff.mp hxs, List.isEmpty_iff.mp hys]
  · rw [listClause, clauseText, List.isEmpty_map]
    split <;> rfl

theorem clauseDecodes_names {keyword : String} {later : List String}
    (hk : clear keyword later = true) (hends : endsList later = true) :
    DecodesClause keyword later
      (fun names : List String => write quoting (listClause keyword (names.map namePieces)))
      (· = ·) fun names => ∀ name ∈ names, IsName name :=
  clauseDecodes_list hk (decodes_names hends)

/-- The text of a page bound, if there is one. -/
def boundText? (value? : Option Float) : Option String := value?.map Number.text

theorem isBreak_of_isUnsigned {c : Char} (h : Number.IsUnsigned c) : isBreak c = false := by
  rcases h with h | rfl | rfl | rfl
  · exact isBreak_of_isWordPart (by simp [isWordPart, h])
  all_goals decide

/-- What a page bound is written behind. -/
def pageKeyword : PageBound → String
  | .limit => " LIMIT "
  | .offset => " OFFSET "

/-- An operand behind the keyword of a page bound, if there is one. -/
def pageText (bound : PageBound) : Option String → String
  | some operand => pageKeyword bound ++ operand
  | none => ""

theorem write_pageClause (bound : PageBound) (value? : Option Float) :
    write quoting (pageClause bound value?) = (pageText bound (boundText? value?)).toList := by
  cases value? with
  | none => rfl
  | some value =>
    rw [pageClause, write_cons, write_nil, List.append_nil, Piece.write]
    cases bound <;> rfl

/-- An operand that holds no break ends where the clause does. -/
theorem clauseDecodes_operand (bound : PageBound) {later : List String}
    (hk : clear (pageKeyword bound) later = true) (hbreak : allBreak later = true) :
    DecodesClause (pageKeyword bound) later (fun operand? => (pageText bound operand?).toList)
      (· = ·) fun operand? => ∀ operand, operand? = some operand → Solid operand.toList := by
  have hbody : Decodes (fun operand? : Option String => (operand?.getD "").toList) (Follows later)
      (· = ·) fun operand? => operand?.isNone = false ∧
        ∀ operand, operand? = some operand → Solid operand.toList := by
    have hsolid : ∀ operand? : Option String, (operand?.isNone = false ∧
        ∀ operand, operand? = some operand → Solid operand.toList) →
        Solid (operand?.getD "").toList := by
      rintro (_ | operand) ⟨hnone, hoperand⟩
      · cases hnone
      · exact hoperand operand rfl
    refine ((decodes_solid hsolid).ends_mono fun rest hr => hr.broken hbreak).same_mono ?_
    rintro (_ | operand) (_ | other) ⟨hx, -⟩ ⟨hy, -⟩ e
    · rfl
    · cases hx
    · cases hy
    · exact congrArg some (String.toList_inj.mp e)
  refine hbody.clause (fun operand? other? hx hy => ?_) hk fun operand? => ?_
  · rw [Option.isNone_iff_eq_none.mp hx, Option.isNone_iff_eq_none.mp hy]
  · cases operand? with
    | none => rfl
    | some operand => exact String.toList_append

/-- The text of a page bound holds no break. -/
theorem solid_boundText {value? : Option Float}
    (h : ∀ value, value? = some value → Query.isPageBound value = true) :
    ∀ operand, boundText? value? = some operand → Solid operand.toList := by
  intro operand hoperand c hc
  obtain ⟨value, hvalue, rfl⟩ := Option.map_eq_some_iff.mp hoperand
  exact isBreak_of_isUnsigned (Number.isUnsigned_of_mem_text (h value hvalue) c hc)

theorem clauseDecodes_page (bound : PageBound) {later : List String}
    (hk : clear (pageKeyword bound) later = true) (hbreak : allBreak later = true) :
    DecodesClause (pageKeyword bound) later
      (fun value? => write quoting (pageClause bound value?))
      (fun value? other? => boundText? value? = boundText? other?)
      fun value? => ∀ value, value? = some value → Query.isPageBound value = true := by
  simp only [write_pageClause]
  exact (clauseDecodes_operand bound hk hbreak).on boundText? fun _ => solid_boundText

/-- Sort keys are fields, each with one of two words behind it. -/
theorem decodes_sortKeys {later : List String} (hc : clear ", " later = true) :
    Decodes (fun keys : List SortKey => write quoting (commaSeparated (keys.map sortKeyPieces)))
      (Follows later) (· = ·)
      fun keys => keys.isEmpty = false ∧ ∀ key ∈ keys, AcceptedSortKey key := by
  have hfield : Decodes (fun key : SortKey => write quoting (namePieces key.field)) Broken
      (fun key other => key.field = other.field) AcceptedSortKey :=
    decodes_name.on SortKey.field fun key hk => .inr hk.field
  have hdirection : Decodes (fun key : SortKey => (" " ++ key.direction.name).toList)
      (Follows (", " :: later)) (fun key other => key.direction = other.direction)
      AcceptedSortKey := by
    refine decodes_of_prefix_free _ (fun key other hk ho hp => ?_) fun _ _ => Eq.symm
    rcases hk.direction with hd | hd <;> rcases ho.direction with he | he <;> rw [hd, he] at hp ⊢
    · exact ⟨rfl, rfl⟩
    · exact absurd hp (by decide)
    · exact absurd hp (by decide)
    · exact ⟨rfl, rfl⟩
  have hkey := hfield.seq hdirection fun key rest hk _ => by
    rcases hk.direction with hd | hd <;> rw [hd] <;> exact broken_append (by decide) rest
  refine (decodes_commaSeparated hc ((hkey.congr fun key _ => ?_).same_mono ?_)).same_mono
    fun _ _ _ _ h => List.forall₂_eq_eq_eq ▸ h
  · simp [sortKeyPieces, Piece.write]
  · rintro ⟨field, direction⟩ ⟨field', direction'⟩ - - h
    exact congrArg₂ SortKey.mk h.1 h.2

end Decoding

end CrudQuery.Sql
