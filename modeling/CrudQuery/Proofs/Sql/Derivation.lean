import CrudQuery.Proofs.Sql.Affixes

/-! # Names that are derived from identifiers

A field is checked as an identifier, and from then on names are made of it: its dots become
underscores, and affixes say what a value is for (`Derived`).  The names that a statement binds are
made in this way, and most of them are never looked at again, so it has to follow from what a field
is that they are words (`isWord_of_derived`).

What a field is, is written down here apart from the check, as a grammar (`Identifier`).  The check
accepts what the grammar has and nothing else (`isIdentifier_iff`): no line break at the end, no
second dot, no letter of another alphabet.  Of all names a query makes only the parameters of its
conditions are checked again, and if these are derived from fields the query is never refused for
one of them (`wellNamed_of_derived`).
-/

namespace CrudQuery

/-- The fields that a query has values for. -/
def Query.valuedFields (query : Query) : List String :=
  query.writtenConditions.map Condition.field ++ query.assignments.columns ++
    query.insertRows.flatMap Row.columns

namespace Sql

/-! ## Identifiers -/

/-- A letter of ASCII or an underscore. -/
def IsLetter (c : Char) : Prop := ('A' ≤ c ∧ c ≤ 'Z') ∨ ('a' ≤ c ∧ c ≤ 'z') ∨ c = '_'

/-- A digit of ASCII. -/
def IsDigit (c : Char) : Prop := '0' ≤ c ∧ c ≤ '9'

/-- A letter, and letters and digits behind it. -/
inductive Word : List Char → Prop
  | spelled {first : Char} {rest : List Char} (letter : IsLetter first)
      (behind : ∀ c ∈ rest, IsLetter c ∨ IsDigit c) : Word (first :: rest)

/-- One word, or two with a dot between them. -/
inductive Identifier : List Char → Prop
  | bare {name : List Char} (word : Word name) : Identifier name
  | dotted {table name : List Char} (qualifier : Word table) (word : Word name) :
      Identifier (table ++ '.' :: name)

theorem isUpper_iff {c : Char} : c.isUpper = true ↔ 'A' ≤ c ∧ c ≤ 'Z' := decide_eq_true_iff

theorem isLower_iff {c : Char} : c.isLower = true ↔ 'a' ≤ c ∧ c ≤ 'z' :=
  Bool.and_eq_true_iff.trans (and_congr decide_eq_true_iff decide_eq_true_iff)

theorem isDigit_iff {c : Char} : c.isDigit = true ↔ IsDigit c :=
  Bool.and_eq_true_iff.trans (and_congr decide_eq_true_iff decide_eq_true_iff)

theorem isWordStart_iff {c : Char} : isWordStart c = true ↔ IsLetter c := by
  have halpha : c.isAlpha = true ↔ ('A' ≤ c ∧ c ≤ 'Z') ∨ ('a' ≤ c ∧ c ≤ 'z') :=
    Bool.or_eq_true_iff.trans (or_congr isUpper_iff isLower_iff)
  rw [isWordStart, Bool.or_eq_true, halpha, beq_iff_eq, or_assoc]
  rfl

theorem isWordPart_iff {c : Char} : isWordPart c = true ↔ IsLetter c ∨ IsDigit c := by
  rw [isWordPart, Bool.or_eq_true, isWordStart_iff, isDigit_iff]

theorem isWord_iff_word {cs : List Char} : isWord cs = true ↔ Word cs := by
  simp only [isWord_iff, isWordStart_iff, isWordPart_iff]
  constructor
  · rintro ⟨first, rest, rfl, letter, behind⟩
    exact .spelled letter behind
  · rintro ⟨letter, behind⟩
    exact ⟨_, _, rfl, letter, behind⟩

theorem isDottedWord_iff_identifier {cs : List Char} :
    isDottedWord cs = true ↔ Identifier cs := by
  simp only [isDottedWord_iff, isWord_iff_word]
  constructor
  · rintro (word | ⟨table, name, qualifier, word, rfl⟩)
    · exact .bare word
    · exact .dotted qualifier word
  · rintro (word | ⟨qualifier, word⟩)
    · exact .inl word
    · exact .inr ⟨_, _, qualifier, word, rfl⟩

/-- **What is accepted as an identifier.** -/
theorem isIdentifier_iff {s : String} :
    isIdentifier s = true ↔ s.length ≤ 128 ∧ Identifier s.toList := by
  rw [isIdentifier, Bool.and_eq_true, decide_eq_true_eq, isDottedWord_iff_identifier,
    String.length_toList, and_comm]
  rfl

theorem requireIdentifier_eq_ok {s : String} :
    (requireIdentifier s).outcome = .ok () ↔ isIdentifier s = true := require_eq_ok

theorem requireParameter_eq_ok {s : String} :
    (requireParameter s).outcome = .ok () ↔ isWord s.toList = true := require_eq_ok

/-! ## Derived names -/

/-- The names that can be made of a field: its parameter name, and a name with an affix. -/
inductive Derived (field : String) : String → Prop
  | parameter : Derived field (parameterName field)
  /-- In a condition on groups. -/
  | having {name : String} (h : Derived field name) : Derived field ("having_" ++ name)
  /-- In an assignment. -/
  | update {name : String} (h : Derived field name) : Derived field ("update_" ++ name)
  /-- For the lower bound of an interval. -/
  | low {name : String} (h : Derived field name) : Derived field (name ++ "_lo")
  /-- For the upper bound of an interval. -/
  | high {name : String} (h : Derived field name) : Derived field (name ++ "_hi")
  /-- In a row with a number. -/
  | numbered {name : String} (h : Derived field name) (row : Nat) :
      Derived field (name ++ "_" ++ row.repr)

/-- **Derived names are words**, whatever affixes they were given one after another. -/
theorem isWord_of_derived {field name : String} (hf : isIdentifier field = true)
    (h : Derived field name) : isWord name.toList = true := by
  induction h with
  | parameter => exact isWord_parameterName (isDottedWord_of_isIdentifier hf)
  | having _ ih | update _ ih => exact isWord_prepend (by decide) ih
  | low _ ih => exact isWord_lowName ih
  | high _ ih => exact isWord_highName ih
  | numbered _ row ih => exact isWord_numbered ih row

/-- The names of a condition are derived if its parameter is. -/
theorem derived_of_mem_conditionNames {condition : Condition} {field name : String}
    (h : Derived field condition.parameter) (hname : name ∈ conditionNames condition) :
    Derived field name := by
  rcases mem_conditionNames.mp hname with ⟨-, rfl⟩ | ⟨-, rfl | rfl⟩
  · exact h
  · exact h.low
  · exact h.high

/-- What becomes of a text that is to be an identifier, and of the names that are made of it. -/
structure Judged (s : String) : Prop where
  /-- It is accepted iff it is not too long and has the form of an identifier. -/
  accepted : (requireIdentifier s).outcome = .ok () ↔ s.length ≤ 128 ∧ Identifier s.toList
  /-- Any other text is reported. -/
  refused : ¬ (s.length ≤ 128 ∧ Identifier s.toList) →
    ∃ fault, (requireIdentifier s).outcome = .error fault ∧
      fault.report = ⟨.rendering, "InvalidIdentifier", "Invalid identifier: " ++ s,
        some [("identifier", .text s)]⟩
  /-- Every name that is made of an accepted text can be the name of a parameter. -/
  derived : (requireIdentifier s).outcome = .ok () →
    ∀ name, Derived s name → (requireParameter name).outcome = .ok ()

theorem judged (s : String) : Judged s where
  accepted := requireIdentifier_eq_ok.trans isIdentifier_iff
  refused h := by
    rw [← isIdentifier_iff, Bool.not_eq_true] at h
    exact ⟨_, require_eq_error.mpr ⟨h, rfl⟩, rfl⟩
  derived h name hname :=
    requireParameter_eq_ok.mpr (isWord_of_derived (requireIdentifier_eq_ok.mp h) hname)

/-! ## Queries whose names are derived -/

/-- A query that makes its names of its fields and is not refused for one. -/
structure WellNamed (query : Query) : Prop where
  /-- When its words are checked, no parameter is refused. -/
  checked : ∀ name, (checkWords query).outcome ≠ .error (.invalidWord .parameter name)
  /-- Nor is one when it is rendered. -/
  rendered : ∀ quoting name, (render quoting query).outcome ≠ .error (.invalidWord .parameter name)
  /-- Every name that it binds is derived from a field that it has a value for. -/
  bound : ∀ name ∈ boundNames query, ∃ field ∈ query.valuedFields, Derived field name

/-- A fault that is about a parameter only if some condition has that parameter and it is no
word. -/
def BlamesParameter (conditions : List Condition) (fault : Fault) : Prop :=
  ∀ name, fault = .invalidWord .parameter name →
    ∃ condition ∈ conditions, condition.parameter = name ∧ isWord name.toList = false

/-- A parameter is refused only where it stands in a condition, and only if it is no word. -/
theorem failsWith_blamesParameter (query : Query) :
    (checkWords query).FailsWith (BlamesParameter (query.conditions ++ query.having)) := by
  have hword : ∀ role accepted word, role ≠ .parameter →
      (require role accepted word).FailsWith
        (BlamesParameter (query.conditions ++ query.having)) := by
    intro role accepted word hrole fault h name hname
    rw [(require_eq_error.mp h).2] at hname
    cases hname
    exact absurd rfl hrole
  refine holds_checkWords_of (Traced.closed_failsWith _) hword fun condition hc => ?_
  refine Traced.FailsWith.bind (hword _ _ _ (by decide)) fun _ fault h name hname => ?_
  obtain ⟨hrefused, hfault⟩ := require_eq_error.mp h
  rw [hfault] at hname
  cases hname
  exact ⟨condition, hc, rfl, hrefused⟩

section Queries
variable {query : Query}

/-- The names that a query binds are derived if the parameters of its conditions are. -/
theorem derived_of_mem_boundNames
    (h : ∀ condition ∈ query.writtenConditions, Derived condition.field condition.parameter)
    {name : String} (hname : name ∈ boundNames query) :
    ∃ field ∈ query.valuedFields, Derived field name := by
  have hconditions : ∀ name ∈ query.writtenConditions.flatMap conditionNames,
      ∃ field ∈ query.valuedFields, Derived field name := by
    intro name hn
    obtain ⟨condition, hc, hn⟩ := List.mem_flatMap.mp hn
    refine ⟨condition.field, ?_, derived_of_mem_conditionNames (h condition hc) hn⟩
    exact List.mem_append_left _ (List.mem_append_left _ (List.mem_map_of_mem hc))
  unfold boundNames at hname
  split at hname
  · obtain ⟨⟨row, number⟩, hrow, hn⟩ := List.mem_flatMap.mp hname
    obtain ⟨column, hcolumn, rfl⟩ := List.mem_map.mp hn
    refine ⟨column, List.mem_append_right _ ?_, .numbered .parameter number⟩
    exact List.mem_flatMap.mpr ⟨row, List.fst_mem_of_mem_zipIdx hrow, hcolumn⟩
  · rcases List.mem_append.mp hname with hn | hn
    · obtain ⟨column, hcolumn, rfl⟩ := List.mem_map.mp hn
      exact ⟨column, List.mem_append_left _ (List.mem_append_right _ hcolumn), .update .parameter⟩
    · exact hconditions name hn
  · exact hconditions name hname

/-- **A query whose conditions go by names that are derived** from identifiers is not refused for
the name of a parameter. -/
theorem wellNamed_of_derived
    (hf : ∀ condition ∈ query.conditions ++ query.having, isIdentifier condition.field = true)
    (h : ∀ condition ∈ query.conditions ++ query.having,
      Derived condition.field condition.parameter) : WellNamed query := by
  have hchecked : ∀ name, (checkWords query).outcome ≠ .error (.invalidWord .parameter name) := by
    intro name hrefused
    obtain ⟨condition, hc, rfl, hword⟩ := failsWith_blamesParameter query _ hrefused name rfl
    rw [isWord_of_derived (hf condition hc) (h condition hc)] at hword
    cases hword
  exact {
    checked := hchecked
    rendered := fun _ name hrender => hchecked name (checkWords_of_invalidWord hrender)
    bound := fun _ =>
      derived_of_mem_boundNames fun condition hc => h condition (query.writtenConditions_subset hc) }

end Queries

end Sql

end CrudQuery
