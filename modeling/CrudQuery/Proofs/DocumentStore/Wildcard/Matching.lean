import CrudQuery.Proofs.DocumentStore.Leaves
import CrudQuery.Proofs.DocumentStore.Wildcard.Reading
import Mathlib.Data.List.Count

/-! # What a pattern finds

A pattern is about a whole subject: a wildcard for a run covers any characters, a wildcard for one
character covers any single one, and every other character is itself, in either case (`Like`).  A
document store is not asked for that but for a regular expression, and an engine that is not part of
this library finds it in subjects or not.  What is asked of the engine is its default dialect: it
finds what the reading of an expression says, in which a dot is any character but a line feed and
the anchors are the ends of the subject (`Engine.Standard`).

The expression of a pattern says of a subject what the pattern says, a line feed apart, which none
of its dots covers.  So the test of a condition finds no subject that its pattern does not fit, and
finds all that it does fit among subjects without line feeds; but it finds all of them only if there
is no wildcard in the pattern (`like_found`).  Nothing is wrong with the expression: the engine has
an option under which a dot is any character, and with it the test would find what the pattern fits.
-/

namespace CrudQuery.Wildcard

/-! ## What a pattern says -/

/-- A pattern fits a subject: its wildcards cover what they may, and every other character of it
stands for one that is alike. -/
inductive Like (covered : Char → Prop) (alike : Char → Char → Prop) : List Char → List Char → Prop
  | nil : Like covered alike [] []
  | run {run pattern subject : List Char} (hrun : ∀ c ∈ run, covered c)
      (more : Like covered alike pattern subject) :
      Like covered alike ('%' :: pattern) (run ++ subject)
  | one {c : Char} {pattern subject : List Char} (hc : covered c)
      (more : Like covered alike pattern subject) :
      Like covered alike ('_' :: pattern) (c :: subject)
  | itself {sign c : Char} {pattern subject : List Char} (literal : sign ∉ wildcards)
      (hc : alike sign c) (more : Like covered alike pattern subject) :
      Like covered alike (sign :: pattern) (c :: subject)

/-- **What a pattern is documented to say** of a subject: a wildcard covers every character. -/
def Fits (alike : Char → Char → Prop) (pattern subject : String) : Prop :=
  Like (fun _ => True) alike pattern.toList subject.toList

/-- What a pattern says of a subject if no wildcard covers the end of a line. -/
def FitsWithinLines (alike : Char → Char → Prop) (pattern subject : String) : Prop :=
  Like (fun c => c ≠ '\n') alike pattern.toList subject.toList

section Like
variable {covered : Char → Prop} {alike : Char → Char → Prop} {pattern subject : List Char}

theorem like_nil_iff : Like covered alike [] subject ↔ subject = [] := by
  constructor
  · rintro ⟨⟩
    rfl
  · rintro rfl
    exact .nil

/-- How a pattern fits is told by its first character. -/
theorem like_cons_iff {sign : Char} : Like covered alike (sign :: pattern) subject ↔
    (sign = '%' ∧ ∃ run rest, subject = run ++ rest ∧ (∀ c ∈ run, covered c) ∧
      Like covered alike pattern rest) ∨
    (sign = '_' ∧ ∃ c rest, subject = c :: rest ∧ covered c ∧ Like covered alike pattern rest) ∨
    (sign ∉ wildcards ∧ ∃ c rest, subject = c :: rest ∧ alike sign c ∧
      Like covered alike pattern rest) := by
  constructor
  · intro h
    cases h with
    | run hrun more => exact .inl ⟨rfl, _, _, rfl, hrun, more⟩
    | one hc more => exact .inr (.inl ⟨rfl, _, _, rfl, hc, more⟩)
    | itself literal hc more => exact .inr (.inr ⟨literal, _, _, rfl, hc, more⟩)
  · rintro (⟨rfl, run, rest, rfl, hrun, more⟩ | ⟨rfl, c, rest, rfl, hc, more⟩ |
      ⟨literal, c, rest, rfl, hc, more⟩)
    · exact .run hrun more
    · exact .one hc more
    · exact .itself literal hc more

theorem like_run_iff : Like covered alike ('%' :: pattern) subject ↔
    ∃ run rest, subject = run ++ rest ∧ (∀ c ∈ run, covered c) ∧
      Like covered alike pattern rest := by
  rw [like_cons_iff]
  simp [wildcards]

theorem like_one_iff : Like covered alike ('_' :: pattern) subject ↔
    ∃ c rest, subject = c :: rest ∧ covered c ∧ Like covered alike pattern rest := by
  rw [like_cons_iff]
  simp [wildcards]

theorem like_itself_iff {sign : Char} (literal : sign ∉ wildcards) :
    Like covered alike (sign :: pattern) subject ↔
      ∃ c rest, subject = c :: rest ∧ alike sign c ∧ Like covered alike pattern rest := by
  have hrun : sign ≠ '%' := fun e => literal (e ▸ by decide)
  have hone : sign ≠ '_' := fun e => literal (e ▸ by decide)
  rw [like_cons_iff]
  simp [literal, hrun, hone]

/-- A pattern still fits if its wildcards may cover more. -/
theorem Like.mono {wider : Char → Prop} (hwider : ∀ c, covered c → wider c)
    (h : Like covered alike pattern subject) : Like wider alike pattern subject := by
  induction h with
  | nil => exact .nil
  | run hrun _ ih => exact .run (fun c hc => hwider c (hrun c hc)) ih
  | one hc _ ih => exact .one (hwider _ hc) ih
  | itself literal hc _ ih => exact .itself literal hc ih

/-- A wildcard covers no more than characters of the subject. -/
theorem Like.of_covered {wider : Char → Prop} (h : Like wider alike pattern subject)
    (hcovered : ∀ c ∈ subject, covered c) : Like covered alike pattern subject := by
  induction h with
  | nil => exact .nil
  | run _ _ ih =>
    rw [List.forall_mem_append] at hcovered
    exact .run hcovered.1 (ih hcovered.2)
  | one _ _ ih =>
    rw [List.forall_mem_cons] at hcovered
    exact .one hcovered.1 (ih hcovered.2)
  | itself literal hc _ ih => exact .itself literal hc (ih (List.forall_mem_cons.mp hcovered).2)

/-- What wildcards may cover is nothing to a pattern without any. -/
theorem Like.of_literal {other : Char → Prop} (h : Like other alike pattern subject)
    (hliteral : ∀ sign ∈ pattern, sign ∉ wildcards) : Like covered alike pattern subject := by
  induction h with
  | nil => exact .nil
  | run | one => exact absurd (by decide) (hliteral _ List.mem_cons_self)
  | itself literal hc _ ih => exact .itself literal hc (ih (List.forall_mem_cons.mp hliteral).2)

/-! ### Line feeds

A pattern whose wildcards cover no line feed fits no subject with more line feeds than it has
itself.
-/

theorem Like.count_lineFeed_le (hfeed : ∀ sign, alike sign '\n' → sign = '\n')
    (h : Like (fun c => c ≠ '\n') alike pattern subject) :
    subject.count '\n' ≤ pattern.count '\n' := by
  induction h with
  | nil => exact Nat.le_refl _
  | run hrun _ ih =>
    have hnone := List.count_eq_zero.mpr fun h => hrun _ h rfl
    rw [List.count_append, hnone, Nat.zero_add]
    exact Nat.le_trans ih List.count_le_count_cons
  | one hc _ ih =>
    rw [List.count_cons_of_ne hc]
    exact Nat.le_trans ih List.count_le_count_cons
  | @itself sign c pattern subject literal hc _ ih =>
    by_cases hend : c = '\n'
    · subst hend
      rw [hfeed sign hc, List.count_cons_self, List.count_cons_self]
      exact Nat.succ_le_succ ih
    · rw [List.count_cons_of_ne hend]
      exact Nat.le_trans ih List.count_le_count_cons

/-- A line feed for a wildcard, and any other character for itself. -/
def lineFeed (sign : Char) : Char := if sign ∈ wildcards then '\n' else sign

theorem like_lineFeeds (hrefl : ∀ c, alike c c) (pattern : List Char) :
    Like (fun _ => True) alike pattern (pattern.map lineFeed) := by
  induction pattern with
  | nil => exact .nil
  | cons sign rest ih =>
    rw [List.map_cons]
    by_cases hsign : sign ∈ wildcards
    · rw [wildcards, List.mem_pair] at hsign
      rcases hsign with rfl | rfl
      · exact like_run_iff.mpr ⟨['\n'], _, rfl, fun _ _ => trivial, ih⟩
      · exact .one trivial ih
    · rw [lineFeed, if_neg hsign]
      exact .itself hsign (hrefl sign) ih

theorem count_lineFeeds (pattern : List Char) :
    (pattern.map lineFeed).count '\n' =
      pattern.count '\n' + pattern.countP fun sign => sign ∈ wildcards := by
  induction pattern with
  | nil => rfl
  | cons sign rest ih =>
    by_cases hsign : sign ∈ wildcards
    · have hfeed : lineFeed sign = '\n' := if_pos hsign
      have hend : sign ≠ '\n' := fun e => absurd (e ▸ hsign) (by decide)
      rw [List.map_cons, hfeed, List.count_cons_self, List.count_cons_of_ne hend,
        List.countP_cons_of_pos (by simpa using hsign), ih, Nat.add_assoc]
    · have hitself : lineFeed sign = sign := if_neg hsign
      rw [List.map_cons, hitself, List.count_cons, List.count_cons,
        List.countP_cons_of_neg (by simpa using hsign), ih, Nat.add_right_comm]

end Like

/-- It is the same whether wildcards cover line feeds iff there are no wildcards. -/
theorem forall_fits_iff {alike : Char → Char → Prop} (hrefl : ∀ c, alike c c)
    (hfeed : ∀ sign, alike sign '\n' → sign = '\n') {pattern : String} :
    (∀ subject, FitsWithinLines alike pattern subject ↔ Fits alike pattern subject) ↔
      ∀ sign ∈ pattern.toList, sign ∉ wildcards := by
  constructor
  · intro h sign hsign hwild
    -- Every wildcard covers one line feed more than the pattern has.
    have hlike := like_lineFeeds hrefl pattern.toList
    have hfits : Fits alike pattern (.ofList (pattern.toList.map lineFeed)) := by
      rwa [Fits, String.toList_ofList]
    have hwithin := (h _).mpr hfits
    rw [FitsWithinLines, String.toList_ofList] at hwithin
    have hcount := hwithin.count_lineFeed_le hfeed
    rw [count_lineFeeds] at hcount
    have hpos : 0 < pattern.toList.countP fun sign => sign ∈ wildcards :=
      List.countP_pos_iff.mpr ⟨sign, hsign, by simpa using hwild⟩
    omega
  · intro hliteral subject
    exact ⟨fun h => h.of_literal hliteral, fun h => h.of_literal hliteral⟩

/-! ## What an expression finds -/

/-- How an expression is taken: what a dot covers, and which characters a literal stands for. -/
structure Dialect where
  dot : Char → Prop
  same : Char → Char → Prop

/-- The dialect of some options.  By default a dot covers no line feed and a literal stands for
itself only. -/
def dialect (alike : Char → Char → Prop) (options : String) : Dialect where
  dot c := 's' ∈ options.toList ∨ c ≠ '\n'
  same literal c := if 'i' ∈ options.toList then alike literal c else literal = c

/-- What is read off an expression meets the characters of a subject that are ahead.  Those behind
it are listed backwards. -/
def Meets (d : Dialect) : List Symbol → List Char → List Char → Prop
  | [], _, _ => True
  | .start :: symbols, behind, ahead => behind = [] ∧ Meets d symbols behind ahead
  | .stop :: symbols, behind, ahead => ahead = [] ∧ Meets d symbols behind ahead
  | .token .anyRun :: symbols, behind, ahead =>
    ∃ run rest, ahead = run ++ rest ∧ (∀ c ∈ run, d.dot c) ∧
      Meets d symbols (run.reverse ++ behind) rest
  | .token .anyOne :: symbols, behind, ahead =>
    ∃ c rest, ahead = c :: rest ∧ d.dot c ∧ Meets d symbols (c :: behind) rest
  | .token (.literal sign) :: symbols, behind, ahead =>
    ∃ c rest, ahead = c :: rest ∧ d.same sign c ∧ Meets d symbols (c :: behind) rest

/-- What is read off an expression meets a subject somewhere. -/
def Occurs (d : Dialect) (symbols : List Symbol) (subject : String) : Prop :=
  ∃ behind ahead, subject.toList = behind.reverse ++ ahead ∧ Meets d symbols behind ahead

/-- An engine for regular expressions. -/
structure Engine where
  /-- An expression with options is found in a subject. -/
  finds (source options subject : String) : Prop

/-- What is relied on in an engine, where characters that differ in case only are alike. -/
structure Engine.Standard (engine : Engine) (alike : Char → Char → Prop) : Prop where
  refl : ∀ c, alike c c
  /-- A line feed has no case. -/
  lineFeed : ∀ c, alike c '\n' → c = '\n'
  /-- An expression of the grammar is found where what is read off it occurs, unless an option
  changes what an anchor is or what is read. -/
  finds_iff : ∀ {source options : String} {symbols : List Symbol} (subject : String),
    Reads source.toList symbols → (∀ option ∈ options.toList, option = 'i' ∨ option = 's') →
    (engine.finds source options subject ↔ Occurs (dialect alike options) symbols subject)

/-- The engine that finds what the grammar says and nothing else. -/
def Engine.direct (alike : Char → Char → Prop) : Engine where
  finds source options subject :=
    ∃ symbols, Reads source.toList symbols ∧ Occurs (dialect alike options) symbols subject

theorem Engine.Standard.direct {alike : Char → Char → Prop} (hrefl : ∀ c, alike c c)
    (hfeed : ∀ c, alike c '\n' → c = '\n') : (Engine.direct alike).Standard alike where
  refl := hrefl
  lineFeed := hfeed
  finds_iff {_ _ symbols} subject hreads _ := by
    constructor
    · rintro ⟨others, hothers, hoccurs⟩
      exact hreads.unique hothers ▸ hoccurs
    · exact fun hoccurs => ⟨symbols, hreads, hoccurs⟩

/-- Letters are alike that are the same in lower case. -/
def AnyCase (c d : Char) : Prop := c.toLower = d.toLower

instance : DecidableRel AnyCase := fun c d => inferInstanceAs (Decidable (c.toLower = d.toLower))

theorem anyCase_lineFeed {c : Char} (h : AnyCase c '\n') : c = '\n' := by
  have hlower : c.toLower = '\n' := h
  unfold Char.toLower at hlower
  split at hlower
  · next hcapital =>
    have hfirst : 65 ≤ c.val.toNat := UInt32.le_iff_toNat_le.mp hcapital.1
    have hlast : c.val.toNat ≤ 90 := UInt32.le_iff_toNat_le.mp hcapital.2
    have hval : (c.val.toNat + 32) % 2 ^ 32 = 10 := by
      simpa [UInt32.toNat_add] using congrArg (fun d : Char => d.val.toNat) hlower
    omega
  · exact hlower

/-- An engine to which letters are the same in either case. -/
theorem direct_anyCase_standard : (Engine.direct AnyCase).Standard AnyCase :=
  .direct (fun _ => rfl) fun _ => anyCase_lineFeed

/-! ## What the expression of a pattern finds -/

/-- The tokens of a pattern meet what the pattern fits. -/
theorem meets_iff {d : Dialect} {signs behind ahead : List Char} :
    Meets d ((signs.map Token.ofChar).map .token ++ [.stop]) behind ahead ↔
      Like d.dot d.same signs ahead := by
  induction signs generalizing behind ahead with
  | nil => simp [Meets, like_nil_iff]
  | cons sign rest ih =>
    rw [List.map_cons, List.map_cons, List.cons_append]
    by_cases hrun : sign = '%'
    · rw [hrun, like_run_iff]
      exact exists₂_congr fun _ _ => and_congr_right' (and_congr_right' ih)
    · by_cases hone : sign = '_'
      · rw [hone, like_one_iff]
        exact exists₂_congr fun _ _ => and_congr_right' (and_congr_right' ih)
      · have literal : sign ∉ wildcards := by simp [wildcards, hrun, hone]
        rw [Token.ofChar, if_neg hrun, if_neg hone, like_itself_iff literal]
        exact exists₂_congr fun _ _ => and_congr_right' (and_congr_right' ih)

theorem occurs_reading_iff {d : Dialect} {pattern subject : String} :
    Occurs d (reading pattern) subject ↔ Like d.dot d.same pattern.toList subject.toList := by
  unfold Occurs reading
  constructor
  · rintro ⟨behind, ahead, hsubject, rfl, hmeets⟩
    exact hsubject ▸ meets_iff.mp hmeets
  · intro h
    exact ⟨[], subject.toList, rfl, rfl, meets_iff.mpr h⟩

section Engine
variable {engine : Engine} {alike : Char → Char → Prop} (hengine : engine.Standard alike)
include hengine

/-- In any case, an expression finds what its pattern fits within lines. -/
theorem finds_iff_fitsWithinLines {pattern subject : String} :
    engine.finds (regex pattern) "i" subject ↔ FitsWithinLines alike pattern subject := by
  have hdialect : dialect alike "i" = ⟨fun c => c ≠ '\n', alike⟩ := by simp [dialect]
  rw [hengine.finds_iff subject (reads_regex pattern) (by simp), occurs_reading_iff, hdialect]
  rfl

/-- If dots cover line feeds too, it finds what its pattern fits. -/
theorem finds_iff_fits {pattern subject : String} :
    engine.finds (regex pattern) "is" subject ↔ Fits alike pattern subject := by
  have hdialect : dialect alike "is" = ⟨fun _ => True, alike⟩ := by simp [dialect]
  rw [hengine.finds_iff subject (reads_regex pattern) (by simp), occurs_reading_iff, hdialect]
  rfl

end Engine

end CrudQuery.Wildcard

namespace CrudQuery.DocumentStore
open Wildcard

/-- An engine finds the expression of a test in a subject, under the options of the test. -/
def Passes (engine : Engine) (test : Document) (subject : String) : Prop :=
  ∃ source options, test = .object [("$regex", .text source), ("$options", .text options)] ∧
    engine.finds source options subject

theorem passes_matchesAnyCase {engine : Engine} {source subject : String} :
    Passes engine (Test.matchesAnyCase source).document subject ↔
      engine.finds source "i" subject := by
  constructor
  · rintro ⟨_, _, htest, h⟩
    cases htest
    exact h
  · exact fun h => ⟨source, "i", rfl, h⟩

theorem testOf_like {condition : Condition} {pattern : String} (ho : condition.operator = .like)
    (hv : condition.value = .text pattern) :
    testOf condition = .ok (.matchesAnyCase (regex pattern)) := by
  have hpattern : condition.pattern = .ok pattern := by rw [Condition.pattern, hv]; rfl
  rw [testOf, ho]
  simp only [hpattern]
  rfl

/-- **What a pattern finds.**  Let a condition test a field against a pattern.  Its test is a leaf
of every filter that it is in, and for an engine in its default dialect a subject passes the test
iff the pattern fits it within lines.  So among subjects without line feeds those pass that the
pattern fits; among all subjects they do iff there is no wildcard in the pattern.  The expression of
the test is right nevertheless: under the option by which dots cover line feeds it is found where
the pattern fits. -/
theorem like_found {engine : Engine} {alike : Char → Char → Prop}
    (hengine : engine.Standard alike) {condition : Condition} {pattern : String}
    (ho : condition.operator = .like) (hv : condition.value = .text pattern) :
    ∃ test, testOf condition = .ok test ∧
      test.document = .object [("$regex", .text (regex pattern)), ("$options", .text "i")] ∧
      (∀ disjunction conditions filter, condition ∈ conditions →
        (∀ other ∈ conditions, IsFieldName other.field) →
        (filterOf disjunction conditions).outcome = .ok filter →
        (condition.field, test.document) ∈ leaves filter.document) ∧
      (∀ subject, Passes engine test.document subject ↔ FitsWithinLines alike pattern subject) ∧
      (∀ subject, '\n' ∉ subject.toList →
        (Passes engine test.document subject ↔ Fits alike pattern subject)) ∧
      ((∀ subject, Passes engine test.document subject ↔ Fits alike pattern subject) ↔
        ∀ sign ∈ pattern.toList, sign ∉ wildcards) ∧
      ∀ subject, engine.finds (regex pattern) "is" subject ↔ Fits alike pattern subject := by
  have ht := testOf_like ho hv
  have hpasses : ∀ subject, Passes engine (Test.matchesAnyCase (regex pattern)).document subject ↔
      FitsWithinLines alike pattern subject :=
    fun subject => passes_matchesAnyCase.trans (finds_iff_fitsWithinLines hengine)
  refine ⟨_, ht, rfl, ?_, hpasses, ?_, ?_, fun subject => finds_iff_fits hengine⟩
  · exact fun disjunction conditions filter hc hfields h => mem_leaves_of_filterOf h hfields hc ht
  · intro subject hfeed
    rw [hpasses]
    constructor
    · exact fun h => h.mono fun _ _ => trivial
    · exact fun h => h.of_covered fun c hc e => hfeed (e ▸ hc)
  · simp only [hpasses]
    exact forall_fits_iff hengine.refl hengine.lineFeed

/-- A pattern with both wildcards and a character that means more in an expression. -/
theorem like_found_mixed :
    let condition : Condition := ⟨"name", .like, .text ".A_%", .and, "name"⟩
    let engine := Engine.direct AnyCase
    engine.Standard AnyCase ∧ ∃ test, testOf condition = .ok test ∧
      Passes engine test.document ".ab c" ∧ ¬ Passes engine test.document "xab c" := by
  intro condition engine
  obtain ⟨test, ht, -, -, hpasses, -⟩ := like_found direct_anyCase_standard
    (rfl : condition.operator = .like) (rfl : condition.value = .text ".A_%")
  refine ⟨direct_anyCase_standard, test, ht, (hpasses _).mpr ?_, fun h => ?_⟩
  · have hrest : Like (fun c => c ≠ '\n') AnyCase ['%'] [' ', 'c'] :=
      like_run_iff.mpr ⟨[' ', 'c'], [], rfl, by simp, .nil⟩
    exact .itself (by decide) (by decide) (.itself (by decide) (by decide) (.one (by decide) hrest))
  · obtain ⟨c, rest, hsubject, hc, -⟩ := (like_itself_iff (by decide)).mp ((hpasses _).mp h)
    cases hsubject
    exact absurd hc (by decide)

/-- A run of any characters fits a line feed, but its expression is not found in one. -/
theorem like_missed_lineFeed :
    let condition : Condition := ⟨"name", .like, .text "%", .and, "name"⟩
    let engine := Engine.direct AnyCase
    engine.Standard AnyCase ∧ ∃ test, testOf condition = .ok test ∧
      Fits AnyCase "%" "\n" ∧ ¬ Passes engine test.document "\n" := by
  intro condition engine
  have ht := testOf_like (rfl : condition.operator = .like) (rfl : condition.value = .text "%")
  refine ⟨direct_anyCase_standard, _, ht, ?_, fun h => ?_⟩
  · exact like_run_iff.mpr ⟨['\n'], [], rfl, fun _ _ => trivial, .nil⟩
  · have hwithin := (finds_iff_fitsWithinLines direct_anyCase_standard).mp
      (passes_matchesAnyCase.mp h)
    exact absurd (hwithin.count_lineFeed_le fun _ => anyCase_lineFeed) (by decide)

end CrudQuery.DocumentStore
