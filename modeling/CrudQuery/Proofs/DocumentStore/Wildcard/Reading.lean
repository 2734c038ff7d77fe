import CrudQuery.DocumentStore.Wildcard
import Mathlib.Logic.Function.Basic
import Mathlib.Data.List.Basic

/-! # Reading the regular expression of a pattern back

The pieces of a regular expression are written one behind the other, with nothing between them.  So
a piece could be read into its neighbour: a single character of any kind in front of a star is a run
of them, and a backslash takes the next character with it, be it the dollar sign that is meant to be
the end.

`Reads` is the part of the grammar of regular expressions that patterns need, and it reads an
expression in one way at most.  The expression of a pattern is read as the start, the tokens of the
pattern in order and the end, and in no other way (`regex_read`).  Nothing that is a literal in the
pattern is anything else in its expression, and no two patterns have the same one.
-/

namespace CrudQuery.Wildcard

/-- What a piece of a regular expression stands for: one of the ends of a subject or a token. -/
inductive Symbol where
  | start
  | token (t : Token)
  | stop
  deriving Repr, DecidableEq

/-- What can stand in a regular expression behind its start, with what it is read as. -/
inductive Continues : List Char → List Symbol → Prop
  | nil : Continues [] []
  | stop : Continues ['$'] [.stop]
  | anyRun {rest : List Char} {symbols : List Symbol} (more : Continues rest symbols) :
      Continues ('.' :: '*' :: rest) (.token .anyRun :: symbols)
  | anyOne {rest : List Char} {symbols : List Symbol} (single : rest.head? ≠ some '*')
      (more : Continues rest symbols) : Continues ('.' :: rest) (.token .anyOne :: symbols)
  | escaped (c : Char) {rest : List Char} {symbols : List Symbol} (more : Continues rest symbols) :
      Continues ('\\' :: c :: rest) (.token (.literal c) :: symbols)
  | itself {c : Char} {rest : List Char} {symbols : List Symbol} (hc : c ∉ metacharacters)
      (more : Continues rest symbols) : Continues (c :: rest) (.token (.literal c) :: symbols)

/-- A regular expression with what it is read as. -/
inductive Reads : List Char → List Symbol → Prop
  | anchored {rest : List Char} {symbols : List Symbol} (more : Continues rest symbols) :
      Reads ('^' :: rest) (.start :: symbols)
  | floating {source : List Char} {symbols : List Symbol} (h : Continues source symbols) :
      Reads source symbols

/-! ## One reading at most -/

/-- The first character tells the first piece, if it is a dot together with the second one. -/
theorem Continues.unique {source : List Char} {symbols others : List Symbol}
    (h : Continues source symbols) (ho : Continues source others) : symbols = others := by
  induction h generalizing others with
  | nil => cases ho; rfl
  | stop =>
    cases ho with
    | stop => rfl
    | itself hc => exact absurd (by decide) hc
  | anyRun _ ih =>
    cases ho with
    | anyRun more => rw [ih more]
    | anyOne single => exact absurd rfl single
    | itself hc => exact absurd (by decide) hc
  | anyOne single _ ih =>
    cases ho with
    | anyRun => exact absurd rfl single
    | anyOne _ more => rw [ih more]
    | itself hc => exact absurd (by decide) hc
  | escaped c _ ih =>
    cases ho with
    | escaped _ more => rw [ih more]
    | itself hc => exact absurd (by decide) hc
  | itself hc _ ih =>
    cases ho with
    | itself _ more => rw [ih more]
    | _ => exact absurd (by decide) hc

/-- An anchor at the start stands for nothing else. -/
theorem not_continues_start (rest : List Char) (symbols : List Symbol) :
    ¬ Continues ('^' :: rest) symbols
  | .itself hc _ => hc (by decide)

theorem Reads.unique {source : List Char} {symbols others : List Symbol}
    (h : Reads source symbols) (ho : Reads source others) : symbols = others := by
  cases h with
  | anchored more =>
    cases ho with
    | anchored other => rw [more.unique other]
    | floating other => exact absurd other (not_continues_start _ _)
  | floating more =>
    cases ho with
    | anchored other => exact absurd more (not_continues_start _ _)
    | floating other => exact more.unique other

/-! ## The reading of a pattern -/

/-- The tokens of a pattern between the ends of a subject. -/
def reading (pattern : String) : List Symbol :=
  .start :: ((tokens pattern).map .token ++ [.stop])

/-- No piece and no end begins with a star, which would be read into a dot before it. -/
theorem head_regex_ne_star (ts : List Token) :
    (ts.flatMap Token.regex ++ ['$']).head? ≠ some '*' := by
  cases ts with
  | nil => decide
  | cons t rest =>
    cases t with
    | anyRun | anyOne => simp [Token.regex]
    | literal c =>
      by_cases hc : c ∈ metacharacters
      · simp [Token.regex, hc]
      · have hstar : c ≠ '*' := fun e => hc (e ▸ by decide)
        simpa [Token.regex, hc] using hstar

/-- A token is read off its piece if no star follows. -/
theorem continues_token {rest : List Char} {symbols : List Symbol} (t : Token)
    (hrest : rest.head? ≠ some '*') (more : Continues rest symbols) :
    Continues (t.regex ++ rest) (.token t :: symbols) := by
  cases t with
  | anyRun => exact .anyRun more
  | anyOne => exact .anyOne hrest more
  | literal c =>
    rw [Token.regex]
    split
    · exact .escaped c more
    · next hc => exact .itself hc more

theorem continues_tokens (ts : List Token) :
    Continues (ts.flatMap Token.regex ++ ['$']) (ts.map .token ++ [.stop]) := by
  induction ts with
  | nil => exact .stop
  | cons t rest ih =>
    rw [List.flatMap_cons, List.append_assoc]
    exact continues_token t (head_regex_ne_star rest) ih

theorem reads_regex (pattern : String) : Reads (regex pattern).toList (reading pattern) := by
  rw [regex, String.toList_ofList]
  exact .anchored (continues_tokens _)

/-! ## What a reading tells of the pattern -/

/-- The characters that a reading takes for themselves. -/
def literals : List Symbol → List Char
  | [] => []
  | .token (.literal c) :: symbols => c :: literals symbols
  | _ :: symbols => literals symbols

/-- The characters that do not ask for themselves. -/
def wildcards : List Char := ['%', '_']

theorem literals_reading (pattern : String) :
    literals (reading pattern) = pattern.toList.filter fun c => c ∉ wildcards := by
  have hchars : ∀ chars : List Char,
      literals ((chars.map Token.ofChar).map .token ++ [.stop]) =
        chars.filter fun c => c ∉ wildcards := by
    intro chars
    induction chars with
    | nil => rfl
    | cons c rest ih =>
      by_cases hrun : c = '%'
      · subst hrun
        exact ih
      · by_cases hone : c = '_'
        · subst hone
          exact ih
        · simpa [Token.ofChar, hrun, hone, literals, wildcards] using ih
  exact hchars pattern.toList

/-- The character that asks for a token. -/
def Token.sign : Token → Char
  | anyRun => '%'
  | anyOne => '_'
  | literal c => c

theorem sign_ofChar : Function.LeftInverse Token.sign Token.ofChar := by
  intro c
  unfold Token.ofChar
  split
  · next hrun => exact hrun.symm
  · split
    · next hone => exact hone.symm
    · rfl

theorem reading_injective : Function.Injective reading := by
  intro pattern other h
  have htokens := List.append_cancel_right (List.tail_eq_of_cons_eq h)
  have htoken : Function.Injective Symbol.token := fun _ _ => Symbol.token.inj
  exact String.toList_inj.mp
    (List.map_injective_iff.mpr sign_ofChar.injective (List.map_injective_iff.mpr htoken htokens))

/-- **The regular expression of a pattern says what the pattern says.**  It is read in one way: as
the start, the tokens of the pattern in order, and the end.  So what is taken for itself in it are
all characters of the pattern but the wildcards, whatever they mean elsewhere in an expression; and
no two patterns have the same expression. -/
theorem regex_read :
    (∀ pattern symbols, Reads (regex pattern).toList symbols ↔ symbols = reading pattern) ∧
    (∀ pattern, literals (reading pattern) = pattern.toList.filter fun c => c ∉ wildcards) ∧
    Function.Injective regex := by
  refine ⟨fun pattern symbols => ?_, literals_reading, fun pattern other h => ?_⟩
  · exact ⟨fun hreads => hreads.unique (reads_regex pattern), fun e => e ▸ reads_regex pattern⟩
  · have hreads := reads_regex pattern
    rw [h] at hreads
    exact reading_injective (hreads.unique (reads_regex other))

end CrudQuery.Wildcard
