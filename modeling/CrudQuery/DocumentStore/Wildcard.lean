/-! # Wildcard patterns

Patterns in which one sign stands for any run of characters and another for any one character. A
document store has no such patterns, so they are written as anchored regular expressions in which
every other character means itself.
-/

namespace CrudQuery.Wildcard

/-- What one character of a pattern asks for. -/
inductive Token where
  | anyRun
  | anyOne
  | literal (c : Char)
  deriving Repr, DecidableEq

/-- The token of a character. -/
def Token.ofChar (c : Char) : Token :=
  if c = '%' then .anyRun else if c = '_' then .anyOne else .literal c

/-- The tokens of a pattern, in order. -/
def tokens (pattern : String) : List Token := pattern.toList.map Token.ofChar

/-- The characters that mean more than themselves in a regular expression. -/
def metacharacters : List Char :=
  ['.', '*', '+', '?', '^', '$', '\x7b', '\x7d', '(', ')', '|', '[', ']', '\\']

/-- A token as a piece of a regular expression. -/
def Token.regex : Token → List Char
  | anyRun => ['.', '*']
  | anyOne => ['.']
  | literal c => if c ∈ metacharacters then ['\\', c] else [c]

/-- The regular expression of a pattern, anchored at both ends. -/
def regex (pattern : String) : String :=
  String.ofList ('^' :: (tokens pattern).flatMap Token.regex ++ ['$'])

example : regex "a%_." = "^a.*.\\.$" := by decide +kernel

end CrudQuery.Wildcard
