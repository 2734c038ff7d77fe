import CrudQuery.Query
import CrudQuery.Text

/-! # Directives

A field may carry directives for its queries, separated by commas: an index or uniqueness to be
hinted at, or that the field holds the tenant a record belongs to.
-/

namespace CrudQuery.Catalog

/-- What a field asks for. -/
inductive Directive where
  | index (name : String)
  | unique
  | tenant
  deriving Repr, DecidableEq

namespace Directive

/-- What a named index is introduced by. -/
def indexMark : String := "index:"

/-- The directive of a text. -/
def ofText? (text : String) : Option Directive :=
  if indexMark.toList.isPrefixOf text.toList then
    some (index (String.ofList (text.toList.drop indexMark.length)))
  else if text = "unique" then some unique
  else if text = "security:tenant" then some tenant
  else none

/-- The texts of the directives in a tag: its parts without blanks around them, empty ones left
out. -/
def texts (tag : String) : List String :=
  ((Text.parts ',' tag.toList).map Text.trim).filterMap fun part =>
    if part.isEmpty then none else some (String.ofList part)

/-- The hint that a directive on a column gives. -/
def hint? (column : String) : Directive → Option Hint
  | index name => some ⟨"sql", "index", column ++ ":" ++ name⟩
  | unique => some ⟨"sql", "unique", column⟩
  | tenant => none

end Directive

end CrudQuery.Catalog
