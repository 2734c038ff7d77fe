import CrudQuery.Log.Traced
import CrudQuery.Text

/-! # Words of SQL text

Which texts may be written into a statement as a name, a result label, a parameter name, a sort
direction or a join. Everything a statement takes from a query, the raw join predicates apart, is
checked here first; a refused word is logged and is the fault.
-/

namespace CrudQuery.Sql

/-- ASCII letters and the underscore. -/
def isWordStart (c : Char) : Bool := c.isAlpha || c == '_'

/-- What may follow the first character of a word. -/
def isWordPart (c : Char) : Bool := isWordStart c || c.isDigit

/-- A letter or underscore, followed by letters, digits and underscores. -/
def isWord : List Char → Bool
  | [] => false
  | c :: rest => isWordStart c && rest.all isWordPart

/-- One word, or two with a dot between them. -/
def isDottedWord (cs : List Char) : Bool :=
  match Text.parts '.' cs with
  | [name] => isWord name
  | [table, name] => isWord table && isWord name
  | _ => false

/-- The longest name that is accepted. -/
def longestName : Nat := 128

/-- A dotted word that is not too long. -/
def isIdentifier (s : String) : Bool :=
  isDottedWord s.toList && s.toList.length ≤ longestName

/-- The message that a word is refused with. -/
def refusalText : WordRole → String
  | .identifier => "Invalid SQL identifier detected"
  | .label => "Invalid SQL alias detected"
  | .parameter => "Invalid parameter name detected"
  | .direction => "Invalid ORDER BY direction detected"
  | .joinKind => "Invalid JOIN type detected"

/-- What goes with that message: the word, and for a join the words there are. -/
def refusalData (role : WordRole) (word : String) : List (String × Document) :=
  (role.key, .text word) ::
    match role with
    | .joinKind => [("validTypes", .ofTexts (JoinKind.known.map JoinKind.name))]
    | _ => []

/-- The name under which the checks of words log. -/
def checkContext : String := "SQLValidator"

/-- Fails unless a word is accepted in its role. -/
def require (role : WordRole) (accepted : Bool) (word : String) : Traced Unit := do
  if accepted then pure ()
  else
    Traced.log checkContext .error (refusalText role) (refusalData role word)
    Traced.fail (.invalidWord role word)

/-- Fails unless a text is an identifier. -/
def requireIdentifier (s : String) : Traced Unit := require .identifier (isIdentifier s) s

/-- Fails unless a text is an identifier or stands for every field. -/
def requireIdentifierOrAll (s : String) : Traced Unit :=
  require .identifier (s == "*" || isIdentifier s) s

/-- Fails unless a text can be a result label, which has no dot. -/
def requireLabel (s : String) : Traced Unit := require .label (isWord s.toList) s

/-- Fails unless a text can be a parameter name. -/
def requireParameter (s : String) : Traced Unit := require .parameter (isWord s.toList) s

/-- Fails unless a direction is one of the two. -/
def requireDirection (direction : Direction) : Traced Unit :=
  require .direction (direction == .ascending || direction == .descending) direction.name

/-- Fails unless a join has a meaning. -/
def requireJoinKind (kind : JoinKind) : Traced Unit :=
  require .joinKind (JoinKind.known.contains kind) kind.name

example : isIdentifier "u.id" && isIdentifier "_a1" && !isIdentifier "a.b.c" && !isIdentifier "1a" &&
    !isIdentifier "a\n" && !isIdentifier "" && !isIdentifier "a." := by decide

end CrudQuery.Sql
