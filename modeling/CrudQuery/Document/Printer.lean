import CrudQuery.Document

/-! # Documents as JSON text

Two layouts of one format: everything on one line without blanks, or one item per line with two
spaces for each level. In both, instants stand as their ISO text, and what JSON cannot say (a number
that is not finite, an invalid instant) stands as null.
-/

namespace CrudQuery.Document

/-- Two lower-case hexadecimal digits. -/
def hexByte (n : Nat) : List Char := [Nat.digitChar (n / 16), Nat.digitChar (n % 16)]

/-- A character inside a JSON string: quotes, backslashes and control characters are escaped, the
common ones by a letter. -/
def escapeChar (c : Char) : List Char :=
  if c = '"' then ['\\', '"']
  else if c = '\\' then ['\\', '\\']
  else if c.toNat = 0x08 then ['\\', 'b']
  else if c.toNat = 0x09 then ['\\', 't']
  else if c.toNat = 0x0A then ['\\', 'n']
  else if c.toNat = 0x0C then ['\\', 'f']
  else if c.toNat = 0x0D then ['\\', 'r']
  else if c.toNat < 0x20 then ['\\', 'u', '0', '0'] ++ hexByte c.toNat
  else [c]

/-- A text as a JSON string. -/
def quoted (s : String) : String :=
  String.ofList ('"' :: s.toList.flatMap escapeChar ++ ['"'])

/-- A finite number as text, and null for any other. -/
def numberText (x : Float) : String :=
  match Number.exact x with
  | .finite .. => Number.text x
  | _ => "null"

/-- The texts of items with a separator between them. -/
def joined (separator : String) (items : List String) : String :=
  separator.intercalate items

mutual

/-- The document on one line. -/
def compact : Document → String
  | .null => "null"
  | .bool b => if b then "true" else "false"
  | .number x => numberText x
  | .text s => quoted s
  | .instant t => (t.iso?.map quoted).getD "null"
  | .list items => "[" ++ joined "," (compactItems items) ++ "]"
  | .object members => "\x7b" ++ joined "," (compactMembers members) ++ "\x7d"

/-- Each item on one line. -/
def compactItems : List Document → List String
  | [] => []
  | item :: rest => compact item :: compactItems rest

/-- Each member on one line, after its key. -/
def compactMembers : List (String × Document) → List String
  | [] => []
  | (key, value) :: rest => (quoted key ++ ":" ++ compact value) :: compactMembers rest

end

/-- The start of a line at some level. -/
def margin (level : Nat) : String := String.ofList ('\n' :: List.replicate (2 * level) ' ')

/-- Items between brackets, one to a line; without items the brackets alone. -/
def bracketed (level : Nat) (opening closing : String) (items : List String) : String :=
  if items.isEmpty then opening ++ closing
  else
    opening ++ margin (level + 1) ++ joined ("," ++ margin (level + 1)) items ++ margin level ++ closing

mutual

/-- The document over several lines, its own brackets at the given level. -/
def indented (level : Nat) : Document → String
  | .null => "null"
  | .bool b => if b then "true" else "false"
  | .number x => numberText x
  | .text s => quoted s
  | .instant t => (t.iso?.map quoted).getD "null"
  | .list items => bracketed level "[" "]" (indentedItems (level + 1) items)
  | .object members => bracketed level "\x7b" "\x7d" (indentedMembers (level + 1) members)

/-- Each item over several lines. -/
def indentedItems (level : Nat) : List Document → List String
  | [] => []
  | item :: rest => indented level item :: indentedItems level rest

/-- Each member over several lines, after its key. -/
def indentedMembers (level : Nat) : List (String × Document) → List String
  | [] => []
  | (key, value) :: rest =>
    (quoted key ++ ": " ++ indented level value) :: indentedMembers level rest

end

/-- The document over several lines. -/
def pretty (document : Document) : String := indented 0 document

example : compact (.object [("a", .list [.null, .text "x\n"]), ("b", .object [])]) =
    "\x7b\"a\":[null,\"x\\n\"],\"b\":\x7b\x7d\x7d" := by decide +kernel

end CrudQuery.Document
