import CrudQuery.Text.Cased
import CrudQuery.Text.CaseIgnorable
import CrudQuery.Text.LowerCase.Table

/-! # Lower case

Every letter goes to its small form. Two letters need more than a table: a capital sigma at the end
of a word has a small form of its own, and a dotted capital I keeps its dot as a mark.
-/

namespace CrudQuery.Text

/-- Whether the nearest character that matters is a letter with a case. -/
def meetsCased (near : List Char) : Bool :=
  match near.dropWhile isCaseIgnorable with
  | [] => false
  | c :: _ => isCased c

/-- The small form of a character between the text before it, nearest first, and the text after it.
A sigma is final when a letter precedes it and none follows. -/
def lowerAt (before : List Char) (c : Char) (after : List Char) : List Char :=
  if c = 'Σ' then [if meetsCased before && !meetsCased after then 'ς' else 'σ']
  else if c = 'İ' then ['i', '\u0307']
  else [lowerChar c]

/-- Lowers a text whose earlier characters, nearest first, are already passed. -/
def lowerFrom (before : List Char) : List Char → List Char
  | [] => []
  | c :: after => lowerAt before c after ++ lowerFrom (c :: before) after

/-- A text in lower case. -/
def lower (s : String) : String := String.ofList (lowerFrom [] s.toList)

example : lower "ΟΔΟΣ" = "οδος" := by decide +kernel
example : lower "ΣΑΣ Σ" = "σας σ" := by decide +kernel
example : lower "ÜÏÉ1" = "üïé1" := by decide +kernel

end CrudQuery.Text
