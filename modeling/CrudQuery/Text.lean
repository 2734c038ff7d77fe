/-! # Texts

Texts are trimmed, cut at a separator, and put in order. The order is that of their UTF-16 code
units, taken as a dictionary orders words. A character outside the first plane is two surrogate
units, so it comes before U+E000 although its code point is larger.
-/

namespace CrudQuery.Text

/-! ## Blank characters -/

/-- Tabs, line ends, spaces of every width, and the byte-order mark. -/
def isBlank (c : Char) : Bool :=
  let n := c.toNat
  (0x9 ≤ n && n ≤ 0xD) || n == 0x20 || n == 0xA0 || n == 0x1680 || (0x2000 ≤ n && n ≤ 0x200A) ||
    n == 0x2028 || n == 0x2029 || n == 0x202F || n == 0x205F || n == 0x3000 || n == 0xFEFF

/-- A text without the blanks at its two ends. -/
def trim (cs : List Char) : List Char :=
  ((cs.dropWhile isBlank).reverse.dropWhile isBlank).reverse

example : trim " \u00a0a b\u3000\n".toList = "a b".toList := by decide

/-! ## Cutting at a separator -/

/-- The stretches of a text between separators. There is always one more of them than separators,
so a text without any is its own single part. -/
def parts (separator : Char) : List Char → List (List Char)
  | [] => [[]]
  | c :: rest =>
    match parts separator rest with
    | [] => [[c]]
    | part :: others => if c = separator then [] :: part :: others else (c :: part) :: others

theorem parts_ne_nil (separator : Char) (cs : List Char) : parts separator cs ≠ [] := by
  cases cs with
  | nil => simp [parts]
  | cons c rest =>
    unfold parts
    split
    · simp
    · split <;> simp

theorem intercalate_parts (separator : Char) (cs : List Char) :
    [separator].intercalate (parts separator cs) = cs := by
  induction cs with
  | nil => rfl
  | cons c rest ih =>
    unfold parts
    split
    · next h => exact absurd h (parts_ne_nil separator rest)
    · next part others h =>
      rw [h] at ih
      split
      · next hc => subst hc; simp [List.intercalate, List.intersperse] at ih ⊢; exact ih
      · cases others <;> simp_all [List.intercalate, List.intersperse]

example : parts '.' "u.id".toList = ["u".toList, "id".toList] := by decide
example : parts ',' ",".toList = [[], []] := by decide

/-! ## The order of texts -/

/-- One unit for a character of the first plane, a high and a low surrogate for any other. -/
def charUnits (c : Char) : List Nat :=
  if c.toNat < 0x10000 then [c.toNat]
  else [0xD800 + (c.toNat - 0x10000) / 0x400, 0xDC00 + (c.toNat - 0x10000) % 0x400]

/-- The UTF-16 code units of a text. -/
def units (s : String) : List Nat := s.toList.flatMap charUnits

/-- Whether one text comes strictly before another. -/
def before (a b : String) : Bool := decide (units a < units b)

theorem before_irrefl (a : String) : before a a = false := by
  simp [before]

theorem before_trans {a b c : String} (hab : before a b = true) (hbc : before b c = true) :
    before a c = true := by
  simp only [before, decide_eq_true_eq] at *
  exact List.lt_trans hab hbc

example : before "😀" "～" = true := by decide
example : before "10" "2" = true := by decide

end CrudQuery.Text
