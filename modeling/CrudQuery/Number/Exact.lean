/-! # What a number is worth, exactly

Every number of a query is a binary64 word. This module reads a word as an exact multiple of the
least positive one, so that "is an integer", "is below" and "the integer part" are questions about
`Int` and `Nat` and never about rounding. Nothing here tells zero from negative zero: no answer of
this library depends on it.
-/

namespace CrudQuery.Number

/-- A finite word stands for `mantissa * 2 ^ scale` least units, where a least unit is `2 ^ -1074`. -/
inductive Exact where
  | nan
  | infinite (negative : Bool)
  | finite (negative : Bool) (mantissa scale : Nat)
  deriving Repr, DecidableEq

/-- A power of two. -/
def twoTo (n : Nat) : Nat := Nat.pow 2 n

/-- How many least units make one. -/
def unitsPerOne : Nat := twoTo 1074

/-- Below exponent field 1 the leading bit is not implied, and the scale stays that of field 1. -/
def Exact.ofFields (negative : Bool) (exponent fraction : Nat) : Exact :=
  if exponent = 2047 then
    if fraction = 0 then .infinite negative else .nan
  else if exponent = 0 then .finite negative fraction 0
  else .finite negative (twoTo 52 + fraction) (exponent - 1)

/-- The word is cut into one sign bit, eleven exponent bits and fifty-two fraction bits. -/
def exact (x : Float) : Exact :=
  let word := x.toBits.toNat
  .ofFields (word / twoTo 63 == 1) (word / twoTo 52 % twoTo 11) (word % twoTo 52)

/-- Least units with their sign. -/
def signed (negative : Bool) (units : Nat) : Int :=
  if negative then -(units : Int) else units

/-- The place of a number on the line, in least units. An infinity stands where the next number
after the largest finite one would be; what is not a number has no place. -/
def Exact.place? : Exact → Option Int
  | .nan => none
  | .infinite negative => some (signed negative (twoTo 2098))
  | .finite negative mantissa scale => some (signed negative (mantissa * twoTo scale))

@[inherit_doc Exact.place?]
def place? (x : Float) : Option Int := (exact x).place?

/-- Not below: both numbers have a place, and the first place is not after the second. -/
def le (x y : Float) : Bool :=
  match place? x, place? y with
  | some a, some b => decide (a ≤ b)
  | _, _ => false

/-- The same place on the line. -/
def same (x y : Float) : Bool := le x y && le y x

/-- The integer that a finite integral number is, and nothing for any other number. -/
def toInt? (x : Float) : Option Int :=
  match exact x with
  | .finite negative mantissa scale =>
    if mantissa * twoTo scale % unitsPerOne = 0 then
      some (signed negative (mantissa * twoTo scale / unitsPerOne))
    else none
  | _ => none

/-- The integer part of a finite number, cut towards zero. -/
def truncate? (x : Float) : Option Int :=
  match exact x with
  | .finite negative mantissa scale =>
    some (signed negative (mantissa * twoTo scale / unitsPerOne))
  | _ => none

theorem le_trans {x y z : Float} (hxy : le x y = true) (hyz : le y z = true) : le x z = true := by
  unfold le at *
  split at hxy <;> simp_all
  split at hyz <;> simp_all
  omega

example : toInt? 100.0 = some 100 := by decide +kernel
example : toInt? 2.5 = none := by decide +kernel
example : truncate? (-1.9) = some (-1) := by decide +kernel
example : le (0.0 / 0.0) (0.0 / 0.0) = false := by decide +kernel

end CrudQuery.Number
