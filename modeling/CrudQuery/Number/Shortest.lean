import CrudQuery.Number.Exact

/-! # The shortest decimal of a number

A number is read back from every decimal inside the interval of reals that round to it. Among those
decimals `shortest` takes the one with the fewest digits, of two such the nearer, and of two equally
near the even one. Grids of decimals are tried from the coarsest to the finest; on each grid only
the two neighbours of the number can be the answer.
-/

namespace CrudQuery.Number

/-- The real number `coefficient * 10 ^ exponent`. -/
structure Decimal where
  coefficient : Nat
  exponent : Int
  deriving Repr, DecidableEq

/-- The interval that rounds to one positive number, in quarters of a least unit. The ends belong
to it when the mantissa is even, because a tie goes to the even neighbour. -/
structure Interval where
  low : Nat
  centre : Nat
  high : Nat
  closed : Bool

/-- Half the gap on both sides; the gap below the first mantissa of a binade is half as wide. -/
def Interval.around (mantissa scale : Nat) : Interval where
  low := (4 * mantissa - (if mantissa = twoTo 52 ∧ 0 < scale then 1 else 2)) * twoTo scale
  centre := 4 * mantissa * twoTo scale
  high := (4 * mantissa + 2) * twoTo scale
  closed := mantissa % 2 == 0

/-- A power of ten. -/
def tenTo (n : Nat) : Nat := Nat.pow 10 n

/-- Quarters of a least unit in `10 ^ exponent`, as a fraction. -/
def quarters (exponent : Int) : Nat × Nat :=
  if 0 ≤ exponent then (tenTo exponent.toNat * twoTo 1076, 1)
  else (twoTo 1076, tenTo (-exponent).toNat)

/-- Whether `n * 10 ^ exponent` rounds to the number of the interval. -/
def Interval.holds (i : Interval) (exponent : Int) (n : Nat) : Bool :=
  let (num, den) := quarters exponent
  if i.closed then i.low * den ≤ n * num && n * num ≤ i.high * den
  else i.low * den < n * num && n * num < i.high * den

/-- The multiple of `10 ^ exponent` that lies in the interval and is nearest its centre. -/
def Interval.onGrid? (i : Interval) (exponent : Int) : Option Nat :=
  let (num, den) := quarters exponent
  let below := i.centre * den / num
  match i.holds exponent below, i.holds exponent (below + 1) with
  | true, false => some below
  | false, true => some (below + 1)
  | false, false => none
  | true, true =>
    let middle := (2 * below + 1) * num
    let twice := 2 * (i.centre * den)
    if twice < middle ∨ twice = middle ∧ below % 2 = 0 then some below else some (below + 1)

/-- No number is above `10 ^ 309`, and `10 ^ -324` is finer than every interval, so one of these
grids is always met. -/
def gridExponents : List Int := (List.range 634).map fun (n : Nat) => 309 - (n : Int)

/-- The shortest decimal of `mantissa * 2 ^ scale` least units. -/
def shortest (mantissa scale : Nat) : Decimal :=
  let interval := Interval.around mantissa scale
  let met := gridExponents.findSome? fun e => (interval.onGrid? e).map (Decimal.mk · e)
  met.getD ⟨0, 0⟩

end CrudQuery.Number
