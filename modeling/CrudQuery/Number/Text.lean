import CrudQuery.Number.Shortest

/-! # Numbers as text

The digits are the shortest that read back. A decimal point stands among them, or zeros fill up to
it, as long as it is at most twenty-one places after the first digit and less than six before it;
beyond that the text has an exponent, always with its sign.
-/

namespace CrudQuery.Number

/-- Decimal digits of a natural number, without leading zeros. -/
def digits (n : Nat) : List Char := Nat.toDigits 10 n

/-- Lays out digits whose decimal point stands `point` places after the start of the digits. -/
def layout (ds : List Char) (point : Int) : List Char :=
  let count : Int := ds.length
  if count ≤ point ∧ point ≤ 21 then ds ++ List.replicate (point - count).toNat '0'
  else if 0 < point ∧ point ≤ 21 then ds.take point.toNat ++ '.' :: ds.drop point.toNat
  else if -6 < point ∧ point ≤ 0 then '0' :: '.' :: List.replicate (-point).toNat '0' ++ ds
  else
    let power := point - 1
    let sign := if 0 ≤ power then '+' else '-'
    let fraction := if ds.length ≤ 1 then [] else '.' :: ds.drop 1
    ds.take 1 ++ fraction ++ 'e' :: sign :: digits power.natAbs

/-- Text of a positive finite number. -/
def magnitudeText (mantissa scale : Nat) : List Char :=
  let decimal := shortest mantissa scale
  let ds := digits decimal.coefficient
  layout ds (ds.length + decimal.exponent)

/-- Zero has no sign in text. -/
def Exact.text : Exact → List Char
  | .nan => "NaN".toList
  | .infinite false => "Infinity".toList
  | .infinite true => "-Infinity".toList
  | .finite _ 0 _ => ['0']
  | .finite false mantissa scale => magnitudeText mantissa scale
  | .finite true mantissa scale => '-' :: magnitudeText mantissa scale

/-- A number as text. -/
def text (x : Float) : String := String.ofList (exact x).text

example : text 1e21 = "1e+21" := by decide +kernel
example : text 1e-7 = "1e-7" := by decide +kernel
example : text 0.000001 = "0.000001" := by decide +kernel
example : text 0.1 = "0.1" := by decide +kernel
example : text (-1234.5) = "-1234.5" := by decide +kernel

end CrudQuery.Number
