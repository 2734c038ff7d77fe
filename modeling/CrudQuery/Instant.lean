import CrudQuery.Number.Exact
import CrudQuery.Number.Text

/-! # Instants

A moment in time to the millisecond, and its ISO 8601 text. The calendar is the proleptic Gregorian
one; years that do not fit four digits have a sign and six. Not every number of milliseconds is a
moment, so an instant may also be invalid, and then it has no text.
-/

namespace CrudQuery

/-- A moment counted from the start of 1970 UTC, or the result of a failed attempt to name one. -/
inductive Instant where
  | moment (millis : Int)
  | invalid
  deriving Repr, DecidableEq

/-- A calendar day. -/
structure CalendarDate where
  year : Int
  month : Nat
  day : Nat
  deriving Repr, DecidableEq

namespace Instant

/-- No moment is further than a hundred million days from the start of 1970. -/
def farthest : Nat := 8640000000000000

/-- The moment that many milliseconds from the start of 1970, fractions cut towards zero. A number
beyond the farthest moment gives none, even if the cut would bring it back. -/
def ofMillis (x : Float) : Instant :=
  match Number.truncate? x with
  | some millis =>
    if Number.le (-8.64e15) x && Number.le x 8.64e15 then .moment millis else .invalid
  | none => .invalid

/-- The calendar date a number of days after the start of 1970. Years are counted from March, so
that a leap day is the last of its year; four hundred such years are one era. -/
def dateOfDay (day : Int) : CalendarDate :=
  let shifted := day + 719468
  let era := shifted.fdiv 146097
  let dayOfEra := (shifted - era * 146097).toNat
  let yearOfEra :=
    (dayOfEra - dayOfEra / 1460 + dayOfEra / 36524 - dayOfEra / 146096) / 365
  let dayOfYear := dayOfEra - (365 * yearOfEra + yearOfEra / 4 - yearOfEra / 100)
  let marchMonth := (5 * dayOfYear + 2) / 153
  let dayOfMonth := dayOfYear - (153 * marchMonth + 2) / 5 + 1
  let month := if marchMonth < 10 then marchMonth + 3 else marchMonth - 9
  ⟨yearOfEra + era * 400 + (if month ≤ 2 then 1 else 0), month, dayOfMonth⟩

/-- A natural number filled up with zeros in front. -/
def padded (width n : Nat) : List Char :=
  let ds := Number.digits n
  List.replicate (width - ds.length) '0' ++ ds

/-- Four digits where they are enough, and otherwise a sign and six. -/
def yearText (year : Int) : List Char :=
  if 0 ≤ year ∧ year ≤ 9999 then padded 4 year.toNat
  else (if year < 0 then '-' else '+') :: padded 6 year.natAbs

/-- Date and time of a moment in UTC. -/
def momentText (millis : Int) : List Char :=
  let day := millis.fdiv 86400000
  let rest := (millis - day * 86400000).toNat
  let date := dateOfDay day
  yearText date.year ++ '-' :: padded 2 date.month ++ '-' :: padded 2 date.day ++
    'T' :: padded 2 (rest / 3600000) ++ ':' :: padded 2 (rest / 60000 % 60) ++
    ':' :: padded 2 (rest / 1000 % 60) ++ '.' :: padded 3 (rest % 1000) ++ ['Z']

/-- The ISO text of a valid instant. -/
def iso? : Instant → Option String
  | moment millis => some (String.ofList (momentText millis))
  | invalid => none

example : (moment 951782400000).iso? = some "2000-02-29T00:00:00.000Z" := by decide +kernel
example : (moment (-1)).iso? = some "1969-12-31T23:59:59.999Z" := by decide +kernel
example : (moment (-8640000000000000)).iso? = some "-271821-04-20T00:00:00.000Z" := by
  decide +kernel

end Instant

end CrudQuery
