import CrudQuery.Number.Text

/-! # Records

Finite maps from keys to values that remember the order in which their keys were first set. Setting
a key again changes its value and keeps its place. Members are listed in that order too, except
that keys which are array indices come first, by their number.
-/

namespace CrudQuery

/-- A list of members in which no key occurs twice. -/
structure Record (α : Type) where
  entries : List (String × α)
  keys_nodup : (entries.map Prod.fst).Nodup

namespace Record
variable {α : Type}

/-- Changes the member with a key, or adds one at the end. -/
def put (key : String) (value : α) : List (String × α) → List (String × α)
  | [] => [(key, value)]
  | member :: rest =>
    if member.1 = key then (key, value) :: rest else member :: put key value rest

theorem keys_put (key : String) (value : α) (members : List (String × α)) :
    (put key value members).map Prod.fst =
      if key ∈ members.map Prod.fst then members.map Prod.fst
      else members.map Prod.fst ++ [key] := by
  induction members with
  | nil => rfl
  | cons member rest ih =>
    unfold put
    split
    · next h => simp [h]
    · next h =>
      have h' : key ≠ member.1 := fun e => h e.symm
      simp only [List.map_cons, ih, List.mem_cons, h', false_or]
      split <;> simp

/-- The record without members. -/
def empty : Record α := ⟨[], List.nodup_nil⟩

/-- A record with one more member, or with one member changed. -/
def insert (record : Record α) (key : String) (value : α) : Record α where
  entries := put key value record.entries
  keys_nodup := by
    rw [keys_put]
    split
    · exact record.keys_nodup
    · next h =>
      refine List.nodup_append.2 ⟨record.keys_nodup, by simp, ?_⟩
      intro a ha b hb
      simp only [List.mem_singleton] at hb
      subst hb
      exact fun e => h (e ▸ ha)

/-- Inserts the members of a list one after another. -/
def ofList (members : List (String × α)) : Record α :=
  members.foldl (fun record member => record.insert member.1 member.2) empty

/-- The value under a key. -/
def get? (record : Record α) (key : String) : Option α :=
  (record.entries.find? fun member => member.1 = key).map Prod.snd

/-- The keys in the order in which they were first set. -/
def keys (record : Record α) : List String := record.entries.map Prod.fst

/-- What a text of digits is worth; of no meaning for other texts. -/
def digitsWorth (cs : List Char) : Nat :=
  cs.foldl (fun sum c => 10 * sum + (c.toNat - '0'.toNat)) 0

/-- The number of an array index: the key is that number as it is written, and below `2 ^ 32 - 1`. -/
def index? (key : String) : Option Nat :=
  let n := digitsWorth key.toList
  if Number.digits n = key.toList ∧ n < 4294967295 then some n else none

/-- Inserts a member before the first one whose index is not smaller. -/
def placeByIndex (member : Nat × α) : List (Nat × α) → List (Nat × α)
  | [] => [member]
  | other :: rest =>
    if member.1 ≤ other.1 then member :: other :: rest else other :: placeByIndex member rest

/-- The members as they are listed: array indices ascending, then the other keys as first set. -/
def toList (record : Record α) : List (String × α) :=
  let indexed := record.entries.filterMap fun member => (index? member.1).map (·, member)
  let named := record.entries.filter fun member => (index? member.1).isNone
  (indexed.foldr placeByIndex []).map Prod.snd ++ named

@[simp]
theorem keys_insert (record : Record α) (key : String) (value : α) :
    (record.insert key value).keys =
      if key ∈ record.keys then record.keys else record.keys ++ [key] :=
  keys_put key value record.entries

theorem get?_insert (record : Record α) (key other : String) (value : α) :
    (record.insert key value).get? other = if other = key then some value else record.get? other := by
  simp only [get?, insert]
  generalize record.entries = members
  induction members with
  | nil => by_cases h : key = other <;> simp [put, h, eq_comm]
  | cons member rest ih =>
    unfold put
    by_cases hm : member.1 = key
    · by_cases h : other = key
      · simp [hm, h]
      · simp [hm, h, eq_comm]
    · by_cases h : member.1 = other
      · simp_all [eq_comm]
      · simp_all

example : (ofList [("b", 1), ("10", 2), ("a", 3), ("2", 4), ("b", 5)]).toList =
    [("2", 4), ("10", 2), ("b", 5), ("a", 3)] := by decide +kernel
example : index? "01" = none ∧ index? "4294967294" = some 4294967294 ∧
    index? "4294967295" = none ∧ index? "" = none := by decide +kernel

end Record

end CrudQuery
