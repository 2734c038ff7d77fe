import CrudQuery.Proofs.Number.PageText
import CrudQuery.Record
import Mathlib.Data.List.Induction
import Mathlib.Data.List.Nodup

/-! # How a record lists its members

A record lists all its members and nothing else, its keys in turn: array indices first, ascending.
So it is listed as it was filled if and only if its keys already stand in turn
(`toList_eq_entries_iff`).  An array index starts with a digit, and a record whose keys all start
with something else is listed as it was filled.

Filling a record with a list of members puts each key where it first came and gives it the value
that came last.  Members with different keys are filled in as they are, and looking a key up finds
the one member that has it.
-/

namespace CrudQuery

/-- Where no key comes twice, a key finds the one member that has it. -/
theorem List.find?_key_eq_some_iff {α : Type} {name : α → String} {xs : List α}
    (h : (xs.map name).Nodup) {key : String} {x : α} :
    (xs.find? fun y => name y = key) = some x ↔ x ∈ xs ∧ name x = key := by
  constructor
  · intro hfound
    exact ⟨List.mem_of_find?_eq_some hfound, by simpa using List.find?_some hfound⟩
  · rintro ⟨hx, rfl⟩
    cases hfound : xs.find? fun y => name y = name x with
    | none => exact absurd (List.find?_eq_none.mp hfound x hx) (by simp)
    | some y =>
      have hname : name y = name x := by simpa using List.find?_some hfound
      rw [List.inj_on_of_nodup_map h (List.mem_of_find?_eq_some hfound) hx hname]

/-- Keeping the first of equal ones, an element at the end stays if it is new. -/
theorem List.eraseDups_append_singleton (xs : List String) (x : String) :
    (xs ++ [x]).eraseDups = if x ∈ xs then xs.eraseDups else xs.eraseDups ++ [x] := by
  rw [List.eraseDups_append]
  split
  · next h => simp [List.removeAll, h]
  · next h => simp [List.removeAll, h, List.eraseDups_cons]

namespace Record
variable {α : Type}

/-- The first character of an array index is a digit. -/
theorem index?_of_head {key : String} (h : ∀ c ∈ key.toList.head?, c.isDigit = false) :
    index? key = none := by
  unfold index?
  refine if_neg ?_
  rintro ⟨hdigits, -⟩
  cases hkey : key.toList with
  | nil =>
    rw [hkey] at hdigits
    exact Nat.toDigits_ne_nil hdigits
  | cons c rest =>
    have hdigit : c.isDigit = true :=
      Number.isDigit_of_mem_digits (hdigits ▸ hkey ▸ List.mem_cons_self)
    have hhead := h c (by rw [hkey]; rfl)
    rw [hdigit] at hhead
    cases hhead

/-! ## The order of the members -/

/-- A key may be listed before another one: only array indices come before an array index, and none
of them is greater. -/
def InTurn (key later : String) : Prop :=
  ∀ n, index? later = some n → ∃ m, index? key = some m ∧ m ≤ n

/-- The members that have an index, each with it, sorted. -/
def placed (members : List (String × α)) : List (Nat × (String × α)) :=
  (members.filterMap fun member => (index? member.1).map (·, member)).foldr placeByIndex []

theorem toList_eq (record : Record α) : record.toList =
    (placed record.entries).map Prod.snd ++
      record.entries.filter fun member => (index? member.1).isNone := rfl

theorem placeByIndex_perm (member : Nat × α) (members : List (Nat × α)) :
    (placeByIndex member members).Perm (member :: members) := by
  induction members with
  | nil => exact .refl _
  | cons other rest ih =>
    unfold placeByIndex
    split
    · exact .refl _
    · exact (ih.cons other).trans (.swap member other rest)

theorem foldr_placeByIndex_perm (members : List (Nat × α)) :
    (members.foldr placeByIndex []).Perm members := by
  induction members with
  | nil => exact .refl _
  | cons member rest ih => exact (placeByIndex_perm member _).trans (ih.cons member)

theorem mem_placed {members : List (String × α)} {n : Nat} {member : String × α} :
    (n, member) ∈ placed members ↔ member ∈ members ∧ index? member.1 = some n := by
  unfold placed
  rw [(foldr_placeByIndex_perm _).mem_iff, List.mem_filterMap]
  constructor
  · rintro ⟨other, hother, h⟩
    obtain ⟨m, hm, hpair⟩ := Option.map_eq_some_iff.mp h
    cases hpair
    exact ⟨hother, hm⟩
  · rintro ⟨hmember, hn⟩
    exact ⟨member, hmember, by rw [hn]; rfl⟩

/-- Inserting keeps a list sorted. -/
theorem pairwise_placeByIndex (member : Nat × α) {members : List (Nat × α)}
    (h : members.Pairwise (·.1 ≤ ·.1)) : (placeByIndex member members).Pairwise (·.1 ≤ ·.1) := by
  induction members with
  | nil => exact List.pairwise_singleton _ _
  | cons other rest ih =>
    obtain ⟨hother, hrest⟩ := List.pairwise_cons.mp h
    unfold placeByIndex
    split
    · next hle =>
      refine List.pairwise_cons.mpr ⟨?_, h⟩
      exact List.forall_mem_cons.mpr ⟨hle, fun x hx => Nat.le_trans hle (hother x hx)⟩
    · next hgt =>
      refine List.pairwise_cons.mpr ⟨fun x hx => ?_, ih hrest⟩
      rcases List.mem_cons.mp ((placeByIndex_perm member rest).mem_iff.mp hx) with rfl | hx
      · exact Nat.le_of_not_le hgt
      · exact hother x hx

theorem placeByIndex_of_le {member : Nat × α} {members : List (Nat × α)}
    (h : ∀ other ∈ members, member.1 ≤ other.1) :
    placeByIndex member members = member :: members := by
  cases members with
  | nil => rfl
  | cons other rest => exact if_pos (h other List.mem_cons_self)

theorem pairwise_placed (members : List (String × α)) : (placed members).Pairwise (·.1 ≤ ·.1) := by
  unfold placed
  induction members.filterMap fun member => (index? member.1).map (·, member) with
  | nil => exact List.Pairwise.nil
  | cons member rest ih => exact pairwise_placeByIndex member ih

/-- Whatever a record holds, it lists its keys in turn. -/
theorem pairwise_toList (record : Record α) :
    (record.toList.map Prod.fst).Pairwise InTurn := by
  have hunindexed : ∀ key member, member ∈ record.entries.filter
      (fun member => (index? member.1).isNone) → InTurn key member.1 := by
    intro key member hm n hn
    have hnone := (List.mem_filter.mp hm).2
    rw [hn] at hnone
    cases hnone
  rw [toList_eq, List.pairwise_map, List.pairwise_append, List.pairwise_map]
  refine ⟨?_, ?_, ?_⟩
  · refine (pairwise_placed _).imp_of_mem fun {pair later} hpair hlater hle n hn => ?_
    obtain ⟨-, hindex⟩ := mem_placed.mp hpair
    obtain ⟨-, hlast⟩ := mem_placed.mp hlater
    rw [hn] at hlast
    cases hlast
    exact ⟨pair.1, hindex, hle⟩
  · exact List.pairwise_of_forall_mem_list fun _ _ member hm => hunindexed _ member hm
  · exact fun _ _ member hm => hunindexed _ member hm

/-- **When a record is listed as it was filled.** -/
theorem toList_eq_entries_iff {record : Record α} :
    record.toList = record.entries ↔ record.keys.Pairwise InTurn := by
  constructor
  · intro h
    have hturn := record.pairwise_toList
    rwa [h] at hturn
  · rw [toList_eq, keys]
    generalize record.entries = members
    intro h
    induction members with
    | nil => rfl
    | cons member rest ih =>
      rw [List.map_cons, List.pairwise_cons, List.forall_mem_map] at h
      obtain ⟨hmember, hrest⟩ := h
      cases hindex : index? member.1 with
      | none =>
        -- Behind a key that is no index there is no index any more.
        have hnamed : ∀ other ∈ member :: rest, index? other.1 = none := by
          refine List.forall_mem_cons.mpr ⟨hindex, fun other hother => ?_⟩
          by_contra hsome
          obtain ⟨n, hn⟩ := Option.ne_none_iff_exists'.mp hsome
          obtain ⟨m, hm, -⟩ := hmember other hother n hn
          rw [hindex] at hm
          cases hm
        have hplaced : placed (member :: rest) = [] := by
          refine List.eq_nil_iff_forall_not_mem.mpr fun pair hpair => ?_
          obtain ⟨hother, hn⟩ := mem_placed.mp hpair
          rw [hnamed _ hother] at hn
          cases hn
        rw [hplaced, List.map_nil, List.nil_append]
        exact List.filter_eq_self.mpr fun other hother => by rw [hnamed other hother]; rfl
      | some n =>
        have hfirst : ∀ pair ∈ placed rest, n ≤ pair.1 := by
          intro pair hpair
          obtain ⟨hother, hn⟩ := mem_placed.mp hpair
          obtain ⟨m, hm, hle⟩ := hmember _ hother _ hn
          rw [hindex] at hm
          cases hm
          exact hle
        have hplaced : placed (member :: rest) = (n, member) :: placed rest := by
          rw [placed, List.filterMap_cons, hindex]
          exact placeByIndex_of_le hfirst
        rw [hplaced, List.map_cons, List.cons_append, List.filter_cons_of_neg (by simp [hindex]),
          ih hrest]

/-- Keys that are no array indices are listed in the order in which they were set. -/
theorem toList_of_named {record : Record α}
    (h : ∀ member ∈ record.entries, index? member.1 = none) : record.toList = record.entries := by
  refine toList_eq_entries_iff.mpr ?_
  rw [keys, List.pairwise_map]
  refine List.pairwise_of_forall_mem_list fun _ _ member hm n hn => ?_
  rw [h member hm] at hn
  cases hn

/-- Listing changes the order of the members and nothing else. -/
theorem toList_perm (record : Record α) : record.toList.Perm record.entries := by
  have hindexed : ∀ members : List (String × α),
      (members.filterMap fun member => (index? member.1).map (·, member)).map Prod.snd =
        members.filter fun member => (index? member.1).isSome := by
    intro members
    induction members with
    | nil => rfl
    | cons member rest ih => cases h : index? member.1 <;> simp [h, ih]
  rw [toList_eq, placed]
  refine (((foldr_placeByIndex_perm _).map Prod.snd).append_right _).trans ?_
  rw [hindexed]
  have hsplit := List.filter_append_perm (fun member : String × α => (index? member.1).isSome)
    record.entries
  simpa using hsplit

/-! ## The members a record is filled with -/

theorem put_of_not_mem {key : String} (value : α) {members : List (String × α)}
    (h : key ∉ members.map Prod.fst) : put key value members = members ++ [(key, value)] := by
  induction members with
  | nil => rfl
  | cons member rest ih =>
    simp only [List.map_cons, List.mem_cons, not_or] at h
    rw [put, if_neg (fun e => h.1 e.symm), ih h.2, List.cons_append]

theorem ofList_append_singleton (members : List (String × α)) (member : String × α) :
    ofList (members ++ [member]) = (ofList members).insert member.1 member.2 := by
  rw [ofList, List.foldl_append]
  rfl

/-- Members with different keys are filled in as they are. -/
theorem entries_ofList {members : List (String × α)} (h : (members.map Prod.fst).Nodup) :
    (ofList members).entries = members := by
  induction members using List.reverseRecOn with
  | nil => rfl
  | append_singleton members member ih =>
    rw [List.map_append, List.nodup_append] at h
    obtain ⟨hmembers, -, hdifferent⟩ := h
    have hnew : member.1 ∉ (ofList members).entries.map Prod.fst := by
      rw [ih hmembers]
      exact fun hm => hdifferent _ hm _ List.mem_cons_self rfl
    have hput := put_of_not_mem member.2 hnew
    rw [ofList_append_singleton]
    exact hput.trans (by rw [ih hmembers])

/-- A key keeps the place it was first set at. -/
theorem keys_ofList (members : List (String × α)) :
    (ofList members).keys = (members.map Prod.fst).eraseDups := by
  induction members using List.reverseRecOn with
  | nil => rfl
  | append_singleton members member ih =>
    rw [ofList_append_singleton, keys_insert, ih, List.map_append, List.map_singleton,
      List.eraseDups_append_singleton]
    exact if_congr List.mem_eraseDups rfl rfl

/-- A key has the value it was last set to. -/
theorem get?_ofList (members : List (String × α)) (key : String) :
    (ofList members).get? key = members.reverse.lookup key := by
  induction members using List.reverseRecOn with
  | nil => rfl
  | append_singleton members member ih =>
    rw [ofList_append_singleton, get?_insert, ih, List.reverse_append, List.reverse_singleton,
      List.singleton_append, List.lookup_cons]
    by_cases h : key = member.1
    · rw [if_pos h, beq_iff_eq.mpr h]
    · rw [if_neg h, beq_eq_false_iff_ne.mpr h]

/-- The value under a key is that of the member with this key. -/
theorem get?_eq_some_iff {record : Record α} {key : String} {value : α} :
    record.get? key = some value ↔ (key, value) ∈ record.entries := by
  rw [get?, Option.map_eq_some_iff]
  constructor
  · rintro ⟨member, hfound, rfl⟩
    obtain ⟨hmember, rfl⟩ := (List.find?_key_eq_some_iff record.keys_nodup).mp hfound
    exact hmember
  · intro hmember
    exact ⟨_, (List.find?_key_eq_some_iff record.keys_nodup).mpr ⟨hmember, rfl⟩, rfl⟩

end Record

end CrudQuery
