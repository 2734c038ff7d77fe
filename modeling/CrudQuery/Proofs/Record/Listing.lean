import CrudQuery.Proofs.Record

/-! # The keys of a record as they are listed

An array index is the decimal text of a number below `2 ^ 32 - 1`, without a zero in front
(`index?_eq_some_iff`).  A record lists those of its keys first, by increasing number, and behind
them all others in the order in which they were set (`keys_toList`).  No other key stands out: `01`
and `__proto__` are names like any other.
-/

namespace CrudQuery.Record
variable {α : Type}

/-- A number as a key. -/
def indexKey (n : Nat) : String := String.ofList (Number.digits n)

/-- A key that is an array index. -/
def IsIndex (key : String) : Prop := ∃ n < 4294967295, key = indexKey n

theorem digitsWorth_digits (n : Nat) : digitsWorth (Number.digits n) = n :=
  Nat.ofDigitChars_toDigits (by decide) (by decide)

theorem index?_eq_some_iff {key : String} {n : Nat} :
    index? key = some n ↔ key = indexKey n ∧ n < 4294967295 := by
  unfold index? indexKey
  simp only [Option.ite_none_right_eq_some, Option.some.injEq]
  constructor
  · rintro ⟨⟨hdigits, hlt⟩, rfl⟩
    exact ⟨by rw [hdigits, String.ofList_toList], hlt⟩
  · rintro ⟨rfl, hlt⟩
    rw [String.toList_ofList, digitsWorth_digits]
    exact ⟨⟨rfl, hlt⟩, rfl⟩

theorem isIndex_iff {key : String} : IsIndex key ↔ (index? key).isSome = true := by
  simp only [IsIndex, Option.isSome_iff_exists, index?_eq_some_iff, and_comm]

instance : DecidablePred IsIndex := fun _ => decidable_of_iff _ isIndex_iff.symm

/-- What is listed under a key is its value. -/
theorem mem_toList {record : Record α} {member : String × α} :
    member ∈ record.toList ↔ record.get? member.1 = some member.2 := by
  rw [(toList_perm record).mem_iff, get?_eq_some_iff]

theorem nodup_toList (record : Record α) : (record.toList.map Prod.fst).Nodup :=
  ((toList_perm record).map Prod.fst).nodup_iff.mpr record.keys_nodup

theorem mem_keys_toList {record : Record α} {key : String} :
    key ∈ record.toList.map Prod.fst ↔ key ∈ record.keys :=
  ((toList_perm record).map Prod.fst).mem_iff

/-- **The order of the keys.** -/
theorem keys_toList (record : Record α) :
    ∃ indices : List Nat, indices.Pairwise (· < ·) ∧ (∀ n ∈ indices, n < 4294967295) ∧
      record.toList.map Prod.fst =
        indices.map indexKey ++ record.keys.filter fun key => ¬IsIndex key := by
  have hindex : ∀ pair ∈ placed record.entries,
      pair.2.1 = indexKey pair.1 ∧ pair.1 < 4294967295 := fun pair hpair =>
    index?_eq_some_iff.mp (mem_placed.mp hpair).2
  have hlisted : record.toList.map Prod.fst =
      ((placed record.entries).map Prod.fst).map indexKey ++
        record.keys.filter fun key => ¬IsIndex key := by
    rw [toList_eq, List.map_append, List.map_map, List.map_map, keys, List.filter_map]
    refine congrArg₂ _ (List.map_congr_left fun pair hpair => (hindex pair hpair).1) ?_
    refine congrArg _ (List.filter_congr fun member _ => ?_)
    rw [Bool.eq_iff_iff, Function.comp_apply, decide_eq_true_eq, isIndex_iff, Bool.not_eq_true,
      Option.isSome_eq_false_iff]
  -- No number comes twice, since its key would.
  have hnodup : ((placed record.entries).map Prod.fst).Nodup := by
    have hkeys := nodup_toList record
    rw [hlisted] at hkeys
    exact (List.nodup_append.mp hkeys).1.of_map _
  refine ⟨_, ?_, List.forall_mem_map.mpr fun pair hpair => (hindex pair hpair).2, hlisted⟩
  refine ((List.pairwise_map.mpr (pairwise_placed record.entries)).and hnodup).imp ?_
  exact fun hpair => Nat.lt_of_le_of_ne hpair.1 hpair.2

end CrudQuery.Record
