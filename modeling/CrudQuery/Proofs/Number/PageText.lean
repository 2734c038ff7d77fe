import CrudQuery.Number.Text
import CrudQuery.Query.Validity
import Mathlib.Data.List.Basic

/-! # The text of a page bound

A page bound is a natural number, but its text need not be a row of digits: a large one has an
exponent.  What its text never has is a minus sign, neither in front nor in the exponent.  The first
is so because no negative number but zero is a page bound; the second because the decimal that is
chosen lies close to the number, so its point does not stand far before its digits.
-/

namespace CrudQuery

theorem Query.isPageBound_iff {value : Float} :
    Query.isPageBound value = true ↔ ∃ n : Nat, Number.toInt? value = some (n : Int) := by
  unfold Query.isPageBound
  cases h : Number.toInt? value with
  | none => simp
  | some n =>
    simp only [decide_eq_true_eq, Option.some.injEq]
    exact ⟨fun hn => ⟨n.toNat, (Int.toNat_of_nonneg hn).symm⟩,
      fun ⟨m, hm⟩ => hm ▸ Int.natCast_nonneg m⟩

namespace Number

theorem tenTo_add (a b : Nat) : tenTo (a + b) = tenTo a * tenTo b := Nat.pow_add 10 a b

theorem tenTo_le {a b : Nat} (h : a ≤ b) : tenTo a ≤ tenTo b :=
  Nat.pow_le_pow_right (by decide) h

theorem twoTo_pos (n : Nat) : 0 < twoTo n := Nat.pow_pos (by decide)

theorem twoTo_add_two (n : Nat) : twoTo (n + 2) = 4 * twoTo n := by
  have h : Nat.pow 2 (n + 2) = Nat.pow 2 n * Nat.pow 2 2 := Nat.pow_add 2 n 2
  exact h.trans (Nat.mul_comm _ _)

theorem unitsPerOne_pos : 0 < unitsPerOne := twoTo_pos 1074

theorem quarters_neg {k : Nat} (h : 0 < k) :
    quarters (-(k : Int)) = (4 * unitsPerOne, tenTo k) := by
  unfold quarters unitsPerOne
  rw [if_neg (by omega), Int.neg_neg, Int.toNat_natCast, ← twoTo_add_two]

theorem lt_tenTo_length_digits (n : Nat) : n < tenTo (digits n).length :=
  (Nat.length_toDigits_le_iff (by decide) Nat.length_toDigits_pos).mp (Nat.le_refl _)

theorem isDigit_of_mem_digits {n : Nat} {c : Char} (h : c ∈ digits n) : c.isDigit = true :=
  Nat.isDigit_of_mem_toDigits (by decide) (by decide) h

/-! ## The chosen decimal is not small -/

theorem holds_of_onGrid? {i : Interval} {exponent : Int} {n : Nat}
    (h : i.onGrid? exponent = some n) : i.holds exponent n = true := by
  unfold Interval.onGrid? at h
  split at h
  next num den hq =>
    simp only at h
    split at h
    · next hbelow _ => cases h; exact hbelow
    · next _ habove => cases h; exact habove
    · cases h
    · next hbelow habove =>
      split at h
      · cases h; exact hbelow
      · cases h; exact habove

theorem low_le_of_holds {i : Interval} {exponent : Int} {n : Nat} (h : i.holds exponent n = true) :
    i.low * (quarters exponent).2 ≤ n * (quarters exponent).1 := by
  unfold Interval.holds at h
  split at h
  next num den hq =>
    rw [hq]
    split at h <;> simp only [Bool.and_eq_true, decide_eq_true_eq] at h
    · exact h.1
    · exact Nat.le_of_lt h.1

/-- The interval of a number does not reach down to a quarter of it. -/
theorem le_low_around {mantissa : Nat} (h : 0 < mantissa) (scale : Nat) :
    mantissa * twoTo scale ≤ (Interval.around mantissa scale).low := by
  refine Nat.mul_le_mul_right _ ?_
  split <;> omega

/-- The decimal of a number that is at least one has its point at most five places before its
digits. -/
theorem point_of_shortest {mantissa scale : Nat} (h : unitsPerOne ≤ mantissa * twoTo scale) :
    -6 < ((digits (shortest mantissa scale).coefficient).length : Int) +
      (shortest mantissa scale).exponent := by
  have hm : 0 < mantissa := by
    rcases Nat.eq_zero_or_pos mantissa with rfl | hm
    · have := unitsPerOne_pos
      omega
    · exact hm
  unfold shortest
  simp only
  cases hmet : gridExponents.findSome? fun e =>
      ((Interval.around mantissa scale).onGrid? e).map (Decimal.mk · e) with
  | none =>
    simp only [Option.getD_none]
    omega
  | some decimal =>
    obtain ⟨exponent, -, hgrid⟩ := List.exists_of_findSome?_eq_some hmet
    obtain ⟨n, hn, rfl⟩ := Option.map_eq_some_iff.mp hgrid
    have hlow := low_le_of_holds (holds_of_onGrid? hn)
    simp only [Option.getD_some]
    by_cases hneg : exponent < 0
    · -- Were the point further off, the decimal would be below a quarter.
      obtain ⟨k, rfl⟩ : ∃ k : Nat, exponent = -(k : Int) := ⟨exponent.natAbs, by omega⟩
      simp only [quarters_neg (show 0 < k by omega)] at hlow
      have hsmall : tenTo k ≤ 4 * n := by
        have hle : unitsPerOne * tenTo k ≤ n * (4 * unitsPerOne) :=
          Nat.le_trans (Nat.mul_le_mul_right _ (Nat.le_trans h (le_low_around hm scale))) hlow
        rw [← Nat.mul_assoc, Nat.mul_comm, Nat.mul_comm n] at hle
        exact Nat.le_of_mul_le_mul_right hle unitsPerOne_pos
      have hdigits := lt_tenTo_length_digits n
      by_contra hfar
      have hk : (digits n).length + 6 ≤ k := by omega
      have hbig := tenTo_le hk
      rw [tenTo_add] at hbig
      have : tenTo 6 = 1000000 := rfl
      rw [this] at hbig
      omega
    · omega

/-! ## The characters of the text -/

/-- The characters that a number without a minus sign is written with. -/
def IsUnsigned (c : Char) : Prop := c.isDigit = true ∨ c = '.' ∨ c = 'e' ∨ c = '+'

theorem isUnsigned_of_mem_digits {n : Nat} {c : Char} (h : c ∈ digits n) : IsUnsigned c :=
  .inl (isDigit_of_mem_digits h)

theorem isUnsigned_of_mem_replicate {n : Nat} {c : Char} (h : c ∈ List.replicate n '0') :
    IsUnsigned c := by
  rw [List.eq_of_mem_replicate h]
  exact .inl rfl

/-- A layout has a minus sign only if the point stands six places or more before the digits. -/
theorem isUnsigned_of_mem_layout {ds : List Char} (hds : ∀ c ∈ ds, IsUnsigned c) {point : Int}
    (hpoint : -6 < point) : ∀ c ∈ layout ds point, IsUnsigned c := by
  have htake : ∀ n, ∀ c ∈ ds.take n, IsUnsigned c := fun n c hc => hds c (List.mem_of_mem_take hc)
  have hdrop : ∀ n, ∀ c ∈ ds.drop n, IsUnsigned c := fun n c hc => hds c (List.mem_of_mem_drop hc)
  have hdot : IsUnsigned '.' := .inr (.inl rfl)
  unfold layout
  simp only
  split
  · exact List.forall_mem_append.mpr ⟨hds, fun c => isUnsigned_of_mem_replicate⟩
  · split
    · exact List.forall_mem_append.mpr ⟨htake _, List.forall_mem_cons.mpr ⟨hdot, hdrop _⟩⟩
    · split
      · refine List.forall_mem_append.mpr ⟨?_, hds⟩
        exact List.forall_mem_cons.mpr ⟨.inl rfl, List.forall_mem_cons.mpr
          ⟨hdot, fun c => isUnsigned_of_mem_replicate⟩⟩
      -- Only a large number is left, whose exponent is written with a plus sign.
      · have hsign : 0 ≤ point - 1 := by omega
        rw [if_pos hsign]
        refine List.forall_mem_append.mpr ⟨List.forall_mem_append.mpr ⟨htake _, ?_⟩, ?_⟩
        · split
          · simp
          · exact List.forall_mem_cons.mpr ⟨hdot, hdrop _⟩
        · exact List.forall_mem_cons.mpr ⟨.inr (.inr (.inl rfl)), List.forall_mem_cons.mpr
            ⟨.inr (.inr (.inr rfl)), fun c => isUnsigned_of_mem_digits⟩⟩

theorem text_finite_succ (mantissa scale : Nat) :
    (Exact.finite false (mantissa + 1) scale).text = magnitudeText (mantissa + 1) scale := by
  unfold Exact.text
  rfl

theorem isUnsigned_of_mem_magnitudeText {mantissa scale : Nat}
    (h : unitsPerOne ≤ mantissa * twoTo scale) :
    ∀ c ∈ magnitudeText mantissa scale, IsUnsigned c := by
  unfold magnitudeText
  exact isUnsigned_of_mem_layout (fun c => isUnsigned_of_mem_digits) (point_of_shortest h)

/-- A natural number is zero, with or without a sign, or a finite word without one that stands for
so many ones. -/
theorem exact_of_toInt?_natCast {x : Float} {n : Nat} (h : toInt? x = some (n : Int)) :
    (n = 0 ∧ ∃ negative scale, exact x = .finite negative 0 scale) ∨
      ∃ mantissa scale, exact x = .finite false (mantissa + 1) scale ∧
        (mantissa + 1) * twoTo scale = n * unitsPerOne := by
  unfold toInt? at h
  cases hx : exact x with
  | nan => simp [hx] at h
  | infinite negative => simp [hx] at h
  | finite negative mantissa scale =>
    rw [hx] at h
    simp only at h
    split at h
    · next hmod =>
      have hunits := Nat.div_mul_cancel (Nat.dvd_of_mod_eq_zero hmod)
      have hsigned := Option.some.inj h
      unfold signed at hsigned
      generalize mantissa * twoTo scale / unitsPerOne = ones at hunits hsigned
      cases mantissa with
      | zero =>
        rw [Nat.zero_mul] at hunits
        have hnone := (Nat.mul_eq_zero.mp hunits).resolve_right (Nat.ne_of_gt unitsPerOne_pos)
        refine .inl ⟨?_, negative, scale, rfl⟩
        split at hsigned <;> omega
      | succ mantissa =>
        refine .inr ⟨mantissa, scale, ?_⟩
        cases negative with
        | false =>
          rw [if_neg Bool.false_ne_true, Int.natCast_inj] at hsigned
          exact ⟨rfl, by rw [← hsigned, hunits]⟩
        | true =>
          -- A sign would leave no ones, and so no units.
          rw [if_pos rfl] at hsigned
          obtain rfl : ones = 0 := by omega
          rw [Nat.zero_mul] at hunits
          have hpos := Nat.mul_pos (Nat.succ_pos mantissa) (twoTo_pos scale)
          exact absurd hunits (Nat.ne_of_lt hpos)
    · cases h

/-- A page bound is zero, or a finite positive number that is at least one. -/
theorem exact_of_isPageBound {x : Float} (h : Query.isPageBound x = true) :
    (∃ negative scale, exact x = .finite negative 0 scale) ∨
      ∃ mantissa scale, exact x = .finite false (mantissa + 1) scale ∧
        unitsPerOne ≤ (mantissa + 1) * twoTo scale := by
  obtain ⟨n, hn⟩ := Query.isPageBound_iff.mp h
  rcases exact_of_toInt?_natCast hn with ⟨-, hzero⟩ | ⟨mantissa, scale, hx, hunits⟩
  · exact .inl hzero
  · -- A positive multiple of the units in one is no less than one.
    have hpos := Nat.mul_pos (Nat.succ_pos mantissa) (twoTo_pos scale)
    exact .inr ⟨mantissa, scale, hx, Nat.le_of_dvd hpos ⟨n, hunits.trans (Nat.mul_comm _ _)⟩⟩

/-- **The text of a page bound** has no minus sign. -/
theorem isUnsigned_of_mem_text {x : Float} (h : Query.isPageBound x = true) :
    ∀ c ∈ (text x).toList, IsUnsigned c := by
  rw [text, String.toList_ofList]
  rcases exact_of_isPageBound h with ⟨negative, scale, hx⟩ | ⟨mantissa, scale, hx, hle⟩
  · rw [hx]
    cases negative <;> exact List.forall_mem_singleton.mpr (.inl rfl)
  · rw [hx, text_finite_succ]
    exact isUnsigned_of_mem_magnitudeText hle

end Number

end CrudQuery
