import CrudQuery.Proofs.Number.PageText

/-! # Which natural numbers are written as digits

A natural number is written as a row of digits if it is below `10 ^ 21`, and with an exponent from
there on.  The text is not made from the number, though, but from the shortest decimal that rounds
to it, and two facts about the intervals of rounding carry the bound over.

First, that decimal is a natural number too: the grid of the natural numbers holds the number itself
and so is met, and only coarser grids are tried before it.  Second, the number and its decimal lie
on the same side of `10 ^ 21`.  The interval of a number below the power ends below it, because the
power is a word of its own (`high_around_lt`).  And were the decimal below the power but the number
not, then the power would lie in the interval, its own grid would be met, and the decimal would be a
multiple of it after all.
-/

namespace CrudQuery.Number

/-- A row of digits, one at least. -/
def IsNumeral (s : String) : Prop := s ≠ "" ∧ ∀ c ∈ s.toList, c.isDigit = true

theorem isNumeral_ofList {cs : List Char} :
    IsNumeral (String.ofList cs) ↔ cs ≠ [] ∧ ∀ c ∈ cs, c.isDigit = true := by
  rw [IsNumeral, String.toList_ofList, Ne, String.ofList_eq_empty_iff]

/-! ## Words -/

/-- The leading bit is implied in every word that is scaled. -/
theorem le_mantissa {x : Float} {negative : Bool} {mantissa scale : Nat}
    (hx : exact x = .finite negative mantissa scale) (hs : 0 < scale) : twoTo 52 ≤ mantissa := by
  unfold exact Exact.ofFields at hx
  simp only at hx
  split at hx
  · split at hx <;> cases hx
  · split at hx
    · cases hx
      exact absurd hs (Nat.lt_irrefl 0)
    · cases hx
      exact Nat.le_add_right _ _

/-! ## Natural numbers and intervals -/

theorem twoTo_eq {a b n : Nat} (h : a + b = n) : twoTo n = twoTo a * twoTo b :=
  h ▸ Nat.pow_add 2 a b

theorem twoTo_le {a b : Nat} (h : a ≤ b) : twoTo a ≤ twoTo b :=
  Nat.pow_le_pow_right (by decide) h

/-- A natural number in quarters of a least unit. -/
def quartersOf (n : Nat) : Nat := n * (4 * unitsPerOne)

theorem quartersOf_le {m n : Nat} : quartersOf m ≤ quartersOf n ↔ m ≤ n :=
  Nat.mul_le_mul_right_iff (Nat.mul_pos (by decide) unitsPerOne_pos)

theorem quartersOf_lt {m n : Nat} : quartersOf m < quartersOf n ↔ m < n :=
  Nat.mul_lt_mul_right (Nat.mul_pos (by decide) unitsPerOne_pos)

theorem quarters_natCast (k : Nat) : quarters (k : Int) = (quartersOf (tenTo k), 1) := by
  unfold quarters quartersOf unitsPerOne
  rw [if_pos (Int.natCast_nonneg k), Int.toNat_natCast, ← twoTo_add_two]

/-- A place in an interval, whose ends belong to it or not. -/
def Interval.Contains (i : Interval) (place : Nat) : Prop :=
  if i.closed = true then i.low ≤ place ∧ place ≤ i.high else i.low < place ∧ place < i.high

theorem Interval.Contains.low_le {i : Interval} {place : Nat} (h : i.Contains place) :
    i.low ≤ place := by
  unfold Interval.Contains at h
  split at h <;> omega

theorem Interval.Contains.le_high {i : Interval} {place : Nat} (h : i.Contains place) :
    place ≤ i.high := by
  unfold Interval.Contains at h
  split at h <;> omega

theorem Interval.Contains.between {i : Interval} {first last place : Nat} (hf : i.Contains first)
    (hl : i.Contains last) (hle : first ≤ place) (hge : place ≤ last) : i.Contains place := by
  unfold Interval.Contains at *
  split at hf <;> simp_all <;> omega

theorem holds_natCast {i : Interval} {k c : Nat} :
    i.holds (k : Int) c = true ↔ i.Contains (quartersOf (c * tenTo k)) := by
  have hplace : c * quartersOf (tenTo k) = quartersOf (c * tenTo k) :=
    (Nat.mul_assoc c (tenTo k) _).symm
  unfold Interval.holds Interval.Contains
  simp only [quarters_natCast, Nat.mul_one, hplace]
  split <;> simp

/-- A number is strictly inside its interval. -/
theorem contains_centre {mantissa : Nat} (h : 0 < mantissa) (scale : Nat) :
    (Interval.around mantissa scale).Contains (Interval.around mantissa scale).centre := by
  have hlow : (Interval.around mantissa scale).low < (Interval.around mantissa scale).centre := by
    refine Nat.mul_lt_mul_of_pos_right ?_ (twoTo_pos scale)
    split <;> omega
  have hhigh : (Interval.around mantissa scale).centre < (Interval.around mantissa scale).high :=
    Nat.mul_lt_mul_of_pos_right (by omega) (twoTo_pos scale)
  unfold Interval.Contains
  split
  · exact ⟨Nat.le_of_lt hlow, Nat.le_of_lt hhigh⟩
  · exact ⟨hlow, hhigh⟩

/-! ## Grids of natural numbers -/

/-- A grid is met if a multiple of its power that is not above the number lies in the interval:
then so does the last such multiple. -/
theorem isSome_onGrid? {i : Interval} (hc : i.Contains i.centre) {k c : Nat}
    (h : i.Contains (quartersOf (c * tenTo k))) (hle : quartersOf (c * tenTo k) ≤ i.centre) :
    (i.onGrid? (k : Int)).isSome = true := by
  have hplace : ∀ n, quartersOf (n * tenTo k) = n * quartersOf (tenTo k) :=
    fun n => Nat.mul_assoc n (tenTo k) _
  have hbelow : i.holds (k : Int) (i.centre * 1 / quartersOf (tenTo k)) = true := by
    rw [holds_natCast, Nat.mul_one, hplace]
    refine (hplace c ▸ h).between hc (Nat.mul_le_mul_right _ ?_) (Nat.div_mul_le_self _ _)
    have hpos : 0 < quartersOf (tenTo k) :=
      Nat.mul_pos (Nat.pow_pos (by decide)) (Nat.mul_pos (by decide) unitsPerOne_pos)
    exact (Nat.le_div_iff_mul_le hpos).mpr (hplace c ▸ hle)
  unfold Interval.onGrid?
  simp only [quarters_natCast, hbelow]
  split
  · rfl
  · rfl
  · next hfalse _ => cases hfalse
  · split <;> rfl

/-- What is found first stands before everything else that would be found. -/
theorem exists_first_of_findSome? {α β : Type} {f : α → Option β} {R : α → α → Prop} {l : List α}
    (hl : l.Pairwise R) {x : α} (hx : x ∈ l) (hf : (f x).isSome = true) :
    ∃ a b, l.findSome? f = some b ∧ f a = some b ∧ (a = x ∨ R a x) := by
  induction l with
  | nil => cases hx
  | cons first rest ih =>
    obtain ⟨hfirst, hrest⟩ := List.pairwise_cons.mp hl
    rw [List.findSome?_cons]
    cases hmet : f first with
    | some b => exact ⟨first, b, rfl, hmet, (List.mem_cons.mp hx).imp Eq.symm (hfirst x)⟩
    | none =>
      rcases List.mem_cons.mp hx with rfl | hx
      · rw [hmet] at hf
        cases hf
      · exact ih hrest hx

theorem pairwise_gridExponents : gridExponents.Pairwise (· > ·) :=
  List.pairwise_map.mpr (List.pairwise_lt_range.imp fun hlt => by omega)

/-- No grid coarser than the one of the shortest decimal is met. -/
theorem exists_shortest_of_met {mantissa scale k : Nat} (hk : k ≤ 309)
    (h : ((Interval.around mantissa scale).onGrid? (k : Int)).isSome = true) :
    ∃ c e : Nat, shortest mantissa scale = ⟨c, e⟩ ∧ k ≤ e ∧
      (Interval.around mantissa scale).Contains (quartersOf (c * tenTo e)) := by
  have hmem : (k : Int) ∈ gridExponents :=
    List.mem_map.mpr ⟨309 - k, List.mem_range.mpr (by omega), by omega⟩
  have hsome : (((Interval.around mantissa scale).onGrid? k).map (Decimal.mk · k)).isSome = true :=
    Option.isSome_map.trans h
  obtain ⟨exponent, decimal, hfound, hmet, hbefore⟩ :=
    exists_first_of_findSome? (f := fun e =>
      ((Interval.around mantissa scale).onGrid? e).map (Decimal.mk · e))
      pairwise_gridExponents hmem hsome
  obtain ⟨c, hgrid, rfl⟩ := Option.map_eq_some_iff.mp hmet
  have hle : (k : Int) ≤ exponent := by omega
  obtain ⟨e, rfl⟩ := Int.eq_ofNat_of_zero_le (Int.le_trans (Int.natCast_nonneg k) hle)
  refine ⟨c, e, ?_, Int.ofNat_le.mp hle, holds_natCast.mp (holds_of_onGrid? hgrid)⟩
  unfold shortest
  simp only [hfound, Option.getD_some]

/-! ## The side on which the decimal lies -/

/-- The power of ten from which on numbers have an exponent is a word, so no interval of a number
below it reaches up to it. -/
theorem high_around_lt {mantissa scale : Nat} (hm : 0 < scale → twoTo 52 ≤ mantissa)
    (h : mantissa * twoTo scale < tenTo 21 * unitsPerOne) :
    (Interval.around mantissa scale).high < quartersOf (tenTo 21) := by
  have hword : tenTo 21 * unitsPerOne = 476837158203125 * twoTo 1095 := by
    rw [unitsPerOne, twoTo_eq (show 21 + 1074 = 1095 from rfl), ← Nat.mul_assoc]
    exact congrArg (· * twoTo 1074) (by decide)
  have hquarters : quartersOf (tenTo 21) = 4 * (476837158203125 * twoTo 1095) := by
    rw [← hword]
    exact Nat.mul_left_comm _ _ _
  rw [hword] at h
  rw [hquarters]
  by_cases hscale : scale ≤ 1095
  · -- The power is a multiple of the gap behind the number.
    rw [twoTo_eq (Nat.sub_add_cancel hscale), ← Nat.mul_assoc] at h ⊢
    have hlt := Nat.lt_of_mul_lt_mul_right h
    rw [← Nat.mul_assoc]
    exact Nat.mul_lt_mul_of_pos_right (by omega) (twoTo_pos scale)
  · -- A number with larger gaps is above the power.
    have hmantissa : twoTo 52 ≤ mantissa := hm (by omega)
    have hscale : twoTo 1096 ≤ twoTo scale := twoTo_le (by omega)
    refine absurd h (Nat.not_lt_of_le ?_)
    calc 476837158203125 * twoTo 1095
        ≤ twoTo 52 * twoTo 1 * twoTo 1095 := Nat.mul_le_mul_right _ (by decide)
      _ = twoTo 52 * twoTo 1096 := by
        rw [Nat.mul_assoc, ← twoTo_eq (show 1 + 1095 = 1096 from rfl)]
      _ ≤ mantissa * twoTo scale := Nat.mul_le_mul hmantissa hscale

/-- The shortest decimal of a natural number is a natural number on the same side of the power from
which on numbers have an exponent. -/
theorem exists_shortest {mantissa scale n : Nat} (hpos : 0 < mantissa)
    (hm : 0 < scale → twoTo 52 ≤ mantissa) (hn : mantissa * twoTo scale = n * unitsPerOne) :
    ∃ c e : Nat, shortest mantissa scale = ⟨c, e⟩ ∧ 0 < c ∧
      (c * tenTo e < tenTo 21 ↔ n < tenTo 21) := by
  have hcentre : (Interval.around mantissa scale).centre = quartersOf n := by
    change 4 * mantissa * twoTo scale = n * (4 * unitsPerOne)
    rw [Nat.mul_assoc, hn]
    exact Nat.mul_left_comm _ _ _
  have hin := contains_centre hpos scale
  have hself : quartersOf (n * tenTo 0) = (Interval.around mantissa scale).centre := by
    rw [hcentre]
    exact congrArg quartersOf (Nat.mul_one n)
  obtain ⟨c, e, hshortest, -, hc⟩ := exists_shortest_of_met (k := 0) (by decide)
    (isSome_onGrid? hin (hself ▸ hin) (Nat.le_of_eq hself))
  have hcpos : 0 < c := by
    rcases Nat.eq_zero_or_pos c with rfl | hcpos
    · have hlow := Nat.le_trans (le_low_around hpos scale) hc.low_le
      rw [Nat.zero_mul, quartersOf, Nat.zero_mul] at hlow
      exact absurd hlow (Nat.not_le_of_lt (Nat.mul_pos hpos (twoTo_pos scale)))
    · exact hcpos
  refine ⟨c, e, hshortest, hcpos, ?_, ?_⟩
  · intro hlt
    by_contra hge
    -- The power lies between the decimal and the number, so its own grid is met.
    have hpower : 1 * tenTo 21 = tenTo 21 := Nat.one_mul _
    have hle : quartersOf (1 * tenTo 21) ≤ (Interval.around mantissa scale).centre := by
      rw [hcentre, quartersOf_le]
      omega
    have hbetween := hc.between hin (quartersOf_le.mpr (by omega)) hle
    obtain ⟨c', e', hshortest', hle', -⟩ := exists_shortest_of_met (k := 21) (by decide)
      (isSome_onGrid? hin hbetween hle)
    rw [hshortest] at hshortest'
    cases hshortest'
    have := Nat.mul_le_mul hcpos (tenTo_le hle')
    omega
  · intro hlt
    have hbelow : mantissa * twoTo scale < tenTo 21 * unitsPerOne := by
      rw [hn]
      exact Nat.mul_lt_mul_of_pos_right hlt unitsPerOne_pos
    exact quartersOf_lt.mp (Nat.lt_of_le_of_lt hc.le_high (high_around_lt hm hbelow))

/-! ## The text -/

/-- Zeros behind the digits of a number multiply it by a power of ten. -/
theorem digits_mul_tenTo {c : Nat} (hc : 0 < c) (e : Nat) :
    digits (c * tenTo e) = digits c ++ List.replicate e '0' := by
  induction e with
  | zero =>
    rw [List.replicate_zero, List.append_nil]
    exact congrArg digits (Nat.mul_one c)
  | succ e ih =>
    have hnext : c * tenTo (e + 1) = 10 * (c * tenTo e) + 0 := by
      rw [tenTo_add, ← Nat.mul_assoc]
      exact Nat.mul_comm _ _
    have hpos : 0 < c * tenTo e := Nat.mul_pos hc (Nat.pow_pos (by decide))
    rw [hnext, List.replicate_succ', ← List.append_assoc, ← ih]
    exact (Nat.toDigits_append_toDigits (by decide) hpos (by decide)).symm

theorem length_digits_le {n : Nat} : (digits n).length ≤ 21 ↔ n < tenTo 21 :=
  Nat.length_toDigits_le_iff (by decide) (by decide)

/-- Digits with zeros behind them, as long as the point is not too far. -/
theorem layout_of_le {ds : List Char} {e : Nat} (h : ds.length + e ≤ 21) :
    layout ds ((ds.length : Int) + e) = ds ++ List.replicate e '0' := by
  unfold layout
  simp only
  rw [if_pos ⟨by omega, by omega⟩]
  exact congrArg (ds ++ List.replicate · '0') (by omega)

theorem mem_layout_of_lt {ds : List Char} {e : Nat} (h : 21 < ds.length + e) :
    'e' ∈ layout ds ((ds.length : Int) + e) := by
  unfold layout
  simp only
  rw [if_neg (by omega), if_neg (by omega), if_neg (by omega)]
  exact List.mem_append_right _ List.mem_cons_self

/-- A whole decimal is written as its digits, or else with an exponent. -/
theorem isNumeral_layout_iff {c : Nat} (hc : 0 < c) (e : Nat) :
    IsNumeral (String.ofList (layout (digits c) (((digits c).length : Int) + e))) ↔
      c * tenTo e < tenTo 21 := by
  have hlength : (digits c).length + e = (digits (c * tenTo e)).length := by
    rw [digits_mul_tenTo hc, List.length_append, List.length_replicate]
  rw [isNumeral_ofList, ← length_digits_le, ← hlength]
  constructor
  · rintro ⟨-, hdigits⟩
    by_contra hlong
    exact absurd (hdigits 'e' (mem_layout_of_lt (by omega))) (by decide)
  · intro hle
    rw [layout_of_le hle, ← digits_mul_tenTo hc]
    exact ⟨List.ne_nil_of_length_pos Nat.length_toDigits_pos, fun x => isDigit_of_mem_digits⟩

/-- **The text of a natural number** is a row of digits as long as the number is below the
twenty-first power of ten, and no longer. -/
theorem isNumeral_text_iff {x : Float} {n : Nat} (h : toInt? x = some (n : Int)) :
    IsNumeral (text x) ↔ n < tenTo 21 := by
  rcases exact_of_toInt?_natCast h with ⟨rfl, negative, scale, hx⟩ | ⟨mantissa, scale, hx, hunits⟩
  · have hdigit : (exact x).text = ['0'] := by
      rw [hx]
      cases negative <;> rfl
    rw [text, hdigit, isNumeral_ofList]
    exact ⟨fun _ => Nat.pow_pos (by decide),
      fun _ => ⟨List.cons_ne_nil _ _, List.forall_mem_singleton.mpr rfl⟩⟩
  · obtain ⟨c, e, hshortest, hc, hside⟩ :=
      exists_shortest (Nat.succ_pos mantissa) (le_mantissa hx) hunits
    rw [text, hx, text_finite_succ, magnitudeText, hshortest]
    exact (isNumeral_layout_iff hc e).trans hside

end CrudQuery.Number
