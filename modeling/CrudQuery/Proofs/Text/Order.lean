import CrudQuery.Text

/-! # Texts are in a strict total order

`Text.before` compares UTF-16 units, and of two different texts it puts one before the other.  For
the lists of units the order is total in any case; what has to be shown is that different texts have
different units.  Nothing marks in a text of units where a character ends, but a high surrogate is
the unit of no character of the first plane, so the first unit says how many belong to it
(`charUnits_append_inj`).
-/

namespace CrudQuery.Text

/-- No character is a surrogate, and none lies beyond the last plane. -/
theorem toNat_range (c : Char) :
    c.toNat < 0xD800 ∨ (0xDFFF < c.toNat ∧ c.toNat < 0x110000) := c.valid

/-- The first character can be read off the units of a text, and the units behind it are left. -/
theorem charUnits_append_inj {c d : Char} {us vs : List Nat}
    (h : charUnits c ++ us = charUnits d ++ vs) : c = d ∧ us = vs := by
  have hc := toNat_range c
  have hd := toNat_range d
  unfold charUnits at h
  split at h <;> split at h <;> simp only [List.cons_append, List.nil_append, List.cons.injEq] at h
  · exact ⟨Char.toNat_inj.mp h.1, h.2⟩
  · -- The first unit would be a high surrogate and a character of the first plane.
    omega
  · omega
  · obtain ⟨hhigh, hlow, hrest⟩ := h
    exact ⟨Char.toNat_inj.mp (by omega), hrest⟩

theorem flatMap_charUnits_inj {cs ds : List Char}
    (h : cs.flatMap charUnits = ds.flatMap charUnits) : cs = ds := by
  have hne : ∀ c, charUnits c ≠ [] := by
    intro c
    unfold charUnits
    split <;> simp
  induction cs generalizing ds with
  | nil =>
    cases ds with
    | nil => rfl
    | cons d ds =>
      rw [List.flatMap_nil, List.flatMap_cons] at h
      exact absurd (List.append_eq_nil_iff.mp h.symm).1 (hne d)
  | cons c cs ih =>
    cases ds with
    | nil =>
      rw [List.flatMap_nil, List.flatMap_cons] at h
      exact absurd (List.append_eq_nil_iff.mp h).1 (hne c)
    | cons d ds =>
      obtain ⟨rfl, hrest⟩ := charUnits_append_inj h
      rw [ih hrest]

/-- A text is known by its units. -/
theorem units_inj {s t : String} (h : units s = units t) : s = t :=
  String.toList_injective (flatMap_charUnits_inj h)

/-- Of two different texts one comes before the other. -/
theorem before_or_before {s t : String} (h : s ≠ t) : before s t = true ∨ before t s = true := by
  simp only [before, decide_eq_true_eq]
  by_cases hst : units s < units t
  · exact .inl hst
  · refine .inr (Decidable.byContradiction fun hts => h (units_inj ?_))
    exact List.le_antisymm (List.not_lt.mp hts) (List.not_lt.mp hst)

/-- Lists in which each member comes strictly before those behind it are equal if they have the same
members. -/
theorem eq_of_perm {α : Type} (key : α → String) {xs ys : List α}
    (hx : xs.Pairwise fun a b => before (key a) (key b) = true)
    (hy : ys.Pairwise fun a b => before (key a) (key b) = true) (h : xs.Perm ys) : xs = ys := by
  refine h.eq_of_pairwise (fun a b _ _ hab hba => ?_) hx hy
  have hself := before_trans hab hba
  rw [before_irrefl] at hself
  cases hself

end CrudQuery.Text
