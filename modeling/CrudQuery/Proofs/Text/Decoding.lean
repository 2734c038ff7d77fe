import Mathlib.Data.List.Forall2

/-! # Texts that can be told apart

Texts are put together without a table of contents: what was written first has to be found again
from the characters alone.  `Decodes` says that this is possible for one kind of thing: equal texts,
each with more behind it, were written for things that are the same, and go on behind them in the
same way.  What may stand behind matters, since a name ends only where something stands that no name
holds; so the property is relative to how the rest of a text begins.

The lemmas build it up in the order in which texts are: solid stretches, one thing behind another,
repetitions, lists with commas, and clauses that are there or not, each behind a keyword.  A clause
that is left out must not be mistaken for a later one, so keywords are asked not to begin one
another (`clear`), which is computed.
-/

namespace CrudQuery.Text
variable {α β : Type}

/-- What is written can be told apart from anything else that is written, and from what is behind
it. -/
def Decodes (text : α → List Char) (ends : List Char → Prop) (same : α → α → Prop)
    (valid : α → Prop) : Prop :=
  ∀ x y rest more, valid x → valid y → ends rest → ends more →
    text x ++ rest = text y ++ more → same x y ∧ rest = more

section Basic
variable {text : α → List Char} {ends : List Char → Prop} {same : α → α → Prop} {valid : α → Prop}

/-- One part of a thing is told apart as that part is. -/
theorem Decodes.on (h : Decodes text ends same valid) (part : β → α) {whole : β → Prop}
    (hw : ∀ b, whole b → valid (part b)) :
    Decodes (fun b => text (part b)) ends (fun b c => same (part b) (part c)) whole :=
  fun b c rest more hb hc => h (part b) (part c) rest more (hw b hb) (hw c hc)

theorem Decodes.ends_mono (h : Decodes text ends same valid) {ends' : List Char → Prop}
    (hends : ∀ rest, ends' rest → ends rest) : Decodes text ends' same valid :=
  fun x y rest more hx hy hr hm => h x y rest more hx hy (hends rest hr) (hends more hm)

theorem Decodes.same_mono (h : Decodes text ends same valid) {same' : α → α → Prop}
    (hsame : ∀ x y, valid x → valid y → same x y → same' x y) : Decodes text ends same' valid := by
  intro x y rest more hx hy hr hm e
  obtain ⟨hs, hrest⟩ := h x y rest more hx hy hr hm e
  exact ⟨hsame x y hx hy hs, hrest⟩

theorem Decodes.congr (h : Decodes text ends same valid) {text' : α → List Char}
    (htext : ∀ x, valid x → text' x = text x) : Decodes text' ends same valid := by
  intro x y rest more hx hy hr hm e
  rw [htext x hx, htext y hy] at e
  exact h x y rest more hx hy hr hm e

/-- What everything begins with tells nothing apart. -/
theorem Decodes.behind (h : Decodes text ends same valid) (opening : String) :
    Decodes (fun x => opening.toList ++ text x) ends same valid := by
  intro x y rest more hx hy hr hm e
  rw [List.append_assoc, List.append_assoc] at e
  exact h x y rest more hx hy hr hm (List.append_cancel_left e)

/-- Two texts of one thing, the second of which ends the first.  To tell the second apart, it is
known that the first was the same. -/
theorem Decodes.seq_of_same {next : α → List Char} {ends' : List Char → Prop}
    {same' : α → α → Prop} (h : Decodes text ends same valid)
    (hn : ∀ x y rest more, valid x → valid y → same x y → ends' rest → ends' more →
      next x ++ rest = next y ++ more → same' x y ∧ rest = more)
    (hends : ∀ x rest, valid x → ends' rest → ends (next x ++ rest)) :
    Decodes (fun x => text x ++ next x) ends' (fun x y => same x y ∧ same' x y) valid := by
  intro x y rest more hx hy hr hm e
  rw [List.append_assoc, List.append_assoc] at e
  obtain ⟨hs, e⟩ := h x y _ _ hx hy (hends x rest hx hr) (hends y more hy hm) e
  obtain ⟨hs', e⟩ := hn x y rest more hx hy hs hr hm e
  exact ⟨⟨hs, hs'⟩, e⟩

/-- Two texts of one thing, the second of which ends the first. -/
theorem Decodes.seq {next : α → List Char} {ends' : List Char → Prop} {same' : α → α → Prop}
    (h : Decodes text ends same valid) (hn : Decodes next ends' same' valid)
    (hends : ∀ x rest, valid x → ends' rest → ends (next x ++ rest)) :
    Decodes (fun x => text x ++ next x) ends' (fun x y => same x y ∧ same' x y) valid :=
  h.seq_of_same (fun x y rest more hx hy _ => hn x y rest more hx hy) hends

theorem decodes_const (closing : String) (ends : List Char → Prop) :
    Decodes (fun _ : α => closing.toList) ends (fun _ _ => True) valid :=
  fun _ _ _ _ _ _ _ _ e => ⟨trivial, List.append_cancel_left e⟩

/-- Texts none of which begins another. -/
theorem decodes_of_prefix_free (ends : List Char → Prop)
    (h : ∀ x y, valid x → valid y → text x <+: text y → same x y ∧ text x = text y)
    (hsymm : ∀ x y, same x y → same y x) : Decodes text ends same valid := by
  intro x y rest more hx hy _ _ e
  have both : same x y ∧ text x = text y := by
    rcases List.prefix_or_prefix_of_prefix (List.prefix_append (text x) rest)
      (e ▸ List.prefix_append (text y) more) with hp | hp
    · exact h x y hx hy hp
    · obtain ⟨hs, ht⟩ := h y x hy hx hp
      exact ⟨hsymm y x hs, ht.symm⟩
  refine ⟨both.1, ?_⟩
  rw [both.2] at e
  exact List.append_cancel_left e

/-- Things written one after another, as many as there are.  What ends a thing may begin another,
but what ends them all may not. -/
theorem Decodes.many {last : List Char → Prop} (h : Decodes text ends same valid)
    (hlast : ∀ rest, last rest → ends rest)
    (hnext : ∀ x rest, valid x → ends (text x ++ rest))
    (hstop : ∀ x rest, valid x → ¬ last (text x ++ rest)) :
    Decodes (fun xs => xs.flatMap text) last (List.Forall₂ same) (fun xs => ∀ x ∈ xs, valid x) := by
  -- Behind each thing stands the next one, or what ends them all.
  have hends : ∀ (xs : List α) (rest : List Char), (∀ x ∈ xs, valid x) → last rest →
      ends (xs.flatMap text ++ rest) := by
    intro xs rest hxs hr
    cases xs with
    | nil => exact hlast rest hr
    | cons x xs =>
      rw [List.flatMap_cons, List.append_assoc]
      exact hnext x _ (List.forall_mem_cons.mp hxs).1
  intro xs
  -- The two lists are taken apart together; if one ends first, the other goes on where it may not.
  induction xs with
  | nil =>
    intro ys rest more _ hys hr hm e
    cases ys with
    | nil => exact ⟨.nil, e⟩
    | cons y ys =>
      simp only [List.flatMap_cons, List.flatMap_nil, List.nil_append, List.append_assoc] at e
      exact absurd (e ▸ hr : last _) (hstop y _ (List.forall_mem_cons.mp hys).1)
  | cons x xs ih =>
    intro ys rest more hxs hys hr hm e
    obtain ⟨hx, hxs⟩ := List.forall_mem_cons.mp hxs
    cases ys with
    | nil =>
      simp only [List.flatMap_cons, List.flatMap_nil, List.nil_append, List.append_assoc] at e
      exact absurd (e ▸ hm : last _) (hstop x _ hx)
    | cons y ys =>
      obtain ⟨hy, hys⟩ := List.forall_mem_cons.mp hys
      simp only [List.flatMap_cons, List.append_assoc] at e
      obtain ⟨hs, e⟩ := h x y _ _ hx hy (hends xs rest hxs hr) (hends ys more hys hm) e
      obtain ⟨hrest, e⟩ := ih ys rest more hxs hys hr hm e
      exact ⟨.cons hs hrest, e⟩

end Basic

/-! ## Solid stretches -/

/-- The characters that no name, no parameter and no number holds. -/
def isBreak (c : Char) : Bool := [' ', ',', '(', ')'].contains c

/-- A text without breaks. -/
def Solid (text : List Char) : Prop := ∀ c ∈ text, isBreak c = false

/-- A text that ends what is before it: nothing, or a break. -/
def Broken (rest : List Char) : Prop := ∀ c ∈ rest.head?, isBreak c = true

theorem takeWhile_append_of_head {p : Char → Bool} {text rest : List Char}
    (ht : ∀ c ∈ text, p c = true) (hr : ∀ c ∈ rest.head?, p c = false) :
    (text ++ rest).takeWhile p = text := by
  have hrest : rest.takeWhile p = [] := by
    cases rest with
    | nil => rfl
    | cons c rest => simp [hr c (by simp)]
  rw [List.takeWhile_append_of_pos ht, hrest, List.append_nil]

theorem decodes_solid {text : α → List Char} {valid : α → Prop}
    (h : ∀ x, valid x → Solid (text x)) :
    Decodes text Broken (fun x y => text x = text y) valid := by
  have hsolid : ∀ x rest, valid x → Broken rest →
      (text x ++ rest).takeWhile (fun c => !isBreak c) = text x := fun x rest hx hr =>
    takeWhile_append_of_head (fun c hc => by simp [h x hx c hc]) fun c hc => by simp [hr c hc]
  intro x y rest more hx hy hr hm e
  have hxy : text x = text y := by
    rw [← hsolid x rest hx hr, e, hsolid y more hy hm]
  rw [hxy] at e
  exact ⟨hxy, List.append_cancel_left e⟩

/-! ## What may follow -/

/-- A text that ends, or goes on with one of some keywords. -/
def Follows (keywords : List String) (rest : List Char) : Prop :=
  rest = [] ∨ ∃ keyword ∈ keywords, keyword.toList <+: rest

/-- A keyword that is not empty, begins none of some others, and none of them begins it. -/
def clear (keyword : String) (others : List String) : Bool :=
  keyword.toList != [] && others.all fun other =>
    !keyword.toList.isPrefixOf other.toList && !other.toList.isPrefixOf keyword.toList

/-- Keywords that start with a break. -/
def allBreak (keywords : List String) : Bool :=
  keywords.all fun keyword => keyword.toList.head?.any isBreak

theorem follows_nil (keywords : List String) : Follows keywords [] := .inl rfl

theorem follows_append {keyword : String} {keywords : List String} (h : keyword ∈ keywords)
    (rest : List Char) : Follows keywords (keyword.toList ++ rest) :=
  .inr ⟨keyword, h, List.prefix_append _ _⟩

theorem Follows.mono {keywords more : List String} {rest : List Char} (h : Follows keywords rest)
    (hk : ∀ keyword ∈ keywords, keyword ∈ more) : Follows more rest :=
  h.imp_right fun ⟨keyword, hm, hp⟩ => ⟨keyword, hk keyword hm, hp⟩

theorem broken_append {text : List Char} (h : text.head?.any isBreak = true) (rest : List Char) :
    Broken (text ++ rest) := by
  obtain ⟨d, hd, hbreak⟩ := (Option.any_eq_true _ _).mp h
  obtain ⟨tail, ht⟩ := List.head?_eq_some_iff.mp hd
  intro c hc
  rw [ht, List.cons_append, List.head?_cons, Option.mem_some_iff] at hc
  exact hc ▸ hbreak

theorem Follows.broken {keywords : List String} {rest : List Char} (h : Follows keywords rest)
    (hk : allBreak keywords = true) : Broken rest := by
  rcases h with rfl | ⟨keyword, hm, more, rfl⟩
  · simp [Broken]
  · exact broken_append (List.all_eq_true.mp hk keyword hm) more

/-- A keyword does not follow where only others do. -/
theorem not_follows {keyword : String} {others : List String} (h : clear keyword others = true)
    (rest : List Char) : ¬ Follows others (keyword.toList ++ rest) := by
  rw [clear, Bool.and_eq_true] at h
  rintro (hnil | ⟨other, hm, hp⟩)
  · exact absurd (List.append_eq_nil_iff.mp hnil).1 (by simpa using h.1)
  · have hother := List.all_eq_true.mp h.2 other hm
    simp only [Bool.and_eq_true, Bool.not_eq_true', ← Bool.not_eq_true, List.isPrefixOf_iff_prefix]
      at hother
    exact (List.prefix_or_prefix_of_prefix (List.prefix_append _ _) hp).elim hother.1 hother.2

/-! ## Lists -/

/-- Lists of one thing at least, by their first thing and the others. -/
theorem decodes_cons {text : List α → List Char} {parts : α × List α → List Char}
    {ends : List Char → Prop} {same : List α → List α → Prop} {valid : α → Prop}
    (h : Decodes parts ends (fun xs ys => same (xs.1 :: xs.2) (ys.1 :: ys.2))
      fun xs => ∀ x ∈ xs.1 :: xs.2, valid x)
    (htext : ∀ x xs, text (x :: xs) = parts (x, xs)) :
    Decodes text ends same fun xs => xs.isEmpty = false ∧ ∀ x ∈ xs, valid x := by
  intro xs ys rest more hxs hys hr hm e
  cases xs with
  | nil => cases hxs.1
  | cons x xs =>
    cases ys with
    | nil => cases hys.1
    | cons y ys =>
      rw [htext, htext] at e
      exact h (x, xs) (y, ys) rest more hxs.2 hys.2 hr hm e

/-- Things with a comma between them, one at least. -/
theorem Decodes.list {text : α → List Char} {same : α → α → Prop} {valid : α → Prop}
    {comma : String} {later : List String} {list : List α → List Char}
    (h : Decodes text (Follows (comma :: later)) same valid) (hc : clear comma later = true)
    (hlist : ∀ x xs, list (x :: xs) = text x ++ xs.flatMap fun x => comma.toList ++ text x) :
    Decodes list (Follows later) (List.Forall₂ same)
      (fun xs => xs.isEmpty = false ∧ ∀ x ∈ xs, valid x) := by
  have hmore : Decodes (fun xs : List α => xs.flatMap fun x => comma.toList ++ text x)
      (Follows later) (List.Forall₂ same) (fun xs => ∀ x ∈ xs, valid x) := by
    refine (h.behind comma).many (fun rest hr => hr.mono fun _ => List.mem_cons_of_mem _) ?_ ?_
    · intro x rest _
      rw [List.append_assoc]
      exact follows_append List.mem_cons_self _
    · intro x rest _
      rw [List.append_assoc]
      exact not_follows hc _
  have hpair : Decodes
      (fun xs : α × List α => text xs.1 ++ xs.2.flatMap fun x => comma.toList ++ text x)
      (Follows later) (fun xs ys => same xs.1 ys.1 ∧ List.Forall₂ same xs.2 ys.2)
      (fun xs => ∀ x ∈ xs.1 :: xs.2, valid x) := by
    refine (h.on Prod.fst fun xs hxs => hxs _ List.mem_cons_self).seq
      (hmore.on Prod.snd fun xs hxs x hx => hxs x (List.mem_cons_of_mem _ hx)) ?_
    rintro ⟨x, xs⟩ rest - hr
    cases xs with
    | nil => exact hr.mono fun _ => List.mem_cons_of_mem _
    | cons next xs =>
      rw [List.flatMap_cons, List.append_assoc, List.append_assoc]
      exact follows_append List.mem_cons_self _
  exact decodes_cons (hpair.same_mono fun _ _ _ _ hs => .cons hs.1 hs.2) hlist

/-! ## Clauses -/

/-- A clause that is there or left out. -/
def clauseText (keyword : String) (absent : Bool) (body : List Char) : List Char :=
  if absent then [] else keyword.toList ++ body

/-- A clause that may be left out, and is told apart before some later ones; whatever it or one of
them may end, it ends. -/
structure DecodesClause (keyword : String) (later : List String) (text : α → List Char)
    (same : α → α → Prop) (valid : α → Prop) : Prop where
  decodes : Decodes text (Follows later) same valid
  follows : ∀ x rest, valid x → Follows later rest → Follows (keyword :: later) (text x ++ rest)

section Clauses
variable {keyword : String} {later : List String} {same : α → α → Prop} {valid : α → Prop}

theorem Decodes.clause {text body : α → List Char} {absent : α → Bool}
    (h : Decodes body (Follows later) same fun x => absent x = false ∧ valid x)
    (hsame : ∀ x y, absent x = true → absent y = true → same x y)
    (hk : clear keyword later = true)
    (htext : ∀ x, text x = clauseText keyword (absent x) (body x)) :
    DecodesClause keyword later text same valid := by
  constructor
  · intro x y rest more hx hy hr hm e
    rw [htext, htext] at e
    unfold clauseText at e
    cases hax : absent x <;> cases hay : absent y <;>
      simp only [hax, hay, if_true, if_neg Bool.false_ne_true, List.nil_append] at e
    · exact h.behind keyword x y rest more ⟨hax, hx⟩ ⟨hay, hy⟩ hr hm e
    -- Were the clause there once only, its keyword would stand where only later ones may.
    · rw [← e, List.append_assoc] at hm
      exact absurd hm (not_follows hk _)
    · rw [e, List.append_assoc] at hr
      exact absurd hr (not_follows hk _)
    · exact ⟨hsame x y hax hay, e⟩
  · intro x rest _ hr
    rw [htext, clauseText]
    cases absent x with
    | true => exact hr.mono fun _ => List.mem_cons_of_mem _
    | false =>
      rw [if_neg Bool.false_ne_true, List.append_assoc]
      exact follows_append List.mem_cons_self _

theorem DecodesClause.on {text : α → List Char} (h : DecodesClause keyword later text same valid)
    (part : β → α) {whole : β → Prop} (hw : ∀ b, whole b → valid (part b)) :
    DecodesClause keyword later (fun b => text (part b))
      (fun b c => same (part b) (part c)) whole :=
  ⟨h.decodes.on part hw, fun b rest hb => h.follows (part b) rest (hw b hb)⟩

/-- Two texts with a keyword between them. -/
theorem Decodes.seq_behind {text next : α → List Char} {ends : List Char → Prop}
    {same' : α → α → Prop} (h : Decodes text (Follows (keyword :: later)) same valid)
    (hn : Decodes next ends same' valid) :
    Decodes (fun x => text x ++ (keyword.toList ++ next x)) ends
      (fun x y => same x y ∧ same' x y) valid :=
  h.seq (hn.behind keyword) fun x rest _ _ => by
    rw [List.append_assoc]
    exact follows_append List.mem_cons_self _

/-- A text with a clause behind it. -/
theorem Decodes.before {text clause : α → List Char} {same' : α → α → Prop}
    (h : Decodes text (Follows (keyword :: later)) same valid)
    (hc : DecodesClause keyword later clause same' valid) :
    Decodes (fun x => text x ++ clause x) (Follows later) (fun x y => same x y ∧ same' x y) valid :=
  h.seq hc.decodes hc.follows

end Clauses

end CrudQuery.Text
