import CrudQuery.Proofs.Draft
import CrudQuery.Proofs.Number.Notation
import CrudQuery.Proofs.Sql.Acceptance
import CrudQuery.Proofs.Sql.Decoding

/-! # What is written behind LIMIT and OFFSET

A page bound is any natural number, and what is written of it is its text.  So a statement ends with
integer literals exactly when its page bounds are below `10 ^ 21`, where the text of a number turns
to an exponent: `LIMIT 1e+21` is written for a bound that no check refuses.

What stands behind the keywords is read off the text and not off the query.  The text of the same
query without its page bounds is the front of the statement, so that a join predicate, which may
hold the words as well, is not taken for the clause; behind the front, texts without breaks are told
apart in one way only.
-/

namespace CrudQuery

/-- A query without its page bounds. -/
def Query.withoutPage (query : Query) : Query := { query with limit? := none, offset? := none }

namespace Sql
open Text Number

/-- A text that goes on behind its front with page bounds, each of which is an integer literal. -/
def EndsInNumerals (front text : String) : Prop :=
  ∃ limit? offset? : Option String,
    text = front ++ pageText .limit limit? ++ pageText .offset offset? ∧
      (∀ operand, limit? = some operand → IsNumeral operand) ∧
      ∀ operand, offset? = some operand → IsNumeral operand

theorem solid_of_isNumeral {operand : String} (h : IsNumeral operand) : Solid operand.toList :=
  fun c hc => isBreak_of_isUnsigned (.inl (h.2 c hc))

/-- Operands without breaks are told apart behind the same front. -/
theorem decodes_operands :
    Decodes (fun operands : Option String × Option String =>
        (pageText .limit operands.1).toList ++ (pageText .offset operands.2).toList)
      (Follows []) (fun operands others => operands.1 = others.1 ∧ operands.2 = others.2)
      fun operands => (∀ operand, operands.1 = some operand → Solid operand.toList) ∧
        ∀ operand, operands.2 = some operand → Solid operand.toList := by
  have hlimit := clauseDecodes_operand .limit
    (show clear (pageKeyword .limit) [pageKeyword .offset] = true by decide) (by decide)
  have hoffset := clauseDecodes_operand .offset
    (show clear (pageKeyword .offset) [] = true by decide) (by decide)
  exact (hlimit.decodes.on Prod.fst fun _ h => h.1).before (hoffset.on Prod.snd fun _ h => h.2)

/-- Whether a text ends in numerals is decided by the operands it was written with. -/
theorem endsInNumerals_iff {front : String} {limit? offset? : Option String}
    (hl : ∀ operand, limit? = some operand → Solid operand.toList)
    (ho : ∀ operand, offset? = some operand → Solid operand.toList) :
    EndsInNumerals front (front ++ pageText .limit limit? ++ pageText .offset offset?) ↔
      (∀ operand, limit? = some operand → IsNumeral operand) ∧
        ∀ operand, offset? = some operand → IsNumeral operand := by
  constructor
  · rintro ⟨first?, last?, htext, hfirst, hlast⟩
    have hchars := congrArg String.toList htext
    simp only [String.toList_append, List.append_assoc] at hchars
    obtain ⟨⟨rfl, rfl⟩, -⟩ := decodes_operands (limit?, offset?) (first?, last?) [] []
      ⟨hl, ho⟩ ⟨fun operand h => solid_of_isNumeral (hfirst operand h),
        fun operand h => solid_of_isNumeral (hlast operand h)⟩
      (follows_nil []) (follows_nil [])
      (congrArg (· ++ []) (List.append_cancel_left hchars))
    exact ⟨hfirst, hlast⟩
  · rintro ⟨hlimit, hoffset⟩
    exact ⟨limit?, offset?, rfl, hlimit, hoffset⟩

/-! ## The front of a statement -/

/-- Nothing but the page bounds depends on the page bounds. -/
theorem Renderable.withoutPage {query : Query} (h : Renderable query) :
    Renderable query.withoutPage where
  valid := h.valid
  pages := ⟨nofun, nofun⟩
  words := ⟨h.words.target, h.words.fields, h.words.conditions, h.words.joins, h.words.ordering,
    h.words.grouping, h.words.rows, h.words.updates, h.words.returning⟩
  operation := h.operation
  statement := ⟨h.statement.conditions, h.statement.columns, h.statement.uniform⟩
  distinct := h.distinct

theorem queryPieces_withoutPage {query : Query} (hselect : query.operation = .select) :
    queryPieces query = queryPieces query.withoutPage ++ pageClause .limit query.limit? ++
      pageClause .offset query.offset? := by
  have hwithout : query.withoutPage.operation = .select := hselect
  unfold queryPieces
  rw [hselect, hwithout]
  simp only [Query.withoutPage, pageClause, List.append_nil]

/-- A select is its front with the texts of its page bounds behind it. -/
theorem text_of_render {quoting : Quoting} {query : Query} {rendered front : Rendered}
    (hselect : query.operation = .select) (h : (render quoting query).outcome = .ok rendered)
    (hf : (render quoting query.withoutPage).outcome = .ok front) :
    rendered.text = front.text ++ pageText .limit (boundText? query.limit?) ++
      pageText .offset (boundText? query.offset?) := by
  obtain ⟨-, -, htext, -⟩ := render_eq h
  obtain ⟨-, -, hfront, -⟩ := render_eq hf
  refine String.toList_inj.mp ?_
  rw [htext, queryPieces_withoutPage hselect, write_append, write_append, write_pageClause,
    write_pageClause, String.toList_append, String.toList_append, hfront]

/-- The bounds of a page, one by one. -/
theorem forall_page {query : Query} {p : Float → Prop} :
    (∀ bound value, query.page? bound = some value → p value) ↔
      (∀ value, query.limit? = some value → p value) ∧
        ∀ value, query.offset? = some value → p value := by
  constructor
  · exact fun h => ⟨h .limit, h .offset⟩
  · rintro ⟨hlimit, hoffset⟩ bound
    cases bound with
    | limit => exact hlimit
    | offset => exact hoffset

/-- The text of a bound that the checks let pass is a numeral if the bound is not too large. -/
theorem isNumeral_boundText_iff {value? : Option Float}
    (h : ∀ value, value? = some value → Query.isPageBound value = true) :
    (∀ operand, boundText? value? = some operand → IsNumeral operand) ↔
      ∀ value, value? = some value → ∃ n : Nat, toInt? value = some (n : Int) ∧ n < tenTo 21 := by
  cases value? with
  | none => exact ⟨fun _ => nofun, fun _ => nofun⟩
  | some value =>
    obtain ⟨n, hn⟩ := Query.isPageBound_iff.mp (h value rfl)
    simp only [boundText?, Option.map_some, Option.some.injEq, forall_eq', isNumeral_text_iff hn]
    constructor
    · exact fun hlt => ⟨n, hn, hlt⟩
    · rintro ⟨m, hm, hlt⟩
      rw [hn, Option.some.injEq, Int.natCast_inj] at hm
      exact hm ▸ hlt

/-- **The operands of LIMIT and OFFSET.**  A select that renders also renders without its page
bounds, and its text is that front with the texts of the page bounds behind it.  They are integer
literals, each of them and the whole end of the statement as it can be read, exactly as long as they
are below the twenty-first power of ten. -/
theorem page_operands {quoting : Quoting} {query : Query} {rendered : Rendered}
    (hselect : query.operation = .select) (h : (render quoting query).outcome = .ok rendered) :
    ∃ front, (render quoting query.withoutPage).outcome = .ok front ∧
      rendered.text = front.text ++ pageText .limit (boundText? query.limit?) ++
        pageText .offset (boundText? query.offset?) ∧
      (∀ bound value, query.page? bound = some value →
        ∃ n : Nat, toInt? value = some (n : Int) ∧ (IsNumeral (text value) ↔ n < tenTo 21)) ∧
      (EndsInNumerals front.text rendered.text ↔ ∀ bound value, query.page? bound = some value →
        ∃ n : Nat, toInt? value = some (n : Int) ∧ n < tenTo 21) := by
  obtain ⟨haccepted, -⟩ := render_eq h
  obtain ⟨front, hfront⟩ :=
    (exists_render_iff quoting).mpr ((exists_render_iff quoting).mp ⟨rendered, h⟩).withoutPage
  have htext := text_of_render hselect h hfront
  refine ⟨front, hfront, htext, ?_, ?_⟩
  · have hbound := forall_page.mpr ⟨haccepted.limit, haccepted.offset⟩
    intro bound value hvalue
    obtain ⟨n, hn⟩ := Query.isPageBound_iff.mp (hbound bound value hvalue)
    exact ⟨n, hn, isNumeral_text_iff hn⟩
  · rw [htext, endsInNumerals_iff (solid_boundText haccepted.limit)
      (solid_boundText haccepted.offset), isNumeral_boundText_iff haccepted.limit,
      isNumeral_boundText_iff haccepted.offset]
    exact forall_page.symm

/-- A large bound that still has its digits, and negative zero. -/
theorem page_operands_large :
    let query := { Query.blank .select "users" with limit? := some 1e20, offset? := some (-0.0) }
    ∃ rendered front, query.operation = .select ∧
      (render .plain query).outcome = .ok rendered ∧
      (render .plain query.withoutPage).outcome = .ok front ∧
      rendered.text = "SELECT * FROM users LIMIT 100000000000000000000 OFFSET 0" ∧
      EndsInNumerals front.text rendered.text := by
  intro query
  obtain ⟨rendered, hrendered⟩ := Except.exists_of_isOk
    (show (render .plain query).outcome.isOk = true by decide +kernel)
  obtain ⟨front, hfront, -, -, hnumerals⟩ := page_operands rfl hrendered
  obtain ⟨-, -, htext, -⟩ := render_eq hrendered
  refine ⟨rendered, front, rfl, hrendered, hfront, ?_, hnumerals.mpr (forall_page.mpr ⟨?_, ?_⟩)⟩
  · exact String.toList_inj.mp (htext.trans (by decide +kernel))
  · rintro value ⟨⟩
    exact ⟨100000000000000000000, by decide +kernel, by decide⟩
  · rintro value ⟨⟩
    exact ⟨0, by decide +kernel, by decide⟩

/-- The first bound that is written with an exponent. -/
theorem page_operand_exponent :
    let query := { Query.blank .select "users" with limit? := some 1e21 }
    ∃ rendered front, (render .plain query).outcome = .ok rendered ∧
      (render .plain query.withoutPage).outcome = .ok front ∧
      front.text = "SELECT * FROM users" ∧ rendered.text = "SELECT * FROM users LIMIT 1e+21" ∧
      ¬ EndsInNumerals front.text rendered.text := by
  intro query
  obtain ⟨rendered, hrendered⟩ := Except.exists_of_isOk
    (show (render .plain query).outcome.isOk = true by decide +kernel)
  obtain ⟨front, hfront⟩ := Except.exists_of_isOk
    (show (render .plain query.withoutPage).outcome.isOk = true by decide +kernel)
  obtain ⟨haccepted, -, htext, -⟩ := render_eq hrendered
  obtain ⟨-, -, hfrontText, -⟩ := render_eq hfront
  refine ⟨rendered, front, hrendered, hfront, ?_, ?_, fun hnumerals => ?_⟩
  · exact String.toList_inj.mp (hfrontText.trans (by decide +kernel))
  · exact String.toList_inj.mp (htext.trans (by decide +kernel))
  · rw [text_of_render rfl hrendered hfront, endsInNumerals_iff
      (solid_boundText haccepted.limit) (solid_boundText haccepted.offset)] at hnumerals
    have hdigits := (hnumerals.1 (text 1e21) rfl).2
    exact absurd (hdigits 'e' (by decide +kernel)) (by decide)

end Sql

end CrudQuery
