import CrudQuery.Proofs.Sql.Layout

/-! # The characters of a rendered text

Words are checked in one walk over a query and written in another.  That no place is written without
having been checked shows in what the text consists of: a small alphabet, in which the double quote
occurs only if the dialect quotes, and then only around single words.  The raw text of a join is the
one place that is not checked; without such text there is no way into the statement.
-/

namespace CrudQuery.Sql

/-- A text in which the double quotes pair up from left to right, each pair around one word. -/
inductive Quoted : List Char → Prop
  | done {text : List Char} (bare : '"' ∉ text) : Quoted text
  | pair {before word rest : List Char} (bare : '"' ∉ before) (single : isWord word = true)
      (more : Quoted rest) : Quoted (before ++ '"' :: (word ++ '"' :: rest))

theorem Quoted.after_bare {before text : List Char} (h : '"' ∉ before) (ht : Quoted text) :
    Quoted (before ++ text) := by
  cases ht with
  | done bare => exact .done fun hm => (List.mem_append.mp hm).elim h bare
  | pair bare single more =>
    rw [← List.append_assoc]
    exact .pair (fun hm => (List.mem_append.mp hm).elim h bare) single more

theorem Quoted.append {text more : List Char} (ht : Quoted text) (hm : Quoted more) :
    Quoted (text ++ more) := by
  induction ht with
  | done bare => exact hm.after_bare bare
  | pair bare single rest ih =>
    have h := Quoted.pair bare single ih
    simpa using h

theorem quoted_inQuotes {word : List Char} (h : isWord word = true) : Quoted (inQuotes word) :=
  .pair List.not_mem_nil h (.done List.not_mem_nil)

/-- The characters a text may hold, in a dialect. -/
def InAlphabet (quoting : Quoting) (c : Char) : Prop :=
  isPlain c = true ∨ c = ':' ∨ (c = '"' ∧ quoting = .doubleQuoted)

theorem isPlain_of_isWordPart {c : Char} (h : isWordPart c = true) : isPlain c = true := by
  unfold isWordPart isWordStart at h
  simp only [Bool.or_eq_true, beq_iff_eq] at h
  rcases h with (halpha | rfl) | hdigit
  · simp [isPlain, Char.isAlphanum, halpha]
  · decide
  · simp [isPlain, Char.isAlphanum, hdigit]

/-- A name is written in the alphabet, and with quotes around its words or with none. -/
theorem alphabet_identifier {quoting : Quoting} {name : String}
    (h : isDottedWord name.toList = true) :
    (∀ c ∈ quoting.write name, InAlphabet quoting c) ∧ Quoted (quoting.write name) := by
  constructor
  · intro c hc
    rcases mem_write_identifier h hc with hpart | rfl | hquote
    · exact .inl (isPlain_of_isWordPart hpart)
    · exact .inl (by decide)
    · exact .inr (.inr hquote)
  · cases quoting with
    | plain =>
      refine .done fun hm => ?_
      rcases mem_write_identifier h hm with hpart | hdot | ⟨-, hplain⟩
      · exact absurd hpart (by decide)
      · exact absurd hdot (by decide)
      · cases hplain
    | doubleQuoted =>
      rcases isDottedWord_iff.mp h with hw | ⟨table, column, ht, hc, hs⟩
      · rw [write_doubleQuoted_word hw]
        exact quoted_inQuotes hw
      · rw [write_doubleQuoted_dotted ht hc hs]
        have hdot : '"' ∉ ['.'] := by decide
        exact (quoted_inQuotes ht).append ((quoted_inQuotes hc).after_bare hdot)

/-- A piece that is what its kind says is written in the alphabet. -/
theorem alphabet_piece {quoting : Quoting} {piece : Piece}
    (h : piece.Within fun c => isPlain c = true) :
    (∀ c ∈ piece.write quoting, InAlphabet quoting c) ∧ Quoted (piece.write quoting) := by
  cases piece with
  | verbatim text =>
    exact ⟨fun c hc => .inl (h c hc), .done fun hm => absurd (h _ hm) (by decide)⟩
  | identifier name => exact alphabet_identifier h
  | placeholder name =>
    constructor
    · intro c hc
      rcases List.mem_cons.mp hc with rfl | hc
      · exact .inr (.inl rfl)
      · exact .inl (isPlain_of_isWordPart (isWordPart_of_mem_word h hc))
    · refine .done fun hm => ?_
      rcases List.mem_cons.mp hm with hcolon | hm
      · cases hcolon
      · exact not_mem_word h (by decide) hm

theorem alphabet_write {quoting : Quoting} {pieces : List Piece}
    (h : AllWithin (fun c => isPlain c = true) pieces) :
    (∀ c ∈ write quoting pieces, InAlphabet quoting c) ∧ Quoted (write quoting pieces) := by
  induction pieces with
  | nil => exact ⟨by simp, .done List.not_mem_nil⟩
  | cons piece rest ih =>
    obtain ⟨hpiece, hrest⟩ := allWithin_cons.mp h
    obtain ⟨hin, hquoted⟩ := alphabet_piece hpiece
    obtain ⟨hinRest, hquotedRest⟩ := ih hrest
    rw [write_cons]
    exact ⟨List.forall_mem_append.mpr ⟨hin, hinRest⟩, hquoted.append hquotedRest⟩

/-- **No unchecked text reaches a statement.**  When the joins that a select writes have no raw
text, the text of a rendered query consists of letters, digits, blanks and a few signs; a dialect
that quotes adds double quotes, which pair up around single words. -/
theorem text_alphabet {quoting : Quoting} {query : Query} {rendered : Rendered}
    (h : (render quoting query).outcome = .ok rendered)
    (raw : query.operation = .select → ∀ join ∈ query.joins, join.predicate = "") :
    (∀ c ∈ rendered.text.toList, InAlphabet quoting c) ∧ Quoted rendered.text.toList := by
  obtain ⟨ha, -, htext, -⟩ := render_eq h
  rw [htext]
  refine alphabet_write (ha.pieces_within (fun c hc => hc) fun ho join hj c hc => ?_)
  rw [raw ho join hj] at hc
  cases hc

theorem text_alphabet_joined :
    let query : Query := { Query.blank .select "users" with
      fields := [⟨"u.id", some "key"⟩, ⟨"*", none⟩]
      conditions := [⟨"u.age", .between, .list [.text "20", .text "30"], .or, "age"⟩]
      joins := [⟨.fullOuter, "teams", ""⟩]
      ordering := [⟨"u.id", .descending⟩] }
    ∃ rendered, (render .doubleQuoted query).outcome = .ok rendered ∧
      (∀ c ∈ rendered.text.toList, InAlphabet .doubleQuoted c) ∧ Quoted rendered.text.toList := by
  intro query
  obtain ⟨rendered, h⟩ := Except.exists_of_isOk
    (show (render .doubleQuoted query).outcome.isOk = true by decide +kernel)
  exact ⟨rendered, h, text_alphabet h fun _ => by decide⟩

end CrudQuery.Sql
