import CrudQuery.Query.Validity
import CrudQuery.Sql.Statement
import CrudQuery.Sql.Word
import Mathlib.Data.List.Basic

/-! # Words, and the names that are made from them

A word is a letter or underscore followed by letters, digits and underscores; an identifier is one
word, or two with a dot between them.  Everything a statement derives from an identifier is a word
again: the parameter name of a field, the same name behind a word, and the same name before an
underscore and a number.
-/

namespace CrudQuery.Text

theorem parts_of_not_mem {separator : Char} {cs : List Char} (h : separator ∉ cs) :
    parts separator cs = [cs] := by
  induction cs with
  | nil => rfl
  | cons c rest ih =>
    simp only [List.mem_cons, not_or] at h
    have hc : c ≠ separator := fun e => h.1 e.symm
    simp [parts, ih h.2, hc]

theorem parts_append_separator {separator : Char} (xs ys : List Char) :
    parts separator (xs ++ separator :: ys) = parts separator xs ++ parts separator ys := by
  induction xs with
  | nil =>
    cases h : parts separator ys with
    | nil => exact absurd h (parts_ne_nil separator ys)
    | cons part others => simp [parts, h]
  | cons c rest ih =>
    cases h : parts separator rest with
    | nil => exact absurd h (parts_ne_nil separator rest)
    | cons part others =>
      rw [h] at ih
      simp only [List.cons_append, parts, ih, h]
      split <;> rfl

end CrudQuery.Text

namespace CrudQuery.Sql

/-! ## Characters of words -/

theorem isWordPart_of_isWordStart {c : Char} (h : isWordStart c = true) : isWordPart c = true := by
  simp [isWordPart, h]

/-- A word is not empty and holds nothing but letters, digits and underscores. -/
theorem isWord_iff {cs : List Char} :
    isWord cs = true ↔
      ∃ c rest, cs = c :: rest ∧ isWordStart c = true ∧ ∀ d ∈ rest, isWordPart d = true := by
  cases cs <;> simp [isWord]

theorem ne_nil_of_isWord {cs : List Char} (h : isWord cs = true) : cs ≠ [] := by
  obtain ⟨c, rest, rfl, -, -⟩ := isWord_iff.mp h
  simp

theorem isWordPart_of_mem_word {cs : List Char} (h : isWord cs = true) {c : Char} (hc : c ∈ cs) :
    isWordPart c = true := by
  obtain ⟨d, rest, rfl, hd, hrest⟩ := isWord_iff.mp h
  rcases List.mem_cons.mp hc with rfl | hc
  · exact isWordPart_of_isWordStart hd
  · exact hrest c hc

/-- The letters come behind the digits. -/
theorem isDigit_of_isAlpha {c : Char} (h : c.isAlpha = true) : c.isDigit = false := by
  rw [← Bool.not_eq_true, Char.isDigit_iff_toNat]
  rintro ⟨-, hdigit⟩
  have hletter : 'A'.toNat ≤ c.toNat := by
    rcases (Bool.or_eq_true _ _).mp h with hupper | hlower
    · exact (of_decide_eq_true hupper).1
    · have hlow : 'a'.toNat ≤ c.toNat := of_decide_eq_true ((Bool.and_eq_true _ _).mp hlower).1
      exact Nat.le_trans (by decide) hlow
  exact absurd (Nat.le_trans hletter hdigit) (by decide)

/-- What starts a word is no digit. -/
theorem isDigit_of_isWordStart {c : Char} (h : isWordStart c = true) : c.isDigit = false := by
  rcases (Bool.or_eq_true _ _).mp h with halpha | hunder
  · exact isDigit_of_isAlpha halpha
  · rw [beq_iff_eq.mp hunder]
    decide

theorem isWordStart_of_head_word {cs : List Char} (h : isWord cs = true) {c : Char}
    (hc : c ∈ cs.head?) : isWordStart c = true := by
  obtain ⟨d, rest, rfl, hd, -⟩ := isWord_iff.mp h
  obtain rfl : d = c := by simpa using hc
  exact hd

/-- No word starts with a digit. -/
theorem isDigit_of_head_word {cs : List Char} (h : isWord cs = true) {c : Char}
    (hc : c ∈ cs.head?) : c.isDigit = false :=
  isDigit_of_isWordStart (isWordStart_of_head_word h hc)

/-- A character that no word holds stands in no word. -/
theorem not_mem_word {cs : List Char} (h : isWord cs = true) {c : Char}
    (hc : isWordPart c = false) : c ∉ cs := by
  intro hm
  rw [isWordPart_of_mem_word h hm] at hc
  cases hc

theorem isWord_append {xs ys : List Char} (hx : isWord xs = true)
    (hy : ∀ c ∈ ys, isWordPart c = true) : isWord (xs ++ ys) = true := by
  obtain ⟨c, rest, rfl, hc, hrest⟩ := isWord_iff.mp hx
  refine isWord_iff.mpr ⟨c, rest ++ ys, rfl, hc, ?_⟩
  intro d hd
  exact (List.mem_append.mp hd).elim (hrest d) (hy d)

/-- **Identifiers.** One word, or two with a dot between them. -/
theorem isDottedWord_iff {cs : List Char} :
    isDottedWord cs = true ↔ isWord cs = true ∨
      ∃ table name, isWord table = true ∧ isWord name = true ∧ cs = table ++ '.' :: name := by
  constructor
  · intro h
    have whole := Text.intercalate_parts '.' cs
    unfold isDottedWord at h
    split at h
    · next name hparts =>
      rw [hparts] at whole
      exact .inl (by simpa [List.intercalate, ← whole] using h)
    · next table name hparts =>
      rw [hparts] at whole
      rw [Bool.and_eq_true] at h
      exact .inr ⟨table, name, h.1, h.2, by simpa [List.intercalate] using whole.symm⟩
    · cases h
  · rintro (h | ⟨table, name, ht, hn, rfl⟩)
    · have hp := Text.parts_of_not_mem (not_mem_word h (c := '.') (by decide))
      simp [isDottedWord, hp, h]
    · have hpt := Text.parts_of_not_mem (not_mem_word ht (c := '.') (by decide))
      have hpn := Text.parts_of_not_mem (not_mem_word hn (c := '.') (by decide))
      simp [isDottedWord, Text.parts_append_separator, hpt, hpn, ht, hn]

theorem isDottedWord_of_isWord {cs : List Char} (h : isWord cs = true) : isDottedWord cs = true :=
  isDottedWord_iff.mpr (.inl h)

theorem isDottedWord_of_isIdentifier {s : String} (h : isIdentifier s = true) :
    isDottedWord s.toList = true := by
  unfold isIdentifier at h
  exact (Bool.and_eq_true _ _ ▸ h).1

/-- An identifier starts like its first word. -/
theorem isWordStart_of_head_identifier {s : String} (h : isIdentifier s = true) {c : Char}
    (hc : c ∈ s.toList.head?) : isWordStart c = true := by
  rcases isDottedWord_iff.mp (isDottedWord_of_isIdentifier h) with hw | ⟨table, name, ht, -, hs⟩
  · exact isWordStart_of_head_word hw hc
  · rw [hs, List.head?_append_of_ne_nil _ (ne_nil_of_isWord ht)] at hc
    exact isWordStart_of_head_word ht hc

/-- No identifier starts with a digit. -/
theorem isDigit_of_head_identifier {s : String} (h : isIdentifier s = true) {c : Char}
    (hc : c ∈ s.toList.head?) : c.isDigit = false :=
  isDigit_of_isWordStart (isWordStart_of_head_identifier h hc)

/-! ## Names made from names -/

theorem toList_parameterName (field : String) :
    (parameterName field).toList = field.toList.map fun c => if c = '.' then '_' else c :=
  String.toList_map

/-- Where there is no dot the replacement changes nothing. -/
theorem map_undot_of_not_mem {cs : List Char} (h : '.' ∉ cs) :
    cs.map (fun c => if c = '.' then '_' else c) = cs := by
  refine (List.map_congr_left fun c hc => ?_).trans (List.map_id cs)
  have hne : c ≠ '.' := fun e => h (e ▸ hc)
  exact if_neg hne

theorem parameterName_of_not_mem {field : String} (h : '.' ∉ field.toList) :
    parameterName field = field :=
  String.toList_inj.mp ((toList_parameterName field).trans (map_undot_of_not_mem h))

/-- Different names without dots are bound under different names. -/
theorem nodup_parameterNames {fields : List String} (hn : fields.Nodup)
    (hdots : ∀ field ∈ fields, '.' ∉ field.toList) : (fields.map parameterName).Nodup := by
  have hsame : fields.map parameterName = fields :=
    (List.map_congr_left fun field hfield => parameterName_of_not_mem (hdots field hfield)).trans
      (List.map_id fields)
  rwa [hsame]

theorem isWord_parameterName {field : String} (h : isDottedWord field.toList = true) :
    isWord (parameterName field).toList = true := by
  -- No word holds a dot, so only the dot between two words counts.
  have keeps : ∀ cs : List Char, isWord cs = true →
      cs.map (fun c => if c = '.' then '_' else c) = cs :=
    fun cs hcs => map_undot_of_not_mem (not_mem_word hcs (by decide))
  rw [toList_parameterName]
  rcases isDottedWord_iff.mp h with hw | ⟨table, name, ht, hn, hs⟩
  · rw [keeps _ hw]
    exact hw
  · rw [hs, List.map_append, List.map_cons, keeps _ ht, keeps _ hn]
    refine isWord_append ht fun c hc => ?_
    rcases List.mem_cons.mp hc with rfl | hc
    · decide
    · exact isWordPart_of_mem_word hn hc

theorem isWordPart_of_mem_repr {n : Nat} {c : Char} (h : c ∈ n.repr.toList) :
    isWordPart c = true := by
  rw [Nat.toList_repr] at h
  simp [isWordPart, Nat.isDigit_of_mem_toDigits (by decide) (by decide) h]

/-- A word behind which letters, digits and underscores are written. -/
theorem isWord_toList_append {s t : String} (hs : isWord s.toList = true)
    (ht : ∀ c ∈ t.toList, isWordPart c = true) : isWord (s ++ t).toList = true := by
  rw [String.toList_append]
  exact isWord_append hs ht

/-- A word before which another word is written. -/
theorem isWord_prepend {front name : String} (hf : isWord front.toList = true)
    (hn : isWord name.toList = true) : isWord (front ++ name).toList = true :=
  isWord_toList_append hf fun _ hc => isWordPart_of_mem_word hn hc

/-- The parameter name of a cell in a numbered row. -/
theorem isWord_numbered {name : String} (h : isWord name.toList = true) (row : Nat) :
    isWord (name ++ "_" ++ row.repr).toList = true := by
  have hnamed : isWord (name ++ "_").toList = true :=
    isWord_toList_append h (List.all_eq_true.mp (by decide))
  exact isWord_toList_append hnamed fun c hc => isWordPart_of_mem_repr hc

/-! ## Identifiers as a dialect writes them -/

theorem write_plain (s : String) : Quoting.plain.write s = s.toList := rfl

theorem write_doubleQuoted_word {s : String} (h : isWord s.toList = true) :
    Quoting.doubleQuoted.write s = inQuotes s.toList := by
  have hp := Text.parts_of_not_mem (not_mem_word h (c := '.') (by decide))
  simp [Quoting.write, hp, List.intercalate]

theorem write_doubleQuoted_dotted {s : String} {table name : List Char}
    (ht : isWord table = true) (hn : isWord name = true) (hs : s.toList = table ++ '.' :: name) :
    Quoting.doubleQuoted.write s = inQuotes table ++ '.' :: inQuotes name := by
  have hpt := Text.parts_of_not_mem (not_mem_word ht (c := '.') (by decide))
  have hpn := Text.parts_of_not_mem (not_mem_word hn (c := '.') (by decide))
  simp [Quoting.write, hs, Text.parts_append_separator, hpt, hpn, List.intercalate]

/-- The characters an identifier is written with. -/
theorem mem_write_identifier {quoting : Quoting} {s : String} (h : isDottedWord s.toList = true)
    {c : Char} (hc : c ∈ quoting.write s) :
    isWordPart c = true ∨ c = '.' ∨ (c = '"' ∧ quoting = .doubleQuoted) := by
  have hword : ∀ word : List Char, isWord word = true → c ∈ inQuotes word →
      isWordPart c = true ∨ c = '"' := by
    intro word hw hm
    simp only [inQuotes, List.cons_append, List.mem_cons, List.mem_append, List.not_mem_nil,
      or_false] at hm
    rcases hm with rfl | hm | rfl
    · exact .inr rfl
    · exact .inl (isWordPart_of_mem_word hw hm)
    · exact .inr rfl
  rcases isDottedWord_iff.mp h with hw | ⟨table, name, ht, hn, hs⟩
  · cases quoting with
    | plain => exact .inl (isWordPart_of_mem_word hw hc)
    | doubleQuoted =>
      rw [write_doubleQuoted_word hw] at hc
      exact (hword _ hw hc).imp_right fun e => .inr ⟨e, rfl⟩
  · cases quoting with
    | plain =>
      rw [write_plain, hs] at hc
      rcases List.mem_append.mp hc with hc | hc
      · exact .inl (isWordPart_of_mem_word ht hc)
      · rcases List.mem_cons.mp hc with rfl | hc
        · exact .inr (.inl rfl)
        · exact .inl (isWordPart_of_mem_word hn hc)
    | doubleQuoted =>
      rw [write_doubleQuoted_dotted ht hn hs] at hc
      rcases List.mem_append.mp hc with hc | hc
      · exact (hword _ ht hc).imp_right fun e => .inr ⟨e, rfl⟩
      · rcases List.mem_cons.mp hc with rfl | hc
        · exact .inr (.inl rfl)
        · exact (hword _ hn hc).imp_right fun e => .inr ⟨e, rfl⟩

/-- Quoting adds quotes and nothing else. -/
theorem filter_write_identifier {quoting : Quoting} {name : String}
    (h : isDottedWord name.toList = true) :
    (quoting.write name).filter (· != '"') = name.toList := by
  have hword : ∀ word : List Char, isWord word = true → word.filter (· != '"') = word := by
    intro word hw
    refine List.filter_eq_self.mpr fun c hc => ?_
    have : c ≠ '"' := fun e => not_mem_word hw (by decide : isWordPart '"' = false) (e ▸ hc)
    simpa using this
  rcases isDottedWord_iff.mp h with hw | ⟨table, column, ht, hc, hs⟩
  · cases quoting with
    | plain => exact hword _ hw
    | doubleQuoted => simp [write_doubleQuoted_word hw, inQuotes, hword _ hw]
  · cases quoting with
    | plain => simp [write_plain, hs, hword _ ht, hword _ hc]
    | doubleQuoted =>
      simp [write_doubleQuoted_dotted ht hc hs, hs, inQuotes, hword _ ht, hword _ hc]

/-- A dialect that quotes writes two quotes for each part of a name. -/
theorem count_write_identifier {name : String} (h : isDottedWord name.toList = true) :
    (Quoting.doubleQuoted.write name).count '"' = 2 * (Text.parts '.' name.toList).length := by
  have hword : ∀ word : List Char, isWord word = true → (inQuotes word).count '"' = 2 := by
    intro word hw
    have hbare : word.count '"' = 0 := List.count_eq_zero_of_not_mem (not_mem_word hw (by decide))
    simp [inQuotes, hbare]
  rcases isDottedWord_iff.mp h with hw | ⟨table, column, ht, hc, hs⟩
  · rw [write_doubleQuoted_word hw, hword _ hw,
      Text.parts_of_not_mem (not_mem_word hw (by decide))]
    rfl
  · rw [write_doubleQuoted_dotted ht hc hs, hs, Text.parts_append_separator,
      Text.parts_of_not_mem (not_mem_word ht (by decide)),
      Text.parts_of_not_mem (not_mem_word hc (by decide)), List.count_append, hword _ ht,
      List.count_cons_of_ne (by decide), hword _ hc]
    rfl

end CrudQuery.Sql
