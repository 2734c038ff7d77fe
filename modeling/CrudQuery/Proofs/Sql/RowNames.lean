import CrudQuery.Proofs.Sql.Acceptance
import Mathlib.Data.List.Nodup

/-! # The names of inserted values

The value of a column is bound under the name of the column, an underscore and the number of its
row.  A column may itself end in an underscore and a number, but the digits of a row have no
underscore, so the last one of a name is where the number begins (`numbered_inj`).  Columns of
different names therefore never meet, not even across rows (`tuplesOf_eq_error`), and an insert
with such columns can be refused for its rows, where the first one has no column or a later one
has others, but not for a name that is bound twice (`rowFault_of_render`).  Columns that give one
name meet in the first row already, whatever stands behind it (`insert_names`).
-/

namespace CrudQuery.Sql

/-- The number of a row and what stands before it can be read off a name. -/
theorem numbered_inj {name other : String} {number row : Nat}
    (h : name ++ "_" ++ number.repr = other ++ "_" ++ row.repr) : name = other ∧ number = row := by
  have hlists : name.toList ++ '_' :: Nat.toDigits 10 number =
      other.toList ++ '_' :: Nat.toDigits 10 row := by
    have hchars := congrArg String.toList h
    simpa [Nat.toList_repr] using hchars
  -- The longer one of the two beginnings would have an underscore among the digits behind it.
  have haligned : ∀ {cs ds : List Char} {m n : Nat} (between : List Char),
      ds = cs ++ between → '_' :: Nat.toDigits 10 m = between ++ '_' :: Nat.toDigits 10 n →
        ds = cs ∧ m = n := by
    intro cs ds m n between hds hdigits
    cases between with
    | nil =>
      obtain ⟨-, hsame⟩ := List.cons.inj hdigits
      refine ⟨hds.trans (List.append_nil cs), ?_⟩
      rw [← Nat.ofDigitChars_ten_toDigits (n := m), hsame, Nat.ofDigitChars_ten_toDigits]
    | cons c between =>
      obtain ⟨-, hbehind⟩ := List.cons.inj hdigits
      have hunderscore : '_' ∈ Nat.toDigits 10 m := by
        rw [hbehind]
        exact List.mem_append_right _ List.mem_cons_self
      exact absurd hunderscore Nat.underscore_not_in_toDigits
  rcases List.append_eq_append_iff.mp hlists with ⟨between, hname, hrow⟩ | ⟨between, hname, hrow⟩
  · obtain ⟨hsame, hnumber⟩ := haligned between hname hrow
    exact ⟨String.toList_inj.mp hsame.symm, hnumber⟩
  · obtain ⟨hsame, hnumber⟩ := haligned between hname hrow
    exact ⟨String.toList_inj.mp hsame, hnumber.symm⟩

theorem numbered_injective (number : Nat) :
    Function.Injective fun name : String => name ++ "_" ++ number.repr :=
  fun _ _ h => (numbered_inj h).1

/-- A row binds different names if its columns have different ones. -/
theorem nodup_rowNames {row : Row} (h : (row.columns.map parameterName).Nodup) (number : Nat) :
    (rowNames number row).Nodup := by
  have hnumbered := h.map (numbered_injective number)
  rwa [List.map_map] at hnumbered

/-- The names that are bound when a row is taken are those of earlier rows. -/
def BoundBefore (number : Nat) (parameters : Parameters) : Prop :=
  ∀ name ∈ parameters.names, ∃ column, ∃ earlier < number, name = column ++ "_" ++ earlier.repr

theorem boundBefore_empty : BoundBefore 0 .empty := fun _ h => nomatch h

section Rows
variable {parameters more : Parameters} {number : Nat}

/-- A row whose columns have different names can be bound behind earlier rows. -/
theorem exists_bindAll_row (hbefore : BoundBefore number parameters) {row : Row}
    (h : (row.columns.map parameterName).Nodup) :
    ∃ more, parameters.bindAll (row.map (cellBinding number)) = .ok more := by
  rw [exists_bindAll_iff, names_row]
  refine List.nodup_append.mpr ⟨parameters.names_nodup, nodup_rowNames h number, ?_⟩
  intro name hname other hother hsame
  obtain ⟨column, earlier, hearlier, rfl⟩ := hbefore name hname
  obtain ⟨own, -, rfl⟩ := List.mem_map.mp hother
  exact absurd (numbered_inj hsame).2 (Nat.ne_of_lt hearlier)

/-- The names of a row are added to those of earlier rows. -/
theorem BoundBefore.bindAll (hbefore : BoundBefore number parameters) {row : Row}
    (h : parameters.bindAll (row.map (cellBinding number)) = .ok more) :
    BoundBefore (number + 1) more := by
  intro name hname
  rw [names_of_bindAll h, List.mem_append] at hname
  rcases hname with hname | hname
  · obtain ⟨column, earlier, hearlier, he⟩ := hbefore name hname
    exact ⟨column, earlier, Nat.lt_succ_of_lt hearlier, he⟩
  · obtain ⟨binding, hbinding, rfl⟩ := List.mem_map.mp hname
    obtain ⟨cell, -, rfl⟩ := List.mem_map.mp hbinding
    exact ⟨parameterName cell.field, number, Nat.lt_succ_self number, rfl⟩

/-- **Rows whose columns have different names** fail only for the first row with other columns. -/
theorem tuplesOf_eq_error {columns : List String} {rows : List Row} {fault : Fault}
    (hdistinct : (columns.map parameterName).Nodup) (hbefore : BoundBefore number parameters)
    (h : (tuplesOf columns parameters number rows).outcome = .error fault) :
    ∃ front row behind, rows = front ++ row :: behind ∧ (∀ other ∈ front, other.columns = columns) ∧
      row.columns ≠ columns ∧
      fault = .mismatchedRow (number + front.length) columns row.columns := by
  induction rows generalizing parameters number with
  | nil => cases h
  | cons row rest ih =>
    rw [tuplesOf, Traced.outcome_check_bind_eq_error, requireColumns_eq_ok] at h
    rcases h with h | ⟨hrow, h⟩
    · unfold requireColumns at h
      split at h
      · cases h
      · next hrow =>
        cases h
        exact ⟨[], row, rest, rfl, by simp, hrow, rfl⟩
    obtain ⟨bound, hbound⟩ := exists_bindAll_row hbefore (hrow ▸ hdistinct)
    rcases Traced.outcome_bind_eq_error.mp h with h | ⟨more, hmore, h⟩
    · rw [Traced.outcome_ofExcept, hbound] at h
      cases h
    obtain ⟨front, other, behind, rfl, hfront, hother, rfl⟩ :=
      ih (hbefore.bindAll hmore) (Traced.outcome_bind_pure_eq_error.mp h)
    refine ⟨row :: front, other, behind, rfl, List.forall_mem_cons.mpr ⟨hrow, hfront⟩, hother, ?_⟩
    rw [List.length_cons, Nat.add_right_comm, Nat.add_assoc]

end Rows

/-! ## Inserts -/

section Inserts
variable {quoting : Quoting} {query : Query} {fault : Fault}

theorem insertOf_eq_error (hdistinct : (query.insertColumns.map parameterName).Nodup)
    (h : (insertOf query).outcome = .error fault) : RowFault query fault := by
  rw [insertOf_eq] at h
  split at h
  · next hempty =>
    cases h
    exact .empty (List.isEmpty_iff.mp hempty)
  · obtain ⟨front, row, behind, hrows, -, hother, rfl⟩ :=
      tuplesOf_eq_error hdistinct boundBefore_empty (Traced.outcome_bind_pure_eq_error.mp h)
    rw [Nat.zero_add]
    exact .mismatched (by simp [hrows]) hother

/-- An insert whose columns have different names is refused for its rows alone. -/
theorem rowFault_of_render (ha : Accepted query) (ho : query.operation = .insert)
    (hdistinct : (query.insertColumns.map parameterName).Nodup)
    (h : (render quoting query).outcome = .error fault) : RowFault query fault := by
  have hstep := statementOf_of_accepted ha h
  rw [statementOf, ho] at hstep
  exact insertOf_eq_error hdistinct hstep

/-- Such an insert is refused iff there is no column or a row has others than the first one. -/
theorem exists_render_eq_error_iff (ha : Accepted query) (ho : query.operation = .insert)
    (hdistinct : (query.insertColumns.map parameterName).Nodup) :
    (∃ fault, (render quoting query).outcome = .error fault) ↔
      query.insertColumns = [] ∨ ∃ row ∈ query.insertRows, row.columns ≠ query.insertColumns := by
  constructor
  · rintro ⟨fault, h⟩
    cases rowFault_of_render ha ho hdistinct h with
    | empty missing => exact .inl missing
    | mismatched found other => exact .inr ⟨_, List.mem_of_getElem? found, other⟩
  · intro h
    cases hrendered : (render quoting query).outcome with
    | error fault => exact ⟨fault, rfl⟩
    | ok rendered =>
      -- What renders has columns, and the same ones in every row.
      have hneeds := (exists_render_iff quoting).mp ⟨rendered, hrendered⟩
      rcases h with hmissing | ⟨row, hrow, hother⟩
      · exact absurd hmissing (hneeds.statement.columns ho)
      · exact absurd (hneeds.statement.uniform ho row hrow) hother

end Inserts

/-! ## Tables of rows -/

/-- An insert of a table: there is a column, and every row has the columns of the first one. -/
structure Tabular (query : Query) : Prop where
  columns : query.insertColumns ≠ []
  uniform : ∀ row ∈ query.insertRows, row.columns = query.insertColumns

/-- The first column whose parameter name an earlier column has. -/
def FirstTaken (columns : List String) (column : String) : Prop :=
  ∃ front behind, columns = front ++ column :: behind ∧ (front.map parameterName).Nodup ∧
    parameterName column ∈ front.map parameterName

section Tables
variable {query : Query}

theorem Tabular.exists_cons (h : Tabular query) :
    ∃ row rest, query.insertRows = row :: rest ∧ row.columns = query.insertColumns := by
  obtain ⟨row, rest, hrows⟩ : ∃ row rest, query.insertRows = row :: rest := by
    refine List.exists_cons_of_ne_nil fun hnone => h.columns ?_
    rw [Query.insertColumns, hnone]
    rfl
  exact ⟨row, rest, hrows, h.uniform row (hrows ▸ List.mem_cons_self)⟩

/-- Nothing is wrong with the rows of a table, so with different names nothing is wrong at all. -/
theorem Tabular.exists_insertOf (h : Tabular query)
    (hdistinct : (query.insertColumns.map parameterName).Nodup) :
    ∃ made, (insertOf query).outcome = .ok made := by
  cases hmade : (insertOf query).outcome with
  | ok made => exact ⟨made, rfl⟩
  | error fault =>
    cases insertOf_eq_error hdistinct hmade with
    | empty missing => exact absurd missing h.columns
    | mismatched found other => exact absurd (h.uniform _ (List.mem_of_getElem? found)) other

/-- The names of a row that cannot be bound on their own: the first one that is taken is that of
the first column whose parameter name is. -/
theorem bindAll_row_eq_error {row : Row} {fault : Fault}
    (h : Parameters.empty.bindAll (row.map (cellBinding 0)) = .error fault) :
    ∃ column, FirstTaken row.columns column ∧
      fault = .duplicateParameter (parameterName column ++ "_0") := by
  obtain ⟨front, taken, behind, hbindings, hnodup, htaken, rfl⟩ := bindAll_eq_error h
  obtain ⟨before, rest, rfl, rfl, hrest⟩ := List.map_eq_append_iff.mp hbindings
  obtain ⟨cell, after, rfl, rfl, -⟩ := List.map_eq_cons_iff.mp hrest
  have hnames : (before.map (cellBinding 0)).map Binding.name =
      ((Row.columns before).map parameterName).map fun name => name ++ "_" ++ Nat.repr 0 := by
    rw [Row.columns, List.map_map, List.map_map, List.map_map]
    rfl
  have hempty : Parameters.empty.names = [] := rfl
  rw [hempty, List.nil_append, hnames] at hnodup htaken
  refine ⟨cell.field, ⟨Row.columns before, Row.columns after, ?_, hnodup.of_map _, ?_⟩, ?_⟩
  · simp [Row.columns]
  · exact (List.mem_map_of_injective (numbered_injective 0)).mp htaken
  · rw [cellBinding, String.append_assoc]
    rfl

/-- A table whose columns do not all give different names is refused in its first row. -/
theorem Tabular.exists_insertOf_eq_error (h : Tabular query)
    (htaken : ¬ (query.insertColumns.map parameterName).Nodup) :
    ∃ column, FirstTaken query.insertColumns column ∧
      (insertOf query).outcome = .error (.duplicateParameter (parameterName column ++ "_0")) := by
  obtain ⟨row, rest, hrows, hcolumns⟩ := h.exists_cons
  cases hbound : Parameters.empty.bindAll (row.map (cellBinding 0)) with
  | ok more =>
    have hnumbered : (rowNames 0 row).Nodup := by
      have hnames := exists_bindAll_iff.mp ⟨more, hbound⟩
      rwa [names_row] at hnames
    rw [rowNames, hcolumns] at hnumbered
    refine absurd (List.Nodup.of_map (fun name => name ++ "_" ++ Nat.repr 0) ?_) htaken
    rw [List.map_map]
    exact hnumbered
  | error fault =>
    obtain ⟨column, hcolumn, rfl⟩ := bindAll_row_eq_error hbound
    rw [hcolumns] at hcolumn
    refine ⟨column, hcolumn, ?_⟩
    have hsome : query.insertColumns.isEmpty = false := by simpa using h.columns
    rw [insertOf_eq, hsome, hrows, tuplesOf]
    refine Traced.outcome_bind_eq_error.mpr (.inl ?_)
    refine Traced.outcome_check_bind_eq_error.mpr (.inr ⟨requireColumns_eq_ok.mpr hcolumns, ?_⟩)
    exact Traced.outcome_bind_eq_error.mpr (.inl hbound)

/-- **The names of a table never meet**, however many rows it has, if its columns give different
names; and if two of its columns give one name, they always do.  Whether the names are identifiers
plays no part in that; it only decides whether the rows of a query are looked at. -/
theorem insert_names (h : Tabular query) :
    ((query.insertColumns.map parameterName).Nodup →
      (∃ made, (insertOf query).outcome = .ok made) ∧
      (query.operation = .insert → ∀ quoting,
        (∀ name, (render quoting query).outcome ≠ .error (.duplicateParameter name)) ∧
        (Accepted query → ∃ rendered, (render quoting query).outcome = .ok rendered))) ∧
    (¬ (query.insertColumns.map parameterName).Nodup →
      ∃ column, FirstTaken query.insertColumns column ∧
        (insertOf query).outcome = .error (.duplicateParameter (parameterName column ++ "_0")) ∧
        (query.operation = .insert → Accepted query → ∀ quoting,
          (render quoting query).outcome =
            .error (.duplicateParameter (parameterName column ++ "_0")))) := by
  constructor
  · intro hdistinct
    obtain ⟨made, hmade⟩ := h.exists_insertOf hdistinct
    refine ⟨⟨made, hmade⟩, fun ho quoting => ⟨fun name hrender => ?_, fun ha => ?_⟩⟩
    · have hstep := (statementOf_of_duplicate hrender).2
      rw [statementOf, ho] at hstep
      rw [hmade] at hstep
      cases hstep
    · cases hrender : (render quoting query).outcome with
      | ok rendered => exact ⟨rendered, rfl⟩
      | error fault =>
        rcases (exists_render_eq_error_iff ha ho hdistinct).mp ⟨fault, hrender⟩ with
          hmissing | ⟨row, hrow, hother⟩
        · exact absurd hmissing h.columns
        · exact absurd (h.uniform row hrow) hother
  · intro htaken
    obtain ⟨column, hcolumn, hmade⟩ := h.exists_insertOf_eq_error htaken
    refine ⟨column, hcolumn, hmade, fun ho ha quoting => render_eq_error_of_statement ha ?_⟩
    rw [statementOf, ho]
    exact hmade

end Tables

/-- Columns that end like the names of other columns, in more than ten rows, and columns that a dot
tells apart and nothing else does. -/
theorem insert_names_suffixed :
    let row : Row := [⟨"a", .null⟩, ⟨"a_1", .bool true⟩, ⟨"a_1_0", .text "x"⟩]
    let table : Query := { Query.blank .insert "users" with rows? := some (.replicate 12 row) }
    let dotted : Query := { Query.blank .insert "users" with
      rows? := some [[⟨"id", .null⟩, ⟨"u.id", .null⟩, ⟨"u_id", .null⟩, ⟨"u.id", .null⟩]] }
    (Tabular table ∧ (table.insertColumns.map parameterName).Nodup ∧ Accepted table ∧
      (∃ made, (insertOf table).outcome = .ok made) ∧
      ∀ quoting, ∃ rendered, (render quoting table).outcome = .ok rendered) ∧
    (Tabular dotted ∧ ¬ (dotted.insertColumns.map parameterName).Nodup ∧ Accepted dotted ∧
      ∃ column, FirstTaken dotted.insertColumns column ∧
        (insertOf dotted).outcome = .error (.duplicateParameter (parameterName column ++ "_0")) ∧
        ∀ quoting, (render quoting dotted).outcome =
          .error (.duplicateParameter (parameterName column ++ "_0"))) := by
  intro row table dotted
  have htable : Tabular table := ⟨by decide, by decide +kernel⟩
  have hdotted : Tabular dotted := ⟨by decide, by decide +kernel⟩
  have hdistinct : (table.insertColumns.map parameterName).Nodup := by decide +kernel
  have htaken : ¬ (dotted.insertColumns.map parameterName).Nodup := by decide +kernel
  have haccepted : Accepted table ∧ Accepted dotted :=
    ⟨.of_checkWords (by decide) rfl rfl (by decide +kernel),
      .of_checkWords (by decide) rfl rfl (by decide +kernel)⟩
  obtain ⟨hmade, hrendered⟩ := (insert_names htable).1 hdistinct
  obtain ⟨column, hcolumn, hrefused, hdotless⟩ := (insert_names hdotted).2 htaken
  exact ⟨⟨htable, hdistinct, haccepted.1, hmade, fun q => (hrendered rfl q).2 haccepted.1⟩,
    ⟨hdotted, htaken, haccepted.2, column, hcolumn, hrefused, hdotless rfl haccepted.2⟩⟩

end CrudQuery.Sql
