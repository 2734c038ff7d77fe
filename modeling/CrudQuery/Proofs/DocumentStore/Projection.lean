import CrudQuery.Proofs.DocumentStore.Compilation
import CrudQuery.Proofs.Record
import CrudQuery.Proofs.Sql.Text
import CrudQuery.Proofs.Sql.Unambiguity

/-! # Projecting documents like rows

Both backends are asked for some fields by name, or for every field.  A statement lists the names in
the order of the query and as often as they come, with one name, a star, for every field; it writes
that star for a query which asks for nothing in particular.  A command has the names as the keys of
a record, each once, and no record at all for a query which asks for nothing in particular.

So the two ask for the same fields (`SameProjection`), with one exception.  A query may ask for the
star itself, alone or among other names.  A statement then has every field; but a command has a
record with that key, which is the name of a field like any other to a document store
(`projected_alike`).
-/

namespace CrudQuery.DocumentStore
open Record

/-- A command asks for the same fields as a statement with these columns: it has no projection iff
the columns name every field, and the keys of a projection are the names of the columns, each
once. -/
structure SameProjection (columns : List String) (projection? : Option (Record Unit)) : Prop where
  every : projection? = none ↔ "*" ∈ columns
  named : ∀ projection, projection? = some projection →
    projection.toList.map Prod.fst = columns.eraseDups

/-- The names that a statement lists as its columns. -/
def columnNames (fields : List Projection) : List String :=
  (Sql.shownColumns fields).map Prod.fst

theorem columnNames_of_ne_nil {fields : List Projection} (h : fields ≠ []) :
    columnNames fields = fields.map Projection.name := by
  unfold columnNames Sql.shownColumns
  rw [if_neg (by simpa using h), List.map_map]
  rfl

/-- The text of a select begins with its columns. -/
theorem begins_of_render {quoting : Sql.Quoting} {query : Query} {rendered : Sql.Rendered}
    (ho : query.operation = .select) (h : (Sql.render quoting query).outcome = .ok rendered) :
    ∃ behind, rendered.text =
      "SELECT " ++ Sql.projectionText quoting query.fields ++ " FROM " ++ behind := by
  rw [Sql.text_of_select ho h, Sql.leadText, ho]
  simp only [String.append_assoc]
  exact ⟨_, rfl⟩

/-- No name that may stand in a statement is an array index. -/
theorem index?_of_isName {name : String} (h : Sql.IsName name) : index? name = none := by
  rcases h with rfl | h
  · decide +kernel
  · exact index?_of_head fun c hc => Sql.isDigit_of_head_identifier h hc

theorem projection?_eq_none {fields : List Projection} :
    projection? fields = none ↔ fields = [] := by
  unfold projection?
  cases fields <;> simp

/-- The record of a projection lists the names of the fields as they first come. -/
theorem keys_of_projection? {fields : List Projection} {projection : Record Unit}
    (hnames : ∀ field ∈ fields, Sql.IsName field.name)
    (h : projection? fields = some projection) :
    projection.toList.map Prod.fst = (columnNames fields).eraseDups := by
  have hne : fields ≠ [] := by
    rintro rfl
    cases h
  unfold projection? at h
  rw [if_neg (by simpa using hne), Option.some.injEq] at h
  subst h
  have hkeys : (ofList (fields.map fun field => (field.name, ()))).keys =
      (columnNames fields).eraseDups := by
    rw [keys_ofList, columnNames_of_ne_nil hne, List.map_map]
    rfl
  rw [← hkeys, keys, toList_of_named]
  intro member hmember
  have hkey : member.1 ∈ (columnNames fields).eraseDups :=
    hkeys ▸ List.mem_map_of_mem (f := Prod.fst) hmember
  rw [List.mem_eraseDups, columnNames_of_ne_nil hne] at hkey
  obtain ⟨field, hfield, hname⟩ := List.mem_map.mp hkey
  exact hname ▸ index?_of_isName (hnames field hfield)

/-- **Projecting alike.**  Let a select be accepted by both backends.  Its text begins with its
columns, a star if the query names no field.  Its command has no projection iff the query names no
field; each member of a projection is a one, and their keys are the names of the columns, each once,
as they first come.  So both ask for the same fields iff the query does not name the star itself. -/
theorem projected_alike {quoting : Sql.Quoting} {disjunction : Disjunction} {query : Query}
    {rendered : Sql.Rendered} {command : Command} (ho : query.operation = .select)
    (hs : (Sql.render quoting query).outcome = .ok rendered)
    (hd : (render disjunction query).outcome = .ok command) :
    ∃ filter options, command = .find query.target filter options ∧
      (∃ behind, rendered.text =
        "SELECT " ++ Sql.projectionText quoting query.fields ++ " FROM " ++ behind) ∧
      command.option? "projection" = options.projection?.map (fun projection =>
        .object (projection.toList.map fun member => (member.1, .number 1))) ∧
      (options.projection? = none ↔ query.fields = []) ∧
      (∀ projection, options.projection? = some projection →
        projection.toList.map Prod.fst = (columnNames query.fields).eraseDups) ∧
      (SameProjection (columnNames query.fields) options.projection? ↔
        "*" ∉ query.fields.map Projection.name) := by
  obtain ⟨ha, -⟩ := Sql.render_eq hs
  obtain ⟨filter, rfl⟩ := find_of_render ho hd
  have hnames : ∀ field ∈ query.fields, Sql.IsName field.name :=
    fun field hf => (ha.words.fields field hf).name
  have hkeys := fun projection (h : projection? query.fields = some projection) =>
    keys_of_projection? hnames h
  refine ⟨filter, _, rfl, begins_of_render ho hs, (option?_find _ _ _).1, projection?_eq_none,
    hkeys, ?_⟩
  by_cases hfields : query.fields = []
  · -- Nothing is asked for in particular, and one star is written.
    rw [hfields]
    exact iff_of_true ⟨iff_of_true rfl (by decide), nofun⟩ (by simp)
  · have hsome := mt projection?_eq_none.mp hfields
    rw [← columnNames_of_ne_nil hfields]
    constructor
    · exact fun hsame hstar => hsome (hsame.every.mpr hstar)
    · exact fun hstar => ⟨iff_of_false hsome hstar, hkeys⟩

/-- A projection with labels and a name that comes twice. -/
theorem projected_alike_labelled :
    let query : Query := { Query.blank .select "users" with
      fields := [⟨"u.id", some "key"⟩, ⟨"email", none⟩, ⟨"u.id", none⟩] }
    ∃ rendered filter options behind, (Sql.render .doubleQuoted query).outcome = .ok rendered ∧
      (render .precedence query).outcome = .ok (.find "users" filter options) ∧
      rendered.text =
        "SELECT \"u\".\"id\" AS \"key\", \"email\", \"u\".\"id\" FROM " ++ behind ∧
      SameProjection ["u.id", "email", "u.id"] options.projection? := by
  intro query
  obtain ⟨rendered, hs⟩ := Except.exists_of_isOk
    (show (Sql.render .doubleQuoted query).outcome.isOk = true by decide +kernel)
  obtain ⟨command, hd⟩ := Except.exists_of_isOk
    (show (render .precedence query).outcome.isOk = true by decide +kernel)
  obtain ⟨filter, options, rfl, ⟨behind, htext⟩, -, -, -, hsame⟩ := projected_alike rfl hs hd
  have hcolumns : "SELECT " ++ Sql.projectionText .doubleQuoted query.fields ++ " FROM " =
      "SELECT \"u\".\"id\" AS \"key\", \"email\", \"u\".\"id\" FROM " := by decide +kernel
  rw [hcolumns] at htext
  exact ⟨rendered, filter, options, behind, hs, hd, htext, hsame.mpr (by decide)⟩

/-- A star that the query names itself: the statement selects every field, and the command asks for
one field of that name. -/
theorem projected_star :
    let query : Query := { Query.blank .select "users" with fields := [⟨"*", none⟩] }
    ∃ rendered filter options projection, (Sql.render .plain query).outcome = .ok rendered ∧
      rendered.text = "SELECT * FROM users" ∧
      (render .precedence query).outcome = .ok (.find "users" filter options) ∧
      options.projection? = some projection ∧ projection.toList.map Prod.fst = ["*"] ∧
      ¬ SameProjection (columnNames query.fields) options.projection? := by
  intro query
  obtain ⟨rendered, hs⟩ := Except.exists_of_isOk
    (show (Sql.render .plain query).outcome.isOk = true by decide +kernel)
  obtain ⟨command, hd⟩ := Except.exists_of_isOk
    (show (render .precedence query).outcome.isOk = true by decide +kernel)
  obtain ⟨-, -, htext, -⟩ := Sql.render_eq hs
  obtain ⟨filter, rfl⟩ := find_of_render rfl hd
  refine ⟨rendered, filter, _, _, hs, ?_, hd, rfl, by decide +kernel, fun hsame => ?_⟩
  · exact String.toList_inj.mp (htext.trans (by decide +kernel))
  · exact nomatch hsame.every.mpr (by decide +kernel)

end CrudQuery.DocumentStore
