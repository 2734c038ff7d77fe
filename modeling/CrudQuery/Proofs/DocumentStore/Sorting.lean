import CrudQuery.Proofs.DocumentStore.Compilation
import CrudQuery.Proofs.Record
import CrudQuery.Proofs.Sql.Text

/-! # Sorting documents like rows

Documents and rows are sorted by keys, of which the first that tells two of them apart decides.  A
statement lists its sort keys as the query has them; a command keeps them as the members of a
record.  A record has each field once, where it first came but with the way it was last given, and
it lists array indices first.  So the two sort alike only where neither matters: where the first key
with a field sorts the way of the last one, and the fields first come in the order in which a record
lists them (`Settled`).  For any other ordering there are two documents that compare differently
(`sorted_alike`).

A list of keys compares like the list of the first key of each field (`compareBy_ofFirsts`), and
lists with different fields that always compare alike are the same list (`eq_of_compareBy_eq`).
That leaves to ask when a record filled with some members lists the first one of each key.
-/

namespace CrudQuery

/-! ## Records of the members that come first -/

namespace Record
variable {α : Type}

/-- The first member with each key. -/
def firsts : List (String × α) → List (String × α)
  | [] => []
  | member :: rest => member :: (firsts rest).filter fun other => other.1 ≠ member.1

theorem firsts_append_singleton (members : List (String × α)) (member : String × α) :
    firsts (members ++ [member]) =
      if member.1 ∈ members.map Prod.fst then firsts members else firsts members ++ [member] := by
  induction members with
  | nil => rfl
  | cons other rest ih =>
    rw [List.cons_append, firsts, ih, List.map_cons, firsts]
    by_cases hrest : member.1 ∈ rest.map Prod.fst
    · simp [hrest]
    · by_cases hother : member.1 = other.1
      · rw [if_neg hrest, if_pos (by simp [hother]), List.filter_append]
        simp [hother]
      · rw [if_neg hrest, if_neg (by simp_all), List.filter_append]
        simp [hother]

theorem keys_firsts (members : List (String × α)) :
    (firsts members).map Prod.fst = (members.map Prod.fst).eraseDups := by
  induction members using List.reverseRecOn with
  | nil => rfl
  | append_singleton members member ih =>
    rw [firsts_append_singleton, List.map_append, List.map_singleton,
      List.eraseDups_append_singleton, apply_ite (List.map Prod.fst), List.map_append, ih]
    rfl

theorem nodup_firsts (members : List (String × α)) :
    ((firsts members).map Prod.fst).Nodup := by
  induction members with
  | nil => exact List.nodup_nil
  | cons member rest ih =>
    refine List.nodup_cons.mpr ⟨?_, ih.sublist (List.filter_sublist.map Prod.fst)⟩
    intro h
    obtain ⟨other, hother, he⟩ := List.mem_map.mp h
    exact absurd he (by simpa using (List.mem_filter.mp hother).2)

/-- The record of the first member with each key. -/
def ofFirsts (members : List (String × α)) : Record α := ⟨firsts members, nodup_firsts members⟩

theorem get?_ofFirsts (members : List (String × α)) (key : String) :
    (ofFirsts members).get? key = members.lookup key := by
  change ((firsts members).find? fun member => member.1 = key).map Prod.snd = _
  induction members with
  | nil => rfl
  | cons member rest ih =>
    rw [firsts, List.lookup_cons, ← ih]
    by_cases h : member.1 = key
    · rw [List.find?_cons_of_pos (by simpa using h), beq_iff_eq.mpr h.symm]
      rfl
    · -- The members that are left out have another key.
      have hkept : ((firsts rest).filter fun other => other.1 ≠ member.1).find?
          (fun other => other.1 = key) = (firsts rest).find? fun other => other.1 = key := by
        rw [List.find?_filter]
        congr 1
        funext other
        by_cases hother : other.1 = key
        · simp [hother, Ne.symm h]
        · simp [hother]
      rw [List.find?_cons_of_neg (by simpa using h), hkept, beq_eq_false_iff_ne.mpr (Ne.symm h)]

/-- Records with the same keys in the same places and the same value under each are the same. -/
theorem eq_of_get?_eq {record other : Record α} (hkeys : record.keys = other.keys)
    (h : ∀ key, record.get? key = other.get? key) : record = other := by
  have hlength : record.entries.length = other.entries.length := by
    simpa [keys] using congrArg List.length hkeys
  have hentries : record.entries = other.entries := by
    refine List.ext_getElem hlength fun i hi hi' => ?_
    have hkey : record.entries[i].1 = other.entries[i].1 := by
      simpa [keys] using List.getElem_of_eq hkeys (i := i) (by simpa [keys] using hi)
    have hvalue : record.get? record.entries[i].1 = some record.entries[i].2 :=
      get?_eq_some_iff.mpr (List.getElem_mem hi)
    have hother : other.get? other.entries[i].1 = some other.entries[i].2 :=
      get?_eq_some_iff.mpr (List.getElem_mem hi')
    rw [h, hkey, hother] at hvalue
    exact Prod.ext hkey (Option.some.inj hvalue).symm
  cases record
  cases other
  congr

end Record

namespace DocumentStore
open Record

/-! ## Comparing by keys -/

/-- How two documents compare by one key, from how they compare in its field. -/
def SortWay.turn : SortWay → Ordering → Ordering
  | up, outcome => outcome
  | down, outcome => outcome.swap

/-- How two documents compare by some keys, from how they compare in each field: the first key that
tells them apart decides. -/
def compareBy (keys : List (String × SortWay)) (outcome : String → Ordering) : Ordering :=
  match keys with
  | [] => .eq
  | key :: rest => (key.2.turn (outcome key.1)).then (compareBy rest outcome)

theorem SortWay.turn_eq_eq {way : SortWay} {outcome : Ordering} :
    way.turn outcome = .eq ↔ outcome = .eq := by
  cases way <;> cases outcome <;> decide

theorem SortWay.turn_turn (way : SortWay) (outcome : Ordering) :
    way.turn (way.turn outcome) = outcome := by
  cases way <;> cases outcome <;> rfl

theorem compareBy_eq_eq {keys : List (String × SortWay)} {outcome : String → Ordering} :
    compareBy keys outcome = .eq ↔ ∀ key ∈ keys, outcome key.1 = .eq := by
  induction keys with
  | nil => simp [compareBy]
  | cons key rest ih =>
    rw [compareBy, Ordering.then_eq_eq, SortWay.turn_eq_eq, ih, List.forall_mem_cons]

theorem compareBy_congr {keys : List (String × SortWay)} {outcome other : String → Ordering}
    (h : ∀ key ∈ keys, outcome key.1 = other key.1) :
    compareBy keys outcome = compareBy keys other := by
  induction keys with
  | nil => rfl
  | cons key rest ih =>
    obtain ⟨hkey, hrest⟩ := List.forall_mem_cons.mp h
    rw [compareBy, compareBy, hkey, ih hrest]

/-- A field in which two documents are equal need not be looked at. -/
theorem compareBy_filter {field : String} {outcome : String → Ordering} (h : outcome field = .eq)
    (keys : List (String × SortWay)) :
    compareBy (keys.filter fun key => key.1 ≠ field) outcome = compareBy keys outcome := by
  induction keys with
  | nil => rfl
  | cons key rest ih =>
    by_cases hkey : key.1 = field
    · rw [List.filter_cons_of_neg (by simp [hkey]), ih, compareBy, hkey, h]
      cases key.2 <;> rfl
    · rw [List.filter_cons_of_pos (by simp [hkey]), compareBy, ih, compareBy]

/-- Of the keys with one field, only the first can decide. -/
theorem compareBy_ofFirsts (keys : List (String × SortWay)) (outcome : String → Ordering) :
    compareBy (ofFirsts keys).entries outcome = compareBy keys outcome := by
  change compareBy (firsts keys) outcome = compareBy keys outcome
  induction keys with
  | nil => rfl
  | cons key rest ih =>
    rw [firsts, compareBy, compareBy]
    by_cases h : outcome key.1 = .eq
    · rw [compareBy_filter h, ih]
    · cases hturn : key.2.turn (outcome key.1) with
      | eq => exact absurd (SortWay.turn_eq_eq.mp hturn) h
      | lt => rfl
      | gt => rfl

/-- Keys with different fields are known by how they compare. -/
theorem eq_of_compareBy_eq {keys others : List (String × SortWay)}
    (hkeys : (keys.map Prod.fst).Nodup) (hothers : (others.map Prod.fst).Nodup)
    (h : ∀ outcome, compareBy keys outcome = compareBy others outcome) : keys = others := by
  induction keys generalizing others with
  | nil =>
    have hall := compareBy_eq_eq.mp (h fun _ => .lt).symm
    exact (List.eq_nil_iff_forall_not_mem.mpr fun key hkey => nomatch hall key hkey).symm
  | cons key rest ih =>
    cases others with
    | nil => exact nomatch compareBy_eq_eq.mp (h fun _ => .lt) key List.mem_cons_self
    | cons other more =>
      -- An outcome by which the first key alone puts the documents in order.
      have hhead : key = other := by
        have hone := h fun field => if field = key.1 then key.2.turn .lt else other.2.turn .gt
        simp only [compareBy, if_pos, SortWay.turn_turn] at hone
        by_cases hfield : other.1 = key.1
        · rw [if_pos hfield] at hone
          refine Prod.ext hfield.symm ?_
          cases hway : key.2 <;> cases hother : other.2 <;>
            simp [hway, hother, SortWay.turn] at hone ⊢
        · rw [if_neg hfield, SortWay.turn_turn] at hone
          cases hone
      subst hhead
      obtain ⟨hfresh, hrest⟩ := List.nodup_cons.mp hkeys
      obtain ⟨hfreshmore, hmore⟩ := List.nodup_cons.mp hothers
      congr 1
      refine ih hrest hmore fun outcome => ?_
      -- Any outcome, but for the first field, which is made not to matter.
      have htail := h fun field => if field = key.1 then .eq else outcome field
      have hignored : ∀ tail : List (String × SortWay), key.1 ∉ tail.map Prod.fst →
          compareBy (key :: tail) (fun field => if field = key.1 then .eq else outcome field) =
            compareBy tail outcome := by
        intro tail hnew
        rw [compareBy, if_pos rfl, SortWay.turn_eq_eq.mpr rfl, Ordering.eq_then]
        refine compareBy_congr fun other hother => if_neg fun he => hnew ?_
        exact List.mem_map.mpr ⟨other, hother, he⟩
      rwa [hignored rest hfresh, hignored more hfreshmore] at htail

/-! ## Keys that a record keeps -/

/-- Keys of which a record keeps all that matters: the first key with a field sorts the way of the
last one, and the fields, each where it first comes, stand in turn. -/
structure Settled (keys : List (String × SortWay)) : Prop where
  ways : ∀ field, keys.lookup field = keys.reverse.lookup field
  places : (keys.map Prod.fst).eraseDups.Pairwise InTurn

/-- **When a record lists the first key of each field.** -/
theorem toList_ofList_iff {keys : List (String × SortWay)} :
    (ofList keys).toList = (ofFirsts keys).entries ↔ Settled keys := by
  have hsame : (ofList keys).keys = (ofFirsts keys).keys :=
    (keys_ofList keys).trans (keys_firsts keys).symm
  constructor
  · intro h
    -- The two records have the same members, since listing changes their order only.
    have hvalues : ∀ field, (ofList keys).get? field = (ofFirsts keys).get? field := by
      intro field
      refine Option.ext fun way => ?_
      rw [get?_eq_some_iff, get?_eq_some_iff, ← h, (toList_perm _).mem_iff]
    have hrecords := eq_of_get?_eq hsame hvalues
    constructor
    · intro field
      rw [← get?_ofFirsts, ← hvalues, get?_ofList]
    · rw [← hrecords, toList_eq_entries_iff, keys_ofList] at h
      exact h
  · intro h
    have hrecords : ofList keys = ofFirsts keys := by
      refine eq_of_get?_eq hsame fun field => ?_
      rw [get?_ofList, get?_ofFirsts, h.ways]
    rw [← hrecords, toList_eq_entries_iff, keys_ofList]
    exact h.places

theorem compareBy_toList_iff {keys : List (String × SortWay)} :
    (∀ outcome, compareBy (ofList keys).toList outcome = compareBy keys outcome) ↔
      Settled keys := by
  simp only [← toList_ofList_iff, ← compareBy_ofFirsts keys]
  constructor
  · refine eq_of_compareBy_eq ?_ (ofFirsts keys).keys_nodup
    exact ((toList_perm _).map Prod.fst).nodup_iff.mpr (ofList keys).keys_nodup
  · intro h outcome
    rw [h]

/-- Fields that are all different and no array indices: an ordering that is usual. -/
theorem Settled.of_named {keys : List (String × SortWay)} (hn : (keys.map Prod.fst).Nodup)
    (hnamed : ∀ key ∈ keys, index? key.1 = none) : Settled keys := by
  have hlist : (ofList keys).entries = keys := entries_ofList hn
  have hfirsts : (ofFirsts keys).entries = keys :=
    eq_of_compareBy_eq (ofFirsts keys).keys_nodup hn (compareBy_ofFirsts keys)
  refine toList_ofList_iff.mp ?_
  rw [toList_of_named (by rwa [hlist]), hlist, hfirsts]

/-! ## Sorting a select -/

/-- A sort key of a query as a member of the record of a command. -/
def sortMember (key : SortKey) : String × SortWay :=
  (key.field, if key.direction = .descending then .down else .up)

/-- The sort keys of a command in the order in which they are listed. -/
def FindOptions.sortKeys (options : FindOptions) : List (String × SortWay) :=
  (options.sort?.map Record.toList).getD []

/-- Sort keys as the store has them: one for an ascending key, minus one for a descending one. -/
def sortDocument (keys : List (String × SortWay)) : Document :=
  .object (keys.map fun key => (key.1, .number (if key.2 = .down then -1 else 1)))

theorem ofRecord_sort (record : Record SortWay) :
    Document.ofRecord SortWay.document record = sortDocument record.toList := by
  have hway : ∀ way : SortWay, way.document = .number (if way = .down then -1 else 1) := by
    intro way
    cases way <;> rfl
  simp only [Document.ofRecord, sortDocument, hway]

/-- The command of a select lists its sort keys among its options, if it has any. -/
theorem sortKeys_of_render {disjunction : Disjunction} {query : Query} {command : Command}
    (ho : query.operation = .select) (h : (render disjunction query).outcome = .ok command) :
    ∃ filter options, command = .find query.target filter options ∧
      options.sortKeys = (ofList (query.ordering.map sortMember)).toList ∧
      command.option? "sort" =
        if query.ordering = [] then none else some (sortDocument options.sortKeys) := by
  obtain ⟨filter, rfl⟩ := find_of_render ho h
  refine ⟨filter, _, rfl, ?_, ?_⟩
  · unfold FindOptions.sortKeys sort?
    cases query.ordering with
    | nil => rfl
    | cons key rest => rfl
  · rw [(option?_find _ _ _).2]
    unfold FindOptions.sortKeys sort?
    cases query.ordering with
    | nil => rfl
    | cons key rest => exact congrArg some (ofRecord_sort _)

/-- How two documents compare by some keys, with a way to compare them for each field. -/
def compareDocuments {δ : Type} (compareField : String → δ → δ → Ordering)
    (keys : List (String × SortWay)) (a b : δ) : Ordering :=
  compareBy keys fun field => compareField field a b

/-- A way to compare documents that have an integer in each field. -/
def compareIntegers (field : String) (a b : String → Int) : Ordering := compare (a field) (b field)

/-- **Sorting alike.** Let a select be rendered as a command.  If its sort keys are settled, any two
documents compare by the sort keys of the command, in the order in which they are listed, as they do
by those of the query, however they are compared in each field.  If they are not settled, there are
two documents of integers that do not.  The keys of the command are those of its sort option, and
the keys of the query those that its text lists behind `ORDER BY`, each a name and a direction. -/
theorem sorted_alike {disjunction : Disjunction} {query : Query} {command : Command}
    (ho : query.operation = .select) (h : (render disjunction query).outcome = .ok command) :
    let keys := query.ordering.map sortMember
    ∃ filter options, command = .find query.target filter options ∧
      command.option? "sort" =
        (if query.ordering = [] then none else some (sortDocument options.sortKeys)) ∧
      (Settled keys → ∀ {δ : Type} (compareField : String → δ → δ → Ordering) (a b : δ),
        compareDocuments compareField options.sortKeys a b =
          compareDocuments compareField keys a b) ∧
      (¬ Settled keys → ∃ a b,
        compareDocuments compareIntegers options.sortKeys a b ≠
          compareDocuments compareIntegers keys a b) ∧
      ∀ quoting rendered, (Sql.render quoting query).outcome = .ok rendered →
        rendered.text =
          Sql.leadText quoting query ++
            Sql.chainText quoting " WHERE " (Sql.chainTokens query.conditions) ++
            Sql.groupText quoting query ++
            Sql.orderText quoting query.ordering ++
            Sql.boundsText query := by
  intro keys
  obtain ⟨filter, options, hcommand, hkeys, hoption⟩ := sortKeys_of_render ho h
  refine ⟨filter, options, hcommand, hoption, ?_, ?_, ?_⟩
  · intro hsettled δ compareField a b
    rw [compareDocuments, hkeys]
    exact compareBy_toList_iff.mpr hsettled _
  · intro hunsettled
    obtain ⟨outcome, houtcome⟩ :=
      not_forall.mp fun hall => hunsettled (compareBy_toList_iff.mp hall)
    -- Numbers that compare with zero as the outcome says.
    have hnumber : ∀ result : Ordering, ∃ n : Int, compare n 0 = result := by
      rintro (_ | _ | _)
      · exact ⟨-1, rfl⟩
      · exact ⟨0, rfl⟩
      · exact ⟨1, rfl⟩
    choose a ha using fun field => hnumber (outcome field)
    refine ⟨a, fun _ => 0, ?_⟩
    simpa only [compareDocuments, compareIntegers, hkeys, ha] using houtcome
  · exact fun quoting rendered hr => Sql.text_of_select ho hr

/-- The usual ordering, by fields that are all different and no array indices. -/
theorem sorted_alike_named :
    let query : Query := { Query.blank .select "users" with
      ordering := [⟨"last_name", .ascending⟩, ⟨"created_at", .descending⟩, ⟨"id", .ascending⟩] }
    ∃ filter options rendered,
      (render .precedence query).outcome = .ok (.find "users" filter options) ∧
      (Sql.render .plain query).outcome = .ok rendered ∧
      (∀ a b, compareDocuments compareIntegers options.sortKeys a b =
        compareDocuments compareIntegers (query.ordering.map sortMember) a b) ∧
      rendered.text =
        "SELECT * FROM users ORDER BY last_name ASC, created_at DESC, id ASC" := by
  intro query
  have hsettled : Settled (query.ordering.map sortMember) :=
    .of_named (by decide) (by decide +kernel)
  obtain ⟨command, hcommand⟩ := Except.exists_of_isOk
    (show (render .precedence query).outcome.isOk = true by decide +kernel)
  obtain ⟨rendered, hrendered⟩ := Except.exists_of_isOk
    (show (Sql.render .plain query).outcome.isOk = true by decide +kernel)
  obtain ⟨filter, options, rfl, -, halike, -, htext⟩ := sorted_alike rfl hcommand
  exact ⟨filter, options, rendered, hcommand, hrendered, halike hsettled compareIntegers,
    (htext .plain rendered hrendered).trans (by decide +kernel)⟩

/-- Two orderings that are not settled.  Of two keys with the same field the command keeps the way
of the last one, though the first one decides; and it puts a field that is an array index first. -/
theorem sorted_otherwise :
    let repeated : Query := { Query.blank .select "users" with
      ordering := [⟨"age", .descending⟩, ⟨"age", .ascending⟩] }
    let indexed : Query := { Query.blank .select "users" with
      ordering := [⟨"age", .ascending⟩, ⟨"1", .ascending⟩] }
    (∃ filter options, (render .precedence repeated).outcome = .ok (.find "users" filter options) ∧
      ∃ a b, compareDocuments compareIntegers options.sortKeys a b = .lt ∧
        compareDocuments compareIntegers (repeated.ordering.map sortMember) a b = .gt) ∧
    (∃ filter options, (render .precedence indexed).outcome = .ok (.find "users" filter options) ∧
      ∃ a b, compareDocuments compareIntegers options.sortKeys a b = .lt ∧
        compareDocuments compareIntegers (indexed.ordering.map sortMember) a b = .gt) := by
  intro repeated indexed
  obtain ⟨command, hcommand⟩ := Except.exists_of_isOk
    (show (render .precedence repeated).outcome.isOk = true by decide +kernel)
  obtain ⟨other, hother⟩ := Except.exists_of_isOk
    (show (render .precedence indexed).outcome.isOk = true by decide +kernel)
  obtain ⟨filter, options, rfl, hkeys, -⟩ := sortKeys_of_render rfl hcommand
  obtain ⟨otherFilter, others, rfl, hothers, -⟩ := sortKeys_of_render rfl hother
  refine ⟨⟨filter, options, hcommand, fun _ => 1, fun _ => 2, ?_, by decide +kernel⟩,
    ⟨otherFilter, others, hother, fun field => if field = "1" then 1 else 2,
      fun field => if field = "1" then 2 else 1, ?_, by decide +kernel⟩⟩
  · rw [hkeys]
    decide +kernel
  · rw [hothers]
    decide +kernel

end DocumentStore
end CrudQuery
