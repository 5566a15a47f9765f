import Mathlib.Data.List.Nodup
import TableSchema.Proofs.Except
import TableSchema.Proofs.Fields.Visibility
import TableSchema.Table.Basic

/-!
# The columns of a table

When a table is built and what it holds. A table takes its columns from the visible fields in order;
no two columns may have one name, which is checked against the columns taken so far. That no two
columns come from fields of one name is not checked: it follows from how fields are visible.

* `builtColumns` — the columns of those fields that have one.
* `columnsOf_eq_ok_iff` — the loop over the fields succeeds exactly if every field does and the
  columns' names differ, and then it gives these columns.
* `columnsOf_eq_error_iff` — it ends with the problem of the first turn that has one.
* `build_ok_iff_columns_distinct` — when a table is built, and all that is in it.
-/

namespace TableSchema

variable {τ : Type}

-- ---------------------------------------------------------------------------
-- Single columns
-- ---------------------------------------------------------------------------

/-- A setting does not change which field a column comes from. -/
theorem PendingColumn.apply_sourceName (d : PendingColumn τ) (s : Setting) :
    (d.apply s).column.sourceName = d.column.sourceName := by
  cases s <;> rfl

/-- All settings of a tag leave it as it is. -/
theorem PendingColumn.foldl_apply_sourceName (settings : List Setting) (d : PendingColumn τ) :
    (settings.foldl PendingColumn.apply d).column.sourceName = d.column.sourceName := by
  induction settings generalizing d with
  | nil => rfl
  | cons s rest ih => rw [List.foldl_cons, ih, PendingColumn.apply_sourceName]

/-- No column is found under a name that none has. -/
theorem findColumn?_eq_none_iff {name : String} {columns : List (Column τ)} :
    findColumn? name columns = none ↔ ∀ c ∈ columns, c.name ≠ name := by
  simp [findColumn?]

/-- A column that is found is there and has the name. -/
theorem mem_of_findColumn? {name : String} {columns : List (Column τ)} {c : Column τ}
    (h : findColumn? name columns = some c) : c ∈ columns ∧ c.name = name := by
  rw [findColumn?] at h
  exact ⟨List.mem_of_find?_eq_some h, by simpa using List.find?_some h⟩

/-- If names differ, a look-up finds every column by its name. -/
theorem findColumn?_eq_some_iff {name : String} {columns : List (Column τ)} {c : Column τ}
    (hnodup : (columns.map Column.name).Nodup) :
    findColumn? name columns = some c ↔ c ∈ columns ∧ c.name = name := by
  constructor
  · exact mem_of_findColumn?
  · rintro ⟨hc, rfl⟩
    cases hfind : findColumn? c.name columns with
    | none => exact absurd rfl (findColumn?_eq_none_iff.1 hfind c hc)
    | some found =>
      obtain ⟨hfound, hname⟩ := mem_of_findColumn? hfind
      rw [List.inj_on_of_nodup_map hnodup hfound hc hname]

variable [DecidableEq τ] {g : TypeGraph τ} {config : Config}

/-- A column carries the name of its field. -/
theorem Column.sourceName_of_ofField {f : Field τ} {c : Column τ}
    (h : Column.ofField g config f = .ok (some c)) : c.sourceName = f.name := by
  rw [Column.ofField, Column.build] at h
  dsimp only at h
  split at h
  · exact absurd h (by simp)
  · split at h
    · exact absurd h (by simp)
    · split at h
      · rw [Except.ok.injEq, Option.some.injEq] at h
        rw [← h, PendingColumn.foldl_apply_sourceName]
        rfl
      · exact absurd h (by simp)

-- ---------------------------------------------------------------------------
-- The loop over the fields
-- ---------------------------------------------------------------------------

/-- The columns of the given fields in order. A skipped field has none, and so has one whose column
cannot be built. -/
def builtColumns (g : TypeGraph τ) (config : Config) (fields : List (Field τ)) : List (Column τ) :=
  fields.filterMap fun f => (Column.ofField g config f).toOption.join

/-- A skipped field adds no column. -/
theorem builtColumns_cons_of_skipped {f : Field τ} {rest : List (Field τ)}
    (h : Column.ofField g config f = .ok none) :
    builtColumns g config (f :: rest) = builtColumns g config rest := by
  rw [builtColumns, List.filterMap_cons, h]
  rfl

/-- A field with a column adds it in front of those of the later fields. -/
theorem builtColumns_cons_of_some {f : Field τ} {rest : List (Field τ)} {c : Column τ}
    (h : Column.ofField g config f = .ok (some c)) :
    builtColumns g config (f :: rest) = c :: builtColumns g config rest := by
  rw [builtColumns, List.filterMap_cons, h]
  rfl

/-- Columns come from the fields in their order, some of which have none. -/
theorem sourceNames_builtColumns_sublist (g : TypeGraph τ) (config : Config)
    (fields : List (Field τ)) :
    ((builtColumns g config fields).map Column.sourceName).Sublist (fields.map Field.name) := by
  induction fields with
  | nil => exact List.Sublist.slnil
  | cons f rest ih =>
    cases h : Column.ofField g config f with
    | error e =>
      have hnone : builtColumns g config (f :: rest) = builtColumns g config rest := by
        rw [builtColumns, List.filterMap_cons, h]
        rfl
      rw [hnone]
      exact ih.cons _
    | ok column =>
      cases column with
      | none =>
        rw [builtColumns_cons_of_skipped h]
        exact ih.cons _
      | some c =>
        rw [builtColumns_cons_of_some h, List.map_cons, List.map_cons,
          Column.sourceName_of_ofField h]
        exact ih.cons_cons _

/-- The loop succeeds exactly if every field gives a column or is skipped and no name comes twice,
also among the columns that were there before. -/
theorem columnsOf_eq_ok_iff {table : String} {done columns : List (Column τ)}
    {fields : List (Field τ)} (hdone : (done.map Column.name).Nodup) :
    columnsOf g config table done fields = .ok columns ↔
      (∀ f ∈ fields, ∃ column, Column.ofField g config f = .ok column) ∧
        columns = done ++ builtColumns g config fields ∧ (columns.map Column.name).Nodup := by
  -- the columns found so far have different names at every turn of the loop
  induction fields generalizing done with
  | nil =>
    rw [columnsOf, Except.ok.injEq, builtColumns, List.filterMap_nil, List.append_nil]
    constructor
    · rintro rfl
      exact ⟨fun _ hf => absurd hf List.not_mem_nil, rfl, hdone⟩
    · rintro ⟨-, rfl, -⟩
      rfl
  | cons f rest ih =>
    rw [columnsOf, List.forall_mem_cons]
    cases h : Column.ofField g config f with
    | error e => simp
    | ok column =>
      cases column with
      | none =>
        dsimp only
        rw [ih hdone, builtColumns_cons_of_skipped h]
        simp
      | some c =>
        dsimp only
        rw [builtColumns_cons_of_some h]
        cases hfind : findColumn? c.name done with
        | some first =>
          -- the name is taken, so the columns cannot have different names
          obtain ⟨hfirst, hname⟩ := mem_of_findColumn? hfind
          dsimp only
          refine ⟨fun hfalse => absurd hfalse (by simp), ?_⟩
          rintro ⟨-, rfl, hnodup⟩
          rw [List.map_append, List.map_cons, List.nodup_append] at hnodup
          exact absurd hname
            (hnodup.2.2 _ (List.mem_map_of_mem hfirst) _ List.mem_cons_self)
        | none =>
          -- the name is free, so the columns with the new one still have different names
          have hfree : c.name ∉ done.map Column.name := by
            intro hmem
            obtain ⟨d, hd, hname⟩ := List.mem_map.1 hmem
            exact findColumn?_eq_none_iff.1 hfind d hd hname
          have hdone' : ((done ++ [c]).map Column.name).Nodup := by
            rw [List.map_append, List.map_singleton, List.nodup_append_comm]
            exact List.nodup_cons.2 ⟨hfree, hdone⟩
          dsimp only
          rw [ih hdone', List.append_assoc, List.singleton_append]
          simp

/-- The same for the loop from its beginning. -/
theorem columnsOf_nil_eq_ok_iff {table : String} {columns : List (Column τ)}
    {fields : List (Field τ)} :
    columnsOf g config table [] fields = .ok columns ↔
      (∀ f ∈ fields, ∃ column, Column.ofField g config f = .ok column) ∧
        columns = builtColumns g config fields ∧ (columns.map Column.name).Nodup :=
  columnsOf_eq_ok_iff List.nodup_nil

/-- Puts the column of a field, if it has one, behind the columns `done`. -/
def placeColumn (table : String) (done : List (Column τ)) :
    Option (Column τ) → Except BuildError (List (Column τ))
  | none => .ok done
  | some c =>
    match findColumn? c.name done with
    | some first => .error (.duplicateColumn table c.name first.sourceName c.sourceName)
    | none => .ok (done ++ [c])

/-- One turn of the loop builds a column and puts it behind the others. -/
theorem columnsOf_cons (table : String) (done : List (Column τ)) (f : Field τ)
    (rest : List (Field τ)) :
    columnsOf g config table done (f :: rest) =
      ((Column.ofField g config f).bind (placeColumn table done)).bind
        (columnsOf g config table · rest) := by
  rw [columnsOf]
  cases Column.ofField g config f with
  | error e => rfl
  | ok column =>
    cases column with
    | none => rfl
    | some c =>
      rw [Except.bind, placeColumn]
      dsimp only
      cases findColumn? c.name done <;> rfl

/-- The loop over the fields is a walk through them that builds a column and places it. -/
theorem columnsOf_eq_foldlM (table : String) (done : List (Column τ)) (fields : List (Field τ)) :
    columnsOf g config table done fields =
      fields.foldlM (fun done f => (Column.ofField g config f).bind (placeColumn table done)) done := by
  induction fields generalizing done with
  | nil => rfl
  | cons f rest ih =>
    rw [columnsOf_cons, List.foldlM_cons]
    exact congrArg (Except.bind _) (funext ih)

/-- The problem of the loop is the problem of the first turn that has one. -/
theorem columnsOf_eq_error_iff {table : String} {done : List (Column τ)} {fields : List (Field τ)}
    {e : BuildError} :
    columnsOf g config table done fields = .error e ↔
      ∃ front f back columns, fields = front ++ f :: back ∧
        columnsOf g config table done front = .ok columns ∧
        (Column.ofField g config f).bind (placeColumn table columns) = .error e := by
  simp only [columnsOf_eq_foldlM]
  exact foldlM_eq_error_iff

-- ---------------------------------------------------------------------------
-- The table
-- ---------------------------------------------------------------------------

namespace Table

/-- The fields that are candidates for columns have different names. -/
theorem nodup_names_columnFields (g : TypeGraph τ) (t : τ) :
    ((g.columnFields t).map Field.name).Nodup := by
  have hsub : ((g.columnFields t).map Field.name).Sublist
      ((g.visibleFields t).map (·.field.name)) := by
    rw [TypeGraph.columnFields, List.map_map]
    exact List.filter_sublist.map _
  exact hsub.nodup (nodup_names_unshadowed _)

/-- A table is built exactly if the base type is structured and the loop over its fields succeeds. -/
theorem build_eq_ok_iff {root : τ} {options : TableOptions} {table : Table τ} :
    build g config root options = .ok table ↔
      (∃ own, g.fields? (g.resolve root).type = some own) ∧
      ∃ columns, columnsOf g config (nameFor options (g.shape (g.resolve root).type).typeName) []
          (g.columnFields (g.resolve root).type) = .ok columns ∧
        table =
          { name := nameFor options (g.shape (g.resolve root).type).typeName
            sourceName := unqualifiedName (g.shape (g.resolve root).type).typeName
            columns
            comment := options.comment.filter (· ≠ "")
            primaryKey := options.primaryKey
            indexes := options.indexes
            uniqueIndexes := options.uniqueIndexes
            foreignKeys := options.foreignKeys
            fullTextIndexes := options.fullTextIndexes
            spatialIndexes := options.spatialIndexes } := by
  rw [build, TypeGraph.fields?]
  dsimp only
  cases (g.shape (g.resolve root).type).body.fields? with
  | none => simp
  | some own =>
    dsimp only
    cases columnsOf g config (nameFor options (g.shape (g.resolve root).type).typeName) []
        (g.columnFields (g.resolve root).type) with
    | error e => simp
    | ok columns => simp [eq_comm]

/--
**A table and its columns.** A table is built exactly if the base type is structured, every candidate
field gives a column or is skipped, and the columns have different names. Then its columns are those
of the candidate fields, in their order; they come from fields of different names, and a look-up
finds each by its name and nothing else. The table's name is the declared one as it stands, else the
type's identifier in snake case, an empty comment is none, and keys and indexes are the declared
ones.
-/
theorem build_ok_iff_columns_distinct (g : TypeGraph τ) (config : Config) (root : τ)
    (options : TableOptions) :
    ((∃ table, build g config root options = .ok table) ↔
      (∃ own, g.fields? (g.resolve root).type = some own) ∧
      (∀ f ∈ g.columnFields (g.resolve root).type,
        ∃ column, Column.ofField g config f = .ok column) ∧
      ((builtColumns g config (g.columnFields (g.resolve root).type)).map Column.name).Nodup) ∧
    ∀ table, build g config root options = .ok table →
      table.columns = builtColumns g config (g.columnFields (g.resolve root).type) ∧
      (table.columns.map Column.name).Nodup ∧
      (table.columns.map Column.sourceName).Nodup ∧
      (∀ name c, table.column? name = some c ↔ c ∈ table.columns ∧ c.name = name) ∧
      (∀ name, (∀ c ∈ table.columns, c.name ≠ name) → table.column? name = none) ∧
      (∀ name, options.name = some name → table.name = name) ∧
      (options.name = none →
        table.name = snakeCase (unqualifiedName (g.shape (g.resolve root).type).typeName)) ∧
      table.comment = (if options.comment = some "" then none else options.comment) ∧
      table.primaryKey = options.primaryKey ∧ table.indexes = options.indexes ∧
      table.uniqueIndexes = options.uniqueIndexes ∧ table.foreignKeys = options.foreignKeys ∧
      table.fullTextIndexes = options.fullTextIndexes ∧
      table.spatialIndexes = options.spatialIndexes := by
  have hloop : ∀ {name columns}, columnsOf g config name []
      (g.columnFields (g.resolve root).type) = .ok columns ↔
        (∀ f ∈ g.columnFields (g.resolve root).type,
          ∃ column, Column.ofField g config f = .ok column) ∧
        columns = builtColumns g config (g.columnFields (g.resolve root).type) ∧
        (columns.map Column.name).Nodup :=
    columnsOf_eq_ok_iff List.nodup_nil
  refine ⟨⟨?_, ?_⟩, ?_⟩
  · rintro ⟨table, hbuild⟩
    obtain ⟨hown, columns, hcolumns, -⟩ := build_eq_ok_iff.1 hbuild
    obtain ⟨hfields, rfl, hnodup⟩ := hloop.1 hcolumns
    exact ⟨hown, hfields, hnodup⟩
  · rintro ⟨hown, hfields, hnodup⟩
    exact ⟨_, build_eq_ok_iff.2 ⟨hown, _, hloop.2 ⟨hfields, rfl, hnodup⟩, rfl⟩⟩
  · intro table hbuild
    obtain ⟨-, columns, hcolumns, rfl⟩ := build_eq_ok_iff.1 hbuild
    obtain ⟨-, rfl, hnodup⟩ := hloop.1 hcolumns
    -- visible fields have different names, and the columns inherit that
    have hsources := (sourceNames_builtColumns_sublist g config _).nodup
      (nodup_names_columnFields g (g.resolve root).type)
    refine ⟨rfl, hnodup, hsources, fun name c => findColumn?_eq_some_iff hnodup,
      fun name hno => findColumn?_eq_none_iff.2 hno, ?_, ?_, ?_, rfl, rfl, rfl, rfl, rfl, rfl⟩
    · intro name hname
      show nameFor options _ = name
      rw [nameFor, hname]
      rfl
    · intro hname
      show nameFor options _ = _
      rw [nameFor, hname]
      rfl
    · show options.comment.filter (· ≠ "") = _
      cases options.comment with
      | none => rfl
      | some text => by_cases htext : text = "" <;> simp [htext]

end Table

end TableSchema
