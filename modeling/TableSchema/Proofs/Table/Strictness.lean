import TableSchema.Proofs.Fields.Cleaning
import TableSchema.Proofs.Table.Correspondence

/-!
# Strict settings and tables

Strict settings only reject: a table that they build is the one that lenient settings build, and any
other problem than an unknown option is the same under both. They refuse a table for the first unknown
option in the order of the fields, if nothing in front of it is wrong. Lenient settings do not see
unknown options at all.

* `columnsOf_onlyRejects`, `Table.build_onlyRejects` — the comparison of the two runs, for the loop
  over the fields and for tables.
* `Table.build_eq_unknownOption_iff` — which option a table is refused for.
* `strict_build_only_rejects` — the results of the two runs.
-/

namespace TableSchema

variable {τ : Type}

/-- Placing a column is never refused for an option. -/
theorem placeColumn_ne_unknownOption {table field option : String} {done : List (Column τ)}
    {column : Option (Column τ)} :
    placeColumn table done column ≠ .error (.unknownOption field option) := by
  cases column with
  | none => simp [placeColumn]
  | some c =>
    rw [placeColumn]
    split <;> simp

variable [DecidableEq τ] {g : TypeGraph τ} {config : Config}

-- ---------------------------------------------------------------------------
-- The loop over the fields
-- ---------------------------------------------------------------------------

/-- For the columns of a table strictness only rejects. -/
theorem columnsOf_onlyRejects (g : TypeGraph τ) (config : Config) (table : String)
    (done : List (Column τ)) (fields : List (Field τ)) :
    OnlyRejects (columnsOf g (config.withStrict true) table done fields)
      (columnsOf g (config.withStrict false) table done fields) := by
  induction fields generalizing done with
  | nil => exact .refl _
  | cons f rest ih =>
    rw [columnsOf_cons, columnsOf_cons]
    have hfield := Column.ofField_onlyRejects g config f
    exact (hfield.bind fun column => .refl _).bind ih

/-- What strict settings build without a problem are the same columns. -/
theorem builtColumns_strict {fields : List (Field τ)}
    (h : ∀ f ∈ fields, ∃ column, Column.ofField g (config.withStrict true) f = .ok column) :
    builtColumns g (config.withStrict true) fields =
      builtColumns g (config.withStrict false) fields := by
  rw [builtColumns, builtColumns]
  apply List.filterMap_congr
  intro f hf
  obtain ⟨column, hstrict⟩ := h f hf
  have hlenient := (Column.ofField_onlyRejects g config f).eq_of_ok hstrict
  rw [hstrict, hlenient]

/-- The loop gets through under strict settings exactly if it does under lenient ones and strict
settings have nothing to refuse. -/
theorem columnsOf_strict_ok_iff {table : String} {fields : List (Field τ)} :
    (∃ columns, columnsOf g (config.withStrict true) table [] fields = .ok columns) ↔
      (∀ f ∈ fields, (∃ column, Column.ofField g (config.withStrict false) f = .ok column) ∧
        f.FullyKnown config) ∧
      ((builtColumns g (config.withStrict false) fields).map Column.name).Nodup := by
  constructor
  · rintro ⟨columns, hcolumns⟩
    obtain ⟨hfields, rfl, hnodup⟩ := columnsOf_nil_eq_ok_iff.1 hcolumns
    rw [builtColumns_strict hfields] at hnodup
    refine ⟨fun f hf => ?_, hnodup⟩
    obtain ⟨column, hstrict⟩ := hfields f hf
    obtain ⟨hlenient, hknown⟩ := Column.ofField_strict_eq_ok_iff.1 hstrict
    exact ⟨⟨column, hlenient⟩, hknown⟩
  · rintro ⟨hfields, hnodup⟩
    have hstrict : ∀ f ∈ fields,
        ∃ column, Column.ofField g (config.withStrict true) f = .ok column := by
      intro f hf
      obtain ⟨⟨column, hlenient⟩, hknown⟩ := hfields f hf
      exact ⟨column, Column.ofField_strict_eq_ok_iff.2 ⟨hlenient, hknown⟩⟩
    rw [← builtColumns_strict hstrict] at hnodup
    exact ⟨_, columnsOf_nil_eq_ok_iff.2 ⟨hstrict, rfl, hnodup⟩⟩

/-- The loop is refused for an unknown option of the first field that is refused for one, if all the
fields in front of it get through. -/
theorem columnsOf_eq_unknownOption_iff {table field key : String} {fields : List (Field τ)} :
    columnsOf g (config.withStrict true) table [] fields = .error (.unknownOption field key) ↔
      ∃ front f back, fields = front ++ f :: back ∧
        (∃ columns, columnsOf g (config.withStrict true) table [] front = .ok columns) ∧
        Column.ofField g (config.withStrict true) f = .error (.unknownOption field key) := by
  rw [columnsOf_eq_error_iff]
  constructor
  · rintro ⟨front, f, back, columns, hsplit, hfront, hturn⟩
    -- placing a column may fail for its name only
    have hfield : Column.ofField g (config.withStrict true) f = .error (.unknownOption field key) := by
      rcases bind_eq_error_iff.1 hturn with hfield | ⟨column, -, hplace⟩
      · exact hfield
      · exact absurd hplace placeColumn_ne_unknownOption
    exact ⟨front, f, back, hsplit, ⟨columns, hfront⟩, hfield⟩
  · rintro ⟨front, f, back, hsplit, ⟨columns, hfront⟩, hfield⟩
    exact ⟨front, f, back, columns, hsplit, hfront, bind_eq_error_iff.2 (.inl hfield)⟩

-- ---------------------------------------------------------------------------
-- Tables
-- ---------------------------------------------------------------------------

/-- Only structures have candidates for columns. -/
theorem columnFields_of_kind {t : τ} (h : (g.shape t).body.kind ≠ .struct) :
    g.columnFields t = [] := by
  have hown : g.ownFields t = [] := by
    rw [TypeGraph.ownFields, TypeGraph.fields?]
    cases hbody : (g.shape t).body with
    | struct fields => exact absurd (congrArg Body.kind hbody) h
    | _ => rfl
  exact TypeGraph.columnFields_of_ownFields_nil hown

namespace Table

/-- For a table strictness only rejects. -/
theorem build_onlyRejects (g : TypeGraph τ) (config : Config) (root : τ) (options : TableOptions) :
    OnlyRejects (build g (config.withStrict true) root options)
      (build g (config.withStrict false) root options) := by
  by_cases hstruct : (g.shape (g.resolve root).type).body.kind = .struct
  · rw [build_of_struct hstruct, build_of_struct hstruct]
    exact (columnsOf_onlyRejects g config _ _ _).map _
  · rw [build_of_kind hstruct, build_of_kind hstruct]
    exact .refl _

/-- A table is refused for an unknown option of the first field that is refused for one. -/
theorem build_eq_unknownOption_iff {root : τ} {options : TableOptions} {field key : String} :
    build g (config.withStrict true) root options = .error (.unknownOption field key) ↔
      ∃ front f back, g.columnFields (g.resolve root).type = front ++ f :: back ∧
        (∀ e ∈ front, (∃ column, Column.ofField g (config.withStrict false) e = .ok column) ∧
          e.FullyKnown config) ∧
        ((builtColumns g (config.withStrict false) front).map Column.name).Nodup ∧
        Column.ofField g (config.withStrict true) f = .error (.unknownOption field key) := by
  by_cases hstruct : (g.shape (g.resolve root).type).body.kind = .struct
  · rw [build_of_struct hstruct, map_eq_error_iff, columnsOf_eq_unknownOption_iff]
    simp only [columnsOf_strict_ok_iff, and_assoc]
  · have hnone := columnFields_of_kind hstruct
    simp [build_of_kind hstruct, hnone]

end Table

-- ---------------------------------------------------------------------------
-- Types without unknown options
-- ---------------------------------------------------------------------------

/-- Under lenient settings, tables do not change with the unknown options of any field. -/
theorem TypeGraph.Corresponds.tableBuild_eq_of_cleaned {g' : TypeGraph τ}
    (h : g.Corresponds g' (Field.Cleaned config)) (root : τ) (options : TableOptions) :
    Table.build g' (config.withStrict false) root options =
      Table.build g (config.withStrict false) root options := by
  apply h.tableBuild_eq fun f f' hf => ⟨hf.name, hf.embedded, fun _ => by rw [hf.type]⟩
  intro f f' _ hf
  rw [Column.ofField, Column.ofField, hf.name, hf.type, h.columnBuild_eq]
  exact Column.build_of_known hf.tag

/--
**Strict settings only reject.** A run under strict settings that is not refused for an unknown option
ends like the run under lenient settings, with the same table or the same problem. It is refused
exactly if, in the order of the candidate fields, there is a field that is not skipped and has an
unknown option behind options that all apply, and all fields in front of it give columns of different
names and have no unknown option themselves, unless they are skipped. Under lenient settings, leaving
unknown options out of annotations changes no table, and they can be left out of all.
-/
theorem strict_build_only_rejects (g : TypeGraph τ) (config : Config) (root : τ)
    (options : TableOptions) :
    ((∀ field key, Table.build g (config.withStrict true) root options ≠
        .error (.unknownOption field key)) →
      Table.build g (config.withStrict true) root options =
        Table.build g (config.withStrict false) root options) ∧
    (∀ field key, Table.build g (config.withStrict true) root options =
        .error (.unknownOption field key) ↔
      ∃ front f back, g.columnFields (g.resolve root).type = front ++ f :: back ∧
        (∀ e ∈ front, (∃ column, Column.ofField g (config.withStrict false) e = .ok column) ∧
          ((e.tag config).name = .skipped ∨ ∀ o ∈ (e.tag config).options, o.isKnown = true)) ∧
        ((builtColumns g (config.withStrict false) front).map Column.name).Nodup ∧
        f.name = field ∧ (f.tag config).name ≠ .skipped ∧
        ∃ before o after, (f.tag config).options = before ++ o :: after ∧
          (∀ p ∈ before, p.Applies) ∧ o.isKnown = false ∧ o.key = key) ∧
    g.Corresponds (g.withoutUnknownOptions config) (Field.Cleaned config) ∧
    ∀ g', g.Corresponds g' (Field.Cleaned config) →
      Table.build g' (config.withStrict false) root options =
        Table.build g (config.withStrict false) root options := by
  refine ⟨?_, ?_, g.corresponds_withoutUnknownOptions config, ?_⟩
  · intro hnot
    exact (Table.build_onlyRejects g config root options).eq_of_not_refused hnot
  · intro field key
    rw [Table.build_eq_unknownOption_iff]
    simp only [Column.ofField_eq_unknownOption_iff, Field.FullyKnown]
  · intro g' hcleaned
    exact hcleaned.tableBuild_eq_of_cleaned root options

/-- A post with a title, behind a draft that has no column and an option that nobody knows. -/
def draftedPost : TypeGraph (Fin 2) :=
  .ofShapes #v[
    ⟨"String", .scalar .string, false⟩,
    ⟨"Post", .struct [⟨"draft", 0, [("ddl", "-,colour=red")], false⟩,
      ⟨"title", 0, [("ddl", ",size=10")], false⟩], false⟩]

theorem columnFields_draftedPost :
    draftedPost.columnFields (draftedPost.resolve 1).type =
      [⟨"draft", 0, [("ddl", "-,colour=red")], false⟩,
        ⟨"title", 0, [("ddl", ",size=10")], false⟩] := by
  have hresolve : draftedPost.resolve 1 = ⟨1, false⟩ := TypeGraph.resolve_of_unwrap?_none rfl
  have hown : draftedPost.ownFields 1 = [⟨"draft", 0, [("ddl", "-,colour=red")], false⟩,
      ⟨"title", 0, [("ddl", ",size=10")], false⟩] := rfl
  have hnot : ∀ f ∈ draftedPost.ownFields 1, ∀ t, ¬ draftedPost.Embeds f t := by
    rw [hown]
    rintro f hf t ⟨hmark, -, -⟩
    simp only [List.mem_cons, List.not_mem_nil, or_false] at hf
    rcases hf with rfl | rfl <;> cases hmark
  have hnodup : ((draftedPost.ownFields 1).map Field.name).Nodup := by simp [hown]
  rw [hresolve, TypeGraph.columnFields_of_not_embeds hnot hnodup, hown]

/-- A draft may have any options, because it has no column. -/
theorem strict_build_only_rejects_draftedPost :
    (∀ field key, Table.build draftedPost (Config.withStrict {} true) 1 {} ≠
        .error (.unknownOption field key)) ∧
      Table.build draftedPost (Config.withStrict {} true) 1 {} =
        Table.build draftedPost (Config.withStrict {} false) 1 {} ∧
      Table.build (draftedPost.withoutUnknownOptions {}) (Config.withStrict {} false) 1 {} =
        Table.build draftedPost (Config.withStrict {} false) 1 {} := by
  obtain ⟨hsame, hrefused, hcleaned, hclean⟩ := strict_build_only_rejects draftedPost {} 1 {}
  have hdraft : Field.tag {} (⟨"draft", 0, [("ddl", "-,colour=red")], false⟩ : Field (Fin 2)) =
      ⟨.skipped, [⟨"colour", some "red"⟩]⟩ := by decide +kernel
  have htitle : Field.tag {} (⟨"title", 0, [("ddl", ",size=10")], false⟩ : Field (Fin 2)) =
      ⟨.derived, [⟨"size", some "10"⟩]⟩ := by decide +kernel
  have hnot : ∀ field key, Table.build draftedPost (Config.withStrict {} true) 1 {} ≠
      .error (.unknownOption field key) := by
    intro field key hrefusal
    obtain ⟨front, f, back, hsplit, -, -, -, hname, before, o, after, hoptions, -, hunknown, -⟩ :=
      (hrefused field key).1 hrefusal
    have hf : f ∈ front ++ f :: back := by simp
    have ho : o ∈ before ++ o :: after := by simp
    rw [← hsplit, columnFields_draftedPost, List.mem_cons, List.mem_singleton] at hf
    rw [← hoptions] at ho
    rcases hf with rfl | rfl
    · exact hname (congrArg Tag.name hdraft)
    · rw [htitle, List.mem_singleton] at ho
      have hknown : o.isKnown = true := by
        rw [ho]
        rfl
      rw [hknown] at hunknown
      cases hunknown
  exact ⟨hnot, hsame hnot, hclean _ hcleaned⟩

end TableSchema
