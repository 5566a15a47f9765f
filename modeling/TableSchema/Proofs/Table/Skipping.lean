import TableSchema.Proofs.Column.Faults
import TableSchema.Proofs.Table.Columns
import TableSchema.Proofs.Table.Correspondence

/-!
# Skipped fields

A field is skipped if the name segment of its annotation is the skip marker. A skipped field has no
column, wherever it is visible. A marked field that embeds a structured type keeps the fields that are
seen through it out of a table only where nothing is left of them without their own marks.

* `Field.Skipped` — the annotation of a field has the skip marker.
* `SeenThrough` — fields that are visible through an embedding field.
* `skipped_fields_have_no_columns` — what the skip marker keeps out of a table.
* `marked_embedding_keeps_columns` — a marked field whose type shows its fields all the same.
-/

namespace TableSchema

-- ---------------------------------------------------------------------------
-- The marker
-- ---------------------------------------------------------------------------

variable {τ : Type}

/-- The name segment of the field's annotation is the skip marker, and not empty. -/
def Field.Skipped (config : Config) (f : Field τ) : Prop :=
  Tag.Skips (Column.rawTag config f) config.skipMarker

instance (config : Config) (f : Field τ) : Decidable (f.Skipped config) :=
  inferInstanceAs (Decidable (Tag.Skips _ _))

variable [DecidableEq τ] {g : TypeGraph τ} {config : Config}

/-- The skipped fields are those without column and without problem. -/
theorem Column.ofField_eq_none_iff {f : Field τ} :
    Column.ofField g config f = .ok none ↔ f.Skipped config := by
  constructor
  · intro h
    by_contra hnot
    obtain ⟨name, hname⟩ := exists_columnName_of_not_skips hnot f.name
    exact build_ne_none hname h
  · exact fun h => build_of_skipped (Tag.name_parse_eq_skipped_iff.2 h)

-- ---------------------------------------------------------------------------
-- Columns and their fields
-- ---------------------------------------------------------------------------

/-- The columns of fields are those that one of the fields has. -/
theorem mem_builtColumns_iff {fields : List (Field τ)} {c : Column τ} :
    c ∈ builtColumns g config fields ↔ ∃ f ∈ fields, Column.ofField g config f = .ok (some c) := by
  have hbuilt : ∀ x : Except BuildError (Option (Column τ)),
      x.toOption.join = some c ↔ x = .ok (some c) := by
    rintro (e | column)
    · simp [Except.toOption]
    · simp [Except.toOption]
  simp only [builtColumns, List.mem_filterMap, hbuilt]

/-- The candidates for columns are the visible fields that embed no structured type. -/
theorem TypeGraph.mem_columnFields_iff {t : τ} {f : Field τ} :
    f ∈ g.columnFields t ↔ ∃ o ∈ g.visibleFields t, o.promoted = false ∧ o.field = f := by
  simp [columnFields, and_assoc]

namespace Table

variable {root : τ} {options : TableOptions} {table : Table τ}

/-- A table that was built has the columns of its candidates, and each candidate has one or is
skipped. -/
theorem columns_of_build (hbuild : build g config root options = .ok table) :
    table.columns = builtColumns g config (g.columnFields (g.resolve root).type) ∧
      ∀ f ∈ g.columnFields (g.resolve root).type,
        ∃ column, Column.ofField g config f = .ok column := by
  obtain ⟨-, columns, hcolumns, rfl⟩ := build_eq_ok_iff.1 hbuild
  obtain ⟨hfields, hbuilt, -⟩ := columnsOf_nil_eq_ok_iff.1 hcolumns
  exact ⟨hbuilt, hfields⟩

/-- A column comes from one visible field, and from no other one. -/
theorem exists_field_of_column (hbuild : build g config root options = .ok table) {c : Column τ}
    (hc : c ∈ table.columns) :
    ∃ o ∈ g.visibleFields (g.resolve root).type,
      o.promoted = false ∧ ¬ o.field.Skipped config ∧
      Column.ofField g config o.field = .ok (some c) ∧
      ∀ other ∈ g.visibleFields (g.resolve root).type,
        other.field.name = c.sourceName → other = o := by
  rw [(columns_of_build hbuild).1, mem_builtColumns_iff] at hc
  obtain ⟨f, hf, hcolumn⟩ := hc
  obtain ⟨o, ho, hregular, rfl⟩ := TypeGraph.mem_columnFields_iff.1 hf
  refine ⟨o, ho, hregular, fun hskipped => ?_, hcolumn, fun other hother hname => ?_⟩
  · rw [Column.ofField_eq_none_iff.2 hskipped] at hcolumn
    cases hcolumn
  · -- visible fields have different names
    rw [Column.sourceName_of_ofField hcolumn] at hname
    exact List.inj_on_of_nodup_map (nodup_names_unshadowed _) hother ho hname

/-- A visible field has a column unless it embeds a structured type or is skipped. -/
theorem exists_column_iff (hbuild : build g config root options = .ok table) {o : Occurrence τ}
    (ho : o ∈ g.visibleFields (g.resolve root).type) :
    (∃ c ∈ table.columns, c.sourceName = o.field.name) ↔
      o.promoted = false ∧ ¬ o.field.Skipped config := by
  constructor
  · rintro ⟨c, hc, hname⟩
    obtain ⟨o', -, hregular, hskipped, -, hunique⟩ := exists_field_of_column hbuild hc
    rw [hunique o ho hname.symm]
    exact ⟨hregular, hskipped⟩
  · rintro ⟨hregular, hskipped⟩
    obtain ⟨hcolumns, hfields⟩ := columns_of_build hbuild
    have hf : o.field ∈ g.columnFields (g.resolve root).type :=
      TypeGraph.mem_columnFields_iff.2 ⟨o, ho, hregular, rfl⟩
    obtain ⟨column, hcolumn⟩ := hfields o.field hf
    cases column with
    | none => exact absurd (Column.ofField_eq_none_iff.1 hcolumn) hskipped
    | some c =>
      refine ⟨c, ?_, Column.sourceName_of_ofField hcolumn⟩
      rw [hcolumns, mem_builtColumns_iff]
      exact ⟨o.field, hf, hcolumn⟩

end Table

-- ---------------------------------------------------------------------------
-- What the marker keeps out
-- ---------------------------------------------------------------------------

/-- The field is seen through `f`: on the route to it a type `t` is entered that `f`, a field of the
type `s` in front of it, embeds. -/
def TypeGraph.SeenThrough (g : TypeGraph τ) (root : τ) (f : Field τ) (o : Occurrence τ) : Prop :=
  ∃ front t s path, g.Route root (front ++ t :: s :: path) ∧ (front ++ t :: s :: path).Nodup ∧
    f ∈ g.ownFields s ∧ g.Embeds f t ∧
    (∃ u, (front ++ t :: s :: path).head? = some u ∧ o.field ∈ g.ownFields u) ∧
    o.depth + 1 = (front ++ t :: s :: path).length

/--
**Skipped fields.** Every column of a table comes from exactly one visible field, whose name it
carries; that field neither embeds a structured type nor is it skipped. So no column comes from a
visible field with the skip marker. None comes from a field that is seen through a marked one either,
exactly if all fields that are seen through it embed structured types or are skipped themselves.
-/
theorem skipped_fields_have_no_columns {root : τ} {options : TableOptions} {table : Table τ}
    (hbuild : Table.build g config root options = .ok table) :
    (∀ c ∈ table.columns, ∃ o ∈ g.visibleFields (g.resolve root).type,
      o.promoted = false ∧ ¬ o.field.Skipped config ∧
      Column.ofField g config o.field = .ok (some c) ∧
      ∀ other ∈ g.visibleFields (g.resolve root).type,
        other.field.name = c.sourceName → other = o) ∧
    (∀ o ∈ g.visibleFields (g.resolve root).type, o.field.Skipped config →
      ∀ c ∈ table.columns, c.sourceName ≠ o.field.name) ∧
    ∀ f : Field τ, f.Skipped config →
      ((∀ o ∈ g.visibleFields (g.resolve root).type, g.SeenThrough (g.resolve root).type f o →
          ∀ c ∈ table.columns, c.sourceName ≠ o.field.name) ↔
        ∀ o ∈ g.visibleFields (g.resolve root).type, g.SeenThrough (g.resolve root).type f o →
          o.promoted = true ∨ o.field.Skipped config) := by
  have hnone : ∀ o ∈ g.visibleFields (g.resolve root).type,
      (∀ c ∈ table.columns, c.sourceName ≠ o.field.name) ↔
        (o.promoted = true ∨ o.field.Skipped config) := by
    intro o ho
    rw [← not_iff_not, not_or, Bool.not_eq_true, ← Table.exists_column_iff hbuild ho]
    simp only [not_forall, not_not, exists_prop, ne_eq]
  refine ⟨fun c hc => Table.exists_field_of_column hbuild hc, fun o ho hskipped => ?_,
    fun f _ => ?_⟩
  · exact (hnone o ho).2 (.inr hskipped)
  · exact forall₂_congr fun o ho => imp_congr_right fun _ => hnone o ho

-- ---------------------------------------------------------------------------
-- A marked field that embeds a type
-- ---------------------------------------------------------------------------

/-- The types of a program with posts. -/
inductive PostType where
  | string
  | stamp
  | post
deriving DecidableEq

/-- The annotation of a field that is to be skipped. -/
def marked : List (String × String) :=
  [("ddl", "-")]

/-- A text of a post or a stamp. -/
def textField (name : String) (tags : List (String × String)) : Field PostType :=
  ⟨name, .string, tags, false⟩

/-- The field of a post that embeds its stamp. -/
def stampField (tags : List (String × String)) : Field PostType :=
  ⟨"stamp", .stamp, tags, true⟩

/-- A post with a draft and an embedded stamp, whose only field is its time; the three fields have the
given annotations. -/
def timedPost (draft stamp time : List (String × String)) : TypeGraph PostType where
  shape
    | .string => ⟨"String", .scalar .string, false⟩
    | .stamp => ⟨"Stamp", .struct [textField "at" time], false⟩
    | .post => ⟨"Post", .struct [textField "draft" draft, stampField stamp], false⟩
  reach _ := [.string, .stamp, .post]
  mem_reach_self t := by cases t <;> decide
  mem_reach_of_mentions {_ _ u} _ _ := by cases u <;> decide

section Post

variable (draft stamp time : List (String × String))

theorem resolve_timedPost :
    (timedPost draft stamp time).resolve .post = ⟨.post, false⟩ :=
  TypeGraph.resolve_of_unwrap?_none rfl

/-- The stamp of a post is embedded, whatever its annotation. -/
theorem embeds_timedPost : (timedPost draft stamp time).Embeds (stampField stamp) .stamp :=
  ⟨rfl, by rw [stampField, TypeGraph.resolve_of_unwrap?_none rfl], rfl⟩

/-- The time of a stamp is seen through the field that embeds the stamp. -/
theorem seenThrough_timedPost :
    (timedPost draft stamp time).SeenThrough .post (stampField stamp)
      ⟨textField "at" time, 1, false⟩ := by
  have hstamp : stampField stamp ∈ (timedPost draft stamp time).ownFields .post :=
    List.mem_cons_of_mem _ List.mem_cons_self
  have hembeds := embeds_timedPost draft stamp time
  exact ⟨[], .stamp, .post, [], .enter .start hstamp hembeds, by decide, hstamp, hembeds,
    ⟨.stamp, rfl, List.mem_cons_self⟩, rfl⟩

/-- All three fields are visible, whatever their annotations. -/
theorem visibleFields_timedPost :
    (timedPost draft stamp time).visibleFields .post =
      [⟨textField "draft" draft, 0, false⟩, ⟨stampField stamp, 0, true⟩,
        ⟨textField "at" time, 1, false⟩] := by
  have hplain : ∀ name tags t, ¬ (timedPost draft stamp time).Embeds (textField name tags) t := by
    rintro name tags t ⟨hmark, -, -⟩
    cases hmark
  have hwalk : (timedPost draft stamp time).Preorder [.post] 0
      ((timedPost draft stamp time).ownFields .post) _ :=
    .regular (hplain "draft" _) (.entered (embeds_timedPost draft stamp time) (by decide)
      (.regular (hplain "at" _) (.nil _ _)) (.nil _ _))
  rw [TypeGraph.visibleFields,
    ← (TypeGraph.preorder_occurrences (timedPost draft stamp time) .post).unique hwalk]
  rfl

/-- The table of a post, given the columns of its draft and of its time. -/
theorem build_timedPost {columns : List (Column PostType)}
    (hcolumns : ∀ name, columnsOf (timedPost draft stamp time) {} name []
      [textField "draft" draft, textField "at" time] = .ok columns) :
    ∃ table, Table.build (timedPost draft stamp time) {} .post {} = .ok table ∧
      table.columns = columns := by
  have hfields : (timedPost draft stamp time).columnFields .post =
      [textField "draft" draft, textField "at" time] := by
    rw [TypeGraph.columnFields, visibleFields_timedPost]
    rfl
  have hpost := resolve_timedPost draft stamp time
  rw [Table.build_of_struct (by rw [hpost]; rfl), hpost, hfields, hcolumns]
  exact ⟨_, rfl, rfl⟩

/-- The column of a text without annotation. -/
def textColumn (name : String) : Column PostType :=
  (PendingColumn.start name name ⟨.string, false⟩ (some ⟨"VARCHAR", 191, false⟩)).column

/-- A text without annotation has a column of its own name. -/
theorem ofField_textField {name : String}
    (hname : (Tag.parse "" "-").name.columnName? name = some name) :
    Column.ofField (timedPost draft stamp time) {} (textField name []) =
      .ok (some (textColumn name)) := by
  have hnone : (Tag.parse "" "-").options = [] := by decide +kernel
  have htext : (timedPost draft stamp time).resolve .string = ⟨.string, false⟩ :=
    TypeGraph.resolve_of_unwrap?_none rfl
  show Column.build (timedPost draft stamp time) {} name .string "" = _
  rw [Column.build_of_name hname, hnone, htext]
  rfl

/-- A marked text has none. -/
theorem ofField_textField_marked (name : String) :
    Column.ofField (timedPost draft stamp time) {} (textField name marked) = .ok none := by
  have hskips : Tag.Skips "-" "-" := by decide +kernel
  exact Column.ofField_eq_none_iff.2 hskips

end Post

/-- Both fields of a post are marked, and yet the column of the stamp's time is in its table. -/
theorem marked_embedding_keeps_columns :
    (∀ f ∈ (timedPost marked marked []).ownFields .post, f.Skipped {}) ∧
    stampField marked ∈ (timedPost marked marked []).ownFields .post ∧
    (timedPost marked marked []).Embeds (stampField marked) .stamp ∧
    (timedPost marked marked []).ownFields .stamp = [textField "at" []] ∧
    ⟨textField "at" [], 1, false⟩ ∈ (timedPost marked marked []).visibleFields .post ∧
    (timedPost marked marked []).SeenThrough .post (stampField marked)
      ⟨textField "at" [], 1, false⟩ ∧
    ∃ table c, Table.build (timedPost marked marked []) {} .post {} = .ok table ∧
      c ∈ table.columns ∧ c.sourceName = "at" := by
  have hcolumns : ∀ name, columnsOf (timedPost marked marked []) {} name []
      [textField "draft" marked, textField "at" []] = .ok [textColumn "at"] := by
    intro name
    rw [columnsOf, ofField_textField_marked]
    dsimp only
    rw [columnsOf, ofField_textField _ _ _ (by decide +kernel)]
    rfl
  obtain ⟨table, hbuild, htable⟩ := build_timedPost marked marked [] hcolumns
  refine ⟨by decide +kernel, List.mem_cons_of_mem _ List.mem_cons_self, embeds_timedPost _ _ _, rfl,
    ?_, seenThrough_timedPost _ _ _, table, textColumn "at", hbuild, ?_, rfl⟩
  · rw [visibleFields_timedPost]
    exact List.mem_cons_of_mem _ (List.mem_cons_of_mem _ List.mem_cons_self)
  · rw [htable, List.mem_singleton]

/-- With a mark of its own the time of the stamp has no column, and the draft without a mark has one. -/
theorem skipped_fields_have_no_columns_timedPost :
    ∃ table, Table.build (timedPost [] marked marked) {} .post {} = .ok table ∧
      table.columns = [textColumn "draft"] ∧
      (∃ o ∈ (timedPost [] marked marked).visibleFields .post,
        Column.ofField (timedPost [] marked marked) {} o.field = .ok (some (textColumn "draft"))) ∧
      (stampField marked).Skipped {} ∧
      (timedPost [] marked marked).SeenThrough .post (stampField marked)
        ⟨textField "at" marked, 1, false⟩ ∧
      ∀ o ∈ (timedPost [] marked marked).visibleFields .post,
        (timedPost [] marked marked).SeenThrough .post (stampField marked) o →
          ∀ c ∈ table.columns, c.sourceName ≠ o.field.name := by
  have hcolumns : ∀ name, columnsOf (timedPost [] marked marked) {} name []
      [textField "draft" [], textField "at" marked] = .ok [textColumn "draft"] := by
    intro name
    rw [columnsOf, ofField_textField _ _ _ (by decide +kernel)]
    dsimp only
    rw [columnsOf, ofField_textField_marked]
    rfl
  obtain ⟨table, hbuild, htable⟩ := build_timedPost [] marked marked hcolumns
  have hmarked : (stampField marked).Skipped {} := by decide +kernel
  obtain ⟨horigin, -, hthrough⟩ := skipped_fields_have_no_columns hbuild
  have hthrough := hthrough (stampField marked) hmarked
  rw [resolve_timedPost] at horigin hthrough
  obtain ⟨o, ho, -, -, hcolumn, -⟩ := horigin (textColumn "draft") (by rw [htable, List.mem_singleton])
  refine ⟨table, hbuild, htable, ⟨o, ho, hcolumn⟩, hmarked, seenThrough_timedPost _ _ _,
    hthrough.2 ?_⟩
  rw [visibleFields_timedPost]
  intro o ho hseen
  simp only [List.mem_cons, List.not_mem_nil, or_false] at ho
  obtain rfl | rfl | rfl := ho
  · -- the draft is a field of the post itself
    obtain ⟨front, t, s, path, -, -, -, -, -, hdepth⟩ := hseen
    simp only [List.length_append, List.length_cons] at hdepth
    omega
  · exact .inl rfl
  · exact .inr (by decide +kernel)

end TableSchema
