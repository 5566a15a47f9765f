import TableSchema.Definition.Derive
import TableSchema.Proofs.Definition.FieldAttribute
import TableSchema.Proofs.Table.Correspondence

/-!
# What follows from a definition

Two implementations follow from one definition. The shape shows the fields with their annotations, the
table options carry what is declared about the table. Both read the attributes of the type, so where
the first one succeeds, the second one does.

* `FieldDefinition.Describes`, `Shows` — the shape that a definition has.
* `Refused`, `exists_shape_error_iff` — the definitions that have none.
* `table`, `tableBuild_of_fields`, `tableBuild_of_alternatives` — the table of a type of that shape.
* `shape_and_table_of_definition` — from the definition to the table.
-/

namespace TableSchema

namespace Definition

-- ---------------------------------------------------------------------------
-- Fields
-- ---------------------------------------------------------------------------

/-- The field of a shape is what the definition of a field says. -/
structure FieldDefinition.Describes (f : FieldDefinition) (shown : Field String) : Prop where
  raw : "r#".toList <+: f.name.toList → f.name = "r#" ++ shown.name
  plain : ¬ "r#".toList <+: f.name.toList → shown.name = f.name
  type : shown.type = f.type
  tags : shown.tags = f.attributes.flatMap Attribute.annotations
  embedded : shown.embedded = decide (.bare "embed" ∈ schemaItems f.attributes)

/-- The plain name of a raw identifier is what stands behind its mark. -/
theorem plainName_of_raw {identifier : String} (h : "r#".toList <+: identifier.toList) :
    identifier = "r#" ++ plainName identifier := by
  obtain ⟨rest, hrest⟩ := h
  have hchars : identifier.toList = 'r' :: '#' :: rest := hrest.symm
  have hname : plainName identifier = String.ofList rest := by
    simp [plainName, hchars]
  rw [hname, ← String.toList_inj, String.toList_append, ← hrest]
  exact congrArg _ String.toList_ofList.symm

/-- An identifier without the mark is its own plain name. -/
theorem plainName_of_plain {identifier : String} (h : ¬ "r#".toList <+: identifier.toList) :
    plainName identifier = identifier := by
  rw [plainName]
  split
  · next rest hchars => exact absurd ⟨rest, hchars.symm⟩ h
  · rfl

/-- What is derived of a field is described by its definition. -/
theorem FieldDefinition.describes_of_field {f : FieldDefinition} {shown : Field String}
    (h : f.field = .ok shown) : f.Describes shown := by
  rw [FieldDefinition.field] at h
  obtain ⟨options, hoptions, h⟩ := bind_eq_ok_iff.mp h
  obtain rfl := Except.ok.inj h
  obtain ⟨htags, hembedded⟩ := annotations_of_fieldOptions hoptions
  exact ⟨plainName_of_raw, plainName_of_plain, rfl, htags, hembedded⟩

/-- A field is derived exactly if its annotations are accepted. -/
theorem FieldDefinition.exists_field_iff {f : FieldDefinition} :
    (∃ shown, f.field = .ok shown) ↔ ∃ options, fieldOptions f.attributes = .ok options := by
  rw [FieldDefinition.field]
  cases fieldOptions f.attributes <;> simp [bind, Except.bind]

-- ---------------------------------------------------------------------------
-- Shapes
-- ---------------------------------------------------------------------------

/-- What a shape shows of a definition. -/
structure Shows (d : Definition) (s : DerivedShape) : Prop where
  named : ∀ fields, d.content = .named fields →
    ∃ shown, s.fields = some shown ∧ List.Forall₂ FieldDefinition.Describes fields shown
  unit : d.content = .unit → s.fields = some []
  alternatives : d.content = .alternatives → s.fields = none
  json : s.json = decide (.bare "json" ∈ schemaItems d.attributes)

/-- The reasons to refuse a definition. -/
inductive Refused (d : Definition) : Prop
  | type (attributes : RefusedOfType d.attributes)
  | unnamed (content : d.content = .unnamed)
  | field {fields : List FieldDefinition} {f : FieldDefinition} {e : AttributeError}
      (content : d.content = .named fields) (mem : f ∈ fields)
      (refused : fieldOptions f.attributes = .error e)

/-- The fields that a content shows. -/
def Content.fields : Content → Except AttributeError (Option (List (Field String)))
  | .named fields => (fields.mapM FieldDefinition.field).map some
  | .unnamed => .error .unnamedFields
  | .unit => .ok (some [])
  | .alternatives => .ok none

/-- The annotations of the type are read first, then its fields. -/
theorem shape_eq (d : Definition) :
    d.shape = (structOptions d.attributes).bind fun options =>
      d.content.fields.map (⟨·, options.json⟩) := by
  rw [shape]
  refine congrArg (Except.bind (structOptions d.attributes)) (funext fun options => ?_)
  cases d.content with
  | named fields =>
    dsimp only [Content.fields]
    cases fields.mapM FieldDefinition.field <;> rfl
  | unnamed | unit | alternatives => rfl

/-- A shape is derived from the annotations of the type and from its fields, and from nothing else. -/
theorem shape_eq_ok_iff {d : Definition} {s : DerivedShape} :
    d.shape = .ok s ↔ ∃ options, structOptions d.attributes = .ok options ∧
      d.content.fields = .ok s.fields ∧ s.json = options.json := by
  rw [shape_eq, bind_eq_ok_iff]
  refine exists_congr fun options => and_congr_right fun _ => ?_
  rw [map_eq_ok_iff]
  constructor
  · rintro ⟨fields, hfields, rfl⟩
    exact ⟨hfields, rfl⟩
  · rintro ⟨hfields, hjson⟩
    exact ⟨_, hfields, by rw [← hjson]⟩

/-- A derived shape shows what its definition says, field by field. -/
theorem shows_of_shape {d : Definition} {s : DerivedShape} (h : d.shape = .ok s) : d.Shows s := by
  obtain ⟨options, hoptions, hfields, hjson⟩ := shape_eq_ok_iff.mp h
  obtain ⟨-, -, -, -, hmarker⟩ := structOptions_eq_ok_iff.mp hoptions
  constructor
  case named =>
    intro fields hcontent
    rw [hcontent, Content.fields, map_eq_ok_iff] at hfields
    obtain ⟨shown, hshown, hsome⟩ := hfields
    exact ⟨shown, hsome.symm, (mapM_eq_ok_iff.mp hshown).imp
      fun _ _ => FieldDefinition.describes_of_field⟩
  case unit =>
    intro hcontent
    rw [hcontent] at hfields
    exact (Except.ok.inj hfields).symm
  case alternatives =>
    intro hcontent
    rw [hcontent] at hfields
    exact (Except.ok.inj hfields).symm
  case json => rw [hjson, hmarker]

/-- Fields are refused if they have no names or if the annotations of one of them are refused. -/
theorem exists_fields_error_iff {c : Content} :
    (∃ e, c.fields = .error e) ↔ c = .unnamed ∨ ∃ fields, c = .named fields ∧
      ∃ f ∈ fields, ∃ e, fieldOptions f.attributes = .error e := by
  cases c with
  | named fields =>
    have hfields : (∃ e, (Content.named fields).fields = .error e) ↔
        ∃ f ∈ fields, ∃ e, fieldOptions f.attributes = .error e := by
      simp only [Content.fields, map_eq_error_iff]
      rw [exists_error_iff, exists_mapM_iff]
      simp only [FieldDefinition.exists_field_iff, exists_error_iff, not_forall, exists_prop]
    simp [hfields]
  | unnamed | unit | alternatives => simp [Content.fields]

/-- A definition is refused exactly for one of the reasons to refuse it. -/
theorem exists_shape_error_iff {d : Definition} : (∃ e, d.shape = .error e) ↔ d.Refused := by
  rw [shape_eq]
  constructor
  · rintro ⟨e, h⟩
    rcases bind_eq_error_iff.mp h with h | ⟨options, -, h⟩
    · exact .type (exists_structOptions_error_iff.mp ⟨e, h⟩)
    · rcases exists_fields_error_iff.mp ⟨e, map_eq_error_iff.mp h⟩ with
        hcontent | ⟨fields, hcontent, f, hf, e, he⟩
      · exact .unnamed hcontent
      · exact .field hcontent hf he
  · intro h
    -- a type that is refused for its attributes is refused whatever its content
    cases hoptions : structOptions d.attributes with
    | error e => exact ⟨e, rfl⟩
    | ok options =>
      have hfields : ∃ e, d.content.fields = .error e := by
        cases h with
        | type hrefused =>
          obtain ⟨e, he⟩ := exists_structOptions_error_iff.mpr hrefused
          rw [hoptions] at he
          cases he
        | unnamed hcontent => exact exists_fields_error_iff.mpr (.inl hcontent)
        | field hcontent hf he =>
          exact exists_fields_error_iff.mpr (.inr ⟨_, hcontent, _, hf, _, he⟩)
      obtain ⟨e, he⟩ := hfields
      exact ⟨e, map_eq_error_iff.mpr he⟩

-- ---------------------------------------------------------------------------
-- Tables
-- ---------------------------------------------------------------------------

/-- The text that the attributes of a definition assign to a name. -/
def assigned? (d : Definition) (name : String) : Option String :=
  (Item.textsUnder name (schemaItems d.attributes)).head?

/-- The name of the table. -/
def tableName (d : Definition) (typeName : String) : String :=
  (d.assigned? "table").getD (snakeCase (unqualifiedName typeName))

/-- The table of a definition with the given columns. It never has a key or an index. -/
def table {τ : Type} (d : Definition) (typeName : String) (columns : List (Column τ)) : Table τ where
  name := d.tableName typeName
  sourceName := unqualifiedName typeName
  columns
  comment := (d.assigned? "comment").filter (· ≠ "")
  primaryKey := none
  indexes := []
  uniqueIndexes := []
  foreignKeys := []
  fullTextIndexes := []
  spatialIndexes := []

theorem eq_head?_of_toList {α : Type} {slot : Option α} {l : List α} (h : slot.toList = l) :
    slot = l.head? := by
  rw [← h]
  cases slot <;> rfl

/-- The declared name and comment of a table are the texts that the annotations assign. -/
theorem tableOptions_of_structOptions {d : Definition} {o : StructOptions}
    (h : structOptions d.attributes = .ok o) :
    d.tableOptions = .ok { name := d.assigned? "table", comment := d.assigned? "comment" } := by
  obtain ⟨-, -, htable, hcomment, -⟩ := structOptions_eq_ok_iff.mp h
  rw [tableOptions, h, assigned?, assigned?, ← eq_head?_of_toList htable,
    ← eq_head?_of_toList hcomment]
  rfl

section

variable {τ : Type} [DecidableEq τ] {g : TypeGraph τ} {d : Definition} {s : DerivedShape} {t : τ}
  {typeOf : String → τ} {typeName : String}

/-- The table of a derived structure is built from its fields and its declared name and comment. -/
theorem tableBuild_of_fields {fields : List (Field String)} (config : Config)
    (hshape : g.shape t = s.toShape typeOf typeName) (hfields : s.fields = some fields) :
    Table.build g config t { name := d.assigned? "table", comment := d.assigned? "comment" } =
      (columnsOf g config (d.tableName typeName) [] (g.columnFields t)).map (d.table typeName) := by
  have hkind : (g.shape t).body.kind = .struct := by
    rw [hshape, DerivedShape.toShape, hfields]
    rfl
  have hresolve : g.resolve t = ⟨t, false⟩ := TypeGraph.resolve_of_kind hkind
  have htypeName : (g.shape t).typeName = typeName := by
    rw [hshape]
    rfl
  rw [Table.build_of_struct (by rwa [hresolve]), hresolve, htypeName]
  rfl

/-- A derived type with alternatives has no table. -/
theorem tableBuild_of_alternatives (config : Config) (options : TableOptions)
    (hshape : g.shape t = s.toShape typeOf typeName) (hfields : s.fields = none) :
    Table.build g config t options = .error (.notAStruct typeName .hidden) := by
  have hbody : (g.shape t).body = .hidden := by
    rw [hshape, DerivedShape.toShape, hfields]
  have hresolve : g.resolve t = ⟨t, false⟩ := by
    apply TypeGraph.resolve_of_unwrap?_none
    rw [TypeGraph.unwrap?, hbody]
    rfl
  have htypeName : (g.shape t).typeName = typeName := by
    rw [hshape]
    rfl
  rw [Table.build_of_kind (by simp [hresolve, hbody, Body.kind]), hresolve, hbody, htypeName]
  rfl

end

/--
**From a definition to its table.** A definition is refused exactly for an attribute of the type that is
no list, for an item in one that is no name and comment and no document marker or comes twice, for
fields without names, and for a field whose attributes are refused. Any other definition has a shape,
which shows its fields in order, each with all of its annotations; and it has table options. The table
of a type of that shape, in any program and under any settings, is made of the columns of its fields
alone, with the name and the comment that are declared; a type that shows no fields has none.
-/
theorem shape_and_table_of_definition (d : Definition) :
    ((∃ e, d.shape = .error e) ↔ d.Refused) ∧
    ∀ s, d.shape = .ok s →
      d.Shows s ∧
      ∃ options, d.tableOptions = .ok options ∧
        ∀ (τ : Type) [DecidableEq τ] (g : TypeGraph τ) (config : Config) (t : τ)
          (typeOf : String → τ) (typeName : String), g.shape t = s.toShape typeOf typeName →
          (∀ fields, s.fields = some fields →
            Table.build g config t options =
              (columnsOf g config (d.tableName typeName) [] (g.columnFields t)).map
                (d.table typeName)) ∧
          (s.fields = none →
            Table.build g config t options = .error (.notAStruct typeName .hidden)) := by
  refine ⟨exists_shape_error_iff, ?_⟩
  intro s h
  obtain ⟨o, ho, -, -⟩ := shape_eq_ok_iff.mp h
  refine ⟨shows_of_shape h, _, tableOptions_of_structOptions ho, ?_⟩
  intro τ _ g config t typeOf typeName hshape
  constructor
  · intro fields hfields
    exact tableBuild_of_fields config hshape hfields
  · intro hfields
    exact tableBuild_of_alternatives config _ hshape hfields

/-- A note with the name of its table, an empty comment and attributes of others in between. -/
def note : Definition where
  name := "Note"
  parameters := []
  attributes := [⟨"ddl", .list [.assign "table" "notes"]⟩, ⟨"serde", .list [.bare "default"]⟩,
    ⟨"ddl", .list [.assign "comment" "", .bare "json"]⟩]
  content := .named [⟨"r#type", "String",
    [⟨"ddl", .assigned (.text "kind,size=9" false)⟩, ⟨"serde", .list [.bare "skip"]⟩,
      ⟨"tag", .list [.assign "json" "t"]⟩]⟩]

/-- The field that a note shows. -/
def kindField {τ : Type} (type : τ) : Field τ :=
  ⟨"type", type, [("ddl", "kind,size=9"), ("json", "t")], false⟩

/-- The types of a program with notes. -/
inductive NoteType where
  | text
  | note
deriving DecidableEq

/-- Texts, and notes with the shape that follows from their definition. -/
def noteTypes : TypeGraph NoteType where
  shape
    | .text => ⟨"String", .scalar .string, false⟩
    | .note => DerivedShape.toShape (fun _ => .text) "app::Note" ⟨some [kindField "String"], true⟩
  reach _ := [.text, .note]
  mem_reach_self t := by cases t <;> decide
  mem_reach_of_mentions {_ _ u} _ _ := by cases u <;> decide

/-- The column of the kind of a note. -/
def kindColumn : Column NoteType :=
  ((PendingColumn.start "kind" "type" ⟨.text, false⟩ (some ⟨"VARCHAR", 191, false⟩)).apply
    (.size 9)).column

theorem columnFields_noteTypes :
    noteTypes.columnFields .note = [kindField .text] := by
  have hown : noteTypes.ownFields .note = [kindField .text] := rfl
  rw [← hown]
  apply TypeGraph.columnFields_of_not_embeds
  · rintro f hf t ⟨hmark, -, -⟩
    rw [hown, List.mem_singleton] at hf
    rw [hf] at hmark
    cases hmark
  · decide

/-- The attributes of others and the empty comment leave no trace. -/
theorem shape_and_table_of_note :
    note.shape = .ok ⟨some [kindField "String"], true⟩ ∧ note.Shows ⟨some [kindField "String"], true⟩ ∧
      ∃ options, note.tableOptions = .ok options ∧
        Table.build noteTypes {} .note options = .ok (note.table "app::Note" [kindColumn]) ∧
        (note.table "app::Note" [kindColumn]).name = "notes" ∧
        (note.table "app::Note" [kindColumn]).comment = none := by
  have hshape : note.shape = .ok ⟨some [kindField "String"], true⟩ := by decide +kernel
  obtain ⟨hshows, options, hoptions, htable⟩ := (shape_and_table_of_definition note).2 _ hshape
  have hbuilt := (htable NoteType noteTypes {} .note (fun _ => .text) "app::Note" rfl).1 _ rfl
  have hkind : Column.ofField noteTypes {} (kindField .text) = .ok (some kindColumn) := by
    have hresolve : noteTypes.resolve .text = ⟨.text, false⟩ := TypeGraph.resolve_of_unwrap?_none rfl
    show Column.build noteTypes {} "type" .text (Column.rawTag {} (kindField NoteType.text)) = _
    rw [Column.build, hresolve]
    decide +kernel
  rw [columnFields_noteTypes, columnsOf, hkind] at hbuilt
  exact ⟨hshape, hshows, options, hoptions, hbuilt, by decide +kernel, by decide +kernel⟩

end Definition

end TableSchema
