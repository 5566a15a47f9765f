import TableSchema.Proofs.Json.Reading
import TableSchema.Registry.Basic

/-!
# Documents of tables lose nothing

A reader for the documents that registries write. It finds every member by its name, takes `null`
for an absent value and nothing else, and gives back the tables with the names of their types in
place of the types.

* `Table.ofJson?_toJson` — the reader inverts the JSON form of a table, and with it the forms of
  columns, keys, indexes and referential actions;
* `readTables?_tablesDocument` — the same from the text of a document;
* `Registry.toJson_lossless` — two documents are equal exactly if their tables are.
-/

namespace TableSchema

-- ---------------------------------------------------------------------------
-- Members
-- ---------------------------------------------------------------------------

namespace Json

/-- The first member of a name, read. -/
def memberAs? {α : Type} (name : String) (read? : Json → Option α) (j : Json) : Option α :=
  (j.member? name).bind read?

/-- A value that may be absent: `null`, or one that can be read. -/
def optional? {α : Type} (read? : Json → Option α) : Json → Option (Option α)
  | .null => some none
  | j => (read? j).map some

/-- A number of 32 bits. -/
def toWord? (j : Json) : Option UInt32 :=
  (j.toInt? 0 (UInt32.size - 1 : Nat)).map fun n => UInt32.ofNat n.toNat

variable {α : Type}

@[simp] theorem memberAs?_object_self (name : String) (read? : Json → Option α) (value : Json)
    (rest : List (String × Json)) :
    (object ((name, value) :: rest)).memberAs? name read? = read? value := by
  simp [memberAs?, member?]

/-- A member of another name is passed over. -/
@[simp] theorem memberAs?_object_of_ne {name other : String} (h : name ≠ other)
    (read? : Json → Option α) (value : Json) (rest : List (String × Json)) :
    (object ((other, value) :: rest)).memberAs? name read? = (object rest).memberAs? name read? := by
  have : (name == other) = false := beq_false_of_ne h
  rw [memberAs?, memberAs?, member?, member?, List.lookup_cons, this]

@[simp] theorem toText?_string (s : String) : (string s).toText? = some s :=
  rfl

@[simp] theorem toBool?_bool (b : Bool) : (bool b).toBool? = some b :=
  rfl

/-- A word of 32 bits is read back. -/
@[simp] theorem toWord?_wordJson (n : UInt32) : (wordJson n).toWord? = some n := by
  have hn : n.toNat ≤ UInt32.size - 1 := Nat.le_sub_one_of_lt n.toNat_lt_size
  rw [toWord?, wordJson, toInt?_ofNat hn (by decide)]
  simp

/-- A reader that refuses `null` tells an absent value from every present one. -/
theorem optional?_ofOption {write : α → Json} {read? : Json → Option α}
    (hread : ∀ a, read? (write a) = some a) (hnull : read? .null = none) (o : Option α) :
    optional? read? (ofOption write o) = some o := by
  cases o with
  | none => rfl
  | some a =>
    have ha : write a ≠ .null := by
      intro h
      have := hread a
      simp [h, hnull] at this
    show optional? read? (write a) = some (some a)
    rw [optional?, hread]
    · rfl
    · exact ha

@[simp] theorem optional?_optionalText (o : Option String) :
    optional? toText? (optionalText o) = some o :=
  optional?_ofOption toText?_string rfl o

/-- A list is read back if its items are, up to what their readers see of them. -/
theorem toList?_map {β : Type} {write : α → Json} {read? : Json → Option β} {view : α → β}
    (hread : ∀ a, read? (write a) = some (view a)) (xs : List α) :
    toList? read? (.array (xs.map write)) = some (xs.map view) := by
  rw [toList?]
  induction xs with
  | nil => rfl
  | cons a xs ih => simp [hread, ih]

/-- A list is read back if its items are. -/
theorem toList?_map_self {write : α → Json} {read? : Json → Option α}
    (hread : ∀ a, read? (write a) = some a) (xs : List α) :
    toList? read? (.array (xs.map write)) = some xs := by
  rw [toList?_map hread, List.map_id']

@[simp] theorem toList?_ofTexts (texts : List String) :
    toList? toText? (ofTexts texts) = some texts :=
  toList?_map_self toText?_string texts

end Json

-- ---------------------------------------------------------------------------
-- Readers of the parts
-- ---------------------------------------------------------------------------

open Json

variable {τ : Type}

/-- A column that knows its base type by name only. -/
def Column.named (typeName : τ → String) (c : Column τ) : Column String :=
  { c with resolvedType := typeName c.resolvedType }

/-- A table whose columns know their base types by name only. -/
def Table.named (typeName : τ → String) (t : Table τ) : Table String :=
  { t with columns := t.columns.map (Column.named typeName) }

def Column.ofJson? (j : Json) : Option (Column String) := do
  let name ← j.memberAs? "name" toText?
  let sourceName ← j.memberAs? "source_name" toText?
  let sqlType ← j.memberAs? "sql_type" toText?
  let resolvedType ← j.memberAs? "resolved_type" toText?
  let size ← j.memberAs? "size" toWord?
  let unsigned ← j.memberAs? "unsigned" toBool?
  let autoIncrement ← j.memberAs? "auto_increment" toBool?
  let invisible ← j.memberAs? "invisible" toBool?
  let nullable ← j.memberAs? "nullable" toBool?
  let default ← j.memberAs? "default_value" (optional? toText?)
  let comment ← j.memberAs? "comment" (optional? toText?)
  let charset ← j.memberAs? "charset" (optional? toText?)
  let collation ← j.memberAs? "collation" (optional? toText?)
  let srid ← j.memberAs? "srid" (optional? toWord?)
  some
    { name, sourceName, sqlType, resolvedType, size, unsigned, autoIncrement, invisible, nullable,
      default, comment, charset, collation, srid }

/-- A column is read back with the names of its types in their place. -/
theorem Column.ofJson?_toJson (typeName : τ → String) (c : Column τ) :
    Column.ofJson? (c.toJson typeName) = some (c.named typeName) := by
  have hsrid := optional?_ofOption toWord?_wordJson rfl c.srid
  simp [ofJson?, toJson, named, hsrid]

def PrimaryKey.ofJson? (j : Json) : Option PrimaryKey := do
  let columns ← j.memberAs? "columns" (toList? toText?)
  some { columns }

/-- A primary key is read back. -/
theorem PrimaryKey.ofJson?_toJson (k : PrimaryKey) : PrimaryKey.ofJson? k.toJson = some k := by
  simp [ofJson?, toJson]

def Index.ofJson? (j : Json) : Option Index := do
  let name ← j.memberAs? "name" toText?
  let columns ← j.memberAs? "columns" (toList? toText?)
  let comment ← j.memberAs? "comment" (optional? toText?)
  let invisible ← j.memberAs? "invisible" toBool?
  some { name, columns, comment, invisible }

/-- An index is read back. -/
theorem Index.ofJson?_toJson (i : Index) : Index.ofJson? i.toJson = some i := by
  simp [ofJson?, toJson]

/-- The action of a label. -/
def ReferentialAction.ofJson? (j : Json) : Option ReferentialAction := do
  let label ← j.toText?
  [restrict, cascade, setNull, noAction, setDefault].find? (·.label = label)

/-- The labels of the actions are different, so each is read back. -/
theorem ReferentialAction.ofJson?_toJson (a : ReferentialAction) :
    ReferentialAction.ofJson? a.toJson = some a := by
  cases a <;> decide

def ForeignKey.ofJson? (j : Json) : Option ForeignKey := do
  let name ← j.memberAs? "name" toText?
  let columns ← j.memberAs? "columns" (toList? toText?)
  let table ← j.memberAs? "table" toText?
  let references ← j.memberAs? "references" (toList? toText?)
  let onUpdate ← j.memberAs? "on_update" (optional? ReferentialAction.ofJson?)
  let onDelete ← j.memberAs? "on_delete" (optional? ReferentialAction.ofJson?)
  some { name, columns, table, references, onUpdate, onDelete }

/-- A foreign key is read back. -/
theorem ForeignKey.ofJson?_toJson (k : ForeignKey) : ForeignKey.ofJson? k.toJson = some k := by
  have haction := optional?_ofOption ReferentialAction.ofJson?_toJson rfl
  simp [ofJson?, toJson, haction]

def FullTextIndex.ofJson? (j : Json) : Option FullTextIndex := do
  let name ← j.memberAs? "name" toText?
  let column ← j.memberAs? "column" toText?
  let comment ← j.memberAs? "comment" (optional? toText?)
  let invisible ← j.memberAs? "invisible" toBool?
  let parser ← j.memberAs? "parser" (optional? toText?)
  some { name, column, comment, invisible, parser }

theorem FullTextIndex.ofJson?_toJson (i : FullTextIndex) :
    FullTextIndex.ofJson? i.toJson = some i := by
  simp [ofJson?, toJson]

def SpatialIndex.ofJson? (j : Json) : Option SpatialIndex := do
  let name ← j.memberAs? "name" toText?
  let column ← j.memberAs? "column" toText?
  let comment ← j.memberAs? "comment" (optional? toText?)
  let invisible ← j.memberAs? "invisible" toBool?
  some { name, column, comment, invisible }

theorem SpatialIndex.ofJson?_toJson (i : SpatialIndex) :
    SpatialIndex.ofJson? i.toJson = some i := by
  simp [ofJson?, toJson]

def Table.ofJson? (j : Json) : Option (Table String) := do
  let name ← j.memberAs? "name" toText?
  let sourceName ← j.memberAs? "source_name" toText?
  let columns ← j.memberAs? "columns" (toList? Column.ofJson?)
  let comment ← j.memberAs? "comment" (optional? toText?)
  let primaryKey ← j.memberAs? "primary_key" (optional? PrimaryKey.ofJson?)
  let indexes ← j.memberAs? "indexes" (toList? Index.ofJson?)
  let uniqueIndexes ← j.memberAs? "unique_indexes" (toList? Index.ofJson?)
  let foreignKeys ← j.memberAs? "foreign_keys" (toList? ForeignKey.ofJson?)
  let fullTextIndexes ← j.memberAs? "full_text_indexes" (toList? FullTextIndex.ofJson?)
  let spatialIndexes ← j.memberAs? "spatial_indexes" (toList? SpatialIndex.ofJson?)
  some
    { name, sourceName, columns, comment, primaryKey, indexes, uniqueIndexes, foreignKeys,
      fullTextIndexes, spatialIndexes }

/-- The reader inverts the JSON form of a table. -/
theorem Table.ofJson?_toJson (typeName : τ → String) (t : Table τ) :
    Table.ofJson? (t.toJson typeName) = some (t.named typeName) := by
  have hcolumns := toList?_map (Column.ofJson?_toJson typeName) t.columns
  have hkey := optional?_ofOption PrimaryKey.ofJson?_toJson rfl t.primaryKey
  have hindexes := toList?_map_self Index.ofJson?_toJson
  have hforeign := toList?_map_self ForeignKey.ofJson?_toJson t.foreignKeys
  have htext := toList?_map_self FullTextIndex.ofJson?_toJson t.fullTextIndexes
  have hspatial := toList?_map_self SpatialIndex.ofJson?_toJson t.spatialIndexes
  simp [ofJson?, toJson, named, hcolumns, hkey, hindexes, hforeign, htext, hspatial]

-- ---------------------------------------------------------------------------
-- What the forms are made of
-- ---------------------------------------------------------------------------

/-- An optional value is plain if the value is. -/
theorem plain_ofOption {α : Type} {write : α → Json} (h : ∀ a, (write a).Plain) (o : Option α) :
    (ofOption write o).Plain := by
  cases o with
  | none => exact .null
  | some a => exact h a

/-- A list is plain if its items are. -/
theorem plain_map {α : Type} {write : α → Json} (h : ∀ a, (write a).Plain) (xs : List α) :
    (Json.array (xs.map write)).Plain := by
  refine .array _ fun j hj => ?_
  obtain ⟨a, -, rfl⟩ := List.mem_map.mp hj
  exact h a

@[simp] theorem plain_optionalText (o : Option String) : (optionalText o).Plain :=
  plain_ofOption .string o

@[simp] theorem plain_wordJson (n : UInt32) : (wordJson n).Plain :=
  .number n.toNat

@[simp] theorem plain_ofTexts (texts : List String) : (ofTexts texts).Plain :=
  plain_map .string texts

/-- Columns are written as plain values. -/
theorem Column.plain_toJson (typeName : τ → String) (c : Column τ) :
    (c.toJson typeName).Plain := by
  have hsrid := plain_ofOption plain_wordJson c.srid
  refine .object _ ?_
  simp [hsrid]

theorem PrimaryKey.plain_toJson (k : PrimaryKey) : k.toJson.Plain :=
  .object _ (by simp)

theorem Index.plain_toJson (i : Index) : i.toJson.Plain :=
  .object _ (by simp)

theorem ReferentialAction.plain_toJson (a : ReferentialAction) : a.toJson.Plain :=
  .string a.label

theorem ForeignKey.plain_toJson (k : ForeignKey) : k.toJson.Plain := by
  have haction := plain_ofOption ReferentialAction.plain_toJson
  exact .object _ (by simp [haction])

theorem FullTextIndex.plain_toJson (i : FullTextIndex) : i.toJson.Plain :=
  .object _ (by simp)

theorem SpatialIndex.plain_toJson (i : SpatialIndex) : i.toJson.Plain :=
  .object _ (by simp)

/-- Tables are written as plain values, since all of their parts are. -/
theorem Table.plain_toJson (typeName : τ → String) (t : Table τ) : (t.toJson typeName).Plain := by
  have hcolumns := plain_map (Column.plain_toJson typeName) t.columns
  have hkey := plain_ofOption PrimaryKey.plain_toJson t.primaryKey
  have hindexes := plain_map Index.plain_toJson
  have hforeign := plain_map ForeignKey.plain_toJson t.foreignKeys
  have htext := plain_map FullTextIndex.plain_toJson t.fullTextIndexes
  have hspatial := plain_map SpatialIndex.plain_toJson t.spatialIndexes
  refine .object _ ?_
  simp [hcolumns, hkey, hindexes, hforeign, htext, hspatial]

-- ---------------------------------------------------------------------------
-- Documents
-- ---------------------------------------------------------------------------

/-- Reads a document of tables. -/
def readTables? (document : String) : Option (List (Table String)) :=
  (Json.read? document).bind (toList? Table.ofJson?)

/-- A document is read back table by table. -/
theorem readTables?_tablesDocument (typeName : τ → String) (tables : List (Table τ)) :
    readTables? (tablesDocument typeName tables) = some (tables.map (Table.named typeName)) := by
  have hplain := plain_map (Table.plain_toJson typeName) tables
  rw [readTables?, tablesDocument, hplain.read?_pretty, Option.bind_some,
    toList?_map (Table.ofJson?_toJson typeName)]

/-- The JSON form of a table depends on its types by their names only. -/
theorem Table.toJson_named (typeName : τ → String) (t : Table τ) :
    (t.named typeName).toJson id = t.toJson typeName := by
  simp [toJson, named, Column.toJson, Column.named, Function.comp_def]

/-- What is read back is written in the same way again. -/
theorem tablesDocument_named (typeName : τ → String) (tables : List (Table τ)) :
    tablesDocument id (tables.map (Table.named typeName)) = tablesDocument typeName tables := by
  simp only [tablesDocument, List.map_map, Function.comp_def, Table.toJson_named]

/-- **The document of a registry loses nothing.** A reader recovers every table from it, so that two
registries have the same document exactly if their tables are equal in every member, types compared
by name. -/
theorem Registry.toJson_lossless {τ τ' : Type} (typeName : τ → String) (typeName' : τ' → String)
    (r : Registry τ) (r' : Registry τ') :
    readTables? (r.toJson typeName) = some (r.tables.map (Table.named typeName)) ∧
      (r.toJson typeName = r'.toJson typeName' ↔
        r.tables.map (Table.named typeName) = r'.tables.map (Table.named typeName')) := by
  have hread := readTables?_tablesDocument typeName r.tables
  have hread' := readTables?_tablesDocument typeName' r'.tables
  refine ⟨hread, fun heq => ?_, fun heq => ?_⟩
  · have hdocument : tablesDocument typeName r.tables = tablesDocument typeName' r'.tables := heq
    rw [hdocument, hread'] at hread
    exact (Option.some.inj hread).symm
  · calc
      r.toJson typeName = tablesDocument id (r.tables.map (Table.named typeName)) :=
        (tablesDocument_named typeName r.tables).symm
      _ = tablesDocument id (r'.tables.map (Table.named typeName')) := by rw [heq]
      _ = r'.toJson typeName' := tablesDocument_named typeName' r'.tables

end TableSchema
