import TableSchema.Json.Writer
import TableSchema.Table.Basic

/-!
# Tables as documents

The JSON form of a table. Every member is always there, absent values as `null`; a column names its
base type.
-/

namespace TableSchema

/-- A text or `null`. -/
def optionalText : Option String → Json :=
  Json.ofOption .string

/-- A number of 32 bits. -/
def wordJson (n : UInt32) : Json :=
  .ofNat n.toNat

/-- A column. `typeName` gives the printable names of types. -/
def Column.toJson {τ : Type} (typeName : τ → String) (c : Column τ) : Json :=
  .object
    [("name", .string c.name),
     ("source_name", .string c.sourceName),
     ("sql_type", .string c.sqlType),
     ("resolved_type", .string (typeName c.resolvedType)),
     ("size", wordJson c.size),
     ("unsigned", .bool c.unsigned),
     ("auto_increment", .bool c.autoIncrement),
     ("invisible", .bool c.invisible),
     ("nullable", .bool c.nullable),
     ("default_value", optionalText c.default),
     ("comment", optionalText c.comment),
     ("charset", optionalText c.charset),
     ("collation", optionalText c.collation),
     ("srid", .ofOption wordJson c.srid)]

/-- A primary key. -/
def PrimaryKey.toJson (k : PrimaryKey) : Json :=
  .object [("columns", .ofTexts k.columns)]

/-- An index. -/
def Index.toJson (i : Index) : Json :=
  .object
    [("name", .string i.name),
     ("columns", .ofTexts i.columns),
     ("comment", optionalText i.comment),
     ("invisible", .bool i.invisible)]

/-- A referential action, by its label. -/
def ReferentialAction.toJson (a : ReferentialAction) : Json :=
  .string a.label

/-- A foreign key. -/
def ForeignKey.toJson (k : ForeignKey) : Json :=
  .object
    [("name", .string k.name),
     ("columns", .ofTexts k.columns),
     ("table", .string k.table),
     ("references", .ofTexts k.references),
     ("on_update", .ofOption ReferentialAction.toJson k.onUpdate),
     ("on_delete", .ofOption ReferentialAction.toJson k.onDelete)]

/-- A full-text index. -/
def FullTextIndex.toJson (i : FullTextIndex) : Json :=
  .object
    [("name", .string i.name),
     ("column", .string i.column),
     ("comment", optionalText i.comment),
     ("invisible", .bool i.invisible),
     ("parser", optionalText i.parser)]

/-- A spatial index. -/
def SpatialIndex.toJson (i : SpatialIndex) : Json :=
  .object
    [("name", .string i.name),
     ("column", .string i.column),
     ("comment", optionalText i.comment),
     ("invisible", .bool i.invisible)]

/-- A table. -/
def Table.toJson {τ : Type} (typeName : τ → String) (t : Table τ) : Json :=
  .object
    [("name", .string t.name),
     ("source_name", .string t.sourceName),
     ("columns", .array (t.columns.map (Column.toJson typeName))),
     ("comment", optionalText t.comment),
     ("primary_key", .ofOption PrimaryKey.toJson t.primaryKey),
     ("indexes", .array (t.indexes.map Index.toJson)),
     ("unique_indexes", .array (t.uniqueIndexes.map Index.toJson)),
     ("foreign_keys", .array (t.foreignKeys.map ForeignKey.toJson)),
     ("full_text_indexes", .array (t.fullTextIndexes.map FullTextIndex.toJson)),
     ("spatial_indexes", .array (t.spatialIndexes.map SpatialIndex.toJson))]

/-- A list of tables, as a document with one item to a line. -/
def tablesDocument {τ : Type} (typeName : τ → String) (tables : List (Table τ)) : String :=
  (Json.array (tables.map (Table.toJson typeName))).pretty

end TableSchema
