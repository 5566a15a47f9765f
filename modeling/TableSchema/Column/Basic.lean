import TableSchema.Column.Setting
import TableSchema.Column.SqlType
import TableSchema.Config.Basic
import TableSchema.Naming
import TableSchema.Types.Resolve

/-!
# Columns

A column is built from one field: the declared type is resolved and gives the inferred SQL type, the
annotation names the column and its settings are applied in order, and a type without SQL type is
refused unless a setting named one.

* `Column.build` — the column of a name, a declared type and an annotation.
* `Column.ofField` — the same for a field.
-/

namespace TableSchema

/-- A column of a table. -/
structure Column (τ : Type) where
  name : String
  /-- The identifier of the field. -/
  sourceName : String
  sqlType : String
  /-- The base type of the field. -/
  resolvedType : τ
  /-- A length or precision; `0` leaves it open. -/
  size : UInt32
  unsigned : Bool
  autoIncrement : Bool
  invisible : Bool
  nullable : Bool
  /-- The default value, as the annotation has it. -/
  default : Option String
  comment : Option String
  charset : Option String
  collation : Option String
  /-- The spatial reference system. -/
  srid : Option UInt32
deriving DecidableEq, Repr

/-- A column under construction. `mapped` says whether it has a SQL type yet. -/
structure PendingColumn (τ : Type) where
  column : Column τ
  mapped : Bool
deriving DecidableEq, Repr

namespace PendingColumn

variable {τ : Type}

/-- The draft before any setting: all that the resolved type says. -/
def start (name sourceName : String) (resolved : Resolved τ) (inferred : Option SqlType) :
    PendingColumn τ where
  column :=
    { name, sourceName
      sqlType := (inferred.map SqlType.name).getD ""
      resolvedType := resolved.type
      size := (inferred.map SqlType.size).getD 0
      unsigned := (inferred.map SqlType.unsigned).getD false
      autoIncrement := false
      invisible := false
      nullable := resolved.optional
      default := none, comment := none, charset := none, collation := none, srid := none }
  mapped := inferred.isSome

/-- Applies one setting. Naming the type clears the inferred size and sign; settings that follow may
give them again. -/
def apply (d : PendingColumn τ) : Setting → PendingColumn τ
  | .nullable value => { d with column.nullable := value }
  | .autoIncrement value => { d with column.autoIncrement := value }
  | .invisible value => { d with column.invisible := value }
  | .unsigned value => { d with column.unsigned := value }
  | .size value => { d with column.size := value }
  | .srid value => { d with column.srid := some value }
  | .sqlType name =>
    { d with column.sqlType := name, column.size := 0, column.unsigned := false, mapped := true }
  | .default text => { d with column.default := some text }
  | .charset text => { d with column.charset := some text }
  | .collation text => { d with column.collation := some text }
  | .comment text => { d with column.comment := some text }

end PendingColumn

/-- The column name that a tag asks for; a skipped field has none. -/
def NameChoice.columnName? (sourceName : String) : NameChoice → Option String
  | .derived => some (snakeCase sourceName)
  | .skipped => none
  | .given name => some name

namespace Column

variable {τ : Type} [DecidableEq τ]

/-- The column of the field `sourceName` with the declared type and annotation, or nothing if the
annotation skips the field. -/
def build (g : TypeGraph τ) (config : Config) (sourceName : String) (declared : τ)
    (rawTag : String) : Except BuildError (Option (Column τ)) :=
  let resolved := g.resolve declared
  let tag := Tag.parse rawTag config.skipMarker
  match tag.name.columnName? sourceName with
  | none => .ok none
  | some name =>
    match readSettings config.strictOptions sourceName tag.options with
    | .error e => .error e
    | .ok settings =>
      let inferred := g.sqlType? resolved.type
      let draft := settings.foldl PendingColumn.apply (.start name sourceName resolved inferred)
      if draft.mapped then .ok (some draft.column)
      else .error (.unsupportedType sourceName (g.shape resolved.type).typeName)

/-- The annotation of a field under the configured key. -/
def rawTag (config : Config) (f : Field τ) : String :=
  (f.tag? config.tagKey).getD ""

/-- The column of a field. -/
def ofField (g : TypeGraph τ) (config : Config) (f : Field τ) :
    Except BuildError (Option (Column τ)) :=
  build g config f.name f.type (rawTag config f)

end Column

end TableSchema
