import TableSchema.Column.Basic
import TableSchema.Fields
import TableSchema.Table.Key

/-!
# Tables

The table of a structured type: one column for each visible field that neither embeds another type
nor is skipped, in order, and the keys and indexes that the type declares. Two fields may not ask
for a column of one name.

* `Table.build` — the table of a type, or the first problem in the order of the fields.
* `Table.column?` — a column by its name.
-/

namespace TableSchema

/-- What a type declares about its table besides its fields. -/
structure TableOptions where
  name : Option String := none
  comment : Option String := none
  primaryKey : Option PrimaryKey := none
  indexes : List Index := []
  uniqueIndexes : List Index := []
  foreignKeys : List ForeignKey := []
  fullTextIndexes : List FullTextIndex := []
  spatialIndexes : List SpatialIndex := []
deriving DecidableEq, Repr, Inhabited

/-- A table. -/
structure Table (τ : Type) where
  name : String
  /-- The type's own identifier. -/
  sourceName : String
  columns : List (Column τ)
  comment : Option String
  primaryKey : Option PrimaryKey
  indexes : List Index
  uniqueIndexes : List Index
  foreignKeys : List ForeignKey
  fullTextIndexes : List FullTextIndex
  spatialIndexes : List SpatialIndex
deriving DecidableEq, Repr

/-- The first column of a name. -/
def findColumn? {τ : Type} (name : String) (columns : List (Column τ)) : Option (Column τ) :=
  columns.find? (·.name = name)

/-- The columns of the given fields in order, behind the columns `done`, or the first problem. -/
def columnsOf {τ : Type} [DecidableEq τ] (g : TypeGraph τ) (config : Config)
    (table : String) (done : List (Column τ)) :
    List (Field τ) → Except BuildError (List (Column τ))
  | [] => .ok done
  | f :: rest =>
    match Column.ofField g config f with
    | .error e => .error e
    | .ok none => columnsOf g config table done rest
    | .ok (some c) =>
      match findColumn? c.name done with
      | some first => .error (.duplicateColumn table c.name first.sourceName c.sourceName)
      | none => columnsOf g config table (done ++ [c]) rest

namespace Table

variable {τ : Type}

/-- The name of the table: the declared one, else the type's identifier in snake case. -/
def nameFor (options : TableOptions) (typeName : String) : String :=
  options.name.getD (snakeCase (unqualifiedName typeName))

/-- The table of a type, which may be wrapped. -/
def build [DecidableEq τ] (g : TypeGraph τ) (config : Config) (root : τ)
    (options : TableOptions) : Except BuildError (Table τ) :=
  let base := (g.resolve root).type
  let shape := g.shape base
  match shape.body.fields? with
  | none => .error (.notAStruct shape.typeName shape.body.kind)
  | some _ =>
    let name := nameFor options shape.typeName
    match columnsOf g config name [] (g.columnFields base) with
    | .error e => .error e
    | .ok columns =>
      .ok
        { name
          sourceName := unqualifiedName shape.typeName
          columns
          comment := options.comment.filter (· ≠ "")
          primaryKey := options.primaryKey
          indexes := options.indexes
          uniqueIndexes := options.uniqueIndexes
          foreignKeys := options.foreignKeys
          fullTextIndexes := options.fullTextIndexes
          spatialIndexes := options.spatialIndexes }

/-- The column of a name. -/
def column? (t : Table τ) (name : String) : Option (Column τ) :=
  findColumn? name t.columns

end Table

end TableSchema
