import TableSchema.Log
import TableSchema.Table.Document

/-!
# Registries

A registry collects the tables of several types under one configuration, in the order in which they
are added. A table that cannot be built changes nothing, and a later table of the same name neither
replaces nor hides an earlier one.

* `Registry.add` — builds a table and keeps it.
* `Registry.table?` — looks a table up by its name.
-/

namespace TableSchema

/-- Tables and the configuration they are built with. -/
structure Registry (τ : Type) where
  config : Config
  tables : List (Table τ)
deriving DecidableEq, Repr

namespace Registry

variable {τ : Type}

/-- A registry without tables. -/
def empty (config : Config) : Registry τ :=
  ⟨config, []⟩

/-- Builds the table of a type and registers it. The answer is the table or the error. -/
def add [DecidableEq τ] (r : Registry τ) (g : TypeGraph τ) (root : τ) (options : TableOptions) :
    Except BuildError (Table τ) × Registry τ :=
  match Table.build g r.config root options with
  | .ok table => (.ok table, { r with tables := r.tables ++ [table] })
  | .error e => (.error e, r)

/-- What an addition reports. -/
def addEvents [DecidableEq τ] (r : Registry τ) (g : TypeGraph τ) (root : τ)
    (options : TableOptions) : List Event :=
  Table.events g r.config root options ++
    match Table.build g r.config root options with
    | .ok table => [.tableRegistered table.name table.columns.length]
    | .error _ => []

/-- The first table of a name. -/
def table? (r : Registry τ) (name : String) : Option (Table τ) :=
  r.tables.find? (·.name = name)

/-- The tables as a document. -/
def toJson (r : Registry τ) (typeName : τ → String) : String :=
  tablesDocument typeName r.tables

/-- Hands out the tables and leaves an empty registry of the same configuration. -/
def takeTables (r : Registry τ) : List (Table τ) × Registry τ :=
  (r.tables, empty r.config)

end Registry

end TableSchema
