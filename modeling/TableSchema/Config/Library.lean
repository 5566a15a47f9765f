import TableSchema.Config.Basic

/-!
# The library behind the settings

Settings are collected from layers and converted to records by a library that is none of the
program's own code. The program is written against its operations, whatever they do.

* `Source` — a layer.
* `RecordReader` — what the library is told of a record.
* `ConfigError` — its errors.
* `Library` — its operations.
-/

namespace TableSchema

/-- A layer of settings. -/
inductive Source where
  /-- A file and its text, if it is there. -/
  | file (path : String) (text : Option String) (required : Bool)
  /-- The variables whose names start with a root; a separator stands between the parts of a name. -/
  | environment (root separator : String) (entries : List (String × String))
deriving DecidableEq, Repr

/-- What goes wrong with settings; `φ` is whatever the library tells apart beyond that. -/
inductive ConfigError (φ : Type) where
  /-- Nothing stands under a key. -/
  | notFound (key : String)
  /-- An error with a text of its own. -/
  | message (text : String)
  | other (fault : φ)
deriving DecidableEq, Repr

/-- How a record is read: its name, its fields in order, and the record that the values found under
names make. -/
structure RecordReader (ν ε α : Type) where
  name : String
  fields : List String
  read : (String → Option ν) → Except ε α

/-- A library of settings. -/
structure Library where
  /-- What its errors tell beyond `ConfigError`. -/
  Fault : Type
  /-- Settings that were put together. -/
  Settings : Type
  /-- A value among settings. -/
  Value : Type
  /-- Puts layers together, the later ones on top. -/
  build : List Source → Except (ConfigError Fault) Settings
  /-- The record under a key. -/
  get {α : Type} (reader : RecordReader Value (ConfigError Fault) α) (settings : Settings)
    (key : String) : Except (ConfigError Fault) α
  /-- A value as a text. -/
  text : Value → Except (ConfigError Fault) String
  /-- A value as a truth value. -/
  truth : Value → Except (ConfigError Fault) Bool
  /-- The wording of an error. -/
  wording : ConfigError Fault → String

/-- The errors of a library. -/
abbrev Library.Error (lib : Library) : Type :=
  ConfigError lib.Fault

end TableSchema
