import TableSchema.Config.Settings
import TableSchema.Config.Standard

/-!
# Loading the settings

A program that loads its settings through the library that runs. It tells a missing or malformed file
by the kind of the error, and any other error by its wording.
-/

namespace TableSchema

namespace Config

/-- The library of the program. -/
def library : Library :=
  .standard fun _ => ""

/-- Why the settings cannot be loaded. -/
abbrev LoadError : Type :=
  ConfigError Fault

/-- There is no file. -/
@[match_pattern] abbrev LoadError.missingFile : LoadError :=
  .other .missingFile

/-- The file is not a TOML document. -/
@[match_pattern] abbrev LoadError.malformedFile : LoadError :=
  .other .malformedFile

/-- The wording of an error among the errors of an extraction. -/
def LoadError.message (e : LoadError) : String :=
  library.schemaMessage e

/-- The settings of a file and an environment on top of it. -/
def load (file : Option String) (environment : List (String × String)) :
    Except LoadError Config :=
  library.load file environment

/-- The settings of a file. -/
def loadFile (file : Option String) : Except LoadError Config :=
  library.loadFile settingsFile file

end Config

end TableSchema
