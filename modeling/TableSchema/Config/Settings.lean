import TableSchema.Config.Library
import TableSchema.Log

/-!
# Loading the settings

The settings of an extraction stand under one key of a file and of the environment. A setting that
is absent keeps its default, and so do all of them if nothing stands under the key.

* `Library.load` — from the file and the environment on top of it, or from the environment alone if
  that fails.
* `Library.loadFile` — from a file alone, which must be there.
-/

namespace TableSchema

namespace Config

/-- The file of the settings. -/
def settingsFile : String :=
  "config/ddlforge.toml"

/-- What the names of the variables start with. -/
def variableRoot : String :=
  "DDLFORGE"

/-- What stands between the parts of a variable's name. -/
def variableSeparator : String :=
  "__"

/-- The key of the settings. -/
def settingsKey : String :=
  "schema"

/-- A field that may be absent. -/
def field {ν ε α : Type} (convert : ν → Except ε α) (default : α) : Option ν → Except ε α
  | none => .ok default
  | some v => convert v

end Config

/-- The layer of the environment. -/
def Source.ofEnvironment (environment : List (String × String)) : Source :=
  .environment Config.variableRoot Config.variableSeparator environment

namespace Library

variable (lib : Library)

/-- How the settings are read. -/
def configReader : RecordReader lib.Value lib.Error Config where
  name := "SchemaConfig"
  fields := ["tag_key", "skip_marker", "strict_options"]
  read find? := do
    let defaults : Config := {}
    .ok
      { tagKey := ← Config.field lib.text defaults.tagKey (find? "tag_key")
        skipMarker := ← Config.field lib.text defaults.skipMarker (find? "skip_marker")
        strictOptions := ← Config.field lib.truth defaults.strictOptions (find? "strict_options") }

/-- The settings among all that was put together, the defaults if there are none. -/
def fromSettings (settings : lib.Settings) : Except lib.Error Config :=
  match lib.get lib.configReader settings Config.settingsKey with
  | .ok config => .ok config
  | .error (.notFound _) => .ok {}
  | .error e =>
    .error (.message
      ("Schema configuration could not be loaded from file or environment: " ++ lib.wording e))

/-- The settings of the file, which may be absent, and of the environment. If these cannot be put
together, the environment counts alone. -/
def load (file : Option String) (environment : List (String × String)) : Except lib.Error Config :=
  match lib.build [.file Config.settingsFile file false, .ofEnvironment environment] with
  | .ok settings => lib.fromSettings settings
  | .error e =>
    match lib.build [.ofEnvironment environment] with
    | .ok settings => lib.fromSettings settings
    | .error e' =>
      .error (.message
        ("Failed to load configuration from file and env: " ++ lib.wording e
          ++ ", then env-only error: " ++ lib.wording e'))

/-- What loading reports: a file that is there and was of no use. -/
def loadEvents (file : Option String) (environment : List (String × String)) : List Event :=
  match file, lib.build [.file Config.settingsFile file false, .ofEnvironment environment] with
  | some _, .error e => [.fellBack Config.settingsFile (lib.wording e)]
  | _, _ => []

/-- The settings of a file. -/
def loadFile (path : String) (file : Option String) : Except lib.Error Config := do
  let settings ← lib.build [.file path file true]
  lib.fromSettings settings

/-- The wording of a failed load among the errors of an extraction. -/
def schemaMessage (e : lib.Error) : String :=
  "configuration error: " ++ lib.wording e

end Library

end TableSchema
