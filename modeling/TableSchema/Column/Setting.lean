import TableSchema.Error

/-!
# Settings of a column

What the options of a tag say about a column. Reading an option does not depend on the column, so an
annotation is first read into settings, with all that can go wrong, and then applied.

* `OptionKey.ofText?` — the known keys.
* `OptionKey.read` — the setting that an option with a known key stands for.
* `readSettings` — the settings of a whole tag, or its first problem.
-/

namespace TableSchema

/-- The known option keys. -/
inductive OptionKey where
  | null
  | auto
  | invisible
  | unsigned
  | size
  | srid
  | type
  | default
  | charset
  | collate
  | comment
deriving DecidableEq, Repr

/-- The known key that a text spells. -/
def OptionKey.ofText? : String → Option OptionKey
  | "null" => some null
  | "auto" => some auto
  | "invisible" => some invisible
  | "unsigned" => some unsigned
  | "size" => some size
  | "srid" => some srid
  | "type" => some type
  | "default" => some default
  | "charset" => some charset
  | "collate" => some collate
  | "comment" => some comment
  | _ => none

/-- One statement about a column. -/
inductive Setting where
  | nullable (value : Bool)
  | autoIncrement (value : Bool)
  | invisible (value : Bool)
  | unsigned (value : Bool)
  | size (value : UInt32)
  | srid (value : UInt32)
  /-- Names the SQL type and drops what was inferred. -/
  | sqlType (name : String)
  | default (text : String)
  | charset (text : String)
  | collation (text : String)
  | comment (text : String)
deriving DecidableEq, Repr

/-- A truth value; an option without a value says yes. -/
def TagEntry.readBool (o : TagEntry) : Except OptionFault Bool :=
  match o.value with
  | none => .ok true
  | some text =>
    match TableSchema.readBool text with
    | some b => .ok b
    | none => .error .notBoolean

/-- A number; an option without a value has none to read. -/
def TagEntry.readWord (o : TagEntry) : Except OptionFault UInt32 :=
  (TableSchema.readWord o.text).mapError .number

/-- The name of a type, which may not be empty. -/
def TagEntry.readTypeName (o : TagEntry) : Except OptionFault String :=
  if o.text = "" then .error .missingTypeName else .ok o.text

/-- The setting that an option stands for, given its key. -/
def OptionKey.read (o : TagEntry) : OptionKey → Except OptionFault Setting
  | null => o.readBool.map .nullable
  | auto => o.readBool.map .autoIncrement
  | invisible => o.readBool.map .invisible
  | unsigned => o.readBool.map .unsigned
  | size => o.readWord.map .size
  | srid => o.readWord.map .srid
  | type => o.readTypeName.map .sqlType
  | default => .ok (.default o.text)
  | charset => .ok (.charset o.text)
  | collate => .ok (.collation o.text)
  | comment => .ok (.comment o.text)

/-- Reads one option of the tag of `field`: a setting, or nothing for an unknown key, which strict
settings refuse. -/
def readOption (strict : Bool) (field : String) (o : TagEntry) :
    Except BuildError (Option Setting) :=
  match OptionKey.ofText? o.key with
  | some key => ((key.read o).map some).mapError (.badOption field o)
  | none => if strict then .error (.unknownOption field o.key) else .ok none

/-- The settings of a tag in order, or the first problem. -/
def readSettings (strict : Bool) (field : String) : List TagEntry → Except BuildError (List Setting)
  | [] => .ok []
  | o :: rest =>
    match readOption strict field o with
    | .error e => .error e
    | .ok setting => (readSettings strict field rest).map (setting.toList ++ ·)

end TableSchema
