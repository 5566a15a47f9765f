import TableSchema.Config.Layer
import TableSchema.Config.Library
import TableSchema.Decimal.Notation
import TableSchema.Text.Quoted
import TableSchema.Toml.Reader

/-!
# A library of settings that runs

The operations on layers for TOML files and an environment, with settings as a tree.

* `Tree.putSource` — a layer on top of a tree.
* `Tree.toText`, `Tree.toBool`, `Tree.toRecord` — what the values of a tree are read as.
* `Library.standard` — the library.
-/

namespace TableSchema

namespace Config

-- ---------------------------------------------------------------------------
-- Errors
-- ---------------------------------------------------------------------------

/-- What stands in the place of a value that was expected to be something else. -/
inductive Found where
  | nothing
  | text (s : String)
  | integer (n : Int)
  | float (x : Float)
  | boolean (b : Bool)
  | sequence
  | map

/-- The wording of what was found. -/
def Found.message : Found → String
  | nothing => "unit value"
  | text s => "string " ++ Text.quoted s
  | integer n => "integer `" ++ String.ofList (Decimal.writeInt n) ++ "`"
  | float x =>
    "floating point `" ++ Decimal.writeFloat { Decimal.Style.plain with keepsFraction := true } x
      ++ "`"
  | boolean b => "boolean `" ++ Text.ofBool b ++ "`"
  | sequence => "sequence"
  | map => "map"

/-- What was expected. -/
inductive Expected where
  | boolean
  | string
deriving DecidableEq, Repr

/-- The wording of what was expected. -/
def Expected.message : Expected → String
  | boolean => "a boolean"
  | string => "a string"

/-- The wording of an origin. -/
def Origin.message : Origin → String
  | file path => path
  | environment => "the environment"

/-- What can be wrong with the layers and with their values. -/
inductive Fault where
  /-- There is no file where one is needed. -/
  | missingFile
  /-- The file is not a TOML document. -/
  | malformedFile
  /-- A value has a wrong type; the key is that of the record which it belongs to. -/
  | wrongType (found : Found) (expected : Expected) (key : Option String) (origin : Option Origin)

/-- The wording of an error; `others` words those that a program meets only as what they are. -/
def Fault.wording (others : ConfigError Fault → String) : ConfigError Fault → String
  | .message text => text
  | .other (.wrongType found expected key origin) =>
    "invalid type: " ++ found.message ++ ", expected " ++ expected.message
      ++ (key.map fun key => " for key `" ++ key ++ "`").getD ""
      ++ (origin.map fun origin => " in " ++ origin.message).getD ""
  | e => others e

/-- The error of a value in a record that stands under a key. -/
def Fault.underKey (key : String) : ConfigError Fault → ConfigError Fault
  | .other (.wrongType found expected _ origin) =>
    .other (.wrongType found expected (some key) origin)
  | e => e

-- ---------------------------------------------------------------------------
-- Values
-- ---------------------------------------------------------------------------

/-- What a tree is, and where it comes from. -/
def Tree.found : Tree → Found × Option Origin
  | .nothing => (.nothing, none)
  | .text origin s => (.text s, some origin)
  | .integer origin n => (.integer n, some origin)
  | .float origin x => (.float x, some origin)
  | .boolean origin b => (.boolean b, some origin)
  | .list origin _ => (.sequence, origin)
  | .table origin _ => (.map, origin)

/-- The error of a tree that is not what was expected. -/
def Tree.mismatch (t : Tree) (expected : Expected) : ConfigError Fault :=
  .other (.wrongType t.found.1 expected none t.found.2)

/-- A text; numbers and truth values count as they are written. -/
def Tree.toText (t : Tree) : Except (ConfigError Fault) String :=
  match t with
  | .text _ s => .ok s
  | .integer _ n => .ok (String.ofList (Decimal.writeInt n))
  | .float _ x => .ok (Decimal.writeFloat .plain x)
  | .boolean _ b => .ok (Text.ofBool b)
  | .nothing | .list .. | .table .. => .error (t.mismatch .string)

/-- The truth value that a word spells. -/
def switch? (word : String) : Option Bool :=
  if word ∈ ["1", "true", "on", "yes"] then some true
  else if word ∈ ["0", "false", "off", "no"] then some false
  else none

/-- A truth value; a number is true unless it is zero, and a text is read in lower case. -/
def Tree.toBool (t : Tree) : Except (ConfigError Fault) Bool :=
  match t with
  | .boolean _ b => .ok b
  | .integer _ n => .ok (n ≠ 0)
  | .float _ x => .ok (x != 0)
  | .text origin s =>
    let word := Text.lowercase s
    match switch? word with
    | some b => .ok b
    | none => .error (.other (.wrongType (.text word) .boolean none (some origin)))
  | .nothing | .list .. | .table .. => .error (t.mismatch .boolean)

/-- The member of a name in a tree that is a table. -/
def Tree.member? (t : Tree) (name : String) : Option Tree :=
  match t with
  | .table _ members => members.lookup name
  | _ => none

/-- A record from a tree: a table by the names of its members, a list by their order. -/
def Tree.toRecord {α : Type} (reader : RecordReader Tree (ConfigError Fault) α) :
    Tree → Except (ConfigError Fault) α
  | .table _ members => reader.read fun name => members.lookup name
  | .list _ items => reader.read fun name => items[reader.fields.idxOf name]?
  | t =>
    .error (.message ("invalid type: " ++ t.found.1.message ++ ", expected struct " ++ reader.name))

/-- The record under a key of a tree. -/
def Tree.get {α : Type} (reader : RecordReader Tree (ConfigError Fault) α) (t : Tree)
    (key : String) : Except (ConfigError Fault) α :=
  match t.member? key with
  | none => .error (.notFound key)
  | some t => (t.toRecord reader).mapError (Fault.underKey key)

-- ---------------------------------------------------------------------------
-- Layers
-- ---------------------------------------------------------------------------

/-- Reads a settings file. A byte order mark in front of the document, which may have one itself, does
not count. -/
def readFile? (text : String) : Option (List (String × Toml.Value)) :=
  Toml.read? (String.ofList (Toml.skipByteOrderMark text.toList))

/-- Puts a layer on top of a tree. -/
def Tree.putSource (there : Tree) : Source → Except (ConfigError Fault) Tree
  | .file _ none false => .ok there
  | .file _ none true => .error (.other .missingFile)
  | .file path (some document) _ =>
    match readFile? document with
    | none => .error (.other .malformedFile)
    | some members => .ok (there.putFile path members)
  | .environment root separator entries => .ok (there.putEnvironment root separator entries)

end Config

/-- The library with settings in a tree. Its errors for what is missing or malformed are worded by
`others`. -/
abbrev Library.standard (others : ConfigError Config.Fault → String) : Library where
  Fault := Config.Fault
  Settings := Config.Tree
  Value := Config.Tree
  build sources := sources.foldlM Config.Tree.putSource Config.Tree.root
  get := Config.Tree.get
  text := Config.Tree.toText
  truth := Config.Tree.toBool
  wording := Config.Fault.wording others

end TableSchema
