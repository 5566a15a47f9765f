import TableSchema.Config.Path
import TableSchema.Members
import TableSchema.Text.Lowercase
import TableSchema.Toml.Value

/-!
# Layered settings

Settings come in layers: a file, and the environment on top of it. A layer is put into a tree key by
key, each key at the end of the path that it spells. Tables are merged member by member; anything
else replaces what is there. Names do not tell upper from lower case.

* `Tree.putFile`, `Tree.putEnvironment` — the layers.
* `put`, `Tree.putAt` — the merge.
-/

namespace TableSchema.Config

/-- Where a value comes from. -/
inductive Origin where
  | file (path : String)
  | environment
deriving DecidableEq, Repr

/-- A tree of settings. What a path made on its way has no origin. -/
inductive Tree where
  /-- An item of a list that nothing was put into. -/
  | nothing
  | text (origin : Origin) (s : String)
  | integer (origin : Origin) (n : Int)
  | float (origin : Origin) (x : Float)
  | boolean (origin : Origin) (b : Bool)
  | list (origin : Option Origin) (items : List Tree)
  | table (origin : Option Origin) (members : List (String × Tree))
deriving Inhabited

mutual

/-- A value that comes from somewhere. -/
def Tree.ofValue (origin : Origin) : Toml.Value → Tree
  | .string s => .text origin s
  | .integer n => .integer origin n
  | .float x => .float origin x
  | .boolean b => .boolean origin b
  | .moment m => .text origin m.write
  | .array items => .list (some origin) (treesOfValues origin items)
  | .table members => .table (some origin) (membersOfValues origin members)

/-- The values of a list. -/
def treesOfValues (origin : Origin) : List Toml.Value → List Tree
  | [] => []
  | v :: rest => Tree.ofValue origin v :: treesOfValues origin rest

/-- The members of a table. -/
def membersOfValues (origin : Origin) : List (String × Toml.Value) → List (String × Tree)
  | [] => []
  | (name, v) :: rest => (name, Tree.ofValue origin v) :: membersOfValues origin rest

end

/-- The tree as a table with its members changed; what is no table gives way to an empty one. -/
def Tree.mapMembers (t : Tree) (f : List (String × Tree) → List (String × Tree)) : Tree :=
  match t with
  | .table origin members => .table origin (f members)
  | _ => .table none (f [])

/-- The place that an index means in a list of some length. -/
def place (length : Nat) (i : Int) : Nat :=
  if 0 ≤ i then i.toNat else length - i.natAbs

/-- The tree as a list with one item changed; what is no list gives way to an empty one, and a list
that is too short is filled up with nothing. -/
def Tree.mapItem (t : Tree) (i : Int) (f : Tree → Tree) : Tree :=
  let update (items : List Tree) : List Tree :=
    let n := place items.length i
    (items ++ List.replicate (n + 1 - items.length) Tree.nothing).modify n f
  match t with
  | .list origin items => .list origin (update items)
  | _ => .list none (update [])

mutual

/-- Merges a tree into the member of a name. -/
def put (name : String) (ms : List (String × Tree)) : Tree → List (String × Tree)
  | .table _ incoming =>
    let standing := (ms.lookup (Text.lowercase name)).getD (.table none [])
    let merged :=
      match incoming with
      | [] => standing
      | _ => standing.mapMembers fun members => putMembers members incoming
    overwrite (Text.lowercase name) merged ms
  | t => overwrite (Text.lowercase name) t ms

/-- Merges members one after the other. -/
def putMembers (ms : List (String × Tree)) : List (String × Tree) → List (String × Tree)
  | [] => ms
  | (name, t) :: rest => putMembers (put name ms t) rest

end

/-- Puts a tree at the end of a path: merged into a member, in the place of an item. Tables and lists
are made on the way. -/
def Tree.putAt (t there : Tree) : List Step → Tree
  | [] => t
  | [.name name] => there.mapMembers fun ms => put name ms t
  | .name name :: path =>
    there.mapMembers fun ms =>
      let name := Text.lowercase name
      overwrite name (putAt t ((ms.lookup name).getD .nothing) path) ms
  | .index i :: path => there.mapItem i fun item => putAt t item path

/-- The tree that has no settings yet. -/
def Tree.root : Tree := .table none []

/-- Puts the members of a settings file on top of a tree. -/
def Tree.putFile (there : Tree) (path : String) (members : List (String × Toml.Value)) : Tree :=
  (membersOfValues (.file path) members).foldl
    (fun there (name, t) => t.putAt there (pathOf name)) there

/-- A text with a point in the place of each separator; the first `skip` characters belong to one
that was met already. -/
def pointed (separator : List Char) (skip : Nat) : List Char → List Char
  | [] => []
  | c :: rest =>
    match skip with
    | skip + 1 => pointed separator skip rest
    | 0 =>
      if separator.isPrefixOf (c :: rest) then '.' :: pointed separator (separator.length - 1) rest
      else c :: pointed separator 0 rest

/-- The path of a variable, if its name starts with the root and a separator: what stands behind
these, with separators between the steps. -/
def variablePath? (root separator name : String) : Option (List Step) :=
  let start := (Text.lowercase (root ++ separator)).toList
  let name := (Text.lowercase name).toList
  if start.isPrefixOf name then
    some (pathOf (String.ofList (pointed separator.toList 0 (name.drop start.length))))
  else none

/-- Puts a variable on top of a tree, if it is one of those with the root. -/
def Tree.putVariable (root separator : String) (there : Tree) (v : String × String) : Tree :=
  match variablePath? root separator v.1 with
  | some path => Tree.putAt (.text .environment v.2) there path
  | none => there

/-- Puts the variables of an environment on top of a tree. -/
def Tree.putEnvironment (there : Tree) (root separator : String)
    (entries : List (String × String)) : Tree :=
  entries.foldl (Tree.putVariable root separator) there

end TableSchema.Config
