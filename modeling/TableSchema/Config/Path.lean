import TableSchema.Text.Digits

/-!
# Paths of settings

A key may spell a path through nested settings: names between points, and behind a name the indices
of nested lists in brackets, as in `schema.names[0]`. A key that is no path as a whole is one name.

* `pathOf` — the path that a key spells.
-/

namespace TableSchema.Config

/-- One step of a path. -/
inductive Step where
  | name (s : String)
  /-- The item of a list; a negative index counts from its end. -/
  | index (i : Int)
deriving DecidableEq, Repr

/-- The pieces of a text between separators. -/
def pieces (separator : Char) : List Char → List (List Char)
  | [] => [[]]
  | c :: rest =>
    if c = separator then [] :: pieces separator rest
    else (pieces separator rest).modifyHead (c :: ·)

/-- Whether a character may stand in a name of a path. -/
def isPathChar (c : Char) : Bool :=
  c.isAlphanum || c = ' ' || c = '_' || c = '-'

/-- The natural number that digits spell; there is at least one. -/
def natural? (s : List Char) : Option Nat :=
  if s ≠ [] ∧ s.all Char.isDigit then some (Text.digitsValue 0 s) else none

/-- The integer of 64 bits that digits behind an optional minus spell. -/
def index? (s : List Char) : Option Int :=
  let n : Option Int :=
    match s with
    | '-' :: digits => (natural? digits).map fun n => -(n : Int)
    | digits => (natural? digits).map fun n => (n : Int)
  n.filter fun n => -9223372036854775808 ≤ n ∧ n ≤ 9223372036854775807

/-- The index that the text behind an opening bracket spells: an integer, blanks around it allowed,
and the closing bracket as its last character. -/
def bracketed? (s : List Char) : Option Int :=
  let isBlank (c : Char) : Bool := c = ' ' || c = '\t'
  match s.reverse with
  | ']' :: inside => index? ((inside.dropWhile isBlank).reverse.dropWhile isBlank)
  | _ => none

/-- The steps of a piece of a path: a name and the indices behind it. -/
def steps? (s : List Char) : Option (List Step) :=
  match pieces '[' s with
  | [] => none
  | name :: indices =>
    if name ≠ [] ∧ name.all isPathChar then
      (indices.mapM bracketed?).map fun is => .name (String.ofList name) :: is.map .index
    else none

/-- The path that a key spells. -/
def pathOf (key : String) : List Step :=
  match (pieces '.' key.toList).mapM steps? with
  | some steps => steps.flatten
  | none => [.name key]

end TableSchema.Config
