import TableSchema.Members
import TableSchema.Toml.Value

/-!
# TOML tables under construction

A document builds its tables piece by piece, and each piece may be written once: a header defines a
table and implies the tables above it, a dotted key makes the tables that it passes through, and a
header in double brackets adds one more table to a list. A header may pass through any table and
completes one that is only implied; a dotted key may pass through tables that no header names, and
may end only in one that dotted keys made.

The order of members counts: a table that a header completes moves behind its neighbours, as if it
were written for the first time.
-/

namespace TableSchema.Toml

/-- How a table came to be. -/
inductive TableSource where
  /-- A header names it. -/
  | header
  /-- A longer header implies it. -/
  | implied
  /-- A dotted key passes through it. -/
  | dotted
deriving DecidableEq, Repr

/-- A place in a table under construction. -/
inductive Entry where
  | value (v : Value)
  | table (source : TableSource) (members : List (String × Entry))
  | tables (earlier : List (List (String × Entry))) (last : List (String × Entry))

/-- The members of a table under construction. -/
abbrev Members := List (String × Entry)

/-- Puts an entry in the place of the one of the same name, or behind all others. -/
def Members.put (ms : Members) (name : String) (e : Entry) : Members :=
  overwrite name e ms

/-- Takes the entry of a name out and puts another one behind all others. -/
def Members.putLast (ms : Members) (name : String) (e : Entry) : Members :=
  ms.filter (·.1 ≠ name) ++ [(name, e)]

/-- Defines the table of a header. -/
def Members.define? (ms : Members) : List String → Option Members
  | [] => none
  | [name] =>
    match ms.lookup name with
    | none => some (ms.put name (.table .header []))
    | some (.table .implied inner) => some (ms.putLast name (.table .header inner))
    | some _ => none
  | name :: path =>
    match ms.lookup name with
    | none => (define? [] path).map fun inner => ms.put name (.table .implied inner)
    | some (.table source inner) =>
      (define? inner path).map fun inner => ms.put name (.table source inner)
    | some (.tables earlier last) =>
      (define? last path).map fun last => ms.put name (.tables earlier last)
    | some (.value _) => none

/-- Adds a table to the list of a header in double brackets. -/
def Members.append? (ms : Members) : List String → Option Members
  | [] => none
  | [name] =>
    match ms.lookup name with
    | none => some (ms.put name (.tables [] []))
    | some (.tables earlier last) => some (ms.put name (.tables (earlier ++ [last]) []))
    | some _ => none
  | name :: path =>
    match ms.lookup name with
    | none => (append? [] path).map fun inner => ms.put name (.table .implied inner)
    | some (.table source inner) =>
      (append? inner path).map fun inner => ms.put name (.table source inner)
    | some (.tables earlier last) =>
      (append? last path).map fun last => ms.put name (.tables earlier last)
    | some (.value _) => none

/-- Whether a dotted key may enter a table, with `more` parts between the table's name and its own
last one. -/
def TableSource.admits (source : TableSource) (more : List String) : Bool :=
  match source with
  | .header => false
  | .implied => more ≠ []
  | .dotted => true

/-- Gives a value to a dotted key. -/
def Members.assign? (ms : Members) (v : Value) : List String → Option Members
  | [] => none
  | [name] =>
    match ms.lookup name with
    | none => some (ms.put name (.value v))
    | some _ => none
  | name :: next :: more =>
    match ms.lookup name with
    | none => (assign? [] v (next :: more)).map fun inner => ms.put name (.table .dotted inner)
    | some (.table source inner) =>
      if source.admits more then
        (assign? inner v (next :: more)).map fun inner => ms.put name (.table source inner)
      else none
    | some (.tables earlier last) =>
      if more = [] then none
      else (assign? last v (next :: more)).map fun last => ms.put name (.tables earlier last)
    | some (.value _) => none

/-- Gives a value to a dotted key of the table that a header has opened. -/
def Members.assignIn? (ms : Members) (v : Value) (key : List String) : List String → Option Members
  | [] => ms.assign? v key
  | name :: path =>
    match ms.lookup name with
    | some (.table source inner) =>
      (assignIn? inner v key path).map fun inner => ms.put name (.table source inner)
    | some (.tables earlier last) =>
      (assignIn? last v key path).map fun last => ms.put name (.tables earlier last)
    | _ => none

mutual

/-- The value of an entry. -/
def Entry.toValue : Entry → Value
  | .value v => v
  | .table _ members => .table (membersToValues members)
  | .tables earlier last =>
    .array (tablesToValues earlier ++ [.table (membersToValues last)])

/-- The values of members. -/
def membersToValues : List (String × Entry) → List (String × Value)
  | [] => []
  | (name, e) :: rest => (name, e.toValue) :: membersToValues rest

/-- The values of tables in a list. -/
def tablesToValues : List (List (String × Entry)) → List Value
  | [] => []
  | t :: rest => .table (membersToValues t) :: tablesToValues rest

end

end TableSchema.Toml
