import TableSchema.Table.Basic
import TableSchema.Text.Quoted

/-!
# Event log

What an extraction reports while it runs, as data. The results never depend on the log; each
operation has beside it the list of events that it reports, in order.

* `TypeGraph.resolveEvents`, `TypeGraph.visibleEvents` — cyclic wrappers that a walk met.
* `Column.events`, `Table.events` — what building reports, up to the first problem.
-/

namespace TableSchema

/-- An event worth reporting. -/
inductive Event where
  | cyclicIndirection (typeName : String)
  | skippingField (sourceName : String)
  | ignoredOption (key sourceName : String)
  | columnBuilt (name typeName sqlType : String) (size : UInt32) (unsigned nullable : Bool)
  | buildingTable (name typeName : String)
  | tableRegistered (name : String) (columns : Nat)
  | fellBack (path reason : String)
deriving DecidableEq, Repr

/-- The line of an event: its level, then its text. -/
def Event.line : Event → String
  | cyclicIndirection typeName => "TRACE cyclic indirection at " ++ typeName
  | skippingField sourceName => "DEBUG skipping field " ++ sourceName
  | ignoredOption key sourceName =>
    "TRACE ignoring unknown option " ++ key ++ " on " ++ sourceName
  | columnBuilt name typeName sqlType size unsigned nullable =>
    "TRACE column " ++ name ++ " (" ++ typeName ++ ") -> " ++ sqlType
      ++ " size=" ++ toString size.toNat
      ++ " unsigned=" ++ Text.ofBool unsigned
      ++ " null=" ++ Text.ofBool nullable
  | buildingTable name typeName => "DEBUG building table " ++ name ++ " from " ++ typeName
  | tableRegistered name columns =>
    "DEBUG registered table " ++ name ++ " (" ++ toString columns ++ " columns)"
  | fellBack path reason => "WARN failed to load " ++ path ++ ", falling back to env: " ++ reason

variable {τ : Type} [DecidableEq τ]

/-- The resolution of a type reports the wrapper at which a cycle stopped it. -/
def TypeGraph.resolveEvents (g : TypeGraph τ) (t : τ) : List Event :=
  if g.isCyclic t then [.cyclicIndirection (g.shape (g.resolve t).type).typeName] else []

/-- Looking for visible fields resolves the type of every embedded field. -/
def TypeGraph.visibleEvents (g : TypeGraph τ) (t : τ) : List Event :=
  (g.occurrences t).flatMap fun o =>
    if o.field.embedded then g.resolveEvents o.field.type else []

/-- Reading options reports the unknown ones in front of the first problem. -/
def optionEvents (strict : Bool) (field : String) : List TagEntry → List Event
  | [] => []
  | o :: rest =>
    match readOption strict field o with
    | .error _ => []
    | .ok none => .ignoredOption o.key field :: optionEvents strict field rest
    | .ok (some _) => optionEvents strict field rest

/-- What building a column reports. -/
def Column.events (g : TypeGraph τ) (config : Config) (sourceName : String) (declared : τ)
    (rawTag : String) : List Event :=
  let tag := Tag.parse rawTag config.skipMarker
  let told :=
    if tag.name = .skipped then [.skippingField sourceName]
    else optionEvents config.strictOptions sourceName tag.options
  let built :=
    match Column.build g config sourceName declared rawTag with
    | .ok (some c) =>
      [.columnBuilt c.name (g.shape c.resolvedType).typeName c.sqlType c.size c.unsigned c.nullable]
    | _ => []
  g.resolveEvents declared ++ told ++ built

/-- What building the column of a field reports. -/
def Column.fieldEvents (g : TypeGraph τ) (config : Config) (f : Field τ) : List Event :=
  Column.events g config f.name f.type (Column.rawTag config f)

/-- What building the columns of fields reports, given the names of those in front. -/
def columnsEvents (g : TypeGraph τ) (config : Config) (names : List String) :
    List (Field τ) → List Event
  | [] => []
  | f :: rest =>
    let later :=
      match Column.ofField g config f with
      | .error _ => []
      | .ok none => columnsEvents g config names rest
      | .ok (some c) =>
        if c.name ∈ names then [] else columnsEvents g config (c.name :: names) rest
    Column.fieldEvents g config f ++ later

/-- What building a table reports. -/
def Table.events (g : TypeGraph τ) (config : Config) (root : τ) (options : TableOptions) :
    List Event :=
  let base := (g.resolve root).type
  let shape := g.shape base
  g.resolveEvents root ++
    match shape.body.fields? with
    | none => []
    | some _ =>
      .buildingTable (nameFor options shape.typeName) shape.typeName
        :: (g.visibleEvents base ++ columnsEvents g config [] (g.columnFields base))

end TableSchema
