import TableSchema.Definition.Attribute
import TableSchema.Table.Basic

/-!
# Shapes from definitions

A type definition carries annotations, and two things follow from it: the shape of the type, with
the annotations of its fields, and the table options. Both read the annotations of the type; only
the shape reads those of the fields.

* `Definition.shape` — the shape, over field types as they are written.
* `Definition.tableOptions` — the declared name and comment of the table.
-/

namespace TableSchema

namespace Definition

/-- A parameter of a type. -/
inductive Parameter where
  | type (name : String) (bounds : List String)
  | lifetime (name : String) (bounds : List String)
  | const (name type : String)
deriving DecidableEq, Repr

/-- The name of a parameter. -/
def Parameter.name : Parameter → String
  | type name _ | lifetime name _ | const name _ => name

/-- Whether a parameter is a lifetime. -/
def Parameter.isLifetime : Parameter → Bool
  | lifetime .. => true
  | type .. | const .. => false

/-- The bound that every type parameter gets: its argument has a shape of its own. -/
def shapeBound : String := "::ddlforge::Reflect"

/-- A parameter with the bound that an implementation asks for. -/
def Parameter.bounded : Parameter → Parameter
  | type name bounds => type name (bounds ++ [shapeBound])
  | p => p

/-- A field of a definition. -/
structure FieldDefinition where
  name : String
  /-- The type as it is written. -/
  type : String
  attributes : List Attribute
deriving DecidableEq, Repr

/-- The body of a definition. -/
inductive Content where
  | named (fields : List FieldDefinition)
  /-- Fields without names. -/
  | unnamed
  | unit
  /-- Alternatives, of which nothing is shown. -/
  | alternatives
deriving DecidableEq, Repr

end Definition

/-- A type definition. -/
structure Definition where
  name : String
  parameters : List Definition.Parameter
  attributes : List Definition.Attribute
  content : Definition.Content
deriving DecidableEq, Repr

namespace Definition

/-- What an implementation for a defined type says about the type itself. -/
structure Head where
  name : String
  /-- The parameters with their bounds, lifetimes first. -/
  parameters : List Parameter
  /-- The names behind the type. -/
  arguments : List String
deriving DecidableEq, Repr

/-- The head of every implementation for a definition. -/
def head (d : Definition) : Head :=
  let bounded := d.parameters.map Parameter.bounded
  let ordered := bounded.filter Parameter.isLifetime ++ bounded.filter (!·.isLifetime)
  ⟨d.name, ordered, ordered.map Parameter.name⟩

/-- The name of a field: its identifier without the mark of a raw one. -/
def plainName (identifier : String) : String :=
  match identifier.toList with
  | 'r' :: '#' :: rest => String.ofList rest
  | _ => identifier

/-- The field that a definition of a field stands for. -/
def FieldDefinition.field (f : FieldDefinition) : Except AttributeError (Field String) := do
  let options ← fieldOptions f.attributes
  .ok ⟨plainName f.name, f.type, options.tags, options.embedded⟩

/-- The shape of a definition: its fields, or nothing for a type that does not show them, and the
document marker. -/
structure DerivedShape where
  fields : Option (List (Field String))
  json : Bool
deriving DecidableEq, Repr

/-- The shape of a definition, or the first problem. -/
def shape (d : Definition) : Except AttributeError DerivedShape := do
  let options ← structOptions d.attributes
  match d.content with
  | .named fields => do
    let fields ← fields.mapM FieldDefinition.field
    .ok ⟨some fields, options.json⟩
  | .unnamed => .error .unnamedFields
  | .unit => .ok ⟨some [], options.json⟩
  | .alternatives => .ok ⟨none, options.json⟩

/-- The table options of a definition, or the first problem. Keys and indexes are never derived. -/
def tableOptions (d : Definition) : Except AttributeError TableOptions := do
  let options ← structOptions d.attributes
  .ok { name := options.table, comment := options.comment }

/-- The shape in a program whose types are known: `typeOf` finds the type that is written as a text,
`typeName` is the printable name of the defined one. -/
def DerivedShape.toShape {τ : Type} (typeOf : String → τ) (typeName : String)
    (s : DerivedShape) : Shape τ where
  typeName
  body :=
    match s.fields with
    | some fields =>
      .struct (fields.map fun f => { f with type := typeOf f.type })
    | none => .hidden
  json := s.json

end Definition

end TableSchema
