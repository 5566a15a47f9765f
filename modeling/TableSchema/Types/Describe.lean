import TableSchema.Text.Quoted
import TableSchema.Types.Graph

/-!
# Descriptions of shapes

A shape written out for a programmer, one layer deep: the types that it mentions appear by their
quoted names.
-/

namespace TableSchema

/-- The capitalised name of a scalar. -/
def Scalar.title : Scalar → String
  | bool => "Bool"
  | int8 => "I8"
  | int16 => "I16"
  | int32 => "I32"
  | int64 => "I64"
  | uint8 => "U8"
  | uint16 => "U16"
  | uint32 => "U32"
  | uint64 => "U64"
  | float32 => "F32"
  | float64 => "F64"
  | string => "String"
  | timestamp => "Timestamp"

namespace TypeGraph

variable {τ : Type} (g : TypeGraph τ)

/-- The quoted name of a type. -/
def quotedName (t : τ) : String :=
  Text.quoted (g.shape t).typeName

/-- A tag as a pair of quoted texts. -/
def describeTag (tag : String × String) : String :=
  "(" ++ Text.quoted tag.1 ++ ", " ++ Text.quoted tag.2 ++ ")"

/-- A field with the name of its type. -/
def describeField (f : Field τ) : String :=
  "Field \x7b name: " ++ Text.quoted f.name
    ++ ", type: " ++ g.quotedName f.type
    ++ ", tags: [" ++ ", ".intercalate (f.tags.map describeTag)
    ++ "], embedded: " ++ Text.ofBool f.embedded ++ " \x7d"

/-- The structure of a type. -/
def describeBody : Body τ → String
  | .scalar s => "Scalar(" ++ s.title ++ ")"
  | .pointer target optional =>
    "Pointer \x7b pointee: " ++ g.quotedName target
      ++ ", optional: " ++ Text.ofBool optional ++ " \x7d"
  | .nullable value => "Nullable(" ++ g.quotedName value ++ ")"
  | .list element => "List(" ++ g.quotedName element ++ ")"
  | .array element length =>
    "Array \x7b elem: " ++ g.quotedName element ++ ", len: " ++ toString length ++ " \x7d"
  | .rawJson => "RawJson"
  | .struct fields => "Struct([" ++ ", ".intercalate (fields.map g.describeField) ++ "])"
  | .hidden => "Opaque"

/-- A type by its name, kind and marker. -/
def describe (t : τ) : String :=
  let shape := g.shape t
  "Shape \x7b type_name: " ++ Text.quoted shape.typeName
    ++ ", kind: " ++ Text.quoted shape.body.kind.label
    ++ ", json: " ++ Text.ofBool shape.json ++ " \x7d"

end TypeGraph

end TableSchema
