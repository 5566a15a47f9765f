/-!
# Shapes of types

What a program declares about one of its types: a printable name, a structure, and a marker for
types that are stored as a document. Types mention each other by identity, so a shape is a single
layer; `TableSchema.Types.Graph` puts the layers together.
-/

namespace TableSchema

/-- The values that fit a single cell. -/
inductive Scalar where
  | bool
  | int8
  | int16
  | int32
  | int64
  | uint8
  | uint16
  | uint32
  | uint64
  | float32
  | float64
  | string
  | timestamp
deriving DecidableEq, Repr

/-- The short name of a scalar. -/
def Scalar.label : Scalar → String
  | bool => "bool"
  | int8 => "i8"
  | int16 => "i16"
  | int32 => "i32"
  | int64 => "i64"
  | uint8 => "u8"
  | uint16 => "u16"
  | uint32 => "u32"
  | uint64 => "u64"
  | float32 => "f32"
  | float64 => "f64"
  | string => "string"
  | timestamp => "timestamp"

/-- A field of a structured type. `tags` holds its annotations under their keys, in the order in
which they are written. -/
structure Field (τ : Type) where
  name : String
  type : τ
  tags : List (String × String)
  embedded : Bool
deriving DecidableEq, Repr

/-- The first annotation under a key. -/
def Field.tag? {τ : Type} (f : Field τ) (key : String) : Option String :=
  f.tags.lookup key

/-- One layer of a type, over the identities of the types it mentions. -/
inductive Body (τ : Type) where
  | scalar (s : Scalar)
  /-- An indirection; an optional one may point nowhere. -/
  | pointer (target : τ) (optional : Bool)
  /-- A value together with a flag that says whether it is present. -/
  | nullable (value : τ)
  | list (element : τ)
  | array (element : τ) (length : Nat)
  /-- A document kept as text. -/
  | rawJson
  | struct (fields : List (Field τ))
  /-- A type that shows nothing of its structure. -/
  | hidden
deriving DecidableEq, Repr

/-- What is known about a type. -/
structure Shape (τ : Type) where
  typeName : String
  body : Body τ
  /-- Values are stored as a document, whatever the body. -/
  json : Bool
deriving DecidableEq, Repr

/-- The kinds of types, which is what messages tell about a body. -/
inductive Kind where
  | scalar (s : Scalar)
  | pointer
  | nullable
  | list
  | array
  | json
  | struct
  | hidden
deriving DecidableEq, Repr

/-- The name of a kind. -/
def Kind.label : Kind → String
  | scalar s => s.label
  | pointer => "pointer"
  | nullable => "nullable"
  | list => "list"
  | array => "array"
  | json => "json"
  | struct => "struct"
  | hidden => "opaque"

namespace Body

variable {τ : Type}

/-- The kind of a body. -/
def kind : Body τ → Kind
  | scalar s => .scalar s
  | pointer .. => .pointer
  | nullable _ => .nullable
  | list _ => .list
  | array .. => .array
  | rawJson => .json
  | struct _ => .struct
  | hidden => .hidden

/-- The fields of a structured type. -/
def fields? : Body τ → Option (List (Field τ))
  | struct fields => some fields
  | _ => none

/-- What is under one wrapper, and whether that wrapper admits an absent value. -/
def unwrap? : Body τ → Option (τ × Bool)
  | pointer target optional => some (target, optional)
  | nullable value => some (value, true)
  | _ => none

/-- The types that a body mentions. -/
def mentions : Body τ → List τ
  | pointer target _ => [target]
  | nullable value => [value]
  | list element => [element]
  | array element _ => [element]
  | struct fields => fields.map Field.type
  | scalar _ | rawJson | hidden => []

/-- A wrapper mentions what it wraps. -/
theorem mem_mentions_of_unwrap? {b : Body τ} {t : τ} {optional : Bool}
    (h : b.unwrap? = some (t, optional)) : t ∈ b.mentions := by
  cases b <;> simp_all [unwrap?, mentions]

/-- A structure mentions the types of its fields. -/
theorem mem_mentions_of_fields? {b : Body τ} {fields : List (Field τ)} {f : Field τ}
    (h : b.fields? = some fields) (hf : f ∈ fields) : f.type ∈ b.mentions := by
  cases b <;> simp_all [fields?, mentions]
  exact ⟨f, hf, rfl⟩

end Body

end TableSchema
