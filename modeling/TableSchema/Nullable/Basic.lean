import TableSchema.Nullable.Carrier

/-!
# Nullable values

A value together with a flag that says whether it is present. The value of an absent one is the
default of its type when it was made from nothing, but reading a document keeps whatever it says.

* `Nullable.ofOption`, `Nullable.toOption` — to and from optional values.
* `NullableFormat.read?`, `NullableFormat.write` — the form in a document.
* `nullableType?` — the nullable types by name.
-/

namespace TableSchema

/-- A value and its presence. -/
structure Nullable (α : Type) where
  value : α
  valid : Bool
deriving DecidableEq, Repr

namespace Nullable

variable {α : Type}

/-- A value that is present. -/
def of (a : α) : Nullable α :=
  ⟨a, true⟩

/-- Nothing, with the given value in its place. -/
def absent (value : α) : Nullable α :=
  ⟨value, false⟩

/-- From an optional value; `fallback` stands in for a missing one. -/
def ofOption (fallback : α) : Option α → Nullable α
  | some a => of a
  | none => absent fallback

/-- The value, if it is present. -/
def toOption (n : Nullable α) : Option α :=
  if n.valid then some n.value else none

/-- Whether a value equals the default: absent, with the default of its type. -/
def isDefault (c : Carrier α) (n : Nullable α) : Bool :=
  c.equal n.value c.default && !n.valid

end Nullable

/-- How a nullable type is written: its name, and the name of the member that holds the value. -/
structure NullableFormat where
  typeName : String
  member : String
deriving DecidableEq, Repr

namespace NullableFormat

variable {α : Type} (f : NullableFormat) (c : Carrier α)

/-- The single member of a name. -/
def single? (name : String) (members : List (String × Json)) : Option Json :=
  match members.filter (·.1 = name) with
  | [(_, value)] => some value
  | _ => none

/-- Reads an object, whose other members do not matter, or a list of the two members' values. -/
def read? : Json → Option (Nullable α)
  | .object members => do
    let value ← c.read? (← single? f.member members)
    let valid ← (← single? "valid" members).toBool?
    some ⟨value, valid⟩
  | .array [value, valid] => do
    some ⟨← c.read? value, ← valid.toBool?⟩
  | _ => none

/-- Writes an object of two members. -/
def write (n : Nullable α) : Json :=
  .object [(f.member, c.write n.value), ("valid", .bool n.valid)]

/-- The text for a programmer. -/
def describe (n : Nullable α) : String :=
  f.typeName ++ " \x7b " ++ f.member ++ ": " ++ c.describe n.value
    ++ ", valid: " ++ Text.ofBool n.valid ++ " \x7d"

end NullableFormat

/-- A nullable type: its format and its carrier. -/
structure NullableType where
  carried : Type
  carrier : Carrier carried
  format : NullableFormat

/-- The nullable type of a name. -/
def nullableType? : String → Option NullableType
  | "NullBool" => some ⟨_, .bool, "NullBool", "bool"⟩
  | "NullByte" => some ⟨_, .unsigned UInt8.size, "NullByte", "byte"⟩
  | "NullFloat64" => some ⟨_, .float, "NullFloat64", "float64"⟩
  | "NullInt16" => some ⟨_, .signed UInt16.size, "NullInt16", "int16"⟩
  | "NullInt32" => some ⟨_, .signed UInt32.size, "NullInt32", "int32"⟩
  | "NullInt64" => some ⟨_, .signed UInt64.size, "NullInt64", "int64"⟩
  | "NullString" => some ⟨_, .text, "NullString", "string"⟩
  | "NullTime" => some ⟨_, .time, "NullTime", "time"⟩
  | "Null<bool>" => some ⟨_, .bool, "Null", "value"⟩
  | "Null<i64>" => some ⟨_, .signed UInt64.size, "Null", "value"⟩
  | "Null<u16>" => some ⟨_, .unsigned UInt16.size, "Null", "value"⟩
  | "Null<String>" => some ⟨_, .text, "Null", "value"⟩
  | _ => none

/-- A type whose values are stored as documents and written like what they carry. -/
structure DocumentType where
  carried : Type
  carrier : Carrier carried

/-- The document type of a name. -/
def documentType? : String → Option DocumentType
  | "Json<i64>" => some ⟨_, .signed UInt64.size⟩
  | "Json<String>" => some ⟨_, .text⟩
  | "Json<Vec<String>>" => some ⟨_, .list .text⟩
  | _ => none

/-- The text of a document value for a programmer. -/
def DocumentType.describe (d : DocumentType) (value : d.carried) : String :=
  "Json(" ++ d.carrier.describe value ++ ")"

end TableSchema
