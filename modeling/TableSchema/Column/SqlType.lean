import TableSchema.Types.Graph

/-!
# Inferred SQL types

The SQL type that a column takes from the base type of its field when no option names one. Every
scalar has one, and so have byte strings and documents; any other type has none.
-/

namespace TableSchema

/-- A SQL type name with its size, where `0` leaves the size open. -/
structure SqlType where
  name : String
  size : UInt32 := 0
  unsigned : Bool := false
deriving DecidableEq, Repr

/-- The SQL type of a scalar. -/
def Scalar.sqlType : Scalar → SqlType
  | bool => { name := "TINYINT", size := 1 }
  | int8 => { name := "TINYINT" }
  | int16 => { name := "SMALLINT" }
  | int32 => { name := "INTEGER" }
  | int64 => { name := "BIGINT" }
  | uint8 => { name := "TINYINT", unsigned := true }
  | uint16 => { name := "SMALLINT", unsigned := true }
  | uint32 => { name := "INTEGER", unsigned := true }
  | uint64 => { name := "BIGINT", unsigned := true }
  | float32 => { name := "FLOAT" }
  | float64 => { name := "DOUBLE" }
  | string => { name := "VARCHAR", size := 191 }
  | timestamp => { name := "DATETIME", size := 6 }

namespace TypeGraph

variable {τ : Type} (g : TypeGraph τ)

/-- Whether a type is the unsigned byte itself; a wrapped byte is not. -/
def isUnsignedByte (t : τ) : Bool :=
  match (g.shape t).body with
  | .scalar .uint8 => true
  | _ => false

variable {g} in
/-- The unsigned bytes are the values of one scalar type. -/
theorem isUnsignedByte_iff {t : τ} :
    g.isUnsignedByte t = true ↔ (g.shape t).body = .scalar .uint8 := by
  rw [isUnsignedByte]
  cases (g.shape t).body with
  | scalar s => cases s <;> simp
  | _ => simp

/-- The SQL type of a body. A byte array whose length does not fit a size has none. -/
def bodySqlType? : Body τ → Option SqlType
  | .scalar s => some s.sqlType
  | .rawJson => some { name := "JSON" }
  | .list element =>
    if g.isUnsignedByte element then some { name := "VARBINARY", size := 767 } else none
  | .array element length =>
    if g.isUnsignedByte element ∧ length < UInt32.size then
      some { name := "BINARY", size := UInt32.ofNat length }
    else none
  | .pointer .. | .nullable _ | .struct _ | .hidden => none

/-- The SQL type of a type. A type with the document marker is stored as a document; size and sign
still come from its body. -/
def sqlType? (t : τ) : Option SqlType :=
  let shape := g.shape t
  let fromBody := g.bodySqlType? shape.body
  if shape.json then
    some { name := "JSON", size := (fromBody.map SqlType.size).getD 0,
           unsigned := (fromBody.map SqlType.unsigned).getD false }
  else fromBody

end TypeGraph

end TableSchema
