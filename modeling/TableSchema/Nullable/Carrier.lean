import TableSchema.Decimal.Notation
import TableSchema.Json.Number
import TableSchema.Text.Quoted
import TableSchema.Time.Civil

/-!
# Carried values

The values that a nullable cell can carry. A carrier says how such a value is read from a document,
how it is written to one, and how it is shown to a programmer.
-/

namespace TableSchema

/-- The representations of a type of values. -/
structure Carrier (α : Type) where
  default : α
  read? : Json → Option α
  write : α → Json
  /-- The text for a programmer. -/
  describe : α → String
  /-- Equality of values, which for floating-point numbers is not identity. -/
  equal : α → α → Bool

namespace Carrier

/-- Truth values. -/
def bool : Carrier Bool where
  default := false
  read? := Json.toBool?
  write := .bool
  describe := Text.ofBool
  equal := (· == ·)

/-- Integers between two limits. -/
def int (least most : Int) : Carrier Int where
  default := 0
  read? := Json.toInt? least most
  write n := .number (String.ofList (Decimal.writeInt n))
  describe n := String.ofList (Decimal.writeInt n)
  equal := (· == ·)

/-- Floating-point numbers. The two zeros are equal. -/
def float : Carrier Float where
  default := 0
  read? := Json.toFloat?
  write x := .number (Decimal.writeFloat .document x)
  describe x := Decimal.writeFloat .debug x
  equal := (· == ·)

/-- Texts. -/
def text : Carrier String where
  default := ""
  read? := Json.toText?
  write := .string
  describe := Text.quoted
  equal := (· == ·)

/-- Date-times, which a document holds as text. -/
def time : Carrier Civil where
  default := Civil.epoch
  read? j := j.toText?.bind Civil.read?
  write t := .string t.write
  describe t := t.write
  equal := (· == ·)

/-- Lists of carried values. -/
def list {α : Type} (c : Carrier α) : Carrier (List α) where
  default := []
  read? := Json.toList? c.read?
  write items := .array (items.map c.write)
  describe items := "[" ++ ", ".intercalate (items.map c.describe) ++ "]"
  equal a b := a.length == b.length && (a.zip b).all fun (x, y) => c.equal x y

/-- Unsigned integers: as many numbers as `size` says, from zero on. -/
def unsigned (size : Nat) : Carrier Int :=
  int 0 (size - 1)

/-- Signed integers: as many numbers as `size` says, half of them negative. -/
def signed (size : Nat) : Carrier Int :=
  int (-(size / 2 : Nat)) ((size / 2 : Nat) - 1)

end Carrier

end TableSchema
