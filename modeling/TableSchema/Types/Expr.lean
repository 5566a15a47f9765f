import TableSchema.Types.Shape

/-!
# Type expressions

How types are written: a declared name, one of the built-in leaves, or a wrapper around another
expression. Two types are the same exactly if they are written the same way.

* `Leaf` — the built-in types, each with its notation and its printable name.
* `TypeExpr` — expressions.
* `TypeExpr.read?` — reads the notation.
-/

namespace TableSchema

/-- The built-in types without parameters. -/
inductive Leaf where
  | bool
  | int8
  | int16
  | int32
  | int64
  | uint8
  | uint16
  | uint32
  | uint64
  | float32
  | float64
  | string
  | systemTime
  | localDateTime
  | utcDateTime
  | offsetDateTime
  | character
  | int128
  | uint128
  | intSize
  | uintSize
  | date
  | timeOfDay
  | jsonValue
  | rawJson
  | nullBool
  | nullByte
  | nullFloat64
  | nullInt16
  | nullInt32
  | nullInt64
  | nullString
  | nullTime
deriving DecidableEq, Repr

namespace Leaf

/-- Every leaf. -/
def all : List Leaf :=
  [bool, int8, int16, int32, int64, uint8, uint16, uint32, uint64, float32, float64, string,
    systemTime, localDateTime, utcDateTime, offsetDateTime, character, int128, uint128, intSize,
    uintSize, date, timeOfDay, jsonValue, rawJson, nullBool, nullByte, nullFloat64, nullInt16,
    nullInt32, nullInt64, nullString, nullTime]

/-- How a leaf is written. -/
def text : Leaf → String
  | bool => "bool"
  | int8 => "i8"
  | int16 => "i16"
  | int32 => "i32"
  | int64 => "i64"
  | uint8 => "u8"
  | uint16 => "u16"
  | uint32 => "u32"
  | uint64 => "u64"
  | float32 => "f32"
  | float64 => "f64"
  | string => "String"
  | systemTime => "SystemTime"
  | localDateTime => "NaiveDateTime"
  | utcDateTime => "DateTime<Utc>"
  | offsetDateTime => "DateTime<FixedOffset>"
  | character => "char"
  | int128 => "i128"
  | uint128 => "u128"
  | intSize => "isize"
  | uintSize => "usize"
  | date => "NaiveDate"
  | timeOfDay => "NaiveTime"
  | jsonValue => "Value"
  | rawJson => "Box<RawValue>"
  | nullBool => "NullBool"
  | nullByte => "NullByte"
  | nullFloat64 => "NullFloat64"
  | nullInt16 => "NullInt16"
  | nullInt32 => "NullInt32"
  | nullInt64 => "NullInt64"
  | nullString => "NullString"
  | nullTime => "NullTime"

/-- The module path of the nullable types. -/
def nullablePath : String := "ddlforge::reflect::null::"

/-- The printable name of a leaf: the full path of library types, the bare name of primitive
ones. -/
def typeName : Leaf → String
  | string => "alloc::string::String"
  | systemTime => "std::time::SystemTime"
  | localDateTime => "chrono::naive::datetime::NaiveDateTime"
  | utcDateTime => "chrono::datetime::DateTime<chrono::offset::utc::Utc>"
  | offsetDateTime => "chrono::datetime::DateTime<chrono::offset::fixed::FixedOffset>"
  | date => "chrono::naive::date::NaiveDate"
  | timeOfDay => "chrono::naive::time::NaiveTime"
  | jsonValue => "serde_json::value::Value"
  | rawJson => "alloc::boxed::Box<serde_json::raw::RawValue>"
  | nullBool => nullablePath ++ "NullBool"
  | nullByte => nullablePath ++ "NullByte"
  | nullFloat64 => nullablePath ++ "NullFloat64"
  | nullInt16 => nullablePath ++ "NullInt16"
  | nullInt32 => nullablePath ++ "NullInt32"
  | nullInt64 => nullablePath ++ "NullInt64"
  | nullString => nullablePath ++ "NullString"
  | nullTime => nullablePath ++ "NullTime"
  | leaf => leaf.text

/-- The structure of a leaf. The nullable leaves carry another leaf. -/
def body : Leaf → Body Leaf
  | bool => .scalar .bool
  | int8 => .scalar .int8
  | int16 => .scalar .int16
  | int32 => .scalar .int32
  | int64 => .scalar .int64
  | uint8 => .scalar .uint8
  | uint16 => .scalar .uint16
  | uint32 => .scalar .uint32
  | uint64 => .scalar .uint64
  | float32 => .scalar .float32
  | float64 => .scalar .float64
  | string => .scalar .string
  | systemTime | localDateTime | utcDateTime | offsetDateTime => .scalar .timestamp
  | character | int128 | uint128 | intSize | uintSize | date | timeOfDay => .hidden
  | jsonValue | rawJson => .rawJson
  | nullBool => .nullable bool
  | nullByte => .nullable uint8
  | nullFloat64 => .nullable float64
  | nullInt16 => .nullable int16
  | nullInt32 => .nullable int32
  | nullInt64 => .nullable int64
  | nullString => .nullable string
  | nullTime => .nullable localDateTime

end Leaf

/-- The wrappers that take one type and nothing else. -/
inductive Wrapper where
  /-- A pointer that may be absent. -/
  | optional
  /-- An owning pointer. -/
  | boxed
  /-- A shared pointer. -/
  | shared
  /-- A pointer shared between threads. -/
  | threadShared
  /-- A value with a flag for its presence. -/
  | nullable
  /-- A sequence of any length. -/
  | list
  /-- A value stored as a document. -/
  | document
deriving DecidableEq, Repr

namespace Wrapper

/-- Every wrapper. -/
def all : List Wrapper :=
  [optional, boxed, shared, threadShared, nullable, list, document]

/-- How a wrapper is written in front of its argument. -/
def text : Wrapper → String
  | optional => "Option"
  | boxed => "Box"
  | shared => "Rc"
  | threadShared => "Arc"
  | nullable => "Null"
  | list => "Vec"
  | document => "Json"

/-- The full path of a wrapper. -/
def path : Wrapper → String
  | optional => "core::option::Option"
  | boxed => "alloc::boxed::Box"
  | shared => "alloc::rc::Rc"
  | threadShared => "alloc::sync::Arc"
  | nullable => Leaf.nullablePath ++ "Null"
  | list => "alloc::vec::Vec"
  | document => Leaf.nullablePath ++ "Json"

/-- The body of a wrapper around a type. -/
def body {τ : Type} (t : τ) : Wrapper → Body τ
  | optional => .pointer t true
  | boxed | shared | threadShared => .pointer t false
  | nullable => .nullable t
  | list => .list t
  | document => .hidden

end Wrapper

/-- A type as it is written. -/
inductive TypeExpr where
  | declared (id : String)
  | leaf (l : Leaf)
  | wrapped (w : Wrapper) (argument : TypeExpr)
  | array (element : TypeExpr) (length : Nat)
deriving DecidableEq, Repr

namespace TypeExpr

/-- The text between an opening text and a closing character. -/
def enclosed? (opening : List Char) (closing : Char) (s : List Char) : Option (List Char) :=
  if opening.isPrefixOf s ∧ s.getLast? = some closing ∧ opening.length < s.length then
    some (s.drop opening.length).dropLast
  else none

/-- What stands between brackets is shorter than the text with them. -/
theorem length_lt_of_enclosed? {opening inner s : List Char} {closing : Char}
    (h : enclosed? opening closing s = some inner) : inner.length < s.length := by
  rw [enclosed?] at h
  split at h
  · next hs =>
    have := hs.2.2
    simp only [Option.some.injEq] at h
    simp only [← h, List.length_dropLast, List.length_drop]
    omega
  · simp at h

/-- The wrapper that a text starts with, and the text of its argument. -/
def wrapper? (s : List Char) : Option (Wrapper × List Char) :=
  Wrapper.all.findSome? fun w =>
    (enclosed? (w.text.toList ++ ['<']) '>' s).map (w, ·)

/-- What a wrapper wraps is shorter than the text of the wrapper. -/
theorem length_lt_of_wrapper? {s inner : List Char} {w : Wrapper}
    (h : wrapper? s = some (w, inner)) : inner.length < s.length := by
  obtain ⟨v, _, hv⟩ := List.exists_of_findSome?_eq_some h
  obtain ⟨x, hx, heq⟩ := Option.map_eq_some_iff.1 hv
  obtain ⟨_, rfl⟩ := Prod.mk.injEq .. ▸ heq
  exact length_lt_of_enclosed? hx

/-- The length that the text behind the last semicolon spells. -/
def arrayLength? (s : List Char) : Option Nat :=
  let digits := s.dropWhile (· = ' ')
  if digits ≠ [] ∧ digits.all Char.isDigit then (String.ofList digits).toNat? else none

/-- The element and the length of an array, from the text between its brackets: the last semicolon
separates them. -/
def arrayParts? (s : List Char) : Option (List Char × Nat) :=
  let back := s.reverse
  match back.dropWhile (· ≠ ';') with
  | [] => none
  | _ :: element =>
    (arrayLength? (back.takeWhile (· ≠ ';')).reverse).map (element.reverse, ·)

/-- The element of an array is no longer than what stands between its brackets. -/
theorem length_le_of_arrayParts? {s element : List Char} {n : Nat}
    (h : arrayParts? s = some (element, n)) : element.length ≤ s.length := by
  rw [arrayParts?] at h
  split at h
  · simp at h
  · next c rest hrest =>
    obtain ⟨_, _, heq⟩ := Option.map_eq_some_iff.1 h
    obtain ⟨rfl, _⟩ := Prod.mk.injEq .. ▸ heq
    have hle := (List.dropWhile_suffix (l := s.reverse) (· ≠ ';')).length_le
    rw [hrest] at hle
    simp only [List.length_cons, List.length_reverse] at hle ⊢
    omega

/-- Reads a type. `isDeclared` tells the declared names, which come before every other reading. -/
def readChars? (isDeclared : String → Bool) (s : List Char) : Option TypeExpr :=
  let text := String.ofList s
  if isDeclared text then some (.declared text)
  else
    match Leaf.all.find? (·.text = text) with
    | some l => some (.leaf l)
    | none =>
      match _hw : wrapper? s with
      | some (w, inner) => (readChars? isDeclared inner).map (.wrapped w)
      | none =>
        match _hb : enclosed? ['['] ']' s with
        | none => none
        | some inner =>
          match _ha : arrayParts? inner with
          | none => none
          | some (element, length) => (readChars? isDeclared element).map (.array · length)
termination_by s.length
decreasing_by
  · exact length_lt_of_wrapper? _hw
  · exact Nat.lt_of_le_of_lt (length_le_of_arrayParts? _ha) (length_lt_of_enclosed? _hb)

/-- Reads a type from its notation. -/
def read? (isDeclared : String → Bool) (text : String) : Option TypeExpr :=
  readChars? isDeclared text.toList

/-- The expressions inside an expression, itself included. -/
def parts : TypeExpr → List TypeExpr
  | declared id => [declared id]
  | leaf l =>
    match l.body with
    | .nullable carried => [leaf l, leaf carried]
    | _ => [leaf l]
  | wrapped w t => wrapped w t :: t.parts
  | array t n => array t n :: t.parts

/-- A type is one of its own parts. -/
theorem mem_parts_self (t : TypeExpr) : t ∈ t.parts := by
  cases t with
  | leaf l => cases l <;> simp [parts, Leaf.body]
  | _ => simp [parts]

end TypeExpr

end TableSchema
