import TableSchema.Json.Basic
import TableSchema.Text.Digits

/-!
# Numbers of a JSON document

What a written number is worth. A number without fraction and exponent is an integer if it fits 64
bits, signed or not; every other one, and a negative zero, is a floating-point number. Of those the
leading digits that fit a word of 64 bits are kept and scaled by a power of ten.
-/

namespace TableSchema.Json

open Text

/-- A written number, taken apart. -/
structure Numeral where
  negative : Bool
  whole : List Char
  fraction : List Char
  /-- The sign of the exponent, true for minus, and its digits. -/
  exponent : Option (Bool × List Char)
deriving DecidableEq, Repr

/-- Takes a lexeme apart. -/
def Numeral.ofLexeme (lexeme : String) : Numeral :=
  let s := lexeme.toList
  let (negative, s) :=
    match s with
    | '-' :: rest => (true, rest)
    | _ => (false, s)
  let (whole, s) := s.span Char.isDigit
  let (fraction, s) :=
    match s with
    | '.' :: rest => rest.span Char.isDigit
    | _ => ([], s)
  let exponent :=
    match s with
    | [] => none
    | _ :: '-' :: digits => some (true, digits)
    | _ :: '+' :: digits => some (false, digits)
    | _ :: digits => some (false, digits)
  { negative, whole, fraction, exponent }

/-- The value of a numeral that counts as an integer. -/
def Numeral.toInt? (n : Numeral) : Option Int :=
  if n.fraction ≠ [] ∨ n.exponent ≠ none then none
  else
    let value := digitsValue 0 n.whole
    if n.negative then
      if value = 0 ∨ 0x8000000000000000 < value then none else some (-(value : Int))
    else if value < UInt64.size then some value else none

/-- A significand of at most 64 bits and a power of ten. -/
structure Scaled where
  significand : Nat
  exponent : Int
deriving DecidableEq, Repr

/-- Takes digits in front of the point: the first ones that fit, then only their number. -/
def Scaled.takeWhole (sc : Scaled) : List Char → Scaled
  | [] => sc
  | c :: rest =>
    let next := sc.significand * 10 + digitValue c
    if next < UInt64.size then takeWhole { sc with significand := next } rest
    else { sc with exponent := sc.exponent + (rest.length + 1) }

/-- Takes digits behind the point, up to the first one that does not fit. -/
def Scaled.takeFraction (sc : Scaled) : List Char → Scaled
  | [] => sc
  | c :: rest =>
    let next := sc.significand * 10 + digitValue c
    if next < UInt64.size then takeFraction ⟨next, sc.exponent - 1⟩ rest else sc

/-- A power of ten as a floating-point number, correctly rounded. -/
def powTenFloat (n : Nat) : Float :=
  Float.ofScientific 1 false n

/-- Divides by `10 ^ places`, in steps that a floating-point number can express. After three full
steps nothing is left of any significand. -/
def scaleDown (x : Float) (places : Nat) : Float :=
  let steps := (places - 1) / 308
  Nat.repeat (· / powTenFloat 308) (min steps 3) x / powTenFloat (places - 308 * steps)

/-- The value of a significand and a power of ten, unless it is too large. -/
def Scaled.toFloat? (sc : Scaled) : Option Float :=
  let x := sc.significand.toUInt64.toFloat
  if sc.exponent < 0 then some (scaleDown x sc.exponent.natAbs)
  else if sc.exponent ≤ 308 then
    let y := x * powTenFloat sc.exponent.toNat
    if y.isInf then none else some y
  else if x == 0 then some x
  else none

/-- The exponent of a numeral, unless it is too large to matter. -/
def Numeral.exponentValue (n : Numeral) : Option Int :=
  match n.exponent with
  | none => some 0
  | some (negative, digits) =>
    let value := digitsValue 0 digits
    if value < 0x80000000 then some (if negative then -(value : Int) else value) else none

/-- The magnitude of a numeral as a floating-point number, unless it is too large. -/
def Numeral.magnitude? (n : Numeral) : Option Float :=
  let sc := ((⟨0, 0⟩ : Scaled).takeWhole n.whole).takeFraction n.fraction
  match n.exponentValue with
  | some e => { sc with exponent := sc.exponent + e }.toFloat?
  | none =>
    let shrinks := n.exponent.any (·.1)
    if sc.significand = 0 ∨ shrinks then some 0 else none

/-- The value of a numeral as a floating-point number, unless it is too large. -/
def Numeral.toFloat? (n : Numeral) : Option Float :=
  n.magnitude?.map fun x => if n.negative then -x else x

/-- An integer between two limits. -/
def toInt? (least most : Int) : Json → Option Int
  | .number lexeme =>
    (Numeral.ofLexeme lexeme).toInt?.filter fun n => least ≤ n ∧ n ≤ most
  | _ => none

/-- A floating-point number. -/
def toFloat? : Json → Option Float
  | .number lexeme => (Numeral.ofLexeme lexeme).toFloat?
  | _ => none

/-- A truth value. -/
def toBool? : Json → Option Bool
  | .bool b => some b
  | _ => none

/-- A text. -/
def toText? : Json → Option String
  | .string s => some s
  | _ => none

/-- A list whose items can all be read. -/
def toList? {α : Type} (item? : Json → Option α) : Json → Option (List α)
  | .array items => items.mapM item?
  | _ => none

end TableSchema.Json
