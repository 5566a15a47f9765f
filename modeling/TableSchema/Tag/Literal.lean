import TableSchema.Text.Digits

/-!
# Literals in tag options

The two kinds of literal that an option's value may have to be.

* `readBool` — one of twelve spellings of a truth value.
* `readWord` — a number below `2 ^ 32` in decimal, with an optional plus sign.
-/

namespace TableSchema

/-- The truth value that a text spells. -/
def readBool (s : String) : Option Bool :=
  if s ∈ ["1", "t", "T", "true", "TRUE", "True"] then some true
  else if s ∈ ["0", "f", "F", "false", "FALSE", "False"] then some false
  else none

/-- Why a text is not a number. -/
inductive NumberFault where
  | empty
  | invalidDigit
  | tooLarge
deriving DecidableEq, Repr

/-- The wording of a fault. -/
def NumberFault.message : NumberFault → String
  | empty => "cannot parse integer from empty string"
  | invalidDigit => "invalid digit found in string"
  | tooLarge => "number too large to fit in target type"

/-- Reads digits from left to right behind those worth `acc` and stops at the first character that
is no digit or that carries the value to `bound`. -/
def readDigits (bound acc : Nat) : List Char → Except NumberFault Nat
  | [] => .ok acc
  | c :: rest =>
    if c.isDigit then
      let n := acc * 10 + Text.digitValue c
      if n < bound then readDigits bound n rest else .error .tooLarge
    else .error .invalidDigit

/-- A number below `bound` with an optional plus sign. -/
def readNumber (bound : Nat) : List Char → Except NumberFault Nat
  | [] => .error .empty
  | ['+'] => .error .invalidDigit
  | '+' :: digits => readDigits bound 0 digits
  | digits => readDigits bound 0 digits

/-- A number that fits a word of 32 bits. -/
def readWord (s : String) : Except NumberFault UInt32 :=
  (readNumber UInt32.size s.toList).map UInt32.ofNat

end TableSchema
