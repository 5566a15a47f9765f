import TableSchema.Text.Digits
import TableSchema.Toml.Value

/-!
# TOML scalars

Words without quotes: truth values, numbers, dates and times. The word is first cut out of the text
and then classified as a whole.
-/

namespace TableSchema.Toml

/-- The value of a digit of a base, which is sixteen at most. -/
def digit? (base : Nat) (c : Char) : Option Nat :=
  (Text.hexDigit? c).filter (· < base)

/-- Digits in a base, with single underscores between them. -/
def readDigits? (base : Nat) : List Char → Option Nat
  | [] => none
  | c :: rest =>
    match digit? base c with
    | some d => go d rest
    | none => none
where
  go (acc : Nat) : List Char → Option Nat
    | [] => some acc
    | '_' :: c :: rest | c :: rest =>
      match digit? base c with
      | some d => go (acc * base + d) rest
      | none => none

/-- Decimal digits, leading zeros allowed. -/
def decimal? (s : List Char) : Option Nat :=
  readDigits? 10 s

/-- Decimal digits without leading zeros. -/
def plainDecimal? (s : List Char) : Option Nat :=
  if s.head? = some '0' ∧ s ≠ ['0'] then none else decimal? s

/-- A sign in front of a word, true for minus. -/
def splitSign : List Char → Bool × List Char
  | '-' :: rest => (true, rest)
  | '+' :: rest => (false, rest)
  | s => (false, s)

/-- An integer of 64 bits. -/
def integer? (s : List Char) : Option Int :=
  let magnitude : Option Int :=
    match s with
    | '0' :: 'x' :: digits => (readDigits? 16 digits).map Int.ofNat
    | '0' :: 'o' :: digits => (readDigits? 8 digits).map Int.ofNat
    | '0' :: 'b' :: digits => (readDigits? 2 digits).map Int.ofNat
    | _ =>
      let (negative, digits) := splitSign s
      (plainDecimal? digits).map fun n => if negative then -(n : Int) else n
  magnitude.filter fun n => -9223372036854775808 ≤ n ∧ n ≤ 9223372036854775807

/-- The number `significand * 10 ^ exponent`, with magnitudes beyond every floating-point number cut
off before they are computed. -/
def scaledFloat (significand : Nat) (exponent : Int) : Float :=
  let size : Int := (Nat.toDigits 10 significand).length + exponent
  if significand = 0 ∨ size < -400 then 0
  else if 400 < size then 1 / 0
  else if exponent < 0 then Float.ofScientific significand true exponent.natAbs
  else Float.ofScientific significand false exponent.natAbs

/-- A floating-point number: a fraction, an exponent or both are there. -/
def float? (s : List Char) : Option Float :=
  let (negative, s) := splitSign s
  let signed (x : Float) : Float := if negative then -x else x
  if s = ['i', 'n', 'f'] then some (signed (1 / 0))
  else if s = ['n', 'a', 'n'] then some (signed (0 / 0))
  else
    let isPlain (c : Char) : Bool := c ≠ '.' && c ≠ 'e' && c ≠ 'E'
    let whole := s.takeWhile isPlain
    let rest := s.dropWhile isPlain
    if rest = [] then none
    else do
      let wholeValue ← plainDecimal? whole
      let (digits, rest) :=
        match rest with
        | '.' :: rest => (some (rest.takeWhile isPlain), rest.dropWhile isPlain)
        | _ => (none, rest)
      let (significand, places) ←
        match digits with
        | none => some (wholeValue, 0)
        | some digits => do
          let fraction ← decimal? digits
          let places := (digits.filter (· ≠ '_')).length
          some (wholeValue * Nat.pow 10 places + fraction, places)
      let exponent ←
        match rest with
        | [] => some 0
        | e :: rest =>
          if e = '.' then none
          else
            let (down, digits) := splitSign rest
            (decimal? digits).map fun n => if down then -(n : Int) else (n : Int)
      let x := signed (scaledFloat significand (exponent - places))
      if x.isInf ∧ !negative then none else some x

/-- Whether a character may stand in a word without quotes. -/
def isWordChar (c : Char) : Bool :=
  c.isAlphanum || c = '+' || c = '-' || c = '_' || c = '.' || c = ':'

/-- Cuts a word off the text. A blank between a date and a time belongs to the word. -/
def cutWord (s : List Char) : List Char × List Char :=
  let (word, rest) := s.span isWordChar
  match day? word, rest with
  | some (_, []), ' ' :: d :: more =>
    if d.isDigit then
      let (time, rest) := (d :: more).span isWordChar
      (word ++ ' ' :: time, rest)
    else (word, rest)
  | _, _ => (word, rest)

/-- The value that a word stands for. -/
def scalar? (word : List Char) : Option Value :=
  if word = "true".toList then some (.boolean true)
  else if word = "false".toList then some (.boolean false)
  else
    match integer? word with
    | some n => some (.integer n)
    | none =>
      match float? word with
      | some x => some (.float x)
      | none => (Moment.read? word).map .moment

end TableSchema.Toml
