import TableSchema.Decimal.Shortest

/-!
# Notations of decimals

How a shortest decimal is written. Where its point falls decides between positional notation and an
exponent; the limits, the sign of an exponent, whether a whole number keeps a fraction, and where a
tie goes are the choices of a format.
-/

namespace TableSchema.Decimal

/-- The choices of a format. -/
structure Style where
  /-- The numbers written positionally have their point at one of these places: the count of digits
  in front of it, negative for zeros behind it. -/
  positional : Option (Int × Int)
  /-- A whole number is written with a fraction of zero. -/
  keepsFraction : Bool
  /-- An exponent that is not negative is written with a plus. -/
  signsExponent : Bool
  /-- The decimal of a number exactly between two. -/
  tie : Tie

/-- JSON documents write numbers from `10 ^ -5` up to `10 ^ 16` positionally, and larger ones as in
`1e+16`. -/
def Style.document : Style := ⟨some (-4, 16), true, true, .even⟩

/-- Programmers see numbers from `10 ^ -4` up to `10 ^ 16` positionally, and larger ones as in
`1e16`. -/
def Style.debug : Style := ⟨some (-3, 16), true, false, .up⟩

/-- Plain text never has an exponent. -/
def Style.plain : Style := ⟨none, false, false, .up⟩

/-- A list of zeros. -/
def zeros (n : Nat) : List Char :=
  List.replicate n '0'

/-- The digits with the point behind the first `point` of them. -/
def positional (keepsFraction : Bool) (digits : List Char) (point : Int) : List Char :=
  if point ≤ 0 then '0' :: '.' :: zeros (-point).toNat ++ digits
  else if digits.length ≤ point.toNat then
    digits ++ zeros (point.toNat - digits.length)
      ++ (if keepsFraction then ['.', '0'] else [])
  else digits.take point.toNat ++ '.' :: digits.drop point.toNat

/-- An integer in decimal. -/
def writeInt (n : Int) : List Char :=
  if n < 0 then '-' :: Nat.toDigits 10 n.natAbs else Nat.toDigits 10 n.natAbs

/-- An exponent behind its letter. -/
def writeExponent (signed : Bool) (n : Int) : List Char :=
  'e' :: (if signed ∧ 0 ≤ n then '+' :: writeInt n else writeInt n)

/-- The digits with one in front of the point, and an exponent. -/
def scientific (signsExponent : Bool) (digits : List Char) (point : Int) : List Char :=
  let fraction := digits.drop 1
  digits.take 1 ++ (if fraction = [] then [] else '.' :: fraction)
    ++ writeExponent signsExponent (point - 1)

/-- A decimal in a format. -/
def write (style : Style) (d : Decimal) : List Char :=
  let digits := Nat.toDigits 10 d.digits
  let point := if d.digits = 0 then 1 else digits.length + d.exponent
  match style.positional with
  | none => positional style.keepsFraction digits point
  | some (least, most) =>
    if d.digits = 0 ∨ (least ≤ point ∧ point ≤ most) then
      positional style.keepsFraction digits point
    else scientific style.signsExponent digits point

/-- A floating-point number in a format. The words for what is no number are the usual ones. -/
def writeFloat (style : Style) (x : Float) : String :=
  if x.isNaN then "NaN"
  else
    let b := Binary.ofFloat x
    let text :=
      if x.isInf then ['i', 'n', 'f']
      else (shortest style.tie b.mantissa b.exponent).write style
    String.ofList (if b.negative then '-' :: text else text)

end TableSchema.Decimal
