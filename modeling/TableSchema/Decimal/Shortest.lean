/-!
# Shortest decimals

The decimal with the fewest digits that reads back as a given floating-point number, and of those
with that many digits the nearest. Where a number lies exactly between two decimals, the caller says
which one is taken.

A finite number is `m * 2 ^ q`. The reals that round to it form an interval around it, which
includes its ends exactly if `m` is even, because a tie goes to the even neighbour. For one digit,
two digits and so on, the two decimals next to the number are tested in exact arithmetic; seventeen
digits are always enough.
-/

namespace TableSchema

/-- The number `digits * 10 ^ exponent`. -/
structure Decimal where
  digits : Nat
  exponent : Int
deriving DecidableEq, Repr

namespace Decimal

/-- A floating-point number taken apart: `mantissa * 2 ^ exponent` up to its sign. -/
structure Binary where
  negative : Bool
  mantissa : Nat
  exponent : Int
deriving DecidableEq, Repr

/-- The number of fractions that 52 bits can hold. -/
def fractionSize : Nat := 0x10000000000000

/-- The parts of a finite number, read from its bits. -/
def Binary.ofFloat (x : Float) : Binary :=
  let bits := x.toBits.toNat
  let exponentBits := bits / fractionSize % 0x800
  let fraction := bits % fractionSize
  { negative := bits / 0x8000000000000000 = 1
    mantissa := if exponentBits = 0 then fraction else fractionSize + fraction
    exponent := (max exponentBits 1 : Nat) - 1075 }

/-- `2 ^ e` as a fraction. -/
def powTwo (e : Int) : Nat × Nat :=
  (Nat.pow 2 e.toNat, Nat.pow 2 (-e).toNat)

/-- `10 ^ e` as a fraction. -/
def powTen (e : Int) : Nat × Nat :=
  (Nat.pow 10 e.toNat, Nat.pow 10 (-e).toNat)

/-- Whether `a * 10 ^ k` is less than `b * 2 ^ e`. -/
def ltBinary (a : Nat) (k : Int) (b : Nat) (e : Int) : Bool :=
  a * (powTen k).1 * (powTwo e).2 < b * (powTwo e).1 * (powTen k).2

/-- Whether `b * 2 ^ e` is less than `a * 10 ^ k`. -/
def ltDecimal (b : Nat) (e : Int) (a : Nat) (k : Int) : Bool :=
  b * (powTwo e).1 * (powTen k).2 < a * (powTen k).1 * (powTwo e).2

/-- Whether `a * 10 ^ k` rounds to `m * 2 ^ q`. In quarters of a unit the interval reaches two down
and two up, but only one down below a power of two, where the neighbours are closer. -/
def readsBack (m : Nat) (q : Int) (a : Nat) (k : Int) : Bool :=
  let down := if m = fractionSize ∧ q > -1074 then 1 else 2
  let low := 4 * m - down
  let high := 4 * m + 2
  if m % 2 = 0 then !ltBinary a k low (q - 2) && !ltDecimal high (q - 2) a k
  else ltDecimal low (q - 2) a k && ltBinary a k high (q - 2)

/-- The largest multiple of `10 ^ k` that does not exceed `m * 2 ^ q`, as a count. -/
def floorAt (m : Nat) (q k : Int) : Nat :=
  m * (powTwo q).1 * (powTen k).2 / ((powTwo q).2 * (powTen k).1)

/-- Which of two neighbours is taken for a number exactly between them. -/
inductive Tie where
  | even
  | up
deriving DecidableEq, Repr

/-- Whether the neighbour above `a` is the one taken. -/
def Tie.takesUpper : Tie → Nat → Bool
  | even, a => a % 2 = 1
  | up, _ => true

/-- Of two neighbours on the grid `10 ^ k`, whether the upper one is taken for `m * 2 ^ q`: it is
nearer, or an exact tie goes to it. -/
def upperIsNearer (tie : Tie) (m : Nat) (q : Int) (a : Nat) (k : Int) : Bool :=
  let twice := 2 * m
  let middle := 2 * a + 1
  ltBinary middle k twice q || (!ltDecimal twice q middle k && tie.takesUpper a)

/-- Takes trailing zeros off the digits. -/
def trimZeros : Nat → Decimal → Decimal
  | 0, d => d
  | fuel + 1, d =>
    if d.digits ≠ 0 ∧ d.digits % 10 = 0 then trimZeros fuel ⟨d.digits / 10, d.exponent + 1⟩ else d

/-- The nearest decimal on the grid `10 ^ k` that reads back, if one does. -/
def onGrid? (tie : Tie) (m : Nat) (q k : Int) : Option Decimal :=
  let a := floorAt m q k
  match readsBack m q a k, readsBack m q (a + 1) k with
  | true, true => some ⟨if upperIsNearer tie m q a k then a + 1 else a, k⟩
  | true, false => some ⟨a, k⟩
  | false, true => some ⟨a + 1, k⟩
  | false, false => none

/-- The power of ten of the leading digit of a positive number. -/
def leadingPower (m : Nat) (q : Int) : Int :=
  (Nat.toDigits 10 (floorAt m q (-400))).length - 401

/-- Tries grids from coarse to fine. -/
def firstGrid (tie : Tie) (m : Nat) (q top : Int) : Nat → Nat → Decimal
  | 0, _ => ⟨m, q⟩
  | tries + 1, places =>
    match onGrid? tie m q (top - places) with
    | some d => d
    | none => firstGrid tie m q top tries (places + 1)

/-- The shortest decimal of `m * 2 ^ q`. -/
def shortest (tie : Tie) (m : Nat) (q : Int) : Decimal :=
  if m = 0 then ⟨0, 0⟩ else trimZeros 400 (firstGrid tie m q (leadingPower m q) 17 0)

end Decimal

end TableSchema
