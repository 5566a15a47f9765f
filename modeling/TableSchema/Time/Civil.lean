import TableSchema.Text.Digits
import TableSchema.Text.Space

/-!
# Civil date-times

A date of the proleptic Gregorian calendar with a time of day, without a zone. The written form is
`2024-01-02T03:04:05`, with three, six or nine digits behind a point when the second has a fraction.
A second may be a leap second, `60`.

* `Civil.read?` — reads a date-time; numbers need not be padded and may follow blanks.
* `Civil.write` — writes it, padded.
-/

namespace TableSchema

/-- A date-time. -/
structure Civil where
  year : Int
  month : Nat
  day : Nat
  hour : Nat
  minute : Nat
  second : Nat
  nanosecond : Nat
deriving DecidableEq, Repr

namespace Civil

/-- The start of the year 1970. -/
def epoch : Civil := ⟨1970, 1, 1, 0, 0, 0, 0⟩

/-- Whether a year has a leap day. -/
def isLeap (year : Int) : Bool :=
  year % 4 = 0 && (year % 100 ≠ 0 || year % 400 = 0)

/-- The number of days of a month. -/
def daysIn (year : Int) (month : Nat) : Nat :=
  if month = 2 then (if isLeap year then 29 else 28)
  else if month ∈ [4, 6, 9, 11] then 30
  else 31

/-- The years that a date may have. -/
def yearRange : Int × Int := (-262143, 262142)

/-- Whether the parts name a day and a time. -/
def isValid (c : Civil) : Bool :=
  yearRange.1 ≤ c.year && c.year ≤ yearRange.2 && 1 ≤ c.month && c.month ≤ 12
    && 1 ≤ c.day && c.day ≤ daysIn c.year c.month
    && c.hour ≤ 23 && c.minute ≤ 59 && c.second ≤ 60

/-- A number padded with zeros to a width. -/
def padded (width n : Nat) : List Char :=
  let digits := Nat.toDigits 10 n
  List.replicate (width - digits.length) '0' ++ digits

/-- The year: four digits, with a sign if it needs one or has more. -/
def writeYear (year : Int) : List Char :=
  if 0 ≤ year ∧ year ≤ 9999 then padded 4 year.toNat
  else (if year < 0 then '-' else '+') :: padded 4 year.natAbs

/-- The fraction of a second, as long as it needs to be. -/
def writeFraction (nanosecond : Nat) : List Char :=
  if nanosecond = 0 then []
  else if nanosecond % 1000000 = 0 then '.' :: padded 3 (nanosecond / 1000000)
  else if nanosecond % 1000 = 0 then '.' :: padded 6 (nanosecond / 1000)
  else '.' :: padded 9 nanosecond

/-- The written form. -/
def write (c : Civil) : String :=
  String.ofList <|
    writeYear c.year ++ '-' :: padded 2 c.month ++ '-' :: padded 2 c.day
      ++ 'T' :: padded 2 c.hour ++ ':' :: padded 2 c.minute ++ ':' :: padded 2 c.second
      ++ writeFraction c.nanosecond

/-- The text behind blanks. -/
def skipSpace (s : List Char) : List Char :=
  s.dropWhile Text.isSpace

/-- The value of the leading digits, at most `most` of them and at least one. -/
def readUpTo? (most : Nat) (s : List Char) : Option (Nat × List Char) :=
  let digits := (s.take most).takeWhile Char.isDigit
  if digits = [] then none
  else some (Text.digitsValue 0 digits, s.drop digits.length)

/-- A part of two digits at most, and the mark that must follow it. -/
def readPart? (mark : Char) (s : List Char) : Option (Nat × List Char) :=
  match readUpTo? 2 (skipSpace s) with
  | none => none
  | some (n, rest) =>
    match skipSpace rest with
    | c :: rest => if c = mark then some (n, rest) else none
    | [] => none

/-- The year and the dash behind it. A year with a sign may have any number of digits. -/
def readYear? (s : List Char) : Option (Int × List Char) :=
  let s := skipSpace s
  let found :=
    match s with
    | '-' :: rest => (readUpTo? rest.length rest).map fun (n, rest) => (-(n : Int), rest)
    | '+' :: rest => (readUpTo? rest.length rest).map fun (n, rest) => ((n : Int), rest)
    | _ => (readUpTo? 4 s).map fun (n, rest) => ((n : Int), rest)
  match found with
  | none => none
  | some (year, rest) =>
    match skipSpace rest with
    | '-' :: rest => some (year, rest)
    | _ => none

/-- The fraction of a second in nanoseconds; digits behind the ninth are dropped. -/
def readFraction? : List Char → Option (Nat × List Char)
  | '.' :: rest =>
    let digits := rest.takeWhile Char.isDigit
    if digits = [] then none
    else
      let kept := digits.take 9
      let value := Text.digitsValue 0 kept
      some (value * Nat.pow 10 (9 - kept.length), rest.drop digits.length)
  | s => some (0, s)

/-- Reads a date-time. -/
def read? (text : String) : Option Civil := do
  let (year, s) ← readYear? text.toList
  let (month, s) ← readPart? '-' s
  let (day, s) ← readPart? 'T' s
  let (hour, s) ← readPart? ':' s
  let (minute, s) ← readPart? ':' s
  let (second, s) ← readUpTo? 2 (skipSpace s)
  let (nanosecond, s) ← readFraction? s
  let c : Civil := { year, month, day, hour, minute, second, nanosecond }
  if skipSpace s = [] ∧ c.isValid then some c else none

end Civil

end TableSchema
