import TableSchema.Text.Digits
import TableSchema.Time.Civil

/-!
# Dates and times in TOML

A moment is a day, a time of day, or both; only both together may name an offset from universal
time. It has one normal form, whichever way it was written: a `T` between day and time, no trailing
zeros in a fraction, and an offset by its minutes, so that `-00:00` and `+00:00` are the same. Hours
go to 23 and minutes to 59, in an offset too.

* `Moment.read?` — reads a whole text.
* `Moment.write` — the normal form.
-/

namespace TableSchema.Toml

/-- A day of the calendar. -/
structure Day where
  year : Nat
  month : Nat
  day : Nat
deriving DecidableEq, Repr

/-- A time of day. A second may be a leap second, `60`. -/
structure Clock where
  hour : Nat
  minute : Nat
  second : Nat
  nanosecond : Nat
deriving DecidableEq, Repr

/-- An offset from universal time. -/
inductive Offset where
  /-- Universal time itself, by its letter. -/
  | universal
  | minutes (n : Int)
deriving DecidableEq, Repr

/-- A day, a time of day, or both. -/
inductive Moment where
  | day (d : Day)
  | clock (c : Clock)
  | both (d : Day) (c : Clock) (offset : Option Offset)
deriving DecidableEq, Repr

/-- A day in normal form. -/
def Day.write (d : Day) : List Char :=
  Civil.padded 4 d.year ++ '-' :: Civil.padded 2 d.month ++ '-' :: Civil.padded 2 d.day

/-- A fraction of a second, without trailing zeros. -/
def writeFraction (nanosecond : Nat) : List Char :=
  if nanosecond = 0 then []
  else '.' :: ((Civil.padded 9 nanosecond).reverse.dropWhile (· = '0')).reverse

/-- A time of day in normal form. -/
def Clock.write (c : Clock) : List Char :=
  Civil.padded 2 c.hour ++ ':' :: Civil.padded 2 c.minute ++ ':' :: Civil.padded 2 c.second
    ++ writeFraction c.nanosecond

/-- An offset in normal form. -/
def Offset.write : Offset → List Char
  | universal => ['Z']
  | minutes n =>
    (if n < 0 then '-' else '+') :: Civil.padded 2 (n.natAbs / 60)
      ++ ':' :: Civil.padded 2 (n.natAbs % 60)

/-- A moment in normal form. -/
def Moment.write : Moment → String
  | day d => String.ofList d.write
  | clock c => String.ofList c.write
  | both d c offset =>
    String.ofList (d.write ++ 'T' :: c.write ++ (offset.map Offset.write).getD [])

/-- Exactly two digits. -/
def two? : List Char → Option (Nat × List Char)
  | a :: b :: rest =>
    if a.isDigit && b.isDigit then some (Text.digitsValue 0 [a, b], rest) else none
  | _ => none

/-- A character that must stand in front. -/
def mark? (c : Char) : List Char → Option (List Char)
  | d :: rest => if c = d then some rest else none
  | [] => none

/-- A day and what follows it. -/
def day? (s : List Char) : Option (Day × List Char) := do
  let (century, s) ← two? s
  let (year, s) ← two? s
  let (month, s) ← two? (← mark? '-' s)
  let (day, s) ← two? (← mark? '-' s)
  let d : Day := { year := century * 100 + year, month, day }
  if 1 ≤ month ∧ month ≤ 12 ∧ 1 ≤ day ∧ day ≤ Civil.daysIn d.year month then some (d, s) else none

/-- A time of day and what follows it. Digits of a fraction behind the ninth do not count. -/
def clock? (s : List Char) : Option (Clock × List Char) := do
  let (hour, s) ← two? s
  let (minute, s) ← two? (← mark? ':' s)
  let (second, s) ← two? (← mark? ':' s)
  let (nanosecond, s) ← Civil.readFraction? s
  if hour ≤ 23 ∧ minute ≤ 59 ∧ second ≤ 60 then
    some ({ hour, minute, second, nanosecond }, s)
  else none

/-- An offset, which nothing may follow; an empty text has none. -/
def offset? (s : List Char) : Option (Option Offset) :=
  match s with
  | [] => some none
  | ['Z'] | ['z'] => some (some .universal)
  | sign :: rest => do
    if sign ≠ '+' ∧ sign ≠ '-' then none
    else
      let (hour, rest) ← two? rest
      let (minute, rest) ← two? (← mark? ':' rest)
      let total : Int := hour * 60 + minute
      if rest = [] ∧ hour ≤ 23 ∧ minute ≤ 59 then
        some (some (.minutes (if sign = '-' then -total else total)))
      else none

/-- Reads a moment. Day and time are apart by `T`, `t` or a blank. -/
def Moment.read? (s : List Char) : Option Moment :=
  match day? s with
  | some (d, []) => some (.day d)
  | some (d, separator :: rest) => do
    if separator ≠ 'T' ∧ separator ≠ 't' ∧ separator ≠ ' ' then none
    else
      let (c, rest) ← clock? rest
      some (.both d c (← offset? rest))
  | none => do
    let (c, rest) ← clock? s
    if rest = [] then some (.clock c) else none

end TableSchema.Toml
