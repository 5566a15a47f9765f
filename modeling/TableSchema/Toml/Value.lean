import TableSchema.Toml.Moment

/-!
# TOML values

What a TOML document holds. Members keep the order in which they are written, and the names of a
table are distinct.

A table may stand for a moment: one whose first member has the name `momentKey` and holds the moment
as a text. `Value.settle?` puts moments in the place of such tables.
-/

namespace TableSchema.Toml

/-- A TOML value. -/
inductive Value where
  | string (text : String)
  | integer (n : Int)
  | float (x : Float)
  | boolean (b : Bool)
  | moment (m : Moment)
  | array (items : List Value)
  | table (members : List (String × Value))
deriving Inhabited

/-- The name of the member that makes a moment of a table. -/
def momentKey : String := "$__toml_private_datetime"

/-- The moment that a value spells, which must be a text. -/
def Value.spelledMoment? : Value → Option Value
  | .string text => (Moment.read? text.toList).map .moment
  | _ => none

mutual

/-- The value with all its tables that stand for moments replaced. Such a table has no value if its
first member spells no moment; its other members do not count. -/
def Value.settle? : Value → Option Value
  | .array items => (settleItems? items).map .array
  | .table ((name, v) :: rest) =>
    if name = momentKey then v.spelledMoment?
    else do
      let v ← v.settle?
      let rest ← settleMembers? rest
      some (.table ((name, v) :: rest))
  | v => some v

/-- The items of a list. -/
def settleItems? : List Value → Option (List Value)
  | [] => some []
  | v :: rest => do
    let v ← v.settle?
    let rest ← settleItems? rest
    some (v :: rest)

/-- The members of a table. -/
def settleMembers? : List (String × Value) → Option (List (String × Value))
  | [] => some []
  | (name, v) :: rest => do
    let v ← v.settle?
    let rest ← settleMembers? rest
    some ((name, v) :: rest)

end

/-- The members of a value that is a table. -/
def Value.members? : Value → Option (List (String × Value))
  | .table members => some members
  | _ => none

end TableSchema.Toml
