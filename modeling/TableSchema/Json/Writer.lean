import TableSchema.Json.Basic

/-!
# Writing JSON

One writer for two layouts: `compact` has no white space at all, `pretty` puts every item on a line
of its own, indented by two spaces for each level. Empty lists and objects stay on one line.
-/

namespace TableSchema.Json

/-- Where white space goes. -/
structure Layout where
  /-- What separates the items of a container at the given level. -/
  newline : Nat → List Char
  /-- What follows the name of a member. -/
  colon : List Char

/-- No white space. -/
def Layout.compact : Layout where
  newline _ := []
  colon := [':']

/-- One item to a line. -/
def Layout.pretty : Layout where
  newline depth := '\n' :: List.replicate (2 * depth) ' '
  colon := [':', ' ']

/-- How a character is written inside a string: quotes, backslashes and controls are escaped. -/
def escapedChar (c : Char) : List Char :=
  if c = '"' then ['\\', '"']
  else if c = '\\' then ['\\', '\\']
  else if c = '\x08' then ['\\', 'b']
  else if c = '\x0c' then ['\\', 'f']
  else if c = '\n' then ['\\', 'n']
  else if c = '\r' then ['\\', 'r']
  else if c = '\t' then ['\\', 't']
  else if c.toNat < 0x20 then
    ['\\', 'u', '0', '0', Nat.digitChar (c.toNat / 16), Nat.digitChar (c.toNat % 16)]
  else [c]

/-- A string literal. -/
def writeString (s : String) : List Char :=
  '"' :: s.toList.flatMap escapedChar ++ ['"']

mutual

/-- A value at the given level. -/
def write (layout : Layout) (depth : Nat) : Json → List Char
  | .null => ['n', 'u', 'l', 'l']
  | .bool true => ['t', 'r', 'u', 'e']
  | .bool false => ['f', 'a', 'l', 's', 'e']
  | .number lexeme => lexeme.toList
  | .string text => writeString text
  | .brokenString => ['"', '\\', 'u', 'd', '8', '0', '0', '"']
  | .array [] => ['[', ']']
  | .array (item :: rest) =>
    '[' :: layout.newline (depth + 1) ++ write layout (depth + 1) item
      ++ writeItems layout (depth + 1) rest ++ layout.newline depth ++ [']']
  | .object [] => ['\x7b', '\x7d']
  | .object ((name, value) :: rest) =>
    '\x7b' :: layout.newline (depth + 1) ++ writeString name ++ layout.colon
      ++ write layout (depth + 1) value
      ++ writeMembers layout (depth + 1) rest ++ layout.newline depth ++ ['\x7d']

/-- Items after the first one. -/
def writeItems (layout : Layout) (depth : Nat) : List Json → List Char
  | [] => []
  | item :: rest =>
    ',' :: layout.newline depth ++ write layout depth item ++ writeItems layout depth rest

/-- Members after the first one. -/
def writeMembers (layout : Layout) (depth : Nat) : List (String × Json) → List Char
  | [] => []
  | (name, value) :: rest =>
    ',' :: layout.newline depth ++ writeString name ++ layout.colon ++ write layout depth value
      ++ writeMembers layout depth rest

end

/-- A document without white space. -/
def compact (j : Json) : String :=
  String.ofList (write .compact 0 j)

/-- A document with one item to a line. -/
def pretty (j : Json) : String :=
  String.ofList (write .pretty 0 j)

end TableSchema.Json
