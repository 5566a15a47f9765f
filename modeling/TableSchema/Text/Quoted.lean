import TableSchema.Text.Escaped

/-!
# Quoted text

Text between double quotes, as it is shown to a programmer. A quote and a backslash are escaped, the
usual controls have letters, and any other character that could not be seen is written by its number
in lower-case hexadecimal between braces.
-/

namespace TableSchema.Text

/-- The digits of a number in lower-case hexadecimal. -/
def hexDigits (n : Nat) : List Char :=
  Nat.toDigits 16 n

/-- How one character is written between double quotes. -/
def quotedChar (c : Char) : List Char :=
  if c = '"' then ['\\', '"']
  else if c = '\\' then ['\\', '\\']
  else if c = '\n' then ['\\', 'n']
  else if c = '\r' then ['\\', 'r']
  else if c = '\t' then ['\\', 't']
  else if c = '\x00' then ['\\', '0']
  else if isHidden c then ['\\', 'u', '\x7b'] ++ hexDigits c.toNat ++ ['\x7d']
  else [c]

/-- A text between double quotes. -/
def quoted (s : String) : String :=
  String.ofList ('"' :: s.toList.flatMap quotedChar ++ ['"'])

/-- A truth value in words. -/
def ofBool (b : Bool) : String :=
  if b then "true" else "false"

end TableSchema.Text
