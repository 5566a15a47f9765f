import TableSchema.Json.Basic
import TableSchema.Text.Digits

/-!
# Reading JSON

A reader for the whole grammar. Every step returns what it has not read; the readers of values call
each other with a budget, and the length of the text is budget enough, because each call is behind a
character that its caller has read.
-/

namespace TableSchema.Json

/-- The white space of the grammar. -/
def isBlank (c : Char) : Bool :=
  c = ' ' || c = '\n' || c = '\t' || c = '\r'

/-- The text behind its leading white space. -/
def skipBlank (s : List Char) : List Char :=
  s.dropWhile isBlank

/-- A number of exactly four hexadecimal digits. -/
def readUnit? : List Char → Option (Nat × List Char)
  | a :: b :: c :: d :: rest =>
    match Text.hexDigit? a, Text.hexDigit? b, Text.hexDigit? c, Text.hexDigit? d with
    | some a, some b, some c, some d => some (((a * 16 + b) * 16 + c) * 16 + d, rest)
    | _, _, _, _ => none
  | _ => none

/-- The character that a one-letter escape stands for. -/
def simpleEscape? : Char → Option Char
  | '"' => some '"'
  | '\\' => some '\\'
  | '/' => some '/'
  | 'b' => some '\x08'
  | 'f' => some '\x0c'
  | 'n' => some '\n'
  | 'r' => some '\r'
  | 't' => some '\t'
  | _ => none

/-- The content of a string up to its closing quote. `broken` records half of a surrogate pair; the
characters read so far are in `done`, the last one first. -/
def readStringBody (budget : Nat) (broken : Bool) (done : List Char) (s : List Char) :
    Option (Json × List Char) :=
  match budget, s with
  | 0, _ => none
  | _, [] => none
  | budget + 1, c :: rest =>
    if c = '"' then
      some (if broken then .brokenString else .string (String.ofList done.reverse), rest)
    else if c.toNat < 0x20 then none
    else if c ≠ '\\' then readStringBody budget broken (c :: done) rest
    else
      match rest with
      | [] => none
      | 'u' :: rest =>
        match readUnit? rest with
        | none => none
        | some (unit, rest) =>
          if 0xDC00 ≤ unit ∧ unit ≤ 0xDFFF then readStringBody budget true done rest
          else if 0xD800 ≤ unit ∧ unit ≤ 0xDBFF then
            match rest with
            | '\\' :: 'u' :: more =>
              match readUnit? more with
              | none => none
              | some (low, more) =>
                if 0xDC00 ≤ low ∧ low ≤ 0xDFFF then
                  let c := Char.ofNat (0x10000 + (unit - 0xD800) * 0x400 + (low - 0xDC00))
                  readStringBody budget broken (c :: done) more
                else readStringBody budget true done rest
            | _ => readStringBody budget true done rest
          else readStringBody budget broken (Char.ofNat unit :: done) rest
      | e :: rest =>
        match simpleEscape? e with
        | none => none
        | some c => readStringBody budget broken (c :: done) rest

/-- A run of digits and what follows it. -/
def readDigitRun (s : List Char) : List Char × List Char :=
  s.span Char.isDigit

/-- The digits in front of the point: a single zero, or digits that do not start with one. -/
def readWhole? (s : List Char) : Option (List Char × List Char) :=
  match s with
  | '0' :: rest => if rest.head?.any Char.isDigit then none else some (['0'], rest)
  | _ =>
    match readDigitRun s with
    | ([], _) => none
    | found => some found

/-- The point and the digits behind it, if there is a point. -/
def readFraction? : List Char → Option (List Char × List Char)
  | '.' :: rest =>
    match readDigitRun rest with
    | ([], _) => none
    | (digits, rest) => some ('.' :: digits, rest)
  | s => some ([], s)

/-- The letter of an exponent, its sign and its digits, if there is an exponent. -/
def readExponent? (s : List Char) : Option (List Char × List Char) :=
  match s with
  | [] => some ([], [])
  | e :: rest =>
    if e = 'e' ∨ e = 'E' then
      let (sign, rest) :=
        match rest with
        | '+' :: rest => (['+'], rest)
        | '-' :: rest => (['-'], rest)
        | _ => ([], rest)
      match readDigitRun rest with
      | ([], _) => none
      | (digits, rest) => some (e :: sign ++ digits, rest)
    else some ([], s)

/-- A number, as it is written. -/
def readNumber? (s : List Char) : Option (Json × List Char) := do
  let (sign, s) :=
    match s with
    | '-' :: rest => (['-'], rest)
    | _ => ([], s)
  let (whole, s) ← readWhole? s
  let (fraction, s) ← readFraction? s
  let (exponent, s) ← readExponent? s
  some (.number (String.ofList (sign ++ whole ++ fraction ++ exponent)), s)

/-- A word that must stand in front, and what follows it. -/
def readWord? (word : String) (value : Json) (s : List Char) : Option (Json × List Char) :=
  if word.toList.isPrefixOf s then some (value, s.drop word.length) else none

mutual

/-- One value, after white space. -/
def readValue (budget : Nat) (s : List Char) : Option (Json × List Char) :=
  match budget with
  | 0 => none
  | budget + 1 =>
    match skipBlank s with
    | [] => none
    | '"' :: rest => readStringBody (rest.length + 1) false [] rest
    | '[' :: rest =>
      match skipBlank rest with
      | ']' :: rest => some (.array [], rest)
      | rest => readItems budget [] rest
    | '\x7b' :: rest =>
      match skipBlank rest with
      | '\x7d' :: rest => some (.object [], rest)
      | rest => readMembers budget [] rest
    | 'n' :: rest => readWord? "null" .null ('n' :: rest)
    | 't' :: rest => readWord? "true" (.bool true) ('t' :: rest)
    | 'f' :: rest => readWord? "false" (.bool false) ('f' :: rest)
    | rest => readNumber? rest

/-- Items of a list, the first one due. -/
def readItems (budget : Nat) (done : List Json) (s : List Char) : Option (Json × List Char) :=
  match budget with
  | 0 => none
  | budget + 1 =>
    match readValue budget s with
    | none => none
    | some (item, rest) =>
      match skipBlank rest with
      | ',' :: rest => readItems budget (item :: done) rest
      | ']' :: rest => some (.array (item :: done).reverse, rest)
      | _ => none

/-- Members of an object, the first one due. -/
def readMembers (budget : Nat) (done : List (String × Json)) (s : List Char) :
    Option (Json × List Char) :=
  match budget with
  | 0 => none
  | budget + 1 =>
    match skipBlank s with
    | '"' :: rest =>
      match readStringBody (rest.length + 1) false [] rest with
      | some (.string name, rest) =>
        match skipBlank rest with
        | ':' :: rest =>
          match readValue budget rest with
          | none => none
          | some (value, rest) =>
            match skipBlank rest with
            | ',' :: rest => readMembers budget ((name, value) :: done) rest
            | '\x7d' :: rest => some (.object ((name, value) :: done).reverse, rest)
            | _ => none
        | _ => none
      | _ => none
    | _ => none

end

/-- Reads a document: one value with white space around it. -/
def read? (text : String) : Option Json :=
  let s := text.toList
  match readValue (2 * s.length + 2) s with
  | some (value, rest) => if skipBlank rest = [] then some value else none
  | none => none

end TableSchema.Json
