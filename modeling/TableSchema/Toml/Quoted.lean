import TableSchema.Toml.Scalar

/-!
# TOML strings

The four kinds of strings: between double quotes, with escapes, and between single quotes, without;
each on one line, or between three quotes on several.
-/

namespace TableSchema.Toml

/-- Whether a character may stand in a string or a comment: no control but the tab. -/
def isPrintable (c : Char) : Bool :=
  c = '\t' || (0x20 ≤ c.toNat && c ≠ '\x7f')

/-- A line break and what follows it. -/
def lineBreak? : List Char → Option (List Char)
  | '\n' :: rest => some rest
  | '\r' :: '\n' :: rest => some rest
  | _ => none

/-- The character with the number that some hexadecimal digits spell. -/
def unicodeEscape? (count : Nat) (s : List Char) : Option (Char × List Char) :=
  match (s.take count).mapM Text.hexDigit? with
  | none => none
  | some digits =>
    let n := Text.hexValue digits
    if digits.length = count ∧ (n < 0xD800 ∨ (0xDFFF < n ∧ n < 0x110000)) then
      some (Char.ofNat n, s.drop count)
    else none

/-- The character of an escape behind its backslash. -/
def escape? : List Char → Option (Char × List Char)
  | 'b' :: rest => some ('\x08', rest)
  | 't' :: rest => some ('\t', rest)
  | 'n' :: rest => some ('\n', rest)
  | 'f' :: rest => some ('\x0c', rest)
  | 'r' :: rest => some ('\r', rest)
  | '"' :: rest => some ('"', rest)
  | '\\' :: rest => some ('\\', rest)
  | 'u' :: rest => unicodeEscape? 4 rest
  | 'U' :: rest => unicodeEscape? 8 rest
  | _ => none

/-- A string on one line, up to its closing quote; `done` holds what is read, the last character
first. -/
def readLine (escapes : Bool) (quote : Char) (budget : Nat) (done s : List Char) :
    Option (String × List Char) :=
  match budget, s with
  | 0, _ | _, [] => none
  | budget + 1, c :: rest =>
    if c = quote then some (String.ofList done.reverse, rest)
    else if escapes ∧ c = '\\' then
      match escape? rest with
      | some (c, rest) => readLine escapes quote budget (c :: done) rest
      | none => none
    else if isPrintable c then readLine escapes quote budget (c :: done) rest
    else none

/-- The text behind blanks and line breaks. -/
def skipBlankLines : List Char → List Char
  | ' ' :: rest | '\t' :: rest | '\n' :: rest | '\r' :: '\n' :: rest => skipBlankLines rest
  | s => s

/-- What follows a backslash at the end of a line, without the blanks and line breaks up to the next
character. -/
def afterContinuation? (s : List Char) : Option (List Char) :=
  (lineBreak? (s.dropWhile fun c => c = ' ' || c = '\t')).map skipBlankLines

/-- A string on several lines, up to its three closing quotes. Two more quotes may stand in front of
those. -/
def readLines (escapes : Bool) (quote : Char) (budget : Nat) (done s : List Char) :
    Option (String × List Char) :=
  match budget, s with
  | 0, _ | _, [] => none
  | budget + 1, c :: rest =>
    if c = quote then
      let run := s.takeWhile (· = quote)
      if run.length < 3 then readLines escapes quote budget (c :: done) rest
      else
        let kept := min (run.length - 3) 2
        some (String.ofList (done.reverse ++ List.replicate kept quote), s.drop (kept + 3))
    else if escapes ∧ c = '\\' then
      match afterContinuation? rest with
      | some rest => readLines escapes quote budget done rest
      | none =>
        match escape? rest with
        | some (c, rest) => readLines escapes quote budget (c :: done) rest
        | none => none
    else
      match lineBreak? s with
      | some rest => readLines escapes quote budget ('\n' :: done) rest
      | none => if isPrintable c then readLines escapes quote budget (c :: done) rest else none

/-- A string of any kind. A line break right behind three opening quotes does not count. -/
def readString? (s : List Char) : Option (String × List Char) :=
  match s with
  | [] => none
  | quote :: rest =>
    if quote ≠ '"' ∧ quote ≠ '\x27' then none
    else
      let escapes := quote = '"'
      match rest with
      | a :: b :: more =>
        if a = quote ∧ b = quote then
          readLines escapes quote (s.length + 1) [] ((lineBreak? more).getD more)
        else readLine escapes quote (s.length + 1) [] rest
      | _ => readLine escapes quote (s.length + 1) [] rest

/-- A string on one line. -/
def readLineString? : List Char → Option (String × List Char)
  | '"' :: rest => readLine true '"' (rest.length + 1) [] rest
  | '\x27' :: rest => readLine false '\x27' (rest.length + 1) [] rest
  | _ => none

end TableSchema.Toml
