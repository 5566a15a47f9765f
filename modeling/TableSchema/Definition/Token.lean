import TableSchema.Text.Digits
import TableSchema.Text.Space

/-!
# Tokens of annotations

The arguments of an annotation are a sequence of tokens. Only string literals are looked into; what
stands in brackets is one token. White space and comments keep tokens apart and are nothing
themselves.

* `tokens` — cuts a text into tokens.
* `spelling` — a text without what only keeps its tokens apart.
-/

namespace TableSchema.Definition

/-- A token. -/
inductive Token where
  | word (name : String)
  /-- A string literal, by its content. -/
  | text (content : String)
  /-- A number without a sign. -/
  | number
  /-- Any other literal. -/
  | literal
  | mark (c : Char)
  /-- Two colons side by side. -/
  | separator
  /-- A pair of brackets with whatever is in it. -/
  | group
deriving DecidableEq, Repr

/-- White space between tokens; the marks of writing direction count as such. -/
def isBlank (c : Char) : Bool :=
  Text.isSpace c || c = '\u200e' || c = '\u200f'

/-- Whether a word may start with a character. Beyond ASCII everything but a blank counts as a letter,
because no other mark may stand between tokens there. -/
def startsWord (c : Char) : Bool :=
  c.isAlpha || c = '_' || (0x80 ≤ c.toNat && !isBlank c)

/-- Whether a word may go on with a character. -/
def continuesWord (c : Char) : Bool :=
  startsWord c || c.isDigit

/-- The character with the number that hexadecimal digits spell; underscores between them do not
count. -/
def hexChar (digits : List Char) : Char :=
  Char.ofNat (Text.hexValue (digits.filterMap Text.hexDigit?))

/-- The content of a string literal up to its closing quote, and what follows it. A line break counts
as one character however it is written, and none behind a backslash. -/
def readText (budget : Nat) (done s : List Char) : Option (List Char × List Char) :=
  match budget, s with
  | 0, _ | _, [] => none
  | budget + 1, c :: rest =>
    if c = '"' then some (done.reverse, rest)
    else if c = '\r' ∧ rest.head? = some '\n' then readText budget done rest
    else if c ≠ '\\' then readText budget (c :: done) rest
    else
      match rest with
      | 'n' :: rest => readText budget ('\n' :: done) rest
      | 'r' :: rest => readText budget ('\r' :: done) rest
      | 't' :: rest => readText budget ('\t' :: done) rest
      | '0' :: rest => readText budget ('\x00' :: done) rest
      | '\\' :: rest => readText budget ('\\' :: done) rest
      | '"' :: rest => readText budget ('"' :: done) rest
      | '\x27' :: rest => readText budget ('\x27' :: done) rest
      | 'x' :: a :: b :: rest => readText budget (hexChar [a, b] :: done) rest
      | 'u' :: '\x7b' :: rest =>
        let digits := rest.takeWhile (· ≠ '\x7d')
        readText budget (hexChar digits :: done) (rest.drop (digits.length + 1))
      | '\n' :: rest | '\r' :: '\n' :: rest => readText budget done (rest.dropWhile (·.isWhitespace))
      | _ => none

/-- The content of a literal without escapes: up to a quote with as many hashes behind it. -/
def readRawText (hashes : Nat) (done : List Char) : List Char → Option (List Char × List Char)
  | [] => none
  | c :: rest =>
    if c = '"' ∧ (List.replicate hashes '#').isPrefixOf rest then
      some (done.reverse, rest.drop hashes)
    else readRawText hashes (c :: done) rest

/-- A literal without escapes behind its leading letter. -/
def rawText? (s : List Char) : Option (List Char × List Char) :=
  let hashes := (s.takeWhile (· = '#')).length
  match s.drop hashes with
  | '"' :: rest => readRawText hashes [] rest
  | _ => none

/-- The text behind the bracket that closes a group, `depth` brackets deep. Brackets inside string
literals do not count. -/
def skipGroup (budget depth : Nat) (s : List Char) : List Char :=
  match budget, s with
  | 0, _ | _, [] => []
  | budget + 1, c :: rest =>
    if c = '"' then
      match readText (rest.length + 1) [] rest with
      | some (_, rest) => skipGroup budget depth rest
      | none => []
    else if c = '(' ∨ c = '[' ∨ c = '\x7b' then skipGroup budget (depth + 1) rest
    else if c = ')' ∨ c = ']' ∨ c = '\x7d' then
      if depth = 0 then rest else skipGroup budget (depth - 1) rest
    else skipGroup budget depth rest

/-- The text behind the suffix of a literal: a word that touches it. -/
def skipSuffix (s : List Char) : List Char :=
  if s.head?.any startsWord then s.dropWhile continuesWord else s

/-- What follows a single quote: a character literal, or a mark in front of a word. -/
def readTick (s : List Char) : Token × List Char :=
  match s with
  | '\\' :: _ :: rest => (.literal, skipSuffix ((rest.dropWhile (· ≠ '\x27')).drop 1))
  | _ :: '\x27' :: rest => (.literal, skipSuffix rest)
  | _ => (.mark '\x27', s)

/-- The text behind a comment between marks, `depth` comments deep. -/
def skipBlockComment (depth : Nat) : List Char → List Char
  | [] => []
  | '/' :: '*' :: rest => skipBlockComment (depth + 1) rest
  | '*' :: '/' :: rest => if depth = 0 then rest else skipBlockComment (depth - 1) rest
  | _ :: rest => skipBlockComment depth rest

/-- Whether a comment documents what follows it: behind its two opening characters stands an
exclamation mark, or the second of them once more and not twice. -/
def documents (mark : Char) : List Char → Bool
  | [] => false
  | c :: rest => c = '!' || (c = mark && rest.head? ≠ some mark && rest.head? ≠ some '/')

/-- Whether a comment documents something, and the text behind it, if the text starts with one. -/
def comment? : List Char → Option (Bool × List Char)
  | '/' :: '/' :: rest => some (documents '/' rest, rest.dropWhile (· ≠ '\n'))
  | '/' :: '*' :: rest => some (documents '*' rest, skipBlockComment 0 rest)
  | _ => none

/-- The text behind white space and comments that document nothing, within a budget. -/
def skipFiller (budget : Nat) (s : List Char) : List Char :=
  let s := s.dropWhile isBlank
  match budget, comment? s with
  | budget + 1, some (false, rest) => skipFiller budget rest
  | _, _ => s

/-- The token that a text without leading blanks starts with, and what follows it. A comment that
documents something counts as one mark. -/
def nextToken (c : Char) (rest : List Char) : Token × List Char :=
  let budget := rest.length + 1
  let asText (found : Option (List Char × List Char)) : Token × List Char :=
    match found with
    | some (content, rest) => (.text (String.ofList content), skipSuffix rest)
    | none => (.literal, [])
  let asLiteral (found : Option (List Char × List Char)) : Token × List Char :=
    match found with
    | some (_, rest) => (.literal, skipSuffix rest)
    | none => (.literal, [])
  if c = '"' then asText (readText budget [] rest)
  else if c = '\x27' then readTick rest
  else if c = '(' ∨ c = '[' ∨ c = '\x7b' then (.group, skipGroup budget 0 rest)
  else if c.isDigit then
    (.number, rest.dropWhile fun d => continuesWord d || d = '.')
  else if c = 'r' ∧ (rawText? rest).isSome then asText (rawText? rest)
  else if (c = 'b' ∨ c = 'c') ∧ rest.head? = some '"' then
    asLiteral (readText budget [] (rest.drop 1))
  else if c = 'b' ∧ rest.head? = some '\x27' then (.literal, (readTick (rest.drop 1)).2)
  else if (c = 'b' ∨ c = 'c') ∧ rest.head? = some 'r' ∧ (rawText? (rest.drop 1)).isSome then
    asLiteral (rawText? (rest.drop 1))
  else if c = 'r' ∧ rest.head? = some '#' then
    let name := (rest.drop 1).takeWhile continuesWord
    (.word (String.ofList ('r' :: '#' :: name)), (rest.drop 1).drop name.length)
  else if startsWord c then
    let tail := rest.takeWhile continuesWord
    (.word (String.ofList (c :: tail)), rest.drop tail.length)
  else if c = ':' ∧ rest.head? = some ':' then (.separator, rest.drop 1)
  else
    match comment? (c :: rest) with
    | some (_, rest) => (.mark '#', rest)
    | none => (.mark c, rest)

/-- The tokens of a text, within a budget. -/
def tokensWithin (budget : Nat) (s : List Char) : List Token :=
  match budget, skipFiller s.length s with
  | 0, _ | _, [] => []
  | budget + 1, c :: rest =>
    let (token, rest) := nextToken c rest
    token :: tokensWithin budget rest

/-- The tokens of a text. Every token takes at least one character. -/
def tokens (text : String) : List Token :=
  tokensWithin (text.toList.length + 1) text.toList

/-- `spelling` on characters, within a budget. Brackets are spelled one by one, so that what they hold
is looked into. -/
def spellingWithin (budget : Nat) (s : List Char) : List Char :=
  match budget, skipFiller s.length s with
  | 0, _ | _, [] => []
  | budget + 1, c :: rest =>
    let behind := if c = '(' ∨ c = '[' ∨ c = '\x7b' then rest else (nextToken c rest).2
    let token := (c :: rest).take (rest.length + 1 - behind.length)
    token.filter (!Text.isSpace ·) ++ spellingWithin budget behind

/-- A text without white space and comments. -/
def spelling (text : String) : String :=
  String.ofList (spellingWithin (text.toList.length + 1) text.toList)

end TableSchema.Definition
