import TableSchema.Text.LetterCase

/-!
# Derived names

The names that a schema takes from a program's identifiers when nobody chose one.

* `snakeCase` — a column or table name from an identifier: words are found by letter case, lowered
  and joined with underscores.
* `unqualifiedName` — a type's own identifier from its printed name.
-/

namespace TableSchema

open Text

/-- Whether a word may start at an upper-case letter that follows `prev`: after a lower-case letter
or a digit it does, after another upper-case letter only when a lower-case one comes next, so that a
run of capitals stays one word up to its last letter. -/
def startsWord (prev : Char) (next : Option Char) : Bool :=
  isLowercase prev || prev.isDigit || (isUppercase prev && next.any isLowercase)

/-- `snakeCase` on the characters that follow `prev`. -/
def snakeAfter (prev : Option Char) : List Char → List Char
  | [] => []
  | c :: rest =>
    if isUppercase c then
      let lowered := toLowercase c ++ snakeAfter (some c) rest
      if prev.any (startsWord · rest.head?) then '_' :: lowered else lowered
    else c :: snakeAfter (some c) rest

/-- The identifier in lower case with its words joined by underscores: `HTTPServer` becomes
`http_server`. -/
def snakeCase (s : String) : String :=
  String.ofList (snakeAfter none s.toList)

/-- The text after the last `::`, if there is one. -/
def afterPath? : List Char → Option (List Char)
  | [] => none
  | c :: rest =>
    (afterPath? rest).or (if c = ':' ∧ rest.head? = some ':' then some rest.tail else none)

/-- The last path segment of a printed type name, without type arguments: `app::Page<u8>` becomes
`Page`. -/
def unqualifiedName (typeName : String) : String :=
  let base := typeName.toList.takeWhile (· ≠ '<')
  String.ofList ((afterPath? base).getD base)

end TableSchema
