import TableSchema.Toml.Quoted
import TableSchema.Toml.Table

/-!
# Reading TOML

A document is a list of statements, one to a line: headers and assignments. They are read first and
then carried out in order; last, tables that stand for moments are replaced by them.

A document may nest only so deep: neither the brackets of a value nor the parts of a key may be more
than `depthLimit`.

* `read?` — the members of a document's root table.
-/

namespace TableSchema.Toml

/-- The most brackets that may be open in a value, and the most parts of a key. -/
def depthLimit : Nat := 79

/-- The text behind a byte order mark, if it has one. -/
def skipByteOrderMark : List Char → List Char
  | '\uFEFF' :: rest => rest
  | s => s

/-- The text behind blanks on a line. -/
def skipBlanks (s : List Char) : List Char :=
  s.dropWhile fun c => c = ' ' || c = '\t'

/-- The text behind a comment, if there is one; a comment may not hold controls. -/
def skipComment? (s : List Char) : Option (List Char) :=
  match s with
  | '#' :: rest =>
    let rest := rest.dropWhile isPrintable
    if rest = [] ∨ (lineBreak? rest).isSome then some rest else none
  | _ => some s

/-- The text behind blanks, comments and line breaks. -/
def skipFiller? (budget : Nat) (s : List Char) : Option (List Char) :=
  match budget with
  | 0 => none
  | budget + 1 =>
    match skipComment? (skipBlanks s) with
    | none => none
    | some rest =>
      match lineBreak? rest with
      | some rest => skipFiller? budget rest
      | none => some rest

/-- Whether a character may stand in a key without quotes. -/
def isKeyChar (c : Char) : Bool :=
  c.isAlphanum || c = '_' || c = '-'

/-- One part of a key. -/
def readKeyPart? (s : List Char) : Option (String × List Char) :=
  match s.span isKeyChar with
  | ([], rest) => readLineString? rest
  | (word, rest) => some (String.ofList word, rest)

/-- A dotted key of at most `most` parts, with the blanks around it. -/
def readKeyParts? (most : Nat) (s : List Char) : Option (List String × List Char) :=
  match most with
  | 0 => none
  | most + 1 =>
    match readKeyPart? (skipBlanks s) with
    | none => none
    | some (part, rest) =>
      match skipBlanks rest with
      | '.' :: rest => (readKeyParts? most rest).map fun (key, rest) => (part :: key, rest)
      | rest => some ([part], rest)

/-- A dotted key, with the blanks around it. -/
def readKey? (s : List Char) : Option (List String × List Char) :=
  readKeyParts? depthLimit s

mutual

/-- One value, in which `depth` brackets may be open at a time. -/
def readValue? (budget depth : Nat) (s : List Char) : Option (Value × List Char) :=
  match budget with
  | 0 => none
  | budget + 1 =>
    match s, depth with
    | '[' :: _, 0 | '\x7b' :: _, 0 => none
    | '[' :: rest, depth + 1 => readItems? budget depth [] rest
    | '\x7b' :: rest, depth + 1 =>
      match skipBlanks rest with
      | '\x7d' :: rest => some (.table [], rest)
      | rest => readInline? budget depth [] rest
    | '"' :: _, _ | '\x27' :: _, _ => (readString? s).map fun (text, rest) => (.string text, rest)
    | _, _ =>
      let (word, rest) := cutWord s
      (scalar? word).map (·, rest)

/-- Items of a list up to its end; a comma may stand behind the last one. -/
def readItems? (budget depth : Nat) (done : List Value) (s : List Char) :
    Option (Value × List Char) :=
  match budget with
  | 0 => none
  | budget + 1 =>
    match skipFiller? (s.length + 1) s with
    | none => none
    | some (']' :: rest) => some (.array done.reverse, rest)
    | some rest =>
      match readValue? budget depth rest with
      | none => none
      | some (v, rest) =>
        match skipFiller? (rest.length + 1) rest with
        | some (',' :: rest) => readItems? budget depth (v :: done) rest
        | some (']' :: rest) => some (.array (v :: done).reverse, rest)
        | _ => none

/-- Members of a table on one line, the first one due. -/
def readInline? (budget depth : Nat) (done : Members) (s : List Char) :
    Option (Value × List Char) :=
  match budget with
  | 0 => none
  | budget + 1 =>
    match readKey? s with
    | some (key, '=' :: rest) =>
      match readValue? budget depth (skipBlanks rest) with
      | none => none
      | some (v, rest) =>
        match done.assign? v key with
        | none => none
        | some done =>
          match skipBlanks rest with
          | ',' :: rest => readInline? budget depth done rest
          | '\x7d' :: rest => some (.table (membersToValues done), rest)
          | _ => none
    | _ => none

end

/-- One line that says something. -/
inductive Statement where
  | header (path : List String)
  | listHeader (path : List String)
  | assignment (key : List String) (v : Value)

/-- One statement, without what may follow it on its line. -/
def readStatement? (s : List Char) : Option (Statement × List Char) :=
  match s with
  | '[' :: '[' :: rest =>
    match readKey? rest with
    | some (path, ']' :: ']' :: rest) => some (.listHeader path, rest)
    | _ => none
  | '[' :: rest =>
    match readKey? rest with
    | some (path, ']' :: rest) => some (.header path, rest)
    | _ => none
  | _ =>
    match readKey? s with
    | some (key, '=' :: rest) =>
      (readValue? (2 * rest.length + 2) depthLimit (skipBlanks rest)).map fun (v, rest) =>
        (.assignment key v, rest)
    | _ => none

/-- The statements of a text. -/
def readStatements? (budget : Nat) (s : List Char) : Option (List Statement) :=
  match budget with
  | 0 => none
  | budget + 1 =>
    match skipFiller? (s.length + 1) s with
    | none => none
    | some [] => some []
    | some rest => do
      let (statement, rest) ← readStatement? rest
      let rest ← skipComment? (skipBlanks rest)
      if rest = [] then some [statement]
      else
        let rest ← lineBreak? rest
        (readStatements? budget rest).map (statement :: ·)

/-- Carries out statements; `here` is the path of the last header. -/
def build? (ms : Members) (here : List String) : List Statement → Option Members
  | [] => some ms
  | .header path :: rest => do build? (← ms.define? path) path rest
  | .listHeader path :: rest => do build? (← ms.append? path) path rest
  | .assignment key v :: rest => do build? (← ms.assignIn? v key here) here rest

/-- Reads a document: the members of its root table, which may not stand for a moment. A byte order
mark in front does not count. -/
def read? (text : String) : Option (List (String × Value)) := do
  let s := skipByteOrderMark text.toList
  let statements ← readStatements? (s.length + 1) s
  let members ← build? [] [] statements
  let root ← (Value.table (membersToValues members)).settle?
  root.members?

end TableSchema.Toml
