import TableSchema.Text.CaseIgnorable
import TableSchema.Text.LetterCase

/-!
# Text in lower case

A text is lowered character by character, with one exception: a capital sigma at the end of a word
becomes the final sigma. It ends a word if, accents and the like aside, a letter with case stands in
front of it and none behind it.

* `lowercase` — the text in lower case.
-/

namespace TableSchema.Text

/-- Whether the first character that is not case-ignorable is a letter with case. -/
def reachesCased (s : List Char) : Bool :=
  (s.dropWhile isCaseIgnorable).head?.any isCased

/-- The lower-case form of a character that stands behind `before`, whose last character comes
first, and in front of `after`. -/
def lowercaseChar (before after : List Char) (c : Char) : List Char :=
  if c = 'Σ' ∧ reachesCased before ∧ !reachesCased after then ['ς'] else toLowercase c

/-- `lowercase` on the characters that follow `before`, whose last character comes first. -/
def lowercaseAfter (before : List Char) : List Char → List Char
  | [] => []
  | c :: rest => lowercaseChar before rest c ++ lowercaseAfter (c :: before) rest

/-- A text in lower case. -/
def lowercase (s : String) : String :=
  String.ofList (lowercaseAfter [] s.toList)

end TableSchema.Text
