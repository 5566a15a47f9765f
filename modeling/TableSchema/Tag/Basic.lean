import TableSchema.Tag.Segment

/-!
# Tags

The annotation on a field: a name segment, then options of the form `key` or `key=value`.

* `Tag.parse` — reads an annotation.
* `Tag.render` — writes a tag in the form that `Tag.parse` reads.
-/

namespace TableSchema

/-- What the name segment says about the column's name. -/
inductive NameChoice where
  /-- The segment is empty: the name is derived from the field. -/
  | derived
  /-- The segment is the skip marker: the field has no column. -/
  | skipped
  | given (name : String)
deriving DecidableEq, Repr

/-- One option. `key` and `key=` differ: only the second has a value. -/
structure TagEntry where
  key : String
  value : Option String
deriving DecidableEq, Repr

/-- The text of the value, empty for an option without one. -/
def TagEntry.text (o : TagEntry) : String :=
  o.value.getD ""

/-- A parsed annotation. -/
structure Tag where
  name : NameChoice
  options : List TagEntry
deriving DecidableEq, Repr

/-- Reads a segment as an option: the first equals sign ends the key. -/
def TagEntry.ofSegment (s : List Char) : TagEntry where
  key := String.ofList (s.takeWhile (· ≠ '='))
  value :=
    match s.dropWhile (· ≠ '=') with
    | [] => none
    | _ :: value => some (String.ofList value)

/-- Reads the name segment. An empty segment leaves the name open even when the marker is empty. -/
def NameChoice.ofSegment (skipMarker : String) (s : List Char) : NameChoice :=
  if s = [] then .derived
  else if String.ofList s = skipMarker then .skipped
  else .given (String.ofList s)

/-- Reads an annotation: the first segment is the name, each further one that is not empty an
option. -/
def Tag.parse (raw skipMarker : String) : Tag :=
  match Tag.segments Tag.Delimiter.ofChar raw.toList with
  | [] => ⟨.derived, []⟩
  | first :: rest =>
    ⟨NameChoice.ofSegment skipMarker first, (rest.filter (· ≠ [])).map TagEntry.ofSegment⟩

/-- The name segment that stands for a name. -/
def NameChoice.segment (skipMarker : String) : NameChoice → String
  | .derived => ""
  | .skipped => skipMarker
  | .given name => name

/-- The segment that stands for an option. -/
def TagEntry.segment (o : TagEntry) : String :=
  match o.value with
  | none => o.key
  | some value => o.key ++ "=" ++ value

/-- Writes a tag: its segments separated by commas. -/
def Tag.render (skipMarker : String) (t : Tag) : String :=
  ",".intercalate (t.name.segment skipMarker :: t.options.map TagEntry.segment)

end TableSchema
