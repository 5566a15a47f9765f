/-!
# Settings

What a program may choose about the extraction of its schema.
-/

namespace TableSchema

/-- The settings of an extraction. -/
structure Config where
  /-- The key under which a field's annotation is stored. -/
  tagKey : String := "ddl"
  /-- The column name that excludes a field. -/
  skipMarker : String := "-"
  /-- Unknown options are errors instead of being ignored. -/
  strictOptions : Bool := false
deriving DecidableEq, Repr, Inhabited

end TableSchema
