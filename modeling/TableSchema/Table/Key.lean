/-!
# Keys and indexes

What a table declares beside its columns. Each descriptor starts with its required members and is
completed step by step; a later step wins over an earlier one of the same kind.
-/

namespace TableSchema

/-- The columns that identify a row. -/
structure PrimaryKey where
  columns : List String
deriving DecidableEq, Repr

/-- An index over columns, unique or not. -/
structure Index where
  name : String
  columns : List String
  comment : Option String := none
  invisible : Bool := false
deriving DecidableEq, Repr

/-- What happens to a row when the row it refers to changes. -/
inductive ReferentialAction where
  | restrict
  | cascade
  | setNull
  | noAction
  | setDefault
deriving DecidableEq, Repr

/-- The SQL spelling of an action, in one word. -/
def ReferentialAction.label : ReferentialAction → String
  | restrict => "RESTRICT"
  | cascade => "CASCADE"
  | setNull => "SET_NULL"
  | noAction => "NO_ACTION"
  | setDefault => "SET_DEFAULT"

/-- Columns that refer to columns of another table. -/
structure ForeignKey where
  name : String
  columns : List String
  table : String
  references : List String
  onUpdate : Option ReferentialAction := none
  onDelete : Option ReferentialAction := none
deriving DecidableEq, Repr

/-- An index over the words of a column. -/
structure FullTextIndex where
  name : String
  column : String
  comment : Option String := none
  invisible : Bool := false
  /-- The name of the word splitter. -/
  parser : Option String := none
deriving DecidableEq, Repr

/-- An index over the positions in a column. -/
structure SpatialIndex where
  name : String
  column : String
  comment : Option String := none
  invisible : Bool := false
deriving DecidableEq, Repr

namespace Index

def withComment (i : Index) (text : String) : Index := { i with comment := some text }

def hide (i : Index) : Index := { i with invisible := true }

end Index

namespace ForeignKey

def whenUpdated (k : ForeignKey) (action : ReferentialAction) : ForeignKey :=
  { k with onUpdate := some action }

def whenDeleted (k : ForeignKey) (action : ReferentialAction) : ForeignKey :=
  { k with onDelete := some action }

end ForeignKey

namespace FullTextIndex

def withComment (i : FullTextIndex) (text : String) : FullTextIndex :=
  { i with comment := some text }

def hide (i : FullTextIndex) : FullTextIndex := { i with invisible := true }

def withSplitter (i : FullTextIndex) (name : String) : FullTextIndex :=
  { i with parser := some name }

end FullTextIndex

namespace SpatialIndex

def withComment (i : SpatialIndex) (text : String) : SpatialIndex :=
  { i with comment := some text }

def hide (i : SpatialIndex) : SpatialIndex := { i with invisible := true }

end SpatialIndex

end TableSchema
