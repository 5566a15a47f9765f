import TableSchema.Tag.Basic
import TableSchema.Tag.Literal
import TableSchema.Types.Shape

/-!
# Errors

Why a table or a column cannot be built. Each error holds its cause; `BuildError.message` is the
only place that knows the wording.
-/

namespace TableSchema

/-- What is wrong with the value of an option. -/
inductive OptionFault where
  | notBoolean
  | missingTypeName
  | number (fault : NumberFault)
deriving DecidableEq, Repr

/-- The wording of a fault. -/
def OptionFault.message : OptionFault → String
  | notBoolean => "invalid syntax"
  | missingTypeName => "missing type name"
  | number fault => fault.message

/-- Why a schema cannot be built. -/
inductive BuildError where
  /-- The value of an option cannot be read. -/
  | badOption (field : String) (option : TagEntry) (fault : OptionFault)
  /-- The base type has no SQL type and no option names one. -/
  | unsupportedType (field typeName : String)
  /-- A table was asked of a type without fields. -/
  | notAStruct (typeName : String) (kind : Kind)
  /-- Under strict settings: an option that nobody knows. -/
  | unknownOption (field option : String)
  /-- Two fields ask for a column of one name. -/
  | duplicateColumn (table column firstField secondField : String)
deriving DecidableEq, Repr

/-- The wording of an error. -/
def BuildError.message : BuildError → String
  | badOption field option fault =>
    "failed to parse " ++ option.key ++ " param in tag of field `" ++ field ++ "`: "
      ++ fault.message
  | unsupportedType field typeName =>
    "unknown type for field `" ++ field ++ "`: " ++ typeName
  | notAStruct typeName kind =>
    "expected struct: " ++ typeName ++ " is a " ++ kind.label
  | unknownOption field option =>
    "unknown option `" ++ option ++ "` in tag of field `" ++ field ++ "`"
  | duplicateColumn table column firstField secondField =>
    "duplicate column `" ++ column ++ "` in table `" ++ table ++ "`: declared by fields "
      ++ firstField ++ ", " ++ secondField

end TableSchema
