import TableSchema.Naming
import TableSchema.Text.Quoted
import TableSchema.Tag.Basic
import TableSchema.Tag.Literal
import TableSchema.Types.Resolve
import TableSchema.Log
import TableSchema.Types.Catalog
import TableSchema.Types.Describe
import TableSchema.Json.Writer
import TableSchema.Json.Reader
import TableSchema.Decimal.Notation
import TableSchema.Json.Number
import TableSchema.Time.Civil
import TableSchema.Nullable.Basic
import TableSchema.Registry.Session
import TableSchema.Toml.Reader
import TableSchema.Config.Load
import TableSchema.Definition.Derive
import TableSchema.Proofs.Table.Columns
import TableSchema.Proofs.Tag.Pieces
import TableSchema.Proofs.Column.Nullability
import TableSchema.Proofs.Tag.RoundTrip
import TableSchema.Proofs.Fields.Correspondence
import TableSchema.Proofs.Table.Correspondence
import TableSchema.Proofs.Table.Wrappers
import TableSchema.Proofs.Table.Flattening
import TableSchema.Proofs.Column.Strictness
import TableSchema.Proofs.Table.Strictness
import TableSchema.Proofs.Table.Annotations
import TableSchema.Proofs.Table.Skipping
import TableSchema.Proofs.Registry.Run
import TableSchema.Proofs.Json.Reading
import TableSchema.Proofs.Table.Document
import TableSchema.Proofs.Registry.Pinning
import TableSchema.Proofs.Tag.Literal
import TableSchema.Proofs.Column.Members
import TableSchema.Proofs.Column.Faults
import TableSchema.Proofs.Definition.Attribute
import TableSchema.Proofs.Definition.FieldAttribute
import TableSchema.Proofs.Definition.Derivation
import TableSchema.Proofs.Definition.Rewriting
import TableSchema.Proofs.Table.Problems
import TableSchema.Proofs.Types.Chain
import TableSchema.Proofs.Column.NamedType
import TableSchema.Proofs.Column.Numbers
import TableSchema.Proofs.Fields.Descent
import TableSchema.Proofs.Tag.Bytes
import TableSchema.Proofs.Naming.Rederived
import TableSchema.Proofs.Naming.TypeNames
import TableSchema.Proofs.Config.Layering
