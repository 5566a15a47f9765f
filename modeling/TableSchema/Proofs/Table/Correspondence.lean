import TableSchema.Proofs.Fields.Correspondence
import TableSchema.Proofs.Table.Columns

/-!
# Tables from corresponding fields

When two tables are the same: nothing of a type reaches its table but its name, its kind and the
columns of its candidate fields, one after the other.

* `build_of_struct`, `build_of_kind` — the table by the kind of the type.
* `columnsOf_congr` — the loop over the fields sees only the column of each field.
* `build_congr` — tables of two types, in two graphs, under two configurations.
* `Corresponds.tableBuild_eq` — tables in graphs with corresponding fields.
-/

namespace TableSchema

variable {τ : Type} [DecidableEq τ] {g g' : TypeGraph τ} {config config' : Config}

/-- Fields with the same columns give the same list of columns, or the same first problem. -/
theorem columnsOf_congr {table : String} {fields fields' : List (Field τ)}
    (hfields : List.Forall₂
      (fun f f' => Column.ofField g' config' f' = Column.ofField g config f) fields fields')
    (done : List (Column τ)) :
    columnsOf g' config' table done fields' = columnsOf g config table done fields := by
  induction hfields generalizing done with
  | nil => rfl
  | cons hf _ ih =>
    rw [columnsOf_cons, columnsOf_cons, hf]
    exact congrArg (Except.bind _) (funext ih)

namespace Table

/-- The table of a type with the given columns. -/
def ofColumns (options : TableOptions) (typeName : String) (columns : List (Column τ)) : Table τ where
  name := nameFor options typeName
  sourceName := unqualifiedName typeName
  columns
  comment := options.comment.filter (· ≠ "")
  primaryKey := options.primaryKey
  indexes := options.indexes
  uniqueIndexes := options.uniqueIndexes
  foreignKeys := options.foreignKeys
  fullTextIndexes := options.fullTextIndexes
  spatialIndexes := options.spatialIndexes

/-- The table of a structure is made of the columns of its candidates. -/
theorem build_of_struct {root : τ} {options : TableOptions}
    (h : (g.shape (g.resolve root).type).body.kind = .struct) :
    build g config root options =
      (columnsOf g config (nameFor options (g.shape (g.resolve root).type).typeName) []
        (g.columnFields (g.resolve root).type)).map
          (ofColumns options (g.shape (g.resolve root).type).typeName) := by
  obtain ⟨own, hown⟩ := Option.isSome_iff_exists.1 (Body.isSome_fields?_iff.2 h)
  rw [build]
  dsimp only
  rw [hown]
  dsimp only
  cases columnsOf g config (nameFor options (g.shape (g.resolve root).type).typeName) []
    (g.columnFields (g.resolve root).type) <;> rfl

/-- A type of any other kind has no table. -/
theorem build_of_kind {root : τ} {options : TableOptions}
    (h : (g.shape (g.resolve root).type).body.kind ≠ .struct) :
    build g config root options =
      .error (.notAStruct (g.shape (g.resolve root).type).typeName
        (g.shape (g.resolve root).type).body.kind) := by
  have hown : (g.shape (g.resolve root).type).body.fields? = none := by
    rw [← Option.not_isSome_iff_eq_none, Body.isSome_fields?_iff]
    exact h
  rw [build]
  dsimp only
  rw [hown]

/-- Types of one name and one kind have the same table if their candidate fields have the same
columns. -/
theorem build_congr {root root' : τ}
    (hname : (g'.shape (g'.resolve root').type).typeName = (g.shape (g.resolve root).type).typeName)
    (hkind : (g'.shape (g'.resolve root').type).body.kind = (g.shape (g.resolve root).type).body.kind)
    (hfields : List.Forall₂
      (fun f f' => Column.ofField g' config' f' = Column.ofField g config f)
      (g.columnFields (g.resolve root).type) (g'.columnFields (g'.resolve root').type))
    (options : TableOptions) :
    build g' config' root' options = build g config root options := by
  by_cases hstruct : (g.shape (g.resolve root).type).body.kind = .struct
  · rw [build_of_struct hstruct, build_of_struct (hkind.trans hstruct), hname,
      columnsOf_congr hfields]
  · rw [build_of_kind hstruct, build_of_kind (hkind ▸ hstruct), hname, hkind]

end Table

namespace TypeGraph.Corresponds

variable {R : Field τ → Field τ → Prop} (h : g.Corresponds g' R)
include h

/-- The column of a type does not depend on the fields of any structured type. -/
theorem columnBuild_eq (config : Config) (sourceName : String) (declared : τ) (raw : String) :
    Column.build g' config sourceName declared raw =
      Column.build g config sourceName declared raw := by
  rw [Column.build, Column.build, h.resolve_eq, h.sqlType?_eq, h.typeName_eq]

/-- Tables are the same in graphs with corresponding fields, if the fields that can have columns have
the same ones. -/
theorem tableBuild_eq (hR : ∀ f f', R f f' → g.KeepsPlace f f')
    (hcolumn : ∀ f f', (∀ u, ¬ g.Embeds f u) → R f f' →
      Column.ofField g' config' f' = Column.ofField g config f)
    (root : τ) (options : TableOptions) :
    Table.build g' config' root options = Table.build g config root options := by
  apply Table.build_congr
  · rw [h.resolve_eq, h.typeName_eq]
  · rw [h.resolve_eq, h.kind_eq]
  · rw [h.resolve_eq]
    exact (h.forall₂_columnFields hR _).imp fun f f' hf => hcolumn f f' hf.1 hf.2

end TypeGraph.Corresponds

end TableSchema
