import TableSchema.Proofs.Column.Faults

/-!
# Columns with a named type

An option that names the SQL type hides the type of the field: nothing that is inferred from it stays in
the column, wherever the option stands and whatever stands around it. What is left of the type is the
base type itself, and that a value may be absent if no option speaks of it.

* `exists_namedType?` — a tag that names a type has a SQL type to start from.
* `Follows.eq_up_to_type` — two columns that follow the same options from the same SQL type.
* `named_type_hides_declared` — the columns of two types under one tag that names a type.
-/

namespace TableSchema

variable {τ : Type}

/-- An option that names a type gives the column a type. -/
theorem exists_namedType? {options : List TagEntry} (h : ∃ o ∈ options, o.key = "type") :
    ∃ base, namedType? options = some base := by
  obtain ⟨o, ho⟩ := Option.isSome_iff_exists.mp (isSome_lastOption?_iff.mpr h)
  exact ⟨⟨o.text, 0, false⟩, by rw [namedType?, ho, Option.map_some]⟩

/-- A type without SQL type is never a problem of the options. -/
theorem ne_unsupportedType_of_readSettings {strict : Bool} {field field' typeName : String}
    {options : List TagEntry} {e : BuildError} (h : readSettings strict field options = .error e) :
    e ≠ .unsupportedType field' typeName := by
  obtain ⟨-, o, -, -, -, ho⟩ := readSettings_eq_error_iff.mp h
  rintro rfl
  cases readOption_eq_error_iff.mp ho

namespace Column

/-- The options and the SQL type that a column starts from leave nothing else open but what they say
nothing about. -/
theorem Follows.eq_up_to_type {c c' : Column τ} {options : List TagEntry}
    {resolved resolved' : Resolved τ} {base : SqlType} (h : c.Follows options resolved base)
    (h' : c'.Follows options resolved' base) (hname : c'.name = c.name)
    (hsource : c'.sourceName = c.sourceName) :
    c' = { c with resolvedType := c'.resolvedType, nullable := c'.nullable } := by
  have hsize : c'.size = c.size := UInt32.toNat_inj.mp (h'.size.trans h.size.symm)
  have hsrid : c'.srid = c.srid :=
    Option.map_injective (fun _ _ => UInt32.toNat_inj.mp) (h'.srid.trans h.srid.symm)
  have hsqlType := h'.sqlType.trans h.sqlType.symm
  have hunsigned := h'.unsigned.trans h.unsigned.symm
  have hauto := h'.autoIncrement.trans h.autoIncrement.symm
  have hinvisible := h'.invisible.trans h.invisible.symm
  have hdefault := h'.default.trans h.default.symm
  have hcharset := h'.charset.trans h.charset.symm
  have hcollation := h'.collation.trans h.collation.symm
  have hcomment := h'.comment.trans h.comment.symm
  cases c'
  simp_all

/-- An option for it decides whether the column may be null; without one the type does. -/
theorem Follows.nullable_of_null {c c' : Column τ} {options : List TagEntry}
    {resolved resolved' : Resolved τ} {base base' : SqlType} (h : c.Follows options resolved base)
    (h' : c'.Follows options resolved' base') (hnull : ∃ o ∈ options, o.key = "null") :
    c'.nullable = c.nullable := by
  obtain ⟨o, ho⟩ := Option.isSome_iff_exists.mp (isSome_lastOption?_iff.mpr hnull)
  rw [h.nullable, h'.nullable, ho]
  rfl

/-- Without an option that says so, a column admits null exactly if its field is optional. -/
theorem Follows.nullable_of_no_null {c : Column τ} {options : List TagEntry}
    {resolved : Resolved τ} {base : SqlType} (h : c.Follows options resolved base)
    (hnull : ∀ o ∈ options, o.key ≠ "null") : c.nullable = resolved.optional := by
  have hnone : lastOption? "null" options = none := by
    rw [← Option.not_isSome_iff_eq_none, isSome_lastOption?_iff]
    rintro ⟨o, ho, hkey⟩
    exact hnull o ho hkey
  rw [h.nullable, hnone]
  rfl

variable [DecidableEq τ] {g : TypeGraph τ} {config : Config} {sourceName raw : String} {declared : τ}

/-- A field with a name, options that can be read and one that names a type always has a column. -/
theorem exists_column_of_named_type {name : String} {settings : List Setting}
    (hname : (Tag.parse raw config.skipMarker).name.columnName? sourceName = some name)
    (hread : readSettings config.strictOptions sourceName
      (Tag.parse raw config.skipMarker).options = .ok settings)
    {base : SqlType} (hbase : namedType? (Tag.parse raw config.skipMarker).options = some base)
    (declared : τ) :
    ∃ c, build g config sourceName declared raw = .ok (some c) ∧ c.name = name ∧
      c.sourceName = sourceName ∧
      c.Follows (Tag.parse raw config.skipMarker).options (g.resolve declared) base := by
  have hmapped : ((Tag.parse raw config.skipMarker).options.foldl PendingColumn.withOption
      (.start name sourceName (g.resolve declared)
        (g.sqlType? (g.resolve declared).type))).mapped = true := by
    have htype : (lastOption? "type" (Tag.parse raw config.skipMarker).options).isSome = true := by
      rw [← Option.isSome_map, ← namedType?, hbase]
      rfl
    rw [PendingColumn.mapped_foldl_withOption, htype, Bool.true_or]
  rw [build_of_settings hname hread, PendingColumn.close, if_pos hmapped]
  refine ⟨_, rfl, ?_, ?_, ?_⟩
  · exact PendingColumn.foldl_withOption_kept (·.column.name) (fun _ _ => rfl) _ _
  · exact PendingColumn.foldl_withOption_kept (·.column.sourceName) (fun _ _ => rfl) _ _
  · apply PendingColumn.follows_foldl_withOption
    · rw [hbase, Option.some_or]
    · intro o ho
      exact number_lt_of_readSettings hread ho

/--
**A named type hides the type of the field.** If an option of the tag names a type, then for any two
types of the field either the field is skipped for both, or it has the same problem for both, or it has
columns that agree in all members but the base type and, if no option speaks of it, whether a value may
be absent, which each takes from its own type. That the type has no SQL type is never the problem.
-/
theorem named_type_hides_declared (g : TypeGraph τ) (config : Config) (sourceName raw : String)
    (h : ∃ o ∈ (Tag.parse raw config.skipMarker).options, o.key = "type") (s t : τ) :
    ((build g config sourceName s raw = .ok none ∧ build g config sourceName t raw = .ok none) ∨
      (∃ e, build g config sourceName s raw = .error e ∧
        build g config sourceName t raw = .error e ∧
        ∀ field typeName, e ≠ .unsupportedType field typeName) ∨
      ∃ c d, build g config sourceName s raw = .ok (some c) ∧
        build g config sourceName t raw = .ok (some d) ∧
        d = { c with resolvedType := d.resolvedType, nullable := d.nullable } ∧
        c.resolvedType = (g.resolve s).type ∧ d.resolvedType = (g.resolve t).type ∧
        ((∃ o ∈ (Tag.parse raw config.skipMarker).options, o.key = "null") →
          d.nullable = c.nullable) ∧
        ((∀ o ∈ (Tag.parse raw config.skipMarker).options, o.key ≠ "null") →
          c.nullable = (g.resolve s).optional ∧ d.nullable = (g.resolve t).optional)) := by
  cases hname : (Tag.parse raw config.skipMarker).name.columnName? sourceName with
  | none =>
    have hskipped := NameChoice.columnName?_eq_none_iff.mp hname
    exact .inl ⟨build_of_skipped hskipped, build_of_skipped hskipped⟩
  | some name =>
    cases hread : readSettings config.strictOptions sourceName
        (Tag.parse raw config.skipMarker).options with
    | error e =>
      refine .inr (.inl ⟨e, ?_, ?_, ?_⟩)
      · rw [build_of_name hname, hread]
        rfl
      · rw [build_of_name hname, hread]
        rfl
      · intro field typeName
        exact ne_unsupportedType_of_readSettings hread
    | ok settings =>
      obtain ⟨base, hbase⟩ := exists_namedType? h
      obtain ⟨c, hc, hcname, hcsource, hcfollows⟩ :=
        exists_column_of_named_type hname hread hbase s
      obtain ⟨d, hd, hdname, hdsource, hdfollows⟩ :=
        exists_column_of_named_type hname hread hbase t
      refine .inr (.inr ⟨c, d, hc, hd, ?_, hcfollows.resolvedType, hdfollows.resolvedType, ?_, ?_⟩)
      · exact hcfollows.eq_up_to_type hdfollows (hdname.trans hcname.symm)
          (hdsource.trans hcsource.symm)
      · exact hcfollows.nullable_of_null hdfollows
      · intro hnull
        exact ⟨hcfollows.nullable_of_no_null hnull, hdfollows.nullable_of_no_null hnull⟩

/-- A type that shows nothing of itself, a pointer to it, and a pointer to itself. -/
inductive HandleType where
  | handle
  | pointer
  | loop
deriving DecidableEq

/-- None of these types has a SQL type, and the first pointer may point nowhere. -/
def unmapped : TypeGraph HandleType where
  shape
    | .handle => ⟨"Handle", .hidden, false⟩
    | .pointer => ⟨"Option<Handle>", .pointer .handle true, false⟩
    | .loop => ⟨"Loop", .pointer .loop false, false⟩
  reach _ := [.handle, .pointer, .loop]
  mem_reach_self t := by cases t <;> decide
  mem_reach_of_mentions {_ _ u} _ _ := by cases u <;> decide

/-- A tag that names a type between two options that go with one. -/
def handleTag : String :=
  ",size=3,type=CHAR,unsigned"

/-- Neither type has a SQL type, and each has a column under that tag. -/
theorem named_type_hides_declared_unmapped :
    (∃ o ∈ (Tag.parse handleTag "-").options, o.key = "type") ∧
    unmapped.sqlType? .handle = none ∧ unmapped.sqlType? .loop = none ∧
    ∃ c d, build unmapped {} "Handle" .pointer handleTag = .ok (some c) ∧
      build unmapped {} "Handle" .loop handleTag = .ok (some d) ∧
      d = { c with resolvedType := .loop, nullable := false } ∧
      c.resolvedType = .handle ∧ c.nullable = true := by
  have htype : ∃ o ∈ (Tag.parse handleTag "-").options, o.key = "type" := by decide +kernel
  have hnull : ∀ o ∈ (Tag.parse handleTag "-").options, o.key ≠ "null" := by decide +kernel
  have hone : unmapped.resolve .pointer = ⟨.handle, true⟩ := by cbv
  have htwo : unmapped.resolve .loop = ⟨.loop, false⟩ := by cbv
  have hbuilt : ((build unmapped {} "Handle" .pointer handleTag).toOption.join).isSome = true := by
    rw [build, hone]
    decide +kernel
  refine ⟨htype, rfl, rfl, ?_⟩
  rcases named_type_hides_declared unmapped {} "Handle" handleTag htype .pointer .loop with
    ⟨hskipped, -⟩ | ⟨e, he, -⟩ | ⟨c, d, hc, hd, hagree, hctype, hdtype, -, hopen⟩
  · rw [hskipped] at hbuilt
    cases hbuilt
  · rw [he] at hbuilt
    cases hbuilt
  · obtain ⟨hcnull, hdnull⟩ := hopen hnull
    rw [hone] at hctype hcnull
    rw [htwo] at hdtype hdnull
    rw [hdtype, hdnull] at hagree
    exact ⟨c, d, hc, hd, hagree, hctype, hcnull⟩

end Column

end TableSchema
