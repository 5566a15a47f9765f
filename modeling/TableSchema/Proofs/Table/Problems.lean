import TableSchema.Proofs.Column.Faults
import TableSchema.Proofs.Table.Correspondence
import TableSchema.Proofs.Table.Skipping

/-!
# The first problem of a table

A table is not built if a field has a problem of its own, or if its column has the name of a column in
front of it. Of several problems the first in the order of the fields is reported, so that what comes
behind it makes no difference; and fields that no name means, that embed a type or that are skipped have
no problems at all.

* `ColumnAt`, `ProblemAt` — the column and the problem of the field at a place.
* `problemAt_append_iff` — a problem does not depend on the fields behind it.
* `turn_eq_error_iff`, `columnsOf_eq_error_iff_first` — one turn of the loop over the fields fails with
  the problem of its field, and the loop with the first problem.
* `BuildError.fields` — the fields that an error names.
* `build_reports_first_problem` — how the building of a table ends.
-/

namespace TableSchema

-- ---------------------------------------------------------------------------
-- The fields of an error
-- ---------------------------------------------------------------------------

/-- The fields that an error names. -/
def BuildError.fields : BuildError → List String
  | badOption field _ _ | unsupportedType field _ | unknownOption field _ => [field]
  | duplicateColumn _ _ firstField secondField => [firstField, secondField]
  | notAStruct _ _ => []

variable {τ : Type} [DecidableEq τ] {g : TypeGraph τ} {config : Config}

/-- The error of a column names its field and nothing else. -/
theorem Column.fields_of_build_error {sourceName raw : String} {declared : τ} {e : BuildError}
    (h : build g config sourceName declared raw = .error e) : e.fields = [sourceName] := by
  cases hname : (Tag.parse raw config.skipMarker).name.columnName? sourceName with
  | none =>
    rw [build_of_skipped (NameChoice.columnName?_eq_none_iff.mp hname)] at h
    cases h
  | some name =>
    cases (build_eq_error_iff hname).mp h with
    | option _ _ _ _ _ offends => cases offends <;> rfl
    | unmapped _ _ => rfl

-- ---------------------------------------------------------------------------
-- Places
-- ---------------------------------------------------------------------------

/-- The field at place `i` is `f`, and its column is `c`. -/
structure ColumnAt (g : TypeGraph τ) (config : Config) (fields : List (Field τ)) (i : Nat)
    (f : Field τ) (c : Column τ) : Prop where
  place : fields[i]? = some f
  built : Column.ofField g config f = .ok (some c)

/-- The field at place `i` is a problem of the table, and the problem is the given one. -/
inductive ProblemAt (g : TypeGraph τ) (config : Config) (table : String) (fields : List (Field τ))
    (i : Nat) : BuildError → Prop
  /-- Its column cannot be built. -/
  | column {f : Field τ} {e : BuildError} (place : fields[i]? = some f)
      (fails : Column.ofField g config f = .error e) : ProblemAt g config table fields i e
  /-- Its column has the name of a column in front of it. -/
  | clash {f first : Field τ} {c taken : Column τ} {j : Nat} (column : ColumnAt g config fields i f c)
      (front : j < i) (other : ColumnAt g config fields j first taken) (same : taken.name = c.name) :
      ProblemAt g config table fields i (.duplicateColumn table c.name first.name f.name)

/-- The field at place `i` is the first problem, and the problem is the given one. -/
structure FirstProblemAt (g : TypeGraph τ) (config : Config) (table : String)
    (fields : List (Field τ)) (i : Nat) (e : BuildError) : Prop where
  problem : ProblemAt g config table fields i e
  first : ∀ j < i, ∀ e', ¬ ProblemAt g config table fields j e'

variable {table : String} {fields : List (Field τ)}

/-- The column of a field does not depend on the fields behind it. -/
theorem columnAt_append_iff {front back : List (Field τ)} {i : Nat} {f : Field τ} {c : Column τ}
    (hi : i < front.length) :
    ColumnAt g config (front ++ back) i f c ↔ ColumnAt g config front i f c := by
  have hplace : (front ++ back)[i]? = front[i]? := List.getElem?_append_left hi
  constructor
  · intro h
    exact ⟨hplace ▸ h.place, h.built⟩
  · intro h
    exact ⟨hplace ▸ h.place, h.built⟩

/-- Only the fields up to a place decide whether there is a problem. -/
theorem problemAt_append_iff {front back : List (Field τ)} {i : Nat} {e : BuildError}
    (hi : i < front.length) :
    ProblemAt g config table (front ++ back) i e ↔ ProblemAt g config table front i e := by
  have hplace : (front ++ back)[i]? = front[i]? := List.getElem?_append_left hi
  constructor
  · intro h
    cases h with
    | column place fails => exact .column (hplace ▸ place) fails
    | clash column hj other same =>
      exact .clash ((columnAt_append_iff hi).mp column) hj
        ((columnAt_append_iff (hj.trans hi)).mp other) same
  · intro h
    cases h with
    | column place fails => exact .column (hplace ▸ place) fails
    | clash column hj other same =>
      exact .clash ((columnAt_append_iff hi).mpr column) hj
        ((columnAt_append_iff (hj.trans hi)).mpr other) same

/-- A problem is at the place of a field. -/
theorem ProblemAt.lt_length {i : Nat} {e : BuildError} (h : ProblemAt g config table fields i e) :
    i < fields.length := by
  cases h with
  | column place _ => exact (List.getElem?_eq_some_iff.mp place).1
  | clash column _ _ _ => exact (List.getElem?_eq_some_iff.mp column.place).1

omit [DecidableEq τ] in
/-- The fields around the one at a place. -/
theorem exists_split_of_lt {i : Nat} (hi : i < fields.length) :
    ∃ front f back, fields = front ++ f :: back ∧ front.length = i :=
  ⟨fields.take i, fields[i], fields.drop (i + 1), by simp, by simp [Nat.le_of_lt hi]⟩

-- ---------------------------------------------------------------------------
-- The loop over the fields
-- ---------------------------------------------------------------------------

/-- The loop over the fields may be cut in two at any place. -/
theorem columnsOf_append (done : List (Column τ)) (front back : List (Field τ)) :
    columnsOf g config table done (front ++ back) =
      (columnsOf g config table done front).bind (columnsOf g config table · back) := by
  rw [columnsOf_eq_foldlM, columnsOf_eq_foldlM, List.foldlM_append]
  exact congrArg (Except.bind _) (funext fun _ => (columnsOf_eq_foldlM ..).symm)

omit [DecidableEq τ] in
/-- A column cannot be placed exactly if its name is taken. -/
theorem placeColumn_eq_error_iff {done : List (Column τ)} {column : Option (Column τ)}
    {e : BuildError} :
    placeColumn table done column = .error e ↔
      ∃ c taken, column = some c ∧ findColumn? c.name done = some taken ∧
        e = .duplicateColumn table c.name taken.sourceName c.sourceName := by
  cases column with
  | none => simp [placeColumn]
  | some c =>
    rw [placeColumn]
    cases hfind : findColumn? c.name done <;> simp [hfind, eq_comm]

/-- The columns found so far are those of the fields in front. -/
theorem mem_columnsOf_iff {front : List (Field τ)} {columns : List (Column τ)} {c : Column τ}
    (h : columnsOf g config table [] front = .ok columns) (back : List (Field τ)) :
    c ∈ columns ↔ ∃ j < front.length, ∃ f, ColumnAt g config (front ++ back) j f c := by
  obtain ⟨-, rfl, -⟩ := columnsOf_nil_eq_ok_iff.mp h
  rw [mem_builtColumns_iff]
  constructor
  · rintro ⟨f, hf, hbuilt⟩
    obtain ⟨j, hj, rfl⟩ := List.mem_iff_getElem.mp hf
    exact ⟨j, hj, _, (columnAt_append_iff hj).mpr ⟨List.getElem?_eq_getElem hj, hbuilt⟩⟩
  · rintro ⟨j, hj, f, hat⟩
    have hat := (columnAt_append_iff hj).mp hat
    exact ⟨f, List.mem_of_getElem? hat.place, hat.built⟩

/-- If the loop has come to a field, its turn fails with the problem of that field. -/
theorem turn_eq_error_iff {front : List (Field τ)} {f : Field τ} {columns : List (Column τ)}
    {e : BuildError} (hfront : columnsOf g config table [] front = .ok columns)
    (back : List (Field τ)) :
    (Column.ofField g config f).bind (placeColumn table columns) = .error e ↔
      ProblemAt g config table (front ++ f :: back) front.length e := by
  have hplace : (front ++ f :: back)[front.length]? = some f := by simp
  have hnodup : (columns.map Column.name).Nodup :=
    (columnsOf_nil_eq_ok_iff.mp hfront).2.2
  rw [bind_eq_error_iff]
  constructor
  · rintro (hfails | ⟨column, hbuilt, hturn⟩)
    · exact .column hplace hfails
    · obtain ⟨c, taken, rfl, hfind, rfl⟩ := placeColumn_eq_error_iff.mp hturn
      obtain ⟨htaken, hname⟩ := mem_of_findColumn? hfind
      obtain ⟨j, hj, first, hfirst⟩ := (mem_columnsOf_iff hfront (f :: back)).mp htaken
      rw [Column.sourceName_of_ofField hfirst.built, Column.sourceName_of_ofField hbuilt]
      exact .clash ⟨hplace, hbuilt⟩ hj hfirst hname
  · intro h
    cases h with
    | column place fails =>
      obtain rfl := Option.some.inj (hplace.symm.trans place)
      exact .inl fails
    | @clash f' first c taken j column hj other same =>
      obtain rfl := Option.some.inj (hplace.symm.trans column.place)
      have htaken : taken ∈ columns := (mem_columnsOf_iff hfront _).mpr ⟨j, hj, first, other⟩
      have hfind : findColumn? c.name columns = some taken :=
        (findColumn?_eq_some_iff hnodup).mpr ⟨htaken, same⟩
      refine .inr ⟨some c, column.built, placeColumn_eq_error_iff.mpr ⟨c, taken, rfl, hfind, ?_⟩⟩
      rw [Column.sourceName_of_ofField other.built, Column.sourceName_of_ofField column.built]

/-- A loop that succeeds has met no problem. -/
theorem not_problemAt_of_columnsOf {columns : List (Column τ)}
    (h : columnsOf g config table [] fields = .ok columns) (i : Nat) (e : BuildError) :
    ¬ ProblemAt g config table fields i e := by
  intro hproblem
  obtain ⟨front, f, back, rfl, rfl⟩ := exists_split_of_lt hproblem.lt_length
  rw [columnsOf_append] at h
  obtain ⟨found, hfront, h⟩ := bind_eq_ok_iff.mp h
  rw [columnsOf_cons, (turn_eq_error_iff hfront back).mpr hproblem] at h
  cases h

/-- The loop fails with the first problem in the order of the fields. -/
theorem columnsOf_eq_error_iff_first {e : BuildError} :
    columnsOf g config table [] fields = .error e ↔
      ∃ i, FirstProblemAt g config table fields i e := by
  constructor
  · intro h
    obtain ⟨front, f, back, columns, rfl, hfront, hturn⟩ := columnsOf_eq_error_iff.mp h
    refine ⟨front.length, (turn_eq_error_iff hfront back).mp hturn, ?_⟩
    intro j hj e' hproblem
    exact not_problemAt_of_columnsOf hfront j e' ((problemAt_append_iff hj).mp hproblem)
  · rintro ⟨i, hproblem, hfirst⟩
    obtain ⟨front, f, back, rfl, rfl⟩ := exists_split_of_lt hproblem.lt_length
    rw [columnsOf_append]
    cases hfront : columnsOf g config table [] front with
    | ok columns =>
      show columnsOf g config table columns (f :: back) = .error e
      rw [columnsOf_cons, (turn_eq_error_iff hfront back).mpr hproblem]
      rfl
    | error e' =>
      -- the loop has failed for a field in front of the first problem
      obtain ⟨before, f', back', columns, rfl, hbefore, hturn⟩ := columnsOf_eq_error_iff.mp hfront
      have hearly := (turn_eq_error_iff hbefore back').mp hturn
      have hlt : before.length < (before ++ f' :: back').length := by simp
      exact absurd ((problemAt_append_iff hlt).mpr hearly) (hfirst _ hlt e')

/-- The loop succeeds if no field is a problem. -/
theorem exists_columnsOf_iff :
    (∃ columns, columnsOf g config table [] fields = .ok columns) ↔
      ∀ i e, ¬ ProblemAt g config table fields i e := by
  constructor
  · rintro ⟨columns, h⟩
    exact not_problemAt_of_columnsOf h
  · intro h
    by_contra hnot
    obtain ⟨e, he⟩ := exists_error_iff.mpr hnot
    obtain ⟨i, hfirst⟩ := columnsOf_eq_error_iff_first.mp he
    exact h i e hfirst.problem

-- ---------------------------------------------------------------------------
-- What is reported
-- ---------------------------------------------------------------------------

/-- An error names fields, and none of them is skipped. -/
theorem ProblemAt.exists_of_mem_fields {i : Nat} {e : BuildError}
    (h : ProblemAt g config table fields i e) {name : String} (hname : name ∈ e.fields) :
    ∃ f ∈ fields, f.name = name ∧ ¬ f.Skipped config := by
  have hbuilt : ∀ {j f c}, ColumnAt g config fields j f c → f ∈ fields ∧ ¬ f.Skipped config := by
    intro j f c hat
    refine ⟨List.mem_of_getElem? hat.place, fun hskipped => ?_⟩
    have := hat.built
    rw [Column.ofField_eq_none_iff.mpr hskipped] at this
    cases this
  cases h with
  | @column f _ place fails =>
    rw [Column.fields_of_build_error fails, List.mem_singleton] at hname
    refine ⟨f, List.mem_of_getElem? place, hname.symm, fun hskipped => ?_⟩
    rw [Column.ofField_eq_none_iff.mpr hskipped] at fails
    cases fails
  | @clash f first _ _ _ column _ other _ =>
    rw [BuildError.fields, List.mem_cons, List.mem_singleton] at hname
    rcases hname with rfl | rfl
    · exact ⟨first, (hbuilt other).1, rfl, (hbuilt other).2⟩
    · exact ⟨f, (hbuilt column).1, rfl, (hbuilt column).2⟩

/-- No field is reported for the kind of the type that it belongs to. -/
theorem ProblemAt.ne_notAStruct {i : Nat} {typeName : String} {kind : Kind} :
    ¬ ProblemAt g config table fields i (.notAStruct typeName kind) := by
  intro h
  cases h with
  | column _ fails =>
    have := Column.fields_of_build_error fails
    cases this

/-- If nothing is wrong in front of a field, its name is taken once at most. -/
theorem FirstProblemAt.owner_unique {i j j' : Nat} {e : BuildError} {first first' : Field τ}
    {taken taken' : Column τ} (h : FirstProblemAt g config table fields i e) (hj : j < i)
    (hj' : j' < i) (hat : ColumnAt g config fields j first taken)
    (hat' : ColumnAt g config fields j' first' taken') (hsame : taken.name = taken'.name) :
    j = j' := by
  rcases Nat.lt_trichotomy j j' with hlt | heq | hlt
  · exact absurd (.clash hat' hlt hat hsame) (h.first j' hj' _)
  · exact heq
  · exact absurd (.clash hat hlt hat' hsame.symm) (h.first j hj _)

/-- Fields at different places have different names. -/
theorem ColumnAt.name_ne {i j : Nat} {f first : Field τ} {c taken : Column τ}
    (hnodup : (fields.map Field.name).Nodup) (hat : ColumnAt g config fields i f c)
    (hat' : ColumnAt g config fields j first taken) (hj : j < i) : first.name ≠ f.name := by
  intro heq
  have hlen : j < (fields.map Field.name).length := by
    rw [List.length_map]
    exact (List.getElem?_eq_some_iff.mp hat'.place).1
  have hsame : (fields.map Field.name)[j]? = (fields.map Field.name)[i]? := by
    rw [List.getElem?_map, List.getElem?_map, hat.place, hat'.place, Option.map_some, heq]
    rfl
  have := (List.getElem?_inj hlen hnodup).mp hsame
  omega

namespace Table

/--
**The first problem of a table.** Building fails if the base type is not structured, with its name and
kind, or else with the first problem in the order of the candidate fields, and only then. So a problem
depends on no field behind it, and whatever field an error names is visible, embeds no structured type
and is not skipped. If the problem is the name of a column, then the table is the one that is built, the
column is the one of the second field, exactly one field in front of it has a column of that name, and
the two fields have different names.
-/
theorem build_reports_first_problem (g : TypeGraph τ) (config : Config) (root : τ)
    (options : TableOptions) :
    let shape := g.shape (g.resolve root).type
    let table := nameFor options shape.typeName
    let fields := g.columnFields (g.resolve root).type
    (∀ e, build g config root options = .error e ↔
      (shape.body.kind ≠ .struct ∧ e = .notAStruct shape.typeName shape.body.kind) ∨
      (shape.body.kind = .struct ∧ ∃ i, FirstProblemAt g config table fields i e)) ∧
    ((∃ built, build g config root options = .ok built) ↔
      shape.body.kind = .struct ∧ ∀ i e, ¬ ProblemAt g config table fields i e) ∧
    (∀ typeName kind, build g config root options = .error (.notAStruct typeName kind) ↔
      shape.body.kind ≠ .struct ∧ typeName = shape.typeName ∧ kind = shape.body.kind) ∧
    (∀ i e, ProblemAt g config table fields i e ↔
      ProblemAt g config table (fields.take (i + 1)) i e) ∧
    (∀ e, build g config root options = .error e → ∀ name ∈ e.fields,
      ∃ o ∈ g.visibleFields (g.resolve root).type,
        o.field.name = name ∧ o.promoted = false ∧ ¬ o.field.Skipped config) ∧
    (∀ name column first second,
      build g config root options = .error (.duplicateColumn name column first second) →
      name = table ∧ first ≠ second ∧ ∃ i f c, ColumnAt g config fields i f c ∧
        f.name = second ∧ c.name = column ∧
        ∃ j < i, (∃ f' c', ColumnAt g config fields j f' c' ∧ f'.name = first ∧ c'.name = column) ∧
          ∀ j' < i, ∀ f' c', ColumnAt g config fields j' f' c' → c'.name = column → j' = j) := by
  intro shape table fields
  have herror : ∀ e, build g config root options = .error e ↔
      (shape.body.kind ≠ .struct ∧ e = .notAStruct shape.typeName shape.body.kind) ∨
      (shape.body.kind = .struct ∧ ∃ i, FirstProblemAt g config table fields i e) := by
    intro e
    by_cases hstruct : shape.body.kind = .struct
    · rw [build_of_struct hstruct, map_eq_error_iff, columnsOf_eq_error_iff_first]
      simp [hstruct, table, fields, shape]
    · rw [build_of_kind hstruct]
      simp [hstruct, eq_comm, shape]
  refine ⟨herror, ?built, ?kinds, ?behind, ?named, ?clashes⟩
  case built =>
    by_cases hstruct : shape.body.kind = .struct
    · rw [build_of_struct hstruct, exists_map_eq_ok_iff, exists_columnsOf_iff, and_iff_right hstruct]
    · rw [build_of_kind hstruct]
      simp [hstruct]
  case kinds =>
    intro typeName kind
    rw [herror]
    constructor
    · rintro (⟨hstruct, heq⟩ | ⟨-, i, hfirst⟩)
      · cases heq
        exact ⟨hstruct, rfl, rfl⟩
      · exact absurd hfirst.problem ProblemAt.ne_notAStruct
    · rintro ⟨hstruct, rfl, rfl⟩
      exact .inl ⟨hstruct, rfl⟩
  case behind =>
    intro i e
    by_cases hi : i < fields.length
    · have hlen : i < (fields.take (i + 1)).length := by
        rw [List.length_take]
        omega
      rw [← problemAt_append_iff hlen, List.take_append_drop]
    · have hall : fields.take (i + 1) = fields := List.take_of_length_le (by omega)
      rw [hall]
  case named =>
    intro e he name hname
    rcases (herror e).mp he with ⟨-, rfl⟩ | ⟨-, i, hfirst⟩
    · cases hname
    · obtain ⟨f, hf, hfname, hnot⟩ := hfirst.problem.exists_of_mem_fields hname
      obtain ⟨o, ho, hregular, rfl⟩ := TypeGraph.mem_columnFields_iff.mp hf
      exact ⟨o, ho, hfname, hregular, hnot⟩
  case clashes =>
    intro name column first second he
    rcases (herror _).mp he with ⟨-, heq⟩ | ⟨-, i, hfirst⟩
    · cases heq
    · have hproblem := hfirst.problem
      cases hproblem with
      | column _ fails =>
        have := Column.fields_of_build_error fails
        cases this
      | @clash f f' c taken j hat hj hat' hsame =>
        have hne : f'.name ≠ f.name := hat.name_ne (nodup_names_columnFields g _) hat' hj
        refine ⟨rfl, hne, i, f, c, hat, rfl, rfl, j, hj, ⟨f', taken, hat', rfl, hsame⟩, ?_⟩
        intro j' hj' f'' c'' hat'' hname
        exact hfirst.owner_unique hj' hj hat'' hat' (hname.trans hsame.symm)

/-- The types of a program with a post. -/
inductive PostType where
  | text
  | mark
  | post
deriving DecidableEq

/-- A post with a marked field, two fields for one column, and one without a column behind them. -/
def twoTitles : TypeGraph PostType where
  shape
    | .text => ⟨"String", .scalar .string, false⟩
    | .mark => ⟨"char", .hidden, false⟩
    | .post => ⟨"Post", .struct [⟨"Title", .text, [("ddl", "-")], false⟩, ⟨"title", .text, [], false⟩,
      ⟨"heading", .text, [("ddl", "title")], false⟩, ⟨"grade", .mark, [], false⟩], false⟩
  reach _ := [.text, .mark, .post]
  mem_reach_self t := by cases t <;> decide
  mem_reach_of_mentions {_ _ u} _ _ := by cases u <;> decide

/-- The marked field does not own the name, and the last field is not reported. -/
example : build twoTitles {} .post {} =
    .error (.duplicateColumn "post" "title" "title" "heading") := by cbv

end Table

end TableSchema
