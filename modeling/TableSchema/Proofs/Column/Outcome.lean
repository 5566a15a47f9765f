import TableSchema.Column.Basic
import TableSchema.Proofs.Except

/-!
# How a column is built

A field that is skipped has no column. For any other one the options of its tag are read in order, up
to the first problem, and then what they say is applied.

* `OptionKey.text` — how the known keys are written.
* `readSettings_ok_iff` — a tag without problem; `readSettings_eq_error_iff` — the problem of a tag is
  that of its first option that has one.
* `build_of_skipped`, `build_of_name` — the column by what its tag says.
-/

namespace TableSchema

-- ---------------------------------------------------------------------------
-- Keys
-- ---------------------------------------------------------------------------

/-- How a key is written. -/
def OptionKey.text : OptionKey → String
  | null => "null"
  | auto => "auto"
  | invisible => "invisible"
  | unsigned => "unsigned"
  | size => "size"
  | srid => "srid"
  | type => "type"
  | default => "default"
  | charset => "charset"
  | collate => "collate"
  | comment => "comment"

/-- A known key is found by its own text only. -/
theorem OptionKey.ofText?_eq_some_iff {text : String} {key : OptionKey} :
    OptionKey.ofText? text = some key ↔ text = key.text := by
  constructor
  · intro h
    unfold OptionKey.ofText? at h
    split at h <;> cases h <;> rfl
  · rintro rfl
    cases key <;> rfl

/-- No key is found by a text that is none of theirs. -/
theorem OptionKey.ofText?_eq_none_iff {text : String} :
    OptionKey.ofText? text = none ↔ ∀ key : OptionKey, text ≠ key.text := by
  rw [Option.eq_none_iff_forall_ne_some]
  exact forall_congr' fun key => not_congr OptionKey.ofText?_eq_some_iff

-- ---------------------------------------------------------------------------
-- The options of a tag
-- ---------------------------------------------------------------------------

/-- The first option is read, then the others, and their settings stand in this order. -/
theorem readSettings_cons (strict : Bool) (field : String) (o : TagEntry) (rest : List TagEntry) :
    readSettings strict field (o :: rest) = (readOption strict field o).bind fun setting =>
      (readSettings strict field rest).map (setting.toList ++ ·) := by
  rw [readSettings]
  cases readOption strict field o <;> rfl

/-- A problem with the first option ends the reading. -/
theorem readSettings_cons_of_problem {strict : Bool} {field : String} {o : TagEntry}
    {rest : List TagEntry} {e : BuildError} (h : readOption strict field o = .error e) :
    readSettings strict field (o :: rest) = .error e := by
  rw [readSettings_cons, h]
  rfl

theorem readSettings_cons_of_setting {strict : Bool} {field : String} {o : TagEntry}
    {rest : List TagEntry} {setting : Option Setting} (h : readOption strict field o = .ok setting) :
    readSettings strict field (o :: rest) =
      (readSettings strict field rest).map (setting.toList ++ ·) := by
  rw [readSettings_cons, h]
  rfl

/-- The options of a tag can be read if each of them can. -/
theorem readSettings_ok_iff {strict : Bool} {field : String} {options : List TagEntry} :
    (∃ settings, readSettings strict field options = .ok settings) ↔
      ∀ o ∈ options, ∃ setting, readOption strict field o = .ok setting := by
  induction options with
  | nil => simp [readSettings]
  | cons o rest ih =>
    rw [List.forall_mem_cons, ← ih]
    cases h : readOption strict field o with
    | error e => simp [readSettings_cons_of_problem h]
    | ok setting => simp [readSettings_cons_of_setting h, exists_map_eq_ok_iff]

/-- Reading goes through the options and collects their settings behind those that are there. -/
theorem readSettings_eq_foldlM (strict : Bool) (field : String) (options : List TagEntry)
    (found : List Setting) :
    (readSettings strict field options).map (found ++ ·) =
      options.foldlM (fun found o => (readOption strict field o).map (found ++ ·.toList)) found := by
  induction options generalizing found with
  | nil =>
    show Except.ok (found ++ []) = Except.ok found
    rw [List.append_nil]
  | cons o rest ih =>
    rw [readSettings_cons, List.foldlM_cons]
    cases readOption strict field o with
    | error e => rfl
    | ok setting =>
      have hrest := ih (found ++ setting.toList)
      refine Eq.trans ?_ hrest
      show ((readSettings strict field rest).map (setting.toList ++ ·)).map (found ++ ·) = _
      cases readSettings strict field rest with
      | error e => rfl
      | ok settings => exact congrArg Except.ok (List.append_assoc ..).symm

/-- The problem of a tag is the problem of the first option that has one. -/
theorem readSettings_eq_error_iff {strict : Bool} {field : String} {options : List TagEntry}
    {e : BuildError} :
    readSettings strict field options = .error e ↔
      ∃ front o back, options = front ++ o :: back ∧
        (∀ p ∈ front, ∃ setting, readOption strict field p = .ok setting) ∧
        readOption strict field o = .error e := by
  rw [← map_eq_error_iff, readSettings_eq_foldlM strict field options [], foldlM_eq_error_iff]
  constructor
  · rintro ⟨front, o, back, found, hsplit, hfront, ho⟩
    rw [← readSettings_eq_foldlM, map_eq_ok_iff] at hfront
    obtain ⟨settings, hsettings, -⟩ := hfront
    exact ⟨front, o, back, hsplit, readSettings_ok_iff.1 ⟨settings, hsettings⟩,
      map_eq_error_iff.1 ho⟩
  · rintro ⟨front, o, back, hsplit, hfront, ho⟩
    obtain ⟨settings, hsettings⟩ := readSettings_ok_iff.2 hfront
    refine ⟨front, o, back, settings, hsplit, ?_, map_eq_error_iff.2 ho⟩
    rw [← readSettings_eq_foldlM, hsettings]
    rfl

-- ---------------------------------------------------------------------------
-- Columns
-- ---------------------------------------------------------------------------

/-- Only the skip marker leaves a field without a column name. -/
theorem NameChoice.columnName?_eq_none_iff {sourceName : String} {name : NameChoice} :
    name.columnName? sourceName = none ↔ name = .skipped := by
  cases name <;> simp [columnName?]

/-- The column of a draft that has a SQL type. -/
def PendingColumn.close {τ : Type} (d : PendingColumn τ) (unmapped : BuildError) :
    Except BuildError (Option (Column τ)) :=
  if d.mapped then .ok (some d.column) else .error unmapped

namespace Column

variable {τ : Type} [DecidableEq τ] {g : TypeGraph τ} {config : Config} {sourceName raw : String}
  {declared : τ}

/-- A skipped field has no column, whatever its type and its options. -/
theorem build_of_skipped (h : (Tag.parse raw config.skipMarker).name = .skipped) :
    build g config sourceName declared raw = .ok none := by
  rw [build, NameChoice.columnName?_eq_none_iff.2 h]

/-- What the settings of a tag make of a resolved type. -/
def finish (g : TypeGraph τ) (sourceName name : String) (resolved : Resolved τ)
    (settings : List Setting) : Except BuildError (Option (Column τ)) :=
  (settings.foldl PendingColumn.apply
    (.start name sourceName resolved (g.sqlType? resolved.type))).close
      (.unsupportedType sourceName (g.shape resolved.type).typeName)

/-- A field that is not skipped: its tag is read, then its settings are applied. -/
theorem build_of_name {name : String}
    (hname : (Tag.parse raw config.skipMarker).name.columnName? sourceName = some name) :
    build g config sourceName declared raw =
      (readSettings config.strictOptions sourceName (Tag.parse raw config.skipMarker).options).bind
        (finish g sourceName name (g.resolve declared)) := by
  rw [build, hname]
  dsimp only
  cases readSettings config.strictOptions sourceName (Tag.parse raw config.skipMarker).options <;> rfl

end Column

end TableSchema
