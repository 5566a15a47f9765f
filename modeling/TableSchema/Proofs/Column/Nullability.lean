import TableSchema.Proofs.Column.Outcome
import TableSchema.Proofs.Types.Wrapping

/-!
# Nullable columns

Whether a column may be null is the one thing about it that wrappers around the type decide, and they
decide it only if no option of the tag does.

* `foldl_apply_admitting` — what the settings of a tag leave of an admitted absent value.
* `any_setsNull_of_readSettings` — the settings that a tag has for it are those of its `null` options.
* `build_of_stack` — the column of a type under wrappers from the column of the type.
-/

namespace TableSchema

variable {τ : Type}

/-- The same column, null also if `admits` says so. -/
def Column.admitting (c : Column τ) (admits : Bool) : Column τ :=
  { c with nullable := c.nullable || admits }

theorem Column.admitting_false (c : Column τ) : c.admitting false = c := by
  rw [admitting, Bool.or_false]

-- ---------------------------------------------------------------------------
-- Settings
-- ---------------------------------------------------------------------------

/-- The setting says whether the column may be null. -/
def Setting.setsNull : Setting → Bool
  | .nullable _ => true
  | _ => false

/-- Of the settings that are read only that of one key decides about null. -/
theorem OptionKey.setsNull_of_read {key : OptionKey} {o : TagEntry} {setting : Setting}
    (h : key.read o = .ok setting) : setting.setsNull = decide (key = .null) := by
  cases key with
  | null | auto | invisible | unsigned | size | srid | type =>
    obtain ⟨value, -, rfl⟩ := map_eq_ok_iff.1 h
    rfl
  | default | charset | collate | comment =>
    obtain rfl := Except.ok.inj h
    rfl

/-- Of the entries of a tag only those of that key decide about null. -/
theorem any_setsNull_of_readOption {strict : Bool} {field : String} {o : TagEntry}
    {setting : Option Setting} (h : readOption strict field o = .ok setting) :
    setting.toList.any Setting.setsNull = decide (o.key = "null") := by
  rw [readOption] at h
  cases hkey : OptionKey.ofText? o.key with
  | some key =>
    rw [hkey] at h
    dsimp only at h
    cases hread : key.read o with
    | error fault =>
      rw [hread] at h
      cases h
    | ok value =>
      rw [hread] at h
      obtain rfl := Except.ok.inj h
      have htext : OptionKey.ofText? o.key = some .null ↔ o.key = OptionKey.null.text :=
        OptionKey.ofText?_eq_some_iff
      have hnull : decide (key = .null) = decide (o.key = "null") := by
        rw [hkey, Option.some.injEq] at htext
        exact decide_eq_decide.mpr htext
      rw [← hnull, ← OptionKey.setsNull_of_read hread]
      simp
  | none =>
    -- an unknown option is no setting at all, and `null` is known
    have hne : o.key ≠ "null" := OptionKey.ofText?_eq_none_iff.mp hkey .null
    rw [hkey] at h
    cases strict with
    | true => cases h
    | false =>
      obtain rfl := Except.ok.inj h
      simp [hne]

/-- A tag sets whether the column may be null exactly if one of its options is called so. -/
theorem any_setsNull_of_readSettings {strict : Bool} {field : String} {options : List TagEntry}
    {settings : List Setting} (h : readSettings strict field options = .ok settings) :
    settings.any Setting.setsNull = options.any (·.key = "null") := by
  induction options generalizing settings with
  | nil =>
    obtain rfl := Except.ok.inj h
    rfl
  | cons o rest ih =>
    cases ho : readOption strict field o with
    | error e =>
      rw [readSettings_cons_of_problem ho] at h
      cases h
    | ok setting =>
      rw [readSettings_cons_of_setting ho] at h
      obtain ⟨later, hrest, rfl⟩ := map_eq_ok_iff.1 h
      rw [List.any_append, List.any_cons, any_setsNull_of_readOption ho, ih hrest]

-- ---------------------------------------------------------------------------
-- Drafts
-- ---------------------------------------------------------------------------

namespace PendingColumn

/-- The same draft, null also if `admits` says so. -/
def admitting (d : PendingColumn τ) (admits : Bool) : PendingColumn τ :=
  { d with column := d.column.admitting admits }

theorem admitting_false (d : PendingColumn τ) : d.admitting false = d := by
  rw [admitting, Column.admitting_false]

/-- A setting either replaces what was admitted before or leaves it as it is. -/
theorem apply_admitting (d : PendingColumn τ) (s : Setting) (admits : Bool) :
    (d.admitting admits).apply s = (d.apply s).admitting (admits && !s.setsNull) := by
  cases s with
  | nullable value => simp [Setting.setsNull, apply, admitting, Column.admitting]
  | _ => simp only [Setting.setsNull, Bool.not_false, Bool.and_true]; rfl

/-- Settings commute with a change of nullability, unless one of them decides about it. -/
theorem foldl_apply_admitting (settings : List Setting) (d : PendingColumn τ) (admits : Bool) :
    settings.foldl apply (d.admitting admits) =
      (settings.foldl apply d).admitting (admits && !settings.any Setting.setsNull) := by
  induction settings generalizing d admits with
  | nil => simp
  | cons s rest ih =>
    rw [List.foldl_cons, apply_admitting, ih, List.foldl_cons, List.any_cons, Bool.not_or,
      Bool.and_assoc]

/-- Whether a draft has a SQL type does not depend on its nullability. -/
theorem close_admitting (d : PendingColumn τ) (admits : Bool) (unmapped : BuildError) :
    (d.admitting admits).close unmapped =
      (d.close unmapped).map (Option.map (·.admitting admits)) := by
  rw [close, close, admitting]
  cases d.mapped <;> rfl

end PendingColumn

-- ---------------------------------------------------------------------------
-- Columns
-- ---------------------------------------------------------------------------

namespace Column

/-- An optional type makes the column of a field admit null, unless a setting decides about it. -/
theorem finish_admitting (g : TypeGraph τ) (sourceName name : String) (resolved : Resolved τ)
    (admits : Bool) (settings : List Setting) :
    finish g sourceName name (resolved.admitting admits) settings =
      (finish g sourceName name resolved settings).map
        (Option.map (·.admitting (admits && !settings.any Setting.setsNull))) := by
  calc finish g sourceName name (resolved.admitting admits) settings
      = (settings.foldl PendingColumn.apply
          ((PendingColumn.start name sourceName resolved (g.sqlType? resolved.type)).admitting
            admits)).close (.unsupportedType sourceName (g.shape resolved.type).typeName) := rfl
    _ = _ := by
      rw [PendingColumn.foldl_apply_admitting, PendingColumn.close_admitting]
      rfl

variable [DecidableEq τ] {g : TypeGraph τ}

/-- Wrappers around a type leave the column as it is, up to whether it may be null; and an option for
that decides it alone. -/
theorem build_of_stack {w t : τ} {admits : Bool} (h : g.Stack w t admits) (config : Config)
    (sourceName raw : String) :
    build g config sourceName w raw =
      (build g config sourceName t raw).map (Option.map (·.admitting
        (admits && !(Tag.parse raw config.skipMarker).options.any (·.key = "null")))) := by
  cases hname : (Tag.parse raw config.skipMarker).name.columnName? sourceName with
  | none =>
    rw [NameChoice.columnName?_eq_none_iff] at hname
    rw [build_of_skipped hname, build_of_skipped hname]
    rfl
  | some name =>
    rw [build_of_name hname, build_of_name hname, g.resolve_of_stack h]
    cases hsettings : readSettings config.strictOptions sourceName
        (Tag.parse raw config.skipMarker).options with
    | error e => rfl
    | ok settings =>
      rw [← any_setsNull_of_readSettings hsettings]
      exact finish_admitting g sourceName name (g.resolve t) admits settings

end Column

end TableSchema
