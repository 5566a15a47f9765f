import TableSchema.Proofs.Config.Library
import TableSchema.Proofs.Except

/-!
# Converting settings

Each setting is converted on its own. A value that cannot be converted is an error, which says that
the settings could not be loaded; a setting without a value keeps its default.

* `Key.Accepts` — values that can be converted to the type of a setting.
* `Settles`, `LoadsFrom` — settings that each come from a value of their own.
* `Lawful.loadsFrom_fromSettings` — the settings that are read from what was put together do.
-/

namespace TableSchema

open Config

variable {lib : Library}

namespace Config

/-- Whether a value can be converted to the type of a setting. -/
def Key.Accepts (lib : Library) (v : lib.Value) : Key → Prop
  | .tagKey | .skipMarker => ∃ s, lib.text v = .ok s
  | .strictOptions => ∃ b, lib.truth v = .ok b

/-- Settings that each come from a value of their own or are the defaults. -/
structure Settles (lib : Library) (value? : Key → Option lib.Value) (config : Config) : Prop where
  tagKey : field lib.text "ddl" (value? .tagKey) = .ok config.tagKey
  skipMarker : field lib.text "-" (value? .skipMarker) = .ok config.skipMarker
  strictOptions : field lib.truth false (value? .strictOptions) = .ok config.strictOptions

/-- What the message of a failed conversion starts with. -/
def couldNotBeLoaded : String :=
  "Schema configuration could not be loaded from file or environment: "

/-- An outcome that each setting decides for itself. -/
structure LoadsFrom (lib : Library) (value? : Key → Option lib.Value)
    (outcome : Except lib.Error Config) : Prop where
  loads : ∀ config, outcome = .ok config ↔ Settles lib value? config
  fails : (∃ e, outcome = .error e) ↔ ∃ k v, value? k = some v ∧ ¬ k.Accepts lib v
  message : ∀ e, outcome = .error e → ∃ reason,
    e = .message (couldNotBeLoaded ++ lib.wording reason)

-- ---------------------------------------------------------------------------
-- One field
-- ---------------------------------------------------------------------------

section Field

variable {ν ε α : Type} {convert : ν → Except ε α} {default : α} {value? : Option ν}

/-- A field is read unless there is a value that cannot be converted. -/
theorem exists_field_iff :
    (∃ a, field convert default value? = .ok a) ↔ ∀ v, value? = some v → ∃ a, convert v = .ok a := by
  cases value? with
  | none => exact ⟨fun _ _ h => (nomatch h), fun _ => ⟨default, rfl⟩⟩
  | some v => exact ⟨fun h _ hv => Option.some.inj hv ▸ h, fun h => h v rfl⟩

/-- The error of a field is that of its value. -/
theorem field_eq_error_iff {e : ε} :
    field convert default value? = .error e ↔ ∃ v, value? = some v ∧ convert v = .error e := by
  cases value? with
  | none => exact ⟨fun h => (nomatch h), fun ⟨_, h, _⟩ => nomatch h⟩
  | some v => exact ⟨fun h => ⟨v, rfl, h⟩, fun ⟨_, hv, h⟩ => Option.some.inj hv ▸ h⟩

end Field

/-- There are such settings exactly if every value can be converted. -/
theorem exists_settles_iff {value? : Key → Option lib.Value} :
    (∃ config, Settles lib value? config) ↔ ∀ k v, value? k = some v → k.Accepts lib v := by
  constructor
  · rintro ⟨config, htag, hskip, hstrict⟩ k v hv
    cases k with
    | tagKey => exact exists_field_iff.mp ⟨_, htag⟩ v hv
    | skipMarker => exact exists_field_iff.mp ⟨_, hskip⟩ v hv
    | strictOptions => exact exists_field_iff.mp ⟨_, hstrict⟩ v hv
  · intro h
    obtain ⟨tagKey, htag⟩ := exists_field_iff.mpr (h .tagKey)
    obtain ⟨skipMarker, hskip⟩ := exists_field_iff.mpr (h .skipMarker)
    obtain ⟨strictOptions, hstrict⟩ := exists_field_iff.mpr (h .strictOptions)
    exact ⟨⟨tagKey, skipMarker, strictOptions⟩, htag, hskip, hstrict⟩

end Config

namespace Library

-- ---------------------------------------------------------------------------
-- The record of the settings
-- ---------------------------------------------------------------------------

/-- The record of the settings takes the value under each name for the setting of that name. -/
theorem read_configReader_eq_ok_iff {find? : String → Option lib.Value} {config : Config} :
    lib.configReader.read find? = .ok config ↔ Settles lib (fun k => find? k.name) config := by
  constructor
  · intro h
    obtain ⟨tagKey, htag, h⟩ := bind_eq_ok_iff.mp h
    obtain ⟨skipMarker, hskip, h⟩ := bind_eq_ok_iff.mp h
    obtain ⟨strictOptions, hstrict, h⟩ := bind_eq_ok_iff.mp h
    obtain rfl := Except.ok.inj h
    exact ⟨htag, hskip, hstrict⟩
  · rintro ⟨htag, hskip, hstrict⟩
    exact bind_eq_ok_iff.mpr ⟨_, htag, bind_eq_ok_iff.mpr ⟨_, hskip, bind_eq_ok_iff.mpr
      ⟨_, hstrict, rfl⟩⟩⟩

/-- The values of the settings alone decide what is read. -/
theorem read_configReader_congr {find? find?' : String → Option lib.Value}
    (h : ∀ k : Key, find? k.name = find?' k.name) :
    lib.configReader.read find? = lib.configReader.read find?' := by
  have htag : find? "tag_key" = find?' "tag_key" := h .tagKey
  have hskip : find? "skip_marker" = find?' "skip_marker" := h .skipMarker
  have hstrict : find? "strict_options" = find?' "strict_options" := h .strictOptions
  simp only [configReader, htag, hskip, hstrict]

namespace Lawful

variable {view : lib.View} (hlib : lib.Lawful view)

include hlib

/-- A setting that cannot be converted is not for that reason one that was not found. -/
theorem ne_notFound_of_read {find? : String → Option lib.Value} {e : lib.Error}
    (h : lib.configReader.read find? = .error e) (key : String) : e ≠ .notFound key := by
  obtain h | ⟨_, -, h⟩ := bind_eq_error_iff.mp h
  · obtain ⟨v, -, hv⟩ := field_eq_error_iff.mp h
    exact hlib.text_found hv key
  obtain h | ⟨_, -, h⟩ := bind_eq_error_iff.mp h
  · obtain ⟨v, -, hv⟩ := field_eq_error_iff.mp h
    exact hlib.text_found hv key
  obtain h | ⟨_, -, h⟩ := bind_eq_error_iff.mp h
  · obtain ⟨v, -, hv⟩ := field_eq_error_iff.mp h
    exact hlib.truth_found hv key
  · cases h

end Lawful

/-- Any error but that of something not found becomes a message. -/
theorem fromSettings_of_error {s : lib.Settings} {e : lib.Error}
    (h : lib.get lib.configReader s settingsKey = .error e) (hfound : ∀ key, e ≠ .notFound key) :
    lib.fromSettings s = .error (.message (couldNotBeLoaded ++ lib.wording e)) := by
  rw [fromSettings, h]
  cases e with
  | notFound key => exact absurd rfl (hfound key)
  | message text => rfl
  | other fault => rfl

namespace Lawful

variable {view : lib.View} (hlib : lib.Lawful view)

include hlib

/-- The settings are read from the values in their table, and an error becomes a message. If there is
no table, they are read as well, from no values at all. -/
theorem exists_fromSettings_eq {s : lib.Settings} (hs : view.Sectioned s) :
    ∃ detail : lib.Error → lib.Error, lib.fromSettings s =
      (lib.configReader.read (view.find? s)).mapError
        fun e => .message (couldNotBeLoaded ++ lib.wording (detail e)) := by
  cases htop : view.top? s settingsKey with
  | none =>
    have hfind : lib.configReader.read (view.find? s) = lib.configReader.read fun _ => none := by
      refine read_configReader_congr fun k => ?_
      rw [View.find?, htop, Option.bind_none]
    refine ⟨id, ?_⟩
    rw [fromSettings, hlib.get_absent _ htop, hfind]
    rfl
  | some v =>
    obtain ⟨ms, hms⟩ := hs v htop
    have hfind : lib.configReader.read (view.find? s) =
        lib.configReader.read fun name => ms.lookup name := by
      refine read_configReader_congr fun k => ?_
      rw [View.find?, htop, Option.bind_some, hms, Option.bind_some]
    obtain ⟨detail, hdetail, hget⟩ := hlib.get_table lib.configReader htop hms
    refine ⟨detail, ?_⟩
    rw [hfind]
    cases hread : lib.configReader.read fun name => ms.lookup name with
    | ok config =>
      rw [hread] at hget
      rw [fromSettings, hget]
      rfl
    | error e =>
      rw [hread] at hget
      exact fromSettings_of_error hget fun key h =>
        hlib.ne_notFound_of_read hread key (hdetail e key h)

/-- What is put together loads from the values in its table. -/
theorem loadsFrom_fromSettings {s : lib.Settings} (hs : view.Sectioned s) :
    LoadsFrom lib (fun k => view.find? s k.name) (lib.fromSettings s) := by
  obtain ⟨detail, heq⟩ := hlib.exists_fromSettings_eq hs
  have hloads (config : Config) :
      lib.fromSettings s = .ok config ↔ Settles lib (fun k => view.find? s k.name) config := by
    rw [← read_configReader_eq_ok_iff, heq]
    cases lib.configReader.read (view.find? s) <;> simp [Except.mapError]
  refine ⟨hloads, ?_, fun e he => ?_⟩
  · simp only [exists_error_iff, hloads, exists_settles_iff, not_forall, exists_prop]
  · rw [heq] at he
    cases hread : lib.configReader.read (view.find? s) with
    | ok config =>
      rw [hread] at he
      cases he
    | error e' =>
      rw [hread] at he
      exact ⟨detail e', (Except.error.inj he).symm⟩

end Lawful

end Library

end TableSchema
