import TableSchema.Config.Settings
import TableSchema.Text.Lowercase

/-!
# What the settings rely on

Nothing is known of the library behind the settings but what it promises of the calls that the program
makes. The promises are laws here; they speak of settings through what can be seen of them.

* `Key` — the three settings, with their names in a file and in the environment.
* `PlainEnvironment` — environments with at most these three variables of the program.
* `Library.View` — what can be seen of settings.
* `Library.Lawful` — the laws.
-/

namespace TableSchema

namespace Config

/-- The settings of an extraction. -/
inductive Key where
  | tagKey
  | skipMarker
  | strictOptions
deriving DecidableEq, Repr

namespace Key

/-- The name of a setting in the table of the settings. -/
def name : Key → String
  | tagKey => "tag_key"
  | skipMarker => "skip_marker"
  | strictOptions => "strict_options"

/-- The variable of a setting. -/
def variableName : Key → String
  | tagKey => "DDLFORGE__SCHEMA__TAG_KEY"
  | skipMarker => "DDLFORGE__SCHEMA__SKIP_MARKER"
  | strictOptions => "DDLFORGE__SCHEMA__STRICT_OPTIONS"

/-- Different settings have different names. -/
theorem name_injective {k k' : Key} (h : k.name = k'.name) : k = k' := by
  cases k <;> cases k' <;> first | rfl | exact absurd h (by decide)

/-- Different settings have different variables. -/
theorem variableName_injective {k k' : Key} (h : k.variableName = k'.variableName) : k = k' := by
  cases k <;> cases k' <;> first | rfl | exact absurd h (by decide)

/-- There are no more than three settings. -/
theorem exists_iff {p : Key → Prop} :
    (∃ k, p k) ↔ p tagKey ∨ p skipMarker ∨ p strictOptions := by
  refine ⟨fun ⟨k, hk⟩ => ?_, fun h => ?_⟩
  · cases k with
    | tagKey => exact .inl hk
    | skipMarker => exact .inr (.inl hk)
    | strictOptions => exact .inr (.inr hk)
  · obtain h | h | h := h
    · exact ⟨_, h⟩
    · exact ⟨_, h⟩
    · exact ⟨_, h⟩

instance {p : Key → Prop} [DecidablePred p] : Decidable (∃ k, p k) :=
  decidable_of_iff _ exists_iff.symm

end Key

/-- A variable that is none of the program's: its name starts with another root, in whatever case. -/
def ForeignVariable (name : String) : Prop :=
  ¬ (Text.lowercase (variableRoot ++ variableSeparator)).toList.isPrefixOf
    (Text.lowercase name).toList

instance : DecidablePred ForeignVariable :=
  fun _ => inferInstanceAs (Decidable (¬ _))

/-- An environment in which no name stands twice and the variables of the program, if they are there,
are those of its settings. -/
structure PlainEnvironment (environment : List (String × String)) : Prop where
  distinct : (environment.map Prod.fst).Nodup
  plain : ∀ v ∈ environment, (∃ k : Key, v.1 = k.variableName) ∨ ForeignVariable v.1

instance (environment : List (String × String)) : Decidable (PlainEnvironment environment) :=
  decidable_of_iff (_ ∧ _) ⟨fun ⟨distinct, plain⟩ => ⟨distinct, plain⟩, fun h => ⟨h.distinct, h.plain⟩⟩

/-- The variables behind the first one are as plain as all of them. -/
theorem PlainEnvironment.tail {v : String × String} {rest : List (String × String)}
    (h : PlainEnvironment (v :: rest)) : PlainEnvironment rest :=
  ⟨(List.nodup_cons.mp h.distinct).2, fun v' hv' => h.plain v' (List.mem_cons_of_mem v hv')⟩

/-- The name of the first variable does not stand among the others. -/
theorem PlainEnvironment.lookup_tail {v : String × String} {rest : List (String × String)}
    (h : PlainEnvironment (v :: rest)) : rest.lookup v.1 = none := by
  rw [List.lookup_eq_none_iff]
  exact fun v' hv' => bne_iff_ne.mpr fun heq =>
    (List.nodup_cons.mp h.distinct).1 (heq ▸ List.mem_map_of_mem hv')

end Config

open Config

namespace Library

variable {lib : Library}

/-- What can be seen of the settings and values of a library. -/
structure View (lib : Library) where
  /-- The value under a key. -/
  top? : lib.Settings → String → Option lib.Value
  /-- The members of a value, if it is a table. -/
  members? : lib.Value → Option (List (String × lib.Value))
  /-- The value that a variable has for its text. -/
  ofVariable : String → lib.Value

namespace View

variable (view : lib.View)

/-- The value of a name in the table of the settings. -/
def find? (s : lib.Settings) (name : String) : Option lib.Value :=
  (view.top? s settingsKey).bind fun v => (view.members? v).bind fun ms => ms.lookup name

/-- Settings that stand in a table, if there are any. -/
def Sectioned (s : lib.Settings) : Prop :=
  ∀ v, view.top? s settingsKey = some v → ∃ ms, view.members? v = some ms

end View

/-- The laws of a library, for what can be seen of it. -/
structure Lawful (lib : Library) (view : lib.View) : Prop where
  /-- Without a layer there is nothing under any key. -/
  build_nil : ∃ s, lib.build [] = .ok s ∧ ∀ key, view.top? s key = none
  /-- Layers are put together in order, and the first one that cannot be read is an error. -/
  build_append : ∀ {front : List Source} {e : lib.Error} (back : List Source),
    lib.build front = .error e → ∃ e', lib.build (front ++ back) = .error e'
  /-- A file that is absent and not required counts for nothing. -/
  build_absent : ∀ (path : String) (layers : List Source),
    lib.build (.file path none false :: layers) = lib.build layers
  /-- A file that is absent and required is an error. -/
  build_missing : ∀ path : String, ∃ e, lib.build [.file path none true] = .error e
  /-- An environment without variables counts for nothing. -/
  build_no_variables : ∀ layers : List Source,
    lib.build (layers ++ [.ofEnvironment []]) = lib.build layers
  /-- Variables with different names may as well come one after the other. -/
  build_variables : ∀ (layers : List Source) {v : String × String} {rest : List (String × String)},
    PlainEnvironment (v :: rest) → lib.build (layers ++ [.ofEnvironment (v :: rest)]) =
      lib.build ((layers ++ [.ofEnvironment [v]]) ++ [.ofEnvironment rest])
  /-- A variable with another root counts for nothing. -/
  build_foreign : ∀ (layers : List Source) (v : String × String), ForeignVariable v.1 →
    lib.build (layers ++ [.ofEnvironment [v]]) = lib.build layers
  /-- Layers are merged key by key and a later one wins: a variable takes the place of the value of its
  setting, whose name in lower case it spells, and leaves the other settings as they are. -/
  build_variable : ∀ {layers : List Source} {s : lib.Settings} (k : Key) (value : String),
    lib.build layers = .ok s → view.Sectioned s →
      ∃ s', lib.build (layers ++ [.ofEnvironment [(k.variableName, value)]]) = .ok s' ∧
        view.Sectioned s' ∧
          ∀ k' : Key, view.find? s' k'.name =
            if k' = k then some (view.ofVariable value) else view.find? s k'.name
  /-- Where there is nothing, no record is found. -/
  get_absent : ∀ {α : Type} (reader : RecordReader lib.Value lib.Error α) {s : lib.Settings},
    view.top? s settingsKey = none → lib.get reader s settingsKey = .error (.notFound settingsKey)
  /-- A record is read from the members of a table. Its errors get details, but none becomes one of
  something that was not found. -/
  get_table : ∀ {α : Type} (reader : RecordReader lib.Value lib.Error α) {s : lib.Settings}
    {v : lib.Value} {ms : List (String × lib.Value)},
    view.top? s settingsKey = some v → view.members? v = some ms →
      ∃ detail : lib.Error → lib.Error, (∀ e key, detail e = .notFound key → e = .notFound key) ∧
        lib.get reader s settingsKey = (reader.read fun name => ms.lookup name).mapError detail
  /-- A value that is no text is not for that reason a value that was not found. -/
  text_found : ∀ {v : lib.Value} {e : lib.Error}, lib.text v = .error e → ∀ key, e ≠ .notFound key
  /-- A value that is no truth value is not for that reason a value that was not found. -/
  truth_found : ∀ {v : lib.Value} {e : lib.Error}, lib.truth v = .error e → ∀ key, e ≠ .notFound key

end Library

end TableSchema
