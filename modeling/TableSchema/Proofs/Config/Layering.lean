import TableSchema.Proofs.Config.Conversion
import TableSchema.Proofs.Config.Standard

/-!
# Settings from their layers

Each of the three settings has its own value: that of its variable if the environment has it, else
that of the file if the file can be read and has it. Loading fails exactly if one of these values
cannot be converted; otherwise each setting is its converted value, or its default if it has none.

* `sourceValue?`, `effective?` — the values of the settings.
* `Lawful.build_environment` — what an environment does to the settings below it.
* `Lawful.loadEvents_ne_nil_iff` — when a warning is reported.
* `load_layered` — the settings from a file and an environment, and from a file alone.
-/

namespace TableSchema

open Config

variable {lib : Library} {view : lib.View}

namespace Config

/-- The value of a setting in a layer that stands alone, none if the layer cannot be read. -/
def sourceValue? (view : lib.View) (layer : Source) (k : Key) : Option lib.Value :=
  (lib.build [layer]).toOption.bind fun s => view.find? s k.name

/-- The value of a setting: that of the environment before that of the file. -/
def effective? (view : lib.View) (file : Option String) (environment : List (String × String))
    (k : Key) : Option lib.Value :=
  ((environment.lookup k.variableName).map view.ofVariable).or
    (sourceValue? view (.file settingsFile file false) k)

/-- The values of a layer are found in what is built of it alone. -/
theorem sourceValue?_of_ok {layer : Source} {s : lib.Settings} (h : lib.build [layer] = .ok s)
    (k : Key) : sourceValue? view layer k = view.find? s k.name := by
  rw [sourceValue?, h]
  rfl

/-- A layer that cannot be read has no values. -/
theorem sourceValue?_of_error {layer : Source} {e : lib.Error} (h : lib.build [layer] = .error e)
    (k : Key) : sourceValue? view layer k = none := by
  rw [sourceValue?, h]
  rfl

end Config

namespace Library

-- ---------------------------------------------------------------------------
-- The attempts
-- ---------------------------------------------------------------------------

/-- The first attempt counts if it succeeds. -/
theorem load_of_build {file : Option String} {environment : List (String × String)}
    {s : lib.Settings}
    (h : lib.build ([.file settingsFile file false] ++ [.ofEnvironment environment]) = .ok s) :
    lib.load file environment = lib.fromSettings s := by
  rw [load, show lib.build [.file settingsFile file false, .ofEnvironment environment] = .ok s from h]

/-- The second attempt counts if the first one fails. -/
theorem load_of_build_environment {file : Option String} {environment : List (String × String)}
    {e : lib.Error} {s : lib.Settings}
    (hboth : lib.build ([.file settingsFile file false] ++ [.ofEnvironment environment]) = .error e)
    (h : lib.build [.ofEnvironment environment] = .ok s) :
    lib.load file environment = lib.fromSettings s := by
  rw [load,
    show lib.build [.file settingsFile file false, .ofEnvironment environment] = .error e from hboth]
  dsimp only
  rw [h]

/-- Nothing is reported if the first attempt succeeds. -/
theorem loadEvents_of_build {file : Option String} {environment : List (String × String)}
    {s : lib.Settings}
    (h : lib.build ([.file settingsFile file false] ++ [.ofEnvironment environment]) = .ok s) :
    lib.loadEvents file environment = [] := by
  unfold loadEvents
  rw [show lib.build [.file settingsFile file false, .ofEnvironment environment] = .ok s from h]
  split
  · next _ hboth => cases hboth
  · rfl

/-- A file that is there is reported if the first attempt fails. -/
theorem loadEvents_of_error {text : String} {environment : List (String × String)} {e : lib.Error}
    (h : lib.build ([.file settingsFile (some text) false] ++ [.ofEnvironment environment]) =
      .error e) :
    lib.loadEvents (some text) environment = [.fellBack settingsFile (lib.wording e)] := by
  unfold loadEvents
  rw [show lib.build [.file settingsFile (some text) false, .ofEnvironment environment] = .error e
    from h]

/-- A file that can be read is all there is to load from. -/
theorem loadFile_of_ok {path : String} {file : Option String} {s : lib.Settings}
    (h : lib.build [.file path file true] = .ok s) :
    lib.loadFile path file = lib.fromSettings s := by
  rw [loadFile, h]
  rfl

/-- For a file alone there is no second attempt. -/
theorem loadFile_of_error {path : String} {file : Option String} {e : lib.Error}
    (h : lib.build [.file path file true] = .error e) : lib.loadFile path file = .error e := by
  rw [loadFile, h]
  rfl

namespace Lawful

variable (hlib : lib.Lawful view)

include hlib

-- ---------------------------------------------------------------------------
-- The environment
-- ---------------------------------------------------------------------------

/-- A variable changes the setting that it is named for and no other one. -/
theorem build_one_variable {layers : List Source} {s : lib.Settings} {v : String × String}
    (hs : lib.build layers = .ok s) (hsection : view.Sectioned s)
    (hv : (∃ k : Key, v.1 = k.variableName) ∨ ForeignVariable v.1) :
    ∃ s', lib.build (layers ++ [.ofEnvironment [v]]) = .ok s' ∧ view.Sectioned s' ∧
      ∀ k : Key, view.find? s' k.name =
        if v.1 = k.variableName then some (view.ofVariable v.2) else view.find? s k.name := by
  by_cases hnamed : ∃ k : Key, v.1 = k.variableName
  · obtain ⟨k, hk⟩ := hnamed
    obtain ⟨s', hs', hsection', hfind⟩ := hlib.build_variable k v.2 hs hsection
    refine ⟨s', ?_, hsection', fun k' => ?_⟩
    · rw [← hs', ← hk]
    · rw [hfind, hk]
      by_cases hsame : k' = k
      · rw [if_pos hsame, if_pos (congrArg Key.variableName hsame.symm)]
      · rw [if_neg hsame, if_neg fun h => hsame (Key.variableName_injective h.symm)]
  · refine ⟨s, ?_, hsection, fun k => ?_⟩
    · rw [hlib.build_foreign layers v (hv.resolve_left hnamed), hs]
    · rw [if_neg fun h => hnamed ⟨k, h⟩]

/-- An environment can always be put on top, and of each setting the value of its variable counts, if
there is one. -/
theorem build_environment {layers : List Source} {s : lib.Settings}
    (hs : lib.build layers = .ok s) (hsection : view.Sectioned s)
    {environment : List (String × String)} (h : PlainEnvironment environment) :
    ∃ s', lib.build (layers ++ [.ofEnvironment environment]) = .ok s' ∧ view.Sectioned s' ∧
      ∀ k : Key, view.find? s' k.name =
        ((environment.lookup k.variableName).map view.ofVariable).or (view.find? s k.name) := by
  -- Each variable goes on top of the layers and of the variables in front of it.
  induction environment generalizing layers s with
  | nil =>
    refine ⟨s, ?_, hsection, fun k => rfl⟩
    rw [hlib.build_no_variables, hs]
  | cons v rest ih =>
    obtain ⟨s₁, hs₁, hsection₁, hfirst⟩ :=
      hlib.build_one_variable hs hsection (h.plain v List.mem_cons_self)
    obtain ⟨s₂, hs₂, hsection₂, hrest⟩ := ih hs₁ hsection₁ h.tail
    refine ⟨s₂, ?_, hsection₂, fun k => ?_⟩
    · rw [hlib.build_variables layers h, hs₂]
    · rw [hrest, hfirst, List.lookup_cons]
      by_cases hk : v.1 = k.variableName
      · -- No later variable has this name, so this value is the last one.
        rw [if_pos hk, ← hk, h.lookup_tail, beq_self_eq_true]
        rfl
      · rw [if_neg hk, beq_false_of_ne (Ne.symm hk)]

/-- The environment alone, which the second attempt is left with. -/
theorem build_environment_alone {environment : List (String × String)}
    (h : PlainEnvironment environment) :
    ∃ s, lib.build [.ofEnvironment environment] = .ok s ∧ view.Sectioned s ∧
      ∀ k : Key, view.find? s k.name = (environment.lookup k.variableName).map view.ofVariable := by
  obtain ⟨s₀, hs₀, hempty⟩ := hlib.build_nil
  have hsection : view.Sectioned s₀ := fun v hv => by
    rw [hempty] at hv
    cases hv
  obtain ⟨s, hs, hsection, hfind⟩ := hlib.build_environment hs₀ hsection h
  refine ⟨s, hs, hsection, fun k => ?_⟩
  rw [hfind, View.find?, hempty, Option.bind_none, Option.or_none]

-- ---------------------------------------------------------------------------
-- The file
-- ---------------------------------------------------------------------------

/-- An absent file has no values. -/
theorem sourceValue?_absent (path : String) (k : Key) :
    sourceValue? view (.file path none false) k = none := by
  obtain ⟨s₀, hs₀, hempty⟩ := hlib.build_nil
  have hbuild : lib.build [.file path none false] = .ok s₀ := (hlib.build_absent path []).trans hs₀
  rw [sourceValue?_of_ok hbuild, View.find?, hempty, Option.bind_none]

/-- A file that cannot be read counts as one that is absent: both leave the environment alone. -/
theorem load_of_file_error {file : Option String} {environment : List (String × String)}
    {e : lib.Error} (h : PlainEnvironment environment)
    (hfile : lib.build [.file settingsFile file false] = .error e) :
    lib.load file environment = lib.load none environment := by
  obtain ⟨e', he'⟩ := hlib.build_append [.ofEnvironment environment] hfile
  obtain ⟨s, hs, -, -⟩ := hlib.build_environment_alone h
  have habsent : lib.build ([.file settingsFile none false] ++ [.ofEnvironment environment]) = .ok s :=
    (hlib.build_absent settingsFile [.ofEnvironment environment]).trans hs
  rw [load_of_build_environment he' hs, load_of_build habsent]

/-- Loading takes the effective values, with a file that can be read and with one that cannot. -/
theorem loadsFrom_load {file : Option String} {environment : List (String × String)}
    (hfile : ∀ s, lib.build [.file settingsFile file false] = .ok s → view.Sectioned s)
    (h : PlainEnvironment environment) :
    LoadsFrom lib (effective? view file environment) (lib.load file environment) := by
  cases hbuild : lib.build [.file settingsFile file false] with
  | ok s =>
    obtain ⟨s', hs', hsection, hfind⟩ := hlib.build_environment hbuild (hfile s hbuild) h
    have hvalues : effective? view file environment = fun k => view.find? s' k.name := by
      funext k
      rw [effective?, sourceValue?_of_ok hbuild, hfind]
    rw [load_of_build hs', hvalues]
    exact hlib.loadsFrom_fromSettings hsection
  | error e =>
    obtain ⟨e', he'⟩ := hlib.build_append [.ofEnvironment environment] hbuild
    obtain ⟨s, hs, hsection, hfind⟩ := hlib.build_environment_alone h
    have hvalues : effective? view file environment = fun k => view.find? s k.name := by
      funext k
      rw [effective?, sourceValue?_of_error hbuild, hfind, Option.or_none]
    rw [load_of_build_environment he' hs, hvalues]
    exact hlib.loadsFrom_fromSettings hsection

/-- A warning is reported exactly if the file is there and cannot be read: the environment is never the
reason. -/
theorem loadEvents_ne_nil_iff {file : Option String} {environment : List (String × String)}
    (hfile : ∀ s, lib.build [.file settingsFile file false] = .ok s → view.Sectioned s)
    (h : PlainEnvironment environment) :
    lib.loadEvents file environment ≠ [] ↔
      ∃ text e, file = some text ∧ lib.build [.file settingsFile file false] = .error e := by
  cases file with
  | none => exact ⟨fun hne => absurd rfl hne, fun ⟨_, _, htext, _⟩ => nomatch htext⟩
  | some text =>
    cases hbuild : lib.build [.file settingsFile (some text) false] with
    | ok s =>
      obtain ⟨s', hs', -, -⟩ := hlib.build_environment hbuild (hfile s hbuild) h
      rw [loadEvents_of_build hs']
      exact ⟨fun hne => absurd rfl hne, fun ⟨_, _, _, he⟩ => nomatch he⟩
    | error e =>
      obtain ⟨e', he'⟩ := hlib.build_append [.ofEnvironment environment] hbuild
      rw [loadEvents_of_error he']
      exact ⟨fun _ => ⟨text, e, rfl, rfl⟩, fun _ => List.cons_ne_nil _ _⟩

end Lawful

end Library

namespace Config

/-- **Each setting is decided by its own value alone: its variable's if there is one, else the
file's.** With any lawful library, loading fails exactly if one of these values cannot be converted,
and the message says so. A file that cannot be read counts as an absent one, which has no values, and a
value of the file does not matter if its variable is there. Loading from a file alone takes the values
of the file, which must be there and be readable. -/
theorem load_layered (hlib : lib.Lawful view) {file : Option String}
    {environment : List (String × String)}
    (hfile : ∀ s, lib.build [.file settingsFile file false] = .ok s → view.Sectioned s)
    (henvironment : PlainEnvironment environment) :
    LoadsFrom lib (effective? view file environment) (lib.load file environment) ∧
      (∀ k, sourceValue? view (.file settingsFile none false) k = none) ∧
      (∀ e, lib.build [.file settingsFile file false] = .error e →
        lib.load file environment = lib.load none environment) ∧
      (∀ path, ∃ e, lib.loadFile path none = .error e) ∧
      (∀ path text e, lib.build [.file path (some text) true] = .error e →
        lib.loadFile path (some text) = .error e) ∧
      ∀ path text s, lib.build [.file path (some text) true] = .ok s → view.Sectioned s →
        LoadsFrom lib (sourceValue? view (.file path (some text) true))
          (lib.loadFile path (some text)) := by
  refine ⟨hlib.loadsFrom_load hfile henvironment, hlib.sourceValue?_absent settingsFile,
    fun e he => hlib.load_of_file_error henvironment he, fun path => ?_,
    fun path text e => Library.loadFile_of_error, fun path text s hs hsection => ?_⟩
  · obtain ⟨e, he⟩ := hlib.build_missing path
    exact ⟨e, Library.loadFile_of_error he⟩
  · have hvalues : sourceValue? view (.file path (some text) true) = fun k => view.find? s k.name :=
      funext (sourceValue?_of_ok hs)
    rw [Library.loadFile_of_ok hs, hvalues]
    exact hlib.loadsFrom_fromSettings hsection

/-- A file with a value that is no truth value. -/
def doubtfulFile : String :=
  "[schema]\ntag_key = \"db\"\nstrict_options = \"maybe\"\n"

/-- An environment that decides what `doubtfulFile` leaves open. -/
def decidingEnvironment : List (String × String) :=
  [("HOME", "/root"), ("DDLFORGE__SCHEMA__STRICT_OPTIONS", "ON")]

/-- The settings of the file stand in a table, whether it is required or not. -/
theorem sectioned_doubtful (required : Bool) (s : library.Settings)
    (hs : library.build [.file settingsFile (some doubtfulFile) required] = .ok s) :
    (Library.standardView fun _ => "").Sectioned s := by
  have htable : ((library.build [.file settingsFile (some doubtfulFile) false]).toOption.bind fun t =>
      (Tree.member? t settingsKey).bind Tree.members?).isSome = true := by
    decide +kernel
  rw [show library.build [.file settingsFile (some doubtfulFile) false] = .ok s from hs] at htable
  intro v hv
  obtain ⟨ms, hms⟩ := Option.isSome_iff_exists.mp htable
  obtain ⟨t, ht, hms⟩ := Option.bind_eq_some_iff.mp hms
  obtain rfl : s = t := Option.some.inj ht
  obtain ⟨v', hv', hmembers⟩ := Option.bind_eq_some_iff.mp hms
  exact ⟨ms, Option.some.inj (hv'.symm.trans hv) ▸ hmembers⟩

theorem plainEnvironment_deciding : PlainEnvironment decidingEnvironment := by
  decide +kernel

/-- The environment overrides a value that alone would be refused. -/
theorem load_layered_doubtful :
    load (some doubtfulFile) decidingEnvironment = .ok ⟨"db", "-", true⟩ ∧
      ∃ e, loadFile (some doubtfulFile) = .error e := by
  obtain ⟨hload, -, -, -, -, hloadFile⟩ := load_layered (Library.standard_lawful fun _ => "")
    (sectioned_doubtful false) plainEnvironment_deciding
  constructor
  · exact (hload.loads _).mpr ⟨eq_ok_of_toOption (by decide +kernel),
      eq_ok_of_toOption (by decide +kernel), eq_ok_of_toOption (by decide +kernel)⟩
  · have hread : (library.build [.file settingsFile (some doubtfulFile) true]).toOption.isSome := by
      decide +kernel
    obtain ⟨s, hs⟩ := Option.isSome_iff_exists.mp hread
    have hbuild := eq_ok_of_toOption hs
    have hrefused : ∃ v ∈ sourceValue? (Library.standardView fun _ => "")
        (.file settingsFile (some doubtfulFile) true) .strictOptions,
        (Tree.toBool v).toOption = none := by
      decide +kernel
    obtain ⟨v, hv, hnone⟩ := hrefused
    refine (hloadFile settingsFile doubtfulFile s hbuild (sectioned_doubtful true s hbuild)).fails.mpr
      ⟨.strictOptions, v, hv, ?_⟩
    rintro ⟨b, hb⟩
    rw [show Tree.toBool v = .ok b from hb] at hnone
    cases hnone

end Config

end TableSchema
