import TableSchema.Config.Load
import TableSchema.Proofs.Config.Library
import TableSchema.Proofs.Members

/-!
# The library that runs is lawful

A tree of settings is built layer by layer. The variable of a setting leads to one member of the table
of the settings and changes nothing else; any other variable is left out.

* `Library.standardView` — what can be seen of a tree.
* `Tree.sectionMembers_putVariable` — what a variable does.
* `Library.standard_lawful` — the laws.
-/

namespace TableSchema

open Config

namespace Config

-- ---------------------------------------------------------------------------
-- The table of the settings
-- ---------------------------------------------------------------------------

namespace Tree

/-- The members of a tree, if it is a table. -/
def members? : Tree → Option (List (String × Tree))
  | .table _ members => some members
  | _ => none

/-- The members of the table of the settings, none if there is no such table. -/
def sectionMembers (t : Tree) : List (String × Tree) :=
  ((t.member? settingsKey).bind members?).getD []

/-- The members of a tree whose members are changed. -/
theorem members?_mapMembers (t : Tree) (f : List (String × Tree) → List (String × Tree)) :
    (t.mapMembers f).members? = some (f (t.members?.getD [])) := by
  cases t <;> rfl

/-- A member of a tree is one of its members. -/
theorem member?_eq (t : Tree) (name : String) : t.member? name = (t.members?.getD []).lookup name := by
  cases t <;> rfl

end Tree

/-- The key of the settings is in lower case. -/
theorem lowercase_settingsKey : Text.lowercase settingsKey = settingsKey := by
  decide +kernel

/-- The names of the settings are in lower case. -/
theorem Key.lowercase_name (k : Key) : Text.lowercase k.name = k.name := by
  cases k <;> decide +kernel

-- ---------------------------------------------------------------------------
-- Variables
-- ---------------------------------------------------------------------------

/-- The variable of a setting spells the path to it. -/
theorem variablePath?_variableName (k : Key) :
    variablePath? variableRoot variableSeparator k.variableName =
      some [.name settingsKey, .name k.name] := by
  cases k <;> decide +kernel

/-- A variable with another root is left out. -/
theorem ForeignVariable.putVariable_eq {v : String × String} (h : ForeignVariable v.1) (t : Tree) :
    t.putVariable variableRoot variableSeparator v = t := by
  have hnone : variablePath? variableRoot variableSeparator v.1 = none := if_neg h
  rw [Tree.putVariable, hnone]

namespace Tree

theorem putEnvironment_nil (t : Tree) (root separator : String) :
    t.putEnvironment root separator [] = t :=
  List.foldl_nil

theorem putEnvironment_cons (t : Tree) (root separator : String) (v : String × String)
    (rest : List (String × String)) :
    t.putEnvironment root separator (v :: rest) =
      (t.putVariable root separator v).putEnvironment root separator rest :=
  List.foldl_cons ..

/-- A text that is put at the path of a setting is written into the table of the settings. -/
theorem putAt_setting (t : Tree) (k : Key) (origin : Origin) (value : String) :
    (Tree.text origin value).putAt t [.name settingsKey, .name k.name] =
      t.mapMembers fun ms => overwrite settingsKey
        (((ms.lookup settingsKey).getD .nothing).mapMembers (overwrite k.name (.text origin value)))
        ms := by
  simp only [putAt, put, lowercase_settingsKey, k.lowercase_name]

/-- The variable of a setting changes that one member of the table of the settings. -/
theorem member?_putVariable (t : Tree) (k : Key) (value : String) :
    ∃ u, (t.putVariable variableRoot variableSeparator (k.variableName, value)).member? settingsKey =
        some u ∧
      u.members? = some (overwrite k.name (.text .environment value) t.sectionMembers) := by
  have hput : t.putVariable variableRoot variableSeparator (k.variableName, value) =
      (Tree.text .environment value).putAt t [.name settingsKey, .name k.name] := by
    rw [putVariable, variablePath?_variableName]
  refine ⟨((t.member? settingsKey).getD .nothing).mapMembers
    (overwrite k.name (.text .environment value)), ?_, ?_⟩
  · rw [hput, putAt_setting, member?_eq, members?_mapMembers, Option.getD_some,
      lookup_overwrite_self, member?_eq]
  · rw [members?_mapMembers, sectionMembers]
    cases t.member? settingsKey <;> rfl

/-- The table of the settings afterwards: one of its members is written. -/
theorem sectionMembers_putVariable (t : Tree) (k : Key) (value : String) :
    (t.putVariable variableRoot variableSeparator (k.variableName, value)).sectionMembers =
      overwrite k.name (.text .environment value) t.sectionMembers := by
  obtain ⟨u, hu, hmembers⟩ := t.member?_putVariable k value
  rw [sectionMembers, hu, Option.bind_some, hmembers, Option.getD_some]

end Tree

-- ---------------------------------------------------------------------------
-- Errors
-- ---------------------------------------------------------------------------

/-- The error of a tree that is no text is about its type. -/
theorem Tree.ne_notFound_of_toText {t : Tree} {e : ConfigError Fault} (h : t.toText = .error e)
    (key : String) : e ≠ .notFound key := by
  rintro rfl
  cases t <;> cases h

/-- The error of a tree that is no truth value is about its type. -/
theorem Tree.ne_notFound_of_toBool {t : Tree} {e : ConfigError Fault} (h : t.toBool = .error e)
    (key : String) : e ≠ .notFound key := by
  rintro rfl
  cases t with
  | text origin s =>
    rw [toBool] at h
    split at h <;> cases h
  | _ => cases h

/-- The key of a record is put into errors about types only. -/
theorem Fault.eq_notFound_of_underKey {key key' : String} {e : ConfigError Fault}
    (h : Fault.underKey key e = .notFound key') : e = .notFound key' := by
  unfold Fault.underKey at h
  split at h
  · cases h
  · exact h

end Config

-- ---------------------------------------------------------------------------
-- Layers
-- ---------------------------------------------------------------------------

namespace Library

variable (others : ConfigError Config.Fault → String)

/-- What can be seen of a tree of settings. -/
abbrev standardView : (standard others).View where
  top? := Tree.member?
  members? := Tree.members?
  ofVariable := Tree.text .environment

/-- The values of a tree are found among the members of the table of the settings. -/
theorem find?_standardView (t : Tree) (name : String) :
    (standardView others).find? t name = t.sectionMembers.lookup name := by
  rw [View.find?, Tree.sectionMembers]
  show (t.member? settingsKey).bind (fun v => v.members?.bind fun ms => ms.lookup name) = _
  cases t.member? settingsKey with
  | none => rfl
  | some v => cases v <;> rfl

/-- An environment on top of layers is put on top of their tree. -/
theorem build_standard_environment (layers : List Source) (environment : List (String × String)) :
    (standard others).build (layers ++ [.ofEnvironment environment]) =
      (fun t : Tree => t.putEnvironment variableRoot variableSeparator environment) <$>
        (standard others).build layers := by
  show (layers ++ [_]).foldlM Tree.putSource Tree.root = _ <$> layers.foldlM Tree.putSource Tree.root
  rw [List.foldlM_append]
  cases layers.foldlM Tree.putSource Tree.root <;> rfl

/-- **The library that runs keeps the laws.** -/
theorem standard_lawful : (standard others).Lawful (standardView others) where
  build_nil := ⟨Tree.root, rfl, fun _ => rfl⟩
  build_append {front e} back h := by
    refine ⟨e, ?_⟩
    show (front ++ back).foldlM Tree.putSource Tree.root = _
    rw [List.foldlM_append]
    exact congrArg (· >>= fun t => back.foldlM Tree.putSource t) h
  build_absent _ _ := rfl
  build_missing _ := ⟨_, rfl⟩
  build_no_variables layers := by
    rw [build_standard_environment]
    simp only [Tree.putEnvironment_nil, id_map']
  build_variables layers v rest _ := by
    rw [build_standard_environment, build_standard_environment, build_standard_environment]
    simp only [Tree.putEnvironment_cons, Tree.putEnvironment_nil, Functor.map_map]
  build_foreign layers v hv := by
    rw [build_standard_environment]
    simp only [Tree.putEnvironment_cons, Tree.putEnvironment_nil, hv.putVariable_eq, id_map']
  build_variable {layers t} k value h _ := by
    obtain ⟨u, hu, hmembers⟩ := t.member?_putVariable k value
    refine ⟨t.putVariable variableRoot variableSeparator (k.variableName, value), ?_,
      fun u' hu' => ?_, fun k' => ?_⟩
    · rw [build_standard_environment, h]
      exact congrArg Except.ok (t.putEnvironment_cons variableRoot variableSeparator _ [])
    · have hsame : u = u' := Option.some.inj (hu.symm.trans hu')
      exact ⟨_, hsame ▸ hmembers⟩
    · rw [find?_standardView, find?_standardView, Tree.sectionMembers_putVariable]
      by_cases hk : k' = k
      · rw [if_pos hk, hk, lookup_overwrite_self]
      · rw [if_neg hk, lookup_overwrite_of_ne _ fun h => hk (Key.name_injective h)]
  get_absent reader t h := by
    show Config.Tree.get reader t settingsKey = _
    rw [Config.Tree.get, show t.member? settingsKey = none from h]
  get_table reader t v ms htop hms := by
    refine ⟨Fault.underKey settingsKey, fun e key => Fault.eq_notFound_of_underKey, ?_⟩
    show Config.Tree.get reader t settingsKey = _
    rw [Config.Tree.get, show t.member? settingsKey = some v from htop]
    cases v with
    | table origin members =>
      obtain rfl : members = ms := Option.some.inj hms
      rfl
    | _ => cases hms
  text_found := Tree.ne_notFound_of_toText
  truth_found := Tree.ne_notFound_of_toBool

end Library

end TableSchema
