import TableSchema.Proofs.Table.Correspondence
import TableSchema.Registry.Session

/-!
# Runs of a registry

What a registry holds and answers in the course of a run. A step either adds a table that can be built
or leaves the registry as it is, so what is registered depends on the additions alone, and each
addition depends on nothing that was done before it.

* `builtTables` — the tables of the additions that succeed.
* `step_eq` — what one step does; `run_append` — a run in two parts.
* `registry_run` — what is registered after a run; `getElem?_answers_run` — what its steps answer.
* `Accounted`, `run_registers_built_tables` — the whole account of a run.
-/

namespace TableSchema

variable {τ : Type} [DecidableEq τ]

-- ---------------------------------------------------------------------------
-- One step
-- ---------------------------------------------------------------------------

namespace RegistryStep

/-- The table that the step adds, if it is an addition that succeeds. -/
def built? (g : TypeGraph τ) (config : Config) : RegistryStep τ → Option (Table τ)
  | .add root options => (Table.build g config root options).toOption
  | _ => none

/-- What the step answers where the given tables are registered. -/
def answer (g : TypeGraph τ) (config : Config) (tables : List (Table τ)) :
    RegistryStep τ → RegistryAnswer τ
  | .add root options => .added (Table.build g config root options)
  | .table name => .table (tables.find? (·.name = name))
  | .column owner name => .column ((tables.find? (·.name = owner)).bind (·.column? name))
  | .tables => .tables tables
  | .config => .config config
  | .document => .document (tablesDocument (fun t => (g.shape t).typeName) tables)
  | .takeTables => .tables tables

end RegistryStep

/-- The tables of the additions that succeed, in their order. -/
def builtTables (g : TypeGraph τ) (config : Config) (steps : List (RegistryStep τ)) :
    List (Table τ) :=
  steps.filterMap (·.built? g config)

namespace Registry

variable {g : TypeGraph τ} {r : Registry τ}

/-- A step answers by the tables that are there and appends the table that it builds. -/
theorem step_eq {s : RegistryStep τ} (hkept : s ≠ .takeTables) :
    r.step g s =
      (s.answer g r.config r.tables,
        { r with tables := r.tables ++ (s.built? g r.config).toList }) := by
  have hsame : ({ r with tables := r.tables ++ [] } : Registry τ) = r := by rw [List.append_nil]
  cases s with
  | add root options =>
    rw [step, add, RegistryStep.answer, RegistryStep.built?]
    cases Table.build g r.config root options with
    | ok table => rfl
    | error e => exact Prod.ext rfl hsame.symm
  | takeTables => exact absurd rfl hkept
  | _ => exact Prod.ext rfl hsame.symm

/-- An addition that fails says why and does nothing. -/
theorem step_add_of_error {root : τ} {options : TableOptions} {e : BuildError}
    (h : Table.build g r.config root options = .error e) :
    r.step g (.add root options) = (.added (.error e), r) := by
  rw [step, add, h]

-- ---------------------------------------------------------------------------
-- Runs
-- ---------------------------------------------------------------------------

theorem run_cons (s : RegistryStep τ) (rest : List (RegistryStep τ)) :
    r.run g (s :: rest) =
      ((r.step g s).1 :: ((r.step g s).2.run g rest).1, ((r.step g s).2.run g rest).2) := by
  rw [run]

/-- A run may be cut in two at any place. -/
theorem run_append (front back : List (RegistryStep τ)) :
    r.run g (front ++ back) =
      ((r.run g front).1 ++ ((r.run g front).2.run g back).1,
        ((r.run g front).2.run g back).2) := by
  induction front generalizing r with
  | nil => rfl
  | cons s rest ih =>
    rw [List.cons_append, run_cons, run_cons, ih, List.cons_append]

/-- Every step has one answer. -/
theorem length_answers_run (steps : List (RegistryStep τ)) :
    (r.run g steps).1.length = steps.length := by
  induction steps generalizing r with
  | nil => rfl
  | cons s rest ih => rw [run_cons, List.length_cons, List.length_cons, ih]

/-- A run keeps the configuration, and adds what its additions build. -/
theorem registry_run {steps : List (RegistryStep τ)} (hkept : .takeTables ∉ steps) :
    (r.run g steps).2 = { r with tables := r.tables ++ builtTables g r.config steps } := by
  induction steps generalizing r with
  | nil =>
    rw [run, builtTables, List.filterMap_nil, List.append_nil]
  | cons s rest ih =>
    rw [List.mem_cons, not_or] at hkept
    obtain ⟨hs, hrest⟩ := hkept
    have hbuilt : builtTables g r.config (s :: rest) =
        (s.built? g r.config).toList ++ builtTables g r.config rest := by
      rw [builtTables, List.filterMap_cons]
      cases s.built? g r.config <;> rfl
    rw [run_cons, step_eq (Ne.symm hs), ih hrest, hbuilt]
    dsimp only
    rw [List.append_assoc]

/-- What a step of a run answers depends on the tables that are built in front of it. -/
theorem getElem?_answers_run {front back : List (RegistryStep τ)} {s : RegistryStep τ}
    (hfront : .takeTables ∉ front) (hs : s ≠ .takeTables) :
    (r.run g (front ++ s :: back)).1[front.length]? =
      some (s.answer g r.config (r.tables ++ builtTables g r.config front)) := by
  have hlength : (r.run g front).1.length = front.length := length_answers_run front
  rw [run_append, run_cons, ← hlength, List.getElem?_append_right (Nat.le_refl _), Nat.sub_self,
    registry_run hfront, step_eq hs]
  rfl

-- ---------------------------------------------------------------------------
-- Looking tables up
-- ---------------------------------------------------------------------------

omit [DecidableEq τ] in
/-- A name means the first table that has it. -/
theorem table?_eq_some_iff {name : String} {t : Table τ} :
    r.table? name = some t ↔
      ∃ before after, r.tables = before ++ t :: after ∧ t.name = name ∧
        ∀ u ∈ before, u.name ≠ name := by
  rw [table?, List.find?_eq_some_iff_append]
  constructor
  · rintro ⟨hname, before, after, htables, hbefore⟩
    exact ⟨before, after, htables, by simpa using hname, by simpa using hbefore⟩
  · rintro ⟨before, after, htables, hname, hbefore⟩
    exact ⟨by simpa using hname, before, after, htables, by simpa using hbefore⟩

omit [DecidableEq τ] in
/-- No table is found under a name that none has. -/
theorem table?_eq_none_iff {name : String} :
    r.table? name = none ↔ ∀ t ∈ r.tables, t.name ≠ name := by
  simp [table?]

/-- A table that is found stays the one that is found. -/
theorem table?_run {steps : List (RegistryStep τ)} {name : String} {t : Table τ}
    (hkept : .takeTables ∉ steps) (h : r.table? name = some t) :
    (r.run g steps).2.table? name = some t := by
  obtain ⟨before, after, htables, hname, hbefore⟩ := table?_eq_some_iff.1 h
  rw [table?_eq_some_iff, registry_run hkept]
  refine ⟨before, after ++ builtTables g r.config steps, ?_, hname, hbefore⟩
  dsimp only
  rw [htables, List.append_assoc, List.cons_append]

-- ---------------------------------------------------------------------------
-- The account of a run
-- ---------------------------------------------------------------------------

/-- What is true of the answers of a run that starts with an empty registry, and of the registry after
it. -/
structure Accounted (g : TypeGraph τ) (config : Config) (steps : List (RegistryStep τ))
    (answers : List (RegistryAnswer τ)) (r : Registry τ) : Prop where
  config_eq : r.config = config
  /-- The tables are those of the additions that can be built, in the order of the additions. -/
  tables_eq : r.tables = builtTables g config steps
  taken : r.takeTables.1 = builtTables g config steps
  /-- A name means the first table that has it. -/
  found : ∀ name t, r.table? name = some t ↔
    ∃ before after, builtTables g config steps = before ++ t :: after ∧ t.name = name ∧
      ∀ u ∈ before, u.name ≠ name
  missing : ∀ name, r.table? name = none ↔ ∀ t ∈ builtTables g config steps, t.name ≠ name
  length_answers : answers.length = steps.length
  /-- Every step answers by the tables that are built in front of it. -/
  answered : ∀ front s back, steps = front ++ s :: back →
    answers[front.length]? = some (s.answer g config (builtTables g config front))
  /-- An addition that cannot be built answers why, and leaves everything as it is. -/
  refused : ∀ front root options back e, steps = front ++ .add root options :: back →
    Table.build g config root options = .error e →
    answers[front.length]? = some (.added (.error e)) ∧
      ((empty config).run g (front ++ [.add root options])).2 = ((empty config).run g front).2
  /-- What a name means, it goes on to mean. -/
  kept : ∀ front back name t, steps = front ++ back →
    ((empty config).run g front).2.table? name = some t → r.table? name = some t

/--
**Runs of a registry.** Every run that starts with an empty registry and does not empty it is accounted
for by its additions: they alone decide what is registered, each of them depends on what is added and
on the configuration only, and all that is looked up is looked up in the tables built so far.
-/
theorem run_registers_built_tables (g : TypeGraph τ) (config : Config)
    (steps : List (RegistryStep τ)) (hkept : .takeTables ∉ steps) :
    Accounted g config steps ((empty config).run g steps).1 ((empty config).run g steps).2 := by
  have hend : ((empty config).run g steps).2 = ⟨config, builtTables g config steps⟩ :=
    registry_run hkept
  have hanswers : ∀ front s back, steps = front ++ s :: back →
      ((empty config).run g steps).1[front.length]? =
        some (s.answer g config (builtTables g config front)) := by
    rintro front s back rfl
    have hfront : .takeTables ∉ front := fun h => hkept (List.mem_append_left _ h)
    have hs : s ≠ .takeTables := by
      rintro rfl
      exact hkept (List.mem_append_right _ List.mem_cons_self)
    exact getElem?_answers_run hfront hs
  constructor
  case config_eq => rw [hend]
  case tables_eq => rw [hend]
  case taken =>
    rw [hend]
    rfl
  case found =>
    intro name t
    rw [table?_eq_some_iff, hend]
  case missing =>
    intro name
    rw [table?_eq_none_iff, hend]
  case length_answers => exact length_answers_run steps
  case answered => exact hanswers
  case refused =>
    intro front root options back e hsteps hproblem
    have hfront : .takeTables ∉ front := fun h => hkept (hsteps ▸ List.mem_append_left _ h)
    have hconfig : ((empty config).run g front).2.config = config := by
      rw [registry_run hfront]
      rfl
    constructor
    · rw [hanswers front _ back hsteps, RegistryStep.answer, hproblem]
    · rw [run_append, run_cons, step_add_of_error (hconfig ▸ hproblem)]
      rfl
  case kept =>
    rintro front back name t rfl hfound
    have hback : .takeTables ∉ back := fun h => hkept (List.mem_append_right _ h)
    rw [run_append]
    exact table?_run hback hfound

/-- The types of a program with notes. -/
inductive NoteType where
  | string
  | note
deriving DecidableEq

/-- A text, and a note that has one. -/
def notes : TypeGraph NoteType where
  shape
    | .string => ⟨"String", .scalar .string, false⟩
    | .note => ⟨"Note", .struct [⟨"text", .string, [("ddl", "body,type=TEXT")], false⟩], false⟩
  reach _ := [.string, .note]
  mem_reach_self t := by cases t <;> decide
  mem_reach_of_mentions {_ _ u} _ _ := by cases u <;> decide

/-- The column of a note. -/
def bodyColumn : Column NoteType :=
  ((PendingColumn.start "body" "text" ⟨.string, false⟩ none).apply (.sqlType "TEXT")).column

theorem build_notes_string (options : TableOptions) :
    Table.build notes {} .string options = .error (.notAStruct "String" (.scalar .string)) := by
  have hstring : notes.resolve .string = ⟨.string, false⟩ := TypeGraph.resolve_of_unwrap?_none rfl
  rw [Table.build_of_kind (by rw [hstring]; decide), hstring]
  rfl

theorem build_notes_note (options : TableOptions) :
    Table.build notes {} .note options = .ok (Table.ofColumns options "Note" [bodyColumn]) := by
  have hnote : notes.resolve .note = ⟨.note, false⟩ := TypeGraph.resolve_of_unwrap?_none rfl
  have hstring : notes.resolve .string = ⟨.string, false⟩ := TypeGraph.resolve_of_unwrap?_none rfl
  have hown : notes.ownFields .note = [⟨"text", .string, [("ddl", "body,type=TEXT")], false⟩] := rfl
  have hfields : notes.columnFields .note = notes.ownFields .note := by
    apply TypeGraph.columnFields_of_not_embeds
    · rintro f hf t ⟨hmark, -, -⟩
      rw [hown, List.mem_singleton] at hf
      rw [hf] at hmark
      cases hmark
    · decide
  have hbody : Column.ofField notes {} ⟨"text", .string, [("ddl", "body,type=TEXT")], false⟩ =
      .ok (some bodyColumn) := by
    rw [Column.ofField, Column.build, hstring]
    decide +kernel
  rw [Table.build_of_struct (by rw [hnote]; rfl), hnote, hfields, hown, columnsOf, hbody]
  rfl

/-- An addition that fails, two notes of one name, and a look at what the name means. -/
def noteSteps : List (RegistryStep NoteType) :=
  [.add .string {}, .add .note {}, .add .note { comment := some "again" }, .table "note"]

/-- The first note is found, and the second one is there as well. -/
theorem run_registers_built_tables_notes :
    ((empty {}).run notes noteSteps).1[0]? =
        some (.added (.error (.notAStruct "String" (.scalar .string)))) ∧
      ((empty {}).run notes noteSteps).2.tables = [Table.ofColumns {} "Note" [bodyColumn],
        Table.ofColumns { comment := some "again" } "Note" [bodyColumn]] ∧
      ((empty {}).run notes noteSteps).2.table? "note" =
        some (Table.ofColumns {} "Note" [bodyColumn]) := by
  have hbuilt : builtTables notes {} noteSteps = [Table.ofColumns {} "Note" [bodyColumn],
      Table.ofColumns { comment := some "again" } "Note" [bodyColumn]] := by
    simp only [noteSteps, builtTables, List.filterMap_cons, RegistryStep.built?,
      build_notes_string, build_notes_note, Except.toOption, List.filterMap_nil]
  have haccount := run_registers_built_tables notes {} noteSteps (by decide)
  have hfailed := haccount.refused [] .string {} _ _ rfl (build_notes_string {})
  refine ⟨hfailed.1, ?_, ?_⟩
  · rw [haccount.tables_eq, hbuilt]
  · rw [haccount.found, hbuilt]
    exact ⟨[], _, rfl, by decide +kernel, by simp⟩

end Registry

end TableSchema
