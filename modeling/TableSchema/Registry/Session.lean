import TableSchema.Config.Shared
import TableSchema.Registry.Basic

/-!
# Sessions

The runs of a program that extracts schemas: it installs and reads the shared configuration, makes
registries, and works on them, in any order. A run is a list of steps, and each step has an answer.

* `Registry.step`, `Registry.run` — work on one registry.
* `Session.step`, `Session.run` — work on the shared configuration and on all registries.
-/

namespace TableSchema

/-- Work on a registry. -/
inductive RegistryStep (τ : Type) where
  | add (root : τ) (options : TableOptions)
  | table (name : String)
  | column (table column : String)
  | tables
  | config
  | document
  | takeTables
deriving DecidableEq, Repr

/-- What a step on a registry answers. -/
inductive RegistryAnswer (τ : Type) where
  | added (result : Except BuildError (Table τ))
  | table (found : Option (Table τ))
  | column (found : Option (Column τ))
  | tables (all : List (Table τ))
  | config (config : Config)
  | document (text : String)

namespace Registry

variable {τ : Type} [DecidableEq τ] (g : TypeGraph τ)

/-- One step on a registry. -/
def step (r : Registry τ) : RegistryStep τ → RegistryAnswer τ × Registry τ
  | .add root options =>
    let (result, r) := r.add g root options
    (.added result, r)
  | .table name => (.table (r.table? name), r)
  | .column table column => (.column ((r.table? table).bind (·.column? column)), r)
  | .tables => (.tables r.tables, r)
  | .config => (.config r.config, r)
  | .document => (.document (r.toJson fun t => (g.shape t).typeName), r)
  | .takeTables =>
    let (tables, r) := r.takeTables
    (.tables tables, r)

/-- What a step reports. -/
def stepEvents (r : Registry τ) : RegistryStep τ → List Event
  | .add root options => r.addEvents g root options
  | _ => []

/-- The answers of a run, and the registry after it. -/
def run (r : Registry τ) : List (RegistryStep τ) → List (RegistryAnswer τ) × Registry τ
  | [] => ([], r)
  | s :: rest =>
    let (answer, r) := r.step g s
    let (answers, r) := run r rest
    (answer :: answers, r)

end Registry

/-- The state of a program: the shared configuration and the registries in the order in which they
were made. -/
structure Session (τ : Type) where
  shared : SharedConfig := {}
  registries : List (Registry τ) := []
deriving DecidableEq, Repr

/-- A step of a program. -/
inductive SessionStep (τ : Type) where
  | install (config : Config)
  | read
  /-- Makes a registry with the shared configuration. -/
  | makeRegistry
  /-- Asks for the defaults. -/
  | defaults
  /-- Works on the registry of a number. -/
  | on (number : Nat) (step : RegistryStep τ)
deriving DecidableEq, Repr

/-- What a step answers. -/
inductive SessionAnswer (τ : Type) where
  | installed (config : Config)
  | rejected (config : Config)
  | shared (config : Config)
  | opened (config : Config)
  | defaults (config : Config)
  | registry (answer : RegistryAnswer τ)
  /-- There is no registry of that number. -/
  | noRegistry

namespace Session

variable {τ : Type} [DecidableEq τ] (g : TypeGraph τ)

/-- One step of a program. -/
def step (s : Session τ) : SessionStep τ → SessionAnswer τ × Session τ
  | .install config =>
    match s.shared.install config with
    | (.ok pinned, shared) => (.installed pinned, { s with shared })
    | (.error argument, shared) => (.rejected argument, { s with shared })
  | .read =>
    let (config, shared) := s.shared.read
    (.shared config, { s with shared })
  | .makeRegistry =>
    let (config, shared) := s.shared.read
    (.opened config, { shared, registries := s.registries ++ [.empty config] })
  | .defaults => (.defaults {}, s)
  | .on number step =>
    match s.registries[number]? with
    | none => (.noRegistry, s)
    | some r =>
      let (answer, r) := r.step g step
      (.registry answer, { s with registries := s.registries.set number r })

/-- What a step reports. -/
def stepEvents (s : Session τ) : SessionStep τ → List Event
  | .on number step => (s.registries[number]?.map (·.stepEvents g step)).getD []
  | _ => []

/-- The answers of a run, and the state after it. -/
def run (s : Session τ) : List (SessionStep τ) → List (SessionAnswer τ) × Session τ
  | [] => ([], s)
  | step :: rest =>
    let (answer, s) := s.step g step
    let (answers, s) := run s rest
    (answer :: answers, s)

end Session

end TableSchema
