import TableSchema.Config.Basic

/-!
# The shared configuration

A program has one configuration that all of its parts may read. It is pinned once: by the first
installation, or by the first read, which pins the defaults. After that nothing changes it.
-/

namespace TableSchema

/-- The place of the shared configuration, empty until something pins it. -/
structure SharedConfig where
  pinned : Option Config := none
deriving DecidableEq, Repr, Inhabited

namespace SharedConfig

/-- Pins a configuration if nothing is pinned yet. The answer is the pinned configuration, or the
argument back when it came too late. -/
def install (s : SharedConfig) (config : Config) :
    Except Config Config × SharedConfig :=
  match s.pinned with
  | none => (.ok config, ⟨some config⟩)
  | some _ => (.error config, s)

/-- The shared configuration; the defaults are pinned if nothing else was. -/
def read (s : SharedConfig) : Config × SharedConfig :=
  match s.pinned with
  | none => ({}, ⟨some {}⟩)
  | some config => (config, s)

end SharedConfig

end TableSchema
