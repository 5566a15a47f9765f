import TableSchema.Proofs.Column.Strictness
import TableSchema.Proofs.Fields.Correspondence
import TableSchema.Proofs.Tag.RoundTrip

/-!
# Annotations without unknown options

Unknown options can be left out of an annotation by reading it and writing it again without them. In
a program where this is done everywhere, the fields say all that anybody understands, and no more.

* `knownPart` — an annotation without its unknown options.
* `Field.Cleaned` — one field says what is known of what another one says.
* `TypeGraph.withoutUnknownOptions` — a program without unknown options; its fields correspond to
  those of the program with them.
-/

namespace TableSchema

variable {τ : Type}

/-- The annotation without its unknown options. -/
def knownPart (config : Config) (raw : String) : String :=
  (Tag.parse raw config.skipMarker).known.render config.skipMarker

/-- The known part of an annotation is read as the tag without its unknown options. -/
theorem parse_knownPart (config : Config) (raw : String) :
    Tag.parse (knownPart config raw) config.skipMarker =
      (Tag.parse raw config.skipMarker).known := by
  have hwritable := Tag.writable_parse raw config.skipMarker
  exact Tag.parse_render (hwritable.filter_options _)

-- ---------------------------------------------------------------------------
-- Fields
-- ---------------------------------------------------------------------------

namespace Field

/-- The fields differ in their annotations only, and the tag of the second one is that of the first
one without its unknown options. -/
structure Cleaned (config : Config) (f f' : Field τ) : Prop where
  name : f'.name = f.name
  type : f'.type = f.type
  embedded : f'.embedded = f.embedded
  tag : f'.tag config = (f.tag config).known

/-- The field with the unknown options left out of its annotation. -/
def withoutUnknownOptions (config : Config) (f : Field τ) : Field τ :=
  { f with tags := f.tags.map fun (key, raw) =>
      (key, if key = config.tagKey then knownPart config raw else raw) }

/-- Only the annotation under the key of the settings is cleaned. -/
theorem tag?_withoutUnknownOptions (config : Config) (f : Field τ) :
    (f.withoutUnknownOptions config).tag? config.tagKey =
      (f.tag? config.tagKey).map (knownPart config) := by
  rw [tag?, tag?, withoutUnknownOptions]
  dsimp only
  induction f.tags with
  | nil => rfl
  | cons entry rest ih =>
    obtain ⟨key, raw⟩ := entry
    rw [List.map_cons]
    by_cases hkey : key = config.tagKey
    · simp [hkey]
    · have hne : (config.tagKey == key) = false := beq_eq_false_iff_ne.2 (Ne.symm hkey)
      simp only [List.lookup_cons, hne]
      exact ih

/-- A cleaned field says what is known of what it said before. -/
theorem cleaned_withoutUnknownOptions (config : Config) (f : Field τ) :
    f.Cleaned config (f.withoutUnknownOptions config) where
  name := rfl
  type := rfl
  embedded := rfl
  tag := by
    rw [tag, tag, Column.rawTag, Column.rawTag, tag?_withoutUnknownOptions]
    cases f.tag? config.tagKey with
    | none =>
      -- without annotation there are no options to leave out
      rw [Option.map_none, Tag.parse, Tag.segments_eq_pieces]
      rfl
    | some raw => exact parse_knownPart config raw

end Field

-- ---------------------------------------------------------------------------
-- Programs
-- ---------------------------------------------------------------------------

namespace TypeGraph

/-- The same types with the unknown options left out of every annotation. -/
def withoutUnknownOptions (config : Config) (g : TypeGraph τ) : TypeGraph τ :=
  g.mapFields (·.withoutUnknownOptions config) fun _ => rfl

/-- The fields of both programs correspond, each with what is known of its tag. -/
theorem corresponds_withoutUnknownOptions (config : Config) (g : TypeGraph τ) :
    g.Corresponds (g.withoutUnknownOptions config) (Field.Cleaned config) := by
  apply (g.corresponds_mapFields _ _).imp
  rintro - f - - rfl
  exact f.cleaned_withoutUnknownOptions config

end TypeGraph

end TableSchema
