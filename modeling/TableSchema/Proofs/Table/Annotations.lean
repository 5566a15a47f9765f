import TableSchema.Proofs.Table.Correspondence

/-!
# Annotations and tables

A field may have many annotations, under many keys. A table reads one of them: the first one under the
configured key, and of a field that embeds a structured type not even that. Two programs that agree on
what is read have the same tables, and it makes no difference how the configured key is called.

* `Field.SameUnder` — fields that differ in annotations that are not read.
* `Retagged` — fields that differ in annotations that no table reads.
* `moveTags` — a program with all annotations of one key stored under another one.
* `only_configured_annotations_count` — what is visible, and what tables there are.
-/

namespace TableSchema

variable {τ : Type}

-- ---------------------------------------------------------------------------
-- Fields
-- ---------------------------------------------------------------------------

namespace Field

/-- The fields differ in their annotations only, and the first annotation under `key` of the one is
the first annotation under `key'` of the other. -/
structure SameUnder (key key' : String) (f f' : Field τ) : Prop where
  name : f'.name = f.name
  type : f'.type = f.type
  embedded : f'.embedded = f.embedded
  annotation : f'.tag? key' = f.tag? key

/-- The field with its annotations under `key` stored under `key'`. -/
def moveTags (key key' : String) (f : Field τ) : Field τ :=
  { f with tags := f.tags.map fun tag => (if tag.1 = key then key' else tag.1, tag.2) }

/-- Annotations that are moved to a free key are found there, in their order. -/
theorem tag?_moveTags {key key' : String} {f : Field τ} (hfree : ∀ tag ∈ f.tags, tag.1 ≠ key') :
    (f.moveTags key key').tag? key' = f.tag? key := by
  have hlookup : ∀ tags : List (String × String), (∀ tag ∈ tags, tag.1 ≠ key') →
      (tags.map fun tag => (if tag.1 = key then key' else tag.1, tag.2)).lookup key' =
        tags.lookup key := by
    intro tags hfree
    induction tags with
    | nil => rfl
    | cons tag rest ih =>
      obtain ⟨own, raw⟩ := tag
      obtain ⟨hown, hrest⟩ := List.forall_mem_cons.1 hfree
      rw [List.map_cons, List.lookup_cons, List.lookup_cons, ih hrest]
      by_cases hkey : own = key
      · simp [hkey]
      · have hold : (key == own) = false := beq_eq_false_iff_ne.2 (Ne.symm hkey)
        have hnew : (key' == own) = false := beq_eq_false_iff_ne.2 (Ne.symm hown)
        simp [hkey, hold, hnew]
  exact hlookup f.tags hfree

end Field

-- ---------------------------------------------------------------------------
-- Programs
-- ---------------------------------------------------------------------------

namespace TypeGraph

/-- The same types with all annotations under `key` stored under `key'`. -/
def moveTags (g : TypeGraph τ) (key key' : String) : TypeGraph τ :=
  g.mapFields (·.moveTags key key') fun _ => rfl

variable {g g' : TypeGraph τ} {config : Config} {key key' : String}

/-- Moving annotations to a key that nobody uses gives a program whose fields say the same under the
new key. -/
theorem corresponds_moveTags (hfree : ∀ t, ∀ f ∈ g.ownFields t, ∀ tag ∈ f.tags, tag.1 ≠ key') :
    g.Corresponds (g.moveTags key key') (Field.SameUnder key key') := by
  apply (g.corresponds_mapFields _ _).imp
  rintro t f hf - rfl
  exact ⟨rfl, rfl, rfl, Field.tag?_moveTags (hfree t f hf)⟩

variable [DecidableEq τ]

variable (g) in
/-- The fields differ in their annotations only, and they agree on the first one under their keys
unless they embed a structured type. -/
structure Retagged (key key' : String) (f f' : Field τ) : Prop where
  name : f'.name = f.name
  type : f'.type = f.type
  embedded : f'.embedded = f.embedded
  annotation : (∀ t, ¬ g.Embeds f t) → f'.tag? key' = f.tag? key

/-- New annotations leave a field where it is. -/
theorem Retagged.keepsPlace {f f' : Field τ} (h : g.Retagged key key' f f') : g.KeepsPlace f f' where
  name := h.name
  embedded := h.embedded
  base _ := by rw [h.type]

/-- Fields that say the same under two keys differ in annotations only. -/
theorem retagged_of_sameUnder {f f' : Field τ} (h : Field.SameUnder key key' f f') :
    g.Retagged key key' f f' :=
  ⟨h.name, h.type, h.embedded, fun _ => h.annotation⟩

/-- What a table reads of the annotations is the same, so the tables are the same. -/
theorem Corresponds.tableBuild_eq_of_retagged
    (h : g.Corresponds g' (g.Retagged config.tagKey key)) (root : τ) (options : TableOptions) :
    Table.build g' { config with tagKey := key } root options =
      Table.build g config root options := by
  apply h.tableBuild_eq fun _ _ => Retagged.keepsPlace
  intro f f' hnot hf
  have hraw : Column.rawTag { config with tagKey := key } f' = Column.rawTag config f := by
    rw [Column.rawTag, Column.rawTag, hf.annotation hnot]
  rw [Column.ofField, Column.ofField, hraw, hf.name, hf.type]
  -- the key is used to find the annotation and for nothing else
  exact h.columnBuild_eq config f.name f.type (Column.rawTag config f)

/-- Where annotations are stored does not decide what is visible. -/
theorem visibleFields_moveTags (g : TypeGraph τ) (key key' : String) (t : τ) :
    (g.moveTags key key').visibleFields t =
      (g.visibleFields t).map fun o => { o with field := o.field.moveTags key key' } := by
  have hcorresponds : g.Corresponds (g.moveTags key key') (fun f f' => f' = f.moveTags key key') :=
    g.corresponds_mapFields _ _
  have hplace : ∀ f f' : Field τ, f' = f.moveTags key key' → g.KeepsPlace f f' := by
    rintro f - rfl
    exact ⟨rfl, rfl, fun _ => rfl⟩
  have hmatch := hcorresponds.forall₂_visibleFields hplace t
  symm
  rw [← List.forall₂_eq_eq_eq, List.forall₂_map_left_iff]
  apply hmatch.imp
  rintro ⟨f, depth, promoted⟩ ⟨f', depth', promoted'⟩ ⟨hfield, hdepth, hpromoted⟩
  dsimp only at hfield hdepth hpromoted
  rw [hfield, hdepth, hpromoted]

/--
**Only the configured annotation counts.** Programs whose fields differ in annotations only, and not
in the first one under the configured key, show corresponding fields at the same places and have the
same tables, or none for the same reason. If all annotations under the configured key are moved to a
key that no field uses and that key is configured, the same fields are visible and the tables stay
what they are.
-/
theorem only_configured_annotations_count (g : TypeGraph τ) (config : Config) :
    (∀ g', g.Corresponds g' (Field.SameUnder config.tagKey config.tagKey) →
      (∀ t, List.Forall₂ (Occurrence.Matches (Field.SameUnder config.tagKey config.tagKey))
        (g.visibleFields t) (g'.visibleFields t)) ∧
      ∀ root options, Table.build g' config root options = Table.build g config root options) ∧
    ∀ key, (∀ t, ∀ f ∈ g.ownFields t, ∀ tag ∈ f.tags, tag.1 ≠ key) →
      (∀ t, (g.moveTags config.tagKey key).visibleFields t =
        (g.visibleFields t).map fun o => { o with field := o.field.moveTags config.tagKey key }) ∧
      ∀ root options,
        Table.build (g.moveTags config.tagKey key) { config with tagKey := key } root options =
          Table.build g config root options := by
  constructor
  · intro g' h
    have hplace : ∀ f f', Field.SameUnder config.tagKey config.tagKey f f' → g.KeepsPlace f f' :=
      fun _ _ hf => (retagged_of_sameUnder hf).keepsPlace
    have hretagged : g.Corresponds g' (g.Retagged config.tagKey config.tagKey) :=
      h.imp fun _ _ _ _ hf => retagged_of_sameUnder hf
    exact ⟨h.forall₂_visibleFields hplace, hretagged.tableBuild_eq_of_retagged⟩
  · intro key hfree
    have hretagged : g.Corresponds (g.moveTags config.tagKey key) (g.Retagged config.tagKey key) :=
      (corresponds_moveTags hfree).imp fun _ _ _ _ hf => retagged_of_sameUnder hf
    exact ⟨g.visibleFields_moveTags config.tagKey key, hretagged.tableBuild_eq_of_retagged⟩

/-- A list of titles, each entry of which embeds the next one; the title has the given
annotations. -/
def titleList (tags : List (String × String)) : TypeGraph (Fin 3) :=
  .ofShapes #v[
    ⟨"String", .scalar .string, false⟩,
    ⟨"Entry", .struct [⟨"title", 0, tags, false⟩, ⟨"next", 2, [], true⟩], false⟩,
    ⟨"Option<Entry>", .pointer 1 true, false⟩]

/-- Notes under another key and a second annotation under the configured key are not read, and the key
may be another one. -/
theorem only_configured_annotations_count_titleList :
    (titleList [("ddl", "name,size=9"), ("json", "t")]).Corresponds
      (titleList [("note", "long"), ("ddl", "name,size=9"), ("ddl", "-")])
      (Field.SameUnder "ddl" "ddl") ∧
    Table.build (titleList [("note", "long"), ("ddl", "name,size=9"), ("ddl", "-")]) {} 1 {} =
      Table.build (titleList [("ddl", "name,size=9"), ("json", "t")]) {} 1 {} ∧
    Table.build ((titleList [("ddl", "name,size=9"), ("json", "t")]).moveTags "ddl" "orm")
        { tagKey := "orm" } 2 {} =
      Table.build (titleList [("ddl", "name,size=9"), ("json", "t")]) {} 2 {} := by
  obtain ⟨hsame, hmoved⟩ :=
    only_configured_annotations_count (titleList [("ddl", "name,size=9"), ("json", "t")]) {}
  have hcorresponds : (titleList [("ddl", "name,size=9"), ("json", "t")]).Corresponds
      (titleList [("note", "long"), ("ddl", "name,size=9"), ("ddl", "-")])
      (Field.SameUnder "ddl" "ddl") :=
    { outline := fun | 0 | 1 | 2 => rfl
      fields := fun
        | 0 | 2 => .nil
        | 1 => .cons ⟨rfl, rfl, rfl, rfl⟩ (.cons ⟨rfl, rfl, rfl, rfl⟩ .nil) }
  have hfree : ∀ t, ∀ f ∈ (titleList [("ddl", "name,size=9"), ("json", "t")]).ownFields t,
      ∀ tag ∈ f.tags, tag.1 ≠ "orm" := by
    decide +kernel
  exact ⟨hcorresponds, (hsame _ hcorresponds).2 1 {}, (hmoved "orm" hfree).2 2 {}⟩

end TypeGraph

end TableSchema
