import Mathlib.Data.List.Forall2
import TableSchema.Column.SqlType
import TableSchema.Proofs.Fields.Route
import TableSchema.Proofs.Fields.Shadowing
import TableSchema.Proofs.Types.Wrapping

/-!
# Type graphs with corresponding fields

Two programs may have the same types with fields that differ in some way: other annotations, other
wrappers around a field's type. What a relation between their fields keeps is kept by all that is
built from them. Here the programs share the identities of their types.

* `Corresponds` — the types are the same up to their fields, and these are related one by one.
* `mapFields` — a program with every field changed by one function.
* `KeepsPlace` — the fields do not differ in what decides where fields are.
* `forall₂_visibleFields` — then the visible fields are related one by one, at the same places.
* `forall₂_columnFields` — the same for the candidates for columns.
-/

namespace TableSchema

variable {τ : Type}

-- ---------------------------------------------------------------------------
-- Types without their fields
-- ---------------------------------------------------------------------------

/-- What is known about a structure without its fields. -/
def Body.outline : Body τ → Body τ
  | .struct _ => .struct []
  | body => body

/-- What is known about a type without its fields. -/
def Shape.outline (s : Shape τ) : Shape τ :=
  { s with body := s.body.outline }

theorem Body.kind_outline (b : Body τ) : b.outline.kind = b.kind := by
  cases b <;> rfl

theorem Body.unwrap?_outline (b : Body τ) : b.outline.unwrap? = b.unwrap? := by
  cases b <;> rfl

/-- The bodies with fields are the structures. -/
theorem Body.isSome_fields?_iff {b : Body τ} : b.fields?.isSome = true ↔ b.kind = .struct := by
  cases b <;> simp [fields?, kind]

/-- A scalar body is known by its outline. -/
theorem Body.outline_eq_scalar_iff {b : Body τ} {s : Scalar} :
    b.outline = .scalar s ↔ b = .scalar s := by
  cases b <;> simp [outline]

namespace TypeGraph

/-- The types of the two graphs are the same up to the fields of the structured ones, and their fields
are related one by one. -/
structure Corresponds (g g' : TypeGraph τ) (R : Field τ → Field τ → Prop) : Prop where
  outline : ∀ t, (g'.shape t).outline = (g.shape t).outline
  fields : ∀ t, List.Forall₂ R (g.ownFields t) (g'.ownFields t)

namespace Corresponds

variable {g g' : TypeGraph τ} {R : Field τ → Field τ → Prop} (h : g.Corresponds g' R)
include h

theorem typeName_eq (t : τ) : (g'.shape t).typeName = (g.shape t).typeName := by
  simpa [Shape.outline] using congrArg Shape.typeName (h.outline t)

theorem json_eq (t : τ) : (g'.shape t).json = (g.shape t).json := by
  simpa [Shape.outline] using congrArg Shape.json (h.outline t)

theorem body_outline_eq (t : τ) : (g'.shape t).body.outline = (g.shape t).body.outline := by
  simpa [Shape.outline] using congrArg Shape.body (h.outline t)

/-- Types that correspond are of the same kind. -/
theorem kind_eq (t : τ) : (g'.shape t).body.kind = (g.shape t).body.kind := by
  rw [← Body.kind_outline, h.body_outline_eq, Body.kind_outline]

/-- They wrap the same types. -/
theorem unwrap?_eq (t : τ) : g'.unwrap? t = g.unwrap? t := by
  rw [unwrap?, unwrap?, ← Body.unwrap?_outline, h.body_outline_eq, Body.unwrap?_outline]

/-- They both have fields or both have none. -/
theorem isSome_fields?_iff (t : τ) :
    (g'.fields? t).isSome = true ↔ (g.fields? t).isSome = true := by
  rw [fields?, fields?, Body.isSome_fields?_iff, Body.isSome_fields?_iff, h.kind_eq]

theorem isUnsignedByte_eq (t : τ) : g'.isUnsignedByte t = g.isUnsignedByte t := by
  rw [Bool.eq_iff_iff, isUnsignedByte_iff, isUnsignedByte_iff, ← Body.outline_eq_scalar_iff,
    h.body_outline_eq, Body.outline_eq_scalar_iff]

/-- They have the same SQL type. -/
theorem sqlType?_eq (t : τ) : g'.sqlType? t = g.sqlType? t := by
  have hbody : g'.bodySqlType? (g'.shape t).body = g.bodySqlType? (g.shape t).body := by
    have houtline : ∀ (g : TypeGraph τ) (b : Body τ), g.bodySqlType? b = g.bodySqlType? b.outline := by
      intro g b
      cases b <;> rfl
    rw [houtline, h.body_outline_eq, ← houtline]
    cases (g.shape t).body <;> simp only [bodySqlType?, h.isUnsignedByte_eq]
  rw [sqlType?, sqlType?, hbody, h.json_eq]

/-- They are resolved to the same types. -/
theorem resolve_eq [DecidableEq τ] (t : τ) : g'.resolve t = g.resolve t :=
  resolve_congr h.unwrap?_eq t

/-- What holds of related fields of one type may be added to their relation. -/
theorem imp {S : Field τ → Field τ → Prop}
    (hS : ∀ t, ∀ f ∈ g.ownFields t, ∀ f', R f f' → S f f') : g.Corresponds g' S where
  outline := h.outline
  fields t := by
    have hmember : List.Forall₂ (fun f f' => f ∈ g.ownFields t ∧ R f f') (g.ownFields t)
        (g'.ownFields t) := (List.forall₂_and_left _ _).2 ⟨fun _ hf => hf, h.fields t⟩
    exact hmember.imp fun f f' hf => hS t f hf.1 f' hf.2

end Corresponds

end TypeGraph

-- ---------------------------------------------------------------------------
-- Changing every field
-- ---------------------------------------------------------------------------

/-- The body with every field changed. -/
def Body.mapFields (change : Field τ → Field τ) : Body τ → Body τ
  | .struct fields => .struct (fields.map change)
  | body => body

/-- Changing fields does not change the outline of a body. -/
theorem Body.outline_mapFields (change : Field τ → Field τ) (b : Body τ) :
    (b.mapFields change).outline = b.outline := by
  cases b <;> rfl

theorem Body.fields?_mapFields (change : Field τ → Field τ) (b : Body τ) :
    (b.mapFields change).fields? = b.fields?.map (List.map change) := by
  cases b <;> rfl

/-- Changing fields up to their types does not change what a body mentions. -/
theorem Body.mentions_mapFields {change : Field τ → Field τ} (h : ∀ f, (change f).type = f.type)
    (b : Body τ) : (b.mapFields change).mentions = b.mentions := by
  cases b with
  | struct fields =>
    rw [mapFields, mentions, mentions, List.map_map]
    exact List.map_congr_left fun f _ => h f
  | _ => rfl

namespace TypeGraph

/-- The same types with every field changed, up to its type. -/
def mapFields (g : TypeGraph τ) (change : Field τ → Field τ) (h : ∀ f, (change f).type = f.type) :
    TypeGraph τ where
  shape t := { g.shape t with body := (g.shape t).body.mapFields change }
  reach := g.reach
  mem_reach_self := g.mem_reach_self
  mem_reach_of_mentions ht hu :=
    g.mem_reach_of_mentions ht (Body.mentions_mapFields h _ ▸ hu)

/-- A program corresponds to the one with every field changed, by the change itself. -/
theorem corresponds_mapFields (g : TypeGraph τ) (change : Field τ → Field τ)
    (h : ∀ f, (change f).type = f.type) :
    g.Corresponds (g.mapFields change h) (fun f f' => f' = change f) where
  outline t := by
    rw [Shape.outline, Shape.outline, mapFields]
    dsimp only
    rw [Body.outline_mapFields]
  fields t := by
    have hown : (g.mapFields change h).ownFields t = (g.ownFields t).map change := by
      rw [ownFields, ownFields, fields?, fields?, mapFields]
      dsimp only
      rw [Body.fields?_mapFields]
      cases (g.shape t).body.fields? <;> rfl
    rw [hown, List.forall₂_map_right_iff, List.forall₂_same]
    exact fun _ _ => rfl

end TypeGraph

-- ---------------------------------------------------------------------------
-- Places of fields
-- ---------------------------------------------------------------------------

/-- The occurrences are at the same place and their fields are related. -/
structure Occurrence.Matches (R : Field τ → Field τ → Prop) (o o' : Occurrence τ) : Prop where
  field : R o.field o'.field
  depth : o'.depth = o.depth
  promoted : o'.promoted = o.promoted

namespace TypeGraph

variable [DecidableEq τ] {g g' : TypeGraph τ} {R : Field τ → Field τ → Prop}

/-- The fields have one name and embed the same type, if any. -/
structure KeepsPlace (g : TypeGraph τ) (f f' : Field τ) : Prop where
  name : f'.name = f.name
  embedded : f'.embedded = f.embedded
  base : f.embedded = true → (g.resolve f'.type).type = (g.resolve f.type).type

namespace Corresponds

variable (h : g.Corresponds g' R) (hR : ∀ f f', R f f' → g.KeepsPlace f f')
include h hR

/-- Fields that correspond embed the same types. -/
theorem embeds_iff {f f' : Field τ} (hf : R f f') (t : τ) : g'.Embeds f' t ↔ g.Embeds f t := by
  obtain ⟨-, hmark, hbase⟩ := hR f f' hf
  rw [Embeds, Embeds, hmark, h.isSome_fields?_iff, h.resolve_eq]
  constructor
  · rintro ⟨hf, rfl, hfields⟩
    exact ⟨hf, (hbase hf).symm, hfields⟩
  · rintro ⟨hf, rfl, hfields⟩
    exact ⟨hf, hbase hf, hfields⟩

/-- The walks through corresponding fields go the same way. -/
theorem exists_preorder {path : List τ} {depth : Nat} {fields fields' : List (Field τ)}
    {all : List (Occurrence τ)} (hall : g.Preorder path depth fields all)
    (hfields : List.Forall₂ R fields fields') :
    ∃ all', g'.Preorder path depth fields' all' ∧
      List.Forall₂ (Occurrence.Matches R) all all' := by
  -- each clause of one walk is answered by the same clause of the other one
  induction hall generalizing fields' with
  | nil path depth =>
    cases hfields
    exact ⟨[], .nil path depth, .nil⟩
  | regular hnot _ ih =>
    cases hfields with
    | cons hf hrest =>
      obtain ⟨later', hlater', hmatch⟩ := ih hrest
      exact ⟨_, .regular (fun t ht => hnot t ((h.embeds_iff hR hf t).1 ht)) hlater',
        .cons ⟨hf, rfl, rfl⟩ hmatch⟩
  | cut hembeds hmem _ ih =>
    cases hfields with
    | cons hf hrest =>
      obtain ⟨later', hlater', hmatch⟩ := ih hrest
      exact ⟨_, .cut ((h.embeds_iff hR hf _).2 hembeds) hmem hlater',
        .cons ⟨hf, rfl, rfl⟩ hmatch⟩
  | entered hembeds hnotmem _ _ ihinner ihlater =>
    cases hfields with
    | cons hf hrest =>
      obtain ⟨inner', hinner', hmatchinner⟩ := ihinner (h.fields _)
      obtain ⟨later', hlater', hmatch⟩ := ihlater hrest
      exact ⟨_, .entered ((h.embeds_iff hR hf _).2 hembeds) hnotmem hinner' hlater',
        .cons ⟨hf, rfl, rfl⟩ (List.rel_append hmatchinner hmatch)⟩

/-- The walk meets fields that correspond in the same order, at the same depths. -/
theorem forall₂_occurrences (t : τ) :
    List.Forall₂ (Occurrence.Matches R) (g.occurrences t) (g'.occurrences t) := by
  obtain ⟨all', hall', hmatch⟩ := h.exists_preorder hR (preorder_occurrences g t) (h.fields t)
  rwa [hall'.unique (preorder_occurrences g' t)]

end Corresponds

end TypeGraph

/-- What a name means depends on places only. -/
theorem standing?_eq_of_matches {R : Field τ → Field τ → Prop}
    (hname : ∀ f f', R f f' → f'.name = f.name) (name : String) {all all' : List (Occurrence τ)}
    (hmatch : List.Forall₂ (Occurrence.Matches R) all all') :
    standing? name all' = standing? name all := by
  have hfold : ∀ s : Option Standing,
      all'.foldl (fun s o => if o.field.name = name then some (Standing.add o.depth s) else s) s =
        all.foldl (fun s o => if o.field.name = name then some (Standing.add o.depth s) else s) s := by
    induction hmatch with
    | nil => exact fun _ => rfl
    | cons ho _ ih =>
      intro s
      rw [List.foldl_cons, List.foldl_cons, hname _ _ ho.field, ho.depth, ih]
  exact hfold none

/-- Of fields that correspond, and have the same names, the same ones are shadowed. -/
theorem forall₂_unshadowed {R : Field τ → Field τ → Prop}
    (hname : ∀ f f', R f f' → f'.name = f.name) {all all' : List (Occurrence τ)}
    (hmatch : List.Forall₂ (Occurrence.Matches R) all all') :
    List.Forall₂ (Occurrence.Matches R) (unshadowed all) (unshadowed all') := by
  apply List.rel_filter _ hmatch
  intro o o' ho
  dsimp only
  rw [decide_eq_true_eq, decide_eq_true_eq, hname _ _ ho.field, ho.depth,
    standing?_eq_of_matches hname _ hmatch]

namespace TypeGraph

variable [DecidableEq τ] {g g' : TypeGraph τ} {R : Field τ → Field τ → Prop}

/-- A candidate for a column embeds nothing. -/
theorem not_embeds_of_mem_columnFields {t : τ} {f : Field τ} (hf : f ∈ g.columnFields t) (u : τ) :
    ¬ g.Embeds f u := by
  intro hembeds
  obtain ⟨o, ho, rfl⟩ := List.mem_map.1 hf
  obtain ⟨hvisible, hregular⟩ := List.mem_filter.1 ho
  obtain ⟨-, -, -, -, -, -, hpromoted⟩ := mem_occurrences_iff.1 (mem_unshadowed.1 hvisible).1
  rw [hpromoted.2 ⟨u, hembeds⟩] at hregular
  cases hregular

namespace Corresponds

variable (h : g.Corresponds g' R) (hR : ∀ f f', R f f' → g.KeepsPlace f f')
include h hR

/-- The visible fields of a type correspond. -/
theorem forall₂_visibleFields (t : τ) :
    List.Forall₂ (Occurrence.Matches R) (g.visibleFields t) (g'.visibleFields t) :=
  forall₂_unshadowed (fun f f' hf => (hR f f' hf).name) (h.forall₂_occurrences hR t)

/-- The candidates for columns correspond, and they embed nothing. -/
theorem forall₂_columnFields (t : τ) :
    List.Forall₂ (fun f f' => (∀ u, ¬ g.Embeds f u) ∧ R f f') (g.columnFields t)
      (g'.columnFields t) := by
  rw [List.forall₂_and_left]
  constructor
  · exact fun f hf => not_embeds_of_mem_columnFields hf
  · rw [columnFields, columnFields, List.forall₂_map_left_iff, List.forall₂_map_right_iff]
    have hregular : List.Forall₂ (Occurrence.Matches R) ((g.visibleFields t).filter (!·.promoted))
        ((g'.visibleFields t).filter (!·.promoted)) := by
      apply List.rel_filter _ (h.forall₂_visibleFields hR t)
      intro o o' ho
      dsimp only
      rw [ho.promoted]
    exact hregular.imp fun o o' ho => ho.field

end Corresponds

end TypeGraph

end TableSchema
