import TableSchema.Proofs.Table.Correspondence

/-!
# Flat types

A type that embeds others has the same table as the type that has all candidate fields as its own and
embeds nothing. The flat type is a normal form: its fields are what it shows.

* `Flattens` — one type is the flat form of another one.
* `flat_type_same_table` — what the flat form shows, and its table.
-/

namespace TableSchema

variable {τ : Type}

/-- The field without the mark that it embeds its type. -/
def Field.plain (f : Field τ) : Field τ :=
  { f with embedded := false }

namespace TypeGraph

variable [DecidableEq τ] {g : TypeGraph τ}

variable (g) in
/-- The type `flat` is a structure of the same name as the structure `t`, and its fields are the
candidates for columns of `t`, in order, none of them embedded. -/
structure Flattens (t flat : τ) : Prop where
  kind : (g.shape t).body.kind = .struct
  typeName : (g.shape flat).typeName = (g.shape t).typeName
  body : (g.shape flat).body = .struct ((g.columnFields t).map Field.plain)

/--
**Flat types.** The flat form of a structure shows exactly its own fields, all of them its own and
none of them embedding others, and it has the same table as the structure, or none for the same
reason, whatever the settings and the declared options.
-/
theorem flat_type_same_table {t flat : τ} (h : g.Flattens t flat) :
    g.visibleFields flat = (g.columnFields t).map (fun f => ⟨f.plain, 0, false⟩) ∧
      ∀ config options, Table.build g config flat options = Table.build g config t options := by
  have hown : g.ownFields flat = (g.columnFields t).map Field.plain := by
    rw [ownFields, fields?, h.body]
    rfl
  have hnot : ∀ f ∈ g.ownFields flat, ∀ t, ¬ g.Embeds f t := by
    rw [hown, List.forall_mem_map]
    rintro f - t ⟨hmark, -, -⟩
    cases hmark
  have hnodup : ((g.ownFields flat).map Field.name).Nodup := by
    rw [hown, List.map_map]
    exact Table.nodup_names_columnFields g t
  have hvisible : g.visibleFields flat =
      (g.columnFields t).map (fun f => ⟨f.plain, 0, false⟩) := by
    rw [visibleFields_of_not_embeds hnot hnodup, hown, List.map_map]
    rfl
  have hcandidates : g.columnFields flat = (g.columnFields t).map Field.plain := by
    rw [columnFields_of_not_embeds hnot hnodup, hown]
  refine ⟨hvisible, fun config options => ?_⟩
  have hkind : (g.shape flat).body.kind = (g.shape t).body.kind := by
    rw [h.body, h.kind]
    rfl
  apply Table.build_congr
  · rw [resolve_of_kind h.kind, resolve_of_kind (hkind.trans h.kind)]
    exact h.typeName
  · rw [resolve_of_kind h.kind, resolve_of_kind (hkind.trans h.kind)]
    exact hkind
  · rw [resolve_of_kind h.kind, resolve_of_kind (hkind.trans h.kind), hcandidates,
      List.forall₂_map_right_iff, List.forall₂_same]
    -- the column of a field does not depend on whether it is embedded
    intro f _
    rfl

/-- A post `2` embeds a text as its note and a stamp `1`, which has an identifier of its own and embeds
the post in turn. Type `3` is the flat form of the post. -/
def nestedPost : TypeGraph (Fin 5) :=
  .ofShapes #v[
    ⟨"String", .scalar .string, false⟩,
    ⟨"Stamp", .struct [⟨"id", 0, [], false⟩, ⟨"at", 4, [], false⟩, ⟨"post", 2, [], true⟩], false⟩,
    ⟨"Post", .struct [⟨"id", 0, [], false⟩, ⟨"note", 0, [], true⟩, ⟨"stamp", 1, [], true⟩], false⟩,
    ⟨"Post", .struct [⟨"id", 0, [], false⟩, ⟨"note", 0, [], false⟩, ⟨"at", 4, [], false⟩], false⟩,
    ⟨"DateTime", .scalar .timestamp, false⟩]

theorem flattens_nestedPost : nestedPost.Flattens 2 3 := by
  have hstamp : nestedPost.Embeds ⟨"stamp", 1, [], true⟩ 1 := ⟨rfl, by rw [resolve_of_kind rfl], rfl⟩
  have hpost : nestedPost.Embeds ⟨"post", 2, [], true⟩ 2 := ⟨rfl, by rw [resolve_of_kind rfl], rfl⟩
  have hnote : ∀ t, ¬ nestedPost.Embeds ⟨"note", 0, [], true⟩ t := by
    rintro t ⟨-, rfl, hfields⟩
    rw [resolve_of_unwrap?_none rfl] at hfields
    cases hfields
  have hplain : ∀ name u t, ¬ nestedPost.Embeds ⟨name, u, [], false⟩ t := by
    rintro name u t ⟨hmark, -, -⟩
    cases hmark
  -- the walk enters the stamp and does not enter the post again
  have hwalk : nestedPost.Preorder [2] 0 (nestedPost.ownFields 2) _ :=
    .regular (hplain "id" 0) (.regular hnote (.entered hstamp (by decide)
      (.regular (hplain "id" 0) (.regular (hplain "at" 4) (.cut hpost (by decide) (.nil _ _))))
      (.nil _ _)))
  have hcandidates : nestedPost.columnFields 2 =
      [⟨"id", 0, [], false⟩, ⟨"note", 0, [], true⟩, ⟨"at", 4, [], false⟩] := by
    rw [columnFields, visibleFields, ← (preorder_occurrences nestedPost 2).unique hwalk]
    rfl
  exact ⟨rfl, rfl, by rw [hcandidates]; rfl⟩

/-- The identifier of the stamp is hidden in the post and missing in its flat form. -/
theorem flat_type_same_table_nestedPost :
    nestedPost.Flattens 2 3 ∧
      nestedPost.visibleFields 3 =
        (nestedPost.columnFields 2).map (fun f => ⟨f.plain, 0, false⟩) ∧
      ∀ config options,
        Table.build nestedPost config 3 options = Table.build nestedPost config 2 options :=
  ⟨flattens_nestedPost, flat_type_same_table flattens_nestedPost⟩

end TypeGraph

end TableSchema
