import TableSchema.Proofs.Column.Nullability
import TableSchema.Proofs.Table.Correspondence

/-!
# Wrappers and tables

What the wrappers around a type can change: of a column only whether it may be null, and of the
fields that a type embeds nothing at all.

* `Rewrapped` — a field whose type is put under wrappers.
* `wrappers_change_nullability_only` — columns of types under wrappers, and fields and tables of types
  that embed others through wrappers.
-/

namespace TableSchema

namespace TypeGraph

variable {τ : Type} [DecidableEq τ]

/-- The field itself or, if it is one of those that may change, the field with its type under any
number of wrappers, none of which is on the chain of what it wraps. -/
def Rewrapped (g : TypeGraph τ) (mayChange : Field τ → Prop) (f f' : Field τ) : Prop :=
  f' = f ∨ mayChange f ∧ ∃ w admits, g.Stack w f.type admits ∧ f' = { f with type := w }

/-- Under more wrappers a field embeds the same type. -/
theorem Rewrapped.keepsPlace {g : TypeGraph τ} {mayChange : Field τ → Prop} {f f' : Field τ}
    (h : g.Rewrapped mayChange f f') : g.KeepsPlace f f' := by
  rcases h with rfl | ⟨-, w, admits, hstack, rfl⟩
  · exact ⟨rfl, rfl, fun _ => rfl⟩
  · refine ⟨rfl, rfl, fun _ => ?_⟩
    show (g.resolve w).type = (g.resolve f.type).type
    rw [resolve_of_stack hstack]
    rfl

/--
**Wrappers change nullability only.** The column of a type under wrappers is the column of the type
itself: nothing, the same error, or the same column, which may be null if one of the wrappers admits
an absent value and no `null` option says otherwise. Putting the types of embedded fields under
wrappers changes neither names, depths and order of the visible fields nor which of them embed others;
and if the fields do embed structured types, no table changes at all.
-/
theorem wrappers_change_nullability_only (g : TypeGraph τ) :
    (∀ w t admits, g.Stack w t admits → ∀ config sourceName raw,
      Column.build g config sourceName w raw =
        (Column.build g config sourceName t raw).map (Option.map fun c =>
          if (Tag.parse raw config.skipMarker).options.any (·.key = "null") then c
          else { c with nullable := c.nullable || admits })) ∧
    (∀ g', g.Corresponds g' (g.Rewrapped fun f => f.embedded = true) →
      ∀ t, (g'.visibleFields t).map (fun o => (o.field.name, o.depth, o.promoted)) =
        (g.visibleFields t).map (fun o => (o.field.name, o.depth, o.promoted))) ∧
    (∀ g', g.Corresponds g' (g.Rewrapped fun f => ∃ u, g.Embeds f u) →
      ∀ config root options, Table.build g' config root options =
        Table.build g config root options) := by
  refine ⟨?_, ?_, ?_⟩
  · intro w t admits hstack config sourceName raw
    rw [Column.build_of_stack hstack]
    cases (Tag.parse raw config.skipMarker).options.any (·.key = "null") with
    | true => simp [Column.admitting_false]
    | false => simp [Column.admitting]
  · intro g' h t
    have hmatch := h.forall₂_visibleFields (fun _ _ => Rewrapped.keepsPlace) t
    symm
    rw [← List.forall₂_eq_eq_eq, List.forall₂_map_left_iff, List.forall₂_map_right_iff]
    apply hmatch.imp
    intro o o' ho
    rw [ho.depth, ho.promoted, ho.field.keepsPlace.name]
  · intro g' h config root options
    apply h.tableBuild_eq (fun _ _ => Rewrapped.keepsPlace)
    rintro f f' hnot (rfl | ⟨⟨u, hembeds⟩, -⟩)
    · exact h.columnBuild_eq config f'.name f'.type _
    · exact absurd hembeds (hnot u)

/-- A post that embeds a stamp, as it is or as an optional pointer: type `3` embeds the given type,
`1` is the stamp, `2` the pointer to it and `0` a text. -/
def stampedPost (embedded : Fin 4) : TypeGraph (Fin 4) :=
  .ofShapes #v[
    ⟨"String", .scalar .string, false⟩,
    ⟨"Stamp", .struct [⟨"at", 0, [], false⟩], false⟩,
    ⟨"Option<Stamp>", .pointer 1 true, false⟩,
    ⟨"Post", .struct [⟨"title", 0, [], false⟩, ⟨"stamp", embedded, [], true⟩], false⟩]

theorem stack_stampedPost : (stampedPost 1).Stack 2 1 true := by
  refine .single rfl fun hchain => ?_
  have heq : (2 : Fin 4) = 1 := hchain.eq_of_unwrap?_none rfl
  exact absurd heq (by decide)

/-- Embedding the stamp through the pointer is embedding it under a wrapper. -/
theorem corresponds_stampedPost {mayChange : Field (Fin 4) → Prop}
    (h : mayChange ⟨"stamp", 1, [], true⟩) :
    (stampedPost 1).Corresponds (stampedPost 2) ((stampedPost 1).Rewrapped mayChange) where
  outline
    | 0 | 1 | 2 | 3 => rfl
  fields
    | 0 | 2 => .nil
    | 1 => .cons (.inl rfl) .nil
    | 3 => .cons (.inl rfl) (.cons (.inr ⟨h, 2, true, stack_stampedPost, rfl⟩) .nil)

/-- A post shows the same and has the same table if its stamp is optional, and a column for the
optional stamp differs from one for the stamp in that it may be null. -/
theorem wrappers_change_nullability_only_stampedPost :
    (stampedPost 1).Stack 2 1 true ∧
      Column.build (stampedPost 1) {} "stamp" 2 ",type=JSON" =
        (Column.build (stampedPost 1) {} "stamp" 1 ",type=JSON").map
          (Option.map fun c => { c with nullable := c.nullable || true }) ∧
      ((stampedPost 2).visibleFields 3).map (fun o => (o.field.name, o.depth, o.promoted)) =
        ((stampedPost 1).visibleFields 3).map (fun o => (o.field.name, o.depth, o.promoted)) ∧
      Table.build (stampedPost 2) {} 3 {} =
        Table.build (stampedPost 1) {} 3 {} := by
  obtain ⟨hcolumn, hfields, htable⟩ := wrappers_change_nullability_only (stampedPost 1)
  refine ⟨stack_stampedPost, ?_, hfields _ (corresponds_stampedPost rfl) 3, ?_⟩
  · have hbuild := hcolumn 2 1 true stack_stampedPost {} "stamp" ",type=JSON"
    have hnull : (Tag.parse ",type=JSON" "-").options.any (·.key = "null") = false := by
      decide +kernel
    rw [hbuild, hnull]
    rfl
  · have hembeds : (stampedPost 1).Embeds ⟨"stamp", 1, [], true⟩ 1 := by
      refine ⟨rfl, ?_, rfl⟩
      rw [resolve_of_unwrap?_none rfl]
    exact htable _ (corresponds_stampedPost ⟨1, hembeds⟩) _ _ _

end TypeGraph

end TableSchema
