import Mathlib.Tactic.ByContra
import TableSchema.Fields

/-!
# Embedded types

The walk that lists the fields of a type enters every type that a field embeds, unless the type is
already being entered. Here the walk is described clause by clause, without its recursion and the
measure that ends it.

* `Embeds` — a field embeds a structured type.
* `Preorder` — the order of the walk; `preorder_occurrences` and `Preorder.unique` say that the walk
  lists what the clauses allow, and that they allow nothing else.
-/

namespace TableSchema.TypeGraph

variable {τ : Type} (g : TypeGraph τ)

/-- The fields of a type itself; a type that is not structured has none. -/
def ownFields (t : τ) : List (Field τ) :=
  (g.fields? t).getD []

variable {g} in
/-- The types of the fields of a type can be reached from wherever the type can. -/
theorem mem_reach_of_mem_ownFields {root t : τ} {f : Field τ} (ht : t ∈ g.reach root)
    (hf : f ∈ g.ownFields t) : f.type ∈ g.reach root := by
  rw [ownFields] at hf
  cases hfields : g.fields? t with
  | none =>
    rw [hfields] at hf
    exact absurd hf List.not_mem_nil
  | some fields =>
    rw [hfields] at hf
    exact g.mem_reach_of_fields? ht hfields hf

variable [DecidableEq τ]

/-- The field embeds the structured type `t`: it is marked so and `t` is its base type. -/
def Embeds (f : Field τ) (t : τ) : Prop :=
  f.embedded = true ∧ (g.resolve f.type).type = t ∧ (g.fields? t).isSome = true

variable {g}

/-- What is found to be embedded is embedded, and the fields that come with it are its own. -/
theorem embeds_of_embedding? {f : Field τ} {t : τ} {inner : List (Field τ)}
    (h : g.embedding? f = some (t, inner)) : g.Embeds f t ∧ inner = g.ownFields t := by
  obtain ⟨hbase, hfields⟩ := g.resolve_of_embedding? h
  refine ⟨⟨?_, hbase, by rw [hfields]; rfl⟩, by rw [ownFields, hfields]; rfl⟩
  by_contra hnot
  rw [embedding?, if_neg hnot] at h
  exact Option.some_ne_none _ h.symm

/-- What is embedded is found, with its own fields. -/
theorem embedding?_of_embeds {f : Field τ} {t : τ} (h : g.Embeds f t) :
    g.embedding? f = some (t, g.ownFields t) := by
  obtain ⟨hmark, rfl, hfields⟩ := h
  obtain ⟨inner, hinner⟩ := Option.isSome_iff_exists.1 hfields
  rw [embedding?, if_pos hmark, ownFields]
  simp [hinner]

theorem not_embeds_of_embedding? {f : Field τ} (h : g.embedding? f = none) (t : τ) :
    ¬ g.Embeds f t := by
  intro ht
  rw [embedding?_of_embeds ht] at h
  exact Option.some_ne_none _ h

/-- A field promotes others exactly if it embeds a type. -/
theorem isSome_embedding?_iff {f : Field τ} :
    (g.embedding? f).isSome = true ↔ ∃ t, g.Embeds f t := by
  rw [Option.isSome_iff_exists]
  constructor
  · rintro ⟨⟨t, inner⟩, h⟩
    exact ⟨t, (embeds_of_embedding? h).1⟩
  · rintro ⟨t, h⟩
    exact ⟨_, embedding?_of_embeds h⟩

/-- A field embeds one type only. -/
theorem Embeds.unique {f : Field τ} {t u : τ} (ht : g.Embeds f t) (hu : g.Embeds f u) : t = u :=
  ht.2.1.symm.trans hu.2.1

-- ---------------------------------------------------------------------------
-- The order of the walk
-- ---------------------------------------------------------------------------

variable (g) in
/-- `Preorder path depth fields all`: the list `all` holds the given fields in order, each at
`depth`, and directly behind a field that embeds a structured type the fields of that type in the
same way, one level deeper. `path` holds the types that are being entered; a type on it is not
entered again. -/
inductive Preorder : List τ → Nat → List (Field τ) → List (Occurrence τ) → Prop
  | nil (path : List τ) (depth : Nat) : Preorder path depth [] []
  | regular {path : List τ} {depth : Nat} {f : Field τ} {rest : List (Field τ)}
      {later : List (Occurrence τ)} :
      (∀ t, ¬ g.Embeds f t) → Preorder path depth rest later →
      Preorder path depth (f :: rest) (⟨f, depth, false⟩ :: later)
  | cut {path : List τ} {depth : Nat} {f : Field τ} {rest : List (Field τ)}
      {later : List (Occurrence τ)} {t : τ} :
      g.Embeds f t → t ∈ path → Preorder path depth rest later →
      Preorder path depth (f :: rest) (⟨f, depth, true⟩ :: later)
  | entered {path : List τ} {depth : Nat} {f : Field τ} {rest : List (Field τ)}
      {inner later : List (Occurrence τ)} {t : τ} :
      g.Embeds f t → t ∉ path → Preorder (t :: path) (depth + 1) (g.ownFields t) inner →
      Preorder path depth rest later →
      Preorder path depth (f :: rest) (⟨f, depth, true⟩ :: (inner ++ later))

/-- The walk follows the clauses from wherever it starts. -/
theorem preorder_occurrencesFrom {root : τ} {path : List τ} {depth : Nat} {fields : List (Field τ)}
    (hfields : ∀ f ∈ fields, f.type ∈ g.reach root) :
    g.Preorder path depth fields (g.occurrencesFrom root path depth fields hfields) := by
  -- one clause for each branch of the walk
  fun_induction occurrencesFrom g root path depth fields hfields with
  | case1 => exact .nil ..
  | case2 path depth f rest _ _ _ h _ ih => exact .regular (not_embeds_of_embedding? h) ih
  | case3 path depth f rest _ _ _ t _ h hmem _ ih =>
    exact .cut (embeds_of_embedding? h).1 hmem ih
  | case4 path depth f rest _ _ _ t _ h hmem _ _ _ ihrest ihinner =>
    obtain ⟨hembeds, rfl⟩ := embeds_of_embedding? h
    exact .entered hembeds hmem ihinner ihrest

/-- The walk follows the clauses. -/
theorem preorder_occurrences (g : TypeGraph τ) (t : τ) :
    g.Preorder [t] 0 (g.ownFields t) (g.occurrences t) := by
  rw [occurrences, ownFields]
  split
  · next h =>
    rw [h]
    exact .nil ..
  · next fields h =>
    simp only [h, Option.getD_some]
    exact preorder_occurrencesFrom _

/-- The clauses allow one list only. -/
theorem Preorder.unique {path : List τ} {depth : Nat} {fields : List (Field τ)}
    {all other : List (Occurrence τ)} (h : g.Preorder path depth fields all)
    (hother : g.Preorder path depth fields other) : other = all := by
  -- a field embeds one type at most, so no two clauses apply to the same field
  induction h generalizing other with
  | nil => cases hother with
    | nil => rfl
  | regular hnot _ ih => cases hother with
    | regular _ hlater => rw [ih hlater]
    | cut hembeds => exact absurd hembeds (hnot _)
    | entered hembeds => exact absurd hembeds (hnot _)
  | cut hembeds hmem _ ih => cases hother with
    | regular hnot => exact absurd hembeds (hnot _)
    | cut _ _ hlater => rw [ih hlater]
    | entered hembeds' hnotmem => exact absurd (hembeds.unique hembeds' ▸ hmem) hnotmem
  | entered hembeds hnotmem _ _ ihinner ihlater => cases hother with
    | regular hnot => exact absurd hembeds (hnot _)
    | cut hembeds' hmem => exact absurd (hembeds'.unique hembeds ▸ hmem) hnotmem
    | entered hembeds' _ hinner hlater =>
      cases hembeds.unique hembeds'
      rw [ihinner hinner, ihlater hlater]

/-- The walk through fields that embed nothing lists them as they are. -/
theorem preorder_of_not_embeds {path : List τ} {depth : Nat} {fields : List (Field τ)}
    (hnot : ∀ f ∈ fields, ∀ t, ¬ g.Embeds f t) :
    g.Preorder path depth fields (fields.map (⟨·, depth, false⟩)) := by
  induction fields with
  | nil => exact .nil path depth
  | cons f rest ih =>
    rw [List.forall_mem_cons] at hnot
    obtain ⟨hf, hrest⟩ := hnot
    exact .regular hf (ih hrest)

end TableSchema.TypeGraph
