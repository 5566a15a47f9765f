import Mathlib.Data.Fintype.Card
import TableSchema.Proofs.Fields.Route
import TableSchema.Proofs.Fields.Shadowing

/-!
# Visible fields

What the visible fields of a type are, over all type graphs, with or without cycles of embeddings.

* `visibleFields_eq_soleShallowest` — the visible fields are the occurrences, in the order of the
  walk, that are the only ones of their name at its smallest depth; with what follows for names,
  depths and embedding fields.
* `visibleFields_of_not_embeds` — a type that embeds nothing shows its own fields.
* `unrolled` — the walk that enters every embedded type down to some depth.
* `visibleFields_eq_unrolled` — where a cycle is cut has no influence on the visible fields.
-/

namespace TableSchema

namespace TypeGraph

variable {τ : Type} [DecidableEq τ] {g : TypeGraph τ}

/-- The visible fields are filtered from the walk by name and depth alone. -/
theorem visibleFields_eq_filter (g : TypeGraph τ) (t : τ) :
    g.visibleFields t =
      (g.occurrences t).filter (fun o => SoleShallowest (g.occurrences t) o) :=
  unshadowed_eq_filter _

/--
**The visible fields.** The clauses of the walk fix one list of occurrences, and a type's visible
fields are the occurrences in it that are the only ones of their name at its smallest depth. So no
name is visible twice, and a name that occurs without being visible occurs twice at its smallest
depth. The occurrences are the fields of the types at the ends of the routes that enter no type
twice, embedding fields like all others: the depth counts the types entered, and the promoted ones
are those that embed a structured type.
-/
theorem visibleFields_eq_soleShallowest (g : TypeGraph τ) (t : τ) :
    ∃ all, (∀ other, g.Preorder [t] 0 (g.ownFields t) other ↔ other = all) ∧
      g.visibleFields t = all.filter (fun o => SoleShallowest all o) ∧
      ((g.visibleFields t).map (·.field.name)).Nodup ∧
      (∀ name, (∃ o ∈ all, o.field.name = name) →
        (∀ o ∈ g.visibleFields t, o.field.name ≠ name) →
        ∃ depth, (∀ o ∈ all, o.field.name = name → depth ≤ o.depth) ∧
          2 ≤ countAt name depth all) ∧
      (∀ o, o ∈ all ↔ ∃ s path, g.Route t (s :: path) ∧ (s :: path).Nodup ∧
        o.field ∈ g.ownFields s ∧ o.depth = path.length ∧
        (o.promoted = true ↔ ∃ u, g.Embeds o.field u)) ∧
      (∀ o ∈ g.visibleFields t, ∀ other ∈ all, other.field.name = o.field.name →
        o.depth ≤ other.depth ∧ (other.depth = o.depth → other = o)) := by
  refine ⟨g.occurrences t, ?_, g.visibleFields_eq_filter t, ?_, ?_, ?_, ?_⟩
  · intro other
    constructor
    · exact (preorder_occurrences g t).unique
    · rintro rfl
      exact preorder_occurrences g t
  · exact nodup_names_unshadowed _
  · intro name hoccurs hnot
    exact two_le_countAt_of_not_kept hoccurs hnot
  · intro o
    exact mem_occurrences_iff
  · intro o ho other hother hname
    obtain ⟨hmem, hsole⟩ := mem_unshadowed.1 ho
    exact hsole.depth_le hmem hother hname

-- ---------------------------------------------------------------------------
-- Types that embed nothing
-- ---------------------------------------------------------------------------

/-- A type that embeds nothing and has no field name twice shows its own fields. -/
theorem visibleFields_of_not_embeds {t : τ} (hnot : ∀ f ∈ g.ownFields t, ∀ u, ¬ g.Embeds f u)
    (hnodup : ((g.ownFields t).map Field.name).Nodup) :
    g.visibleFields t = (g.ownFields t).map (⟨·, 0, false⟩) := by
  have hall : g.occurrences t = (g.ownFields t).map (⟨·, 0, false⟩) :=
    (preorder_of_not_embeds hnot).unique (preorder_occurrences g t)
  rw [visibleFields, hall]
  apply unshadowed_eq_self
  rw [List.map_map]
  exact hnodup

/-- All its fields are candidates for columns. -/
theorem columnFields_of_not_embeds {t : τ} (hnot : ∀ f ∈ g.ownFields t, ∀ u, ¬ g.Embeds f u)
    (hnodup : ((g.ownFields t).map Field.name).Nodup) : g.columnFields t = g.ownFields t := by
  have hkept : (g.visibleFields t).filter (!·.promoted) = g.visibleFields t := by
    rw [List.filter_eq_self, visibleFields_of_not_embeds hnot hnodup, List.forall_mem_map]
    intro f _
    rfl
  rw [columnFields, hkept, visibleFields_of_not_embeds hnot hnodup, List.map_map]
  exact List.map_id _

/-- A type without fields has no candidates. -/
theorem columnFields_of_ownFields_nil {t : τ} (h : g.ownFields t = []) : g.columnFields t = [] := by
  have hnot : ∀ f ∈ g.ownFields t, ∀ u, ¬ g.Embeds f u := by simp [h]
  have hnodup : ((g.ownFields t).map Field.name).Nodup := by simp [h]
  rw [columnFields_of_not_embeds hnot hnodup, h]

-- ---------------------------------------------------------------------------
-- Cycles
-- ---------------------------------------------------------------------------

/-- The given fields and all that they embed, in the order of the walk: every embedded type is
entered, also one that is being entered already, down to `n` levels below. -/
def unrolledFrom (g : TypeGraph τ) : Nat → Nat → List (Field τ) → List (Occurrence τ)
  | 0, depth, fields => fields.map fun f => ⟨f, depth, (g.embedding? f).isSome⟩
  | n + 1, depth, fields => fields.flatMap fun f =>
      match g.embedding? f with
      | none => [⟨f, depth, false⟩]
      | some (_, inner) => ⟨f, depth, true⟩ :: g.unrolledFrom n (depth + 1) inner

/-- The fields of a type down to depth `n`, with no check for cycles. -/
def unrolled (g : TypeGraph τ) (n : Nat) (t : τ) : List (Occurrence τ) :=
  g.unrolledFrom n 0 (g.ownFields t)

/-- Unrolling lists the fields by their routes, whatever types these repeat. -/
theorem unrolledFrom_eq_placed {n depth : Nat} {route : List τ} {fields : List (Field τ)}
    (hdepth : route.length = depth + 1) :
    g.unrolledFrom n depth fields = (g.placedWithin n route fields).map g.occurrenceOf := by
  induction n generalizing depth route fields with
  | zero =>
    rw [unrolledFrom, placedWithin, List.map_map]
    apply List.map_congr_left
    intro f _
    simp [occurrenceOf, hdepth]
  | succ n ih =>
    rw [unrolledFrom, placedWithin, List.map_flatMap]
    congr 1
    funext f
    cases h : g.embedding? f with
    | none => simp [occurrenceOf, h, hdepth]
    | some found =>
      obtain ⟨t, inner⟩ := found
      have hinner : g.unrolledFrom n (depth + 1) inner =
          (g.placedWithin n (t :: route) inner).map g.occurrenceOf :=
        ih (by rw [List.length_cons, hdepth])
      simp [occurrenceOf, h, hdepth, hinner]

/-- A field at the end of a detour is also found without it, closer to the root. -/
theorem exists_closer_of_not_nodup {root : τ} {n : Nat} {p : Placed τ}
    (hp : p ∈ g.placedWithin n [root] (g.ownFields root)) (hdup : ¬ p.route.Nodup) :
    ∃ q ∈ g.placedWithin n [root] (g.ownFields root),
      q.field = p.field ∧ (g.occurrenceOf q).depth < (g.occurrenceOf p).depth := by
  obtain ⟨hroute, ⟨t, hhead, hf⟩, hlen⟩ := mem_placedWithin_root_iff.1 hp
  obtain ⟨route, hroute', hhead', hshorter⟩ := hroute.exists_shorter hdup
  rw [hhead] at hhead'
  refine ⟨⟨p.field, route⟩, ?_, rfl, ?_⟩
  · rw [mem_placedWithin_root_iff]
    exact ⟨hroute', ⟨t, hhead', hf⟩, by show route.length ≤ n + 1; omega⟩
  · obtain ⟨path, rfl⟩ := List.head?_eq_some_iff.1 hhead'
    show path.length + 1 - 1 < p.route.length - 1
    rw [List.length_cons] at hshorter
    omega

/--
**Cutting cycles loses nothing.** Down to a depth that leaves room for every route without
repetition, the walk that enters a type as often as it is embedded gives the same visible fields,
and the same names occur in it: all that it lists beyond the other walk lies behind a detour, and
the same field is found closer to the root without it.
-/
theorem visibleFields_eq_unrolled (g : TypeGraph τ) (t : τ) (n : Nat)
    (hn : (g.nested t).ncard ≤ n + 1) :
    (g.unrolled n t).filter (fun o => SoleShallowest (g.unrolled n t) o) = g.visibleFields t ∧
      ∀ name, (∃ o ∈ g.unrolled n t, o.field.name = name) ↔
        ∃ o ∈ g.occurrences t, o.field.name = name := by
  have hunrolled : g.unrolled n t =
      (g.placedWithin n [t] (g.ownFields t)).map g.occurrenceOf :=
    unrolledFrom_eq_placed rfl
  have hover : ∀ p ∈ g.placedWithin n [t] (g.ownFields t),
      decide p.route.Nodup = false → ∃ q ∈ g.placedWithin n [t] (g.ownFields t),
        (g.occurrenceOf q).field.name = (g.occurrenceOf p).field.name ∧
          (g.occurrenceOf q).depth < (g.occurrenceOf p).depth := by
    intro p hp hdup
    obtain ⟨q, hq, hfield, hlt⟩ := exists_closer_of_not_nodup hp (of_decide_eq_false hdup)
    exact ⟨q, hq, congrArg Field.name hfield, hlt⟩
  have hwalk := occurrences_eq_placed hn
  refine ⟨?_, ?_⟩
  · rw [visibleFields_eq_filter, hunrolled, hwalk]
    exact filter_soleShallowest_of_overshadowed hover
  · intro name
    rw [hunrolled, hwalk]
    constructor
    · rintro ⟨o, ho, hname⟩
      obtain ⟨p, hp, rfl⟩ := List.mem_map.1 ho
      obtain ⟨q, hq, hnodup, hqname, -⟩ := exists_kept_le hover hp
      exact ⟨g.occurrenceOf q, List.mem_map.2 ⟨q, List.mem_filter.2 ⟨hq, hnodup⟩, rfl⟩,
        hqname.trans hname⟩
    · rintro ⟨o, ho, hname⟩
      obtain ⟨p, hp, rfl⟩ := List.mem_map.1 ho
      exact ⟨g.occurrenceOf p, List.mem_map.2 ⟨p, (List.mem_filter.1 hp).1, rfl⟩, hname⟩

/-- Two types that embed each other; each has a field `label` of its own. -/
def mutualEmbedding : TypeGraph Bool where
  shape t :=
    ⟨if t then "Left" else "Right", .struct [⟨"label", t, [], false⟩, ⟨"other", !t, [], true⟩], false⟩
  reach _ := [false, true]
  mem_reach_self := by decide
  mem_reach_of_mentions {_ _ u} _ _ := by cases u <;> decide

/-- Entered five levels deep, two types that embed each other show what they show when the cycle is
cut. -/
theorem visibleFields_eq_unrolled_mutualEmbedding :
    (mutualEmbedding.nested true).ncard ≤ 5 + 1 ∧
      (mutualEmbedding.unrolled 5 true).filter
        (fun o => SoleShallowest (mutualEmbedding.unrolled 5 true) o) =
          mutualEmbedding.visibleFields true ∧
      ∀ name, (∃ o ∈ mutualEmbedding.unrolled 5 true, o.field.name = name) ↔
        ∃ o ∈ mutualEmbedding.occurrences true, o.field.name = name := by
  have hcard : (mutualEmbedding.nested true).ncard ≤ 5 + 1 := by
    calc (mutualEmbedding.nested true).ncard
        ≤ (Set.univ : Set Bool).ncard := Set.ncard_le_ncard (Set.subset_univ _)
      _ = 2 := by rw [Set.ncard_univ, Nat.card_eq_fintype_card, Fintype.card_bool]
      _ ≤ 5 + 1 := by decide
  exact ⟨hcard, visibleFields_eq_unrolled mutualEmbedding true 5 hcard⟩

end TypeGraph

end TableSchema
