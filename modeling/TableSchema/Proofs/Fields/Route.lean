import Mathlib.Data.List.Nodup
import Mathlib.Data.List.Duplicate
import Mathlib.Data.Set.Card
import Mathlib.Logic.Relation
import TableSchema.Proofs.Fields.Embedding

/-!
# Routes into embedded types

Every field that the walk lists is a field of some type that is entered along a route: a chain of
types, each embedded by a field of the next one, that ends at the root. The walk takes exactly the
routes that enter no type twice, and there are only finitely many types to enter.

* `Route` — the chains; `Route.skip` cuts out what lies between two visits of a type.
* `nested` — the types that can be entered, of which there are finitely many.
* `placedWithin` — the walk without the check of the path, down to a given depth, where every field
  keeps its route; `mem_placedWithin_iff` says which fields and routes these are.
* `occurrences_eq_placed` — the walk lists the fields whose route enters no type twice.
* `mem_occurrences_iff` — the fields of a type by their routes.
-/

namespace TableSchema

variable {τ : Type} [DecidableEq τ] {g : TypeGraph τ}

namespace TypeGraph

-- ---------------------------------------------------------------------------
-- Routes
-- ---------------------------------------------------------------------------

variable (g) in
/-- A way into nested types, the innermost type first: each type is entered through a field of the
next one, and the last one is the root. -/
inductive Route (root : τ) : List τ → Prop
  | start : Route root [root]
  | enter {s t : τ} {path : List τ} {f : Field τ} :
      Route root (s :: path) → f ∈ g.ownFields s → g.Embeds f t → Route root (t :: s :: path)

variable (g) in
/-- The types that can be entered from a type, itself included. -/
def nested (root : τ) : Set τ :=
  { t | Relation.ReflTransGen (fun s t => ∃ f ∈ g.ownFields s, g.Embeds f t) root t }

/-- Types that can be entered can be reached. -/
theorem mem_reach_of_mem_nested {root t : τ} (h : t ∈ g.nested root) : t ∈ g.reach root := by
  induction h with
  | refl => exact g.mem_reach_self root
  | tail _ hstep ih =>
    obtain ⟨f, hf, -, rfl, -⟩ := hstep
    exact g.resolve_mem_reach (mem_reach_of_mem_ownFields ih hf)

/-- There are only finitely many types to enter. -/
theorem nested_finite (g : TypeGraph τ) (root : τ) : (g.nested root).Finite :=
  (List.finite_toSet (g.reach root)).subset fun _ => mem_reach_of_mem_nested

namespace Route

variable {root : τ}

/-- The types on a route can be entered. -/
theorem mem_nested {path : List τ} (h : g.Route root path) : ∀ t ∈ path, t ∈ g.nested root := by
  induction h with
  | start =>
    intro t ht
    rw [List.mem_singleton.1 ht]
    exact .refl
  | enter _ hf hembeds ih =>
    intro t ht
    rcases List.mem_cons.1 ht with rfl | ht
    · exact .tail (ih _ List.mem_cons_self) ⟨_, hf, hembeds⟩
    · exact ih t ht

/-- A route that enters no type twice is no longer than the number of types there are to enter. -/
theorem length_le_ncard {path : List τ} (h : g.Route root path) (hnodup : path.Nodup) :
    path.length ≤ (g.nested root).ncard := by
  rw [← List.toFinset_card_of_nodup hnodup, ← Set.ncard_coe_finset]
  apply Set.ncard_le_ncard _ (g.nested_finite root)
  intro t ht
  exact h.mem_nested t (List.mem_toFinset.1 ht)

/-- The part of a route from a type on to the root is a route. -/
theorem of_append {t : τ} {front back : List τ} (h : g.Route root (front ++ t :: back)) :
    g.Route root (t :: back) := by
  induction front with
  | nil => exact h
  | cons u front ih =>
    apply ih
    cases hfront : front ++ t :: back with
    | nil => simp at hfront
    | cons s path =>
      rw [List.cons_append, hfront] at h
      cases h with
      | enter hroute => exact hroute

/-- A route may skip what lies between two visits of a type. -/
theorem skip {t : τ} {front middle back : List τ}
    (h : g.Route root (front ++ t :: (middle ++ t :: back))) : g.Route root (front ++ t :: back) := by
  induction front with
  | nil =>
    have hskip : g.Route root ((t :: middle) ++ t :: back) := h
    exact hskip.of_append
  | cons u front ih =>
    cases front with
    | nil => cases h with
      | enter hroute hf hembeds => exact .enter (ih hroute) hf hembeds
    | cons s front => cases h with
      | enter hroute hf hembeds => exact .enter (ih hroute) hf hembeds

/-- A route that enters some type twice leads to its end by a detour. -/
theorem exists_shorter {path : List τ} (h : g.Route root path) (hdup : ¬ path.Nodup) :
    ∃ path', g.Route root path' ∧ path'.head? = path.head? ∧ path'.length < path.length := by
  -- the two visits of `t` with what lies between them
  obtain ⟨t, ht⟩ := List.exists_duplicate_iff_not_nodup.2 hdup
  rw [List.duplicate_iff_sublist] at ht
  obtain ⟨front, back, rfl, hfront, hback⟩ := List.cons_sublist_iff.1 ht
  obtain ⟨front, between, rfl⟩ := List.append_of_mem hfront
  obtain ⟨between', back, rfl⟩ := List.append_of_mem (List.singleton_sublist.1 hback)
  have hvisits : g.Route root (front ++ t :: ((between ++ between') ++ t :: back)) := by
    simpa using h
  refine ⟨front ++ t :: back, hvisits.skip, ?_, ?_⟩
  · cases front <;> rfl
  · simp only [List.length_append, List.length_cons]
    omega

/-- Every route ends at the root. -/
theorem root_suffix {path : List τ} (h : g.Route root path) : [root] <:+ path := by
  induction h with
  | start => exact List.suffix_refl _
  | enter _ _ _ ih => exact ih.trans (List.suffix_cons ..)

end Route

end TypeGraph

-- ---------------------------------------------------------------------------
-- Fields with their routes
-- ---------------------------------------------------------------------------

/-- A field of the first type of a route. -/
structure Placed (τ : Type) where
  field : Field τ
  route : List τ

namespace TypeGraph

/-- What the walk says about a field at the end of a route: the root is not counted in the depth. -/
def occurrenceOf (g : TypeGraph τ) (p : Placed τ) : Occurrence τ :=
  ⟨p.field, p.route.length - 1, (g.embedding? p.field).isSome⟩

/-- The given fields and all that they embed, in the order of the walk, but entering every type down
to `n` levels below. -/
def placedWithin (g : TypeGraph τ) : Nat → List τ → List (Field τ) → List (Placed τ)
  | 0, route, fields => fields.map (⟨·, route⟩)
  | n + 1, route, fields => fields.flatMap fun f =>
      ⟨f, route⟩ :: match g.embedding? f with
        | none => []
        | some (t, inner) => g.placedWithin n (t :: route) inner

theorem placedWithin_zero_cons {route : List τ} {f : Field τ} {rest : List (Field τ)} :
    g.placedWithin 0 route (f :: rest) = ⟨f, route⟩ :: g.placedWithin 0 route rest :=
  rfl

/-- Below a field that embeds nothing there is nothing. -/
theorem placedWithin_cons_of_none {n : Nat} {route : List τ} {f : Field τ} {rest : List (Field τ)}
    (h : g.embedding? f = none) :
    g.placedWithin n route (f :: rest) = ⟨f, route⟩ :: g.placedWithin n route rest := by
  cases n with
  | zero => rfl
  | succ n =>
    rw [placedWithin, List.flatMap_cons, h]
    rfl

/-- Below a field that embeds a type there are the fields of that type, whose route is one longer. -/
theorem placedWithin_succ_cons_of_some {n : Nat} {route : List τ} {f : Field τ}
    {rest inner : List (Field τ)} {t : τ} (h : g.embedding? f = some (t, inner)) :
    g.placedWithin (n + 1) route (f :: rest) =
      ⟨f, route⟩ :: (g.placedWithin n (t :: route) inner ++ g.placedWithin (n + 1) route rest) := by
  rw [placedWithin, List.flatMap_cons, h]
  rfl

/-- Whatever is found below a route has a route that continues it. -/
theorem route_of_mem_placedWithin {root s : τ} {path : List τ} {n : Nat} {p : Placed τ}
    (hroute : g.Route root (s :: path)) (hp : p ∈ g.placedWithin n (s :: path) (g.ownFields s)) :
    g.Route root p.route ∧ (∃ t, p.route.head? = some t ∧ p.field ∈ g.ownFields t) ∧
      p.route.length ≤ n + (s :: path).length ∧ (s :: path) <:+ p.route := by
  induction n generalizing s path with
  | zero =>
    obtain ⟨f, hf, rfl⟩ := List.mem_map.1 hp
    exact ⟨hroute, ⟨s, rfl, hf⟩, by simp, List.suffix_refl _⟩
  | succ n ih =>
    obtain ⟨f, hf, hp⟩ := List.mem_flatMap.1 hp
    rcases List.mem_cons.1 hp with rfl | hp
    · exact ⟨hroute, ⟨s, rfl, hf⟩, by simp, List.suffix_refl _⟩
    · cases h : g.embedding? f with
      | none =>
        rw [h] at hp
        exact absurd hp List.not_mem_nil
      | some found =>
        obtain ⟨t, inner⟩ := found
        obtain ⟨hembeds, rfl⟩ := embeds_of_embedding? h
        rw [h] at hp
        obtain ⟨hproute, hpfield, hlen, hsuffix⟩ := ih (.enter hroute hf hembeds) hp
        refine ⟨hproute, hpfield, ?_, (List.suffix_cons t (s :: path)).trans hsuffix⟩
        simp only [List.length_cons] at hlen ⊢
        omega

/-- Every field at the end of a route is found below each part of the route that it is not too far
from. -/
theorem mem_placedWithin {root s t : τ} {front path : List τ} {n : Nat} {f : Field τ}
    (hroute : g.Route root (front ++ s :: path)) (hlen : front.length ≤ n)
    (hhead : (front ++ s :: path).head? = some t) (hf : f ∈ g.ownFields t) :
    ⟨f, front ++ s :: path⟩ ∈ g.placedWithin n (s :: path) (g.ownFields s) := by
  -- the levels that are left are counted down while the route is followed from `s` inwards
  induction n generalizing s path front with
  | zero =>
    obtain rfl := List.length_eq_zero_iff.1 (Nat.le_zero.1 hlen)
    obtain rfl := Option.some.inj hhead
    exact List.mem_map.2 ⟨f, hf, rfl⟩
  | succ n ih =>
    rcases List.eq_nil_or_concat front with rfl | ⟨front, u, rfl⟩
    · obtain rfl := Option.some.inj hhead
      exact List.mem_flatMap.2 ⟨f, hf, List.mem_cons_self⟩
    · -- the route enters `u` from `s`, and the rest of it lies below `u`
      simp only [List.append_assoc, List.singleton_append, List.concat_eq_append] at hroute hhead ⊢
      cases hroute.of_append with
      | enter _ hu hembeds =>
        apply List.mem_flatMap.2
        refine ⟨_, hu, List.mem_cons_of_mem _ ?_⟩
        rw [embedding?_of_embeds hembeds]
        apply ih hroute _ hhead
        simp only [List.concat_eq_append, List.length_append, List.length_singleton] at hlen
        omega

/-- The fields found from the root are those at the ends of the routes that are not too long. -/
theorem mem_placedWithin_root_iff {root : τ} {n : Nat} {p : Placed τ} :
    p ∈ g.placedWithin n [root] (g.ownFields root) ↔
      g.Route root p.route ∧ (∃ t, p.route.head? = some t ∧ p.field ∈ g.ownFields t) ∧
        p.route.length ≤ n + 1 := by
  constructor
  · intro hp
    obtain ⟨hroute, hfield, hlen, -⟩ := route_of_mem_placedWithin .start hp
    exact ⟨hroute, hfield, hlen⟩
  · rintro ⟨hroute, ⟨t, hhead, hfield⟩, hlen⟩
    obtain ⟨front, hfront⟩ := hroute.root_suffix
    obtain ⟨f, route⟩ := p
    subst hfront
    apply mem_placedWithin hroute _ hhead hfield
    simpa using hlen

-- ---------------------------------------------------------------------------
-- The walk takes the routes without repetition
-- ---------------------------------------------------------------------------

/-- What lies below a route that enters some type twice does so too. -/
theorem filter_nodup_placedWithin {root s : τ} {path : List τ} {n : Nat}
    (hroute : g.Route root (s :: path)) (hdup : ¬ (s :: path).Nodup) :
    (g.placedWithin n (s :: path) (g.ownFields s)).filter (fun p => p.route.Nodup) = [] := by
  rw [List.filter_eq_nil_iff]
  intro p hp hnodup
  obtain ⟨-, -, -, hsuffix⟩ := route_of_mem_placedWithin hroute hp
  exact hdup (hsuffix.sublist.nodup (of_decide_eq_true hnodup))

/-- A field at the end of a route without repetition is listed in front of what follows it. -/
theorem map_occurrenceOf_filter_cons {f : Field τ} {route : List τ} {depth : Nat}
    {later : List (Placed τ)} (hnodup : route.Nodup) (hdepth : route.length = depth + 1) :
    ((⟨f, route⟩ :: later).filter (fun p => p.route.Nodup)).map g.occurrenceOf =
      ⟨f, depth, (g.embedding? f).isSome⟩ ::
        (later.filter (fun p => p.route.Nodup)).map g.occurrenceOf := by
  rw [List.filter_cons_of_pos (by exact decide_eq_true hnodup), List.map_cons, occurrenceOf, hdepth,
    Nat.add_sub_cancel]

/-- The walk from the end of a route without repetition, with room for every longer one. -/
theorem occurrencesFrom_eq_placed {root : τ} {route : List τ} {depth : Nat}
    {fields : List (Field τ)} (hfields : ∀ f ∈ fields, f.type ∈ g.reach root) :
    ∀ (s : τ) (path : List τ) (n : Nat), route = s :: path → g.Route root route → route.Nodup →
      route.length = depth + 1 → (∀ f ∈ fields, f ∈ g.ownFields s) →
      (g.nested root).ncard ≤ route.length + n →
      g.occurrencesFrom root route depth fields hfields =
        ((g.placedWithin n route fields).filter (fun p => p.route.Nodup)).map g.occurrenceOf := by
  -- along the walk its path is a route without repetition, one longer than the depth, and the levels
  -- that are left suffice for the types that are not on it
  fun_induction occurrencesFrom g root route depth fields hfields with
  | case1 =>
    intro s path n _ _ _ _ _ _
    cases n <;> rfl
  | case2 route depth f rest _ _ _ h _ ih =>
    intro s path n hpath hroute hnodup hdepth hsub hn
    have hrest := ih s path n hpath hroute hnodup hdepth (fun f' hf' => hsub f' (.tail _ hf')) hn
    rw [placedWithin_cons_of_none h, map_occurrenceOf_filter_cons hnodup hdepth, h, ← hrest]
    rfl
  | case3 route depth f rest _ _ _ t inner h hmem _ ih =>
    intro s path n hpath hroute hnodup hdepth hsub hn
    have hrest := ih s path n hpath hroute hnodup hdepth (fun f' hf' => hsub f' (.tail _ hf')) hn
    obtain ⟨hembeds, rfl⟩ := embeds_of_embedding? h
    subst hpath
    cases n with
    | zero =>
      rw [placedWithin_zero_cons, map_occurrenceOf_filter_cons hnodup hdepth, h, ← hrest]
      rfl
    | succ n =>
      -- everything below the type that is on the path already repeats it
      have hbelow : (g.placedWithin n (t :: s :: path) (g.ownFields t)).filter
          (fun p => p.route.Nodup) = [] :=
        filter_nodup_placedWithin (.enter hroute (hsub f List.mem_cons_self) hembeds)
          (fun hnodup' => (List.nodup_cons.1 hnodup').1 hmem)
      rw [placedWithin_succ_cons_of_some h, map_occurrenceOf_filter_cons hnodup hdepth, h,
        List.filter_append, hbelow, List.nil_append, ← hrest]
      rfl
  | case4 route depth f rest _ _ _ t inner h hmem _ _ _ ihrest ihinner =>
    intro s path n hpath hroute hnodup hdepth hsub hn
    have hrest := ihrest s path n hpath hroute hnodup hdepth
      (fun f' hf' => hsub f' (.tail _ hf')) hn
    obtain ⟨hembeds, rfl⟩ := embeds_of_embedding? h
    subst hpath
    have hlonger : g.Route root (t :: s :: path) :=
      .enter hroute (hsub f List.mem_cons_self) hembeds
    have hnodup' : (t :: s :: path).Nodup := List.nodup_cons.2 ⟨hmem, hnodup⟩
    -- one more type can be entered, so there is room for it
    have hroom := hlonger.length_le_ncard hnodup'
    cases n with
    | zero =>
      simp only [List.length_cons] at hroom hn
      omega
    | succ n =>
      have hn' : (g.nested root).ncard ≤ (t :: s :: path).length + n := by
        simp only [List.length_cons] at hn ⊢
        omega
      have hinner := ihinner t (s :: path) n rfl hlonger hnodup' (by rw [List.length_cons, hdepth])
        (fun _ hf' => hf') hn'
      rw [placedWithin_succ_cons_of_some h, map_occurrenceOf_filter_cons hnodup hdepth, h,
        List.filter_append, List.map_append, ← hrest, ← hinner]
      rfl

/-- The walk lists the fields whose route enters no type twice, in the order of the walk that enters
every type, as soon as that one goes deep enough for all routes without repetition. -/
theorem occurrences_eq_placed {root : τ} {n : Nat} (hn : (g.nested root).ncard ≤ n + 1) :
    g.occurrences root =
      ((g.placedWithin n [root] (g.ownFields root)).filter (fun p => p.route.Nodup)).map
        g.occurrenceOf := by
  rw [occurrences]
  split
  · next h =>
    rw [ownFields, h]
    cases n <;> rfl
  · next fields h =>
    have hown : g.ownFields root = fields := by rw [ownFields, h]; rfl
    rw [hown]
    apply occurrencesFrom_eq_placed _ root [] n rfl .start (List.nodup_singleton _) rfl
    · intro f hf
      rwa [hown]
    · rwa [List.length_singleton, Nat.add_comm]

/-- The fields of a type are those at the ends of the routes that enter no type twice; the depth
counts the steps of the route. -/
theorem mem_occurrences_iff {root : τ} {o : Occurrence τ} :
    o ∈ g.occurrences root ↔
      ∃ t path, g.Route root (t :: path) ∧ (t :: path).Nodup ∧ o.field ∈ g.ownFields t ∧
        o.depth = path.length ∧ (o.promoted = true ↔ ∃ u, g.Embeds o.field u) := by
  rw [occurrences_eq_placed (Nat.le_succ (g.nested root).ncard)]
  constructor
  · intro ho
    obtain ⟨⟨f, route⟩, hp, rfl⟩ := List.mem_map.1 ho
    obtain ⟨hp, hnodup⟩ := List.mem_filter.1 hp
    obtain ⟨hroute, ⟨t, hhead, hf⟩, -⟩ := mem_placedWithin_root_iff.1 hp
    obtain ⟨path, rfl⟩ := List.head?_eq_some_iff.1 hhead
    exact ⟨t, path, hroute, of_decide_eq_true hnodup, hf, rfl, isSome_embedding?_iff⟩
  · rintro ⟨t, path, hroute, hnodup, hf, hdepth, hpromoted⟩
    apply List.mem_map.2
    refine ⟨⟨o.field, t :: path⟩, List.mem_filter.2 ⟨?_, decide_eq_true hnodup⟩, ?_⟩
    · rw [mem_placedWithin_root_iff]
      exact ⟨hroute, ⟨t, rfl, hf⟩, Nat.le_succ_of_le (hroute.length_le_ncard hnodup)⟩
    · have hsome : (g.embedding? o.field).isSome = o.promoted := by
        rw [Bool.eq_iff_iff, isSome_embedding?_iff, hpromoted]
      obtain ⟨f, depth, promoted⟩ := o
      simp only at hdepth hsome
      simp [occurrenceOf, hdepth, hsome]

end TypeGraph

end TableSchema
