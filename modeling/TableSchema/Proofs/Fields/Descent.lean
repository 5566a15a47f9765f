import TableSchema.Proofs.Fields.Route
import TableSchema.Proofs.Types.Chain

/-!
# Calls of the walk

The walk through the fields of a type calls itself for every embedded type that it enters, and all its
calls share one path: a call that enters a type puts it on the path, and when the inner call has
returned it takes the last type off again, whatever that is. Here the walk is taken step by step, with
the calls that have not returned and their path as its state.

* `Step`, `Step.unique` — the steps, of which there is never a choice.
* `Along`, `along_step` — what the calls have to do with the path, kept by every step.
* `run_call` — a call lists what it has to and leaves the path as it was.
* `descent_ends` — the walk ends, and what holds of the path, the depth and the fields on the way.
-/

namespace TableSchema

/-- A call of the walk: the fields that it has still to list, and their depth. -/
structure Call (τ : Type) where
  fields : List (Field τ)
  depth : Nat

/-- The walk at some moment. -/
structure Descent (τ : Type) where
  /-- The calls that have not returned, the innermost first. -/
  calls : List (Call τ)
  /-- The types that are being entered, the innermost first. All calls share it. -/
  path : List τ
  listed : List (Occurrence τ)

namespace TypeGraph

variable {τ : Type} [DecidableEq τ] {g : TypeGraph τ}

-- ---------------------------------------------------------------------------
-- Steps
-- ---------------------------------------------------------------------------

/-- The walk through the fields of a type before its first step. -/
def start (g : TypeGraph τ) (root : τ) : Descent τ :=
  ⟨[⟨g.ownFields root, 0⟩], [root], []⟩

variable (g) in
/-- What the innermost call does next. -/
inductive Step : Descent τ → Descent τ → Prop
  | regular {f : Field τ} {rest : List (Field τ)} {depth : Nat} {below : List (Call τ)}
      {path : List τ} {listed : List (Occurrence τ)} :
      (∀ t, ¬ g.Embeds f t) →
      Step ⟨⟨f :: rest, depth⟩ :: below, path, listed⟩
        ⟨⟨rest, depth⟩ :: below, path, listed ++ [⟨f, depth, false⟩]⟩
  /-- The embedded type is being entered already. -/
  | cut {f : Field τ} {rest : List (Field τ)} {depth : Nat} {below : List (Call τ)}
      {path : List τ} {listed : List (Occurrence τ)} {t : τ} :
      g.Embeds f t → t ∈ path →
      Step ⟨⟨f :: rest, depth⟩ :: below, path, listed⟩
        ⟨⟨rest, depth⟩ :: below, path, listed ++ [⟨f, depth, true⟩]⟩
  | enter {f : Field τ} {rest : List (Field τ)} {depth : Nat} {below : List (Call τ)}
      {path : List τ} {listed : List (Occurrence τ)} {t : τ} :
      g.Embeds f t → t ∉ path →
      Step ⟨⟨f :: rest, depth⟩ :: below, path, listed⟩
        ⟨⟨g.ownFields t, depth + 1⟩ :: ⟨rest, depth⟩ :: below, t :: path,
          listed ++ [⟨f, depth, true⟩]⟩
  /-- The call returns, and its caller takes the last type off the path. -/
  | leave {depth : Nat} {caller : Call τ} {below : List (Call τ)} {path : List τ}
      {listed : List (Occurrence τ)} :
      Step ⟨⟨[], depth⟩ :: caller :: below, path, listed⟩ ⟨caller :: below, path.tail, listed⟩
  /-- The outermost call returns. -/
  | finish {depth : Nat} {path : List τ} {listed : List (Occurrence τ)} :
      Step ⟨[⟨[], depth⟩], path, listed⟩ ⟨[], path, listed⟩

/-- There is one next step at most. -/
theorem Step.unique {s u v : Descent τ} (hu : g.Step s u) (hv : g.Step s v) : u = v := by
  -- a field embeds one type at most, so no two steps apply to the same field
  cases hu with
  | regular hnot => cases hv with
    | regular => rfl
    | cut hembeds => exact absurd hembeds (hnot _)
    | enter hembeds => exact absurd hembeds (hnot _)
  | cut hembeds hmem => cases hv with
    | regular hnot => exact absurd hembeds (hnot _)
    | cut => rfl
    | enter hembeds' hnotmem => exact absurd (hembeds.unique hembeds' ▸ hmem) hnotmem
  | enter hembeds hnotmem => cases hv with
    | regular hnot => exact absurd hembeds (hnot _)
    | cut hembeds' hmem => exact absurd (hembeds'.unique hembeds ▸ hmem) hnotmem
    | enter hembeds' => rw [hembeds.unique hembeds']
  | leave => cases hv with
    | leave => rfl
  | finish => cases hv with
    | finish => rfl

/-- What is listed stays listed. -/
theorem Step.listed_prefix {s u : Descent τ} (h : g.Step s u) : s.listed <+: u.listed := by
  cases h with
  | regular | cut | enter => exact List.prefix_append ..
  | leave | finish => exact List.prefix_rfl

/-- What has been listed stays listed, in front of everything that follows. -/
theorem listed_prefix_of_run {s u : Descent τ} (h : Relation.ReflTransGen g.Step s u) :
    s.listed <+: u.listed := by
  induction h with
  | refl => exact List.prefix_rfl
  | tail _ hstep ih => exact ih.trans hstep.listed_prefix

-- ---------------------------------------------------------------------------
-- Calls and their path
-- ---------------------------------------------------------------------------

variable (g) in
/-- The calls stand along the path: the outermost one lists fields of the root, and each inner one
fields of a type that a field of the next type on the path embeds and that is not on the path yet. -/
inductive Along (root : τ) : List τ → List (Call τ) → Prop
  | returned : Along root [root] []
  | outer {fields : List (Field τ)} :
      fields <:+ g.ownFields root → Along root [root] [⟨fields, 0⟩]
  | inner {s t : τ} {path : List τ} {caller : Call τ} {below : List (Call τ)} {f : Field τ}
      {fields : List (Field τ)} :
      Along root (s :: path) (caller :: below) → f ∈ g.ownFields s → g.Embeds f t →
      t ∉ s :: path → fields <:+ g.ownFields t →
      Along root (t :: s :: path) (⟨fields, caller.depth + 1⟩ :: caller :: below)

namespace Along

variable {root : τ} {path : List τ} {calls below : List (Call τ)} {c : Call τ}

/-- The path of the calls is a route from the root. -/
theorem route (h : g.Along root path calls) : g.Route root path := by
  induction h with
  | returned => exact .start
  | outer => exact .start
  | inner _ hf hembeds _ _ ih => exact .enter ih hf hembeds

/-- No type is entered while it is being entered. -/
theorem nodup (h : g.Along root path calls) : path.Nodup := by
  induction h with
  | returned => exact List.nodup_singleton root
  | outer => exact List.nodup_singleton root
  | inner _ _ _ hnotmem _ ih => exact List.nodup_cons.mpr ⟨hnotmem, ih⟩

/-- The path is one longer than the depth of the innermost call. -/
theorem length_path (h : g.Along root path (c :: below)) : path.length = c.depth + 1 := by
  induction below generalizing path c with
  | nil => cases h with
    | outer => rfl
  | cons caller below ih => cases h with
    | inner hcaller => rw [List.length_cons, ih hcaller]

/-- The innermost call lists fields of the last type on the path. -/
theorem exists_fields_suffix (h : g.Along root path (c :: below)) :
    ∃ t rest, path = t :: rest ∧ c.fields <:+ g.ownFields t := by
  cases h with
  | outer hsuffix => exact ⟨root, [], rfl, hsuffix⟩
  | inner _ _ _ _ hsuffix => exact ⟨_, _, rfl, hsuffix⟩

/-- The innermost call may have listed some of its fields. -/
theorem of_suffix {fields : List (Field τ)} (h : g.Along root path (c :: below))
    (hfields : fields <:+ c.fields) : g.Along root path (⟨fields, c.depth⟩ :: below) := by
  cases h with
  | outer hsuffix => exact .outer (hfields.trans hsuffix)
  | inner hcaller hf hembeds hnotmem hsuffix =>
    exact .inner hcaller hf hembeds hnotmem (hfields.trans hsuffix)

end Along

/-- Every step keeps the calls along the path. -/
theorem along_step {root : τ} {s u : Descent τ} (h : g.Along root s.path s.calls)
    (hstep : g.Step s u) : g.Along root u.path u.calls := by
  cases hstep with
  | regular => exact h.of_suffix (List.suffix_cons ..)
  | cut => exact h.of_suffix (List.suffix_cons ..)
  | enter hembeds hnotmem =>
    obtain ⟨t, rest, rfl, hsuffix⟩ := h.exists_fields_suffix
    exact .inner (h.of_suffix (List.suffix_cons ..)) (hsuffix.subset List.mem_cons_self) hembeds
      hnotmem List.suffix_rfl
  | leave => cases h with
    -- the type that is taken off is the one that the caller has put on
    | inner hcaller => exact hcaller
  | finish => cases h with
    | outer => exact .returned

/-- The invariant holds after any number of steps. -/
theorem along_of_run {root : τ} {s : Descent τ}
    (h : Relation.ReflTransGen g.Step (g.start root) s) : g.Along root s.path s.calls := by
  induction h with
  | refl => exact .outer List.suffix_rfl
  | tail _ hstep ih => exact along_step ih hstep

-- ---------------------------------------------------------------------------
-- One call
-- ---------------------------------------------------------------------------

/-- A step after which some call above the given ones has not returned. -/
def StepAbove (g : TypeGraph τ) (below : List (Call τ)) (s u : Descent τ) : Prop :=
  g.Step s u ∧ ∃ c, c :: below <:+ u.calls

/-- Steps above some calls are steps above fewer calls. -/
theorem StepAbove.of_cons {below : List (Call τ)} {caller : Call τ} {s u : Descent τ}
    (h : g.StepAbove (caller :: below) s u) : g.StepAbove below s u := by
  obtain ⟨hstep, c, hsuffix⟩ := h
  exact ⟨hstep, caller, (List.suffix_cons c _).trans hsuffix⟩

/-- A call lists its fields and all that they embed, and then the path is what it was. -/
theorem run_call {path : List τ} {depth : Nat} {fields : List (Field τ)}
    {more : List (Occurrence τ)} (h : g.Preorder path depth fields more) (below : List (Call τ))
    (listed : List (Occurrence τ)) :
    Relation.ReflTransGen (g.StepAbove below) ⟨⟨fields, depth⟩ :: below, path, listed⟩
      ⟨⟨[], depth⟩ :: below, path, listed ++ more⟩ := by
  induction h generalizing below listed with
  | nil => rw [List.append_nil]
  | regular hnot _ ih =>
    rw [List.append_cons]
    exact .head ⟨.regular hnot, _, List.suffix_rfl⟩ (ih below _)
  | cut hembeds hmem _ ih =>
    rw [List.append_cons]
    exact .head ⟨.cut hembeds hmem, _, List.suffix_rfl⟩ (ih below _)
  | @entered path depth f rest inner later t hembeds hnotmem _ _ ihinner ihlater =>
    rw [List.append_cons, ← List.append_assoc]
    have hinner := ihinner (⟨rest, depth⟩ :: below) (listed ++ [⟨f, depth, true⟩])
    -- the inner call has put back the path that it was given, so the caller takes `t` off
    have hleave : g.StepAbove below
        ⟨⟨[], depth + 1⟩ :: ⟨rest, depth⟩ :: below, t :: path, listed ++ [⟨f, depth, true⟩] ++ inner⟩
        ⟨⟨rest, depth⟩ :: below, path, listed ++ [⟨f, depth, true⟩] ++ inner⟩ :=
      ⟨.leave, _, List.suffix_rfl⟩
    refine .head ⟨.enter hembeds hnotmem, _, List.suffix_cons ..⟩ ?_
    exact (Relation.ReflTransGen.mono (fun _ _ => StepAbove.of_cons) _ _ hinner).trans
      (.head hleave (ihlater below _))

/-- The fields of a call can be listed. -/
theorem exists_preorder_of_along {root : τ} {path : List τ} {c : Call τ} {below : List (Call τ)}
    (h : g.Along root path (c :: below)) : ∃ more, g.Preorder path c.depth c.fields more := by
  obtain ⟨t, rest, rfl, hsuffix⟩ := h.exists_fields_suffix
  have ht : t ∈ g.reach root := mem_reach_of_mem_nested (h.route.mem_nested t List.mem_cons_self)
  exact ⟨_, preorder_occurrencesFrom fun f hf =>
    mem_reach_of_mem_ownFields ht (hsuffix.subset hf)⟩

-- ---------------------------------------------------------------------------
-- The whole walk
-- ---------------------------------------------------------------------------

/-- The walk comes to its end with the fields of the type listed and only the root on the path. -/
theorem run_start (g : TypeGraph τ) (root : τ) :
    Relation.ReflTransGen g.Step (g.start root) ⟨[], [root], g.occurrences root⟩ := by
  have hcall := run_call (preorder_occurrences g root) [] []
  exact .tail (Relation.ReflTransGen.mono (fun _ _ hstep => hstep.1) _ _ hcall) .finish

/-- Without calls the machine has stopped. -/
theorem not_step_of_calls_nil {path : List τ} {listed : List (Occurrence τ)} (u : Descent τ) :
    ¬ g.Step ⟨[], path, listed⟩ u :=
  nofun

/-- Whatever the walk has come to, it goes on to its end. -/
theorem run_to_end {root : τ} {s : Descent τ}
    (h : Relation.ReflTransGen g.Step (g.start root) s) :
    Relation.ReflTransGen g.Step s ⟨[], [root], g.occurrences root⟩ := by
  have hunique : Relator.RightUnique g.Step := fun _ _ _ => Step.unique
  rcases Relation.ReflTransGen.total_of_right_unique hunique h (g.run_start root) with hs | hs
  · exact hs
  · rcases Relation.ReflTransGen.cases_head hs with heq | ⟨u, hstep, -⟩
    · exact heq ▸ .refl
    · exact absurd hstep (not_step_of_calls_nil u)

/-- A walk that can come to an end has no other way to go. -/
theorem acc_of_run {s u : Descent τ} (h : Relation.ReflTransGen g.Step s u)
    (hend : ∀ v, ¬ g.Step u v) : Acc (fun v s => g.Step s v) s := by
  induction h using Relation.ReflTransGen.head_induction_on with
  | refl => exact ⟨_, fun v hv => absurd hv (hend v)⟩
  | head hstep _ ih => exact ⟨_, fun v hv => hstep.unique hv ▸ ih⟩

/-- No field lies deeper than there are types to enter. -/
theorem depth_lt_of_mem_occurrences {root : τ} {o : Occurrence τ} (ho : o ∈ g.occurrences root) :
    o.depth < (g.nested root).ncard := by
  obtain ⟨t, path, hroute, hnodup, -, hdepth, -⟩ := mem_occurrences_iff.mp ho
  have hle := hroute.length_le_ncard hnodup
  rw [List.length_cons] at hle
  omega

/-- A field whose own wrappers go in a circle embeds nothing. -/
theorem not_embeds_of_not_chainEnds {f : Field τ} (h : ¬ g.ChainEnds f.type) (t : τ) :
    ¬ g.Embeds f t := by
  rintro ⟨-, rfl, hfields⟩
  obtain ⟨n, met, -, hvisited, hstop⟩ := g.exists_walk_resolve f.type
  -- resolution has stopped at a wrapper, and a wrapper has no fields
  have hwrapper : (g.unwrap? (g.resolve f.type).type).isSome = true := by
    rcases hstop with hnone | ⟨next, admits, hsome, -⟩
    · exact absurd ⟨n + 1, by rw [beneath?_succ hvisited.place, hnone]; rfl⟩ h
    · rw [hsome]
      rfl
  rw [unwrap?] at hwrapper
  rw [fields?] at hfields
  cases hbody : (g.shape (g.resolve f.type).type).body <;>
    simp_all [Body.unwrap?, Body.fields?]

/--
**The walk ends.** For every type graph, with embeddings in cycles or without, the walk through the
fields of a type has no infinite run, and from whatever it has come to it goes on to one end: all calls
have returned, the path holds the root alone, and the fields of the type are listed. On the way, the
types on the path are different types, each entered from the next one, and one more than the depth of
the innermost call. That call goes on to list its fields in the order of the walk, and when it has none
left, the calls below it are the same and the path is what it was. So the depth of whatever is listed
lies below the number of types that can be entered. The resolution of each field ends too, and a field
whose wrappers go in a circle is listed as one that embeds nothing.
-/
theorem descent_ends (g : TypeGraph τ) (root : τ) :
    Acc (fun v s => g.Step s v) (g.start root) ∧
    (∀ s, Relation.ReflTransGen g.Step (g.start root) s →
      Relation.ReflTransGen g.Step s ⟨[], [root], g.occurrences root⟩ ∧
      (∀ c below, s.calls = c :: below →
        s.path.Nodup ∧ g.Route root s.path ∧ s.path.length = c.depth + 1 ∧
        ∃ more, g.Preorder s.path c.depth c.fields more ∧
          Relation.ReflTransGen (g.StepAbove below) s
            ⟨⟨[], c.depth⟩ :: below, s.path, s.listed ++ more⟩) ∧
      ∀ o ∈ s.listed, o.depth < (g.nested root).ncard ∧
        (∃ n, g.Walk [o.field.type] o.field.type false n (g.resolve o.field.type)) ∧
        (¬ g.ChainEnds o.field.type → o.promoted = false)) ∧
    ∀ t path, g.Route root (t :: path) → (t :: path).Nodup → ∀ f ∈ g.ownFields t,
      ¬ g.ChainEnds f.type → ⟨f, path.length, false⟩ ∈ g.occurrences root := by
  refine ⟨?ends, ?reached, ?circles⟩
  case ends => exact acc_of_run (g.run_start root) not_step_of_calls_nil
  case reached =>
    intro s hs
    have hend := run_to_end hs
    refine ⟨hend, ?_, ?_⟩
    · intro c below hcalls
      have halong := along_of_run hs
      rw [hcalls] at halong
      obtain ⟨more, hmore⟩ := exists_preorder_of_along halong
      refine ⟨halong.nodup, halong.route, halong.length_path, more, hmore, ?_⟩
      have hcall := run_call hmore below s.listed
      rwa [← hcalls] at hcall
    · intro o ho
      have hmem : o ∈ g.occurrences root := (listed_prefix_of_run hend).subset ho
      obtain ⟨n, -, hwalk, -⟩ := g.exists_walk_resolve o.field.type
      refine ⟨depth_lt_of_mem_occurrences hmem, ⟨n, hwalk⟩, ?_⟩
      intro hcircle
      obtain ⟨-, -, -, -, -, -, hpromoted⟩ := mem_occurrences_iff.mp hmem
      rw [Bool.eq_false_iff, ne_eq, hpromoted]
      rintro ⟨u, hu⟩
      exact not_embeds_of_not_chainEnds hcircle u hu
  case circles =>
    intro t path hroute hnodup f hf hcircle
    rw [mem_occurrences_iff]
    refine ⟨t, path, hroute, hnodup, hf, rfl, ?_⟩
    simp [not_embeds_of_not_chainEnds hcircle]

end TypeGraph

end TableSchema
