import Mathlib.Logic.Relation
import TableSchema.Types.Resolve

/-!
# Types under wrappers

How resolution sees a type through the wrappers around it. Two resolutions of one chain of wrappers
may have seen different types before; that makes no difference as long as they agree on the types of
the chain itself.

* `OnChain` — the types that a chain of wrappers goes through.
* `Stack` — a type under wrappers none of which occurs on the chain below it.
* `follow_eq_follow` — two runs along one chain, in two graphs that have the same wrappers.
* `resolve_of_stack` — wrappers around a type keep its base type and add what they admit.
-/

namespace TableSchema

/-- The same base type, under wrappers that may admit an absent value in addition. -/
def Resolved.admitting {τ : Type} (r : Resolved τ) (admits : Bool) : Resolved τ :=
  { r with optional := r.optional || admits }

theorem Resolved.admitting_false {τ : Type} (r : Resolved τ) : r.admitting false = r := by
  rw [admitting, Bool.or_false]

theorem Resolved.admitting_admitting {τ : Type} (r : Resolved τ) (a b : Bool) :
    (r.admitting a).admitting b = r.admitting (b || a) := by
  simp only [admitting, Bool.or_assoc, Bool.or_comm b a]

namespace TypeGraph

variable {τ : Type}

-- ---------------------------------------------------------------------------
-- Chains and stacks
-- ---------------------------------------------------------------------------

/-- One step of the chain: `t` is what is directly under the outer wrapper of `w`. -/
def Wraps (g : TypeGraph τ) (w t : τ) : Prop :=
  ∃ admits, g.unwrap? w = some (t, admits)

/-- The chain of wrappers that starts at `t` goes through `u`. -/
def OnChain (g : TypeGraph τ) (t u : τ) : Prop :=
  Relation.ReflTransGen g.Wraps t u

/-- `Stack w t admits`: the type `w` is `t` under any number of wrappers, each of which is not on the
chain of what it wraps; `admits` says whether one of them admits an absent value. -/
inductive Stack (g : TypeGraph τ) : τ → τ → Bool → Prop
  | bare (t : τ) : Stack g t t false
  | wrap {w inner t : τ} {admits below : Bool} :
      g.unwrap? w = some (inner, admits) → ¬ g.OnChain inner w → Stack g inner t below →
      Stack g w t (admits || below)

/-- A chain ends at a type without wrapper. -/
theorem OnChain.eq_of_unwrap?_none {g : TypeGraph τ} {t u : τ} (h : g.OnChain t u)
    (hnone : g.unwrap? t = none) : u = t := by
  rcases Relation.ReflTransGen.cases_head h with rfl | ⟨next, ⟨admits, hsome⟩, -⟩
  · rfl
  · rw [hnone] at hsome
    cases hsome

/-- A type under one wrapper. -/
theorem Stack.single {g : TypeGraph τ} {w t : τ} {admits : Bool}
    (hunwrap : g.unwrap? w = some (t, admits)) (hchain : ¬ g.OnChain t w) : g.Stack w t admits := by
  have hstack := Stack.wrap hunwrap hchain (.bare t)
  rwa [Bool.or_false] at hstack

-- ---------------------------------------------------------------------------
-- Resolution
-- ---------------------------------------------------------------------------

variable [DecidableEq τ] {g g' : TypeGraph τ}

/-- A type that wraps none is where following ends. -/
theorem follow_of_unwrap?_none {root t : τ} {seen : List τ} {optional : Bool}
    (ht : t ∈ g.reach root) (h : g.unwrap? t = none) :
    g.follow root seen t optional ht = ⟨t, optional⟩ := by
  rw [follow]
  split
  · rfl
  · next heq => rw [h] at heq; cases heq

/-- Following ends in front of a type that was seen already. -/
theorem follow_of_seen {root t next : τ} {seen : List τ} {optional admits : Bool}
    (ht : t ∈ g.reach root) (h : g.unwrap? t = some (next, admits)) (hseen : next ∈ seen) :
    g.follow root seen t optional ht = ⟨t, optional⟩ := by
  rw [follow]
  split
  · rfl
  · next heq =>
    rw [h] at heq
    cases heq
    rw [dif_pos hseen]

/-- Following goes on with a type that was not seen yet. -/
theorem follow_of_not_seen {root t next : τ} {seen : List τ} {optional admits : Bool}
    (ht : t ∈ g.reach root) (h : g.unwrap? t = some (next, admits)) (hseen : next ∉ seen) :
    g.follow root seen t optional ht =
      g.follow root (next :: seen) next (optional || admits) (g.mem_reach_of_unwrap? ht h) := by
  rw [follow]
  split
  · next heq => rw [h] at heq; cases heq
  · next heq =>
    rw [h] at heq
    cases heq
    rw [dif_neg hseen]

/-- A type without wrapper is its own base type. -/
theorem resolve_of_unwrap?_none {t : τ} (h : g.unwrap? t = none) : g.resolve t = ⟨t, false⟩ :=
  follow_of_unwrap?_none _ h

/-- A structured type resolves to itself. -/
theorem resolve_of_kind {t : τ} (h : (g.shape t).body.kind = .struct) : g.resolve t = ⟨t, false⟩ := by
  apply resolve_of_unwrap?_none
  rw [unwrap?]
  cases hbody : (g.shape t).body <;> simp_all [Body.kind, Body.unwrap?]

/-- Two runs along the chain of `t` end at the same type if the graphs have the same wrappers and the
runs have seen the same types of the chain. What one of them has been admitted in addition stays. -/
theorem follow_eq_follow {root root' t : τ} {seen seen' : List τ} {optional admits : Bool}
    (hunwrap : ∀ u, g'.unwrap? u = g.unwrap? u) (ht : t ∈ g.reach root) (ht' : t ∈ g'.reach root')
    (hseen : ∀ u, g.OnChain t u → (u ∈ seen' ↔ u ∈ seen)) :
    g'.follow root' seen' t (optional || admits) ht' =
      (g.follow root seen t optional ht).admitting admits := by
  -- the runs take the same turn at each type, because what is next is on the chain
  fun_induction follow g root seen t optional ht generalizing seen' with
  | case1 seen t optional ht hnone =>
    rw [follow_of_unwrap?_none ht' ((hunwrap t).trans hnone), Resolved.admitting]
  | case2 seen t optional ht next _ hsome hmem =>
    have hnext : g.OnChain t next := .single ⟨_, hsome⟩
    rw [follow_of_seen ht' ((hunwrap t).trans hsome) ((hseen next hnext).2 hmem), Resolved.admitting]
  | case3 seen t optional ht next more hsome hmem hn ih =>
    have hnext : g.OnChain t next := .single ⟨_, hsome⟩
    rw [follow_of_not_seen ht' ((hunwrap t).trans hsome) (mt (hseen next hnext).1 hmem),
      Bool.or_right_comm]
    apply ih
    intro u hu
    rw [List.mem_cons, List.mem_cons, hseen u (hnext.trans hu)]

/-- Graphs with the same wrappers resolve alike. -/
theorem resolve_congr (hunwrap : ∀ u, g'.unwrap? u = g.unwrap? u) (t : τ) :
    g'.resolve t = g.resolve t := by
  have hrun : g'.follow t [t] t (false || false) (g'.mem_reach_self t) =
      (g.follow t [t] t false (g.mem_reach_self t)).admitting false :=
    follow_eq_follow hunwrap _ _ fun _ _ => Iff.rfl
  rwa [Resolved.admitting_false] at hrun

/-- A wrapper that is not on the chain below it changes only whether a value may be absent. -/
theorem resolve_of_unwrap? {w t : τ} {admits : Bool} (h : g.unwrap? w = some (t, admits))
    (hchain : ¬ g.OnChain t w) : g.resolve w = (g.resolve t).admitting admits := by
  have hne : t ∉ [w] := by
    rw [List.mem_singleton]
    rintro rfl
    exact hchain .refl
  rw [resolve, follow_of_not_seen _ h hne]
  apply follow_eq_follow (fun _ => rfl)
  intro u hu
  -- the only type that the longer run has seen in addition is the wrapper
  have huw : u ≠ w := by
    rintro rfl
    exact hchain hu
  simp [huw]

/-- The same for wrappers upon wrappers. -/
theorem resolve_of_stack {w t : τ} {admits : Bool} (h : g.Stack w t admits) :
    g.resolve w = (g.resolve t).admitting admits := by
  induction h with
  | bare t => rw [Resolved.admitting_false]
  | wrap hunwrap hchain _ ih =>
    rw [resolve_of_unwrap? hunwrap hchain, ih, Resolved.admitting_admitting]

end TypeGraph

end TableSchema
