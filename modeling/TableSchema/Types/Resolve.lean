import TableSchema.Types.Graph

/-!
# Resolution

A field's declared type is often a base type under several wrappers: pointers and nullable values.
Resolution takes the wrappers off and remembers whether one of them admits an absent value. A chain
of wrappers may lead back to a type it has left; then it ends at the wrapper that closes the cycle.
-/

namespace TableSchema

/-- The outcome of a resolution. -/
structure Resolved (τ : Type) where
  type : τ
  /-- Some wrapper on the way admits an absent value. -/
  optional : Bool
deriving DecidableEq, Repr

namespace TypeGraph

variable {τ : Type} [DecidableEq τ] (g : TypeGraph τ)

/-- Follows the wrappers from `t`, a type that `root` leads to. `seen` holds the types of the chain
up to `t`, and `optional` is what its wrappers have admitted so far. -/
def follow (root : τ) (seen : List τ) (t : τ) (optional : Bool) (ht : t ∈ g.reach root) :
    Resolved τ :=
  match h : g.unwrap? t with
  | none => ⟨t, optional⟩
  | some (next, admits) =>
    if _hs : next ∈ seen then ⟨t, optional⟩
    else
      have hn := g.mem_reach_of_unwrap? ht h
      follow root (next :: seen) next (optional || admits) hn
termination_by g.unseen root seen
decreasing_by exact g.unseen_cons_lt hn _hs

/-- The base type of `t`, and whether its wrappers admit an absent value. -/
def resolve (t : τ) : Resolved τ :=
  g.follow t [t] t false (g.mem_reach_self t)

/-- Resolution stopped at a wrapper, because the chain of wrappers is a cycle. -/
def isCyclic (t : τ) : Bool :=
  (g.unwrap? (g.resolve t).type).isSome

/-- Looking through wrappers stays among the types that can be reached. -/
theorem follow_mem_reach {root t : τ} {seen : List τ} {optional : Bool} (ht : t ∈ g.reach root)
    {top : τ} (htop : t ∈ g.reach top) :
    (g.follow root seen t optional ht).type ∈ g.reach top := by
  fun_induction follow g root seen t optional ht with
  | case1 => exact htop
  | case2 => exact htop
  | case3 seen t optional ht next admits h _ hn ih =>
    exact ih (g.mem_reach_of_unwrap? htop h)

/-- The base type is among the types that any type which leads to `t` leads to. -/
theorem resolve_mem_reach {root t : τ} (ht : t ∈ g.reach root) :
    (g.resolve t).type ∈ g.reach root :=
  g.follow_mem_reach _ ht

end TypeGraph

end TableSchema
