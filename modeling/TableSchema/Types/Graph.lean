import TableSchema.Types.Shape

/-!
# Type graphs

The types of a program, known by their identities. Types may refer to each other in cycles, and a
program may have infinitely many of them, but what one type leads to is finite: `reach` lists it.
That list is what makes a walk along the graph end.
-/

namespace TableSchema

/-- A program's types. -/
structure TypeGraph (τ : Type) where
  shape : τ → Shape τ
  /-- Finitely many types that include the given one and every type they mention. -/
  reach : τ → List τ
  mem_reach_self : ∀ t, t ∈ reach t
  mem_reach_of_mentions : ∀ {root t u : τ},
    t ∈ reach root → u ∈ (shape t).body.mentions → u ∈ reach root

namespace TypeGraph

variable {τ : Type} (g : TypeGraph τ)

/-- The fields of a structured type. -/
def fields? (t : τ) : Option (List (Field τ)) :=
  (g.shape t).body.fields?

/-- What is under the outer wrapper of a type. -/
def unwrap? (t : τ) : Option (τ × Bool) :=
  (g.shape t).body.unwrap?

/-- What a wrapper wraps can be reached from wherever the wrapper can. -/
theorem mem_reach_of_unwrap? {root t u : τ} {optional : Bool} (ht : t ∈ g.reach root)
    (h : g.unwrap? t = some (u, optional)) : u ∈ g.reach root :=
  g.mem_reach_of_mentions ht (Body.mem_mentions_of_unwrap? h)

/-- The types of fields can be reached from wherever the structure can. -/
theorem mem_reach_of_fields? {root t : τ} {fields : List (Field τ)} {f : Field τ}
    (ht : t ∈ g.reach root) (h : g.fields? t = some fields) (hf : f ∈ fields) :
    f.type ∈ g.reach root :=
  g.mem_reach_of_mentions ht (Body.mem_mentions_of_fields? h hf)

variable [DecidableEq τ]

/-- How many of the types that `root` leads to are not in `seen`. -/
def unseen (root : τ) (seen : List τ) : Nat :=
  (g.reach root).countP (· ∉ seen)

/-- Seeing one more type leaves fewer. -/
theorem unseen_cons_lt {root t : τ} {seen : List τ} (ht : t ∈ g.reach root) (hs : t ∉ seen) :
    g.unseen root (t :: seen) < g.unseen root seen := by
  have count : ∀ types : List τ, t ∈ types →
      types.countP (fun x => decide (x ∉ t :: seen)) < types.countP (fun x => decide (x ∉ seen)) := by
    intro types hmem
    induction types with
    | nil => simp at hmem
    | cons u rest ih =>
      have hle : rest.countP (fun x => decide (x ∉ t :: seen)) ≤
          rest.countP (fun x => decide (x ∉ seen)) :=
        List.countP_mono_left fun x _ hx => by simp_all
      rw [List.countP_cons, List.countP_cons]
      by_cases hu : u = t
      · simpa [hu, hs, Nat.lt_succ_iff] using hle
      · have := ih ((List.mem_cons.1 hmem).resolve_left (Ne.symm hu))
        simp only [List.mem_cons, hu, false_or] at this ⊢
        omega
  exact count _ ht

/-- A program with finitely many types, numbered in the given order. -/
def ofShapes {n : Nat} (shapes : Vector (Shape (Fin n)) n) : TypeGraph (Fin n) where
  shape := shapes.get
  reach _ := List.finRange n
  mem_reach_self := List.mem_finRange
  mem_reach_of_mentions _ _ := List.mem_finRange _

end TypeGraph

end TableSchema
