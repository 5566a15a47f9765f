import TableSchema.Types.Resolve

/-!
# Visible fields

A structured type may embed another one, and the fields of the embedded type then count as its own.
The fields of an embedded type follow the field that embeds it, one level deeper. A name that occurs
at several depths means its shallowest field; a name that occurs twice at its smallest depth is
ambiguous and means none.

* `occurrences` — every field that the type has, its own or through embedding.
* `visibleFields` — those that their names mean.
-/

namespace TableSchema

/-- A field at its place in a structured type. -/
structure Occurrence (τ : Type) where
  field : Field τ
  /-- The number of embeddings that lead to the field. -/
  depth : Nat
  /-- The field embeds a structured type, whose fields stand for it. -/
  promoted : Bool
deriving DecidableEq, Repr

namespace TypeGraph

variable {τ : Type} [DecidableEq τ] (g : TypeGraph τ)

/-- The structured type that a field embeds, and its fields. -/
def embedding? (f : Field τ) : Option (τ × List (Field τ)) :=
  if f.embedded then
    let base := (g.resolve f.type).type
    (g.fields? base).map (base, ·)
  else none

/-- What a field embeds is its base type, with all the fields of that type. -/
theorem resolve_of_embedding? {f : Field τ} {inner : τ} {fields : List (Field τ)}
    (h : g.embedding? f = some (inner, fields)) :
    (g.resolve f.type).type = inner ∧ g.fields? inner = some fields := by
  rw [embedding?] at h
  split at h
  · obtain ⟨found, hfound, heq⟩ := Option.map_eq_some_iff.1 h
    obtain ⟨rfl, rfl⟩ := Prod.mk.injEq .. ▸ heq
    exact ⟨rfl, hfound⟩
  · simp at h

/-- The fields given and all that they embed, in order. `path` holds the types that are being
embedded, the innermost first; a type on the path is not entered again. -/
def occurrencesFrom (root : τ) (path : List τ) (depth : Nat) :
    (fields : List (Field τ)) → (∀ f ∈ fields, f.type ∈ g.reach root) → List (Occurrence τ)
  | [], _ => []
  | f :: rest, hfields =>
    have hrest : ∀ f' ∈ rest, f'.type ∈ g.reach root :=
      fun f' hf' => hfields f' (List.mem_cons_of_mem f hf')
    let later := occurrencesFrom root path depth rest hrest
    match h : g.embedding? f with
    | none => ⟨f, depth, false⟩ :: later
    | some (inner, innerFields) =>
      if _hp : inner ∈ path then ⟨f, depth, true⟩ :: later
      else
        have hinner : inner ∈ g.reach root :=
          (g.resolve_of_embedding? h).1 ▸ g.resolve_mem_reach (hfields f List.mem_cons_self)
        have hinnerFields : ∀ f' ∈ innerFields, f'.type ∈ g.reach root :=
          fun _ hf' => g.mem_reach_of_fields? hinner (g.resolve_of_embedding? h).2 hf'
        ⟨f, depth, true⟩ ::
          (occurrencesFrom root (inner :: path) (depth + 1) innerFields hinnerFields ++ later)
termination_by fields => (g.unseen root path, fields.length)
decreasing_by
  · exact Prod.Lex.right _ (Nat.lt_succ_self _)
  · exact Prod.Lex.left _ _ (g.unseen_cons_lt hinner _hp)

/-- Every field of a type, its own and those of the types it embeds. A type that is not structured
has none. -/
def occurrences (t : τ) : List (Occurrence τ) :=
  match h : g.fields? t with
  | none => []
  | some fields =>
    g.occurrencesFrom t [t] 0 fields fun _ hf =>
      g.mem_reach_of_fields? (g.mem_reach_self t) h hf

end TypeGraph

/-- The smallest depth at which a name occurs, and how often it occurs there. -/
structure Standing where
  depth : Nat
  count : Nat
deriving DecidableEq, Repr

/-- The standing after one more occurrence at the given depth. -/
def Standing.add (depth : Nat) : Option Standing → Standing
  | none => ⟨depth, 1⟩
  | some s =>
    if depth < s.depth then ⟨depth, 1⟩
    else if depth = s.depth then ⟨s.depth, s.count + 1⟩
    else s

/-- The standing of a name in a list of occurrences. -/
def standing? {τ : Type} (name : String) (all : List (Occurrence τ)) : Option Standing :=
  all.foldl (fun s o => if o.field.name = name then some (Standing.add o.depth s) else s) none

/-- Keeps the occurrences that are the only one of their name at that name's smallest depth. -/
def unshadowed {τ : Type} (all : List (Occurrence τ)) : List (Occurrence τ) :=
  all.filter fun o => standing? o.field.name all = some ⟨o.depth, 1⟩

/-- The fields that the names of a type mean, in order. Embedding fields are among them. -/
def TypeGraph.visibleFields {τ : Type} [DecidableEq τ] (g : TypeGraph τ) (t : τ) :
    List (Occurrence τ) :=
  unshadowed (g.occurrences t)

/-- The visible fields that are candidates for columns: those that do not embed a structured
type. -/
def TypeGraph.columnFields {τ : Type} [DecidableEq τ] (g : TypeGraph τ) (t : τ) :
    List (Field τ) :=
  ((g.visibleFields t).filter (!·.promoted)).map Occurrence.field

end TableSchema
