import TableSchema.Types.Expr
import TableSchema.Types.Graph

/-!
# Catalogs of declared types

A catalog is the finite list of types that a program declares. With the built-in types and the
wrappers around them it makes a type graph over type expressions: an expression leads to its own
parts and to the parts of the declared bodies, and to nothing else.
-/

namespace TableSchema

/-- A declared type. -/
structure Declaration where
  id : String
  typeName : String
  json : Bool
  body : Body TypeExpr
deriving DecidableEq, Repr

/-- The declared types of a program. -/
abbrev Catalog := List Declaration

namespace Catalog

/-- The declaration of a name; the first one counts. -/
def find? (c : Catalog) (id : String) : Option Declaration :=
  List.find? (·.id = id) c

/-- The printable name of a type. -/
def typeName (c : Catalog) : TypeExpr → String
  | .declared id => ((c.find? id).map Declaration.typeName).getD id
  | .leaf l => l.typeName
  | .wrapped w t => w.path ++ "<" ++ c.typeName t ++ ">"
  | .array t n => "[" ++ c.typeName t ++ "; " ++ toString n ++ "]"

/-- A leaf's body, over expressions. -/
def leafBody (l : Leaf) : Body TypeExpr :=
  match l.body with
  | .nullable carried => .nullable (.leaf carried)
  | .scalar s => .scalar s
  | .rawJson => .rawJson
  | _ => .hidden

/-- The body of a type. -/
def body (c : Catalog) : TypeExpr → Body TypeExpr
  | .declared id => ((c.find? id).map Declaration.body).getD .hidden
  | .leaf l => leafBody l
  | .wrapped w t => w.body t
  | .array t n => .array t n

/-- Whether a type carries the document marker. -/
def json (c : Catalog) : TypeExpr → Bool
  | .declared id => ((c.find? id).map Declaration.json).getD false
  | .wrapped w _ => w = .document
  | .leaf _ | .array .. => false

/-- The parts of all declared bodies. -/
def bodyParts (c : Catalog) : List TypeExpr :=
  c.flatMap fun d => d.body.mentions.flatMap TypeExpr.parts

/-- What the body of a built-in type mentions is a part of the type. -/
theorem leafBody_mentions {l : Leaf} {u : TypeExpr} (h : u ∈ (leafBody l).mentions) :
    ∀ v ∈ u.parts, v ∈ (TypeExpr.leaf l).parts := by
  cases l <;> simp_all [leafBody, Leaf.body, Body.mentions, TypeExpr.parts]

/-- What a part of an expression mentions is a part of the expression or of a declared body, with
all its own parts. -/
theorem parts_of_mentions (c : Catalog) {t u : TypeExpr} (h : u ∈ (c.body t).mentions) :
    (∀ v ∈ u.parts, v ∈ t.parts) ∨ ∀ v ∈ u.parts, v ∈ c.bodyParts := by
  cases t with
  | declared id =>
    right
    simp only [body] at h
    cases hd : c.find? id with
    | none => simp [hd, Body.mentions] at h
    | some d =>
      simp only [hd, Option.map_some, Option.getD_some] at h
      intro v hv
      exact List.mem_flatMap.2 ⟨d, List.mem_of_find?_eq_some hd, List.mem_flatMap.2 ⟨u, h, hv⟩⟩
  | leaf l => exact .inl (leafBody_mentions h)
  | wrapped w t =>
    left
    intro v hv
    cases w <;> simp_all [body, Wrapper.body, Body.mentions, TypeExpr.parts]
  | array t n =>
    left
    intro v hv
    simp_all [body, Body.mentions, TypeExpr.parts]

/-- The parts of a part are parts. -/
theorem parts_trans {s t : TypeExpr} (h : s ∈ t.parts) : ∀ v ∈ s.parts, v ∈ t.parts := by
  induction t with
  | declared id =>
    simp only [TypeExpr.parts, List.mem_singleton] at h
    exact fun v hv => h ▸ hv
  | leaf l => cases l <;> simp_all [TypeExpr.parts, Leaf.body] <;> grind [TypeExpr.parts, Leaf.body]
  | wrapped w t ih =>
    rcases List.mem_cons.1 h with rfl | h
    · exact fun v hv => hv
    · exact fun v hv => List.mem_cons_of_mem _ (ih h v hv)
  | array t n ih =>
    rcases List.mem_cons.1 h with rfl | h
    · exact fun v hv => hv
    · exact fun v hv => List.mem_cons_of_mem _ (ih h v hv)

/-- The parts of what a declared body's part is made of are among the declared bodies' parts. -/
theorem bodyParts_trans (c : Catalog) {t : TypeExpr} (h : t ∈ c.bodyParts) :
    ∀ v ∈ t.parts, v ∈ c.bodyParts := by
  obtain ⟨d, hd, hm⟩ := List.mem_flatMap.1 h
  obtain ⟨m, hm, ht⟩ := List.mem_flatMap.1 hm
  intro v hv
  exact List.mem_flatMap.2 ⟨d, hd, List.mem_flatMap.2 ⟨m, hm, parts_trans ht v hv⟩⟩

/-- The type graph of a catalog. -/
def graph (c : Catalog) : TypeGraph TypeExpr where
  shape t := ⟨c.typeName t, c.body t, c.json t⟩
  reach t := t.parts ++ c.bodyParts
  mem_reach_self t := List.mem_append_left _ t.mem_parts_self
  mem_reach_of_mentions {root t u} ht hu := by
    rcases parts_of_mentions c hu with h | h
    · rcases List.mem_append.1 ht with ht | ht
      · exact List.mem_append_left _ (parts_trans ht u (h u u.mem_parts_self))
      · exact List.mem_append_right _ (bodyParts_trans c ht u (h u u.mem_parts_self))
    · exact List.mem_append_right _ (h u u.mem_parts_self)

/-- Reads a type of the catalog from its notation. -/
def read? (c : Catalog) (text : String) : Option TypeExpr :=
  TypeExpr.read? (fun id => (c.find? id).isSome) text

end Catalog

end TableSchema
