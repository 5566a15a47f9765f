import TableSchema.Proofs.Fields.Visibility
import TableSchema.Proofs.Table.Correspondence

/-!
# Type names as they are printed

A printed type name is a path, the type's own identifier and its type arguments. The identifier is
found by looking for the first bracket, which belongs to the arguments only if no segment of the path
has brackets of its own. The path of a type that is declared inside a method of a trait has some.

* `PrintedName` — the parts of a printed type name.
* `unqualifiedName_text_of_plain`, `unqualifiedName_text_of_bracket` — what is taken for the
  identifier.
* `Table.names_of_printedName` — the names of a table whose type chooses none.
-/

namespace TableSchema

-- ---------------------------------------------------------------------------
-- The last segment of a path
-- ---------------------------------------------------------------------------

/-- A text without a colon has no path in front. -/
theorem afterPath?_eq_none {s : List Char} (h : ':' ∉ s) : afterPath? s = none := by
  induction s with
  | nil => rfl
  | cons c rest ih =>
    have hc : ¬ (c = ':' ∧ rest.head? = some ':') := fun hc => h (by simp [hc.1])
    rw [afterPath?, ih fun hmem => h (List.mem_cons_of_mem c hmem), if_neg hc]
    rfl

/-- The last separator is the one that no colon follows. -/
theorem afterPath?_append {s : List Char} (h : ':' ∉ s) (u : List Char) :
    afterPath? (u ++ [':', ':'] ++ s) = some s := by
  induction u with
  | nil =>
    have hs : ¬ (':' = ':' ∧ s.head? = some ':') := fun hs => h (List.mem_of_mem_head? hs.2)
    rw [List.nil_append, List.cons_append, List.singleton_append, afterPath?, afterPath?,
      afterPath?_eq_none h, if_neg hs, if_pos ⟨rfl, rfl⟩]
    rfl
  | cons c u ih =>
    rw [List.cons_append, List.cons_append, afterPath?, ih]
    rfl

/-- The name of a type is what stands behind the path in front of its first bracket. -/
theorem unqualifiedName_eq (s : String) :
    unqualifiedName s =
      String.ofList ((afterPath? (s.toList.takeWhile (· ≠ '<'))).getD (s.toList.takeWhile (· ≠ '<'))) :=
  rfl

/-- A text without a bracket is taken as a whole. -/
theorem takeWhile_of_not_mem_bracket {s : List Char} (h : '<' ∉ s) (rest : List Char) :
    (s ++ rest).takeWhile (· ≠ '<') = s ++ rest.takeWhile (· ≠ '<') :=
  List.takeWhile_append_of_pos fun _ hc => decide_eq_true fun heq => h (heq ▸ hc)

/-- Nothing behind the first bracket reaches the name. -/
theorem unqualifiedName_of_bracket {front : List Char} (h : '<' ∉ front) (behind : List Char) :
    unqualifiedName (String.ofList (front ++ '<' :: behind)) =
      unqualifiedName (String.ofList front) := by
  have hcut : (front ++ '<' :: behind).takeWhile (· ≠ '<') = front.takeWhile (· ≠ '<') := by
    have hfront := takeWhile_of_not_mem_bracket h []
    rw [takeWhile_of_not_mem_bracket h, List.takeWhile_cons_of_neg (by decide)]
    rw [List.append_nil] at hfront
    rw [hfront, List.takeWhile_nil]
  rw [unqualifiedName_eq, unqualifiedName_eq, String.toList_ofList, String.toList_ofList, hcut]

-- ---------------------------------------------------------------------------
-- Printed names
-- ---------------------------------------------------------------------------

/-- The parts of a printed type name. Whether brackets match in the path and in the arguments does
not matter. -/
structure PrintedName where
  /-- The segments in front of the identifier with a separator behind each. -/
  path : List Char
  ident : List Char
  /-- The type arguments in their brackets, if there are any. -/
  arguments : List Char
  path_closed : path = [] ∨ [':', ':'] <:+ path
  ident_ne_nil : ident ≠ []
  ident_plain : ':' ∉ ident ∧ '<' ∉ ident ∧ '>' ∉ ident
  arguments_open : arguments = [] ∨ ['<'] <+: arguments

namespace PrintedName

/-- The name as it is printed. -/
def text (n : PrintedName) : String :=
  String.ofList (n.path ++ n.ident ++ n.arguments)

variable (n : PrintedName)

/-- Nothing is taken of the arguments of a type. -/
theorem takeWhile_arguments : n.arguments.takeWhile (· ≠ '<') = [] := by
  obtain h | ⟨rest, h⟩ := n.arguments_open
  · rw [h, List.takeWhile_nil]
  · rw [← h]
    exact List.takeWhile_cons_of_neg (by decide)

/-- Behind a path without brackets the identifier is found, whatever the arguments are. -/
theorem unqualifiedName_text_of_plain (hpath : '<' ∉ n.path) :
    unqualifiedName n.text = String.ofList n.ident := by
  have hcut : n.text.toList.takeWhile (· ≠ '<') = n.path ++ n.ident := by
    rw [text, String.toList_ofList, List.append_assoc, takeWhile_of_not_mem_bracket hpath,
      takeWhile_of_not_mem_bracket n.ident_plain.2.1, n.takeWhile_arguments, List.append_nil]
  rw [unqualifiedName_eq, hcut]
  obtain h | ⟨segments, h⟩ := n.path_closed
  · rw [h, List.nil_append, afterPath?_eq_none n.ident_plain.1]
    rfl
  · rw [← h, afterPath?_append n.ident_plain.1]
    rfl

/-- If a segment of the path has brackets, the path alone decides, as far as the first of them. -/
theorem unqualifiedName_text_of_bracket {front behind : List Char}
    (hpath : n.path = front ++ '<' :: behind) (hfront : '<' ∉ front) :
    unqualifiedName n.text = unqualifiedName (String.ofList front) := by
  rw [text, hpath, List.append_assoc, List.append_assoc, List.cons_append]
  exact unqualifiedName_of_bracket hfront _

end PrintedName

-- ---------------------------------------------------------------------------
-- The names of a table
-- ---------------------------------------------------------------------------

variable {τ : Type} [DecidableEq τ] {g : TypeGraph τ} (config : Config)

/-- A table whose type chooses no name is named for what is taken for the type's identifier, and it is
built exactly if its columns are. -/
theorem Table.build_map_names {root : τ} {options : TableOptions}
    (hkind : (g.shape (g.resolve root).type).body.kind = .struct) (hname : options.name = none) :
    (build g config root options).map (fun t => (t.name, t.sourceName)) =
      (columnsOf g config (snakeCase (unqualifiedName (g.shape (g.resolve root).type).typeName)) []
        (g.columnFields (g.resolve root).type)).map fun _ =>
          (snakeCase (unqualifiedName (g.shape (g.resolve root).type).typeName),
            unqualifiedName (g.shape (g.resolve root).type).typeName) := by
  have hdefault (typeName : String) : nameFor options typeName = snakeCase (unqualifiedName typeName) := by
    rw [nameFor, hname]
    rfl
  rw [build_of_struct hkind, hdefault]
  cases columnsOf g config (snakeCase (unqualifiedName (g.shape (g.resolve root).type).typeName)) []
    (g.columnFields (g.resolve root).type) with
  | error e => rfl
  | ok columns => exact congrArg (fun name => Except.ok (name, _)) (hdefault _)

/-- **A table without a name of its own is named for the identifier of its type, unless the path in
front of the identifier has brackets.** The arguments never matter. If a segment of the path has
brackets, as that of a method of a trait has, the identifier does not matter: the table is named for
what stands in front of the first bracket, which may be nothing. -/
theorem Table.names_of_printedName (n : PrintedName) {root : τ} {options : TableOptions}
    (hkind : (g.shape (g.resolve root).type).body.kind = .struct)
    (htext : (g.shape (g.resolve root).type).typeName = n.text) (hname : options.name = none) :
    (build g config root options).map (fun t => (t.name, t.sourceName)) =
        (columnsOf g config (snakeCase (unqualifiedName n.text)) []
          (g.columnFields (g.resolve root).type)).map
            (fun _ => (snakeCase (unqualifiedName n.text), unqualifiedName n.text)) ∧
      ('<' ∉ n.path → unqualifiedName n.text = String.ofList n.ident) ∧
      (∀ front behind : List Char, n.path = front ++ '<' :: behind → '<' ∉ front →
        unqualifiedName n.text = unqualifiedName (String.ofList front)) := by
  refine ⟨?_, n.unqualifiedName_text_of_plain,
    fun _ _ hpath => n.unqualifiedName_text_of_bracket hpath⟩
  rw [← htext]
  exact build_map_names config hkind hname

/-- A program whose only type is a structured type without fields. -/
def bareStruct (typeName : String) : TypeGraph Unit where
  shape _ := { typeName, body := .struct [], json := false }
  reach _ := [()]
  mem_reach_self _ := List.mem_singleton.2 rfl
  mem_reach_of_mentions _ _ := List.mem_singleton.2 rfl

theorem bareStruct_resolve (typeName : String) : (bareStruct typeName).resolve () = ⟨(), false⟩ :=
  TypeGraph.resolve_of_unwrap?_none rfl

/-- `app::Row<alloc::vec::Vec<u8>>`. -/
def genericRow : PrintedName where
  path := "app::".toList
  ident := "Row".toList
  arguments := "<alloc::vec::Vec<u8>>".toList
  path_closed := .inr ⟨"app".toList, by decide⟩
  ident_ne_nil := by decide
  ident_plain := by decide
  arguments_open := .inr ⟨"alloc::vec::Vec<u8>>".toList, by decide⟩

/-- `<app::X as app::Tr>::build::Row`. -/
def methodRow : PrintedName where
  path := "<app::X as app::Tr>::build::".toList
  ident := "Row".toList
  arguments := []
  path_closed := .inr ⟨"<app::X as app::Tr>::build".toList, by decide⟩
  ident_ne_nil := by decide
  ident_plain := by decide
  arguments_open := .inl rfl

/-- The two rows: one is named for its identifier, the other one has no name at all. -/
theorem Table.names_of_printedName_rows :
    (build (bareStruct genericRow.text) {} () {}).map (fun t => (t.name, t.sourceName)) =
        .ok ("row", "Row") ∧
      (build (bareStruct methodRow.text) {} () {}).map (fun t => (t.name, t.sourceName)) =
        .ok ("", "") := by
  have hshape (typeName : String) :
      (bareStruct typeName).shape ((bareStruct typeName).resolve ()).type =
        { typeName, body := .struct [], json := false } := rfl
  have hcolumns (typeName table : String) :
      columnsOf (bareStruct typeName) {} table []
        ((bareStruct typeName).columnFields ((bareStruct typeName).resolve ()).type) = .ok [] := by
    rw [bareStruct_resolve, TypeGraph.columnFields_of_ownFields_nil rfl, columnsOf]
  have hunnamed : ({} : TableOptions).name = none := rfl
  constructor
  · obtain ⟨hbuild, hplain, -⟩ := names_of_printedName {} genericRow
      (congrArg (·.body.kind) (hshape genericRow.text)) (congrArg (·.typeName) (hshape _)) hunnamed
    have hident : unqualifiedName genericRow.text = "Row" := hplain (by decide)
    rw [hbuild, hcolumns, hident, show snakeCase "Row" = "row" by decide +kernel]
    rfl
  · obtain ⟨hbuild, -, hbracket⟩ := names_of_printedName {} methodRow
      (congrArg (·.body.kind) (hshape methodRow.text)) (congrArg (·.typeName) (hshape _)) hunnamed
    have hnothing : unqualifiedName methodRow.text = "" :=
      hbracket [] "app::X as app::Tr>::build::".toList (by decide) List.not_mem_nil
    rw [hbuild, hcolumns, hnothing, show snakeCase "" = "" by decide +kernel]
    rfl

end TableSchema
