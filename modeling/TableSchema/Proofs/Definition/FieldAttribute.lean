import Mathlib.Data.List.Nodup
import Mathlib.Tactic.ByContra
import TableSchema.Proofs.Definition.Attribute

/-!
# What the attributes of a field say

A field gets its texts in two ways, from a schema attribute that is given one and from the items of a
tag attribute. The attributes are read one after the other, and a key takes a single text, whichever way
it comes. What is said is a function of all texts in order, and of one word that may stand in a schema
attribute.

* `Attribute.annotations`, `keys` — the texts that attributes give, each under its key.
* `Attribute.SaysOfField`, `Attribute.RefusedOfField` — the attributes that a field can have, and the
  others.
* `addTag_eq_ok_iff`, `addAttribute_eq_ok_iff`, `fieldOptions_eq_ok_iff` — what is read, by the step, the
  attribute and the run over attributes. The invariant is that all keys are different.
* `RefusedOfField`, `exists_fieldOptions_error_iff` — when a field is refused for its attributes.
-/

namespace TableSchema.Definition

-- ---------------------------------------------------------------------------
-- Attributes
-- ---------------------------------------------------------------------------

/-- The text that a form assigns. -/
def Form.text? : Form → Option String
  | .assigned (.text text false) => some text
  | .bare | .assigned _ | .list _ => none

/-- The annotations that an attribute of a field carries: the text of a schema attribute under the name
of that attribute, and the items of a tag attribute. -/
def Attribute.annotations (a : Attribute) : List (String × String) :=
  if a.name = schemaAttribute then a.form.text?.toList.map (schemaAttribute, ·)
  else if a.name = tagAttribute then a.form.items.filterMap Item.assignment?
  else []

/-- The keys of all annotations in order. -/
def keys (attributes : List Attribute) : List String :=
  (attributes.flatMap Attribute.annotations).map Prod.fst

/-- The attributes give a text under a key, in one of the two ways. -/
inductive Written (attributes : List Attribute) : String → String → Prop
  | schema {text : String} (mem : ⟨schemaAttribute, .assigned (.text text false)⟩ ∈ attributes) :
      Written attributes schemaAttribute text
  | tag {items : List Item} {key text : String} (mem : ⟨tagAttribute, .list items⟩ ∈ attributes)
      (item : .assign key text ∈ items) : Written attributes key text

/-- An annotation has a text if it is assigned a literal without suffix. -/
theorem Form.text?_eq_some_iff {form : Form} {text : String} :
    form.text? = some text ↔ form = .assigned (.text text false) := by
  constructor
  · intro h
    unfold Form.text? at h
    split at h
    · obtain rfl := Option.some.inj h
      rfl
    · cases h
    · cases h
    · cases h
  · rintro rfl
    rfl

/-- The annotations of a field are the pairs that are written there, in either way. -/
theorem mem_annotations_iff {attributes : List Attribute} {key text : String} :
    (key, text) ∈ attributes.flatMap Attribute.annotations ↔ Written attributes key text := by
  rw [List.mem_flatMap]
  constructor
  · rintro ⟨⟨name, form⟩, ha, hmem⟩
    rw [Attribute.annotations] at hmem
    split_ifs at hmem with hschema htag
    · obtain rfl := hschema
      obtain ⟨text', htext, hpair⟩ := List.mem_map.mp hmem
      obtain rfl := Form.text?_eq_some_iff.mp (Option.mem_toList.mp htext)
      cases hpair
      exact .schema ha
    · obtain rfl := htag
      obtain ⟨i, hi, hassign⟩ := List.mem_filterMap.mp hmem
      obtain rfl := Item.assignment?_eq_some_iff.mp hassign
      cases form with
      | bare | assigned => cases hi
      | list items => exact .tag ha hi
    · cases hmem
  · intro h
    cases h with
    | schema hmem => exact ⟨_, hmem, List.mem_singleton_self _⟩
    | tag hmem hitem =>
      exact ⟨_, hmem, List.mem_filterMap.mpr ⟨_, hitem, Item.assignment?_eq_some_iff.mpr rfl⟩⟩

/-- The word that embeds a field stands in a list of the schema's own annotation. -/
theorem embed_mem_schemaItems_iff {attributes : List Attribute} :
    .bare "embed" ∈ schemaItems attributes ↔
      ∃ items, ⟨schemaAttribute, .list items⟩ ∈ attributes ∧ .bare "embed" ∈ items := by
  rw [schemaItems, List.mem_flatMap]
  constructor
  · rintro ⟨⟨name, form⟩, ha, hmem⟩
    rw [Attribute.schemaItems] at hmem
    split_ifs at hmem with hschema
    · obtain rfl := hschema
      cases form with
      | bare | assigned => cases hmem
      | list items => exact ⟨items, ha, hmem⟩
    · cases hmem
  · rintro ⟨items, hmem, hembed⟩
    exact ⟨_, hmem, hembed⟩

namespace Attribute

/-- The attribute is one that a field can have. -/
inductive SaysOfField : Attribute → Prop
  | text (content : String) : SaysOfField ⟨schemaAttribute, .assigned (.text content false)⟩
  | words {items : List Item} (words : ∀ i ∈ items, i = .bare "embed") :
      SaysOfField ⟨schemaAttribute, .list items⟩
  | tags {items : List Item} (tags : ∀ i ∈ items, ∃ key text, i = .assign key text) :
      SaysOfField ⟨tagAttribute, .list items⟩
  /-- What attributes of other names say does not matter. -/
  | foreign {a : Attribute} (schema : a.name ≠ schemaAttribute) (tag : a.name ≠ tagAttribute) :
      SaysOfField a

/-- The attribute is a reason to refuse a field. -/
inductive RefusedOfField : Attribute → Prop
  | bare : RefusedOfField ⟨schemaAttribute, .bare⟩
  /-- It is given something that is no text, or more than a text. -/
  | value {operand : Operand} (noText : ∀ content, operand ≠ .text content false) :
      RefusedOfField ⟨schemaAttribute, .assigned operand⟩
  | word {items : List Item} {i : Item} (mem : i ∈ items) (other : i ≠ .bare "embed") :
      RefusedOfField ⟨schemaAttribute, .list items⟩
  | notList {form : Form} (noList : ∀ items, form ≠ .list items) :
      RefusedOfField ⟨tagAttribute, form⟩
  | item {items : List Item} {i : Item} (mem : i ∈ items) (other : ∀ key text, i ≠ .assign key text) :
      RefusedOfField ⟨tagAttribute, .list items⟩

theorem schemaAttribute_ne_tagAttribute : schemaAttribute ≠ tagAttribute := by decide

section

variable {a : Attribute}

/-- The schema's own annotation may be a text, or a list of the word that embeds. -/
theorem saysOfField_schema_iff (h : a.name = schemaAttribute) :
    a.SaysOfField ↔ (∃ content, a.form = .assigned (.text content false)) ∨
      ∃ items, a.form = .list items ∧ ∀ i ∈ items, i = .bare "embed" := by
  constructor
  · intro hallowed
    cases hallowed with
    | text content => exact .inl ⟨content, rfl⟩
    | words hwords => exact .inr ⟨_, rfl, hwords⟩
    | tags => exact absurd h.symm schemaAttribute_ne_tagAttribute
    | foreign hschema => exact absurd h hschema
  · obtain ⟨name, form⟩ := a
    obtain rfl : name = schemaAttribute := h
    rintro (⟨content, rfl⟩ | ⟨items, rfl, hwords⟩)
    · exact .text content
    · exact .words hwords

/-- An annotation for other keys is a list of assignments. -/
theorem saysOfField_tag_iff (h : a.name = tagAttribute) :
    a.SaysOfField ↔
      ∃ items, a.form = .list items ∧ ∀ i ∈ items, ∃ key text, i = .assign key text := by
  constructor
  · intro hallowed
    cases hallowed with
    | text | words => exact absurd h schemaAttribute_ne_tagAttribute
    | tags htags => exact ⟨_, rfl, htags⟩
    | foreign _ htag => exact absurd h htag
  · obtain ⟨name, form⟩ := a
    obtain rfl : name = tagAttribute := h
    rintro ⟨items, rfl, htags⟩
    exact .tags htags

/-- What is refused on a field is what is not allowed there. -/
theorem refusedOfField_iff : a.RefusedOfField ↔ ¬ a.SaysOfField := by
  constructor
  · intro h hallowed
    cases h with
    | bare => simp [saysOfField_schema_iff] at hallowed
    | value hnoText => simp [saysOfField_schema_iff, hnoText] at hallowed
    | word hmem hother =>
      rcases (saysOfField_schema_iff rfl).mp hallowed with ⟨_, hform⟩ | ⟨_, hform, hwords⟩
      · cases hform
      · cases hform
        exact hother (hwords _ hmem)
    | notList hnoList => simp [saysOfField_tag_iff, hnoList] at hallowed
    | item hmem hother =>
      obtain ⟨_, hform, htags⟩ := (saysOfField_tag_iff rfl).mp hallowed
      cases hform
      obtain ⟨key, text, hi⟩ := htags _ hmem
      exact hother key text hi
  · intro h
    obtain ⟨name, form⟩ := a
    by_cases hschema : name = schemaAttribute
    · obtain rfl := hschema
      cases form with
      | bare => exact .bare
      | assigned operand =>
        refine .value ?_
        rintro content rfl
        exact h (.text content)
      | list items =>
        have hword : ∃ i ∈ items, i ≠ .bare "embed" := by
          by_contra! hwords
          exact h (.words hwords)
        obtain ⟨i, hi, hother⟩ := hword
        exact .word hi hother
    · by_cases htag : name = tagAttribute
      · obtain rfl := htag
        cases form with
        | bare | assigned => exact .notList (by simp)
        | list items =>
          have hitem : ∃ i ∈ items, ∀ key text, i ≠ .assign key text := by
            by_contra! htags
            exact h (.tags htags)
          obtain ⟨i, hi, hother⟩ := hitem
          exact .item hi hother
      · exact absurd (.foreign hschema htag) h

end

end Attribute

-- ---------------------------------------------------------------------------
-- Items
-- ---------------------------------------------------------------------------

/-- The items that are read as annotations are the assignments. -/
theorem Item.tag_eq_ok_iff {i : Item} {a : String × String} :
    i.tag = .ok a ↔ i.assignment? = some a := by
  rw [assignment?_eq_some_iff, eq_assign_iff]
  constructor
  · intro h
    rw [Item.tag] at h
    obtain ⟨word, hword, h⟩ := bind_eq_ok_iff.mp h
    cases word with
    | none => cases h
    | some key =>
      obtain ⟨text, htext, h⟩ := bind_eq_ok_iff.mp h
      obtain ⟨⟨⟩, hend, h⟩ := bind_eq_ok_iff.mp h
      obtain rfl := Except.ok.inj h
      exact ⟨hword, htext, hend⟩
  · rintro ⟨hword, htext, hend⟩
    rw [Item.tag, hword]
    show (i.text.bind _ : Except AttributeError (String × String)) = _
    rw [htext]
    show (i.endAfterText.bind _ : Except AttributeError (String × String)) = _
    rw [hend]
    rfl

theorem Item.mapM_tag_eq_ok {items : List Item} {tags : List (String × String)}
    (h : items.mapM Item.tag = .ok tags) : tags = items.filterMap assignment? := by
  rw [mapM_eq_ok_iff] at h
  induction h with
  | nil => rfl
  | cons htag _ ih => rw [List.filterMap_cons_some (tag_eq_ok_iff.mp htag), ← ih]

theorem Item.exists_tag_iff {i : Item} :
    (∃ tag, i.tag = .ok tag) ↔ ∃ key text, i = .assign key text := by
  simp only [tag_eq_ok_iff, assignment?_eq_some_iff, Prod.exists]

/-- A list is read as annotations exactly if all of its items are assignments. -/
theorem Item.mapM_tag_eq_ok_iff {items : List Item} {tags : List (String × String)} :
    items.mapM Item.tag = .ok tags ↔
      (∀ i ∈ items, ∃ key text, i = .assign key text) ∧ tags = items.filterMap assignment? := by
  simp only [← Item.exists_tag_iff]
  constructor
  · intro h
    exact ⟨exists_mapM_iff.mp ⟨tags, h⟩, mapM_tag_eq_ok h⟩
  · rintro ⟨hitems, rfl⟩
    obtain ⟨tags, htags⟩ := exists_mapM_iff.mpr hitems
    rw [htags, mapM_tag_eq_ok htags]

-- ---------------------------------------------------------------------------
-- Reading
-- ---------------------------------------------------------------------------

namespace FieldOptions

variable {o o' : FieldOptions}

/-- An annotation is added if its key is new, and then behind the others. -/
theorem addTag_eq_ok_iff {tag : String × String} :
    o.addTag tag = .ok o' ↔
      tag.1 ∉ o.tags.map Prod.fst ∧ o' = { o with tags := o.tags ++ [tag] } := by
  rw [addTag]
  by_cases h : tag.1 ∈ o.tags.map Prod.fst
  · have hany : o.tags.any (·.1 = tag.1) = true := by simpa using h
    simp [hany, h]
  · have hany : ¬ o.tags.any (·.1 = tag.1) = true := by simpa using h
    rw [if_neg hany, and_iff_right h, Except.ok.injEq, eq_comm]

/-- Keys stay different if the new one is not among them. -/
theorem nodup_concat_iff {tags : List (String × String)} {tag : String × String}
    (h : (tags.map Prod.fst).Nodup) :
    ((tags ++ [tag]).map Prod.fst).Nodup ↔ tag.1 ∉ tags.map Prod.fst := by
  rw [List.map_append, List.map_singleton, List.nodup_append_comm, List.singleton_append,
    List.nodup_cons, and_iff_left h]

/-- Texts can be added one after the other if all keys, those of the texts that are there included, are
different. -/
theorem foldlM_addTag_eq_ok_iff {tags : List (String × String)} (hkeys : (o.tags.map Prod.fst).Nodup) :
    tags.foldlM addTag o = .ok o' ↔
      ((o.tags ++ tags).map Prod.fst).Nodup ∧ o' = { o with tags := o.tags ++ tags } := by
  induction tags generalizing o with
  | nil =>
    rw [List.append_nil, and_iff_right hkeys]
    exact ⟨fun h => (Except.ok.inj h).symm, congrArg Except.ok ∘ Eq.symm⟩
  | cons tag rest ih =>
    have hassoc : o.tags ++ tag :: rest = o.tags ++ [tag] ++ rest := by simp
    rw [List.foldlM_cons, hassoc]
    constructor
    · intro h
      obtain ⟨next, hnext, h⟩ := bind_eq_ok_iff.mp h
      obtain ⟨hfresh, rfl⟩ := addTag_eq_ok_iff.mp hnext
      exact (ih ((nodup_concat_iff hkeys).mpr hfresh)).mp h
    · rintro ⟨hnodup, rfl⟩
      have hfirst : ((o.tags ++ [tag]).map Prod.fst).Nodup := by
        rw [List.map_append] at hnodup
        exact hnodup.of_append_left
      have hfresh := (nodup_concat_iff hkeys).mp hfirst
      exact bind_eq_ok_iff.mpr
        ⟨_, addTag_eq_ok_iff.mpr ⟨hfresh, rfl⟩, (ih hfirst).mpr ⟨hnodup, rfl⟩⟩

/-- The only word that a field accepts is the one that embeds it. -/
theorem addWord_eq_ok_iff {i : Item} :
    o.addWord i = .ok o' ↔ i = .bare "embed" ∧ o' = { o with embedded := true } := by
  constructor
  · intro h
    rw [addWord] at h
    obtain ⟨word, hword, h⟩ := bind_eq_ok_iff.mp h
    split at h
    · obtain ⟨⟨⟩, hend, h⟩ := bind_eq_ok_iff.mp h
      exact ⟨Item.eq_bare_iff.mpr ⟨hword, hend⟩, (Except.ok.inj h).symm⟩
    · cases h
  · rintro ⟨rfl, rfl⟩
    rfl

/-- A list of words embeds a field if the one word stands in it at all, however often. -/
theorem foldlM_addWord_eq_ok_iff {items : List Item} :
    items.foldlM addWord o = .ok o' ↔ (∀ i ∈ items, i = .bare "embed") ∧
      o' = { o with embedded := o.embedded || decide (.bare "embed" ∈ items) } := by
  induction items generalizing o with
  | nil =>
    simp [pure, Except.pure, eq_comm]
  | cons i rest ih =>
    rw [List.foldlM_cons, List.forall_mem_cons]
    constructor
    · intro h
      obtain ⟨next, hnext, h⟩ := bind_eq_ok_iff.mp h
      obtain ⟨rfl, rfl⟩ := addWord_eq_ok_iff.mp hnext
      obtain ⟨hrest, rfl⟩ := ih.mp h
      exact ⟨⟨rfl, hrest⟩, by simp⟩
    · rintro ⟨⟨rfl, hrest⟩, rfl⟩
      exact bind_eq_ok_iff.mpr ⟨_, addWord_eq_ok_iff.mpr ⟨rfl, rfl⟩, ih.mpr ⟨hrest, by simp⟩⟩

/-- An attribute can be read if a field can have it and its texts come under new keys. -/
theorem addAttribute_eq_ok_iff {a : Attribute} (hkeys : (o.tags.map Prod.fst).Nodup) :
    o.addAttribute a = .ok o' ↔
      a.SaysOfField ∧ ((o.tags ++ a.annotations).map Prod.fst).Nodup ∧
      o' = ⟨o.tags ++ a.annotations, o.embedded || decide (.bare "embed" ∈ a.schemaItems)⟩ := by
  obtain ⟨name, form⟩ := a
  by_cases hschema : name = schemaAttribute
  · obtain rfl := hschema
    rw [Attribute.saysOfField_schema_iff rfl]
    cases form with
    | bare => simp [addAttribute]
    | list items =>
      show items.foldlM addWord o = .ok o' ↔ _
      have hnone : Attribute.annotations ⟨schemaAttribute, .list items⟩ = [] := rfl
      have hitems : Attribute.schemaItems ⟨schemaAttribute, .list items⟩ = items := rfl
      rw [foldlM_addWord_eq_ok_iff, hnone, hitems, List.append_nil]
      simp [hkeys]
    | assigned operand =>
      cases operand with
      | other | missing => simp [addAttribute]
      | text content more =>
        cases more with
        | true => simp [addAttribute]
        | false =>
          show o.addTag (schemaAttribute, content) = .ok o' ↔ _
          have hone : Attribute.annotations ⟨schemaAttribute, .assigned (.text content false)⟩ =
              [(schemaAttribute, content)] := rfl
          have hitems : Attribute.schemaItems
              ⟨schemaAttribute, .assigned (.text content false)⟩ = [] := rfl
          rw [addTag_eq_ok_iff, hone, hitems, nodup_concat_iff hkeys]
          simp
  · have hembed : decide (.bare "embed" ∈ Attribute.schemaItems ⟨name, form⟩) = false := by
      rw [Attribute.schemaItems, if_neg hschema]
      rfl
    rw [hembed, Bool.or_false, addAttribute, if_neg hschema, Attribute.annotations, if_neg hschema]
    by_cases htag : name = tagAttribute
    · rw [Attribute.saysOfField_tag_iff htag, if_pos htag, if_pos htag]
      cases form with
      | bare | assigned => simp [Attribute.items, bind, Except.bind]
      | list items =>
        show (items.mapM Item.tag).bind (·.foldlM addTag o) = .ok o' ↔ _
        rw [bind_eq_ok_iff]
        constructor
        · rintro ⟨tags, htags, h⟩
          obtain ⟨hassign, rfl⟩ := Item.mapM_tag_eq_ok_iff.mp htags
          obtain ⟨hnodup, rfl⟩ := (foldlM_addTag_eq_ok_iff hkeys).mp h
          exact ⟨⟨items, rfl, hassign⟩, hnodup, rfl⟩
        · rintro ⟨⟨_, hform, hassign⟩, hnodup, rfl⟩
          cases hform
          exact ⟨_, Item.mapM_tag_eq_ok_iff.mpr ⟨hassign, rfl⟩,
            (foldlM_addTag_eq_ok_iff hkeys).mpr ⟨hnodup, rfl⟩⟩
    · rw [if_neg htag, if_neg htag, List.append_nil, and_iff_right (.foreign hschema htag),
        and_iff_right hkeys, Except.ok.injEq, eq_comm]

/-- Somebody else's annotation does nothing. -/
theorem addAttribute_of_foreign {a : Attribute} (hschema : a.name ≠ schemaAttribute)
    (htag : a.name ≠ tagAttribute) : o.addAttribute a = .ok o := by
  rw [addAttribute, if_neg hschema, if_neg htag]

/-- The annotations of a field are accepted exactly if each of them may stand there and all keys are
different; then they are all added, in order. -/
theorem foldlM_addAttribute_eq_ok_iff {attributes : List Attribute}
    (hkeys : (o.tags.map Prod.fst).Nodup) :
    attributes.foldlM addAttribute o = .ok o' ↔
      (∀ a ∈ attributes, a.SaysOfField) ∧
      ((o.tags ++ attributes.flatMap Attribute.annotations).map Prod.fst).Nodup ∧
      o' = ⟨o.tags ++ attributes.flatMap Attribute.annotations,
        o.embedded || decide (.bare "embed" ∈ schemaItems attributes)⟩ := by
  induction attributes generalizing o with
  | nil =>
    simp [hkeys, schemaItems, pure, Except.pure, eq_comm]
  | cons a rest ih =>
    have hembed : decide (.bare "embed" ∈ schemaItems (a :: rest)) =
        (decide (.bare "embed" ∈ a.schemaItems) || decide (.bare "embed" ∈ schemaItems rest)) := by
      simp [schemaItems]
    rw [List.foldlM_cons, List.forall_mem_cons, List.flatMap_cons, ← List.append_assoc, hembed,
      ← Bool.or_assoc]
    constructor
    · intro h
      obtain ⟨next, hnext, h⟩ := bind_eq_ok_iff.mp h
      obtain ⟨hallowed, hnodup, rfl⟩ := (addAttribute_eq_ok_iff hkeys).mp hnext
      obtain ⟨hrest, h⟩ := (ih hnodup).mp h
      exact ⟨⟨hallowed, hrest⟩, h⟩
    · rintro ⟨⟨hallowed, hrest⟩, hnodup, rfl⟩
      have hfirst : ((o.tags ++ a.annotations).map Prod.fst).Nodup := by
        rw [List.map_append] at hnodup
        exact hnodup.of_append_left
      exact bind_eq_ok_iff.mpr ⟨_, (addAttribute_eq_ok_iff hkeys).mpr ⟨hallowed, hfirst, rfl⟩,
        (ih hfirst).mpr ⟨hrest, hnodup, rfl⟩⟩

end FieldOptions

/-- What the attributes of a field say. -/
theorem fieldOptions_eq_ok_iff {attributes : List Attribute} {o : FieldOptions} :
    fieldOptions attributes = .ok o ↔
      (∀ a ∈ attributes, a.SaysOfField) ∧ (keys attributes).Nodup ∧
      o = ⟨attributes.flatMap Attribute.annotations,
        decide (.bare "embed" ∈ schemaItems attributes)⟩ := by
  rw [fieldOptions, FieldOptions.foldlM_addAttribute_eq_ok_iff (by simp)]
  exact Iff.rfl

/-- What is read of a field is all that its annotations say. -/
theorem annotations_of_fieldOptions {attributes : List Attribute} {o : FieldOptions}
    (h : fieldOptions attributes = .ok o) :
    o.tags = attributes.flatMap Attribute.annotations ∧
      o.embedded = decide (.bare "embed" ∈ schemaItems attributes) := by
  obtain ⟨-, -, rfl⟩ := fieldOptions_eq_ok_iff.mp h
  exact ⟨rfl, rfl⟩

/-- The annotations of a field are accepted exactly if each may stand there and no key stands twice.
-/
theorem exists_fieldOptions_iff {attributes : List Attribute} :
    (∃ o, fieldOptions attributes = .ok o) ↔
      (∀ a ∈ attributes, a.SaysOfField) ∧ (keys attributes).Nodup := by
  simp only [fieldOptions_eq_ok_iff]
  constructor
  · rintro ⟨o, hallowed, hnodup, -⟩
    exact ⟨hallowed, hnodup⟩
  · rintro ⟨hallowed, hnodup⟩
    exact ⟨_, hallowed, hnodup, rfl⟩

/-- Attributes of other names have no influence, on a problem neither. -/
theorem fieldOptions_filter (attributes : List Attribute) :
    fieldOptions (attributes.filter (·.name ∈ [schemaAttribute, tagAttribute])) =
      fieldOptions attributes := by
  rw [fieldOptions, List.foldlM_filter]
  refine congrArg (List.foldlM · ({} : FieldOptions) attributes) (funext₂ fun o a => ?_)
  by_cases h : a.name ∈ [schemaAttribute, tagAttribute]
  · rw [if_pos (decide_eq_true h)]
  · rw [if_neg (by simpa using h)]
    rw [List.mem_pair, not_or] at h
    exact (FieldOptions.addAttribute_of_foreign h.1 h.2).symm

/-- The attributes are a reason to refuse a field. -/
inductive RefusedOfField (attributes : List Attribute) : Prop
  | invalid {a : Attribute} (mem : a ∈ attributes) (refused : a.RefusedOfField)
  /-- A key comes twice, the name of the schema attribute for a text that it is given. -/
  | repeated {key : String} (twice : 2 ≤ (keys attributes).count key)

/-- The annotations of a field are refused exactly if one of the reasons to refuse them is there. -/
theorem exists_fieldOptions_error_iff {attributes : List Attribute} :
    (∃ e, fieldOptions attributes = .error e) ↔ RefusedOfField attributes := by
  rw [exists_error_iff, exists_fieldOptions_iff, List.nodup_iff_count_le_one]
  constructor
  · intro h
    by_contra hnot
    refine h ⟨?_, ?_⟩
    · intro a ha
      by_contra hallowed
      exact hnot (.invalid ha (Attribute.refusedOfField_iff.mpr hallowed))
    · intro key
      by_contra htwice
      exact hnot (.repeated (Nat.lt_of_not_le htwice))
  · rintro h ⟨hallowed, honce⟩
    cases h with
    | invalid ha hrefused => exact Attribute.refusedOfField_iff.mp hrefused (hallowed _ ha)
    | repeated htwice => exact absurd (honce _) (Nat.not_le_of_lt htwice)

end TableSchema.Definition
