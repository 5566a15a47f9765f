import Mathlib.Logic.Relation
import TableSchema.Proofs.Definition.Derivation

/-!
# Attributes of a field, written differently

The attributes of a field can be written in many ways that say the same: in another order, with the items
of tag attributes spread over other ones, and with the text of the schema attribute as an item among them.
What is said then comes in another order, but under the same keys.

* `Item.ofTokens_eq_assign_iff` — an item assigns a text wherever it stands, if it is three tokens.
* `Rewritten` — one step from one way of writing to another.
* `Agree`, `Rewritten.agree`, `agree_of_eqvGen` — what a step keeps, and what any number of them keeps.
* `Field.tag?_eq_some_iff` — a text is found under its key.
* `fieldOptions_up_to_rewriting` — what the attributes of a field say, however they are written.
-/

namespace TableSchema

-- ---------------------------------------------------------------------------
-- Looking up
-- ---------------------------------------------------------------------------

/-- Under different keys every text is found. -/
theorem Field.tag?_eq_some_iff {τ : Type} {f : Field τ} {key text : String}
    (hkeys : (f.tags.map Prod.fst).Nodup) : f.tag? key = some text ↔ (key, text) ∈ f.tags := by
  rw [Field.tag?, List.lookup_eq_some_iff]
  constructor
  · rintro ⟨front, back, htags, -⟩
    rw [htags]
    exact List.mem_append_right front List.mem_cons_self
  · intro h
    obtain ⟨front, back, htags⟩ := List.append_of_mem h
    refine ⟨front, back, htags, ?_⟩
    intro tag htag
    rw [htags, List.map_append, List.nodup_append] at hkeys
    exact bne_iff_ne.mpr (hkeys.2.2 _ (List.mem_map_of_mem htag) _ List.mem_cons_self).symm

namespace Definition

-- ---------------------------------------------------------------------------
-- Items
-- ---------------------------------------------------------------------------

/-- A subject that is still a single name has taken nothing of what follows it. -/
theorem Subject.behindName_eq_word {isLast : Bool} {subject : Subject} {tokens rest : List Token}
    {name : String} (h : subject.behindName isLast tokens = (.word name, rest)) :
    subject = .word name ∧ rest = tokens := by
  fun_induction Subject.behindName isLast subject tokens with
  | case1 subject next tokens ih => cases (ih h).1
  | case2 subject tokens => cases congrArg Prod.fst h
  | case3 subject tokens =>
    obtain ⟨rfl, rfl⟩ := Prod.mk.inj h
    exact ⟨rfl, rfl⟩

theorem Subject.withoutName_ne_word {tokens rest : List Token} {name : String} :
    Subject.withoutName tokens ≠ (.word name, rest) := by
  rw [Subject.withoutName.eq_def]
  split <;> simp

/-- A subject that is a word is the first token. -/
theorem Subject.ofTokens_eq_word {isLast : Bool} {tokens rest : List Token} {name : String}
    (h : Subject.ofTokens isLast tokens = (.word name, rest)) : tokens = .word name :: rest := by
  rw [Subject.ofTokens.eq_def] at h
  split at h
  · obtain ⟨hword, rfl⟩ := behindName_eq_word h
    rw [Subject.word.inj hword]
  · cases (behindName_eq_word h).1
  · split at h
    · cases congrArg Prod.fst h
    · exact absurd h withoutName_ne_word
  · exact absurd h withoutName_ne_word

/-- A text without suffix is a single literal, wherever it stands. -/
theorem Operand.ofTokens_eq_text_iff {isLast : Bool} {tokens : List Token} {content : String} :
    Operand.ofTokens isLast tokens = .text content false ↔ tokens = [.text content] := by
  rw [Operand.ofTokens.eq_def]
  split
  · split <;> simp
  · simp
  · next hother =>
    refine ⟨nofun, ?_⟩
    intro h
    exact absurd h (hother content [])

/-- An item assigns a text if it is made of three tokens, whether or not it is the last of its list. -/
theorem Item.ofTokens_eq_assign_iff {isLast : Bool} {tokens : List Token} {key text : String} :
    Item.ofTokens isLast tokens = .assign key text ↔
      tokens = [.word key, .mark '=', .text text] := by
  constructor
  · intro h
    cases hsplit : Subject.ofTokens isLast tokens with
    | mk subject rest =>
      rw [Item.ofTokens, hsplit] at h
      obtain ⟨rfl, hpayload⟩ := Item.mk.inj h
      rw [Subject.ofTokens_eq_word hsplit]
      split at hpayload
      · cases hpayload
      · rw [Operand.ofTokens_eq_text_iff.mp (Payload.assigned.inj hpayload)]
      · cases hpayload
  · rintro rfl
    rfl

/-- Where an item stands makes no difference to what it assigns. -/
theorem Item.assignment?_ofTokens (isLast isLast' : Bool) (tokens : List Token) :
    (ofTokens isLast tokens).assignment? = (ofTokens isLast' tokens).assignment? := by
  refine Option.ext fun a => ?_
  rw [assignment?_eq_some_iff, assignment?_eq_some_iff, ofTokens_eq_assign_iff,
    ofTokens_eq_assign_iff]

-- ---------------------------------------------------------------------------
-- One step
-- ---------------------------------------------------------------------------

/-- A tag attribute with the given items. -/
def Attribute.tagging (items : List Item) : Attribute :=
  ⟨tagAttribute, .list items⟩

/-- One way of writing the attributes of a field, and another one. -/
inductive Rewritten : List Attribute → List Attribute → Prop
  | reorder {attributes attributes' : List Attribute} (perm : attributes.Perm attributes') :
      Rewritten attributes attributes'
  /-- The items of some tag attributes are spread over other ones. -/
  | regroup {groups groups' : List (List Item)} (rest : List Attribute)
      (perm : groups.flatten.Perm groups'.flatten) :
      Rewritten (groups.map .tagging ++ rest) (groups'.map .tagging ++ rest)
  /-- An item that has moved may start or stop being the last one of its list. -/
  | place (front back : List Item) (tokens : List Token) (isLast isLast' : Bool)
      (rest : List Attribute) :
      Rewritten (.tagging (front ++ .ofTokens isLast tokens :: back) :: rest)
        (.tagging (front ++ .ofTokens isLast' tokens :: back) :: rest)
  /-- The text of a schema attribute becomes an item under its name. -/
  | retag (text : String) (rest : List Attribute) :
      Rewritten (⟨schemaAttribute, .assigned (.text text false)⟩ :: rest)
        (.tagging [.assign schemaAttribute text] :: rest)

/-- The same is said of a field, but for the order of the texts. -/
structure Agree (attributes attributes' : List Attribute) : Prop where
  allowed : (∀ a ∈ attributes, a.SaysOfField) ↔ ∀ a ∈ attributes', a.SaysOfField
  annotations : (attributes.flatMap Attribute.annotations).Perm
    (attributes'.flatMap Attribute.annotations)
  embed : .bare "embed" ∈ schemaItems attributes ↔ .bare "embed" ∈ schemaItems attributes'

theorem schemaItems_append (attributes rest : List Attribute) :
    schemaItems (attributes ++ rest) = schemaItems attributes ++ schemaItems rest :=
  List.flatMap_append

namespace Agree

variable {attributes attributes' attributes'' : List Attribute}

theorem refl (attributes : List Attribute) : Agree attributes attributes :=
  ⟨Iff.rfl, .refl _, Iff.rfl⟩

theorem symm (h : Agree attributes attributes') : Agree attributes' attributes :=
  ⟨h.allowed.symm, h.annotations.symm, h.embed.symm⟩

theorem trans (h : Agree attributes attributes') (h' : Agree attributes' attributes'') :
    Agree attributes attributes'' :=
  ⟨h.allowed.trans h'.allowed, h.annotations.trans h'.annotations, h.embed.trans h'.embed⟩

/-- Annotations that agree still agree with the same ones behind them. -/
theorem append (h : Agree attributes attributes') (rest : List Attribute) :
    Agree (attributes ++ rest) (attributes' ++ rest) := by
  constructor
  case allowed =>
    rw [List.forall_mem_append, List.forall_mem_append, h.allowed]
  case annotations =>
    rw [List.flatMap_append, List.flatMap_append]
    exact h.annotations.append_right _
  case embed =>
    rw [schemaItems_append, schemaItems_append, List.mem_append, List.mem_append, h.embed]

/-- The order of annotations does not matter. -/
theorem of_perm (h : attributes.Perm attributes') : Agree attributes attributes' := by
  constructor
  case allowed => exact forall_congr' fun a => by rw [h.mem_iff]
  case annotations => exact h.flatMap_right _
  case embed => exact (h.flatMap_right _).mem_iff

end Agree

/-- A list of items for other keys may stand at a field if all of its items are assignments. -/
theorem saysOfField_tagging_iff {items : List Item} :
    (Attribute.tagging items).SaysOfField ↔ ∀ i ∈ items, ∃ key text, i = .assign key text := by
  rw [Attribute.saysOfField_tag_iff rfl]
  constructor
  · rintro ⟨_, hform, hassign⟩
    cases hform
    exact hassign
  · intro hassign
    exact ⟨items, rfl, hassign⟩

section

variable (groups : List (List Item))

/-- So it is for several lists: all items of all of them are assignments. -/
theorem allowed_map_tagging_iff :
    (∀ a ∈ groups.map Attribute.tagging, a.SaysOfField) ↔
      ∀ i ∈ groups.flatten, ∃ key text, i = .assign key text := by
  rw [List.forall_mem_map, List.forall_mem_flatten]
  exact forall₂_congr fun _ _ => saysOfField_tagging_iff

/-- Several lists say what their items say, in order. -/
theorem flatMap_annotations_map_tagging :
    (groups.map Attribute.tagging).flatMap Attribute.annotations =
      groups.flatten.filterMap Item.assignment? := by
  rw [List.flatMap_map, List.filterMap_flatten]
  rfl

/-- Lists for other keys have no items for the schema itself. -/
theorem schemaItems_map_tagging : schemaItems (groups.map Attribute.tagging) = [] := by
  rw [schemaItems, List.flatMap_map]
  exact List.flatMap_eq_nil_iff.mpr fun _ _ => rfl

end

/-- How items are spread over lists and in what order they stand does not matter. -/
theorem Agree.of_flatten_perm {groups groups' : List (List Item)}
    (h : groups.flatten.Perm groups'.flatten) :
    Agree (groups.map .tagging) (groups'.map .tagging) := by
  constructor
  case allowed =>
    rw [allowed_map_tagging_iff, allowed_map_tagging_iff]
    exact forall_congr' fun i => by rw [h.mem_iff]
  case annotations =>
    rw [flatMap_annotations_map_tagging, flatMap_annotations_map_tagging]
    exact h.filterMap _
  case embed =>
    rw [schemaItems_map_tagging, schemaItems_map_tagging]

/-- Whether an item is the last one of its list does not matter. -/
theorem Agree.place (front back : List Item) (tokens : List Token) (isLast isLast' : Bool) :
    Agree [.tagging (front ++ .ofTokens isLast tokens :: back)]
      [.tagging (front ++ .ofTokens isLast' tokens :: back)] := by
  constructor
  case allowed =>
    rw [List.forall_mem_singleton, List.forall_mem_singleton, saysOfField_tagging_iff,
      saysOfField_tagging_iff]
    simp only [List.forall_mem_append, List.forall_mem_cons, Item.ofTokens_eq_assign_iff]
  case annotations =>
    have hassign : ((front ++ .ofTokens isLast tokens :: back).filterMap Item.assignment?) =
        (front ++ .ofTokens isLast' tokens :: back).filterMap Item.assignment? := by
      rw [List.filterMap_append, List.filterMap_append, List.filterMap_cons, List.filterMap_cons,
        Item.assignment?_ofTokens isLast isLast']
    exact .of_eq (congrArg (· ++ []) hassign)
  case embed => exact Iff.rfl

/-- A text that is assigned to the schema's own annotation may as well stand in a list under its
name. -/
theorem Agree.retag (text : String) :
    Agree [⟨schemaAttribute, .assigned (.text text false)⟩]
      [.tagging [.assign schemaAttribute text]] := by
  constructor
  case allowed =>
    rw [List.forall_mem_singleton, List.forall_mem_singleton, saysOfField_tagging_iff,
      List.forall_mem_singleton]
    exact iff_of_true (.text text) ⟨_, _, rfl⟩
  case annotations => exact .refl _
  case embed => exact Iff.rfl

/-- A step keeps all but the order of what is said. -/
theorem Rewritten.agree {attributes attributes' : List Attribute}
    (h : Rewritten attributes attributes') : Agree attributes attributes' := by
  cases h with
  | reorder hperm => exact .of_perm hperm
  | regroup rest hperm => exact (Agree.of_flatten_perm hperm).append rest
  | place front back tokens isLast isLast' rest => exact (Agree.place front back ..).append rest
  | retag text rest => exact (Agree.retag text).append rest

/-- Annotations agree after any number of rewritings, in either direction. -/
theorem agree_of_eqvGen {attributes attributes' : List Attribute}
    (h : Relation.EqvGen Rewritten attributes attributes') : Agree attributes attributes' := by
  induction h with
  | rel _ _ hstep => exact hstep.agree
  | refl attributes => exact .refl attributes
  | symm _ _ _ ih => exact ih.symm
  | trans _ _ _ _ _ ih ih' => exact ih.trans ih'

-- ---------------------------------------------------------------------------
-- Fields
-- ---------------------------------------------------------------------------

/-- Annotations that agree say the same pairs. -/
theorem Agree.written_iff {attributes attributes' : List Attribute}
    (h : Agree attributes attributes') {key text : String} :
    Written attributes key text ↔ Written attributes' key text := by
  rw [← mem_annotations_iff, ← mem_annotations_iff, h.annotations.mem_iff]

/-- Whether the attributes of a field can be read depends on what they say, but not on its order. -/
theorem Agree.exists_fieldOptions_iff {attributes attributes' : List Attribute}
    (h : Agree attributes attributes') :
    (∃ o, fieldOptions attributes = .ok o) ↔ ∃ o, fieldOptions attributes' = .ok o := by
  have hkeys : (keys attributes).Perm (keys attributes') := h.annotations.map _
  rw [Definition.exists_fieldOptions_iff, Definition.exists_fieldOptions_iff, h.allowed,
    hkeys.nodup_iff]

namespace FieldDefinition

variable {f f' : FieldDefinition} {shown shown' : Field String}

theorem field_of_options {o : FieldOptions} (h : fieldOptions f.attributes = .ok o) :
    f.field = .ok ⟨plainName f.name, f.type, o.tags, o.embedded⟩ := by
  rw [FieldDefinition.field, h]
  rfl

/-- The annotation that is found under a key is the one that is written for it. -/
theorem tag?_eq_some_iff (h : f.field = .ok shown) {key text : String} :
    shown.tag? key = some text ↔ Written f.attributes key text := by
  have htags := (describes_of_field h).tags
  have hkeys : (shown.tags.map Prod.fst).Nodup := by
    rw [htags]
    exact (Definition.exists_fieldOptions_iff.mp (exists_field_iff.mp ⟨shown, h⟩)).2
  rw [Field.tag?_eq_some_iff hkeys, htags, mem_annotations_iff]

/-- Fields whose annotations agree have the same annotation under every key. -/
theorem tag?_eq_of_agree (hagree : Agree f.attributes f'.attributes) (h : f.field = .ok shown)
    (h' : f'.field = .ok shown') (key : String) : shown'.tag? key = shown.tag? key := by
  refine Option.ext fun text => ?_
  rw [tag?_eq_some_iff h, tag?_eq_some_iff h', hagree.written_iff]

/-- Fields whose annotations agree are embedded alike. -/
theorem embedded_eq_of_agree (hagree : Agree f.attributes f'.attributes) (h : f.field = .ok shown)
    (h' : f'.field = .ok shown') : shown'.embedded = shown.embedded := by
  rw [(describes_of_field h).embedded, (describes_of_field h').embedded]
  exact decide_eq_decide.mpr hagree.embed.symm

end FieldDefinition

/--
**What the attributes of a field say, however they are written.** A field is refused exactly for a
schema attribute that stands alone or is given anything but one text, for an item of a schema attribute
that is not the one word for embedding, for a tag attribute that is no list or has an item that assigns
no text, and for a key that comes twice. Otherwise its annotations are all texts in order, each is found
under its key, nothing else is, and it is embedded if the word is there. Attributes of other names have
no influence. Any number of steps from one way of writing to another changes neither whether the field
is refused, nor whether it is embedded, nor what is found under a key.
-/
theorem fieldOptions_up_to_rewriting (f : FieldDefinition) :
    ((∃ e, fieldOptions f.attributes = .error e) ↔ RefusedOfField f.attributes) ∧
    (∀ o, fieldOptions f.attributes = .ok o →
      o.tags = f.attributes.flatMap Attribute.annotations ∧ (o.tags.map Prod.fst).Nodup ∧
      (o.embedded = true ↔
        ∃ items, ⟨schemaAttribute, .list items⟩ ∈ f.attributes ∧ .bare "embed" ∈ items) ∧
      ∃ shown, f.field = .ok shown ∧ shown.tags = o.tags ∧ shown.embedded = o.embedded ∧
        ∀ key text, shown.tag? key = some text ↔ Written f.attributes key text) ∧
    fieldOptions (f.attributes.filter (·.name ∈ [schemaAttribute, tagAttribute])) =
      fieldOptions f.attributes ∧
    ∀ f' : FieldDefinition, Relation.EqvGen Rewritten f.attributes f'.attributes →
      ((∃ o, fieldOptions f.attributes = .ok o) ↔ ∃ o, fieldOptions f'.attributes = .ok o) ∧
      ∀ shown shown', f.field = .ok shown → f'.field = .ok shown' →
        shown'.embedded = shown.embedded ∧ ∀ key, shown'.tag? key = shown.tag? key := by
  refine ⟨exists_fieldOptions_error_iff, ?_, fieldOptions_filter f.attributes, ?_⟩
  · intro o ho
    have hfield := FieldDefinition.field_of_options ho
    obtain ⟨-, hkeys, rfl⟩ := fieldOptions_eq_ok_iff.mp ho
    refine ⟨rfl, hkeys, ?_, _, hfield, rfl, rfl, ?_⟩
    · rw [decide_eq_true_iff, embed_mem_schemaItems_iff]
    · intro key text
      exact FieldDefinition.tag?_eq_some_iff hfield
  · intro f' h
    have hagree := agree_of_eqvGen h
    refine ⟨hagree.exists_fieldOptions_iff, ?_⟩
    intro shown shown' hshown hshown'
    exact ⟨FieldDefinition.embedded_eq_of_agree hagree hshown hshown',
      FieldDefinition.tag?_eq_of_agree hagree hshown hshown'⟩

/-- The identifier of a user, with the text of the schema attribute in front. -/
def userId : FieldDefinition where
  name := "id"
  type := "u64"
  attributes := [⟨"serde", .list [.bare "skip"]⟩, ⟨"ddl", .assigned (.text "id,auto" false)⟩,
    .tagging [.assign "json" "id", .assign "db" "user_id"], ⟨"ddl", .list [.bare "embed"]⟩]

/-- The same field with that text among the items of another attribute. -/
def userIdAmongItems : FieldDefinition where
  name := "id"
  type := "u64"
  attributes := [.tagging [.assign "db" "user_id"], ⟨"ddl", .list [.bare "embed"]⟩,
    .tagging [.assign "json" "id", .assign "ddl" "id,auto"], ⟨"serde", .list [.bare "skip"]⟩]

theorem rewritten_userId :
    Relation.EqvGen Rewritten userId.attributes userIdAmongItems.attributes := by
  let rest : List Attribute := [⟨"ddl", .list [.bare "embed"]⟩, ⟨"serde", .list [.bare "skip"]⟩]
  have hfront : Rewritten userId.attributes (⟨"ddl", .assigned (.text "id,auto" false)⟩ ::
      .tagging [.assign "json" "id", .assign "db" "user_id"] :: rest) := .reorder (by decide)
  have hretag : Rewritten (⟨"ddl", .assigned (.text "id,auto" false)⟩ ::
      .tagging [.assign "json" "id", .assign "db" "user_id"] :: rest)
      (.tagging [.assign "ddl" "id,auto"] ::
        .tagging [.assign "json" "id", .assign "db" "user_id"] :: rest) := .retag _ _
  have hregroup : Rewritten
      ([[.assign "ddl" "id,auto"], [.assign "json" "id", .assign "db" "user_id"]].map .tagging ++ rest)
      ([[.assign "db" "user_id"], [.assign "json" "id", .assign "ddl" "id,auto"]].map .tagging ++
        rest) := .regroup rest (by decide)
  have hback : Rewritten
      (.tagging [.assign "db" "user_id"] :: .tagging [.assign "json" "id", .assign "ddl" "id,auto"] ::
        rest) userIdAmongItems.attributes := .reorder (by decide)
  exact .trans _ _ _ (.rel _ _ hfront) (.trans _ _ _ (.rel _ _ hretag)
    (.trans _ _ _ (.rel _ _ hregroup) (.rel _ _ hback)))

/-- The texts come in another order, and each of them is still found. -/
theorem fieldOptions_up_to_rewriting_userId :
    ∃ shown shown', userId.field = .ok shown ∧ userIdAmongItems.field = .ok shown' ∧
      shown'.tags ≠ shown.tags ∧ shown'.embedded = shown.embedded ∧
      ∀ key, shown'.tag? key = shown.tag? key := by
  obtain ⟨-, -, -, hrewritten⟩ := fieldOptions_up_to_rewriting userId
  obtain ⟨-, hfields⟩ := hrewritten userIdAmongItems rewritten_userId
  obtain ⟨hembedded, hfound⟩ := hfields
    ⟨"id", "u64", [("ddl", "id,auto"), ("json", "id"), ("db", "user_id")], true⟩
    ⟨"id", "u64", [("db", "user_id"), ("json", "id"), ("ddl", "id,auto")], true⟩
    (by decide +kernel) (by decide +kernel)
  exact ⟨_, _, by decide +kernel, by decide +kernel, by decide, hembedded, hfound⟩

end Definition

end TableSchema
