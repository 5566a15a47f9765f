import Mathlib.Tactic.ByContra
import TableSchema.Definition.Attribute
import TableSchema.Proofs.Except

/-!
# What the attributes of a type say

The attributes of a type are read one after the other, and their items too. How the items are grouped
into attributes and what other attributes stand between them makes no difference: what is said is a
function of all items in order.

* `Item.bare`, `Item.assign` — the two forms of an item that say something.
* `schemaItems`, `Item.textsUnder` — all items of schema attributes, and the texts under a name.
* `addItem_eq_ok_iff`, `foldlM_addItem_eq_ok_iff`, `structOptions_eq_ok_iff` — what is read, by the step,
  the run over items and the run over attributes.
* `RefusedOfType`, `exists_structOptions_error_iff` — when a type is refused for its attributes.
-/

namespace TableSchema.Definition

-- ---------------------------------------------------------------------------
-- Items
-- ---------------------------------------------------------------------------

namespace Item

/-- The item `name`. -/
def bare (name : String) : Item :=
  ⟨.word name, .none⟩

/-- The item `name = "text"`. -/
def assign (name text : String) : Item :=
  ⟨.word name, .assigned (.text text false)⟩

/-- The name and the text of an item that assigns one to the other. -/
def assignment? : Item → Option (String × String)
  | ⟨.word name, .assigned (.text text false)⟩ => some (name, text)
  | _ => none

/-- The items that assign a text are the assignments. -/
theorem assignment?_eq_some_iff {i : Item} {a : String × String} :
    i.assignment? = some a ↔ i = .assign a.1 a.2 := by
  constructor
  · intro h
    unfold assignment? at h
    split at h
    · obtain rfl := Option.some.inj h
      rfl
    · cases h
  · rintro rfl
    rfl

/-- The texts that the items assign to a name. -/
def textsUnder (name : String) (items : List Item) : List String :=
  ((items.filterMap assignment?).filter (·.1 = name)).map Prod.snd

/-- The texts under a name are those of the first item, then those of the others. -/
theorem textsUnder_cons (name : String) (i : Item) (items : List Item) :
    textsUnder name (i :: items) = textsUnder name [i] ++ textsUnder name items := by
  rw [← List.singleton_append, textsUnder, List.filterMap_append, List.filter_append,
    List.map_append]
  rfl

theorem textsUnder_assign (name name' text : String) :
    textsUnder name [.assign name' text] = if name' = name then [text] else [] := by
  have h : (assign name' text).assignment? = some (name', text) := rfl
  rw [textsUnder, List.filterMap_cons_some h, List.filterMap_nil, List.filter_singleton]
  by_cases hname : name' = name <;> simp [hname]

theorem textsUnder_bare (name name' : String) : textsUnder name [.bare name'] = [] := rfl

/-- An item is a bare word if it starts with the word and nothing follows. -/
theorem eq_bare_iff {i : Item} {name : String} :
    i = .bare name ↔ i.word? = .ok (some name) ∧ i.endAfterWord = .ok () := by
  obtain ⟨subject, payload⟩ := i
  rw [bare, word?, endAfterWord]
  cases subject <;> cases payload <;> simp

/-- An item is an assignment if it starts with the word, a text follows, and nothing follows that. -/
theorem eq_assign_iff {i : Item} {name text : String} :
    i = .assign name text ↔
      i.word? = .ok (some name) ∧ i.text = .ok text ∧ i.endAfterText = .ok () := by
  obtain ⟨subject, payload⟩ := i
  rw [assign, word?, Item.text, endAfterText]
  cases subject with
  | word name' =>
    cases payload with
    | none | other => simp
    | assigned operand =>
      cases operand with
      | other | missing => simp
      | text content more => cases more <;> simp
  | path | brokenPath | literal | junk | missing => simp

end Item

/-- The items of a list. -/
def Form.items : Form → List Item
  | .list items => items
  | .bare | .assigned _ => []

/-- The items of a schema attribute. -/
def Attribute.schemaItems (a : Attribute) : List Item :=
  if a.name = schemaAttribute then a.form.items else []

/-- The items of all schema attributes in order. -/
def schemaItems (attributes : List Attribute) : List Item :=
  attributes.flatMap Attribute.schemaItems

-- ---------------------------------------------------------------------------
-- Types
-- ---------------------------------------------------------------------------

/-- The item is one of the three that a type can have. -/
def Item.SaysOfType (i : Item) : Prop :=
  (∃ text, i = .assign "table" text) ∨ (∃ text, i = .assign "comment" text) ∨ i = .bare "json"

/-- A place is filled if it was empty, and then with the value. -/
theorem fillOnce_eq_ok_iff {name value : String} {slot filled : Option String} :
    fillOnce name slot value = .ok filled ↔ slot = none ∧ filled = some value := by
  rw [fillOnce.eq_def]
  cases slot <;> simp [eq_comm]

theorem eq_of_toList_eq {α : Type} {x y : Option α} (h : x.toList = y.toList) : x = y := by
  cases x <;> cases y <;> simp_all

/-- A place that is to hold a text besides what it holds already holds nothing. -/
theorem eq_none_of_toList_eq_append {α : Type} {slot filled : Option α} {a : α} {rest : List α}
    (h : filled.toList = slot.toList ++ a :: rest) : slot = none := by
  cases filled <;> cases slot <;> simp_all

namespace StructOptions

/-- The items that an annotation of a type may have, and what each of them does. -/
theorem addItem_eq_ok_iff {o o' : StructOptions} {i : Item} :
    o.addItem i = .ok o' ↔
      (∃ text, i = .assign "table" text ∧ o.table = none ∧ o' = { o with table := some text }) ∨
      (∃ text, i = .assign "comment" text ∧ o.comment = none ∧
        o' = { o with comment := some text }) ∨
      (i = .bare "json" ∧ o' = { o with json := true }) := by
  constructor
  · intro h
    rw [addItem] at h
    obtain ⟨subject, hsubject, h⟩ := bind_eq_ok_iff.mp h
    split at h
    · obtain ⟨text, htext, h⟩ := bind_eq_ok_iff.mp h
      obtain ⟨table, htable, h⟩ := bind_eq_ok_iff.mp h
      obtain ⟨⟨⟩, hend, h⟩ := bind_eq_ok_iff.mp h
      obtain ⟨hfree, rfl⟩ := fillOnce_eq_ok_iff.mp htable
      exact .inl ⟨text, Item.eq_assign_iff.mpr ⟨hsubject, htext, hend⟩, hfree, (Except.ok.inj h).symm⟩
    · obtain ⟨text, htext, h⟩ := bind_eq_ok_iff.mp h
      obtain ⟨comment, hcomment, h⟩ := bind_eq_ok_iff.mp h
      obtain ⟨⟨⟩, hend, h⟩ := bind_eq_ok_iff.mp h
      obtain ⟨hfree, rfl⟩ := fillOnce_eq_ok_iff.mp hcomment
      exact .inr (.inl
        ⟨text, Item.eq_assign_iff.mpr ⟨hsubject, htext, hend⟩, hfree, (Except.ok.inj h).symm⟩)
    · obtain ⟨⟨⟩, hend, h⟩ := bind_eq_ok_iff.mp h
      exact .inr (.inr ⟨Item.eq_bare_iff.mpr ⟨hsubject, hend⟩, (Except.ok.inj h).symm⟩)
    · cases h
  · rintro (⟨text, rfl, hfree, rfl⟩ | ⟨text, rfl, hfree, rfl⟩ | ⟨rfl, rfl⟩)
    · show (fillOnce "table" o.table text).bind _ = _
      rw [fillOnce_eq_ok_iff.mpr ⟨hfree, rfl⟩]
      rfl
    · show (fillOnce "comment" o.comment text).bind _ = _
      rw [fillOnce_eq_ok_iff.mpr ⟨hfree, rfl⟩]
      rfl
    · rfl

/-- The places of `o'` hold what those of `o` hold, and behind it what the items say. -/
structure Filled (o : StructOptions) (items : List Item) (o' : StructOptions) : Prop where
  table : o'.table.toList = o.table.toList ++ Item.textsUnder "table" items
  comment : o'.comment.toList = o.comment.toList ++ Item.textsUnder "comment" items
  json : o'.json = (o.json || decide (.bare "json" ∈ items))

/-- Without items nothing is filled. -/
theorem filled_nil_iff {o o' : StructOptions} : o.Filled [] o' ↔ o' = o := by
  constructor
  · rintro ⟨htable, hcomment, hjson⟩
    have htable : o'.table = o.table := eq_of_toList_eq (htable.trans (List.append_nil _))
    have hcomment : o'.comment = o.comment := eq_of_toList_eq (hcomment.trans (List.append_nil _))
    have hjson : o'.json = o.json := hjson.trans (Bool.or_false _)
    cases o
    cases o'
    cases htable
    cases hcomment
    cases hjson
    rfl
  · rintro rfl
    exact ⟨(List.append_nil _).symm, (List.append_nil _).symm, (Bool.or_false _).symm⟩

/-- Items fill in order: what the first one leaves is filled by the others. -/
theorem Filled.cons_iff {o next o' : StructOptions} {i : Item} {items : List Item}
    (h : o.Filled [i] next) : o.Filled (i :: items) o' ↔ next.Filled items o' := by
  have hmem : decide (.bare "json" ∈ i :: items) =
      (decide (.bare "json" ∈ [i]) || decide (.bare "json" ∈ items)) := by
    simp
  constructor
  · rintro ⟨htable, hcomment, hjson⟩
    rw [Item.textsUnder_cons, ← List.append_assoc] at htable hcomment
    rw [hmem, ← Bool.or_assoc] at hjson
    exact ⟨h.table ▸ htable, h.comment ▸ hcomment, h.json ▸ hjson⟩
  · rintro ⟨htable, hcomment, hjson⟩
    rw [h.table, List.append_assoc, ← Item.textsUnder_cons] at htable
    rw [h.comment, List.append_assoc, ← Item.textsUnder_cons] at hcomment
    rw [h.json, Bool.or_assoc, ← hmem] at hjson
    exact ⟨htable, hcomment, hjson⟩

/-- An item that is accepted is allowed and fills what it says. -/
theorem filled_of_addItem {o o' : StructOptions} {i : Item} (h : o.addItem i = .ok o') :
    i.SaysOfType ∧ o.Filled [i] o' := by
  rcases addItem_eq_ok_iff.mp h with
    ⟨text, rfl, hfree, rfl⟩ | ⟨text, rfl, hfree, rfl⟩ | ⟨rfl, rfl⟩
  · refine ⟨.inl ⟨text, rfl⟩, ?_, ?_, ?_⟩
    · rw [hfree]
      rfl
    · exact (List.append_nil _).symm
    · simp [Item.bare, Item.assign]
  · refine ⟨.inr (.inl ⟨text, rfl⟩), ?_, ?_, ?_⟩
    · exact (List.append_nil _).symm
    · rw [hfree]
      rfl
    · simp [Item.bare, Item.assign]
  · refine ⟨.inr (.inr rfl), ?_, ?_, ?_⟩
    · exact (List.append_nil _).symm
    · exact (List.append_nil _).symm
    · simp

/-- An item can be read if there is room for it and all that follows. -/
theorem exists_addItem {o o' : StructOptions} {i : Item} {items : List Item} (hi : i.SaysOfType)
    (h : o.Filled (i :: items) o') : ∃ next, o.addItem i = .ok next := by
  obtain ⟨htable, hcomment, -⟩ := h
  rw [Item.textsUnder_cons] at htable hcomment
  rcases hi with ⟨text, rfl⟩ | ⟨text, rfl⟩ | rfl
  · have hfree : o.table = none := eq_none_of_toList_eq_append htable
    exact ⟨_, addItem_eq_ok_iff.mpr (.inl ⟨text, rfl, hfree, rfl⟩)⟩
  · have hfree : o.comment = none := eq_none_of_toList_eq_append hcomment
    exact ⟨_, addItem_eq_ok_iff.mpr (.inr (.inl ⟨text, rfl, hfree, rfl⟩))⟩
  · exact ⟨_, addItem_eq_ok_iff.mpr (.inr (.inr ⟨rfl, rfl⟩))⟩

/-- Items can be read one after the other if each of them says something of a type and there is room for
all that they say: no place takes two texts. -/
theorem foldlM_addItem_eq_ok_iff {items : List Item} {o o' : StructOptions} :
    items.foldlM addItem o = .ok o' ↔ (∀ i ∈ items, i.SaysOfType) ∧ o.Filled items o' := by
  induction items generalizing o with
  | nil =>
    rw [filled_nil_iff]
    constructor
    · intro h
      exact ⟨by simp, (Except.ok.inj h).symm⟩
    · rintro ⟨-, rfl⟩
      rfl
  | cons i items ih =>
    rw [List.foldlM_cons, List.forall_mem_cons]
    constructor
    · intro h
      obtain ⟨next, hnext, h⟩ := bind_eq_ok_iff.mp h
      obtain ⟨hi, hfirst⟩ := filled_of_addItem hnext
      obtain ⟨hallowed, hrest⟩ := ih.mp h
      exact ⟨⟨hi, hallowed⟩, hfirst.cons_iff.mpr hrest⟩
    · rintro ⟨⟨hi, hallowed⟩, hfilled⟩
      -- there is room for the first item because there is room for all of them
      obtain ⟨next, hnext⟩ := exists_addItem hi hfilled
      obtain ⟨-, hfirst⟩ := filled_of_addItem hnext
      have hrest := ih.mpr ⟨hallowed, hfirst.cons_iff.mp hfilled⟩
      exact bind_eq_ok_iff.mpr ⟨next, hnext, hrest⟩

/-- An annotation is accepted if it is a list of items, unless it is somebody else's, and its items
are accepted. -/
theorem addAttribute_eq_ok_iff {o o' : StructOptions} {a : Attribute} :
    o.addAttribute a = .ok o' ↔
      (a.name = schemaAttribute → ∃ items, a.form = .list items) ∧
      a.schemaItems.foldlM addItem o = .ok o' := by
  rw [addAttribute, Attribute.schemaItems]
  by_cases hname : a.name = schemaAttribute
  · rw [if_pos hname, if_pos hname, Attribute.items]
    cases a.form with
    | bare | assigned =>
      constructor
      · intro h
        cases h
      · rintro ⟨hlist, -⟩
        obtain ⟨items, hitems⟩ := hlist hname
        cases hitems
    | list items => exact (and_iff_right fun _ => ⟨items, rfl⟩).symm
  · rw [if_neg hname, if_neg hname]
    exact (and_iff_right fun h => absurd h hname).symm

/-- All annotations of a type are read as one list of items. -/
theorem foldlM_addAttribute_eq_ok_iff {attributes : List Attribute} {o o' : StructOptions} :
    attributes.foldlM addAttribute o = .ok o' ↔
      (∀ a ∈ attributes, a.name = schemaAttribute → ∃ items, a.form = .list items) ∧
      (schemaItems attributes).foldlM addItem o = .ok o' := by
  induction attributes generalizing o with
  | nil => simp [schemaItems]
  | cons a rest ih =>
    have hitems : schemaItems (a :: rest) = a.schemaItems ++ schemaItems rest := rfl
    rw [List.foldlM_cons, List.forall_mem_cons, hitems, List.foldlM_append]
    constructor
    · intro h
      obtain ⟨next, hnext, h⟩ := bind_eq_ok_iff.mp h
      obtain ⟨hlist, hnext⟩ := addAttribute_eq_ok_iff.mp hnext
      obtain ⟨hlists, hrest⟩ := ih.mp h
      exact ⟨⟨hlist, hlists⟩, bind_eq_ok_iff.mpr ⟨next, hnext, hrest⟩⟩
    · rintro ⟨⟨hlist, hlists⟩, h⟩
      obtain ⟨next, hnext, hrest⟩ := bind_eq_ok_iff.mp h
      exact bind_eq_ok_iff.mpr
        ⟨next, addAttribute_eq_ok_iff.mpr ⟨hlist, hnext⟩, ih.mpr ⟨hlists, hrest⟩⟩

end StructOptions

/-- What the attributes of a type say, item by item. -/
theorem structOptions_eq_ok_iff {attributes : List Attribute} {o : StructOptions} :
    structOptions attributes = .ok o ↔
      (∀ a ∈ attributes, a.name = schemaAttribute → ∃ items, a.form = .list items) ∧
      (∀ i ∈ schemaItems attributes, i.SaysOfType) ∧
      o.table.toList = Item.textsUnder "table" (schemaItems attributes) ∧
      o.comment.toList = Item.textsUnder "comment" (schemaItems attributes) ∧
      o.json = decide (.bare "json" ∈ schemaItems attributes) := by
  rw [structOptions, StructOptions.foldlM_addAttribute_eq_ok_iff,
    StructOptions.foldlM_addItem_eq_ok_iff]
  refine and_congr_right fun _ => and_congr_right fun _ => ?_
  exact ⟨fun ⟨htable, hcomment, hjson⟩ => ⟨htable, hcomment, hjson⟩,
    fun ⟨htable, hcomment, hjson⟩ => ⟨htable, hcomment, hjson⟩⟩

/-- Lists of one item at most are the places that may be empty. -/
theorem exists_toList_iff {α : Type} {l : List α} :
    (∃ slot : Option α, slot.toList = l) ↔ l.length ≤ 1 := by
  constructor
  · rintro ⟨slot, rfl⟩
    cases slot <;> simp
  · intro h
    match l, h with
    | [], _ => exact ⟨none, rfl⟩
    | [a], _ => exact ⟨some a, rfl⟩

/-- The annotations of a type are accepted exactly if they are lists of items that may stand there,
and neither of the two texts stands twice. -/
theorem exists_structOptions_iff {attributes : List Attribute} :
    (∃ o, structOptions attributes = .ok o) ↔
      (∀ a ∈ attributes, a.name = schemaAttribute → ∃ items, a.form = .list items) ∧
      (∀ i ∈ schemaItems attributes, i.SaysOfType) ∧
      ∀ name ∈ ["table", "comment"],
        (Item.textsUnder name (schemaItems attributes)).length ≤ 1 := by
  simp only [structOptions_eq_ok_iff]
  constructor
  · rintro ⟨o, hlist, hallowed, htable, hcomment, -⟩
    refine ⟨hlist, hallowed, ?_⟩
    rw [List.forall_mem_cons, List.forall_mem_singleton]
    exact ⟨exists_toList_iff.mp ⟨_, htable⟩, exists_toList_iff.mp ⟨_, hcomment⟩⟩
  · rintro ⟨hlist, hallowed, honce⟩
    rw [List.forall_mem_cons, List.forall_mem_singleton] at honce
    obtain ⟨table, htable⟩ := exists_toList_iff.mpr honce.1
    obtain ⟨comment, hcomment⟩ := exists_toList_iff.mpr honce.2
    exact ⟨⟨table, comment, _⟩, hlist, hallowed, htable, hcomment, rfl⟩

/-- The item is a reason to refuse a type. -/
inductive Item.RefusedOfType : Item → Prop
  /-- It is about something that a type does not say. -/
  | unsupported {name : String} {payload : Payload} (other : name ∉ ["table", "comment", "json"]) :
      RefusedOfType ⟨.word name, payload⟩
  | path {payload : Payload} : RefusedOfType ⟨.path, payload⟩
  /-- It is about nothing. -/
  | unnamed {subject : Subject} {payload : Payload} (noPath : subject ≠ .path)
      (noWord : ∀ name, subject ≠ .word name) : RefusedOfType ⟨subject, payload⟩
  /-- It ought to assign a text. -/
  | value {name : String} {payload : Payload} (assigned : name ∈ ["table", "comment"])
      (noText : ∀ text, payload ≠ .assigned (.text text false)) : RefusedOfType ⟨.word name, payload⟩
  /-- It ought to stand alone. -/
  | alone {payload : Payload} (more : payload ≠ .none) : RefusedOfType ⟨.word "json", payload⟩

/-- What is refused on a type is what is not allowed there. -/
theorem Item.refusedOfType_iff {i : Item} : i.RefusedOfType ↔ ¬ i.SaysOfType := by
  constructor
  · intro h hallowed
    cases h with
    | unsupported hother =>
      rcases hallowed with ⟨text, h⟩ | ⟨text, h⟩ | h <;> simp_all [assign, bare]
    | path => rcases hallowed with ⟨text, h⟩ | ⟨text, h⟩ | h <;> cases h
    | unnamed _ hword =>
      rcases hallowed with ⟨text, h⟩ | ⟨text, h⟩ | h <;> exact hword _ (congrArg Item.subject h)
    | value hname htext =>
      rcases hallowed with ⟨text, h⟩ | ⟨text, h⟩ | h
      · exact htext text (congrArg Item.payload h)
      · exact htext text (congrArg Item.payload h)
      · simp_all [bare]
    | alone hmore => rcases hallowed with ⟨text, h⟩ | ⟨text, h⟩ | h <;> simp_all [assign, bare]
  · intro hallowed
    obtain ⟨subject, payload⟩ := i
    cases subject with
    | path => exact .path
    | brokenPath | literal | junk | missing => exact .unnamed (by simp) (by simp)
    | word name =>
      by_cases hname : name ∈ ["table", "comment"]
      · refine .value hname fun text htext => hallowed ?_
        rw [htext]
        rw [List.mem_cons, List.mem_singleton] at hname
        rcases hname with rfl | rfl
        · exact .inl ⟨text, rfl⟩
        · exact .inr (.inl ⟨text, rfl⟩)
      · by_cases hjson : name = "json"
        · rw [hjson]
          refine .alone fun hnone => hallowed (.inr (.inr ?_))
          rw [hjson, hnone]
          rfl
        · exact .unsupported (by simp_all)

/-- A name that is only ever assigned to has as many texts as it comes. -/
theorem length_textsUnder {items : List Item} (h : ∀ i ∈ items, i.SaysOfType) {name : String}
    (hname : name ≠ "json") :
    (Item.textsUnder name items).length = items.countP (·.subject = .word name) := by
  induction items with
  | nil => rfl
  | cons i items ih =>
    rw [List.forall_mem_cons] at h
    rw [Item.textsUnder_cons, List.length_append, ih h.2, List.countP_cons, Nat.add_comm]
    rcases h.1 with ⟨text, rfl⟩ | ⟨text, rfl⟩ | rfl
    · rw [Item.textsUnder_assign]
      by_cases htable : name = "table" <;> simp [Item.assign, htable, eq_comm]
    · rw [Item.textsUnder_assign]
      by_cases hcomment : name = "comment" <;> simp [Item.assign, hcomment, eq_comm]
    · rw [Item.textsUnder_bare]
      simp [Item.bare, hname.symm]

/-- The attributes are a reason to refuse a type. -/
inductive RefusedOfType (attributes : List Attribute) : Prop
  | notList {a : Attribute} (mem : a ∈ attributes) (name : a.name = schemaAttribute)
      (form : ∀ items, a.form ≠ .list items)
  | item {i : Item} (mem : i ∈ schemaItems attributes) (refused : i.RefusedOfType)
  | repeated {name : String} (mem : name ∈ ["table", "comment"])
      (twice : 2 ≤ (schemaItems attributes).countP (·.subject = .word name))

/-- The annotations of a type are refused exactly if one of the reasons to refuse them is there. -/
theorem exists_structOptions_error_iff {attributes : List Attribute} :
    (∃ e, structOptions attributes = .error e) ↔ RefusedOfType attributes := by
  have hjson : ∀ name ∈ ["table", "comment"], name ≠ "json" := by decide
  rw [exists_error_iff, exists_structOptions_iff]
  constructor
  · intro h
    by_contra hnot
    -- only of items that are allowed it is known how many texts they assign
    have hallowed : ∀ i ∈ schemaItems attributes, i.SaysOfType := by
      intro i hi
      by_contra hi'
      exact hnot (.item hi (Item.refusedOfType_iff.mpr hi'))
    refine h ⟨?_, hallowed, ?_⟩
    · intro a ha hname
      by_contra hlist
      exact hnot (.notList ha hname fun items hitems => hlist ⟨items, hitems⟩)
    · intro name hname
      by_contra htwice
      rw [length_textsUnder hallowed (hjson name hname)] at htwice
      exact hnot (.repeated hname (Nat.lt_of_not_le htwice))
  · rintro h ⟨hlist, hallowed, honce⟩
    cases h with
    | notList ha hname hform =>
      obtain ⟨items, hitems⟩ := hlist _ ha hname
      exact hform items hitems
    | item hi hrefused => exact Item.refusedOfType_iff.mp hrefused (hallowed _ hi)
    | repeated hname htwice =>
      have hlength := honce _ hname
      rw [length_textsUnder hallowed (hjson _ hname)] at hlength
      omega

end TableSchema.Definition
