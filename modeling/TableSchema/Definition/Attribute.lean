import TableSchema.Definition.Token

/-!
# Annotations of a definition

An attribute is a bare name, a name with a value, or a name with a list of items. An item is a name,
perhaps with a value: `table = "users"`. The reading of an item stops at its first problem, and so
does the reading of a list.

* `Item.split` — the items of a token sequence.
* `structOptions` — what the attributes of a whole type say.
* `fieldOptions` — what the attributes of a field say.
-/

namespace TableSchema.Definition

/-- What stands behind an equals sign. -/
inductive Operand where
  /-- A string literal; `more` says that something follows it. -/
  | text (content : String) (more : Bool)
  /-- Something else. -/
  | other
  /-- Nothing at all. -/
  | missing
deriving DecidableEq, Repr

/-- What an item is about. -/
inductive Subject where
  /-- A single name. -/
  | word (name : String)
  /-- A path of several names. -/
  | path
  /-- A path that breaks off behind a separator; `atEnd` says that nothing at all follows. -/
  | brokenPath (atEnd : Bool)
  /-- No name but a literal. -/
  | literal
  /-- No name at all. -/
  | junk
  /-- A separator in front of a name that never comes. -/
  | missing
deriving DecidableEq, Repr

/-- What follows the subject of an item. -/
inductive Payload where
  | none
  | assigned (operand : Operand)
  /-- Anything but an equals sign. -/
  | other
deriving DecidableEq, Repr

/-- One item of a list. -/
structure Item where
  subject : Subject
  payload : Payload
deriving DecidableEq, Repr

/-- Goes on behind a name: `subject` is a path as soon as another name follows. `isLast` says that no
comma follows the item. -/
def Subject.behindName (isLast : Bool) (subject : Subject) (tokens : List Token) :
    Subject × List Token :=
  match tokens with
  | .separator :: .word _ :: rest => behindName isLast .path rest
  | .separator :: rest => (.brokenPath (isLast && rest.isEmpty), rest)
  | rest => (subject, rest)

/-- The subject of an item that has to start with a name, literals apart. -/
def Subject.withoutName : List Token → Subject × List Token
  | .text _ :: rest | .number :: rest | .mark '-' :: .number :: rest | .literal :: rest =>
    (.literal, rest)
  | rest => (.junk, rest)

/-- The subject at the start of an item, and what follows it. -/
def Subject.ofTokens (isLast : Bool) : List Token → Subject × List Token
  | .word name :: rest => behindName isLast (.word name) rest
  | .separator :: .word _ :: rest => behindName isLast .path rest
  | .separator :: rest =>
    if isLast && rest.isEmpty then (.missing, rest) else withoutName rest
  | rest => withoutName rest

/-- The operand behind an equals sign. `isLast` says that no comma follows the item. -/
def Operand.ofTokens (isLast : Bool) : List Token → Operand
  | [] => if isLast then .missing else .other
  | .text content :: rest => .text content (rest ≠ [])
  | _ => .other

/-- One item from its tokens. -/
def Item.ofTokens (isLast : Bool) (tokens : List Token) : Item :=
  let (subject, rest) := Subject.ofTokens isLast tokens
  let payload :=
    match rest with
    | [] => Payload.none
    | .mark '=' :: rest => .assigned (Operand.ofTokens isLast rest)
    | _ => .other
  ⟨subject, payload⟩

/-- The items of a token sequence, separated by commas. A comma may stand behind the last one. -/
def Item.split (done : List Token) : List Token → List Item
  | [] => if done = [] then [] else [Item.ofTokens true done.reverse]
  | .mark ',' :: rest => Item.ofTokens false done.reverse :: split [] rest
  | token :: rest => split (token :: done) rest

/-- The form of an attribute. -/
inductive Form where
  | bare
  | assigned (operand : Operand)
  | list (items : List Item)
deriving DecidableEq, Repr

/-- An attribute of a type or a field. -/
structure Attribute where
  name : String
  form : Form
deriving DecidableEq, Repr

/-- The attribute that carries what this library is about. -/
def schemaAttribute : String := "ddl"

/-- The attribute that carries annotations under any keys. -/
def tagAttribute : String := "tag"

/-- Why an attribute is refused. -/
inductive AttributeError where
  | needsList (name : String)
  | needsParentheses (name : String)
  | literalItem
  | junkItem
  | missingItem
  | needsName
  | missingName
  | needsEquals
  | needsText
  | missingText
  | needsComma
  | unknownStructItem
  | unknownFieldItem
  | duplicateItem (name : String)
  | duplicateTag (key : String)
  | needsValueOrList
  | needsTextValue
  | tagKeyNotWord
  | unnamedFields
deriving DecidableEq, Repr

/-- The wording of an error. -/
def AttributeError.message : AttributeError → String
  | needsList name =>
    "expected attribute arguments in parentheses: #[" ++ name ++ "(...)]"
  | needsParentheses name => "expected parentheses: #[" ++ name ++ "(...)]"
  | literalItem => "unexpected literal in nested attribute, expected ident"
  | junkItem => "unexpected token in nested attribute, expected ident"
  | missingItem => "unexpected end of input, expected nested attribute"
  | needsName => "expected ident"
  | missingName => "unexpected end of input, expected ident"
  | needsEquals => "expected `=`"
  | needsText => "expected string literal"
  | missingText => "unexpected end of input, expected string literal"
  | needsComma => "expected `,`"
  | unknownStructItem => "unsupported ddl attribute, expected `table`, `comment` or `json`"
  | unknownFieldItem => "unsupported ddl field attribute, expected `embed`"
  | duplicateItem name => "duplicate `" ++ name ++ "` attribute"
  | duplicateTag key => "duplicate `" ++ key ++ "` tag on field"
  | needsValueOrList => "expected `#[ddl = \"...\"]` or `#[ddl(embed)]`"
  | needsTextValue => "expected a string literal"
  | tagKeyNotWord => "tag key must be an identifier"
  | unnamedFields => "Reflect can only be derived for structs with named fields"

/-- The items of an attribute that has to be a list. -/
def Attribute.items (a : Attribute) : Except AttributeError (List Item) :=
  match a.form with
  | .bare => .error (.needsList a.name)
  | .assigned _ => .error (.needsParentheses a.name)
  | .list items => .ok items

/-- The subject of an item: a name, or nothing for a path. -/
def Item.word? (i : Item) : Except AttributeError (Option String) :=
  match i.subject with
  | .word name => .ok (some name)
  | .path => .ok none
  | .brokenPath atEnd => .error (if atEnd then .missingName else .needsName)
  | .literal => .error .literalItem
  | .junk => .error .junkItem
  | .missing => .error .missingItem

/-- The text that an item assigns. -/
def Item.text (i : Item) : Except AttributeError String :=
  match i.payload with
  | .assigned (.text content _) => .ok content
  | .assigned .other => .error .needsText
  | .assigned .missing => .error .missingText
  | .none | .other => .error .needsEquals

/-- After a text has been read nothing may be left of an item. -/
def Item.endAfterText (i : Item) : Except AttributeError Unit :=
  match i.payload with
  | .assigned (.text _ true) => .error .needsComma
  | _ => .ok ()

/-- After a bare word nothing may be left of an item. -/
def Item.endAfterWord (i : Item) : Except AttributeError Unit :=
  match i.payload with
  | .none => .ok ()
  | .assigned _ | .other => .error .needsComma

/-- What the attributes of a type say. -/
structure StructOptions where
  table : Option String := none
  comment : Option String := none
  /-- The type is stored as a document. -/
  json : Bool := false
deriving DecidableEq, Repr, Inhabited

/-- Gives a value to a place that must be empty. -/
def fillOnce (name : String) (slot : Option String) (value : String) :
    Except AttributeError (Option String) :=
  match slot with
  | none => .ok (some value)
  | some _ => .error (.duplicateItem name)

/-- Reads one item of a type's attribute. -/
def StructOptions.addItem (o : StructOptions) (i : Item) :
    Except AttributeError StructOptions := do
  match ← i.word? with
  | some "table" => do
    let table ← fillOnce "table" o.table (← i.text)
    i.endAfterText
    .ok { o with table }
  | some "comment" => do
    let comment ← fillOnce "comment" o.comment (← i.text)
    i.endAfterText
    .ok { o with comment }
  | some "json" => do
    i.endAfterWord
    .ok { o with json := true }
  | _ => .error .unknownStructItem

/-- Reads one attribute of a type; those of other names do not matter. -/
def StructOptions.addAttribute (o : StructOptions) (a : Attribute) :
    Except AttributeError StructOptions := do
  if a.name = schemaAttribute then (← a.items).foldlM addItem o else .ok o

/-- What the attributes of a type say, or the first problem. -/
def structOptions (attributes : List Attribute) : Except AttributeError StructOptions :=
  attributes.foldlM StructOptions.addAttribute {}

/-- What the attributes of a field say. -/
structure FieldOptions where
  tags : List (String × String) := []
  embedded : Bool := false
deriving DecidableEq, Repr, Inhabited

/-- Adds an annotation under a new key. -/
def FieldOptions.addTag (o : FieldOptions) (tag : String × String) :
    Except AttributeError FieldOptions :=
  if o.tags.any (·.1 = tag.1) then .error (.duplicateTag tag.1)
  else .ok { o with tags := o.tags ++ [tag] }

/-- Reads one item of a field's schema attribute. -/
def FieldOptions.addWord (o : FieldOptions) (i : Item) : Except AttributeError FieldOptions := do
  match ← i.word? with
  | some "embed" => do
    i.endAfterWord
    .ok { o with embedded := true }
  | _ => .error .unknownFieldItem

/-- Reads one item of a tag attribute. -/
def Item.tag (i : Item) : Except AttributeError (String × String) := do
  match ← i.word? with
  | none => .error .tagKeyNotWord
  | some key => do
    let value ← i.text
    i.endAfterText
    .ok (key, value)

/-- Reads one attribute of a field. All items of a tag attribute are read before the first of them
is added. -/
def FieldOptions.addAttribute (o : FieldOptions) (a : Attribute) :
    Except AttributeError FieldOptions := do
  if a.name = schemaAttribute then
    match a.form with
    | .bare => .error .needsValueOrList
    | .assigned (.text content false) => o.addTag (schemaAttribute, content)
    | .assigned _ => .error .needsTextValue
    | .list items => items.foldlM addWord o
  else if a.name = tagAttribute then
    let tags ← (← a.items).mapM Item.tag
    tags.foldlM addTag o
  else .ok o

/-- What the attributes of a field say, or the first problem. -/
def fieldOptions (attributes : List Attribute) : Except AttributeError FieldOptions :=
  attributes.foldlM FieldOptions.addAttribute {}

end TableSchema.Definition
