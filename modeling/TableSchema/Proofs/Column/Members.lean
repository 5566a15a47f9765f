import Mathlib.Data.List.DropRight
import TableSchema.Proofs.Column.Outcome
import TableSchema.Proofs.Tag.Literal
import TableSchema.Proofs.Tag.Pieces
import TableSchema.Proofs.Types.Wrapping

/-!
# The members of a column

The options of a tag are applied one after the other, and each of them may undo what others did before
it. What is left of them in the end can be told without going through them: every member of the column
is decided by the last option that is about it, and the last option that names a type leaves nothing of
what stands in front of it to the size and the sign.

* `TagEntry.truth`, `TagEntry.number` — what the value of an option is worth.
* `withOption`, `foldl_apply_of_readSettings` — what one option does, and what all of them do.
* `lastOption?`, `foldl_withOption_last` — a member that one key is about.
* `foldl_withOption_last_behind` — a member that is given up when a type is named.
* `Follows`, `build_members` — all members of a column that is built.
-/

namespace TableSchema

variable {τ : Type}

-- ---------------------------------------------------------------------------
-- Values of options
-- ---------------------------------------------------------------------------

/-- The option says yes: it has no value, or a spelling of yes. -/
def TagEntry.truth (o : TagEntry) : Bool :=
  o.value.all (· ∈ spellings true)

/-- The number that the digits of the value make. -/
def TagEntry.number (o : TagEntry) : Nat :=
  Text.digitsValue 0 (o.text.toList.filter Char.isDigit)

/-- A truth value that is read is the one that the option spells. -/
theorem TagEntry.readBool_eq_ok {o : TagEntry} {b : Bool} (h : o.readBool = .ok b) : b = o.truth := by
  rw [TagEntry.readBool] at h
  rw [truth]
  cases hvalue : o.value with
  | none =>
    rw [hvalue] at h
    exact (Except.ok.inj h).symm
  | some text =>
    rw [hvalue] at h
    dsimp only at h
    cases hread : TableSchema.readBool text with
    | none =>
      rw [hread] at h
      cases h
    | some value =>
      rw [hread] at h
      obtain rfl := Except.ok.inj h
      have hyes : value = true ↔ text ∈ spellings true := by
        rw [← readBool_eq_some_iff, hread, Option.some.injEq]
      rw [Option.all_some, Bool.eq_iff_iff, hyes, decide_eq_true_eq]

/-- A number that is read is the one that the option spells. -/
theorem TagEntry.readWord_eq_ok {o : TagEntry} {word : UInt32} (h : o.readWord = .ok word) :
    word.toNat = o.number := by
  rw [TagEntry.readWord] at h
  cases hread : TableSchema.readWord o.text with
  | error fault =>
    rw [hread] at h
    cases h
  | ok value =>
    rw [hread] at h
    obtain rfl := Except.ok.inj h
    exact (readWord_eq_ok_iff.mp hread).digitsValue_filter.symm

/-- The name of a type is read as it stands. -/
theorem TagEntry.readTypeName_eq_ok {o : TagEntry} {name : String} (h : o.readTypeName = .ok name) :
    name = o.text := by
  rw [readTypeName] at h
  split at h
  · cases h
  · exact (Except.ok.inj h).symm

-- ---------------------------------------------------------------------------
-- One option
-- ---------------------------------------------------------------------------

namespace PendingColumn

/-- The draft after one more option. Only a type does more than to set a member of its own. -/
def withOption (d : PendingColumn τ) (o : TagEntry) : PendingColumn τ where
  column :=
    { d.column with
      nullable := if o.key = "null" then o.truth else d.column.nullable
      autoIncrement := if o.key = "auto" then o.truth else d.column.autoIncrement
      invisible := if o.key = "invisible" then o.truth else d.column.invisible
      unsigned :=
        if o.key = "type" then false
        else if o.key = "unsigned" then o.truth else d.column.unsigned
      size :=
        if o.key = "type" then 0
        else if o.key = "size" then .ofNat o.number else d.column.size
      srid := if o.key = "srid" then some (.ofNat o.number) else d.column.srid
      sqlType := if o.key = "type" then o.text else d.column.sqlType
      default := if o.key = "default" then some o.text else d.column.default
      charset := if o.key = "charset" then some o.text else d.column.charset
      collation := if o.key = "collate" then some o.text else d.column.collation
      comment := if o.key = "comment" then some o.text else d.column.comment }
  mapped := if o.key = "type" then true else d.mapped

/-- The setting that an option is read as does to a draft what the option says. -/
theorem apply_of_read {o : TagEntry} {key : OptionKey} {setting : Setting}
    (hkey : o.key = key.text) (hread : key.read o = .ok setting) (d : PendingColumn τ) :
    d.apply setting = d.withOption o := by
  cases key with
  | null | auto | invisible | unsigned =>
    obtain ⟨value, hvalue, rfl⟩ := map_eq_ok_iff.1 hread
    obtain rfl := TagEntry.readBool_eq_ok hvalue
    simp [apply, withOption, hkey, OptionKey.text]
  | size | srid =>
    obtain ⟨word, hword, rfl⟩ := map_eq_ok_iff.1 hread
    simp [apply, withOption, hkey, OptionKey.text, ← TagEntry.readWord_eq_ok hword]
  | type =>
    obtain ⟨name, hname, rfl⟩ := map_eq_ok_iff.1 hread
    obtain rfl := TagEntry.readTypeName_eq_ok hname
    simp [apply, withOption, hkey, OptionKey.text]
  | default | charset | collate | comment =>
    obtain rfl := Except.ok.inj hread
    simp [apply, withOption, hkey, OptionKey.text]

/-- An option that nobody knows does nothing. -/
theorem withOption_of_unknown {o : TagEntry} (h : OptionKey.ofText? o.key = none)
    (d : PendingColumn τ) : d.withOption o = d := by
  have hne := OptionKey.ofText?_eq_none_iff.mp h
  simp [withOption, show o.key ≠ "null" from hne .null, show o.key ≠ "auto" from hne .auto,
    show o.key ≠ "invisible" from hne .invisible, show o.key ≠ "unsigned" from hne .unsigned,
    show o.key ≠ "size" from hne .size, show o.key ≠ "srid" from hne .srid,
    show o.key ≠ "type" from hne .type, show o.key ≠ "default" from hne .default,
    show o.key ≠ "charset" from hne .charset, show o.key ≠ "collate" from hne .collate,
    show o.key ≠ "comment" from hne .comment]

/-- So does what a whole tag entry is read as, also if it is unknown and does nothing. -/
theorem foldl_apply_of_readOption {strict : Bool} {field : String} {o : TagEntry}
    {setting : Option Setting} (h : readOption strict field o = .ok setting) (d : PendingColumn τ) :
    setting.toList.foldl apply d = d.withOption o := by
  rw [readOption] at h
  cases hkey : OptionKey.ofText? o.key with
  | none =>
    rw [hkey] at h
    rw [withOption_of_unknown hkey]
    cases strict with
    | true => cases h
    | false =>
      obtain rfl := Except.ok.inj h
      rfl
  | some key =>
    rw [hkey] at h
    dsimp only at h
    cases hread : key.read o with
    | error fault =>
      rw [hread] at h
      cases h
    | ok value =>
      rw [hread] at h
      obtain rfl := Except.ok.inj h
      exact apply_of_read (OptionKey.ofText?_eq_some_iff.mp hkey) hread d

/-- The settings of a tag do what its options do one by one. -/
theorem foldl_apply_of_readSettings {strict : Bool} {field : String} {options : List TagEntry}
    {settings : List Setting} (h : readSettings strict field options = .ok settings)
    (d : PendingColumn τ) : settings.foldl apply d = options.foldl withOption d := by
  induction options generalizing settings d with
  | nil =>
    obtain rfl := Except.ok.inj h
    rfl
  | cons o rest ih =>
    cases ho : readOption strict field o with
    | error e =>
      rw [readSettings_cons_of_problem ho] at h
      cases h
    | ok setting =>
      rw [readSettings_cons_of_setting ho] at h
      obtain ⟨later, hlater, rfl⟩ := map_eq_ok_iff.1 h
      rw [List.foldl_append, foldl_apply_of_readOption ho, ih hlater, List.foldl_cons]

end PendingColumn

-- ---------------------------------------------------------------------------
-- The last option of a key
-- ---------------------------------------------------------------------------

/-- The last option of a key. -/
def lastOption? (key : String) (options : List TagEntry) : Option TagEntry :=
  options.reverse.find? (·.key = key)

/-- The options behind the last one that names a type: all of them if none does. -/
def behindType (options : List TagEntry) : List TagEntry :=
  options.rtakeWhile (·.key ≠ "type")

/-- The type that the last option for it names. It says nothing of size and sign. -/
def namedType? (options : List TagEntry) : Option SqlType :=
  (lastOption? "type" options).map fun o => ⟨o.text, 0, false⟩

/-- The last option of a key is the one at the end, if that has the key. -/
theorem lastOption?_concat (key : String) (front : List TagEntry) (o : TagEntry) :
    lastOption? key (front ++ [o]) = if o.key = key then some o else lastOption? key front := by
  rw [lastOption?, List.reverse_append, List.reverse_singleton, List.singleton_append,
    List.find?_cons]
  by_cases ho : o.key = key <;> simp [ho, lastOption?]

/-- The last option of a key is one of the options, and has the key. -/
theorem mem_of_lastOption? {key : String} {options : List TagEntry} {o : TagEntry}
    (h : lastOption? key options = some o) : o ∈ options ∧ o.key = key := by
  rw [lastOption?] at h
  exact ⟨List.mem_reverse.mp (List.mem_of_find?_eq_some h), by simpa using List.find?_some h⟩

/-- There is a last option of a key exactly if there is one at all. -/
theorem isSome_lastOption?_iff {key : String} {options : List TagEntry} :
    (lastOption? key options).isSome = true ↔ ∃ o ∈ options, o.key = key := by
  simp [lastOption?]

/-- An option at the end stands behind the last one that names a type, unless it names one itself. -/
theorem behindType_concat (front : List TagEntry) (o : TagEntry) :
    behindType (front ++ [o]) = if o.key = "type" then [] else behindType front ++ [o] := by
  rw [behindType, List.rtakeWhile_concat]
  by_cases ho : o.key = "type" <;> simp [ho, behindType]

namespace PendingColumn

variable {α : Type}

theorem foldl_withOption_concat (front : List TagEntry) (o : TagEntry) (d : PendingColumn τ) :
    (front ++ [o]).foldl withOption d = (front.foldl withOption d).withOption o := by
  rw [List.foldl_append, List.foldl_cons, List.foldl_nil]

/-- Options that leave a member alone one by one do so all together. -/
theorem foldl_withOption_kept_of_mem (member : PendingColumn τ → α) {options : List TagEntry}
    (hstep : ∀ o ∈ options, ∀ d, member (d.withOption o) = member d) (d : PendingColumn τ) :
    member (options.foldl withOption d) = member d := by
  induction options generalizing d with
  | nil => rfl
  | cons o rest ih =>
    rw [List.forall_mem_cons] at hstep
    obtain ⟨ho, hrest⟩ := hstep
    rw [List.foldl_cons, ih hrest, ho]

/-- A member that no single option changes is not changed by all of them. -/
theorem foldl_withOption_kept (member : PendingColumn τ → α)
    (hstep : ∀ d o, member (d.withOption o) = member d) (options : List TagEntry)
    (d : PendingColumn τ) : member (options.foldl withOption d) = member d :=
  foldl_withOption_kept_of_mem member (fun o _ d => hstep d o) d

/-- The last option of its key decides a member. -/
theorem foldl_withOption_last (member : PendingColumn τ → α) (key : String) (value : TagEntry → α)
    (hstep : ∀ d o, member (d.withOption o) = if o.key = key then value o else member d)
    (options : List TagEntry) (d : PendingColumn τ) :
    member (options.foldl withOption d) =
      ((lastOption? key options).map value).getD (member d) := by
  -- from the right: the last option either decides the member or leaves it to those in front
  induction options using List.reverseRecOn with
  | nil => rfl
  | append_singleton front o ih =>
    rw [foldl_withOption_concat, hstep, ih, lastOption?_concat]
    by_cases ho : o.key = key <;> simp [ho]

/-- So it does where the member is empty at first. -/
theorem foldl_withOption_last_of_none (member : PendingColumn τ → Option α) (key : String)
    (value : TagEntry → α)
    (hstep : ∀ d o, member (d.withOption o) = if o.key = key then some (value o) else member d)
    (options : List TagEntry) {d : PendingColumn τ} (hd : member d = none) :
    member (options.foldl withOption d) = (lastOption? key options).map value := by
  rw [foldl_withOption_last member key _ hstep, hd]
  cases lastOption? key options <;> rfl

/-- If naming a type gives a member up, only the options behind the last type count. -/
theorem foldl_withOption_last_behind (member : PendingColumn τ → α) (key : String)
    (value : TagEntry → α) (blank : α)
    (hstep : ∀ d o, member (d.withOption o) =
      if o.key = "type" then blank else if o.key = key then value o else member d)
    (options : List TagEntry) (d : PendingColumn τ) :
    member (options.foldl withOption d) =
      ((lastOption? key (behindType options)).map value).getD
        (if (lastOption? "type" options).isSome then blank else member d) := by
  induction options using List.reverseRecOn with
  | nil => rfl
  | append_singleton front o ih =>
    rw [foldl_withOption_concat, hstep, ih, lastOption?_concat, behindType_concat]
    by_cases htype : o.key = "type"
    · -- nothing stands behind this option yet
      simp [htype, lastOption?]
    · rw [if_neg htype, if_neg htype, if_neg htype, lastOption?_concat]
      by_cases ho : o.key = key <;> simp [ho]

end PendingColumn

-- ---------------------------------------------------------------------------
-- Columns
-- ---------------------------------------------------------------------------

/-- Numbers that are read are not too large for a member. -/
theorem number_lt_of_readSettings {strict : Bool} {field : String} {options : List TagEntry}
    {settings : List Setting} (h : readSettings strict field options = .ok settings)
    {o : TagEntry} (ho : o ∈ options) (hkey : o.key = "size" ∨ o.key = "srid") :
    o.number < UInt32.size := by
  obtain ⟨setting, hread⟩ := readSettings_ok_iff.mp ⟨settings, h⟩ o ho
  have hword : ∃ word, o.readWord = .ok word := by
    rw [readOption] at hread
    rcases hkey with hkey | hkey <;> rw [hkey] at hread <;> cases hread' : o.readWord with
    | ok word => exact ⟨word, rfl⟩
    | error fault =>
      simp [OptionKey.ofText?, OptionKey.read, hread', Except.map, Except.mapError] at hread
  obtain ⟨word, hword⟩ := hword
  rw [← TagEntry.readWord_eq_ok hword]
  exact word.toNat_lt_size

/-- What the members of a column are, given the options of its tag, the resolved type of its field and
the SQL type that it starts from. -/
structure Column.Follows (c : Column τ) (options : List TagEntry) (resolved : Resolved τ)
    (base : SqlType) : Prop where
  resolvedType : c.resolvedType = resolved.type
  sqlType : c.sqlType = base.name
  size : c.size.toNat =
    ((lastOption? "size" (behindType options)).map TagEntry.number).getD base.size.toNat
  unsigned : c.unsigned =
    ((lastOption? "unsigned" (behindType options)).map TagEntry.truth).getD base.unsigned
  nullable : c.nullable = ((lastOption? "null" options).map TagEntry.truth).getD resolved.optional
  autoIncrement : c.autoIncrement = ((lastOption? "auto" options).map TagEntry.truth).getD false
  invisible : c.invisible = ((lastOption? "invisible" options).map TagEntry.truth).getD false
  srid : c.srid.map UInt32.toNat = (lastOption? "srid" options).map TagEntry.number
  default : c.default = (lastOption? "default" options).map TagEntry.text
  charset : c.charset = (lastOption? "charset" options).map TagEntry.text
  collation : c.collation = (lastOption? "collate" options).map TagEntry.text
  comment : c.comment = (lastOption? "comment" options).map TagEntry.text

/-- The SQL type that a column starts from is one that an option names, or the one of its type. -/
theorem namedType?_or_eq_some {options : List TagEntry} {inferred : Option SqlType} {base : SqlType}
    (h : (namedType? options).or inferred = some base) :
    (∃ o, lastOption? "type" options = some o ∧ base = ⟨o.text, 0, false⟩) ∨
      (lastOption? "type" options = none ∧ inferred = some base) := by
  rw [namedType?] at h
  cases htype : lastOption? "type" options with
  | some o =>
    rw [htype] at h
    exact .inl ⟨o, rfl, (Option.some.inj h).symm⟩
  | none =>
    rw [htype] at h
    exact .inr ⟨rfl, h⟩

namespace PendingColumn

/-- A draft has a SQL type as soon as one is named. -/
theorem mapped_foldl_withOption (options : List TagEntry) (d : PendingColumn τ) :
    (options.foldl withOption d).mapped = ((lastOption? "type" options).isSome || d.mapped) := by
  rw [foldl_withOption_last mapped "type" (fun _ => true) (fun _ _ => rfl)]
  cases lastOption? "type" options <;> rfl

variable {name sourceName : String} {resolved : Resolved τ} {inferred : Option SqlType}
  {base : SqlType} {options : List TagEntry}

/-- The options of a tag, applied to what the resolved type says. -/
theorem follows_foldl_withOption (hbase : (namedType? options).or inferred = some base)
    (hnumber : ∀ o ∈ options, o.key = "size" ∨ o.key = "srid" → o.number < UInt32.size) :
    (options.foldl withOption (start name sourceName resolved inferred)).column.Follows
      options resolved base := by
  have hsize : ∀ {o}, lastOption? "size" (behindType options) = some o →
      (UInt32.ofNat o.number).toNat = o.number := by
    intro o ho
    obtain ⟨hmem, hkey⟩ := mem_of_lastOption? ho
    have hoptions : o ∈ options := (List.rtakeWhile_suffix _ options).subset hmem
    exact UInt32.toNat_ofNat_of_lt' (hnumber o hoptions (.inl hkey))
  have hsrid : ∀ {o}, lastOption? "srid" options = some o →
      (UInt32.ofNat o.number).toNat = o.number := by
    intro o ho
    obtain ⟨hmem, hkey⟩ := mem_of_lastOption? ho
    exact UInt32.toNat_ofNat_of_lt' (hnumber o hmem (.inr hkey))
  constructor
  case resolvedType =>
    exact foldl_withOption_kept (·.column.resolvedType) (fun _ _ => rfl) options _
  case sqlType =>
    rw [foldl_withOption_last (·.column.sqlType) "type" TagEntry.text (fun _ _ => rfl)]
    rcases namedType?_or_eq_some hbase with ⟨o, htype, rfl⟩ | ⟨htype, rfl⟩
    · rw [htype]
      rfl
    · rw [htype]
      rfl
  case size =>
    rw [foldl_withOption_last_behind (·.column.size) "size" (.ofNat ·.number) 0 (fun _ _ => rfl)]
    cases ho : lastOption? "size" (behindType options) with
    | some o => exact hsize ho
    | none =>
      -- the size is the one of the type, which is open if an option names the type
      rcases namedType?_or_eq_some hbase with ⟨o, htype, rfl⟩ | ⟨htype, rfl⟩
      · rw [htype]
        rfl
      · rw [htype]
        rfl
  case unsigned =>
    rw [foldl_withOption_last_behind (·.column.unsigned) "unsigned" TagEntry.truth false
      (fun _ _ => rfl)]
    rcases namedType?_or_eq_some hbase with ⟨o, htype, rfl⟩ | ⟨htype, rfl⟩
    · rw [htype]
      rfl
    · rw [htype]
      rfl
  case nullable =>
    exact foldl_withOption_last (·.column.nullable) "null" _ (fun _ _ => rfl) options _
  case autoIncrement =>
    exact foldl_withOption_last (·.column.autoIncrement) "auto" _ (fun _ _ => rfl) options _
  case invisible =>
    exact foldl_withOption_last (·.column.invisible) "invisible" _ (fun _ _ => rfl) options _
  case srid =>
    rw [foldl_withOption_last_of_none (·.column.srid) "srid" (.ofNat ·.number) (fun _ _ => rfl)
      options rfl]
    cases ho : lastOption? "srid" options with
    | none => rfl
    | some o => exact congrArg some (hsrid ho)
  case default =>
    exact foldl_withOption_last_of_none (·.column.default) "default" _ (fun _ _ => rfl) options rfl
  case charset =>
    exact foldl_withOption_last_of_none (·.column.charset) "charset" _ (fun _ _ => rfl) options rfl
  case collation =>
    exact foldl_withOption_last_of_none (·.column.collation) "collate" _ (fun _ _ => rfl) options rfl
  case comment =>
    exact foldl_withOption_last_of_none (·.column.comment) "comment" _ (fun _ _ => rfl) options rfl

end PendingColumn

namespace Column

variable [DecidableEq τ] {g : TypeGraph τ} {config : Config} {sourceName raw : String} {declared : τ}

/-- A field that is not skipped and whose options can be read: they are applied one by one. -/
theorem build_of_settings {name : String} {settings : List Setting}
    (hname : (Tag.parse raw config.skipMarker).name.columnName? sourceName = some name)
    (hread : readSettings config.strictOptions sourceName
      (Tag.parse raw config.skipMarker).options = .ok settings) :
    build g config sourceName declared raw =
      ((Tag.parse raw config.skipMarker).options.foldl PendingColumn.withOption
        (.start name sourceName (g.resolve declared)
          (g.sqlType? (g.resolve declared).type))).close
        (.unsupportedType sourceName (g.shape (g.resolve declared).type).typeName) := by
  rw [build_of_name hname, hread]
  show finish g sourceName name (g.resolve declared) settings = _
  rw [finish, PendingColumn.foldl_apply_of_readSettings hread]

/--
**All members of a column.** The name is the first piece of the tag, or comes from the identifier if
that piece is empty. The SQL type is the one that the last option for it names, or else the one of the
resolved type; size and sign come with it, unless an option behind the last type gives them again. All
other members are decided by the last option of their key, wherever it stands.
-/
theorem build_members {c : Column τ} (h : build g config sourceName declared raw = .ok (some c)) :
    (∃ first rest, Tag.pieces raw.toList = first :: rest ∧
      c.name = if first = [] then snakeCase sourceName else String.ofList first) ∧
    c.sourceName = sourceName ∧
    ∃ base,
      (namedType? (Tag.parse raw config.skipMarker).options).or
        (g.sqlType? (g.resolve declared).type) = some base ∧
      c.Follows (Tag.parse raw config.skipMarker).options (g.resolve declared) base := by
  have hname : ∃ name,
      (Tag.parse raw config.skipMarker).name.columnName? sourceName = some name := by
    refine Option.ne_none_iff_exists'.mp fun hnone => ?_
    rw [build_of_skipped (NameChoice.columnName?_eq_none_iff.mp hnone)] at h
    cases h
  obtain ⟨name, hname⟩ := hname
  have hbuilt := h
  rw [build_of_name hname, bind_eq_ok_iff] at hbuilt
  obtain ⟨settings, hread, -⟩ := hbuilt
  rw [build_of_settings hname hread, PendingColumn.close] at h
  split at h
  case isFalse => cases h
  case isTrue hmapped =>
    obtain rfl := Option.some.inj (Except.ok.inj h)
    refine ⟨?_, ?_, ?_⟩
    · obtain ⟨first, rest, hpieces⟩ := Tag.exists_cons_of_piecesFrom 0 raw.toList
      refine ⟨first, rest, hpieces, ?_⟩
      rw [PendingColumn.foldl_withOption_kept (·.column.name) (fun _ _ => rfl)]
      rw [Tag.name_parse hpieces, NameChoice.ofSegment] at hname
      split_ifs at hname ⊢ with hempty
      · exact (Option.some.inj hname).symm
      · cases hname
      · exact (Option.some.inj hname).symm
    · exact PendingColumn.foldl_withOption_kept (·.column.sourceName) (fun _ _ => rfl) _ _
    · rw [PendingColumn.mapped_foldl_withOption, Bool.or_eq_true] at hmapped
      have hbase : ∃ base, (namedType? (Tag.parse raw config.skipMarker).options).or
          (g.sqlType? (g.resolve declared).type) = some base := by
        rw [← Option.isSome_iff_exists, Option.isSome_or, Bool.or_eq_true, namedType?,
          Option.isSome_map]
        exact hmapped
      obtain ⟨base, hbase⟩ := hbase
      exact ⟨base, hbase, PendingColumn.follows_foldl_withOption hbase fun _ =>
        number_lt_of_readSettings hread⟩

/-- A type that is a text. -/
def texts : TypeGraph (Fin 1) :=
  .ofShapes #v[⟨"String", .scalar .string, false⟩]

/-- A tag that changes its mind about the type, the size and the sign. -/
def codeTag : String :=
  ",size=10,unsigned,type=CHAR,size=3,null,size=+007,null=f,default"

/-- The column of that tag. -/
def codeColumn : Column (Fin 1) where
  name := "order_code"
  sourceName := "OrderCode"
  sqlType := "CHAR"
  resolvedType := 0
  size := 7
  unsigned := false
  autoIncrement := false
  invisible := false
  nullable := false
  default := some ""
  comment := none
  charset := none
  collation := none
  srid := none

/-- The last size behind the type counts, and the sign in front of it does not. -/
theorem build_members_codeColumn :
    build texts {} "OrderCode" 0 codeTag = .ok (some codeColumn) ∧
      codeColumn.name = snakeCase "OrderCode" ∧
      codeColumn.Follows (Tag.parse codeTag "-").options ⟨0, false⟩ ⟨"CHAR", 0, false⟩ := by
  have hresolve : texts.resolve 0 = ⟨0, false⟩ := TypeGraph.resolve_of_unwrap?_none rfl
  have hbuild : build texts {} "OrderCode" 0 codeTag = .ok (some codeColumn) := by
    rw [build, hresolve]
    decide +kernel
  obtain ⟨⟨first, rest, hpieces, hname⟩, -, base, hbase, hfollows⟩ := build_members hbuild
  have hfirst : (Tag.pieces codeTag.toList).head? = some [] := by decide +kernel
  have hchar : (namedType? (Tag.parse codeTag "-").options).or
      (texts.sqlType? (texts.resolve 0).type) = some ⟨"CHAR", 0, false⟩ := by
    rw [hresolve]
    decide +kernel
  rw [hpieces, List.head?_cons, Option.some.injEq] at hfirst
  rw [if_pos hfirst] at hname
  obtain rfl : base = ⟨"CHAR", 0, false⟩ := Option.some.inj (hbase.symm.trans hchar)
  rw [hresolve] at hfollows
  exact ⟨hbuild, hname, hfollows⟩

end Column

end TableSchema
