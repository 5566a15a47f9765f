import TableSchema.Proofs.Column.Members
import TableSchema.Proofs.Column.Strictness

/-!
# When a column cannot be built

There are three ways to end: the field is skipped, it has a column, or there is a problem. Two kinds of
problems compete for the third. An option may offend, and a type may have no SQL type, which is known
from the start but only counts when all options have been read, since one of them may name a type.

* `Offends`, `readOption_eq_error_iff` — the options that cannot be read, each with its problem.
* `Mapped`, `isSome_sqlType?_iff` — the types that have a SQL type.
* `Faulty`, `build_outcome` — how the building of a column ends.
-/

namespace TableSchema

variable {τ : Type}

-- ---------------------------------------------------------------------------
-- Options
-- ---------------------------------------------------------------------------

/-- The option is a problem of the tag of `field`, and the problem is the given one. -/
inductive TagEntry.Offends (strict : Bool) (field : String) (o : TagEntry) : BuildError → Prop
  /-- Its value ought to be a truth value. An option without value is one. -/
  | truth {text : String} (key : o.key ∈ ["null", "auto", "invisible", "unsigned"])
      (value : o.value = some text) (spelled : ∀ b, text ∉ spellings b) :
      Offends strict field o (.badOption field o .notBoolean)
  /-- Its value ought to be a number of 32 bits. -/
  | number {fault : NumberFault} (key : o.key ∈ ["size", "srid"])
      (spelled : ¬ ∃ n, Spells o.text.toList n ∧ n < UInt32.size)
      (cause : TableSchema.readWord o.text = .error fault) :
      Offends strict field o (.badOption field o (.number fault))
  /-- It ought to name a type. -/
  | type (key : o.key = "type") (text : o.text = "") :
      Offends strict field o (.badOption field o .missingTypeName)
  /-- Nobody knows it, and that is not tolerated. -/
  | unknown (refused : strict = true) (key : ∀ key : OptionKey, o.key ≠ key.text) :
      Offends strict field o (.unknownOption field o.key)

/-- A value is no truth value if it is there and no spelling of one. -/
theorem TagEntry.readBool_eq_error_iff {o : TagEntry} {fault : OptionFault} :
    o.readBool = .error fault ↔
      fault = .notBoolean ∧ ∃ text, o.value = some text ∧ ∀ b, text ∉ spellings b := by
  rw [TagEntry.readBool]
  cases o.value with
  | none => simp
  | some text =>
    simp only [Option.some.injEq, exists_eq_left']
    rw [← readBool_eq_none_iff]
    cases TableSchema.readBool text <;> simp [eq_comm]

/-- A number is refused for the reason for which its text is. -/
theorem TagEntry.readWord_eq_error_iff {o : TagEntry} {fault : OptionFault} :
    o.readWord = .error fault ↔ ∃ cause, TableSchema.readWord o.text = .error cause ∧
      fault = .number cause := by
  rw [TagEntry.readWord]
  cases TableSchema.readWord o.text <;> simp [Except.mapError, eq_comm]

/-- The name of a type is refused only if it is empty. -/
theorem TagEntry.readTypeName_eq_error_iff {o : TagEntry} {fault : OptionFault} :
    o.readTypeName = .error fault ↔ o.text = "" ∧ fault = .missingTypeName := by
  rw [readTypeName]
  by_cases h : o.text = ""
  · rw [if_pos h, Except.error.injEq, eq_comm]
    exact (and_iff_right h).symm
  · simp [h]

/-- The problem of an option with a known key is what its key says of its value. -/
theorem readOption_eq_error_of_key {strict : Bool} {field : String} {o : TagEntry} {key : OptionKey}
    {e : BuildError} (h : o.key = key.text) :
    readOption strict field o = .error e ↔
      ∃ fault, key.read o = .error fault ∧ e = .badOption field o fault := by
  rw [readOption_of_key (OptionKey.ofText?_eq_some_iff.mpr h)]
  cases key.read o <;> simp [Except.map, Except.mapError, eq_comm]

/-- Whatever the reader of options refuses is an offence. -/
theorem offends_of_readOption {strict : Bool} {field : String} {o : TagEntry} {e : BuildError}
    (h : readOption strict field o = .error e) : o.Offends strict field e := by
  cases hkey : OptionKey.ofText? o.key with
  | none =>
    rw [readOption_of_unknown (TagEntry.isKnown_eq_false_iff.mpr hkey)] at h
    split at h
    case isTrue hstrict =>
      obtain rfl := Except.error.inj h
      exact .unknown hstrict (OptionKey.ofText?_eq_none_iff.mp hkey)
    case isFalse => cases h
  | some key =>
    have htext := OptionKey.ofText?_eq_some_iff.mp hkey
    obtain ⟨fault, hread, rfl⟩ := (readOption_eq_error_of_key htext).mp h
    cases key with
    | null | auto | invisible | unsigned =>
      obtain ⟨rfl, text, hvalue, hspelled⟩ :=
        TagEntry.readBool_eq_error_iff.mp (map_eq_error_iff.mp hread)
      exact .truth (by simp [htext, OptionKey.text]) hvalue hspelled
    | size | srid =>
      obtain ⟨cause, hcause, rfl⟩ := TagEntry.readWord_eq_error_iff.mp (map_eq_error_iff.mp hread)
      exact .number (by simp [htext, OptionKey.text]) (readWord_eq_error_iff.mp hcause).1 hcause
    | type =>
      obtain ⟨hempty, rfl⟩ := TagEntry.readTypeName_eq_error_iff.mp (map_eq_error_iff.mp hread)
      exact .type htext hempty
    | default | charset | collate | comment => cases hread

/-- Every offence is refused, with the problem that it is. -/
theorem TagEntry.Offends.readOption_eq {strict : Bool} {field : String} {o : TagEntry}
    {e : BuildError} (h : o.Offends strict field e) : readOption strict field o = .error e := by
  cases h with
  | truth key hvalue hspelled =>
    have hread : o.readBool = .error .notBoolean :=
      TagEntry.readBool_eq_error_iff.mpr ⟨rfl, _, hvalue, hspelled⟩
    have hkey : o.key = OptionKey.null.text ∨ o.key = OptionKey.auto.text ∨
        o.key = OptionKey.invisible.text ∨ o.key = OptionKey.unsigned.text := by
      simpa [OptionKey.text] using key
    rcases hkey with hkey | hkey | hkey | hkey <;>
      exact (readOption_eq_error_of_key hkey).mpr ⟨_, map_eq_error_iff.mpr hread, rfl⟩
  | number key _ hcause =>
    have hread := TagEntry.readWord_eq_error_iff.mpr ⟨_, hcause, rfl⟩
    have hkey : o.key = OptionKey.size.text ∨ o.key = OptionKey.srid.text := by
      simpa [OptionKey.text] using key
    rcases hkey with hkey | hkey <;>
      exact (readOption_eq_error_of_key hkey).mpr ⟨_, map_eq_error_iff.mpr hread, rfl⟩
  | type key hempty =>
    have hread := TagEntry.readTypeName_eq_error_iff.mpr ⟨hempty, rfl⟩
    have hkey : o.key = OptionKey.type.text := key
    exact (readOption_eq_error_of_key hkey).mpr ⟨_, map_eq_error_iff.mpr hread, rfl⟩
  | unknown hstrict hkey =>
    rw [readOption_of_unknown
      (TagEntry.isKnown_eq_false_iff.mpr (OptionKey.ofText?_eq_none_iff.mpr hkey)), if_pos hstrict]

/-- The reader of options refuses the offences and nothing else. -/
theorem readOption_eq_error_iff {strict : Bool} {field : String} {o : TagEntry} {e : BuildError} :
    readOption strict field o = .error e ↔ o.Offends strict field e :=
  ⟨offends_of_readOption, TagEntry.Offends.readOption_eq⟩

/-- An option does not offend if and only if it can be read. -/
theorem exists_readOption_iff {strict : Bool} {field : String} {o : TagEntry} :
    (∃ setting, readOption strict field o = .ok setting) ↔ ∀ e, ¬ o.Offends strict field e := by
  simp only [← readOption_eq_error_iff]
  cases readOption strict field o <;> simp

/-- The options of a tag are read exactly if none of them offends. -/
theorem exists_readSettings_iff {strict : Bool} {field : String} {options : List TagEntry} :
    (∃ settings, readSettings strict field options = .ok settings) ↔
      ∀ o ∈ options, ∀ e, ¬ o.Offends strict field e := by
  rw [readSettings_ok_iff]
  exact forall₂_congr fun _ _ => exists_readOption_iff

-- ---------------------------------------------------------------------------
-- Types
-- ---------------------------------------------------------------------------

namespace TypeGraph

/-- The body has a SQL type of its own. -/
inductive Mapped (g : TypeGraph τ) : Body τ → Prop
  | scalar (s : Scalar) : Mapped g (.scalar s)
  | rawJson : Mapped g .rawJson
  | bytes {element : τ} (byte : (g.shape element).body = .scalar .uint8) :
      Mapped g (.list element)
  /-- A length that needs more than 32 bits cannot be a size. -/
  | byteArray {element : τ} {length : Nat} (byte : (g.shape element).body = .scalar .uint8)
      (short : length < UInt32.size) : Mapped g (.array element length)

/-- The bodies with a SQL type are those that are mapped to one. -/
theorem isSome_bodySqlType?_iff {g : TypeGraph τ} {b : Body τ} :
    (g.bodySqlType? b).isSome = true ↔ g.Mapped b := by
  constructor
  · intro h
    cases b with
    | scalar s => exact .scalar s
    | rawJson => exact .rawJson
    | list element =>
      rw [bodySqlType?] at h
      split at h
      case isTrue hbyte => exact .bytes (isUnsignedByte_iff.mp hbyte)
      case isFalse => cases h
    | array element length =>
      rw [bodySqlType?] at h
      split at h
      case isTrue hbyte => exact .byteArray (isUnsignedByte_iff.mp hbyte.1) hbyte.2
      case isFalse => cases h
    | pointer | nullable | struct | hidden => cases h
  · intro h
    cases h with
    | scalar s => rfl
    | rawJson => rfl
    | bytes hbyte =>
      rw [bodySqlType?, if_pos (isUnsignedByte_iff.mpr hbyte)]
      rfl
    | byteArray hbyte hshort =>
      rw [bodySqlType?, if_pos ⟨isUnsignedByte_iff.mpr hbyte, hshort⟩]
      rfl

/-- Only the marker and the body of a type decide whether it has a SQL type. -/
theorem isSome_sqlType?_iff {g : TypeGraph τ} {t : τ} :
    (g.sqlType? t).isSome = true ↔ (g.shape t).json = true ∨ g.Mapped (g.shape t).body := by
  rw [sqlType?, ← isSome_bodySqlType?_iff]
  cases (g.shape t).json <;> simp

end TypeGraph

-- ---------------------------------------------------------------------------
-- Columns
-- ---------------------------------------------------------------------------

/-- A tag skips its field if its first piece is the marker, and not empty. -/
def Tag.Skips (raw skipMarker : String) : Prop :=
  skipMarker ≠ "" ∧ (Tag.pieces raw.toList).head? = some skipMarker.toList

instance (raw skipMarker : String) : Decidable (Tag.Skips raw skipMarker) :=
  inferInstanceAs (Decidable (_ ∧ _))

/-- A field that is not skipped has a name. -/
theorem exists_columnName_of_not_skips {raw skipMarker : String} (h : ¬ Tag.Skips raw skipMarker)
    (sourceName : String) :
    ∃ name, (Tag.parse raw skipMarker).name.columnName? sourceName = some name := by
  rw [← Option.ne_none_iff_exists', ne_eq, NameChoice.columnName?_eq_none_iff,
    Tag.name_parse_eq_skipped_iff]
  exact h

namespace Column

variable {g : TypeGraph τ} {config : Config} {sourceName raw : String} {declared : τ}

/-- A SQL type is there: an option names one, or the type has one. -/
def HasSqlType (g : TypeGraph τ) (options : List TagEntry) (t : τ) : Prop :=
  (∃ o ∈ options, o.key = "type") ∨ (g.shape t).json = true ∨ g.Mapped (g.shape t).body

/-- The problem of a field that is not skipped, given its options and its base type. -/
inductive Faulty (g : TypeGraph τ) (strict : Bool) (field : String) (options : List TagEntry)
    (t : τ) : BuildError → Prop
  /-- The first option that offends decides, whatever the type. -/
  | option {e : BuildError} (front : List TagEntry) (o : TagEntry) (back : List TagEntry)
      (split : options = front ++ o :: back)
      (first : ∀ p ∈ front, ∀ e, ¬ p.Offends strict field e) (offends : o.Offends strict field e) :
      Faulty g strict field options t e
  /-- The type only counts when no option offends. -/
  | unmapped (clean : ∀ o ∈ options, ∀ e, ¬ o.Offends strict field e)
      (missing : ¬ HasSqlType g options t) :
      Faulty g strict field options t (.unsupportedType field (g.shape t).typeName)

/-- When all options have been read, a draft is mapped exactly if an option names a SQL type or the
type has one. -/
theorem mapped_iff_hasSqlType {options : List TagEntry} {name : String} {resolved : Resolved τ} :
    (options.foldl PendingColumn.withOption
      (.start name sourceName resolved (g.sqlType? resolved.type))).mapped = true ↔
        HasSqlType g options resolved.type := by
  rw [PendingColumn.mapped_foldl_withOption, Bool.or_eq_true, isSome_lastOption?_iff]
  exact or_congr_right TypeGraph.isSome_sqlType?_iff

variable [DecidableEq τ]

/-- Whether a field that is not skipped has a column, and why it has none. -/
theorem build_eq_error_iff {name : String} {e : BuildError}
    (hname : (Tag.parse raw config.skipMarker).name.columnName? sourceName = some name) :
    build g config sourceName declared raw = .error e ↔
      Faulty g config.strictOptions sourceName (Tag.parse raw config.skipMarker).options
        (g.resolve declared).type e := by
  constructor
  · intro h
    cases hread : readSettings config.strictOptions sourceName
        (Tag.parse raw config.skipMarker).options with
    | error e' =>
      obtain ⟨front, o, back, hsplit, hfront, ho⟩ := readSettings_eq_error_iff.mp hread
      rw [build_of_name hname, hread] at h
      obtain rfl : e' = e := Except.error.inj h
      exact .option front o back hsplit (fun p hp => exists_readOption_iff.mp (hfront p hp))
        (readOption_eq_error_iff.mp ho)
    | ok settings =>
      -- all options have been read, so only the type is left to blame
      rw [build_of_settings hname hread, PendingColumn.close] at h
      split at h
      case isTrue => cases h
      case isFalse hmissing =>
        obtain rfl := Except.error.inj h
        exact .unmapped (exists_readSettings_iff.mp ⟨settings, hread⟩)
          (mt mapped_iff_hasSqlType.mpr hmissing)
  · intro h
    cases h with
    | option front o back hsplit hfirst hoffends =>
      have hread : readSettings config.strictOptions sourceName
          (Tag.parse raw config.skipMarker).options = .error e :=
        readSettings_eq_error_iff.mpr ⟨front, o, back, hsplit,
          fun p hp => exists_readOption_iff.mpr (hfirst p hp), readOption_eq_error_iff.mpr hoffends⟩
      rw [build_of_name hname, hread]
      rfl
    | unmapped hclean hmissing =>
      obtain ⟨settings, hread⟩ := exists_readSettings_iff.mpr hclean
      rw [build_of_settings hname hread, PendingColumn.close,
        if_neg (mt mapped_iff_hasSqlType.mp hmissing)]

/-- A field with a name has a column exactly if no option offends and there is a SQL type. -/
theorem exists_build_iff {name : String}
    (hname : (Tag.parse raw config.skipMarker).name.columnName? sourceName = some name) :
    (∃ c, build g config sourceName declared raw = .ok (some c)) ↔
      (∀ o ∈ (Tag.parse raw config.skipMarker).options, ∀ e,
        ¬ o.Offends config.strictOptions sourceName e) ∧
      HasSqlType g (Tag.parse raw config.skipMarker).options (g.resolve declared).type := by
  constructor
  · rintro ⟨c, h⟩
    have hbuilt := h
    rw [build_of_name hname, bind_eq_ok_iff] at hbuilt
    obtain ⟨settings, hread, -⟩ := hbuilt
    rw [build_of_settings hname hread, PendingColumn.close] at h
    split at h
    case isTrue hmapped =>
      exact ⟨exists_readSettings_iff.mp ⟨settings, hread⟩, mapped_iff_hasSqlType.mp hmapped⟩
    case isFalse => cases h
  · rintro ⟨hclean, htype⟩
    obtain ⟨settings, hread⟩ := exists_readSettings_iff.mpr hclean
    rw [build_of_settings hname hread, PendingColumn.close,
      if_pos (mapped_iff_hasSqlType.mpr htype)]
    exact ⟨_, rfl⟩

/-- A field with a name has a column or a problem. -/
theorem build_ne_none {name : String}
    (hname : (Tag.parse raw config.skipMarker).name.columnName? sourceName = some name) :
    build g config sourceName declared raw ≠ .ok none := by
  rw [build_of_name hname]
  intro h
  obtain ⟨settings, -, hfinish⟩ := bind_eq_ok_iff.mp h
  rw [finish, PendingColumn.close] at hfinish
  split at hfinish <;> cases hfinish

/--
**How the building of a column ends.** The field is skipped if the first piece of its tag is the
marker, and neither its type nor its options are looked at. If it is not skipped, the first option that
offends is the problem. If none does, the type is the problem, unless an option names a SQL type or the
resolved type has one: it carries the marker for documents, or it is a scalar, a document, or a list or
an array of bytes, the array with a length of 32 bits. Otherwise there is a column.
-/
theorem build_outcome (g : TypeGraph τ) (config : Config) (sourceName : String) (declared : τ)
    (raw : String) :
    (build g config sourceName declared raw = .ok none ↔ Tag.Skips raw config.skipMarker) ∧
    (∀ e, build g config sourceName declared raw = .error e ↔
      ¬ Tag.Skips raw config.skipMarker ∧
        Faulty g config.strictOptions sourceName (Tag.parse raw config.skipMarker).options
          (g.resolve declared).type e) ∧
    ((∃ c, build g config sourceName declared raw = .ok (some c)) ↔
      ¬ Tag.Skips raw config.skipMarker ∧
        (∀ o ∈ (Tag.parse raw config.skipMarker).options, ∀ e,
          ¬ o.Offends config.strictOptions sourceName e) ∧
        HasSqlType g (Tag.parse raw config.skipMarker).options (g.resolve declared).type) := by
  cases hname : (Tag.parse raw config.skipMarker).name.columnName? sourceName with
  | none =>
    have hskipped := NameChoice.columnName?_eq_none_iff.mp hname
    have hskips : Tag.Skips raw config.skipMarker := Tag.name_parse_eq_skipped_iff.mp hskipped
    simp [build_of_skipped hskipped, hskips]
  | some name =>
    have hskips : ¬ Tag.Skips raw config.skipMarker := by
      intro hskips
      have hskipped := Tag.name_parse_eq_skipped_iff.mpr hskips
      rw [NameChoice.columnName?_eq_none_iff.mpr hskipped] at hname
      cases hname
    refine ⟨?_, ?_, ?_⟩
    · exact iff_of_false (build_ne_none hname) hskips
    · intro e
      rw [and_iff_right hskips]
      exact build_eq_error_iff hname
    · rw [and_iff_right hskips]
      exact exists_build_iff hname

end Column

end TableSchema
