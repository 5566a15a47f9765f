import Mathlib.Algebra.Group.Nat.Defs
import TableSchema.Proofs.Column.Faults
import TableSchema.Proofs.Tag.RoundTrip

/-!
# The numbers of a column

A column has two numbers that an option may give, its size and its spatial reference system, and the size
may also be the length of a byte array. Each is a word of 32 bits, while a text or a length may stand for
any number. What does not fit is refused, so a column never has another number than the one written.

* `NumberOption` — the two options; `setting`, `stored` and `store` say where their numbers go.
* `readOption_of_spells`, `build_of_misspelled` — a value that is a number, and one that is none.
* `stored_of_build` — the number in the column that is built.
* `parse_decimal`, `build_decimal` — every number can be given, by its decimal digits.
* `bodySqlType?_array_iff`, `build_array` — byte arrays.
* `numbers_exact` — the numbers of a column, all together.
-/

namespace TableSchema

variable {τ : Type}

-- ---------------------------------------------------------------------------
-- The options that hold a number
-- ---------------------------------------------------------------------------

/-- The options whose value is a number. -/
inductive NumberOption where
  | size
  | srid
deriving DecidableEq, Repr

namespace NumberOption

/-- The key of the option. -/
def key : NumberOption → OptionKey
  | size => .size
  | srid => .srid

/-- What the option says when its value is a number. -/
def setting : NumberOption → UInt32 → Setting
  | size => .size
  | srid => .srid

/-- The number of a column that the option is about. -/
def stored : NumberOption → Column τ → Option UInt32
  | size, c => some c.size
  | srid, c => c.srid

/-- The column with another number in that place. -/
def store : NumberOption → UInt32 → Column τ → Column τ
  | size, number, c => { c with size := number }
  | srid, number, c => { c with srid := some number }

/-- Both options are read as a number of 32 bits. -/
theorem read_eq (k : NumberOption) (o : TagEntry) : k.key.read o = o.readWord.map k.setting := by
  cases k <;> rfl

/-- The setting of an option stores its number in the column and leaves the draft alone. -/
theorem apply_setting (k : NumberOption) (number : UInt32) (d : PendingColumn τ) :
    d.apply (k.setting number) = { d with column := k.store number d.column } := by
  cases k <;> rfl

/-- What an option stores is what it finds. -/
theorem stored_store (k : NumberOption) (number : UInt32) (c : Column τ) :
    k.stored (k.store number c) = some number := by
  cases k <;> rfl

/-- An option stores the number that it spells. -/
theorem stored_withOption {k : NumberOption} {o : TagEntry} (hkey : o.key = k.key.text)
    (d : PendingColumn τ) : k.stored (d.withOption o).column = some (.ofNat o.number) := by
  cases k <;> simp [stored, PendingColumn.withOption, hkey, key, OptionKey.text]

/-- An option of another key that names no type leaves the number alone. -/
theorem stored_withOption_of_ne {k : NumberOption} {o : TagEntry} (hkey : o.key ≠ k.key.text)
    (htype : o.key ≠ "type") (d : PendingColumn τ) :
    k.stored (d.withOption o).column = k.stored d.column := by
  cases k with
  | size =>
    have hsize : o.key ≠ "size" := hkey
    simp [stored, PendingColumn.withOption, hsize, htype]
  | srid =>
    have hsrid : o.key ≠ "srid" := hkey
    simp [stored, PendingColumn.withOption, hsrid]

end NumberOption

-- ---------------------------------------------------------------------------
-- One option
-- ---------------------------------------------------------------------------

/-- An option that spells a number has that number. -/
theorem Spells.number_eq {o : TagEntry} {n : Nat} (h : Spells o.text.toList n) : o.number = n :=
  h.digitsValue_filter

/-- A value that spells a word is read as that word. -/
theorem readOption_of_spells {k : NumberOption} {o : TagEntry} {n : Nat} (hkey : o.key = k.key.text)
    (hspells : Spells o.text.toList n) (hn : n < UInt32.size) (strict : Bool) (field : String) :
    readOption strict field o = .ok (some (k.setting (.ofNat n))) := by
  have hword : TableSchema.readWord o.text = .ok (.ofNat n) := by
    rw [readWord_eq_ok_iff, UInt32.toNat_ofNat_of_lt' hn]
    exact hspells
  rw [readOption_of_key (OptionKey.ofText?_eq_some_iff.mpr hkey), k.read_eq, TagEntry.readWord, hword]
  rfl

/-- A value that spells no word is a problem, and the only one that its text has. -/
theorem offends_of_misspelled {k : NumberOption} {o : TagEntry} (hkey : o.key = k.key.text)
    (hspelled : ¬ ∃ n, Spells o.text.toList n ∧ n < UInt32.size) (strict : Bool) (field : String) :
    o.Offends strict field
      (.badOption field o (.number (numberFault UInt32.size o.text.toList))) := by
  have hcause : TableSchema.readWord o.text = .error (numberFault UInt32.size o.text.toList) :=
    readWord_eq_error_iff.mpr ⟨hspelled, rfl⟩
  apply TagEntry.Offends.number _ hspelled hcause
  rw [hkey]
  cases k <;> decide

/-- The problem of an option names the option. -/
theorem TagEntry.Offends.option_eq {strict : Bool} {field : String} {o p : TagEntry}
    {fault : OptionFault} (h : o.Offends strict field (.badOption field p fault)) : p = o := by
  cases h <;> rfl

-- ---------------------------------------------------------------------------
-- The column that is built
-- ---------------------------------------------------------------------------

/-- What is done to the column of a draft is done to the column that comes of it. -/
theorem PendingColumn.close_of_column (f : Column τ → Column τ) (d : PendingColumn τ)
    (unmapped : BuildError) :
    PendingColumn.close { d with column := f d.column } unmapped =
      (d.close unmapped).map (Option.map f) := by
  unfold close
  cases d.mapped <;> rfl

namespace Column

variable [DecidableEq τ] {g : TypeGraph τ} {config : Config} {sourceName raw : String} {declared : τ}
  {k : NumberOption} {front back : List TagEntry} {o : TagEntry}

/-- If the first option that offends does not spell a word, that is the problem of the field. -/
theorem build_of_misspelled (hskips : ¬ Tag.Skips raw config.skipMarker)
    (hsplit : (Tag.parse raw config.skipMarker).options = front ++ o :: back)
    (hfront : ∀ p ∈ front, ∀ e, ¬ p.Offends config.strictOptions sourceName e)
    (hkey : o.key = k.key.text) (hspelled : ¬ ∃ n, Spells o.text.toList n ∧ n < UInt32.size) :
    build g config sourceName declared raw =
      .error (.badOption sourceName o (.number (numberFault UInt32.size o.text.toList))) := by
  obtain ⟨name, hname⟩ := exists_columnName_of_not_skips hskips sourceName
  rw [build_eq_error_iff hname]
  exact .option front o back hsplit hfront (offends_of_misspelled hkey hspelled _ _)

/-- An option that spells a word is never the problem of the field. -/
theorem build_ne_error_of_spells {n : Nat} (hskips : ¬ Tag.Skips raw config.skipMarker)
    (hkey : o.key = k.key.text) (hspells : Spells o.text.toList n) (hn : n < UInt32.size)
    (fault : OptionFault) :
    build g config sourceName declared raw ≠ .error (.badOption sourceName o fault) := by
  intro h
  obtain ⟨name, hname⟩ := exists_columnName_of_not_skips hskips sourceName
  cases (build_eq_error_iff hname).mp h with
  | option front p back hsplit hfront hoffends =>
    obtain rfl := hoffends.option_eq
    rw [← readOption_eq_error_iff, readOption_of_spells hkey hspells hn] at hoffends
    cases hoffends

/-- The column of a field comes from its options, applied one by one. -/
theorem exists_start_of_build {c : Column τ}
    (h : build g config sourceName declared raw = .ok (some c)) :
    ∃ start : PendingColumn τ,
      c = ((Tag.parse raw config.skipMarker).options.foldl PendingColumn.withOption start).column := by
  cases hname : (Tag.parse raw config.skipMarker).name.columnName? sourceName with
  | none =>
    rw [build_of_skipped (NameChoice.columnName?_eq_none_iff.mp hname)] at h
    cases h
  | some name =>
    have hbuilt := h
    rw [build_of_name hname, bind_eq_ok_iff] at hbuilt
    obtain ⟨settings, hread, -⟩ := hbuilt
    rw [build_of_settings hname hread, PendingColumn.close] at h
    split at h
    · exact ⟨_, (Option.some.inj (Except.ok.inj h)).symm⟩
    · cases h

/-- The last option of its key, with no type behind it, decides the number. -/
theorem stored_of_build {c : Column τ} (h : build g config sourceName declared raw = .ok (some c))
    (hsplit : (Tag.parse raw config.skipMarker).options = front ++ o :: back)
    (hkey : o.key = k.key.text) (hback : ∀ p ∈ back, p.key ≠ k.key.text ∧ p.key ≠ "type") :
    k.stored c = some (.ofNat o.number) := by
  obtain ⟨start, rfl⟩ := exists_start_of_build h
  rw [hsplit, List.foldl_append, List.foldl_cons]
  have hkept := PendingColumn.foldl_withOption_kept_of_mem (fun d => k.stored d.column)
    (fun p hp d => NumberOption.stored_withOption_of_ne (hback p hp).1 (hback p hp).2 d)
    ((front.foldl PendingColumn.withOption start).withOption o)
  rw [hkept]
  exact NumberOption.stored_withOption hkey _

end Column

-- ---------------------------------------------------------------------------
-- Decimal digits
-- ---------------------------------------------------------------------------

/-- The decimal digits of a number spell it. -/
theorem spells_toDigits (n : Nat) : Spells (Nat.toDigits 10 n) n :=
  ⟨Nat.toDigits 10 n, Nat.toDigits_ne_nil,
    fun _ hc => Nat.isDigit_of_mem_toDigits (by decide) (by decide) hc, .inl rfl,
    Text.digitsValue_toDigits n⟩

/-- A tag with nothing but a number. -/
theorem parse_decimal (k : NumberOption) (n : Nat) (skipMarker : String) :
    Tag.parse ("," ++ k.key.text ++ "=" ++ toString n) skipMarker =
      ⟨.derived, [⟨k.key.text, some (toString n)⟩]⟩ := by
  have hdigits : ∀ c ∈ Nat.toDigits 10 n, c.isDigit = true :=
    fun c hc => Nat.isDigit_of_mem_toDigits (by decide) (by decide) hc
  have hwritten : "," ++ k.key.text ++ "=" ++ toString n =
      Tag.render skipMarker ⟨.derived, [⟨k.key.text, some (toString n)⟩]⟩ := by
    rw [← String.toList_inj, Tag.toList_render_eq_append]
    simp [NameChoice.segment, TagEntry.segment]
  have hplain : '=' ∉ k.key.text.toList ∧ ',' ∉ k.key.text.toList := by
    cases k <;> decide
  have hunbroken : Tag.Unbroken 0 (TagEntry.segment ⟨k.key.text, some (toString n)⟩).toList := by
    apply Tag.unbroken_of_not_mem
    simp only [TagEntry.segment, String.toList_append, List.mem_append, not_or,
      Nat.toString_eq_repr, Nat.toList_repr]
    refine ⟨⟨hplain.2, by decide⟩, fun hmem => ?_⟩
    exact absurd (hdigits _ hmem) (by decide)
  rw [hwritten]
  apply Tag.parse_render
  refine Tag.writable_iff.mpr ⟨⟨by simp, by simp⟩, ?_, ?_⟩
  · intro o ho
    rw [List.mem_singleton.mp ho]
    exact ⟨hplain.1, by simp⟩
  · exact .cons (Tag.unbroken_nil 0) rfl (.last hunbroken)

/-- The empty annotation leaves the name to the field and has no options. -/
theorem parse_empty (skipMarker : String) : Tag.parse "" skipMarker = ⟨.derived, []⟩ := by
  have hwritten : "" = Tag.render skipMarker ⟨.derived, []⟩ := rfl
  rw [hwritten]
  apply Tag.parse_render
  exact Tag.writable_iff.mpr ⟨⟨by simp, by simp⟩, by simp, .last (Tag.unbroken_nil 0)⟩

namespace Column

variable [DecidableEq τ]

/-- Without a tag the column is what the type makes it. -/
theorem build_empty (g : TypeGraph τ) (config : Config) (sourceName : String) (declared : τ) :
    build g config sourceName declared "" =
      finish g sourceName (snakeCase sourceName) (g.resolve declared) [] := by
  have hname : (Tag.parse "" config.skipMarker).name.columnName? sourceName =
      some (snakeCase sourceName) := by
    rw [parse_empty]
    rfl
  rw [build_of_name hname, parse_empty]
  rfl

/-- A tag with nothing but a number gives the column without tag that number, and nothing else. -/
theorem build_decimal (g : TypeGraph τ) (config : Config) (sourceName : String) (declared : τ)
    (k : NumberOption) {n : Nat} (hn : n < UInt32.size) :
    build g config sourceName declared ("," ++ k.key.text ++ "=" ++ toString n) =
      (build g config sourceName declared "").map (Option.map (k.store (.ofNat n))) := by
  have hspells : Spells (TagEntry.text ⟨k.key.text, some (toString n)⟩).toList n := by
    show Spells (toString n).toList n
    rw [Nat.toString_eq_repr, Nat.toList_repr]
    exact spells_toDigits n
  have hread : readSettings config.strictOptions sourceName [⟨k.key.text, some (toString n)⟩] =
      .ok [k.setting (.ofNat n)] := by
    rw [readSettings_cons_of_setting (readOption_of_spells (k := k) rfl hspells hn _ _)]
    rfl
  have hname : (Tag.parse ("," ++ k.key.text ++ "=" ++ toString n) config.skipMarker).name.columnName?
      sourceName = some (snakeCase sourceName) := by
    rw [parse_decimal]
    rfl
  rw [build_of_name hname, build_empty, parse_decimal, hread]
  show finish g sourceName (snakeCase sourceName) (g.resolve declared) [k.setting (.ofNat n)] =
    (finish g sourceName (snakeCase sourceName) (g.resolve declared) []).map _
  rw [finish, finish, List.foldl_cons, k.apply_setting]
  exact PendingColumn.close_of_column _ _ _

end Column

-- ---------------------------------------------------------------------------
-- Byte arrays
-- ---------------------------------------------------------------------------

namespace TypeGraph

/-- A byte array has its length as size, or no SQL type at all. -/
theorem bodySqlType?_array_iff {g : TypeGraph τ} {element : τ} {length : Nat} {type : SqlType}
    (hbyte : (g.shape element).body = .scalar .uint8) :
    g.bodySqlType? (.array element length) = some type ↔
      length < UInt32.size ∧ type.name = "BINARY" ∧ type.size.toNat = length ∧
        type.unsigned = false := by
  have helement : g.isUnsignedByte element = true := isUnsignedByte_iff.mpr hbyte
  rw [bodySqlType?]
  by_cases hlength : length < UInt32.size
  · rw [if_pos ⟨helement, hlength⟩, Option.some.injEq]
    constructor
    · rintro rfl
      exact ⟨hlength, rfl, UInt32.toNat_ofNat_of_lt' hlength, rfl⟩
    · rintro ⟨-, hname, hsize, hunsigned⟩
      obtain ⟨name, size, unsigned⟩ := type
      dsimp only at hname hsize hunsigned
      rw [hname, hunsigned, ← hsize, UInt32.ofNat_toNat]
  · rw [if_neg (fun h => hlength h.2)]
    simp [hlength]

end TypeGraph

namespace Column

variable [DecidableEq τ]

/-- The column of a byte array, if nothing is said about it. -/
theorem build_array (g : TypeGraph τ) (config : Config) (sourceName : String) {declared element : τ}
    {length : Nat} (hbody : (g.shape (g.resolve declared).type).body = .array element length)
    (hjson : (g.shape (g.resolve declared).type).json = false)
    (hbyte : (g.shape element).body = .scalar .uint8) :
    (length < UInt32.size → ∃ c, build g config sourceName declared "" = .ok (some c) ∧
      c.sqlType = "BINARY" ∧ c.size.toNat = length) ∧
    (UInt32.size ≤ length → build g config sourceName declared "" =
      .error (.unsupportedType sourceName (g.shape (g.resolve declared).type).typeName)) := by
  have hinferred : g.sqlType? (g.resolve declared).type =
      g.bodySqlType? (.array element length) := by
    rw [TypeGraph.sqlType?, hjson, hbody]
    rfl
  rw [build_empty, finish, hinferred]
  constructor
  · intro hlength
    obtain ⟨type, htype⟩ : ∃ type, g.bodySqlType? (.array element length) = some type :=
      ⟨⟨"BINARY", .ofNat length, false⟩, (TypeGraph.bodySqlType?_array_iff hbyte).mpr
        ⟨hlength, rfl, UInt32.toNat_ofNat_of_lt' hlength, rfl⟩⟩
    obtain ⟨-, hsql, hsize, -⟩ := (TypeGraph.bodySqlType?_array_iff hbyte).mp htype
    rw [htype]
    exact ⟨_, rfl, hsql, hsize⟩
  · intro hlength
    have hnone : g.bodySqlType? (.array element length) = none := by
      rw [Option.eq_none_iff_forall_ne_some]
      intro type htype
      have hshort := ((TypeGraph.bodySqlType?_array_iff hbyte).mp htype).1
      omega
    rw [hnone]
    rfl

end Column

-- ---------------------------------------------------------------------------
-- All numbers of a column
-- ---------------------------------------------------------------------------

namespace Column

variable [DecidableEq τ]

/--
**The numbers of a column are those that are written.** Take an option for the size or the spatial
reference system in a tag that does not skip its field, with no offending option in front of it. If its
value is a number below `2 ^ 32` in decimal, leading zeros and one plus sign allowed, then the option is
never the problem of the field, and it stores exactly that number, which is the column's unless an option
behind it gives another one or names a type. If not, the option is the problem: its text is empty, or its
leading digits are too large, or anything else is wrong. Every number below `2 ^ 32` can be given in this
way, and changes nothing but the member it is for. A byte array has its length as size if the length is
below `2 ^ 32`, and otherwise no SQL type of its own.
-/
theorem numbers_exact (g : TypeGraph τ) (config : Config) (sourceName : String) (declared : τ) :
    (∀ (k : NumberOption) (raw : String) (front : List TagEntry) (o : TagEntry)
      (back : List TagEntry), ¬ Tag.Skips raw config.skipMarker →
      (Tag.parse raw config.skipMarker).options = front ++ o :: back →
      (∀ p ∈ front, ∀ e, ¬ p.Offends config.strictOptions sourceName e) → o.key = k.key.text →
      (∀ n, Spells o.text.toList n → n < 2 ^ 32 →
        readOption config.strictOptions sourceName o = .ok (some (k.setting (.ofNat n))) ∧
        (∀ d : PendingColumn τ,
          (k.stored (d.apply (k.setting (.ofNat n))).column).map UInt32.toNat = some n) ∧
        (∀ fault, build g config sourceName declared raw ≠
          .error (.badOption sourceName o fault)) ∧
        ∀ c, build g config sourceName declared raw = .ok (some c) →
          (∀ p ∈ back, p.key ≠ k.key.text ∧ p.key ≠ "type") →
          (k.stored c).map UInt32.toNat = some n) ∧
      ((¬ ∃ n, Spells o.text.toList n ∧ n < 2 ^ 32) → ∃ fault : OptionFault,
        build g config sourceName declared raw = .error (.badOption sourceName o fault) ∧
        (fault.message = "cannot parse integer from empty string" ↔ o.text = "") ∧
        (fault.message = "number too large to fit in target type" ↔
          2 ^ 32 ≤ Text.digitsValue 0 (leadingDigits o.text.toList)) ∧
        (fault.message = "invalid digit found in string" ↔
          o.text ≠ "" ∧ Text.digitsValue 0 (leadingDigits o.text.toList) < 2 ^ 32))) ∧
    (∀ (k : NumberOption) (n : Nat), n < 2 ^ 32 →
      (UInt32.ofNat n).toNat = n ∧
      build g config sourceName declared ("," ++ k.key.text ++ "=" ++ toString n) =
        (build g config sourceName declared "").map (Option.map (k.store (.ofNat n)))) ∧
    ∀ (element : τ) (length : Nat), (g.shape element).body = .scalar .uint8 →
      (∀ type, g.bodySqlType? (.array element length) = some type ↔
        length < 2 ^ 32 ∧ type.name = "BINARY" ∧ type.size.toNat = length ∧
          type.unsigned = false) ∧
      ((g.shape (g.resolve declared).type).body = .array element length →
        (g.shape (g.resolve declared).type).json = false →
        (length < 2 ^ 32 → ∃ c, build g config sourceName declared "" = .ok (some c) ∧
          c.sqlType = "BINARY" ∧ c.size.toNat = length) ∧
        (2 ^ 32 ≤ length → build g config sourceName declared "" =
          .error (.unsupportedType sourceName (g.shape (g.resolve declared).type).typeName))) := by
  refine ⟨?options, ?decimals, ?arrays⟩
  case options =>
    intro k raw front o back hskips hsplit hfront hkey
    constructor
    · intro n hspells hn
      have hword : (UInt32.ofNat n).toNat = n := UInt32.toNat_ofNat_of_lt' hn
      refine ⟨readOption_of_spells hkey hspells hn _ _, ?_,
        build_ne_error_of_spells hskips hkey hspells hn, ?_⟩
      · intro d
        rw [k.apply_setting, k.stored_store, Option.map_some, hword]
      · intro c hc hback
        rw [stored_of_build hc hsplit hkey hback, hspells.number_eq, Option.map_some, hword]
    · intro hspelled
      refine ⟨_, build_of_misspelled hskips hsplit hfront hkey hspelled, ?_, ?_, ?_⟩
      · exact NumberFault.message_inj.trans
          (numberFault_eq_empty_iff.trans String.toList_eq_nil_iff)
      · exact NumberFault.message_inj.trans (numberFault_eq_tooLarge_iff (by decide))
      · exact NumberFault.message_inj.trans (numberFault_eq_invalidDigit_iff.trans
          (and_congr_left' (not_congr String.toList_eq_nil_iff)))
  case decimals =>
    intro k n hn
    exact ⟨UInt32.toNat_ofNat_of_lt' hn, build_decimal g config sourceName declared k hn⟩
  case arrays =>
    intro element length hbyte
    refine ⟨fun type => TypeGraph.bodySqlType?_array_iff hbyte, ?_⟩
    intro hbody hjson
    exact build_array g config sourceName hbody hjson hbyte

end Column

end TableSchema
