import TableSchema.Proofs.Column.Outcome

/-!
# Strict settings and columns

Strict settings refuse options that nobody knows, and change nothing else. A strict run and a lenient
run of the same step are compared by one relation, which every step of the building keeps: the only
step that depends on the settings is the reading of an unknown option.

* `OnlyRejects` — a result is the other one or the refusal of an unknown option.
* `readSettings_onlyRejects`, `Column.build_onlyRejects` — options of a tag, and columns.
* `Column.build_eq_unknownOption_iff` — which option of a column is refused.
* `Column.build_strict_eq_ok_iff` — when a column is built under strict settings.
* `Column.build_of_known` — under lenient settings, unknown options may as well not be there.
-/

namespace TableSchema

/-- The same settings with unknown options refused or ignored. -/
def Config.withStrict (config : Config) (strict : Bool) : Config :=
  { config with strictOptions := strict }

/-- The option has a key that is known. -/
def TagEntry.isKnown (o : TagEntry) : Bool :=
  (OptionKey.ofText? o.key).isSome

/-- The option says something about a column: it has a known key and a value that the key can
read. -/
def TagEntry.Applies (o : TagEntry) : Prop :=
  ∃ key setting, OptionKey.ofText? o.key = some key ∧ key.read o = .ok setting

/-- The tag without its unknown options. -/
def Tag.known (t : Tag) : Tag :=
  { t with options := t.options.filter TagEntry.isKnown }

/-- The tag of a field. -/
def Field.tag {τ : Type} (config : Config) (f : Field τ) : Tag :=
  Tag.parse (Column.rawTag config f) config.skipMarker

/-- Strict settings have nothing to refuse in the tag of a field: it skips the field, or all its
options are known. -/
def Field.FullyKnown {τ : Type} (config : Config) (f : Field τ) : Prop :=
  (f.tag config).name = .skipped ∨ ∀ o ∈ (f.tag config).options, o.isKnown = true

-- ---------------------------------------------------------------------------
-- Comparing two runs
-- ---------------------------------------------------------------------------

/-- The first result is the second one, or it is the refusal of an unknown option. -/
def OnlyRejects {α : Type} (x y : Except BuildError α) : Prop :=
  x = y ∨ ∃ field option, x = .error (.unknownOption field option)

namespace OnlyRejects

variable {α β : Type} {x y : Except BuildError α}

theorem refl (x : Except BuildError α) : OnlyRejects x x :=
  .inl rfl

/-- A refusal ends the run, so what follows it needs no comparison. -/
theorem bind (hx : OnlyRejects x y) {f f' : α → Except BuildError β}
    (hf : ∀ a, OnlyRejects (f a) (f' a)) : OnlyRejects (x.bind f) (y.bind f') := by
  rcases hx with rfl | ⟨field, option, rfl⟩
  · cases x with
    | error e => exact refl _
    | ok a => exact hf a
  · exact .inr ⟨field, option, rfl⟩

/-- A step that cannot fail adds no reason to reject. -/
theorem map (hx : OnlyRejects x y) (f : α → β) : OnlyRejects (x.map f) (y.map f) := by
  rcases hx with rfl | ⟨field, option, rfl⟩
  · exact refl _
  · exact .inr ⟨field, option, rfl⟩

/-- What the strict side accepts the other side accepts with the same result. -/
theorem eq_of_ok (hx : OnlyRejects x y) {a : α} (hok : x = .ok a) : y = .ok a := by
  rcases hx with rfl | ⟨field, option, rfl⟩
  · exact hok
  · cases hok

/-- Where nothing unknown is refused, both sides agree. -/
theorem eq_of_not_refused (hx : OnlyRejects x y)
    (hnot : ∀ field option, x ≠ .error (.unknownOption field option)) : x = y := by
  rcases hx with heq | ⟨field, option, hrefused⟩
  · exact heq
  · exact absurd hrefused (hnot field option)

end OnlyRejects

-- ---------------------------------------------------------------------------
-- Options
-- ---------------------------------------------------------------------------

/-- An option is unknown if its text is that of no key. -/
theorem TagEntry.isKnown_eq_false_iff {o : TagEntry} :
    o.isKnown = false ↔ OptionKey.ofText? o.key = none := by
  rw [isKnown, Option.isSome_eq_false_iff, Option.isNone_iff_eq_none]

/-- Only known options can be applied. -/
theorem TagEntry.Applies.isKnown {o : TagEntry} (h : o.Applies) : o.isKnown = true := by
  obtain ⟨key, -, hkey, -⟩ := h
  rw [TagEntry.isKnown, hkey]
  rfl

/-- A known option is read by the reader of its key. -/
theorem readOption_of_key {strict : Bool} {field : String} {o : TagEntry} {key : OptionKey}
    (h : OptionKey.ofText? o.key = some key) :
    readOption strict field o = ((key.read o).map some).mapError (.badOption field o) := by
  rw [readOption, h]

/-- An unknown option is refused under strict settings and does nothing otherwise. -/
theorem readOption_of_unknown {strict : Bool} {field : String} {o : TagEntry}
    (h : o.isKnown = false) :
    readOption strict field o =
      if strict then .error (.unknownOption field o.key) else .ok none := by
  rw [readOption, TagEntry.isKnown_eq_false_iff.1 h]

/-- For a single option strictness only rejects. -/
theorem readOption_onlyRejects (field : String) (o : TagEntry) :
    OnlyRejects (readOption true field o) (readOption false field o) := by
  cases hkey : OptionKey.ofText? o.key with
  | none =>
    have hunknown : o.isKnown = false := TagEntry.isKnown_eq_false_iff.2 hkey
    exact .inr ⟨field, o.key, readOption_of_unknown hunknown⟩
  | some key => exact .inl (by rw [readOption_of_key hkey, readOption_of_key hkey])

/-- Strict settings read an option exactly if it applies. -/
theorem readOption_strict_ok_iff {field : String} {o : TagEntry} :
    (∃ setting, readOption true field o = .ok setting) ↔ o.Applies := by
  cases hkey : OptionKey.ofText? o.key with
  | none =>
    have hunknown : o.isKnown = false := TagEntry.isKnown_eq_false_iff.2 hkey
    constructor
    · rintro ⟨setting, h⟩
      rw [readOption_of_unknown hunknown] at h
      cases h
    · intro happlies
      rw [happlies.isKnown] at hunknown
      cases hunknown
  | some key =>
    rw [readOption_of_key hkey]
    constructor
    · rintro ⟨setting, h⟩
      cases hread : key.read o with
      | error fault =>
        rw [hread] at h
        cases h
      | ok value => exact ⟨key, value, hkey, hread⟩
    · rintro ⟨key', value, hkey', hread⟩
      obtain rfl := Option.some.inj (hkey.symm.trans hkey')
      exact ⟨some value, by rw [hread]; rfl⟩

/-- The value of a known option may be unreadable, but only an unknown one is refused. -/
theorem readOption_eq_unknownOption_iff {field name key : String} {o : TagEntry} :
    readOption true field o = .error (.unknownOption name key) ↔
      o.isKnown = false ∧ field = name ∧ o.key = key := by
  cases hkey : OptionKey.ofText? o.key with
  | none =>
    have hunknown : o.isKnown = false := TagEntry.isKnown_eq_false_iff.2 hkey
    simp [readOption_of_unknown hunknown, hunknown]
  | some known =>
    have hknown : o.isKnown = true := by
      rw [TagEntry.isKnown, hkey]
      rfl
    constructor
    · intro h
      rw [readOption_of_key hkey] at h
      cases hread : known.read o with
      | error fault =>
        rw [hread] at h
        cases h
      | ok setting =>
        rw [hread] at h
        cases h
    · rintro ⟨hunknown, -, -⟩
      rw [hknown] at hunknown
      cases hunknown

-- ---------------------------------------------------------------------------
-- The options of a tag
-- ---------------------------------------------------------------------------

/-- For all options of a tag strictness only rejects. -/
theorem readSettings_onlyRejects (field : String) (options : List TagEntry) :
    OnlyRejects (readSettings true field options) (readSettings false field options) := by
  induction options with
  | nil => exact .refl _
  | cons o rest ih =>
    rw [readSettings_cons, readSettings_cons]
    exact (readOption_onlyRejects field o).bind fun setting => ih.map _

/-- The refused option is the first one that does not apply, and nobody knows it. -/
theorem readSettings_eq_unknownOption_iff {field name key : String} {options : List TagEntry} :
    readSettings true field options = .error (.unknownOption name key) ↔
      field = name ∧ ∃ before o after, options = before ++ o :: after ∧
        (∀ p ∈ before, p.Applies) ∧ o.isKnown = false ∧ o.key = key := by
  rw [readSettings_eq_error_iff]
  simp only [readOption_strict_ok_iff, readOption_eq_unknownOption_iff]
  constructor
  · rintro ⟨before, o, after, hsplit, hbefore, hunknown, hfield, hkey⟩
    exact ⟨hfield, before, o, after, hsplit, hbefore, hunknown, hkey⟩
  · rintro ⟨hfield, before, o, after, hsplit, hbefore, hunknown, hkey⟩
    exact ⟨before, o, after, hsplit, hbefore, hunknown, hfield, hkey⟩

/-- A tag that is read under strict settings has known options only. -/
theorem isKnown_of_readSettings {field : String} {options : List TagEntry} {settings : List Setting}
    (h : readSettings true field options = .ok settings) : ∀ o ∈ options, o.isKnown = true := by
  intro o ho
  have happlies : o.Applies :=
    readOption_strict_ok_iff.1 (readSettings_ok_iff.1 ⟨settings, h⟩ o ho)
  exact happlies.isKnown

/-- Unknown options say nothing to lenient settings. -/
theorem readSettings_filter_isKnown (field : String) (options : List TagEntry) :
    readSettings false field (options.filter TagEntry.isKnown) =
      readSettings false field options := by
  induction options with
  | nil => rfl
  | cons o rest ih =>
    cases hknown : o.isKnown with
    | true => rw [List.filter_cons_of_pos hknown, readSettings_cons, readSettings_cons, ih]
    | false =>
      have hnothing : readOption false field o = .ok none := readOption_of_unknown hknown
      rw [List.filter_cons_of_neg (by simp [hknown]), readSettings_cons_of_setting hnothing, ih]
      cases readSettings false field rest <;> rfl

-- ---------------------------------------------------------------------------
-- Columns
-- ---------------------------------------------------------------------------

namespace Column

variable {τ : Type} {g : TypeGraph τ} {config : Config} {sourceName raw : String} {declared : τ}

/-- Once the options have been read, unknown ones are no problem any more. -/
theorem finish_ne_unknownOption {name field option : String} {resolved : Resolved τ}
    {settings : List Setting} :
    finish g sourceName name resolved settings ≠ .error (.unknownOption field option) := by
  rw [finish, PendingColumn.close]
  split <;> simp

variable [DecidableEq τ]

theorem build_withStrict_of_skipped (h : (Tag.parse raw config.skipMarker).name = .skipped)
    (strict : Bool) : build g (config.withStrict strict) sourceName declared raw = .ok none :=
  build_of_skipped h

theorem build_withStrict_of_name {name : String}
    (h : (Tag.parse raw config.skipMarker).name.columnName? sourceName = some name)
    (strict : Bool) :
    build g (config.withStrict strict) sourceName declared raw =
      (readSettings strict sourceName (Tag.parse raw config.skipMarker).options).bind
        (finish g sourceName name (g.resolve declared)) :=
  build_of_name h

/-- For a column strictness only rejects. -/
theorem build_onlyRejects (g : TypeGraph τ) (config : Config) (sourceName : String) (declared : τ)
    (raw : String) :
    OnlyRejects (build g (config.withStrict true) sourceName declared raw)
      (build g (config.withStrict false) sourceName declared raw) := by
  cases hname : (Tag.parse raw config.skipMarker).name.columnName? sourceName with
  | none =>
    have hskipped := NameChoice.columnName?_eq_none_iff.1 hname
    rw [build_withStrict_of_skipped hskipped, build_withStrict_of_skipped hskipped]
    exact .refl _
  | some name =>
    rw [build_withStrict_of_name hname, build_withStrict_of_name hname]
    exact (readSettings_onlyRejects sourceName _).bind fun settings => .refl _

/-- Strict settings refuse a column for the first option that does not apply, if nobody knows it and
the field is not skipped. -/
theorem build_eq_unknownOption_iff {field key : String} :
    build g (config.withStrict true) sourceName declared raw = .error (.unknownOption field key) ↔
      sourceName = field ∧ (Tag.parse raw config.skipMarker).name ≠ .skipped ∧
        ∃ before o after, (Tag.parse raw config.skipMarker).options = before ++ o :: after ∧
          (∀ p ∈ before, p.Applies) ∧ o.isKnown = false ∧ o.key = key := by
  cases hname : (Tag.parse raw config.skipMarker).name.columnName? sourceName with
  | none =>
    have hskipped := NameChoice.columnName?_eq_none_iff.1 hname
    simp [build_withStrict_of_skipped hskipped, hskipped]
  | some name =>
    have hnot : (Tag.parse raw config.skipMarker).name ≠ .skipped := by
      intro hskipped
      rw [NameChoice.columnName?_eq_none_iff.2 hskipped] at hname
      cases hname
    rw [build_withStrict_of_name hname, bind_eq_error_iff, readSettings_eq_unknownOption_iff]
    constructor
    · rintro (⟨hfield, hoption⟩ | ⟨settings, -, hfinish⟩)
      · exact ⟨hfield, hnot, hoption⟩
      · exact absurd hfinish finish_ne_unknownOption
    · rintro ⟨hfield, -, hoption⟩
      exact .inl ⟨hfield, hoption⟩

/-- What strict settings build is what lenient ones build, if all options are known or the field is
skipped. -/
theorem build_strict_eq_ok_iff {column : Option (Column τ)} :
    build g (config.withStrict true) sourceName declared raw = .ok column ↔
      build g (config.withStrict false) sourceName declared raw = .ok column ∧
        ((Tag.parse raw config.skipMarker).name = .skipped ∨
          ∀ o ∈ (Tag.parse raw config.skipMarker).options, o.isKnown = true) := by
  have hcompare := build_onlyRejects g config sourceName declared raw
  constructor
  · intro hstrict
    refine ⟨hcompare.eq_of_ok hstrict, ?_⟩
    cases hname : (Tag.parse raw config.skipMarker).name.columnName? sourceName with
    | none => exact .inl (NameChoice.columnName?_eq_none_iff.1 hname)
    | some name =>
      rw [build_withStrict_of_name hname, bind_eq_ok_iff] at hstrict
      obtain ⟨settings, hread, -⟩ := hstrict
      exact .inr (isKnown_of_readSettings hread)
  · rintro ⟨hlenient, hknown⟩
    -- a refusal would be for an unknown option, and there is none
    have hnot : ∀ field option, build g (config.withStrict true) sourceName declared raw ≠
        .error (.unknownOption field option) := by
      intro field option hrefused
      obtain ⟨-, hname, before, o, after, hsplit, -, hunknown, -⟩ :=
        build_eq_unknownOption_iff.1 hrefused
      have ho : o.isKnown = true := hknown.resolve_left hname o (by simp [hsplit])
      rw [ho] at hunknown
      cases hunknown
    rw [hcompare.eq_of_not_refused hnot, hlenient]

/-- Annotations that differ in unknown options only give the same column under lenient settings. -/
theorem build_of_known {raw' : String}
    (h : Tag.parse raw' config.skipMarker = (Tag.parse raw config.skipMarker).known) :
    build g (config.withStrict false) sourceName declared raw' =
      build g (config.withStrict false) sourceName declared raw := by
  have hchoice : (Tag.parse raw' config.skipMarker).name = (Tag.parse raw config.skipMarker).name := by
    rw [h]
    rfl
  cases hname : (Tag.parse raw config.skipMarker).name.columnName? sourceName with
  | none =>
    have hskipped := NameChoice.columnName?_eq_none_iff.1 hname
    rw [build_withStrict_of_skipped hskipped,
      build_withStrict_of_skipped (hchoice.trans hskipped)]
  | some name =>
    have hname' : (Tag.parse raw' config.skipMarker).name.columnName? sourceName = some name := by
      rw [hchoice, hname]
    rw [build_withStrict_of_name hname, build_withStrict_of_name hname', h, Tag.known,
      readSettings_filter_isKnown]

-- ---------------------------------------------------------------------------
-- Fields
-- ---------------------------------------------------------------------------

variable {f : Field τ}

theorem ofField_onlyRejects (g : TypeGraph τ) (config : Config) (f : Field τ) :
    OnlyRejects (ofField g (config.withStrict true) f) (ofField g (config.withStrict false) f) :=
  build_onlyRejects g config f.name f.type (rawTag config f)

/-- A field is rejected for an unknown option exactly if it is not skipped and that option comes
first, behind options that can be applied. -/
theorem ofField_eq_unknownOption_iff {field key : String} :
    ofField g (config.withStrict true) f = .error (.unknownOption field key) ↔
      f.name = field ∧ (f.tag config).name ≠ .skipped ∧
        ∃ before o after, (f.tag config).options = before ++ o :: after ∧
          (∀ p ∈ before, p.Applies) ∧ o.isKnown = false ∧ o.key = key :=
  build_eq_unknownOption_iff

/-- A field is accepted under strict settings exactly if it is accepted without them and all of its
options are known. -/
theorem ofField_strict_eq_ok_iff {column : Option (Column τ)} :
    ofField g (config.withStrict true) f = .ok column ↔
      ofField g (config.withStrict false) f = .ok column ∧ f.FullyKnown config :=
  build_strict_eq_ok_iff

end Column

end TableSchema
