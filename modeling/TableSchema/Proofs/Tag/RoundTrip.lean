import TableSchema.Proofs.Tag.Pieces

/-!
# Writing tags and reading them back

Which tags an annotation can say, and that each of them is read back from its written form. What the
written form leaves out are the empty pieces, and leaving them out must not join or split the others:
a parenthesis that stays open takes all that follows into its piece, so only the last piece may leave
one open.

* `Unbroken` — a text without a comma outside parentheses.
* `WellCut` — a list of texts that a pass may give as pieces; `wellCut_piecesFrom` and
  `piecesFrom_intercalate` say that these are exactly the lists of pieces.
* `Writable` — the tags that are read back, in terms of their names, options and written pieces.
* `parse_render_and_range` — reading inverts writing on these tags, and they are all that can be read.
-/

namespace TableSchema

namespace Tag

-- ---------------------------------------------------------------------------
-- Texts that are one piece
-- ---------------------------------------------------------------------------

/-- No comma of the text is outside all parentheses, `n` of which are open at the start. -/
def Unbroken (n : Nat) (s : List Char) : Prop :=
  ∀ front back, s = front ++ ',' :: back → 0 < front.foldl openStep n

theorem unbroken_nil (n : Nat) : Unbroken n [] := by
  intro front back h
  simp at h

/-- A text is not cut if its first character does not cut and the rest is not cut behind it. -/
theorem unbroken_cons_iff {n : Nat} {c : Char} {s : List Char} :
    Unbroken n (c :: s) ↔ ¬ (c = ',' ∧ n = 0) ∧ Unbroken (openStep n c) s := by
  constructor
  · intro h
    refine ⟨?_, ?_⟩
    · rintro ⟨rfl, rfl⟩
      exact absurd (h [] s rfl) (Nat.lt_irrefl 0)
    · rintro front back rfl
      exact h (c :: front) back rfl
  · rintro ⟨hnot, hrest⟩ front back hsplit
    cases front with
    | nil =>
      obtain ⟨rfl, -⟩ := List.cons.inj hsplit
      exact Nat.pos_of_ne_zero fun hn => hnot ⟨rfl, hn⟩
    | cons d front =>
      obtain ⟨rfl, hs⟩ := List.cons.inj hsplit
      exact hrest front back hs

theorem unbroken_of_not_mem {s : List Char} (h : ',' ∉ s) (n : Nat) : Unbroken n s := by
  rintro front back rfl
  simp at h

theorem piecesFrom_of_unbroken {n : Nat} {s : List Char} (h : Unbroken n s) :
    piecesFrom n s = [s] := by
  induction s generalizing n with
  | nil => rfl
  | cons c s ih =>
    obtain ⟨hnot, hrest⟩ := unbroken_cons_iff.1 h
    rw [piecesFrom_cons_of_not hnot, ih hrest]
    rfl

-- ---------------------------------------------------------------------------
-- Lists of pieces
-- ---------------------------------------------------------------------------

/-- Texts that the pass may give as pieces, `n` parentheses open in front of the first one: none has
a separating comma, and all but the last one end outside parentheses. -/
inductive WellCut : Nat → List (List Char) → Prop
  | last {n : Nat} {s : List Char} : Unbroken n s → WellCut n [s]
  | cons {n : Nat} {s : List Char} {rest : List (List Char)} :
      Unbroken n s → s.foldl openStep n = 0 → WellCut 0 rest → WellCut n (s :: rest)

/-- The pass gives such texts. -/
theorem wellCut_piecesFrom (n : Nat) (s : List Char) : WellCut n (piecesFrom n s) := by
  induction s generalizing n with
  | nil => exact .last (unbroken_nil n)
  | cons c s ih =>
    by_cases h : c = ',' ∧ n = 0
    · obtain ⟨rfl, rfl⟩ := h
      rw [piecesFrom_cons_comma]
      exact .cons (unbroken_nil 0) rfl (ih 0)
    · -- the character joins the first piece, whichever way the pass goes on
      have hrest := ih (openStep n c)
      rw [piecesFrom_cons_of_not h]
      generalize piecesFrom (openStep n c) s = later at hrest ⊢
      cases hrest with
      | last hwhole => exact .last (unbroken_cons_iff.2 ⟨h, hwhole⟩)
      | cons hwhole hclosed hrest => exact .cons (unbroken_cons_iff.2 ⟨h, hwhole⟩) hclosed hrest

/-- From such texts with commas between them the pass gives them back. -/
theorem piecesFrom_intercalate {n : Nat} {texts : List (List Char)} (h : WellCut n texts) :
    piecesFrom n ([','].intercalate texts) = texts := by
  induction h with
  | last hwhole =>
    rw [List.intercalate_singleton]
    exact piecesFrom_of_unbroken hwhole
  | @cons n s rest hwhole hclosed hrest ih =>
    have hne : rest ≠ [] := by
      rintro rfl
      cases hrest
    have hfirst : piecesFrom n s = [] ++ [s] := piecesFrom_of_unbroken hwhole
    have hsecond : piecesFrom (s.foldl openStep n) (',' :: [','].intercalate rest) = [] :: rest := by
      rw [hclosed, piecesFrom_cons_comma, ih]
    rw [List.intercalate_cons_of_ne_nil hne, List.append_assoc, List.singleton_append,
      piecesFrom_append hfirst hsecond, List.append_nil, List.nil_append]

/-- Texts are cut apart again exactly if none is cut itself and none but the last one leaves a
bracket open. -/
theorem wellCut_iff {texts : List (List Char)} :
    WellCut 0 texts ↔ texts ≠ [] ∧ (∀ s ∈ texts, Unbroken 0 s) ∧
      ∀ s ∈ texts.dropLast, openAfter s = 0 := by
  induction texts with
  | nil =>
    constructor
    · intro h
      cases h
    · rintro ⟨hne, -⟩
      exact absurd rfl hne
  | cons s rest ih =>
    cases rest with
    | nil =>
      constructor
      · intro h
        cases h with
        | last hwhole => simpa using hwhole
        | cons _ _ hrest => cases hrest
      · rintro ⟨-, hwhole, -⟩
        exact .last (hwhole s List.mem_cons_self)
    | cons next rest =>
      rw [List.dropLast_cons_cons, List.forall_mem_cons (p := Unbroken 0),
        List.forall_mem_cons (p := fun s => openAfter s = 0)]
      constructor
      · intro h
        cases h with
        | cons hwhole hclosed hrest =>
          obtain ⟨-, hwholes, hcloseds⟩ := ih.1 hrest
          exact ⟨List.cons_ne_nil _ _, ⟨hwhole, hwholes⟩, ⟨hclosed, hcloseds⟩⟩
      · rintro ⟨-, ⟨hwhole, hwholes⟩, ⟨hclosed, hcloseds⟩⟩
        exact .cons hwhole hclosed (ih.2 ⟨List.cons_ne_nil _ _, hwholes, hcloseds⟩)

/-- Pieces behind the first one may be left out: what was followed by a piece has no parenthesis
open, so it may be followed by any other piece or end the text. -/
theorem WellCut.filter_rest {n : Nat} {s : List Char} {rest : List (List Char)}
    (h : WellCut n (s :: rest)) (keep : List Char → Bool) : WellCut n (s :: rest.filter keep) := by
  induction rest generalizing n s with
  | nil => exact h
  | cons next rest ih =>
    cases h with
    | cons hwhole hclosed hrest =>
      have hkept : WellCut 0 (next :: rest.filter keep) := ih hrest
      by_cases hnext : keep next = true
      · rw [List.filter_cons_of_pos hnext]
        exact .cons hwhole hclosed hkept
      · rw [List.filter_cons_of_neg hnext]
        generalize rest.filter keep = later at hkept ⊢
        cases hkept with
        | last _ => exact .last hwhole
        | cons _ _ hlater => exact .cons hwhole hclosed hlater

end Tag

-- ---------------------------------------------------------------------------
-- Single options and names
-- ---------------------------------------------------------------------------

/-- The key of an option can be told from its value, and the option from no option at all. -/
structure TagEntry.Writable (o : TagEntry) : Prop where
  plain_key : '=' ∉ o.key.toList
  nonempty_key : o.value = none → o.key ≠ ""

/-- An option that was read is written as the piece it was read from. -/
theorem TagEntry.toList_segment_ofSegment (piece : List Char) :
    (TagEntry.ofSegment piece).segment.toList = piece := by
  obtain ⟨-, hpiece⟩ := TagEntry.ofSegment_isWrittenAs piece
  rw [TagEntry.segment]
  cases hvalue : (TagEntry.ofSegment piece).value with
  | none =>
    rw [hvalue] at hpiece
    exact hpiece.symm
  | some value =>
    rw [hvalue] at hpiece
    simpa using hpiece.symm

/-- The first equals sign ends the key, so a piece writes one option only. -/
theorem TagEntry.Writable.ofSegment_segment {o : TagEntry} (h : o.Writable) :
    TagEntry.ofSegment o.segment.toList = o := by
  obtain ⟨key, value⟩ := o
  have hplain : ∀ c ∈ key.toList, decide (c ≠ '=') = true :=
    fun c hc => decide_eq_true fun heq => h.plain_key (heq ▸ hc)
  cases value with
  | none =>
    rw [TagEntry.segment, TagEntry.ofSegment]
    simp only [List.takeWhile_eq_self_iff.2 hplain, List.dropWhile_eq_nil_iff.2 hplain,
      String.ofList_toList]
  | some value =>
    have hsegment : TagEntry.segment ⟨key, some value⟩ = key ++ "=" ++ value := rfl
    rw [hsegment, TagEntry.ofSegment, String.toList_append, String.toList_append, List.append_assoc]
    simp only [List.takeWhile_append_of_pos hplain, List.dropWhile_append_of_pos hplain]
    simp

theorem TagEntry.Writable.segment_ne_nil {o : TagEntry} (h : o.Writable) :
    o.segment.toList ≠ [] := by
  rw [TagEntry.segment]
  cases hvalue : o.value with
  | none => exact fun hnil => h.nonempty_key hvalue (String.toList_eq_nil_iff.1 hnil)
  | some value => simp

theorem TagEntry.writable_ofSegment {piece : List Char} (h : piece ≠ []) :
    (TagEntry.ofSegment piece).Writable := by
  have hwritten := TagEntry.ofSegment_isWrittenAs piece
  refine ⟨hwritten.1, fun hvalue hkey => h ?_⟩
  have hpiece := hwritten.2
  rw [hvalue, hkey] at hpiece
  exact hpiece

/-- The name can be told from the two other choices. -/
structure NameChoice.Writable (skipMarker : String) (name : NameChoice) : Prop where
  given : ∀ text, name = .given text → text ≠ "" ∧ text ≠ skipMarker
  skipped : name = .skipped → skipMarker ≠ ""

theorem NameChoice.Writable.ofSegment_segment {skipMarker : String} {name : NameChoice}
    (h : name.Writable skipMarker) :
    NameChoice.ofSegment skipMarker (name.segment skipMarker).toList = name := by
  cases name with
  | derived => rfl
  | skipped =>
    have hne := h.skipped rfl
    rw [NameChoice.segment, NameChoice.ofSegment, if_neg (by simpa using hne),
      String.ofList_toList, if_pos rfl]
  | given text =>
    obtain ⟨hne, hmarker⟩ := h.given text rfl
    rw [NameChoice.segment, NameChoice.ofSegment, if_neg (by simpa using hne),
      String.ofList_toList, if_neg hmarker]

/-- A name that was read is written as the piece it was read from. -/
theorem NameChoice.writable_ofSegment (skipMarker : String) (piece : List Char) :
    (NameChoice.ofSegment skipMarker piece).Writable skipMarker ∧
      ((NameChoice.ofSegment skipMarker piece).segment skipMarker).toList = piece := by
  rw [NameChoice.ofSegment]
  split
  · next hnil => exact ⟨⟨by simp, by simp⟩, by rw [hnil]; rfl⟩
  · next hne =>
    have htext : String.ofList piece ≠ "" := by simpa using hne
    split
    · next hmarker =>
      refine ⟨⟨by simp, fun _ => hmarker ▸ htext⟩, ?_⟩
      rw [NameChoice.segment, ← hmarker, String.toList_ofList]
    · next hmarker =>
      refine ⟨⟨?_, by simp⟩, by rw [NameChoice.segment, String.toList_ofList]⟩
      rintro text heq
      obtain rfl := NameChoice.given.inj heq
      exact ⟨htext, hmarker⟩

-- ---------------------------------------------------------------------------
-- Whole tags
-- ---------------------------------------------------------------------------

namespace Tag

/-- The pieces of a written tag: its name, then its options. -/
def written (skipMarker : String) (t : Tag) : List (List Char) :=
  (t.name.segment skipMarker).toList :: t.options.map (·.segment.toList)

/-- The tag can be read from what it is written as. -/
structure Writable (skipMarker : String) (t : Tag) : Prop where
  name : t.name.Writable skipMarker
  options : ∀ o ∈ t.options, o.Writable
  unbroken : ∀ piece ∈ t.written skipMarker, ∀ front back,
    piece = front ++ ',' :: back → 0 < openAfter front
  closed : ∀ piece ∈ (t.written skipMarker).dropLast, openAfter piece = 0

theorem toList_render (skipMarker : String) (t : Tag) :
    (t.render skipMarker).toList = [','].intercalate (t.written skipMarker) := by
  rw [render, String.toList_intercalate, List.map_cons, List.map_map]
  rfl

/-- Behind its name, a tag is written option by option, each behind a comma. -/
theorem toList_render_eq_append (skipMarker : String) (t : Tag) :
    (t.render skipMarker).toList =
      (t.name.segment skipMarker).toList ++ t.options.flatMap (',' :: ·.segment.toList) := by
  rw [toList_render, written]
  generalize (t.name.segment skipMarker).toList = first
  induction t.options generalizing first with
  | nil => simp
  | cons o rest ih => simp [ih]

/-- A tag can be written if its parts can be and if its pieces are cut apart again. -/
theorem writable_iff {skipMarker : String} {t : Tag} :
    t.Writable skipMarker ↔ t.name.Writable skipMarker ∧ (∀ o ∈ t.options, o.Writable) ∧
      WellCut 0 (t.written skipMarker) := by
  rw [wellCut_iff]
  constructor
  · intro h
    exact ⟨h.name, h.options, List.cons_ne_nil _ _, h.unbroken, h.closed⟩
  · rintro ⟨hname, hoptions, -, hunbroken, hclosed⟩
    exact ⟨hname, hoptions, hunbroken, hclosed⟩

/-- A tag that can be read from its written form is read from it. -/
theorem parse_render {skipMarker : String} {t : Tag} (h : t.Writable skipMarker) :
    parse (t.render skipMarker) skipMarker = t := by
  obtain ⟨hname, hoptions, hcut⟩ := writable_iff.1 h
  have hpieces : segments Delimiter.ofChar (t.render skipMarker).toList = t.written skipMarker := by
    rw [segments_eq_pieces, toList_render]
    exact piecesFrom_intercalate hcut
  have hkept : (t.options.map (·.segment.toList)).filter (· ≠ []) =
      t.options.map (·.segment.toList) := by
    rw [List.filter_eq_self, List.forall_mem_map]
    intro o ho
    exact decide_eq_true (hoptions o ho).segment_ne_nil
  have hread : (t.options.map (·.segment.toList)).map TagEntry.ofSegment = t.options := by
    calc (t.options.map (·.segment.toList)).map TagEntry.ofSegment
        = t.options.map id := by
          rw [List.map_map]
          exact List.map_congr_left fun o ho => (hoptions o ho).ofSegment_segment
      _ = t.options := List.map_id _
  rw [parse, hpieces, written]
  dsimp only
  rw [hname.ofSegment_segment, hkept, hread]

/-- Options may be left out of a tag. -/
theorem Writable.filter_options {skipMarker : String} {t : Tag} (h : t.Writable skipMarker)
    (keep : TagEntry → Bool) : Writable skipMarker { t with options := t.options.filter keep } := by
  obtain ⟨hname, hoptions, hcut⟩ := writable_iff.1 h
  refine writable_iff.2 ⟨hname, fun o ho => hoptions o (List.mem_of_mem_filter ho), ?_⟩
  have hpieces : (t.options.map (·.segment.toList)).filter (keep ∘ TagEntry.ofSegment) =
      (t.options.filter keep).map (·.segment.toList) := by
    rw [List.filter_map]
    congr 1
    apply List.filter_congr
    intro o ho
    exact congrArg keep (hoptions o ho).ofSegment_segment
  have hkept := hcut.filter_rest (keep ∘ TagEntry.ofSegment)
  rwa [hpieces] at hkept

/-- Whatever can be read is a tag that can be read from its written form, because empty pieces are
all that its written form leaves out. -/
theorem writable_parse (raw skipMarker : String) : (parse raw skipMarker).Writable skipMarker := by
  obtain ⟨first, rest, hpieces⟩ := exists_cons_of_piecesFrom 0 raw.toList
  have hparse : parse raw skipMarker =
      ⟨NameChoice.ofSegment skipMarker first, (rest.filter (· ≠ [])).map TagEntry.ofSegment⟩ := by
    rw [parse, segments_eq_pieces, pieces, hpieces]
  obtain ⟨hname, hfirst⟩ := NameChoice.writable_ofSegment skipMarker first
  have hwritten : (parse raw skipMarker).written skipMarker = first :: rest.filter (· ≠ []) := by
    rw [hparse, written, hfirst, List.map_map]
    congr 1
    exact List.map_id'' TagEntry.toList_segment_ofSegment _
  rw [writable_iff, hwritten]
  refine ⟨?_, ?_, ?_⟩
  · rw [hparse]
    exact hname
  · rw [hparse]
    intro o ho
    obtain ⟨piece, hpiece, rfl⟩ := List.mem_map.1 ho
    exact TagEntry.writable_ofSegment (of_decide_eq_true (List.mem_filter.1 hpiece).2)
  · have hcut := wellCut_piecesFrom 0 raw.toList
    rw [hpieces] at hcut
    exact hcut.filter_rest _

/--
**Tags and their written form.** A tag is written as its name with its options behind it, each
behind a comma. Whatever annotation is read, the written form of its tag is read as the same tag. The
tags that their written form gives back are those whose given name is neither empty nor the marker,
which skip only if the marker is not empty, whose option keys have no equals sign and are not empty
unless a value follows, and whose pieces have no comma outside parentheses and, but for the last one,
leave none open. These are all the tags that an annotation can say.
-/
theorem parse_render_and_range (skipMarker : String) :
    (∀ t : Tag, (t.render skipMarker).toList =
      (t.name.segment skipMarker).toList ++ t.options.flatMap (',' :: ·.segment.toList)) ∧
    (∀ raw, parse ((parse raw skipMarker).render skipMarker) skipMarker = parse raw skipMarker) ∧
    (∀ t : Tag, t.Writable skipMarker → parse (t.render skipMarker) skipMarker = t) ∧
    ∀ t : Tag, t.Writable skipMarker ↔ ∃ raw, parse raw skipMarker = t := by
  refine ⟨toList_render_eq_append skipMarker, ?_, fun t => parse_render, ?_⟩
  · intro raw
    exact parse_render (writable_parse raw skipMarker)
  · intro t
    constructor
    · intro h
      exact ⟨t.render skipMarker, parse_render h⟩
    · rintro ⟨raw, rfl⟩
      exact writable_parse raw skipMarker

/-- A tag with an option that has no key and a last piece that leaves a parenthesis open. -/
def openLast : Tag :=
  ⟨.given "at", [⟨"", some "x=y"⟩, ⟨"default", some "point(0,0"⟩]⟩

/-- A parenthesis that the last piece leaves open does no harm. -/
theorem parse_render_and_range_openLast :
    openLast.Writable "-" ∧ parse (openLast.render "-") "-" = openLast := by
  have hcut : WellCut 0 (openLast.written "-") := wellCut_piecesFrom 0 "at,=x=y,default=point(0,0".toList
  have hwritable : openLast.Writable "-" := by
    refine writable_iff.2 ⟨⟨?_, ?_⟩, ?_, hcut⟩
    · intro text htext
      obtain rfl := NameChoice.given.inj htext
      decide
    · intro hname
      cases hname
    · intro o ho
      simp only [openLast, List.mem_cons, List.not_mem_nil, or_false] at ho
      rcases ho with rfl | rfl
      · exact ⟨by decide, by simp⟩
      · exact ⟨by decide, by simp⟩
  exact ⟨hwritable, (parse_render_and_range "-").2.2.1 openLast hwritable⟩

end Tag

end TableSchema
