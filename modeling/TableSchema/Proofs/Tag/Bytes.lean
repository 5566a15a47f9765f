import TableSchema.Proofs.Tag.Pieces

/-!
# Cutting bytes

A tag may be cut without looking at its characters: the bytes of its UTF-8 encoding are scanned for
commas and parentheses, and the text is sliced at the offset where the scan stops. In UTF-8 no byte of a
longer character is also a character of its own, so the scan finds what a scan of the characters finds,
and each slice is the encoding of a text.

* `Text.bytes` — the bytes of a text.
* `mark_byte` — what the scan takes the bytes of a character for.
* `cut_bytes` — one cut; `segments_bytes` — all of them.
* `cutOffset?`, `cut_eq_slices`, `cutOffset?_eq` — a cut by the offset of its comma.
* `Remaining`, `remaining_bytes` — what the reading of a tag has in front of it in each round.
* `ofBytes?` — the tag that is read from bytes.
* `CutBetweenChars` — what makes the slices of a cut safe.
* `cut_bytes_on_boundaries` — no round of the reading splits a character.
-/

namespace TableSchema

-- ---------------------------------------------------------------------------
-- Bytes of a text
-- ---------------------------------------------------------------------------

namespace Text

/-- The bytes of a text in UTF-8. -/
def bytes (s : String) : List UInt8 :=
  s.toByteArray.data.toList

theorem bytes_ofList (s : List Char) :
    bytes (String.ofList s) = s.flatMap String.utf8EncodeChar := by
  rw [bytes, String.toByteArray_ofList, List.utf8Encode, List.toList_data_toByteArray]

theorem bytes_eq_flatMap (s : String) : bytes s = s.toList.flatMap String.utf8EncodeChar := by
  rw [← bytes_ofList, String.ofList_toList]

theorem length_bytes (s : String) : (bytes s).length = s.utf8ByteSize := by
  rw [bytes, Array.length_toList, ByteArray.size_data, String.size_toByteArray]

/-- The text that has the given bytes, if there is one. -/
def ofBytes? (bytes : List UInt8) : Option String :=
  String.fromUTF8? bytes.toByteArray

theorem bytes_append (s t : String) : bytes (s ++ t) = bytes s ++ bytes t := by
  rw [bytes_eq_flatMap, String.toList_append, List.flatMap_append, ← bytes_eq_flatMap,
    ← bytes_eq_flatMap]

theorem ofBytes?_bytes (s : String) : ofBytes? (bytes s) = some s := by
  have harray : (bytes s).toByteArray = s.toByteArray := by
    apply ByteArray.ext
    rw [← Array.toList_inj, List.toList_data_toByteArray]
    rfl
  rw [ofBytes?, harray, String.fromUTF8?, dif_pos s.isValidUTF8]
  rfl

/-- Two texts with the same bytes are the same. -/
theorem bytes_injective {s t : String} (h : bytes s = bytes t) : s = t := by
  apply Option.some.inj
  rw [← ofBytes?_bytes s, h, ofBytes?_bytes]

end Text

namespace Tag

-- ---------------------------------------------------------------------------
-- Bytes of a character
-- ---------------------------------------------------------------------------

theorem ofByte_of_le {b : UInt8} (h : 128 ≤ b.toNat) : Delimiter.ofByte b = .plain := by
  have hne : ∀ d : UInt8, d.toNat < 128 → b ≠ d := by
    rintro d hd rfl
    omega
  rw [Delimiter.ofByte, if_neg (hne _ (by decide)), if_neg (hne _ (by decide)),
    if_neg (hne _ (by decide))]

/-- A byte that is made from a high bit and something else is high. -/
theorem le_toNat_or {x high : UInt8} (h : 128 ≤ high.toNat) : 128 ≤ (x ||| high).toNat := by
  rw [UInt8.toNat_or]
  exact Nat.le_trans h Nat.right_le_or

/-- All bytes of a longer character are high. -/
theorem le_of_mem_utf8EncodeChar {c : Char} (hc : c.utf8Size ≠ 1) :
    ∀ b ∈ String.utf8EncodeChar c, 128 ≤ b.toNat := by
  -- each byte of the encoding is written with one of the high bytes `0x80`, `0xc0`, `0xe0` and `0xf0`
  rcases Char.utf8Size_eq c with hsize | hsize | hsize | hsize
  · exact absurd hsize hc
  · rw [String.utf8EncodeChar_eq_cons_cons hsize]
    simp only [List.forall_mem_cons]
    exact ⟨le_toNat_or (by decide), le_toNat_or (by decide), by simp⟩
  · rw [String.utf8EncodeChar_eq_cons_cons_cons hsize]
    simp only [List.forall_mem_cons]
    exact ⟨le_toNat_or (by decide), le_toNat_or (by decide), le_toNat_or (by decide), by simp⟩
  · rw [String.utf8EncodeChar_eq_cons_cons_cons_cons hsize]
    simp only [List.forall_mem_cons]
    exact ⟨le_toNat_or (by decide), le_toNat_or (by decide), le_toNat_or (by decide),
      le_toNat_or (by decide), by simp⟩

theorem toNat_le_of_utf8Size {c : Char} (hc : c.utf8Size = 1) : c.toNat ≤ 127 :=
  UInt32.le_iff_toNat_le.mp (Char.utf8Size_eq_one_iff.mp hc)

/-- The one byte of a short character means what the character means. -/
theorem ofByte_toUInt8 {c : Char} (hc : c.utf8Size = 1) :
    Delimiter.ofByte c.val.toUInt8 = Delimiter.ofChar c := by
  have hbyte : ∀ (d : Char) (b : UInt8), b.toNat = d.toNat → (c.val.toUInt8 = b ↔ c = d) := by
    intro d b hb
    have hle := toNat_le_of_utf8Size hc
    have hval : c.val.toUInt8.toNat = c.toNat := by
      rw [UInt32.toNat_toUInt8]
      exact Nat.mod_eq_of_lt (by show c.toNat < 256; omega)
    rw [← UInt8.toNat_inj, hval, hb, Char.toNat_inj]
  simp only [Delimiter.ofByte, Delimiter.ofChar, hbyte '(' 0x28 rfl, hbyte ')' 0x29 rfl,
    hbyte ',' 0x2C rfl]

/-- No longer character is a comma or a parenthesis. -/
theorem ofChar_of_utf8Size {c : Char} (hc : c.utf8Size ≠ 1) : Delimiter.ofChar c = .plain := by
  have hne : ∀ d : Char, d.utf8Size = 1 → c ≠ d := by
    rintro d hd rfl
    exact hc hd
  rw [Delimiter.ofChar, if_neg (hne _ (by decide)), if_neg (hne _ (by decide)),
    if_neg (hne _ (by decide))]

/-- A byte that is taken for a comma or a parenthesis is all of a character that is one. -/
theorem mark_byte {c : Char} {b : UInt8} (hb : b ∈ String.utf8EncodeChar c)
    (hmark : Delimiter.ofByte b ≠ .plain) :
    String.utf8EncodeChar c = [b] ∧ Delimiter.ofByte b = Delimiter.ofChar c := by
  by_cases hc : c.utf8Size = 1
  · have hone := String.utf8EncodeChar_eq_singleton hc
    rw [hone] at hb ⊢
    rw [List.mem_singleton.mp hb]
    exact ⟨rfl, ofByte_toUInt8 hc⟩
  · exact absurd (ofByte_of_le (le_of_mem_utf8EncodeChar hc b hb)) hmark

-- ---------------------------------------------------------------------------
-- Cuts
-- ---------------------------------------------------------------------------

/-- The scan passes over plain letters. -/
theorem cut_append_of_plain {α : Type} {mark : α → Delimiter} {front : List α}
    (h : ∀ a ∈ front, mark a = .plain) (depth : Nat) (rest : List α) :
    cut mark depth (front ++ rest) =
      (front ++ (cut mark depth rest).1, (cut mark depth rest).2) := by
  induction front with
  | nil => rfl
  | cons a front ih =>
    rw [List.forall_mem_cons] at h
    obtain ⟨ha, hfront⟩ := h
    rw [List.cons_append, cut, ha, if_neg (by simp)]
    show (a :: (cut mark depth (front ++ rest)).1, (cut mark depth (front ++ rest)).2) = _
    rw [ih hfront, List.cons_append]

/-- Cutting the encoding of a text gives the encodings of what cutting the text gives. -/
theorem cut_encoded (depth : Nat) (s : List Char) :
    cut Delimiter.ofByte depth (s.flatMap String.utf8EncodeChar) =
      ((cut Delimiter.ofChar depth s).1.flatMap String.utf8EncodeChar,
        (cut Delimiter.ofChar depth s).2.map (·.flatMap String.utf8EncodeChar)) := by
  induction s generalizing depth with
  | nil => rfl
  | cons c s ih =>
    rw [List.flatMap_cons]
    by_cases hc : c.utf8Size = 1
    · -- one byte for one character, with the same meaning
      have hone := String.utf8EncodeChar_eq_singleton hc
      rw [hone, List.singleton_append, cut, cut, ofByte_toUInt8 hc]
      by_cases hcut : Delimiter.ofChar c = .comma ∧ depth = 0
      · rw [if_pos hcut, if_pos hcut]
        rfl
      · rw [if_neg hcut, if_neg hcut]
        dsimp only
        rw [ih, List.flatMap_cons, hone, List.singleton_append]
    · have hplain : ∀ b ∈ String.utf8EncodeChar c, Delimiter.ofByte b = .plain :=
        fun b hb => ofByte_of_le (le_of_mem_utf8EncodeChar hc b hb)
      rw [cut_append_of_plain hplain, ih, cut, ofChar_of_utf8Size hc, if_neg (by simp)]
      dsimp only
      rw [List.flatMap_cons]
      rfl

/-- One cut of a text, as bytes. -/
theorem cut_bytes (s : String) :
    cut Delimiter.ofByte 0 (Text.bytes s) =
      (Text.bytes (String.ofList (cut Delimiter.ofChar 0 s.toList).1),
        (cut Delimiter.ofChar 0 s.toList).2.map (Text.bytes ∘ String.ofList)) := by
  rw [Text.bytes_eq_flatMap, cut_encoded, Text.bytes_ofList]
  congr 1
  apply Option.map_congr
  intro tail _
  exact (Text.bytes_ofList tail).symm

/-- The first cut is the first segment; the rest is cut from the start again. -/
theorem segments_of_cut {α : Type} {mark : α → Delimiter} {s piece : List α}
    {tail? : Option (List α)} (h : cut mark 0 s = (piece, tail?)) :
    segments mark s = piece :: (tail?.map (segments mark)).getD [] := by
  rw [segments]
  split
  · next hcut =>
    rw [h] at hcut
    cases hcut
    rfl
  · next hcut =>
    rw [h] at hcut
    cases hcut
    rfl

/-- The byte scan cuts where the character scan does. -/
theorem segments_encoded (s : List Char) :
    segments Delimiter.ofByte (s.flatMap String.utf8EncodeChar) =
      (segments Delimiter.ofChar s).map (·.flatMap String.utf8EncodeChar) := by
  fun_induction segments Delimiter.ofChar s with
  | case1 s piece h =>
    rw [segments_of_cut (cut_encoded 0 s), h]
    rfl
  | case2 s piece tail h ih =>
    rw [segments_of_cut (cut_encoded 0 s), h]
    show _ :: segments Delimiter.ofByte _ = _
    rw [ih, List.map_cons]

-- ---------------------------------------------------------------------------
-- Offsets
-- ---------------------------------------------------------------------------

/-- How many letters stand in front of the first comma outside parentheses, if there is one. The scan
starts `depth` parentheses deep. -/
def cutOffset? {α : Type} (mark : α → Delimiter) (depth : Nat) : List α → Option Nat
  | [] => none
  | a :: rest =>
    if mark a = .comma ∧ depth = 0 then some 0
    else (cutOffset? mark ((mark a).depthAfter depth) rest).map (· + 1)

/-- A cut slices the text in front of the comma and behind it. -/
theorem cut_eq_slices {α : Type} (mark : α → Delimiter) (depth : Nat) (s : List α) :
    cut mark depth s =
      match cutOffset? mark depth s with
      | none => (s, none)
      | some i => (s.take i, some (s.drop (i + 1))) := by
  induction s generalizing depth with
  | nil => rfl
  | cons a s ih =>
    rw [cut, cutOffset?]
    by_cases hcut : mark a = .comma ∧ depth = 0
    · rw [if_pos hcut, if_pos hcut]
      rfl
    · rw [if_neg hcut, if_neg hcut, ih]
      cases cutOffset? mark ((mark a).depthAfter depth) s <;> rfl

/-- The comma of a cut stands as far from the start as the part in front of it is long. -/
theorem cutOffset?_eq {α : Type} (mark : α → Delimiter) (depth : Nat) (s : List α) :
    cutOffset? mark depth s = (cut mark depth s).2.map fun _ => (cut mark depth s).1.length := by
  induction s generalizing depth with
  | nil => rfl
  | cons a s ih =>
    rw [cut, cutOffset?]
    by_cases hcut : mark a = .comma ∧ depth = 0
    · rw [if_pos hcut, if_pos hcut]
      rfl
    · rw [if_neg hcut, if_neg hcut, ih, Option.map_map]
      rfl

/-- The comma of a cut stands between its two parts. -/
theorem eq_append_of_cut {α : Type} {mark : α → Delimiter} {depth : Nat} {s piece tail : List α}
    (h : cut mark depth s = (piece, some tail)) :
    ∃ a, mark a = .comma ∧ s = piece ++ a :: tail := by
  induction s generalizing depth piece with
  | nil => cases h
  | cons a s ih =>
    rw [cut] at h
    split at h
    · next hcut =>
      cases h
      exact ⟨a, hcut.1, rfl⟩
    · dsimp only at h
      obtain ⟨rfl, htail⟩ := Prod.mk.inj h
      obtain ⟨comma, hcomma, hs⟩ := ih (Prod.ext rfl htail)
      exact ⟨comma, hcomma, by rw [List.cons_append, ← hs]⟩

-- ---------------------------------------------------------------------------
-- Rounds
-- ---------------------------------------------------------------------------

/-- What the reading of a tag has in front of it when a round begins: all of it at first, and then what
is behind the cut of the round before. -/
inductive Remaining {α : Type} (mark : α → Delimiter) (s : List α) : List α → Prop
  | first : Remaining mark s s
  | next {rest piece tail : List α} :
      Remaining mark s rest → cut mark 0 rest = (piece, some tail) → Remaining mark s tail

/-- What remains is an end of the text. -/
theorem Remaining.suffix {α : Type} {mark : α → Delimiter} {s rest : List α}
    (h : Remaining mark s rest) : rest <:+ s := by
  induction h with
  | first => exact List.suffix_refl s
  | next _ hcut ih =>
    obtain ⟨comma, -, hrest⟩ := eq_append_of_cut hcut
    refine List.IsSuffix.trans ?_ ih
    rw [hrest]
    exact (List.suffix_cons comma _).trans (List.suffix_append _ _)

/-- The rounds over the bytes are the rounds over the characters. -/
theorem remaining_bytes {raw : String} {bytes : List UInt8}
    (h : Remaining Delimiter.ofByte (Text.bytes raw) bytes) :
    ∃ rest : String, Text.bytes rest = bytes ∧ Remaining Delimiter.ofChar raw.toList rest.toList := by
  induction h with
  | first => exact ⟨raw, rfl, .first⟩
  | next _ hcut ih =>
    obtain ⟨rest, rfl, hrest⟩ := ih
    rw [cut_bytes] at hcut
    obtain ⟨-, htail⟩ := Prod.mk.inj hcut
    obtain ⟨tail, hchars, rfl⟩ := Option.map_eq_some_iff.mp htail
    refine ⟨String.ofList tail, rfl, ?_⟩
    rw [String.toList_ofList]
    exact .next hrest (Prod.ext rfl hchars)

-- ---------------------------------------------------------------------------
-- Reading
-- ---------------------------------------------------------------------------

/-- The tag that the bytes of an annotation spell, if every segment of them is a text. -/
def ofBytes? (bytes : List UInt8) (skipMarker : String) : Option Tag :=
  ((segments Delimiter.ofByte bytes).mapM Text.ofBytes?).map fun texts =>
    match texts.map String.toList with
    | [] => ⟨.derived, []⟩
    | first :: rest =>
      ⟨NameChoice.ofSegment skipMarker first, (rest.filter (· ≠ [])).map TagEntry.ofSegment⟩

/-- All segments of a text, as bytes. -/
theorem segments_bytes (s : String) :
    segments Delimiter.ofByte (Text.bytes s) =
      ((segments Delimiter.ofChar s.toList).map String.ofList).map Text.bytes := by
  rw [Text.bytes_eq_flatMap, segments_encoded, List.map_map]
  apply List.map_congr_left
  intro segment _
  exact (Text.bytes_ofList segment).symm

theorem ofBytes?_bytes (raw skipMarker : String) :
    ofBytes? (Text.bytes raw) skipMarker = some (parse raw skipMarker) := by
  have hread : Text.ofBytes? ∘ Text.bytes = fun s => pure s :=
    funext Text.ofBytes?_bytes
  have hchars : String.toList ∘ String.ofList = id :=
    funext fun _ => String.toList_ofList
  rw [ofBytes?, segments_bytes, List.mapM_map, hread, List.mapM_pure]
  show some _ = some _
  rw [List.map_id']
  dsimp only
  rw [List.map_map, hchars, List.map_id]
  rfl

-- ---------------------------------------------------------------------------
-- Boundaries
-- ---------------------------------------------------------------------------

/-- If a scan of the bytes of a text finds a comma to cut at, it stands between two characters, and so
does what is behind it, and the slices on both sides are the bytes of what a scan of the characters
gives. If it finds none, neither does a scan of the characters. -/
def CutBetweenChars (s : String) : Prop :=
  match cutOffset? Delimiter.ofByte 0 (Text.bytes s) with
  | none => cut Delimiter.ofChar 0 s.toList = (s.toList, none)
  | some i =>
    (String.Pos.Raw.mk i).IsValid s ∧ (String.Pos.Raw.mk (i + 1)).IsValid s ∧
      ∃ piece tail : String, cut Delimiter.ofChar 0 s.toList = (piece.toList, some tail.toList) ∧
        (Text.bytes s).take i = Text.bytes piece ∧ (Text.bytes s).drop (i + 1) = Text.bytes tail

theorem isValid_length_bytes (u v : String) :
    (String.Pos.Raw.mk (Text.bytes u).length).IsValid (u ++ v) :=
  String.Pos.Raw.isValid_iff_exists_append.mpr ⟨u, v, rfl, by rw [Text.length_bytes]; rfl⟩

/-- A cut takes one comma out of the text. -/
theorem eq_append_comma_of_cut {s : String} {piece tail : List Char}
    (h : cut Delimiter.ofChar 0 s.toList = (piece, some tail)) :
    s = String.ofList piece ++ "," ++ String.ofList tail := by
  obtain ⟨c, hc, hs⟩ := eq_append_of_cut h
  have hcomma : c = ',' := ofChar_eq_comma_iff.mp hc
  rw [← String.ofList_toList (s := s), hs, hcomma, ← String.toList_inj]
  simp only [String.toList_append, String.toList_ofList]
  exact (List.append_assoc piece [','] tail).symm

/-- A scan of the bytes of a text is safe. -/
theorem cutBetweenChars (s : String) : CutBetweenChars s := by
  have hslices := cut_eq_slices Delimiter.ofByte 0 (Text.bytes s)
  have hoffset := cutOffset?_eq Delimiter.ofByte 0 (Text.bytes s)
  rcases hcut : cut Delimiter.ofChar 0 s.toList with ⟨piece, tail?⟩
  rw [cut_bytes, hcut] at hslices hoffset
  unfold CutBetweenChars
  cases tail? with
  | none =>
    have hnone : cutOffset? Delimiter.ofByte 0 (Text.bytes s) = none := hoffset
    rw [hnone] at hslices ⊢
    have hwhole : Text.bytes (String.ofList piece) = Text.bytes s := congrArg Prod.fst hslices
    show cut Delimiter.ofChar 0 s.toList = (s.toList, none)
    rw [hcut, ← Text.bytes_injective hwhole, String.toList_ofList]
  | some tail =>
    have hsome : cutOffset? Delimiter.ofByte 0 (Text.bytes s) =
        some (Text.bytes (String.ofList piece)).length := hoffset
    rw [hsome] at hslices ⊢
    obtain ⟨hfront, hbehind⟩ := Prod.mk.inj hslices
    have hs := eq_append_comma_of_cut hcut
    refine ⟨?_, ?_, String.ofList piece, String.ofList tail, ?_, hfront.symm,
      (Option.some.inj hbehind).symm⟩
    · rw [hs, String.append_assoc]
      exact isValid_length_bytes _ _
    · -- the comma takes one byte
      have hcomma : (Text.bytes (String.ofList piece)).length + 1 =
          (Text.bytes (String.ofList piece ++ ",")).length := by
        rw [Text.bytes_append, List.length_append]
        rfl
      rw [hcomma, hs]
      exact isValid_length_bytes _ _
    · rw [hcut, String.toList_ofList, String.toList_ofList]

-- the first character takes three bytes, and the comma in parentheses does not cut
example : cutOffset? Delimiter.ofByte 0 (Text.bytes "€(,),é") = some 6 := by decide +kernel

/--
**Tags are cut between characters.** Let a tag be read by scanning its bytes for commas and
parentheses. In every round the bytes that are left are the bytes of an end of the text, the offsets
on both sides of the comma lie between two characters, and both slices are the bytes of what a scan of
the characters gives. A byte that the scan takes for a comma or a parenthesis is all of
a character, and the character is that comma or parenthesis. So the bytes spell the tag that is read
from the characters.
-/
theorem cut_bytes_on_boundaries (raw : String) :
    (∀ bytes, Remaining Delimiter.ofByte (Text.bytes raw) bytes →
      ∃ before rest : String, raw = before ++ rest ∧ bytes = Text.bytes rest ∧
        Remaining Delimiter.ofChar raw.toList rest.toList ∧ CutBetweenChars rest) ∧
    (∀ c ∈ raw.toList, ∀ b ∈ String.utf8EncodeChar c, Delimiter.ofByte b ≠ .plain →
      String.utf8EncodeChar c = [b] ∧ Delimiter.ofByte b = Delimiter.ofChar c) ∧
    ∀ skipMarker, ofBytes? (Text.bytes raw) skipMarker = some (parse raw skipMarker) := by
  refine ⟨?_, ?_, ofBytes?_bytes raw⟩
  · intro bytes hbytes
    obtain ⟨rest, rfl, hrest⟩ := remaining_bytes hbytes
    obtain ⟨before, hbefore⟩ := hrest.suffix
    refine ⟨String.ofList before, rest, ?_, rfl, hrest, cutBetweenChars rest⟩
    rw [← String.toList_inj, String.toList_append, String.toList_ofList]
    exact hbefore.symm
  · intro c _ b hb hmark
    exact mark_byte hb hmark

end Tag

end TableSchema
