import Mathlib.Data.List.Forall2
import Mathlib.Data.List.TakeWhile
import TableSchema.Tag.Basic

/-!
# Pieces of a tag

A tag is read by cutting at the first comma outside parentheses and going on behind it, with the
parentheses counted anew. The same pieces come from one pass over the whole text with one counter,
because the counter is zero wherever a cut is made.

* `openAfter` — the counter behind a text.
* `pieces` — the text split at the commas where the counter is zero.
* `piecesFrom_eq_cut` — one cut of the pass; `segments_eq_pieces` — all of them.
* `pieces_append` — the pieces of a text in two parts.
* `name_parse_eq_skipped_iff` — which tags skip their field.
* `parse_eq_pieces` — a parsed tag is read off the pieces.
-/

namespace TableSchema

namespace Tag

-- ---------------------------------------------------------------------------
-- The pass
-- ---------------------------------------------------------------------------

/-- The number of open parentheses after one more character. A closing one without partner does not
count. -/
def openStep (n : Nat) (c : Char) : Nat :=
  if c = '(' then n + 1 else if c = ')' then n - 1 else n

/-- The number of open parentheses after a text. -/
def openAfter (s : List Char) : Nat :=
  s.foldl openStep 0

/-- The characters of a text, each with the number of open parentheses in front of it; `n` are open
at the start. -/
def counted (n : Nat) : List Char → List (Char × Nat)
  | [] => []
  | c :: rest => (c, n) :: counted (openStep n c) rest

/-- A comma outside all parentheses. -/
def separates (x : Char × Nat) : Bool :=
  x.1 = ',' ∧ x.2 = 0

/-- The texts between the separators, with `n` parentheses open at the start. -/
def piecesFrom (n : Nat) (s : List Char) : List (List Char) :=
  ((counted n s).splitOnP separates).map (·.map Prod.fst)

/-- The texts between the separators. -/
def pieces (s : List Char) : List (List Char) :=
  piecesFrom 0 s

/-- A comma outside of all brackets starts a new piece. -/
theorem piecesFrom_cons_comma (s : List Char) :
    piecesFrom 0 (',' :: s) = [] :: piecesFrom 0 s := by
  rw [piecesFrom, counted, List.splitOnP_cons_eq_if_modifyHead, if_pos (by rfl)]
  rfl

/-- Any other character belongs to the first piece. -/
theorem piecesFrom_cons_of_not {n : Nat} {c : Char} (h : ¬ (c = ',' ∧ n = 0)) (s : List Char) :
    piecesFrom n (c :: s) = (piecesFrom (openStep n c) s).modifyHead (c :: ·) := by
  rw [piecesFrom, counted, List.splitOnP_cons_eq_if_modifyHead, if_neg (by simpa [separates] using h),
    piecesFrom]
  cases (counted (openStep n c) s).splitOnP separates <;> rfl

theorem piecesFrom_ne_nil (n : Nat) (s : List Char) : piecesFrom n s ≠ [] := by
  simp [piecesFrom]

theorem exists_cons_of_piecesFrom (n : Nat) (s : List Char) :
    ∃ head tail, piecesFrom n s = head :: tail :=
  List.exists_cons_of_ne_nil (piecesFrom_ne_nil n s)

theorem exists_concat_of_piecesFrom (n : Nat) (s : List Char) :
    ∃ front last, piecesFrom n s = front ++ [last] :=
  ⟨_, _, (List.dropLast_append_getLast (piecesFrom_ne_nil n s)).symm⟩

/-- The pieces with commas between them are the text. -/
theorem intercalate_piecesFrom (n : Nat) (s : List Char) :
    [','].intercalate (piecesFrom n s) = s := by
  induction s generalizing n with
  | nil => rfl
  | cons c s ih =>
    by_cases h : c = ',' ∧ n = 0
    · obtain ⟨rfl, rfl⟩ := h
      rw [piecesFrom_cons_comma, List.intercalate_cons_of_ne_nil (piecesFrom_ne_nil 0 s), ih]
      rfl
    · obtain ⟨head, tail, hpieces⟩ := exists_cons_of_piecesFrom (openStep n c) s
      have hrest := ih (openStep n c)
      rw [piecesFrom_cons_of_not h, hpieces, List.modifyHead_cons]
      rw [hpieces] at hrest
      cases tail with
      | nil =>
        rw [List.intercalate_singleton] at hrest ⊢
        rw [hrest]
      | cons next tail =>
        rw [List.intercalate_cons_cons] at hrest ⊢
        rw [← hrest]
        rfl

/-- The counter runs through a text in two parts: the last piece of the first part goes on in the
second. -/
theorem piecesFrom_append {n : Nat} {u v last head : List Char} {front tail : List (List Char)}
    (hu : piecesFrom n u = front ++ [last])
    (hv : piecesFrom (u.foldl openStep n) v = head :: tail) :
    piecesFrom n (u ++ v) = front ++ (last ++ head) :: tail := by
  -- the counter goes through `u` alone, so all that is about `v` is fixed from the start
  induction u generalizing n front last with
  | nil =>
    have hnil : [] ++ [[]] = front ++ [last] := hu
    obtain ⟨rfl, rfl⟩ := List.append_singleton_inj.1 hnil
    exact hv
  | cons c u ih =>
    by_cases h : c = ',' ∧ n = 0
    · obtain ⟨rfl, rfl⟩ := h
      obtain ⟨front', last', hpieces⟩ := exists_concat_of_piecesFrom 0 u
      rw [piecesFrom_cons_comma, hpieces] at hu
      have hfront : ([] :: front') ++ [last'] = front ++ [last] := hu
      obtain ⟨rfl, rfl⟩ := List.append_singleton_inj.1 hfront
      rw [List.cons_append, piecesFrom_cons_comma, ih hpieces hv]
      rfl
    · obtain ⟨front', last', hpieces⟩ := exists_concat_of_piecesFrom (openStep n c) u
      rw [piecesFrom_cons_of_not h, hpieces] at hu
      rw [List.cons_append, piecesFrom_cons_of_not h, ih hpieces hv]
      -- the character belongs to the first piece, which is the last one too if `u` has no separator
      cases front' with
      | nil =>
        have hfront : [] ++ [c :: last'] = front ++ [last] := hu
        obtain ⟨rfl, rfl⟩ := List.append_singleton_inj.1 hfront
        rfl
      | cons piece front' =>
        have hfront : ((c :: piece) :: front') ++ [last'] = front ++ [last] := hu
        obtain ⟨rfl, rfl⟩ := List.append_singleton_inj.1 hfront
        rfl

/-- Where the counter stays above zero there is no separator. -/
theorem piecesFrom_of_open {n : Nat} {s : List Char}
    (h : ∀ w x, s = w ++ x → x ≠ [] → 0 < w.foldl openStep n) : piecesFrom n s = [s] := by
  induction s generalizing n with
  | nil => rfl
  | cons c s ih =>
    have hn : 0 < n := h [] (c :: s) rfl (List.cons_ne_nil _ _)
    have hrest : piecesFrom (openStep n c) s = [s] := by
      apply ih
      rintro w x rfl hx
      exact h (c :: w) x rfl hx
    rw [piecesFrom_cons_of_not (fun hand => by omega), hrest]
    rfl

/-- A closing parenthesis that finds none open stays in its piece and changes nothing else. -/
theorem piecesFrom_closing (s : List Char) :
    piecesFrom 0 (')' :: s) = (piecesFrom 0 s).modifyHead (')' :: ·) :=
  piecesFrom_cons_of_not (by decide) s

-- ---------------------------------------------------------------------------
-- The cuts
-- ---------------------------------------------------------------------------

theorem depthAfter_ofChar (n : Nat) (c : Char) :
    (Delimiter.ofChar c).depthAfter n = openStep n c := by
  unfold Delimiter.ofChar openStep
  split
  · rfl
  · split
    · rfl
    · split <;> rfl

theorem ofChar_eq_comma_iff {c : Char} : Delimiter.ofChar c = .comma ↔ c = ',' := by
  unfold Delimiter.ofChar
  constructor
  · intro h
    by_contra hne
    rw [if_neg hne] at h
    split at h
    · exact absurd h (by decide)
    · split at h <;> exact absurd h (by decide)
  · rintro rfl
    rfl

/-- One cut ends the first piece of the pass, and behind the cut the pass has its counter at zero,
like the next cut. -/
theorem piecesFrom_eq_cut (n : Nat) (s : List Char) :
    piecesFrom n s =
      match cut Delimiter.ofChar n s with
      | (piece, none) => [piece]
      | (piece, some tail) => piece :: piecesFrom 0 tail := by
  induction s generalizing n with
  | nil => rfl
  | cons c s ih =>
    rw [cut, depthAfter_ofChar]
    by_cases h : c = ',' ∧ n = 0
    · -- a cut leaves the counter at zero, where the next one starts
      rw [if_pos ⟨ofChar_eq_comma_iff.2 h.1, h.2⟩]
      obtain ⟨rfl, rfl⟩ := h
      exact piecesFrom_cons_comma s
    · rw [if_neg (fun hand => h ⟨ofChar_eq_comma_iff.1 hand.1, hand.2⟩), piecesFrom_cons_of_not h,
        ih]
      cases cut Delimiter.ofChar (openStep n c) s with
      | mk piece tail? => cases tail? <;> rfl

/-- Cutting again and again gives the pieces of the one pass. -/
theorem segments_eq_pieces (s : List Char) : segments Delimiter.ofChar s = pieces s := by
  fun_induction segments Delimiter.ofChar s with
  | case1 s piece h => rw [pieces, piecesFrom_eq_cut, h]
  | case2 s piece tail h ih => rw [pieces, piecesFrom_eq_cut, h, ih, pieces]

end Tag

-- ---------------------------------------------------------------------------
-- Names and options
-- ---------------------------------------------------------------------------

/-- The option is written as the given piece: its key, then an equals sign and its value if it has
one. The first equals sign ends the key. -/
def TagEntry.IsWrittenAs (o : TagEntry) (piece : List Char) : Prop :=
  '=' ∉ o.key.toList ∧
    match o.value with
    | none => piece = o.key.toList
    | some value => piece = o.key.toList ++ '=' :: value.toList

/-- The option that a piece is read as is written like the piece. -/
theorem TagEntry.ofSegment_isWrittenAs (piece : List Char) :
    (TagEntry.ofSegment piece).IsWrittenAs piece := by
  have hsplit := List.takeWhile_append_dropWhile (p := (· ≠ '=')) (l := piece)
  refine ⟨?_, ?_⟩
  · intro hmem
    rw [TagEntry.ofSegment, String.toList_ofList] at hmem
    simpa using List.mem_takeWhile_imp hmem
  · rw [TagEntry.ofSegment]
    dsimp only
    rw [String.toList_ofList]
    cases hdrop : piece.dropWhile (· ≠ '=') with
    | nil =>
      rw [hdrop, List.append_nil] at hsplit
      exact hsplit.symm
    | cons c value =>
      have hne : piece.dropWhile (· ≠ '=') ≠ [] := by
        rw [hdrop]
        exact List.cons_ne_nil c value
      have hc : c = '=' := by
        have hhead := List.head_dropWhile_not (· ≠ '=') hne
        simp only [hdrop, List.head_cons] at hhead
        simpa using hhead
      rw [hdrop, hc] at hsplit
      dsimp only
      rw [String.toList_ofList]
      exact hsplit.symm

namespace Tag

/-- The name is read from the first piece. -/
theorem name_parse {raw : String} {first : List Char} {rest : List (List Char)}
    (h : pieces raw.toList = first :: rest) (skipMarker : String) :
    (parse raw skipMarker).name = NameChoice.ofSegment skipMarker first := by
  rw [parse, segments_eq_pieces, h]

/-- A tag skips its field if its first piece is the marker, and not empty. -/
theorem name_parse_eq_skipped_iff {raw skipMarker : String} :
    (parse raw skipMarker).name = .skipped ↔
      skipMarker ≠ "" ∧ (pieces raw.toList).head? = some skipMarker.toList := by
  obtain ⟨first, rest, hpieces⟩ := exists_cons_of_piecesFrom 0 raw.toList
  rw [name_parse hpieces, NameChoice.ofSegment, pieces, hpieces, List.head?_cons,
    Option.some.injEq]
  constructor
  · intro h
    split_ifs at h with hempty hmarker
    refine ⟨?_, by rw [← hmarker, String.toList_ofList]⟩
    rintro rfl
    exact hempty (by rw [← String.toList_ofList (l := first), hmarker]; rfl)
  · rintro ⟨hne, rfl⟩
    have hnil : skipMarker.toList ≠ [] := mt String.toList_eq_nil_iff.1 hne
    rw [if_neg hnil, if_pos String.ofList_toList]

/--
**Reading a tag.** One pass over the whole text with one counter of open parentheses splits it at the
commas where the counter is zero, and the tag is read off the pieces: the first one is the name, and
each further one that is not empty is an option. If the counter stays above zero from some point to
the end, the rest belongs to the piece at that point; a closing parenthesis where the counter is zero
belongs to the piece around it and moves no other boundary.
-/
theorem parse_eq_pieces (raw skipMarker : String) :
    (∃ first rest, pieces raw.toList = first :: rest ∧
      [','].intercalate (first :: rest) = raw.toList ∧
      (parse raw skipMarker).name =
        (if first = [] then .derived
          else if String.ofList first = skipMarker then .skipped
          else .given (String.ofList first)) ∧
      List.Forall₂ (fun piece o => TagEntry.IsWrittenAs o piece) (rest.filter (· ≠ []))
        (parse raw skipMarker).options) ∧
    (∀ u v, raw.toList = u ++ v → (∀ w x, v = w ++ x → x ≠ [] → 0 < openAfter (u ++ w)) →
      ∃ front last, pieces u = front ++ [last] ∧ pieces raw.toList = front ++ [last ++ v]) ∧
    (∀ u v, openAfter u = 0 → ∃ front last head tail,
      pieces u = front ++ [last] ∧ pieces v = head :: tail ∧
      pieces (u ++ v) = front ++ (last ++ head) :: tail ∧
      pieces (u ++ ')' :: v) = front ++ (last ++ ')' :: head) :: tail) := by
  refine ⟨?_, ?_, ?_⟩
  · obtain ⟨first, rest, hpieces⟩ := exists_cons_of_piecesFrom 0 raw.toList
    refine ⟨first, rest, hpieces, ?_, ?_, ?_⟩
    · rw [← hpieces]
      exact intercalate_piecesFrom 0 raw.toList
    · rw [parse, segments_eq_pieces, pieces, hpieces]
      rfl
    · rw [parse, segments_eq_pieces, pieces, hpieces, List.forall₂_map_right_iff,
        List.forall₂_same]
      intro piece _
      exact TagEntry.ofSegment_isWrittenAs piece
  · intro u v hraw hopen
    obtain ⟨front, last, hu⟩ := exists_concat_of_piecesFrom 0 u
    have hv : piecesFrom (u.foldl openStep 0) v = [v] := by
      apply piecesFrom_of_open
      intro w x hvw hx
      rw [← List.foldl_append]
      exact hopen w x hvw hx
    refine ⟨front, last, hu, ?_⟩
    rw [hraw]
    exact piecesFrom_append hu hv
  · intro u v hzero
    obtain ⟨front, last, hu⟩ := exists_concat_of_piecesFrom 0 u
    obtain ⟨head, tail, hv⟩ := exists_cons_of_piecesFrom 0 v
    have hclosing : piecesFrom 0 (')' :: v) = (')' :: head) :: tail := by
      rw [piecesFrom_closing, hv, List.modifyHead_cons]
    rw [openAfter] at hzero
    refine ⟨front, last, head, tail, hu, hv, ?_, ?_⟩
    · exact piecesFrom_append hu (hzero.symm ▸ hv)
    · exact piecesFrom_append hu (hzero.symm ▸ hclosing)

end Tag

end TableSchema
