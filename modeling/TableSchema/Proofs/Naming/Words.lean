import Mathlib.Data.List.Basic
import Mathlib.Data.List.TakeWhile
import TableSchema.Naming
import TableSchema.Proofs.Text.LetterCase

/-!
# The words of an identifier

An identifier in camel case is a row of words: capitalized ones, acronyms, and perhaps a small one in
front. Where a word starts is decided at each capital by the characters next to it alone; that these
decisions find exactly the words is what is proved here.

* `separator`, `lowered`, `snakeAfter_cons` — what one character of an identifier becomes.
* `snakeAfter_run`, `snakeAfter_capitals` — runs without capitals, and of capitals only.
* `WordRow` — words that may follow each other.
* `snakeCase_join` — the derived name of a row of words is the small words, joined by underscores.
-/

namespace TableSchema

open Text

-- ---------------------------------------------------------------------------
-- One character
-- ---------------------------------------------------------------------------

/-- What stands in front of the character `c` in a derived name, between `prev` and `next`. -/
def separator (prev c : Char) (next : Option Char) : List Char :=
  if isUppercase c && startsWord prev next then ['_'] else []

/-- What a character becomes in a derived name. -/
def lowered (c : Char) : List Char :=
  if isUppercase c then toLowercase c else [c]

/-- The name of a text behind a character: a separator where a word starts, then the small form of
the first character. -/
theorem snakeAfter_cons (p c : Char) (rest : List Char) :
    snakeAfter (some p) (c :: rest) =
      separator p c rest.head? ++ (lowered c ++ snakeAfter (some c) rest) := by
  rw [snakeAfter, separator, lowered, Option.any_some]
  cases isUppercase c with
  | false => rfl
  | true =>
    rw [if_pos rfl, if_pos rfl, Bool.true_and]
    cases startsWord p rest.head? <;> rfl

/-- No separator stands in front of the first character. -/
theorem snakeAfter_none_cons (c : Char) (rest : List Char) :
    snakeAfter none (c :: rest) = lowered c ++ snakeAfter (some c) rest := by
  rw [snakeAfter, lowered]
  cases isUppercase c <;> rfl

/-- Words start at capitals only. -/
theorem separator_of_not_isUppercase {p c : Char} {next : Option Char} (h : isUppercase c = false) :
    separator p c next = [] := by
  rw [separator, h]
  rfl

/-- What is no capital is kept. -/
theorem lowered_of_not_isUppercase {c : Char} (h : isUppercase c = false) : lowered c = [c] := by
  rw [lowered, h]
  rfl

theorem lowered_of_isUppercase {c : Char} (h : isUppercase c = true) :
    lowered c = toLowercase c := by
  rw [lowered, if_pos h]

/-- Behind a capital, only the next character decides. -/
theorem startsWord_of_isUppercase {p : Char} (h : isUppercase p = true) (next : Option Char) :
    startsWord p next = next.any isLowercase := by
  have hdigit : p.isDigit = false := by
    rw [Bool.eq_false_iff]
    intro hdigit
    rw [not_isUppercase_of_isDigit hdigit] at h
    cases h
  rw [startsWord, not_isLowercase_of_isUppercase h, hdigit, h]
  rfl

-- ---------------------------------------------------------------------------
-- Runs
-- ---------------------------------------------------------------------------

/-- Text without capitals stays as it is. -/
theorem snakeAfter_run {p : Char} {run : List Char} (h : ∀ c ∈ run, isUppercase c = false)
    (rest : List Char) :
    snakeAfter (some p) (run ++ rest) = run ++ snakeAfter (some (run.getLastD p)) rest := by
  induction run generalizing p with
  | nil => rfl
  | cons c run ih =>
    obtain ⟨hc, hrun⟩ := List.forall_mem_cons.mp h
    rw [List.cons_append, snakeAfter_cons, separator_of_not_isUppercase hc,
      lowered_of_not_isUppercase hc, ih hrun, List.getLastD_cons]
    rfl

/-- Capitals behind a capital are lowered without a separator, if no small letter follows. -/
theorem snakeAfter_capitals {p : Char} {capitals rest : List Char} (hp : p.isUpper = true)
    (h : ∀ c ∈ capitals, c.isUpper = true) (hrest : rest.head?.any isLowercase = false) :
    snakeAfter (some p) (capitals ++ rest) =
      capitals.map Char.toLower ++ snakeAfter (some (capitals.getLastD p)) rest := by
  induction capitals generalizing p with
  | nil => rfl
  | cons c capitals ih =>
    obtain ⟨hc, hcapitals⟩ := List.forall_mem_cons.mp h
    have hnext : (capitals ++ rest).head?.any isLowercase = false := by
      cases capitals with
      | nil => exact hrest
      | cons next more =>
        have hupper := isUppercase_of_isUpper (hcapitals next List.mem_cons_self)
        exact not_isLowercase_of_isUppercase hupper
    have hnone : separator p c (capitals ++ rest).head? = [] := by
      rw [separator, startsWord_of_isUppercase (isUppercase_of_isUpper hp), hnext, Bool.and_false]
      rfl
    rw [List.cons_append, snakeAfter_cons, hnone, lowered_of_isUppercase (isUppercase_of_isUpper hc),
      toLowercase_of_isUpper hc, ih hc hcapitals, List.getLastD_cons]
    rfl

-- ---------------------------------------------------------------------------
-- Words
-- ---------------------------------------------------------------------------

-- There are finitely many characters. A statement about those of a text is decided on the text alone,
-- and not on all of them.
local instance decidableForallMem (w : List Char) (p : Char → Prop) [DecidablePred p] :
    Decidable (∀ c ∈ w, p c) :=
  List.decidableBAll p w

/-- A small letter or a digit of ASCII. -/
def IsSmall (c : Char) : Prop :=
  c.isLower = true ∨ c.isDigit = true

instance : DecidablePred IsSmall :=
  fun _ => inferInstanceAs (Decidable (_ ∨ _))

/-- A small letter, then small letters and digits. -/
def IsSmallWord : List Char → Prop
  | d :: rest => d.isLower = true ∧ ∀ e ∈ rest, IsSmall e
  | [] => False

instance : DecidablePred IsSmallWord
  | [] => .isFalse id
  | _ :: _ => inferInstanceAs (Decidable (_ ∧ _))

/-- A capital, then a word that begins with a small letter. -/
def IsCapitalized : List Char → Prop
  | c :: rest => c.isUpper = true ∧ IsSmallWord rest
  | [] => False

instance : DecidablePred IsCapitalized
  | [] => .isFalse id
  | _ :: _ => inferInstanceAs (Decidable (_ ∧ _))

/-- Capitals, at least one, then digits. -/
def IsAcronym (w : List Char) : Prop :=
  w.takeWhile Char.isUpper ≠ [] ∧ ∀ d ∈ w.dropWhile Char.isUpper, d.isDigit = true

instance : DecidablePred IsAcronym :=
  fun _ => inferInstanceAs (Decidable (_ ∧ _))

/-- Words that may follow each other: a small one only in front, and no acronym directly behind one
that has no digits. -/
structure WordRow (words : List (List Char)) : Prop where
  first : ∀ w ∈ words.head?, IsCapitalized w ∨ IsAcronym w ∨ IsSmallWord w
  later : ∀ w ∈ words.tail, IsCapitalized w ∨ IsAcronym w
  apart : words.IsChain fun v w => (∀ c ∈ v, c.isUpper = true) → ¬ IsAcronym w

instance (words : List (List Char)) : Decidable (WordRow words) :=
  decidable_of_iff (_ ∧ _ ∧ _)
    ⟨fun ⟨first, later, apart⟩ => ⟨first, later, apart⟩, fun h => ⟨h.first, h.later, h.apart⟩⟩

/-- Small characters are no capitals. -/
theorem IsSmall.not_isUppercase {c : Char} (h : IsSmall c) : isUppercase c = false := by
  rcases h with hlower | hdigit
  · exact not_isUppercase_of_isLowercase (isLowercase_of_isLower hlower)
  · exact not_isUppercase_of_isDigit hdigit

theorem IsSmall.toLower_eq {c : Char} (h : IsSmall c) : c.toLower = c := by
  apply dif_neg
  intro hupper
  have hc := h.not_isUppercase
  rw [isUppercase_of_isUpper (decide_eq_true hupper)] at hc
  cases hc

/-- Behind a small letter or a digit a capital starts a word, whatever comes next. -/
theorem IsSmall.startsWord {p : Char} (h : IsSmall p) (next : Option Char) :
    startsWord p next = true := by
  rw [TableSchema.startsWord]
  rcases h with hlower | hdigit
  · rw [isLowercase_of_isLower hlower]
    rfl
  · rw [hdigit, Bool.or_true]
    rfl

/-- A run of small characters is kept, and its last one stands in front of what follows. -/
theorem snakeAfter_small {p : Char} {run : List Char} (h : ∀ c ∈ run, IsSmall c) (rest : List Char) :
    snakeAfter (some p) (run ++ rest) =
      run.map Char.toLower ++ snakeAfter (some (run.getLastD p)) rest := by
  rw [snakeAfter_run (fun c hc => (h c hc).not_isUppercase),
    List.map_congr_left (fun c hc => (h c hc).toLower_eq), List.map_id']

/-- A capital of the alphabet has its small letter as small form. -/
theorem lowered_of_isUpper {c : Char} (h : c.isUpper = true) : lowered c = [c.toLower] := by
  rw [lowered_of_isUppercase (isUppercase_of_isUpper h), toLowercase_of_isUpper h]

/-- A small character is its own small form. -/
theorem lowered_of_isSmall {c : Char} (h : IsSmall c) : lowered c = [c.toLower] := by
  rw [lowered_of_not_isUppercase h.not_isUppercase, h.toLower_eq]

/-- An acronym starts with a capital, and more capitals and then digits may follow. -/
theorem IsAcronym.exists_cons {w : List Char} (h : IsAcronym w) :
    ∃ c capitals digits, w = c :: (capitals ++ digits) ∧ (∀ e ∈ c :: capitals, e.isUpper = true) ∧
      ∀ d ∈ digits, d.isDigit = true := by
  obtain ⟨hne, hdigits⟩ := h
  obtain ⟨c, capitals, hcapitals⟩ := List.exists_cons_of_ne_nil hne
  refine ⟨c, capitals, _, ?_, ?_, hdigits⟩
  · rw [← List.cons_append, ← hcapitals, List.takeWhile_append_dropWhile]
  · rw [← hcapitals]
    exact fun e he => List.mem_takeWhile_imp he

/-- Both kinds of words start with a capital. -/
theorem exists_cons_of_word {w : List Char} (h : IsCapitalized w ∨ IsAcronym w) :
    ∃ c more, w = c :: more ∧ c.isUpper = true := by
  rcases h with hcapitalized | hacronym
  · cases w with
    | nil => exact hcapitalized.elim
    | cons c more => exact ⟨c, more, rfl, hcapitalized.1⟩
  · obtain ⟨c, capitals, digits, rfl, hcapitals, -⟩ := hacronym.exists_cons
    exact ⟨c, capitals ++ digits, rfl, hcapitals c List.mem_cons_self⟩

/-- The characters of a word behind its capital, or of one that begins with a small letter. -/
theorem IsSmallWord.forall_isSmall {w : List Char} (h : IsSmallWord w) : ∀ c ∈ w, IsSmall c := by
  cases w with
  | nil => exact h.elim
  | cons d rest => exact List.forall_mem_cons.mpr ⟨.inl h.1, h.2⟩

/-- So what follows a word does not start with a small letter. -/
theorem head?_flatten_of_words {words : List (List Char)}
    (h : ∀ w ∈ words, IsCapitalized w ∨ IsAcronym w) :
    words.flatten.head?.any isLowercase = false := by
  cases words with
  | nil => rfl
  | cons w words =>
    obtain ⟨c, more, rfl, hc⟩ := exists_cons_of_word (h w List.mem_cons_self)
    exact not_isLowercase_of_isUppercase (isUppercase_of_isUpper hc)

/-- How a word `w` may end: with a small letter or a digit, or with a capital if it has only
capitals. -/
def EndsWord (w : List Char) (l : Char) : Prop :=
  IsSmall l ∨ l.isUpper = true ∧ ∀ c ∈ w, c.isUpper = true

/-- Inside a word there is no separator. -/
theorem snakeAfter_word {c : Char} {more rest : List Char}
    (hw : IsCapitalized (c :: more) ∨ IsAcronym (c :: more) ∨ IsSmallWord (c :: more))
    (hrest : rest.head?.any isLowercase = false) :
    ∃ l, EndsWord (c :: more) l ∧
      snakeAfter (some c) (more ++ rest) = more.map Char.toLower ++ snakeAfter (some l) rest := by
  rcases hw with ⟨-, hsmall⟩ | hacronym | hsmall
  · refine ⟨_, .inl ?_, snakeAfter_small hsmall.forall_isSmall rest⟩
    cases more with
    | nil => exact hsmall.elim
    | cons d more =>
      rw [List.getLastD_cons]
      exact hsmall.forall_isSmall _ List.getLastD_mem_cons
  · obtain ⟨_, capitals, digits, heq, hcapitals, hdigits⟩ := hacronym.exists_cons
    obtain ⟨rfl, rfl⟩ := List.cons.inj heq
    have hsmall : ∀ d ∈ digits, IsSmall d := fun d hd => .inr (hdigits d hd)
    have hnext : (digits ++ rest).head?.any isLowercase = false := by
      cases digits with
      | nil => exact hrest
      | cons d digits => exact not_isLowercase_of_isDigit (hdigits d List.mem_cons_self)
    obtain ⟨hc, hmore⟩ := List.forall_mem_cons.mp hcapitals
    rw [List.append_assoc, snakeAfter_capitals hc hmore hnext, snakeAfter_small hsmall,
      List.map_append, ← List.append_assoc]
    refine ⟨_, ?_, rfl⟩
    cases digits with
    | nil =>
      rw [List.append_nil]
      exact .inr ⟨hcapitals _ List.getLastD_mem_cons, hcapitals⟩
    | cons d digits =>
      left
      rw [List.getLastD_cons]
      exact hsmall _ List.getLastD_mem_cons
  · have hall := hsmall.forall_isSmall
    exact ⟨_, .inl (hall _ List.getLastD_mem_cons), snakeAfter_small hsmall.2 rest⟩

/-- A capital starts a word behind the end of another one. -/
theorem separator_of_word {v : List Char} {p c : Char} {more rest : List Char} (hp : EndsWord v p)
    (hw : IsCapitalized (c :: more) ∨ IsAcronym (c :: more)) (hc : c.isUpper = true)
    (hapart : (∀ e ∈ v, e.isUpper = true) → ¬ IsAcronym (c :: more)) :
    separator p c (more ++ rest).head? = ['_'] := by
  rw [separator, isUppercase_of_isUpper hc, Bool.true_and, if_pos]
  rcases hp with hsmall | ⟨hupper, hall⟩
  · exact hsmall.startsWord _
  · obtain ⟨-, hsmall⟩ := hw.resolve_right (hapart hall)
    rw [startsWord_of_isUppercase (isUppercase_of_isUpper hupper)]
    cases more with
    | nil => exact hsmall.elim
    | cons d more => exact isLowercase_of_isLower hsmall.1

/-- Words behind the end `p` of the word `v` get a separator each. -/
theorem snakeAfter_words {v : List Char} {p : Char} {words : List (List Char)} (hp : EndsWord v p)
    (hwords : ∀ w ∈ words, IsCapitalized w ∨ IsAcronym w)
    (hapart : (v :: words).IsChain fun v w => (∀ c ∈ v, c.isUpper = true) → ¬ IsAcronym w) :
    snakeAfter (some p) words.flatten = (words.map fun w => '_' :: w.map Char.toLower).flatten := by
  induction words generalizing v p with
  | nil => rfl
  | cons w words ih =>
    obtain ⟨hw, hlater⟩ := List.forall_mem_cons.mp hwords
    obtain ⟨hfirst, hrest⟩ := List.isChain_cons_cons.mp hapart
    obtain ⟨c, more, rfl, hc⟩ := exists_cons_of_word hw
    have hword : IsCapitalized (c :: more) ∨ IsAcronym (c :: more) ∨ IsSmallWord (c :: more) :=
      hw.imp_right .inl
    obtain ⟨l, hl, hbody⟩ := snakeAfter_word hword (head?_flatten_of_words hlater)
    rw [List.flatten_cons, List.cons_append, snakeAfter_cons, separator_of_word hp hw hc hfirst,
      lowered_of_isUpper hc, hbody, ih hl hlater hrest]
    rfl

-- ---------------------------------------------------------------------------
-- Identifiers
-- ---------------------------------------------------------------------------

/-- Words between separators: every later word has one in front. -/
theorem intercalate_cons_eq_flatten (first : List Char) (later : List (List Char)) :
    ['_'].intercalate (first :: later) = first ++ (later.map ('_' :: ·)).flatten := by
  induction later generalizing first with
  | nil => simp
  | cons next later ih =>
    rw [List.intercalate_cons_cons, ih, List.map_cons, List.flatten_cons]
    simp

/-- The first character of a word, of any kind, has one small form. -/
theorem exists_lowered_of_word {w : List Char}
    (h : IsCapitalized w ∨ IsAcronym w ∨ IsSmallWord w) :
    ∃ c more, w = c :: more ∧ lowered c = [c.toLower] := by
  rcases or_assoc.mpr h with hcapital | hsmall
  · obtain ⟨c, more, rfl, hc⟩ := exists_cons_of_word hcapital
    exact ⟨c, more, rfl, lowered_of_isUpper hc⟩
  · cases w with
    | nil => exact hsmall.elim
    | cons d more => exact ⟨d, more, rfl, lowered_of_isSmall (.inl hsmall.1)⟩

/-- A row of words is separated at its words and nowhere else. -/
theorem snakeAfter_wordRow {words : List (List Char)} (h : WordRow words) :
    snakeAfter none words.flatten = ['_'].intercalate (words.map (·.map Char.toLower)) := by
  cases words with
  | nil => rfl
  | cons w later =>
    have hlater : ∀ w ∈ later, IsCapitalized w ∨ IsAcronym w := h.later
    have hw := h.first w rfl
    obtain ⟨c, more, rfl, hc⟩ := exists_lowered_of_word hw
    obtain ⟨l, hl, hbody⟩ := snakeAfter_word hw (head?_flatten_of_words hlater)
    rw [List.flatten_cons, List.cons_append, snakeAfter_none_cons, hc, hbody,
      snakeAfter_words hl hlater h.apart, List.map_cons, intercalate_cons_eq_flatten, List.map_map]
    rfl

/--
**Names from words.** The name that is derived from a row of words consists of these words in small
letters with one underscore between each two of them, and no other one.
-/
theorem snakeCase_join {words : List String} (h : WordRow (words.map String.toList)) :
    snakeCase (String.join words) = "_".intercalate (words.map String.toLower) := by
  have htexts : (words.map String.toLower).map String.toList =
      (words.map String.toList).map (·.map Char.toLower) := by
    rw [List.map_map, List.map_map]
    exact List.map_congr_left fun w _ => String.toList_map
  rw [← String.toList_inj, snakeCase, String.toList_ofList, String.toList_join,
    String.toList_intercalate, htexts, List.flatMap_def, snakeAfter_wordRow h]
  rfl

/-- Acronyms of one letter and of several, with and without digits, at both ends and between words. -/
theorem snakeCase_join_requestWords :
    WordRow (["get", "HTTP", "Request2", "A1", "XML", "By", "I", "Pv4", "ID"].map String.toList) ∧
      snakeCase (String.join ["get", "HTTP", "Request2", "A1", "XML", "By", "I", "Pv4", "ID"]) =
        "get_http_request2_a1_xml_by_i_pv4_id" := by
  have hrow : WordRow
      (["get", "HTTP", "Request2", "A1", "XML", "By", "I", "Pv4", "ID"].map String.toList) := by
    decide +kernel
  exact ⟨hrow, (snakeCase_join hrow).trans (by decide +kernel)⟩

end TableSchema
