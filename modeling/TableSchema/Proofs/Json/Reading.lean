import Mathlib.Data.List.TakeDrop
import TableSchema.Json.Number
import TableSchema.Json.Reader
import TableSchema.Json.Writer

/-!
# The reader inverts the writer

What the writer makes of a value, the reader turns into that value again, in every layout that puts
only white space between the pieces.

* `readStringBody_flatMap_escapedChar` — escaping loses no character;
* `readNumber?_toDigits` — the digits of a natural number are read up to their end, and `toInt?_ofNat`
  says what they are worth;
* `readItems_write`, `readMembers_write` — lists and objects, given that what is in them is read back;
* `Plain.readBack` — every value of texts, natural numbers, truth values and `null`, by induction on
  its shape;
* `Plain.read?_pretty` — whole documents.
-/

namespace TableSchema.Json

-- ---------------------------------------------------------------------------
-- White space
-- ---------------------------------------------------------------------------

/-- Nothing but white space. -/
def Blank (s : List Char) : Prop :=
  ∀ c ∈ s, isBlank c = true

/-- White space in front is skipped. -/
theorem skipBlank_append {gap : List Char} (hgap : Blank gap) (s : List Char) :
    skipBlank (gap ++ s) = skipBlank s :=
  List.dropWhile_append_of_pos hgap

/-- What is no white space is not skipped. -/
theorem skipBlank_cons {c : Char} (hc : isBlank c = false) (s : List Char) :
    skipBlank (c :: s) = c :: s := by
  simp [skipBlank, hc]

/-- White space in front of a value does not count. -/
theorem readValue_blank_append {gap : List Char} (hgap : Blank gap) (budget : Nat)
    (s : List Char) : readValue budget (gap ++ s) = readValue budget s := by
  cases budget with
  | zero => rw [readValue, readValue]
  | succ budget => rw [readValue, readValue, skipBlank_append hgap]

/-- White space in front of an item does not count. -/
theorem readItems_blank_append {gap : List Char} (hgap : Blank gap) (budget : Nat)
    (done : List Json) (s : List Char) :
    readItems budget done (gap ++ s) = readItems budget done s := by
  cases budget with
  | zero => rw [readItems, readItems]
  | succ budget => rw [readItems, readItems, readValue_blank_append hgap]

/-- White space in front of a member does not count. -/
theorem readMembers_blank_append {gap : List Char} (hgap : Blank gap) (budget : Nat)
    (done : List (String × Json)) (s : List Char) :
    readMembers budget done (gap ++ s) = readMembers budget done s := by
  cases budget with
  | zero => rw [readMembers, readMembers]
  | succ budget => rw [readMembers, readMembers, skipBlank_append hgap]

/-- A layout that only adds white space. -/
structure Layout.Spaced (layout : Layout) : Prop where
  newline : ∀ depth, Blank (layout.newline depth)
  colon : ∃ gap, layout.colon = ':' :: gap ∧ Blank gap

/-- The pretty layout only adds white space. -/
theorem Layout.spaced_pretty : Layout.pretty.Spaced where
  newline depth c hc := by
    have : c = '\n' ∨ c = ' ' := by
      simp only [pretty, List.mem_cons, List.mem_replicate] at hc
      exact hc.imp_right And.right
    rcases this with rfl | rfl <;> rfl
  colon := ⟨[' '], rfl, by simp [Blank, isBlank]⟩

/-- What may stand behind a value: the end, white space, or a mark that ends an item. -/
def Follows (rest : List Char) : Prop :=
  ∀ c ∈ rest.head?, isBlank c = true ∨ c = ',' ∨ c = ']' ∨ c = '\x7d'

theorem follows_nil : Follows [] := by
  simp [Follows]

theorem follows_cons {c : Char} (hc : c = ',' ∨ c = ']' ∨ c = '\x7d') (s : List Char) :
    Follows (c :: s) := by
  intro d hd
  obtain rfl : c = d := by simpa using hd
  exact .inr hc

/-- White space may stand between a value and what may follow it. -/
theorem Blank.follows_append {gap : List Char} (hgap : Blank gap) {s : List Char}
    (hs : Follows s) : Follows (gap ++ s) := by
  cases gap with
  | nil => exact hs
  | cons c gap =>
    intro d hd
    obtain rfl : c = d := by simpa using hd
    exact .inl (hgap c List.mem_cons_self)

-- ---------------------------------------------------------------------------
-- Strings
-- ---------------------------------------------------------------------------

/-- The digit that is written for a number below sixteen is read as that number. -/
theorem hexDigit?_digitChar : ∀ d < 16, Text.hexDigit? (Nat.digitChar d) = some d := by
  decide

/-- The four digits of a control character. -/
theorem readUnit?_control {n : Nat} (hn : n < 0x20) (rest : List Char) :
    readUnit? ('0' :: '0' :: Nat.digitChar (n / 16) :: Nat.digitChar (n % 16) :: rest)
      = some (n, rest) := by
  have hzero : Text.hexDigit? '0' = some 0 := by decide
  have hhigh := hexDigit?_digitChar (n / 16) (by omega)
  have hlow := hexDigit?_digitChar (n % 16) (by omega)
  simp only [readUnit?, hzero, hhigh, hlow]
  have : (0 * 16 + 0) * 16 + n / 16 = n / 16 := by omega
  rw [this, Nat.div_add_mod' n 16]

/-- One character is read back from its escaped form. -/
theorem readStringBody_escapedChar (budget : Nat) (done : List Char) (c : Char)
    (rest : List Char) :
    readStringBody (budget + 1) false done (escapedChar c ++ rest)
      = readStringBody budget false (c :: done) rest := by
  unfold escapedChar
  -- one case for each way to write a character; a control character is no half of a pair
  split_ifs with hquote hslash h8 hc hn hr ht hcontrol
  case pos => subst hquote; rfl
  case pos => subst hslash; rfl
  case pos => subst h8; rfl
  case pos => subst hc; rfl
  case pos => subst hn; rfl
  case pos => subst hr; rfl
  case pos => subst ht; rfl
  case pos =>
    have hsurrogate : ¬ (0xDC00 ≤ c.toNat ∧ c.toNat ≤ 0xDFFF) := by omega
    have hhigh : ¬ (0xD800 ≤ c.toNat ∧ c.toNat ≤ 0xDBFF) := by omega
    simp [readStringBody, readUnit?_control hcontrol, hsurrogate, hhigh, Char.ofNat_toNat]
  case neg => simp [readStringBody, hquote, hslash, hcontrol]

/-- An escaped text is read back up to its closing quote. -/
theorem readStringBody_flatMap_escapedChar (s : List Char) {budget : Nat}
    (hbudget : s.length < budget) (done rest : List Char) :
    readStringBody budget false done (s.flatMap escapedChar ++ '"' :: rest)
      = some (.string (String.ofList (done.reverse ++ s)), rest) := by
  induction s generalizing budget done with
  | nil =>
    obtain ⟨budget, rfl⟩ := Nat.exists_eq_add_of_lt hbudget
    simp [readStringBody]
  | cons c s ih =>
    obtain _ | budget := budget
    · simp at hbudget
    rw [List.flatMap_cons, List.append_assoc, readStringBody_escapedChar,
      ih (by simpa using hbudget)]
    simp

theorem escapedChar_ne_nil (c : Char) : escapedChar c ≠ [] := by
  unfold escapedChar
  split_ifs <;> simp

/-- Escaping makes a text no shorter, so that the budget for the escaped text suffices. -/
theorem length_le_length_flatMap_escapedChar (s : List Char) :
    s.length ≤ (s.flatMap escapedChar).length := by
  induction s with
  | nil => simp
  | cons c s ih =>
    have := List.length_pos_iff.mpr (escapedChar_ne_nil c)
    simp only [List.flatMap_cons, List.length_append, List.length_cons]
    omega

/-- The content of a written string, with the budget that a reader behind the first quote has. -/
theorem readStringBody_text (s : String) (rest : List Char) :
    readStringBody ((s.toList.flatMap escapedChar ++ '"' :: rest).length + 1) false []
      (s.toList.flatMap escapedChar ++ '"' :: rest) = some (.string s, rest) := by
  have hlength := length_le_length_flatMap_escapedChar s.toList
  have hbudget : s.toList.length
      < (s.toList.flatMap escapedChar ++ '"' :: rest).length + 1 := by
    rw [List.length_append]
    omega
  rw [readStringBody_flatMap_escapedChar _ hbudget]
  simp

-- ---------------------------------------------------------------------------
-- Numbers
-- ---------------------------------------------------------------------------

/-- No digit, point or exponent, which would go on with a number. -/
theorem Follows.head_not_numeric {rest : List Char} (h : Follows rest) {c : Char}
    (hc : c ∈ rest.head?) : c.isDigit = false ∧ c ≠ '.' ∧ ¬ (c = 'e' ∨ c = 'E') := by
  have : c = ' ' ∨ c = '\n' ∨ c = '\t' ∨ c = '\r' ∨ c = ',' ∨ c = ']' ∨ c = '\x7d' := by
    have := h c hc
    simp only [isBlank, Bool.or_eq_true, decide_eq_true_eq] at this
    tauto
  rcases this with rfl | rfl | rfl | rfl | rfl | rfl | rfl <;> decide

/-- Digits are read up to the first character that is none. -/
theorem readDigitRun_append {digits rest : List Char} (hdigits : ∀ c ∈ digits, c.isDigit = true)
    (hrest : ∀ c ∈ rest.head?, c.isDigit = false) :
    readDigitRun (digits ++ rest) = (digits, rest) := by
  rw [readDigitRun, List.span_eq_takeWhile_dropWhile, List.takeWhile_append_of_pos hdigits,
    List.dropWhile_append_of_pos hdigits]
  cases rest with
  | nil => simp
  | cons c rest => simp [hrest c rfl]

/-- Decimal digits are digits. -/
theorem isDigit_of_mem_toDigits {n : Nat} {c : Char} (hc : c ∈ Nat.toDigits 10 n) :
    c.isDigit = true :=
  Nat.isDigit_of_mem_toDigits (by decide) (by decide) hc

/-- The digits of a number, the first one apart. -/
theorem toDigits_eq_cons (n : Nat) :
    ∃ c digits, Nat.toDigits 10 n = c :: digits ∧ c.isDigit = true := by
  obtain ⟨c, digits, hdigits⟩ :=
    List.exists_cons_of_ne_nil (Nat.toDigits_ne_nil (b := 10) (n := n))
  refine ⟨c, digits, hdigits, isDigit_of_mem_toDigits (n := n) ?_⟩
  rw [hdigits]
  exact List.mem_cons_self

/-- Only zero is written with a leading zero. -/
theorem head?_toDigits_ne_zero {n : Nat} (hn : n ≠ 0) : (Nat.toDigits 10 n).head? ≠ some '0' := by
  induction n using Nat.strongRecOn with
  | ind n ih =>
    by_cases h : n < 10
    · have : ∀ d < 10, d ≠ 0 → Nat.digitChar d ≠ '0' := by decide
      rw [Nat.toDigits_of_lt_base h]
      simpa using this n h hn
    · have hlead := ih (n / 10) (by omega) (by omega)
      obtain ⟨c, digits, hdigits, -⟩ := toDigits_eq_cons (n / 10)
      rw [Nat.toDigits_of_base_le (by decide) (by omega), List.head?_append]
      simpa [hdigits] using hlead

/-- The whole part of a number is read back: its digits have no zero in front. -/
theorem readWhole?_toDigits (n : Nat) {rest : List Char}
    (hrest : ∀ c ∈ rest.head?, c.isDigit = false) :
    readWhole? (Nat.toDigits 10 n ++ rest) = some (Nat.toDigits 10 n, rest) := by
  by_cases hn : n = 0
  · subst hn
    have : rest.head?.any Char.isDigit = false := by
      cases rest with
      | nil => rfl
      | cons c rest => exact hrest c rfl
    simp [readWhole?, Nat.toDigits_zero, this]
  · have hrun := readDigitRun_append (fun c hc => isDigit_of_mem_toDigits (n := n) hc) hrest
    have hhead := head?_toDigits_ne_zero hn
    obtain ⟨c, digits, hdigits, -⟩ := toDigits_eq_cons n
    rw [hdigits] at hrun hhead ⊢
    have hc : c ≠ '0' := by simpa using hhead
    simp only [List.cons_append] at hrun ⊢
    simp [readWhole?, hc, hrun]

/-- What may follow a value is no fraction. -/
theorem readFraction?_of_follows {rest : List Char} (hrest : Follows rest) :
    readFraction? rest = some ([], rest) := by
  cases rest with
  | nil => rfl
  | cons c rest =>
    have hc := (hrest.head_not_numeric rfl).2.1
    simp [readFraction?, hc]

/-- What may follow a value is no exponent. -/
theorem readExponent?_of_follows {rest : List Char} (hrest : Follows rest) :
    readExponent? rest = some ([], rest) := by
  cases rest with
  | nil => rfl
  | cons c rest =>
    have hc := (hrest.head_not_numeric rfl).2.2
    simp [readExponent?, hc]

/-- A digit is none of the other characters that a value starts with, nor one that ends it. -/
theorem ne_of_isDigit {c d : Char} (hc : c.isDigit = true) (hd : d.isDigit = false) : c ≠ d := by
  rintro rfl
  simp [hc] at hd

/-- A natural number is read back from its digits. -/
theorem readNumber?_toDigits (n : Nat) {rest : List Char} (hrest : Follows rest) :
    readNumber? (Nat.toDigits 10 n ++ rest) = some (ofNat n, rest) := by
  have hwhole := readWhole?_toDigits n fun c hc => (hrest.head_not_numeric hc).1
  have htext : ofNat n = .number (String.ofList (Nat.toDigits 10 n)) := by
    rw [ofNat, Nat.toString_eq_ofList_toDigits]
  obtain ⟨c, digits, hdigits, hc⟩ := toDigits_eq_cons n
  have hsign : c ≠ '-' := ne_of_isDigit hc rfl
  rw [hdigits] at hwhole htext ⊢
  simp only [List.cons_append] at hwhole ⊢
  simp [readNumber?, hsign, hwhole, readFraction?_of_follows hrest,
    readExponent?_of_follows hrest, htext]

theorem Numeral.ofLexeme_toString (n : Nat) :
    Numeral.ofLexeme (toString n) = ⟨false, Nat.toDigits 10 n, [], none⟩ := by
  have hspan : (Nat.toDigits 10 n).span Char.isDigit = (Nat.toDigits 10 n, []) := by
    have hrun : readDigitRun (Nat.toDigits 10 n ++ []) = _ :=
      readDigitRun_append (fun c hc => isDigit_of_mem_toDigits hc) (by simp)
    rwa [readDigitRun, List.append_nil] at hrun
  obtain ⟨c, digits, hdigits, hc⟩ := toDigits_eq_cons n
  have hsign : c ≠ '-' := ne_of_isDigit hc rfl
  rw [Nat.toString_eq_repr, Numeral.ofLexeme, Nat.toList_repr]
  rw [hdigits] at hspan ⊢
  simp [hsign, hspan, -List.span_eq_takeWhile_dropWhile]

/-- What a written natural number is worth. -/
theorem toInt?_ofNat {n most : Nat} (hn : n ≤ most) (hmost : most < UInt64.size) :
    toInt? 0 most (ofNat n) = some (n : Int) := by
  have hsize : n < UInt64.size := by omega
  simp only [toInt?, ofNat, Numeral.ofLexeme_toString, Numeral.toInt?]
  simp [Text.digitsValue_toDigits, hsize, hn]

-- ---------------------------------------------------------------------------
-- Values
-- ---------------------------------------------------------------------------

/-- A value that stands for data: whole texts, natural numbers, truth values and `null`, alone or in
lists and objects. -/
inductive Plain : Json → Prop where
  | null : Plain .null
  | bool (b : Bool) : Plain (.bool b)
  | number (n : Nat) : Plain (ofNat n)
  | string (text : String) : Plain (.string text)
  | array (items : List Json) (h : ∀ j ∈ items, Plain j) : Plain (.array items)
  | object (members : List (String × Json)) (h : ∀ m ∈ members, Plain m.2) :
      Plain (.object members)

attribute [simp] Plain.null Plain.bool Plain.number Plain.string

/-- The reader gives a value back, at every level and in front of everything that may follow it. The
characters of the value are budget enough. -/
def ReadBack (layout : Layout) (j : Json) : Prop :=
  ∀ depth budget rest, (write layout depth j).length ≤ budget → Follows rest →
    readValue (budget + 1) (write layout depth j ++ rest) = some (j, rest)

/-- A natural number is written with its digits. -/
theorem write_ofNat (layout : Layout) (depth n : Nat) :
    write layout depth (ofNat n) = Nat.toDigits 10 n := by
  rw [ofNat, write, Nat.toString_eq_repr, Nat.toList_repr]

/-- A written value starts with a character of its own, which does not close a list. -/
theorem Plain.write_eq_cons {j : Json} (hj : j.Plain) (layout : Layout) (depth : Nat) :
    ∃ c s, write layout depth j = c :: s ∧ isBlank c = false ∧ c ≠ ']' := by
  cases hj with
  | null => exact ⟨'n', _, rfl, by decide, by decide⟩
  | bool b => cases b <;> exact ⟨_, _, rfl, by decide, by decide⟩
  | number n =>
    obtain ⟨c, digits, hdigits, hc⟩ := toDigits_eq_cons n
    refine ⟨c, digits, (write_ofNat layout depth n).trans hdigits, ?_, ne_of_isDigit hc rfl⟩
    simp [isBlank, ne_of_isDigit hc]
  | string text => exact ⟨'"', _, rfl, by decide, by decide⟩
  | array items _ => cases items <;> exact ⟨'[', _, rfl, by decide, by decide⟩
  | object members _ => cases members <;> exact ⟨'\x7b', _, rfl, by decide, by decide⟩

variable {layout : Layout}

/-- A word is read where it stands in front. -/
theorem readWord?_append (word : String) (value : Json) (rest : List Char) :
    readWord? word value (word.toList ++ rest) = some (value, rest) := by
  simp [readWord?, ← String.length_toList]

theorem readBack_null : ReadBack layout .null := by
  intro depth budget rest _ _
  have hword := readWord?_append "null" .null rest
  rw [readValue, write, List.cons_append, skipBlank_cons (c := 'n') rfl]
  simpa using hword

/-- Truth values are read back. -/
theorem readBack_bool (b : Bool) : ReadBack layout (.bool b) := by
  intro depth budget rest _ _
  cases b with
  | false =>
    have hword := readWord?_append "false" (.bool false) rest
    rw [readValue, write, List.cons_append, skipBlank_cons (c := 'f') rfl]
    simpa using hword
  | true =>
    have hword := readWord?_append "true" (.bool true) rest
    rw [readValue, write, List.cons_append, skipBlank_cons (c := 't') rfl]
    simpa using hword

/-- Natural numbers are read back, since no digit follows a value. -/
theorem readBack_ofNat (n : Nat) : ReadBack layout (ofNat n) := by
  intro depth budget rest _ hrest
  have hnumber := readNumber?_toDigits n hrest
  obtain ⟨c, digits, hdigits, hc⟩ := toDigits_eq_cons n
  have hblank : isBlank c = false := by simp [isBlank, ne_of_isDigit hc]
  rw [write_ofNat, hdigits]
  rw [hdigits] at hnumber
  simp only [List.cons_append] at hnumber ⊢
  simp [readValue, skipBlank_cons hblank, ne_of_isDigit hc, hnumber]

/-- Texts are read back. -/
theorem readBack_string (text : String) : ReadBack layout (.string text) := by
  intro depth budget rest _ _
  have htext := readStringBody_text text rest
  simp only [write, writeString, List.cons_append, List.append_assoc, List.nil_append]
  rw [readValue, skipBlank_cons (c := '"') rfl]
  exact htext

-- ---------------------------------------------------------------------------
-- Lists
-- ---------------------------------------------------------------------------

/-- The last item of a list ends it. -/
theorem readItems_last {item : Json} (hitem : ReadBack layout item) {depth budget : Nat}
    (hbudget : (write layout depth item).length ≤ budget) (done : List Json) {gap : List Char}
    (hgap : Blank gap) (rest : List Char) :
    readItems (budget + 2) done (write layout depth item ++ (gap ++ ']' :: rest))
      = some (.array (item :: done).reverse, rest) := by
  have hclose : Follows (gap ++ ']' :: rest) := hgap.follows_append (follows_cons (by simp) rest)
  rw [readItems, hitem depth budget _ hbudget hclose]
  simp only [skipBlank_append hgap, skipBlank_cons (c := ']') rfl]

/-- An item in front of a comma is followed by another one. -/
theorem readItems_next {item : Json} (hitem : ReadBack layout item) {depth budget : Nat}
    (hbudget : (write layout depth item).length ≤ budget) (done : List Json) (rest : List Char) :
    readItems (budget + 2) done (write layout depth item ++ ',' :: rest)
      = readItems (budget + 1) (item :: done) rest := by
  have hcomma : Follows (',' :: rest) := follows_cons (by simp) rest
  rw [readItems, hitem depth budget _ hbudget hcomma]
  simp only [skipBlank_cons (c := ',') rfl]

/-- The items of a list, the first one due. -/
theorem readItems_write (hlayout : layout.Spaced) (depth : Nat) (rest : List Char)
    {item : Json} {items : List Json} (hback : ∀ j ∈ item :: items, ReadBack layout j)
    (budget : Nat)
    (hbudget : (write layout (depth + 1) item).length
      + (writeItems layout (depth + 1) items).length ≤ budget)
    (done : List Json) :
    readItems (budget + 2) done
        (write layout (depth + 1) item ++ (writeItems layout (depth + 1) items ++
          (layout.newline depth ++ ']' :: rest)))
      = some (.array (done.reverse ++ item :: items), rest) := by
  have hitem := hback item List.mem_cons_self
  induction items generalizing item budget done with
  | nil =>
    rw [writeItems, List.nil_append,
      readItems_last hitem (by omega) done (hlayout.newline depth) rest]
    simp
  | cons next items ih =>
    simp only [writeItems, List.cons_append, List.append_assoc, List.length_cons,
      List.length_append] at hbudget ⊢
    -- the comma is what the budget of the next call is less by
    obtain ⟨budget, rfl⟩ : ∃ fewer, budget = fewer + 1 := ⟨budget - 1, by omega⟩
    have hitems := ih (fun j hj => hback j (List.mem_cons_of_mem item hj)) budget (by omega)
      (item :: done) (hback next (List.mem_cons_of_mem item List.mem_cons_self))
    rw [readItems_next hitem (by omega) done,
      readItems_blank_append (hlayout.newline (depth + 1)), hitems]
    simp

/-- A list is read back if all of its items are. -/
theorem readBack_array (hlayout : layout.Spaced) {items : List Json}
    (hplain : ∀ j ∈ items, j.Plain) (hback : ∀ j ∈ items, ReadBack layout j) :
    ReadBack layout (.array items) := by
  intro depth budget rest hbudget _
  cases items with
  | nil => simp [write, readValue, skipBlank_cons (c := '[') rfl, skipBlank_cons (c := ']') rfl]
  | cons item items =>
    simp only [write, List.cons_append, List.append_assoc, List.nil_append, List.length_cons,
      List.length_append] at hbudget ⊢
    obtain ⟨budget, rfl⟩ : ∃ fewer, budget = fewer + 2 := ⟨budget - 2, by omega⟩
    have hitems := readItems_write hlayout depth rest hback budget (by omega) []
    -- the first item does not start like the end of the list
    obtain ⟨c, s, hwrite, hblank, hc⟩ :=
      (hplain item List.mem_cons_self).write_eq_cons layout (depth + 1)
    rw [hwrite, List.cons_append] at hitems ⊢
    rw [readValue, skipBlank_cons (c := '[') rfl]
    simp only [skipBlank_append (hlayout.newline (depth + 1)), skipBlank_cons hblank]
    simpa [hc] using hitems

-- ---------------------------------------------------------------------------
-- Objects
-- ---------------------------------------------------------------------------

/-- The last member of an object ends it. -/
theorem readMembers_last (hlayout : layout.Spaced) (name : String) {value : Json}
    (hvalue : ReadBack layout value) {depth budget : Nat}
    (hbudget : (write layout depth value).length ≤ budget) (done : List (String × Json))
    {gap : List Char} (hgap : Blank gap) (rest : List Char) :
    readMembers (budget + 2) done
        (writeString name ++ (layout.colon ++ (write layout depth value ++
          (gap ++ '\x7d' :: rest))))
      = some (.object ((name, value) :: done).reverse, rest) := by
  obtain ⟨space, hcolon, hspace⟩ := hlayout.colon
  have hclose : Follows (gap ++ '\x7d' :: rest) :=
    hgap.follows_append (follows_cons (by simp) rest)
  have hread := hvalue depth budget _ hbudget hclose
  simp only [writeString, hcolon, List.cons_append, List.append_assoc, List.nil_append]
  rw [readMembers, skipBlank_cons (c := '"') rfl]
  simp only [readStringBody_text, skipBlank_cons (c := ':') rfl, readValue_blank_append hspace,
    hread, skipBlank_append hgap, skipBlank_cons (c := '\x7d') rfl]

/-- A member in front of a comma is followed by another one. -/
theorem readMembers_next (hlayout : layout.Spaced) (name : String) {value : Json}
    (hvalue : ReadBack layout value) {depth budget : Nat}
    (hbudget : (write layout depth value).length ≤ budget) (done : List (String × Json))
    (rest : List Char) :
    readMembers (budget + 2) done
        (writeString name ++ (layout.colon ++ (write layout depth value ++ ',' :: rest)))
      = readMembers (budget + 1) ((name, value) :: done) rest := by
  obtain ⟨space, hcolon, hspace⟩ := hlayout.colon
  have hcomma : Follows (',' :: rest) := follows_cons (by simp) rest
  have hread := hvalue depth budget _ hbudget hcomma
  simp only [writeString, hcolon, List.cons_append, List.append_assoc, List.nil_append]
  rw [readMembers, skipBlank_cons (c := '"') rfl]
  simp only [readStringBody_text, skipBlank_cons (c := ':') rfl, readValue_blank_append hspace,
    hread, skipBlank_cons (c := ',') rfl]

/-- The members of an object, the first one due. -/
theorem readMembers_write (hlayout : layout.Spaced) (depth : Nat) (rest : List Char)
    {name : String} {value : Json} {members : List (String × Json)}
    (hback : ∀ m ∈ (name, value) :: members, ReadBack layout m.2) (budget : Nat)
    (hbudget : (write layout (depth + 1) value).length
      + (writeMembers layout (depth + 1) members).length ≤ budget)
    (done : List (String × Json)) :
    readMembers (budget + 2) done
        (writeString name ++ (layout.colon ++ (write layout (depth + 1) value ++
          (writeMembers layout (depth + 1) members ++ (layout.newline depth ++ '\x7d' :: rest)))))
      = some (.object (done.reverse ++ (name, value) :: members), rest) := by
  have hvalue : ReadBack layout value := hback _ List.mem_cons_self
  induction members generalizing name value budget done with
  | nil =>
    rw [writeMembers, List.nil_append,
      readMembers_last hlayout name hvalue (by omega) done (hlayout.newline depth) rest]
    simp
  | cons next members ih =>
    simp only [writeMembers, List.cons_append, List.append_assoc, List.length_cons,
      List.length_append] at hbudget ⊢
    obtain ⟨budget, rfl⟩ : ∃ fewer, budget = fewer + 1 := ⟨budget - 1, by omega⟩
    have hmembers := ih (fun m hm => hback m (List.mem_cons_of_mem _ hm)) budget (by omega)
      ((name, value) :: done) (hback next (List.mem_cons_of_mem _ List.mem_cons_self))
    rw [readMembers_next hlayout name hvalue (by omega) done,
      readMembers_blank_append (hlayout.newline (depth + 1)), hmembers]
    simp

/-- An object is read back if all of its members are. -/
theorem readBack_object (hlayout : layout.Spaced) {members : List (String × Json)}
    (hback : ∀ m ∈ members, ReadBack layout m.2) :
    ReadBack layout (.object members) := by
  intro depth budget rest hbudget _
  cases members with
  | nil =>
    simp [write, readValue, skipBlank_cons (c := '\x7b') rfl, skipBlank_cons (c := '\x7d') rfl]
  | cons member members =>
    obtain ⟨name, value⟩ := member
    simp only [write, List.cons_append, List.append_assoc, List.nil_append, List.length_cons,
      List.length_append] at hbudget ⊢
    obtain ⟨budget, rfl⟩ : ∃ fewer, budget = fewer + 2 := ⟨budget - 2, by omega⟩
    have hmembers := readMembers_write hlayout depth rest hback budget (by omega) []
    rw [readValue, skipBlank_cons (c := '\x7b') rfl]
    simp only [skipBlank_append (hlayout.newline (depth + 1)), writeString, List.cons_append,
      skipBlank_cons (c := '"') rfl] at hmembers ⊢
    simpa using hmembers

-- ---------------------------------------------------------------------------
-- Documents
-- ---------------------------------------------------------------------------

/-- **The reader inverts the writer.** A plain value in a spaced layout is read back, at every level
and whatever follows it. -/
theorem Plain.readBack (hlayout : layout.Spaced) {j : Json} (hj : j.Plain) :
    ReadBack layout j := by
  induction hj with
  | null => exact readBack_null
  | bool b => exact readBack_bool b
  | number n => exact readBack_ofNat n
  | string text => exact readBack_string text
  | array items hplain ih => exact readBack_array hlayout hplain ih
  | object members _ ih => exact readBack_object hlayout ih

/-- A whole document is read back in any layout that only adds white space. -/
theorem Plain.read?_write (hlayout : layout.Spaced) {j : Json} (hj : j.Plain) :
    read? (String.ofList (write layout 0 j)) = some j := by
  have hvalue := hj.readBack hlayout 0 (2 * (write layout 0 j).length + 1) [] (by omega) follows_nil
  rw [List.append_nil] at hvalue
  simp [read?, hvalue, skipBlank]

/-- A document in the pretty layout is read back. -/
theorem Plain.read?_pretty {j : Json} (hj : j.Plain) : read? j.pretty = some j :=
  hj.read?_write Layout.spaced_pretty

end TableSchema.Json
