import TableSchema.Proofs.Except
import TableSchema.Tag.Literal

/-!
# What literals spell

Which texts are truth values and which are numbers, and what they are worth. A number is read digit by
digit and given up as soon as it is too large; since digits only make it larger, that is the same as to
look at its value when all of it has been read.

* `spellings`, `readBool_eq_some_iff` — truth values.
* `Spells` — a text is a number in decimal, perhaps with a plus sign.
* `readDigits_eq_ok_iff`, `readNumber_eq_ok_iff`, `readWord_eq_ok_iff` — numbers that are read.
* `leadingDigits`, `numberFault`, `readWord_eq_error_iff` — texts that are not, and what is wrong with
  them.
-/

namespace TableSchema

-- ---------------------------------------------------------------------------
-- Truth values
-- ---------------------------------------------------------------------------

/-- The spellings of a truth value. -/
def spellings : Bool → List String
  | true => ["1", "t", "T", "true", "TRUE", "True"]
  | false => ["0", "f", "F", "false", "FALSE", "False"]

/-- A truth value is read exactly from its spellings. -/
theorem readBool_eq_some_iff {s : String} {b : Bool} : readBool s = some b ↔ s ∈ spellings b := by
  have hdisjoint : ∀ s ∈ spellings true, s ∉ spellings false := by decide
  have hread : readBool s =
      if s ∈ spellings true then some true else if s ∈ spellings false then some false else none := rfl
  rw [hread]
  by_cases hyes : s ∈ spellings true
  · have hno := hdisjoint s hyes
    cases b <;> simp [hyes, hno]
  · by_cases hno : s ∈ spellings false
    · cases b <;> simp [hyes, hno]
    · cases b <;> simp [hyes, hno]

theorem readBool_eq_none_iff {s : String} : readBool s = none ↔ ∀ b, s ∉ spellings b := by
  constructor
  · intro h b hmem
    rw [readBool_eq_some_iff.mpr hmem] at h
    cases h
  · intro h
    cases hread : readBool s with
    | none => rfl
    | some b => exact absurd (readBool_eq_some_iff.mp hread) (h b)

-- ---------------------------------------------------------------------------
-- Numbers
-- ---------------------------------------------------------------------------

/-- The text is the number `n` in decimal: at least one digit, and perhaps a plus sign in front. -/
def Spells (s : List Char) (n : Nat) : Prop :=
  ∃ digits, digits ≠ [] ∧ (∀ c ∈ digits, c.isDigit = true) ∧ (s = digits ∨ s = '+' :: digits) ∧
    Text.digitsValue 0 digits = n

theorem Spells.digitsValue_filter {s : List Char} {n : Nat} (h : Spells s n) :
    Text.digitsValue 0 (s.filter Char.isDigit) = n := by
  obtain ⟨digits, -, hdigits, hs, hn⟩ := h
  have hfilter : digits.filter Char.isDigit = digits := List.filter_eq_self.mpr hdigits
  rcases hs with rfl | rfl
  · rw [hfilter, hn]
  · rw [List.filter_cons_of_neg (by decide), hfilter, hn]

/-- Further digits never make a number smaller. -/
theorem le_digitsValue (acc : Nat) (digits : List Char) : acc ≤ Text.digitsValue acc digits := by
  induction digits generalizing acc with
  | nil => exact Nat.le_refl acc
  | cons c rest ih =>
    calc acc ≤ acc * 10 + Text.digitValue c := by omega
      _ ≤ Text.digitsValue acc (c :: rest) := ih _

/-- Giving up at the first digit too many is the same as looking at the whole value. -/
theorem readDigits_eq_ok_iff {bound acc n : Nat} {s : List Char} (hacc : acc < bound) :
    readDigits bound acc s = .ok n ↔
      (∀ c ∈ s, c.isDigit = true) ∧ Text.digitsValue acc s = n ∧ n < bound := by
  induction s generalizing acc with
  | nil =>
    have hvalue : Text.digitsValue acc [] = acc := rfl
    rw [readDigits, Except.ok.injEq, hvalue]
    constructor
    · rintro rfl
      exact ⟨by simp, rfl, hacc⟩
    · rintro ⟨-, hn, -⟩
      exact hn
  | cons c rest ih =>
    have hvalue : Text.digitsValue acc (c :: rest) =
        Text.digitsValue (acc * 10 + Text.digitValue c) rest := rfl
    rw [readDigits, List.forall_mem_cons, hvalue]
    by_cases hc : c.isDigit = true
    · rw [if_pos hc]
      dsimp only
      by_cases hsmall : acc * 10 + Text.digitValue c < bound
      · rw [if_pos hsmall, ih hsmall]
        simp [hc]
      · -- the value so far is too large already, and it only grows
        have hgrows := le_digitsValue (acc * 10 + Text.digitValue c) rest
        rw [if_neg hsmall]
        constructor
        · intro h
          cases h
        · rintro ⟨-, hn, hlt⟩
          omega
    · rw [if_neg hc]
      simp [hc]

/-- A number is read exactly from what spells it, if it is below the bound. -/
theorem readNumber_eq_ok_iff {bound n : Nat} {s : List Char} (hbound : 0 < bound) :
    readNumber bound s = .ok n ↔ Spells s n ∧ n < bound := by
  have hplus : ('+' : Char).isDigit = false := by decide
  fun_cases readNumber bound s with
  | case1 =>
    constructor
    · intro h
      cases h
    · rintro ⟨⟨digits, hne, -, hs, -⟩, -⟩
      rcases hs with rfl | hs
      · exact absurd rfl hne
      · cases hs
  | case2 =>
    constructor
    · intro h
      cases h
    · rintro ⟨⟨digits, hne, hdigits, hs, -⟩, -⟩
      rcases hs with rfl | hs
      · simp [hplus] at hdigits
      · exact absurd (List.cons.inj hs).2.symm hne
  | case3 digits hne =>
    rw [readDigits_eq_ok_iff hbound]
    constructor
    · rintro ⟨hdigits, hn, hlt⟩
      exact ⟨⟨digits, fun hnil => hne (by rw [hnil]), hdigits, .inr rfl, hn⟩, hlt⟩
    · rintro ⟨⟨digits', -, hdigits', hs, hn⟩, hlt⟩
      rcases hs with rfl | hs
      · simp [hplus] at hdigits'
      · rw [(List.cons.inj hs).2]
        exact ⟨hdigits', hn, hlt⟩
  | case4 _ hnil hlone hsign =>
    rw [readDigits_eq_ok_iff hbound]
    constructor
    · rintro ⟨hdigits, hn, hlt⟩
      exact ⟨⟨s, hnil, hdigits, .inl rfl, hn⟩, hlt⟩
    · rintro ⟨⟨digits, -, hdigits, hs, hn⟩, hlt⟩
      rcases hs with rfl | hs
      · exact ⟨hdigits, hn, hlt⟩
      · exact absurd hs (hsign digits)

/-- A word is read from exactly the texts that spell it. -/
theorem readWord_eq_ok_iff {s : String} {word : UInt32} :
    readWord s = .ok word ↔ Spells s.toList word.toNat := by
  rw [readWord, map_eq_ok_iff]
  constructor
  · rintro ⟨n, hn, rfl⟩
    obtain ⟨hspells, hlt⟩ := (readNumber_eq_ok_iff (by decide)).mp hn
    rwa [UInt32.toNat_ofNat_of_lt' hlt]
  · intro h
    exact ⟨word.toNat, (readNumber_eq_ok_iff (by decide)).mpr ⟨h, word.toNat_lt_size⟩,
      UInt32.ofNat_toNat⟩

-- ---------------------------------------------------------------------------
-- What is wrong with a text that is no number
-- ---------------------------------------------------------------------------

/-- The text behind its plus sign, if it has one. -/
def withoutPlus : List Char → List Char
  | '+' :: rest => rest
  | s => s

/-- The digits that a text starts with, behind its plus sign if it has one. -/
def leadingDigits (s : List Char) : List Char :=
  (withoutPlus s).takeWhile Char.isDigit

/-- What is wrong with a text that is not a number below the bound. -/
def numberFault (bound : Nat) (s : List Char) : NumberFault :=
  if s = [] then .empty
  else if bound ≤ Text.digitsValue 0 (leadingDigits s) then .tooLarge
  else .invalidDigit

/-- That there is nothing to read is the fault of the empty text alone. -/
theorem numberFault_eq_empty_iff {bound : Nat} {s : List Char} :
    numberFault bound s = .empty ↔ s = [] := by
  unfold numberFault
  split_ifs <;> simp_all

/-- A number is too large exactly if its leading digits alone reach the bound. -/
theorem numberFault_eq_tooLarge_iff {bound : Nat} {s : List Char} (hbound : 0 < bound) :
    numberFault bound s = .tooLarge ↔ bound ≤ Text.digitsValue 0 (leadingDigits s) := by
  unfold numberFault
  split_ifs with hempty hlarge
  · -- no digits are worth nothing
    have hzero : Text.digitsValue 0 (leadingDigits s) = 0 := by
      rw [hempty]
      rfl
    constructor
    · intro h
      cases h
    · intro h
      omega
  · simp [hlarge]
  · simp [hlarge]

/-- A digit is invalid exactly if the digits in front of it stay below the bound. -/
theorem numberFault_eq_invalidDigit_iff {bound : Nat} {s : List Char} :
    numberFault bound s = .invalidDigit ↔
      s ≠ [] ∧ Text.digitsValue 0 (leadingDigits s) < bound := by
  unfold numberFault
  split_ifs <;> simp_all

/-- The messages of the three faults tell them apart. -/
theorem NumberFault.message_inj {fault other : NumberFault} :
    fault.message = other.message ↔ fault = other := by
  cases fault <;> cases other <;> simp [NumberFault.message]

/-- A number is too large as soon as its leading digits are, whatever follows them; and a character that
is no digit counts only if they are not. -/
theorem fault_of_readDigits {bound acc : Nat} {s : List Char} {fault : NumberFault}
    (hacc : acc < bound) (h : readDigits bound acc s = .error fault) :
    fault = if bound ≤ Text.digitsValue acc (s.takeWhile Char.isDigit) then .tooLarge
      else .invalidDigit := by
  induction s generalizing acc with
  | nil => cases h
  | cons c rest ih =>
    rw [readDigits] at h
    by_cases hc : c.isDigit = true
    · have hvalue : Text.digitsValue acc ((c :: rest).takeWhile Char.isDigit) =
          Text.digitsValue (acc * 10 + Text.digitValue c) (rest.takeWhile Char.isDigit) := by
        rw [List.takeWhile_cons_of_pos hc]
        rfl
      rw [if_pos hc] at h
      dsimp only at h
      rw [hvalue]
      by_cases hsmall : acc * 10 + Text.digitValue c < bound
      · rw [if_pos hsmall] at h
        exact ih hsmall h
      · -- the digits that follow cannot make it fit again
        have hgrows := le_digitsValue (acc * 10 + Text.digitValue c) (rest.takeWhile Char.isDigit)
        rw [if_neg hsmall] at h
        rw [if_pos (by omega)]
        exact (Except.error.inj h).symm
    · have hvalue : Text.digitsValue acc ((c :: rest).takeWhile Char.isDigit) = acc := by
        rw [List.takeWhile_cons_of_neg hc]
        rfl
      rw [if_neg hc] at h
      rw [hvalue, if_neg (by omega)]
      exact (Except.error.inj h).symm

theorem fault_of_readNumber {bound : Nat} {s : List Char} {fault : NumberFault} (hbound : 0 < bound)
    (h : readNumber bound s = .error fault) : fault = numberFault bound s := by
  have hnone : ¬ bound ≤ Text.digitsValue 0 (leadingDigits ['+']) := by
    show ¬ bound ≤ 0
    omega
  revert h
  fun_cases readNumber bound s with
  | case1 =>
    intro h
    rw [numberFault, if_pos rfl]
    exact (Except.error.inj h).symm
  | case2 =>
    intro h
    rw [numberFault, if_neg (List.cons_ne_nil _ _), if_neg hnone]
    exact (Except.error.inj h).symm
  | case3 digits hne =>
    intro h
    rw [numberFault, if_neg (List.cons_ne_nil _ _)]
    exact fault_of_readDigits hbound h
  | case4 _ hnil hlone hsign =>
    intro h
    have hplus : withoutPlus s = s := by
      unfold withoutPlus
      split
      · next rest => exact absurd rfl (hsign rest)
      · rfl
    rw [numberFault, if_neg hnil, leadingDigits, hplus]
    exact fault_of_readDigits hbound h

/-- A text that spells no word has one thing wrong with it. -/
theorem readWord_eq_error_iff {s : String} {fault : NumberFault} :
    readWord s = .error fault ↔
      (¬ ∃ n, Spells s.toList n ∧ n < UInt32.size) ∧ fault = numberFault UInt32.size s.toList := by
  rw [readWord, map_eq_error_iff]
  constructor
  · intro h
    refine ⟨?_, fault_of_readNumber (by decide) h⟩
    rintro ⟨n, hn⟩
    rw [(readNumber_eq_ok_iff (by decide)).mpr hn] at h
    cases h
  · rintro ⟨hnot, rfl⟩
    cases hread : readNumber UInt32.size s.toList with
    | ok n => exact absurd ⟨n, (readNumber_eq_ok_iff (by decide)).mp hread⟩ hnot
    | error fault => rw [fault_of_readNumber (by decide) hread]

-- what comes first counts: the digit that is one too many, or the letter
example : readWord "4294967296x" = .error .tooLarge := by decide +kernel
example : readWord "429496729x6" = .error .invalidDigit := by decide +kernel

end TableSchema
