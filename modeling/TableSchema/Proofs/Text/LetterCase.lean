import Mathlib.Data.Nat.ModEq
import TableSchema.Text.LetterCase

/-!
# Upper and lower case

What the tables of letters say about each other. No letter has both cases, and an upper-case letter is
lowered to one lower-case letter, with two exceptions: `İ` becomes two characters, and some capitals,
such as the mathematical ones, have no lower-case form and stay as they are. The tables are compared
run by run, so that no fact about single characters has to be looked up.

* `CodeRun.apart`, `CodeRun.within` — how two runs may lie to each other.
* `not_isLowercase_of_isUppercase` — the two cases exclude each other.
* `toLowercase_of_isUppercase` — the three ways in which an upper-case letter is lowered.
* `isUppercase_of_isUpper`, `toLowercase_of_isUpper` — the letters of ASCII.
-/

namespace TableSchema.Text

-- ---------------------------------------------------------------------------
-- Runs
-- ---------------------------------------------------------------------------

namespace CodeRun

/-- A run holds every so many codes between its ends. -/
theorem contains_iff {r : CodeRun} {n : Nat} :
    r.contains n = true ↔ r.first ≤ n ∧ n ≤ r.last ∧ (n - r.first) % r.stride = 0 := by
  simp [contains, and_assoc]

/-- Every code point of `r` leaves the same remainder by `m`. -/
def keepsRemainder (r : CodeRun) (m : Nat) : Bool :=
  r.first == r.last || r.stride % m == 0

/-- Two runs without a common code point: one ends before the other begins, or their steps keep them
off each other. -/
def apart (r s : CodeRun) : Bool :=
  r.last.blt s.first || s.last.blt r.first ||
    r.keepsRemainder s.stride && r.first % s.stride != s.first % s.stride

/-- All code points of the first run lie on the second. -/
def within (r s : CodeRun) : Bool :=
  s.first.ble r.first && r.last.ble s.last &&
    (r.keepsRemainder s.stride && r.first % s.stride == s.first % s.stride)

/-- All codes of a run have the remainder of its first one, if its stride is a multiple of the
divisor or it is a single code. -/
theorem mod_eq_of_keepsRemainder {r : CodeRun} {n m : Nat} (hn : r.contains n = true)
    (hm : r.keepsRemainder m = true) : n % m = r.first % m := by
  obtain ⟨hfirst, hlast, hstep⟩ := contains_iff.mp hn
  rw [keepsRemainder, Bool.or_eq_true, beq_iff_eq, beq_iff_eq] at hm
  rcases hm with hsingle | hcoarse
  · rw [show n = r.first by omega]
  · have hdvd : m ∣ n - r.first :=
      dvd_trans (Nat.dvd_of_mod_eq_zero hcoarse) (Nat.dvd_of_mod_eq_zero hstep)
    exact ((Nat.modEq_iff_dvd' hfirst).mpr hdvd).symm

/-- All codes of a run have the same remainder by its stride. -/
theorem mod_stride_eq {r : CodeRun} {n : Nat} (hn : r.contains n = true) :
    n % r.stride = r.first % r.stride :=
  mod_eq_of_keepsRemainder hn (by simp [keepsRemainder])

/-- Runs that are apart have no code in common. -/
theorem contains_eq_false_of_apart {r s : CodeRun} {n : Nat} (h : r.apart s = true)
    (hr : r.contains n = true) : s.contains n = false := by
  rw [Bool.eq_false_iff]
  intro hs
  obtain ⟨hr₁, hr₂, -⟩ := contains_iff.mp hr
  obtain ⟨hs₁, hs₂, -⟩ := contains_iff.mp hs
  simp only [apart, Bool.or_eq_true, Bool.and_eq_true, Nat.blt_eq, bne_iff_ne] at h
  rcases h with (hbefore | hbehind) | ⟨hkeeps, hne⟩
  · omega
  · omega
  · exact hne ((mod_eq_of_keepsRemainder hr hkeeps).symm.trans (mod_stride_eq hs))

/-- A run within another one holds only codes of that one. -/
theorem contains_of_within {r s : CodeRun} {n : Nat} (h : r.within s = true)
    (hr : r.contains n = true) : s.contains n = true := by
  obtain ⟨hfirst, hlast, -⟩ := contains_iff.mp hr
  simp only [within, Bool.and_eq_true, Nat.ble_eq, beq_iff_eq] at h
  obtain ⟨⟨hleft, hright⟩, hkeeps, hsame⟩ := h
  have hmod : s.first ≡ n [MOD s.stride] := ((mod_eq_of_keepsRemainder hr hkeeps).trans hsame).symm
  exact contains_iff.mpr ⟨by omega, by omega,
    Nat.mod_eq_zero_of_dvd ((Nat.modEq_iff_dvd' (by omega)).mp hmod)⟩

end CodeRun

/-- The run of the lower-case letters that belong to a run of upper-case ones. -/
def UpperRun.lowered (u : UpperRun) : CodeRun :=
  ⟨(u.run.first + u.shift).toNat, (u.run.last + u.shift).toNat, u.run.stride⟩

/-- The small letters of a run of capitals lie in the shifted run. -/
theorem UpperRun.lowered_contains {u : UpperRun} {n : Nat} (hn : u.run.contains n = true)
    (hpos : 0 < u.lowered.first) : u.lowered.contains (n + u.shift).toNat = true := by
  obtain ⟨hfirst, hlast, hstep⟩ := CodeRun.contains_iff.mp hn
  have hpos' : 0 < (u.run.first + u.shift).toNat := hpos
  have hdistance : (n + u.shift).toNat - (u.run.first + u.shift).toNat = n - u.run.first := by omega
  have hlow : (u.run.first + u.shift).toNat ≤ (n + u.shift).toNat := by omega
  have hhigh : (n + u.shift).toNat ≤ (u.run.last + u.shift).toNat := by omega
  rw [← hdistance] at hstep
  exact CodeRun.contains_iff.mpr ⟨hlow, hhigh, hstep⟩

-- ---------------------------------------------------------------------------
-- The tables
-- ---------------------------------------------------------------------------

/-- The tables of capitals and small letters are apart, checked run by run. -/
theorem upperRuns_apart_lowerRuns :
    (upperRuns.all fun u => lowerRuns.all u.run.apart) = true := by
  decide +kernel

/-- Capitals that change at all change into lower-case letters. -/
theorem upperRuns_lowered_within_lowerRuns :
    (upperRuns.all fun u => u.shift == 0 || lowerRuns.any u.lowered.within) = true := by
  decide +kernel

/-- The codes of small letters are codes of characters. -/
theorem lowerRuns_valid :
    ∀ r ∈ lowerRuns, r.last < 0xD800 ∨ 0xDFFF < r.first ∧ r.last < 0x110000 := by
  decide +kernel

/-- All small letters come behind the digits. -/
theorem lowerRuns_behind_digits : ∀ r ∈ lowerRuns, '9'.toNat < r.first := by
  decide +kernel

/-- All capitals come behind the digits. -/
theorem upperRuns_behind_digits : ∀ u ∈ upperRuns, '9'.toNat < u.run.first := by
  decide +kernel

-- ---------------------------------------------------------------------------
-- Letters
-- ---------------------------------------------------------------------------

/-- The run that is found for a capital is one of the table and holds it. -/
theorem contains_of_upperRun? {c : Char} {u : UpperRun} (h : upperRun? c = some u) :
    u ∈ upperRuns ∧ u.run.contains c.toNat = true :=
  ⟨List.mem_of_find?_eq_some h, by simpa using List.find?_some h⟩

/-- The capitals are the characters that have a run in the table. -/
theorem isUppercase_iff {c : Char} : isUppercase c = true ↔ ∃ u, upperRun? c = some u :=
  Option.isSome_iff_exists

/-- No capital is a small letter. -/
theorem not_isLowercase_of_isUppercase {c : Char} (h : isUppercase c = true) :
    isLowercase c = false := by
  obtain ⟨u, hu⟩ := isUppercase_iff.mp h
  obtain ⟨hmem, hc⟩ := contains_of_upperRun? hu
  rw [isLowercase, List.any_eq_false]
  intro l hl
  have hapart := List.all_eq_true.mp (List.all_eq_true.mp upperRuns_apart_lowerRuns u hmem) l hl
  rw [CodeRun.contains_eq_false_of_apart hapart hc]
  exact Bool.false_ne_true

/-- No small letter is a capital. -/
theorem not_isUppercase_of_isLowercase {c : Char} (h : isLowercase c = true) :
    isUppercase c = false := by
  rw [Bool.eq_false_iff]
  intro hupper
  rw [not_isLowercase_of_isUppercase hupper] at h
  cases h

/-- No digit is a capital. -/
theorem not_isUppercase_of_isDigit {c : Char} (h : c.isDigit = true) : isUppercase c = false := by
  rw [Bool.eq_false_iff]
  intro hupper
  obtain ⟨u, hu⟩ := isUppercase_iff.mp hupper
  obtain ⟨hmem, hc⟩ := contains_of_upperRun? hu
  have hbehind := upperRuns_behind_digits u hmem
  have hfirst := (CodeRun.contains_iff.mp hc).1
  have hdigit := (Char.isDigit_iff_toNat.mp h).2
  omega

/-- No digit is a small letter. -/
theorem not_isLowercase_of_isDigit {c : Char} (h : c.isDigit = true) : isLowercase c = false := by
  rw [Bool.eq_false_iff]
  intro hlower
  obtain ⟨r, hr, hc⟩ := List.any_eq_true.mp hlower
  have hbehind := lowerRuns_behind_digits r hr
  have hfirst := (CodeRun.contains_iff.mp hc).1
  have hdigit := (Char.isDigit_iff_toNat.mp h).2
  omega

/-- The code of a small letter is the code of its character. -/
theorem toNat_ofNat_of_contains {r : CodeRun} {n : Nat} (hr : r ∈ lowerRuns)
    (hn : r.contains n = true) : (Char.ofNat n).toNat = n := by
  obtain ⟨hfirst, hlast, -⟩ := CodeRun.contains_iff.mp hn
  have hvalid := lowerRuns_valid r hr
  have hchar : n.isValidChar := by
    rw [Nat.isValidChar]
    omega
  rw [Char.ofNat, dif_pos hchar]
  rfl

/-- An upper-case letter has no lower-case form, or it is `İ`, or it becomes one lower-case letter. -/
theorem toLowercase_of_isUppercase {c : Char} (h : isUppercase c = true) :
    toLowercase c = [c] ∨ c = 'İ' ∨ ∃ l, toLowercase c = [l] ∧ isLowercase l = true := by
  by_cases hdotted : c = 'İ'
  · exact .inr (.inl hdotted)
  obtain ⟨u, hu⟩ := isUppercase_iff.mp h
  obtain ⟨hmem, hc⟩ := contains_of_upperRun? hu
  have hlowered : toLowercase c = [Char.ofNat (c.toNat + u.shift).toNat] := by
    rw [toLowercase, if_neg hdotted, hu]
    rfl
  have htable := List.all_eq_true.mp upperRuns_lowered_within_lowerRuns u hmem
  rw [Bool.or_eq_true, beq_iff_eq] at htable
  rcases htable with hstays | hmoves
  · left
    rw [hlowered, hstays, add_zero, Int.toNat_natCast, Char.ofNat_toNat]
  · obtain ⟨l, hl, hwithin⟩ := List.any_eq_true.mp hmoves
    have hpos : 0 < u.lowered.first := by
      have hbehind := lowerRuns_behind_digits l hl
      simp only [CodeRun.within, Bool.and_eq_true, Nat.ble_eq] at hwithin
      omega
    have hcontains := CodeRun.contains_of_within hwithin (u.lowered_contains hc hpos)
    refine .inr (.inr ⟨_, hlowered, ?_⟩)
    rw [isLowercase, List.any_eq_true]
    exact ⟨l, hl, by rw [toNat_ofNat_of_contains hl hcontains, hcontains]⟩

-- ---------------------------------------------------------------------------
-- ASCII
-- ---------------------------------------------------------------------------

/-- The capitals of the alphabet by their codes. -/
theorem isUpper_iff {c : Char} : c.isUpper = true ↔ 0x41 ≤ c.toNat ∧ c.toNat ≤ 0x5A :=
  decide_eq_true_iff

/-- The small letters of the alphabet by their codes. -/
theorem isLower_iff {c : Char} : c.isLower = true ↔ 0x61 ≤ c.toNat ∧ c.toNat ≤ 0x7A :=
  Bool.and_eq_true_iff.trans (and_congr decide_eq_true_iff decide_eq_true_iff)

/-- The capitals of the alphabet are capitals. -/
theorem isUppercase_of_isUpper {c : Char} (h : c.isUpper = true) : isUppercase c = true := by
  obtain ⟨hlow, hhigh⟩ := isUpper_iff.mp h
  rw [isUppercase, upperRun?, upperRuns, List.find?_cons_of_pos]
  · rfl
  · exact CodeRun.contains_iff.mpr ⟨hlow, hhigh, Nat.mod_one _⟩

/-- The small letters of the alphabet are small letters. -/
theorem isLowercase_of_isLower {c : Char} (h : c.isLower = true) : isLowercase c = true := by
  obtain ⟨hlow, hhigh⟩ := isLower_iff.mp h
  rw [isLowercase, lowerRuns, List.any_cons, Bool.or_eq_true]
  exact .inl (CodeRun.contains_iff.mpr ⟨hlow, hhigh, Nat.mod_one _⟩)

/-- Within the alphabet both ways to find the small form agree. -/
theorem toLowercase_of_isUpper {c : Char} (h : c.isUpper = true) : toLowercase c = [c.toLower] := by
  have hall : ∀ n ≤ 0x5A, 0x41 ≤ n → toLowercase (Char.ofNat n) = [(Char.ofNat n).toLower] := by
    decide +kernel
  obtain ⟨hlow, hhigh⟩ := isUpper_iff.mp h
  have hc := hall c.toNat hhigh hlow
  rwa [Char.ofNat_toNat] at hc

end TableSchema.Text
