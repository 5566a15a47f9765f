import TableSchema.Proofs.Naming.Words

/-!
# Names derived from derived names

A derived name usually is its own derived name. The exception is a capital that has no lower-case form
and stays in the name: the characters around it may have changed their case, so that a word starts at
it which did not start there before. It happens once at most.

* `StaysCapital` — capitals without a lower-case form.
* `StartsLate` — a place in an identifier where a word starts only in the derived name.
* `snakeAfter_snakeAfter_eq_iff` — deriving anew changes nothing exactly if there is no such place.
* `snakeCase_snakeCase` — when a derived name is its own derived name, and that a name derived twice
  always is.
-/

namespace TableSchema

open Text

-- ---------------------------------------------------------------------------
-- Capitals that stay
-- ---------------------------------------------------------------------------

/-- A capital without a lower-case form. -/
def StaysCapital (c : Char) : Prop :=
  isUppercase c = true ∧ toLowercase c = [c]

instance : DecidablePred StaysCapital :=
  fun _ => inferInstanceAs (Decidable (_ ∧ _))

/-- The last character of what a character becomes. -/
def lastLowered (c : Char) : Char :=
  (lowered c).getLastD c

theorem lowered_dotted : lowered 'İ' = ['i', '\u0307'] := by
  decide +kernel

/-- Every other capital than those that stay, and `İ`, becomes one lower-case letter. -/
theorem lowered_of_not_staysCapital {c : Char} (h : isUppercase c = true) (hnot : ¬ StaysCapital c)
    (hdotted : c ≠ 'İ') : ∃ l, lowered c = [l] ∧ isLowercase l = true := by
  rw [lowered_of_isUppercase h]
  rcases toLowercase_of_isUppercase h with hstays | hd | hlowered
  · exact absurd ⟨h, hstays⟩ hnot
  · exact absurd hd hdotted
  · exact hlowered

/-- The dotted capital has a small form, of two characters. -/
theorem not_staysCapital_dotted : ¬ StaysCapital 'İ' := by
  decide +kernel

/-- A capital without a small form is kept as it is. -/
theorem lowered_of_staysCapital {c : Char} (h : StaysCapital c) : lowered c = [c] := by
  rw [lowered_of_isUppercase h.1, h.2]

/-- A capital in what a character becomes is one that stays. -/
theorem staysCapital_of_mem_lowered {c e : Char} (he : e ∈ lowered c) (hupper : isUppercase e = true) :
    StaysCapital e ∧ e = c := by
  have hsmall : ∀ x ∈ ['i', '\u0307'], isUppercase x = false :=
    List.forall_mem_cons.mpr ⟨by decide +kernel, List.forall_mem_singleton.mpr (by decide +kernel)⟩
  by_cases hc : isUppercase c = true
  · by_cases hstays : StaysCapital c
    · rw [lowered_of_staysCapital hstays, List.mem_singleton] at he
      exact ⟨he ▸ hstays, he⟩
    · by_cases hdotted : c = 'İ'
      · rw [hdotted, lowered_dotted] at he
        rw [hsmall e he] at hupper
        cases hupper
      · obtain ⟨l, hl, hlower⟩ := lowered_of_not_staysCapital hc hstays hdotted
        rw [hl, List.mem_singleton] at he
        rw [he, not_isUppercase_of_isLowercase hlower] at hupper
        cases hupper
  · rw [lowered_of_not_isUppercase (Bool.eq_false_iff.mpr hc), List.mem_singleton] at he
    exact absurd (he ▸ hupper) hc

/-- No character is lost. -/
theorem lowered_ne_nil (c : Char) : lowered c ≠ [] := by
  by_cases hc : isUppercase c = true
  · rw [lowered_of_isUppercase hc]
    rcases toLowercase_of_isUppercase hc with hstays | rfl | ⟨l, hl, -⟩
    · simp [hstays]
    · decide
    · simp [hl]
  · rw [lowered_of_not_isUppercase (Bool.eq_false_iff.mpr hc)]
    exact List.cons_ne_nil _ _

-- ---------------------------------------------------------------------------
-- Passing over what stays
-- ---------------------------------------------------------------------------

/-- What a character ends with does not depend on what stands in front of it. -/
theorem getLastD_lowered (q c : Char) : (lowered c).getLastD q = lastLowered c := by
  obtain ⟨first, more, hc⟩ := List.exists_cons_of_ne_nil (lowered_ne_nil c)
  rw [lastLowered, hc, List.getLastD_cons, List.getLastD_cons]

theorem lastLowered_of_singleton {c l : Char} (h : lowered c = [l]) : lastLowered c = l := by
  rw [lastLowered, h]
  rfl

/-- A separator is no capital. -/
theorem not_isUppercase_of_mem_separator {p c e : Char} {next : Option Char}
    (he : e ∈ separator p c next) : isUppercase e = false := by
  rw [separator] at he
  split at he
  · rw [List.mem_singleton.mp he]
    decide +kernel
  · exact absurd he List.not_mem_nil

/-- A capital with a small form leaves no capital behind. -/
theorem not_isUppercase_of_mem_lowered {c e : Char} (hc : ¬ StaysCapital c) (he : e ∈ lowered c) :
    isUppercase e = false := by
  rw [Bool.eq_false_iff]
  intro hupper
  obtain ⟨hstays, rfl⟩ := staysCapital_of_mem_lowered he hupper
  exact hc hstays

/-- A separator and what became of a character are passed over, unless the character stayed a
capital. -/
theorem snakeAfter_separator_lowered {q p c : Char} {next : Option Char} (hc : ¬ StaysCapital c)
    (rest : List Char) :
    snakeAfter (some q) (separator p c next ++ (lowered c ++ rest)) =
      separator p c next ++ (lowered c ++ snakeAfter (some (lastLowered c)) rest) := by
  have hrun : ∀ e ∈ separator p c next ++ lowered c, isUppercase e = false := by
    intro e he
    rcases List.mem_append.mp he with hseparator | hlowered
    · exact not_isUppercase_of_mem_separator hseparator
    · exact not_isUppercase_of_mem_lowered hc hlowered
  have hlast : (separator p c next ++ lowered c).getLastD q = lastLowered c := by
    rw [List.getLastD_eq_getLast?, List.getLast?_append_of_ne_nil _ (lowered_ne_nil c),
      ← List.getLastD_eq_getLast?, getLastD_lowered]
  rw [← List.append_assoc, snakeAfter_run hrun, hlast, List.append_assoc]

/-- Nothing is put in front of the first character. -/
theorem snakeAfter_none_lowered (c : Char) (rest : List Char) :
    snakeAfter none (lowered c ++ rest) = lowered c ++ snakeAfter (some (lastLowered c)) rest := by
  by_cases hc : StaysCapital c
  · have hlowered := lowered_of_staysCapital hc
    rw [hlowered, List.singleton_append, snakeAfter_none_cons, hlowered,
      lastLowered_of_singleton hlowered]
  · obtain ⟨first, more, hlowered⟩ := List.exists_cons_of_ne_nil (lowered_ne_nil c)
    have hrun : ∀ e ∈ first :: more, isUppercase e = false := fun e he =>
      not_isUppercase_of_mem_lowered hc (hlowered ▸ he)
    obtain ⟨hfirst, hmore⟩ := List.forall_mem_cons.mp hrun
    rw [lastLowered, hlowered, List.cons_append, snakeAfter_none_cons,
      lowered_of_not_isUppercase hfirst, snakeAfter_run hmore, List.getLastD_cons]
    rfl

-- ---------------------------------------------------------------------------
-- Late words
-- ---------------------------------------------------------------------------

/-- In the text `p :: c :: rest` no word starts at `c`, but one does when its neighbours are lowered:
`c` stays a capital; and `p` becomes a small letter, or else it stays a capital too and the capital
behind `c` becomes a small letter that has no separator in front. -/
def StartsLate (p c : Char) (rest : List Char) : Prop :=
  StaysCapital c ∧ isUppercase p = true ∧ rest.head?.any isLowercase = false ∧
    (¬ StaysCapital p ∧ p ≠ 'İ' ∨
      StaysCapital p ∧ ∃ n more, rest = n :: more ∧ isUppercase n = true ∧ ¬ StaysCapital n ∧
        more.head?.any isLowercase = false)

/-- A capital starts with a small letter in its small form, if it has one. -/
theorem head?_lowered_isLowercase_iff {c : Char} (h : isUppercase c = true) :
    (lowered c).head?.any isLowercase = true ↔ ¬ StaysCapital c := by
  by_cases hstays : StaysCapital c
  · simp [lowered_of_staysCapital hstays, not_isLowercase_of_isUppercase h, hstays]
  · by_cases hdotted : c = 'İ'
    · have hi : isLowercase 'i' = true := isLowercase_of_isLower (by decide)
      simp [hdotted, lowered_dotted, hi, not_staysCapital_dotted]
    · obtain ⟨l, hl, hlower⟩ := lowered_of_not_staysCapital h hstays hdotted
      simp [hl, hlower, hstays]

/-- It ends with a small letter too, unless it is the dotted capital, whose dot is none. -/
theorem isLowercase_lastLowered_iff {c : Char} (h : isUppercase c = true) :
    isLowercase (lastLowered c) = true ↔ ¬ StaysCapital c ∧ c ≠ 'İ' := by
  by_cases hstays : StaysCapital c
  · rw [lastLowered_of_singleton (lowered_of_staysCapital hstays), not_isLowercase_of_isUppercase h]
    simp [hstays]
  · by_cases hdotted : c = 'İ'
    · have hdot : isLowercase '\u0307' = false := by decide +kernel
      simp [hdotted, lastLowered, lowered_dotted, hdot]
    · obtain ⟨l, hl, hlower⟩ := lowered_of_not_staysCapital h hstays hdotted
      rw [lastLowered_of_singleton hl, hlower]
      simp [hstays, hdotted]

/-- When a derived name goes on with a small letter where the identifier did not. -/
theorem head?_snakeAfter_isLowercase_iff {c : Char} {s : List Char} (hc : isUppercase c = true)
    (hs : s.head?.any isLowercase = false) :
    (snakeAfter (some c) s).head?.any isLowercase = true ↔
      ∃ n more, s = n :: more ∧ isUppercase n = true ∧ ¬ StaysCapital n ∧
        more.head?.any isLowercase = false := by
  cases s with
  | nil => simp [snakeAfter]
  | cons n more =>
    have hn : isLowercase n = false := hs
    have hunderscore : isLowercase '_' = false := by decide +kernel
    rw [snakeAfter_cons, separator, startsWord_of_isUppercase hc]
    by_cases hupper : isUppercase n = true
    · cases hmore : more.head?.any isLowercase with
      | true => simp [hupper, hmore, hunderscore]
      | false =>
        have hhead : (lowered n ++ snakeAfter (some n) more).head? = (lowered n).head? :=
          List.head?_append_of_ne_nil _ (lowered_ne_nil n)
        simp [hupper, hmore, hhead, head?_lowered_isLowercase_iff hupper]
    · simp [hupper, lowered_of_not_isUppercase (Bool.eq_false_iff.mpr hupper), hn]

/-- Behind a character that is neither a letter with case nor a digit no word starts. -/
theorem startsWord_of_neither {p : Char}
    (h : isLowercase p = false ∧ p.isDigit = false ∧ isUppercase p = false) (next : Option Char) :
    startsWord p next = false := by
  rw [startsWord, h.1, h.2.1, h.2.2]
  rfl

/-- Where no word starts at a capital that stays, one starts there in the derived name exactly if it
starts late. -/
theorem startsWord_lastLowered_iff {p c : Char} {s : List Char} (hc : StaysCapital c)
    (hnone : startsWord p s.head? = false) :
    startsWord (lastLowered p) (snakeAfter (some c) s).head? = true ↔ StartsLate p c s := by
  by_cases hp : isUppercase p = true
  · rw [startsWord_of_isUppercase hp] at hnone
    rw [StartsLate]
    by_cases hstays : StaysCapital p
    · rw [lastLowered_of_singleton (lowered_of_staysCapital hstays), startsWord_of_isUppercase hp,
        head?_snakeAfter_isLowercase_iff hc.1 hnone]
      simp [hc, hp, hnone, hstays]
    · by_cases hdotted : p = 'İ'
      · have hlast : lastLowered p = '\u0307' := by
          rw [hdotted, lastLowered, lowered_dotted]
          rfl
        rw [hlast, startsWord_of_neither (by decide +kernel)]
        simp [hdotted, not_staysCapital_dotted]
      · have hlower := (isLowercase_lastLowered_iff hp).mpr ⟨hstays, hdotted⟩
        rw [startsWord, hlower]
        simp [hc, hp, hnone, hstays, hdotted]
  · -- what stands in front stays, and with it the decision
    have hp' : isUppercase p = false := Bool.eq_false_iff.mpr hp
    have hsame : ∀ next, startsWord p next = startsWord p s.head? := by
      intro next
      rw [startsWord, startsWord, hp', Bool.false_and, Bool.false_and]
    rw [lastLowered_of_singleton (lowered_of_not_isUppercase hp'), hsame, hnone]
    simp [StartsLate, hp']

/-- No word of the text starts late. -/
def NoneLate (s : List Char) : Prop :=
  ∀ p c rest, p :: c :: rest <:+ s → ¬ StartsLate p c rest

theorem noneLate_singleton (p : Char) : NoneLate [p] := by
  intro q c rest hsuffix
  have hlength := hsuffix.length_le
  simp at hlength

/-- No place starts a word late if the first one does not and none of the others does. -/
theorem noneLate_cons_cons_iff {p c : Char} {s : List Char} :
    NoneLate (p :: c :: s) ↔ ¬ StartsLate p c s ∧ NoneLate (c :: s) := by
  constructor
  · intro h
    exact ⟨h p c s List.suffix_rfl, fun q d rest hsuffix =>
      h q d rest (hsuffix.trans (List.suffix_cons p _))⟩
  · rintro ⟨hfirst, hlater⟩ q d rest hsuffix
    rcases List.suffix_cons_iff.mp hsuffix with heq | hsuffix
    · cases heq
      exact hfirst
    · exact hlater q d rest hsuffix

-- ---------------------------------------------------------------------------
-- Deriving anew
-- ---------------------------------------------------------------------------

/-- Deriving anew changes nothing behind `p` exactly if no word starts late there. -/
theorem snakeAfter_snakeAfter_eq_iff (p : Char) (s : List Char) :
    snakeAfter (some (lastLowered p)) (snakeAfter (some p) s) = snakeAfter (some p) s ↔
      NoneLate (p :: s) := by
  induction s generalizing p with
  | nil => exact iff_of_true rfl (noneLate_singleton p)
  | cons c s ih =>
    rw [noneLate_cons_cons_iff, ← ih c, snakeAfter_cons]
    by_cases hc : StaysCapital c
    · have hlowered := lowered_of_staysCapital hc
      have hunderscore : isUppercase '_' = false := by decide +kernel
      rw [hlowered, lastLowered_of_singleton hlowered]
      cases hword : startsWord p s.head? with
      | true =>
        -- the separator is there already
        have hseparator : separator p c s.head? = ['_'] := by
          rw [separator, hc.1, hword]
          rfl
        have hbehind : ∀ next, separator '_' c next = [] := by
          intro next
          rw [separator, startsWord_of_neither (by decide +kernel), Bool.and_false]
          rfl
        have hnot : ¬ StartsLate p c s := by
          rintro ⟨-, hp, hnext, -⟩
          rw [startsWord_of_isUppercase hp, hnext] at hword
          cases hword
        rw [hseparator, List.singleton_append, List.singleton_append, snakeAfter_cons,
          separator_of_not_isUppercase hunderscore, lowered_of_not_isUppercase hunderscore,
          snakeAfter_cons, hbehind, hlowered]
        simp [hnot]
      | false =>
        have hnone : separator p c s.head? = [] := by
          rw [separator, hword, Bool.and_false]
          rfl
        rw [hnone, List.nil_append, List.singleton_append, snakeAfter_cons, hlowered,
          ← startsWord_lastLowered_iff hc hword, separator, hc.1, Bool.true_and]
        cases startsWord (lastLowered p) (snakeAfter (some c) s).head? with
        | true =>
          -- the separator is new, so the texts differ at this place
          have hne : '_' ≠ c := by
            rintro rfl
            rw [hc.1] at hunderscore
            cases hunderscore
          simp [hne]
        | false => simp
    · have hnot : ¬ StartsLate p c s := fun h => hc h.1
      rw [snakeAfter_separator_lowered hc, List.append_cancel_left_eq, List.append_cancel_left_eq]
      simp [hnot]

/-- A name that is derived again stays the same exactly if no place in it starts a word late. -/
theorem snakeCase_snakeCase_eq_iff (s : String) :
    snakeCase (snakeCase s) = snakeCase s ↔ NoneLate s.toList := by
  rw [snakeCase, snakeCase, String.toList_ofList, String.ofList_inj]
  cases s.toList with
  | nil => exact iff_of_true rfl fun p c rest hsuffix => by simpa using hsuffix.length_le
  | cons c rest =>
    rw [snakeAfter_none_cons, snakeAfter_none_lowered, List.append_cancel_left_eq,
      snakeAfter_snakeAfter_eq_iff]

/-- The capitals of a derived name are those that stay. -/
theorem staysCapital_of_mem_snakeAfter {prev : Option Char} {s : List Char} {e : Char}
    (he : e ∈ snakeAfter prev s) (hupper : isUppercase e = true) : StaysCapital e := by
  induction s generalizing prev with
  | nil => exact absurd he List.not_mem_nil
  | cons c s ih =>
    cases prev with
    | none =>
      rw [snakeAfter_none_cons] at he
      rcases List.mem_append.mp he with hlowered | hrest
      · exact (staysCapital_of_mem_lowered hlowered hupper).1
      · exact ih hrest
    | some p =>
      rw [snakeAfter_cons] at he
      rcases List.mem_append.mp he with hseparator | he
      · rw [not_isUppercase_of_mem_separator hseparator] at hupper
        cases hupper
      · rcases List.mem_append.mp he with hlowered | hrest
        · exact (staysCapital_of_mem_lowered hlowered hupper).1
        · exact ih hrest

/--
**Names derived twice.** A derived name is its own derived name exactly if no word of the identifier
starts late; so it is wherever every capital has a lower-case form. A name that is derived twice is
always its own derived name.
-/
theorem snakeCase_snakeCase (s : String) :
    (snakeCase (snakeCase s) = snakeCase s ↔ NoneLate s.toList) ∧
    ((∀ c ∈ s.toList, ¬ StaysCapital c) → snakeCase (snakeCase s) = snakeCase s) ∧
    snakeCase (snakeCase (snakeCase s)) = snakeCase (snakeCase s) := by
  refine ⟨snakeCase_snakeCase_eq_iff s, ?_, ?_⟩
  · intro h
    rw [snakeCase_snakeCase_eq_iff]
    intro p c rest hsuffix hlate
    exact h c (hsuffix.subset (by simp)) hlate.1
  · -- in a derived name all capitals stay, but a word starts late only beside one that does not
    rw [snakeCase_snakeCase_eq_iff, snakeCase, String.toList_ofList]
    rintro p c rest hsuffix ⟨-, hp, -, ⟨hnot, -⟩ | ⟨-, n, more, rfl, hn, hnot, -⟩⟩
    · exact hnot (staysCapital_of_mem_snakeAfter (hsuffix.subset (by simp)) hp)
    · exact hnot (staysCapital_of_mem_snakeAfter (hsuffix.subset (by simp)) hn)

/-- The mathematical capital stays, and behind the small letter that the first capital becomes a word
starts at it. -/
theorem mathematical_capital_starts_late :
    snakeCase "A𝐀" = "a𝐀" ∧ snakeCase "a𝐀" = "a_𝐀" ∧
      snakeCase (snakeCase "A𝐀") ≠ snakeCase "A𝐀" := by
  decide +kernel

/-- With small letters behind it, the mathematical capital starts its word at once. -/
theorem snakeCase_snakeCase_mathematical :
    NoneLate "A𝐀b".toList ∧
      ((∀ c ∈ "UserID".toList, ¬ StaysCapital c) ∧
        snakeCase (snakeCase "UserID") = snakeCase "UserID") ∧
      snakeCase (snakeCase (snakeCase "A𝐀")) = snakeCase (snakeCase "A𝐀") := by
  have hchecked : ("UserID".toList.all fun c => ¬ StaysCapital c) = true := by decide +kernel
  have hcapitals : ∀ c ∈ "UserID".toList, ¬ StaysCapital c := fun c hc =>
    of_decide_eq_true (List.all_eq_true.mp hchecked c hc)
  exact ⟨(snakeCase_snakeCase "A𝐀b").1.mp (by decide +kernel),
    ⟨hcapitals, (snakeCase_snakeCase "UserID").2.1 hcapitals⟩, (snakeCase_snakeCase "A𝐀").2.2⟩

end TableSchema
