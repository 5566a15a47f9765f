import TableSchema.Proofs.Registry.Run

/-!
# The shared configuration in the course of a run

A program installs the shared configuration, reads it and makes registries with it, in any order and
mixed with work on the registries that it has made. The first step that installs or reads decides what
the shared configuration is for the rest of the run, and every registry goes its own way: what it holds
and answers is what a lone run of the work on it holds and answers.

* `sharedBy` — the configuration that a run shares; `workOn` — the steps of one registry.
* `pinned_step`, `pinned_run` — what is pinned after a step and after a run.
* `getElem?_registries_step`, `getElem?_registries_run` — one registry among the others.
* `Settled`, `run_pins_first_choice` — the whole account of a run.
-/

namespace TableSchema

variable {τ : Type}

-- ---------------------------------------------------------------------------
-- Steps
-- ---------------------------------------------------------------------------

namespace SessionStep

/-- What the step pins where nothing is pinned yet: an installation its argument, and a reading of
whatever kind the defaults. -/
def pins? : SessionStep τ → Option Config
  | .install config => some config
  | .read | .makeRegistry => some {}
  | .defaults | .on .. => none

def opens : SessionStep τ → Bool
  | .makeRegistry => true
  | _ => false

def work? (number : Nat) : SessionStep τ → Option (RegistryStep τ)
  | .on target step => if target = number then some step else none
  | _ => none

end SessionStep

/-- The configuration that a program shares after the given steps. -/
def sharedBy (steps : List (SessionStep τ)) : Config :=
  (steps.findSome? SessionStep.pins?).getD {}

/-- The steps that work on the registry of a number. -/
def workOn (number : Nat) (steps : List (SessionStep τ)) : List (RegistryStep τ) :=
  steps.filterMap (·.work? number)

/-- What comes behind a step that pins makes no difference. -/
theorem sharedBy_append_of_pins {front back : List (SessionStep τ)} {step : SessionStep τ}
    (h : step.pins? = some {}) : sharedBy (front ++ step :: back) = sharedBy front := by
  rw [sharedBy, sharedBy, List.findSome?_append, List.findSome?_cons, h]
  cases front.findSome? SessionStep.pins? <;> rfl

variable [DecidableEq τ] {g : TypeGraph τ}

/-- A registry keeps its configuration, also when its tables are taken. -/
theorem Registry.config_step (r : Registry τ) (work : RegistryStep τ) :
    (r.step g work).2.config = r.config := by
  by_cases h : work = .takeTables
  · rw [h]
    rfl
  · rw [step_eq h]

/-- A registry keeps its settings. -/
theorem Registry.config_run (r : Registry τ) (steps : List (RegistryStep τ)) :
    (r.run g steps).2.config = r.config := by
  induction steps generalizing r with
  | nil => rfl
  | cons work rest ih => rw [run_cons, ih, config_step]

namespace Session

variable {s : Session τ}

-- ---------------------------------------------------------------------------
-- Runs in parts
-- ---------------------------------------------------------------------------

theorem run_cons (step : SessionStep τ) (rest : List (SessionStep τ)) :
    s.run g (step :: rest) =
      ((s.step g step).1 :: ((s.step g step).2.run g rest).1, ((s.step g step).2.run g rest).2) := by
  rw [run]

/-- A run may be cut in two at any place. -/
theorem run_append (front back : List (SessionStep τ)) :
    s.run g (front ++ back) =
      ((s.run g front).1 ++ ((s.run g front).2.run g back).1,
        ((s.run g front).2.run g back).2) := by
  induction front generalizing s with
  | nil => rfl
  | cons step rest ih => rw [List.cons_append, run_cons, run_cons, ih, List.cons_append]

/-- The last step starts where the others have led. -/
theorem run_concat (front : List (SessionStep τ)) (step : SessionStep τ) :
    (s.run g (front ++ [step])).2 = ((s.run g front).2.step g step).2 := by
  rw [run_append, run_cons]
  rfl

/-- Every step has an answer. -/
theorem length_answers (steps : List (SessionStep τ)) : (s.run g steps).1.length = steps.length := by
  induction steps generalizing s with
  | nil => rfl
  | cons step rest ih => rw [run_cons, List.length_cons, List.length_cons, ih]

/-- A step of a run answers by the state that the steps in front of it lead to. -/
theorem getElem?_answers (front : List (SessionStep τ)) (step : SessionStep τ)
    (back : List (SessionStep τ)) :
    (s.run g (front ++ step :: back)).1[front.length]? = some ((s.run g front).2.step g step).1 := by
  have hlength : (s.run g front).1.length = front.length := length_answers front
  rw [run_append, run_cons, ← hlength, List.getElem?_append_right (Nat.le_refl _), Nat.sub_self]
  rfl

/-- An answer is that of the step at its place, in the state that the steps in front of it have led
to. -/
theorem exists_step_of_answer {steps : List (SessionStep τ)} {i : Nat} {answer : SessionAnswer τ}
    (h : (s.run g steps).1[i]? = some answer) :
    ∃ front step back, steps = front ++ step :: back ∧ front.length = i ∧
      answer = ((s.run g front).2.step g step).1 := by
  have hi : i < steps.length := by
    have := (List.getElem?_eq_some_iff.mp h).1
    rwa [length_answers] at this
  have hsplit : steps = steps.take i ++ steps[i] :: steps.drop (i + 1) := by simp
  have hlength : (steps.take i).length = i := by
    rw [List.length_take]
    omega
  have hanswer := getElem?_answers (g := g) (s := s) (steps.take i) steps[i] (steps.drop (i + 1))
  rw [← hsplit, hlength, h] at hanswer
  exact ⟨_, _, _, hsplit, hlength, Option.some.inj hanswer⟩

-- ---------------------------------------------------------------------------
-- What is pinned
-- ---------------------------------------------------------------------------

/-- A step pins something only if nothing is pinned yet. -/
theorem pinned_step (step : SessionStep τ) :
    (s.step g step).2.shared.pinned = s.shared.pinned.or step.pins? := by
  obtain ⟨⟨pinned⟩, registries⟩ := s
  cases step with
  | install config => cases pinned <;> rfl
  | read => cases pinned <;> rfl
  | makeRegistry => cases pinned <;> rfl
  | defaults => exact (Option.or_none).symm
  | on number work =>
    rw [Session.step]
    dsimp only
    cases registries[number]? <;> exact (Option.or_none).symm

/-- A run pins what the first step pins that would pin anything. -/
theorem pinned_run (steps : List (SessionStep τ)) :
    (s.run g steps).2.shared.pinned =
      s.shared.pinned.or (steps.findSome? SessionStep.pins?) := by
  induction steps generalizing s with
  | nil => exact (Option.or_none).symm
  | cons step rest ih =>
    rw [run_cons, ih, pinned_step, Option.or_assoc, List.findSome?_cons]
    cases step.pins? <;> rfl

/-- A reading answers with the shared configuration of the steps so far. -/
theorem read_after (front : List (SessionStep τ)) :
    ((({} : Session τ).run g front).2.shared.read).1 = sharedBy front := by
  have hpinned : (({} : Session τ).run g front).2.shared.pinned =
      front.findSome? SessionStep.pins? := pinned_run front
  rw [SharedConfig.read, sharedBy, ← hpinned]
  cases (({} : Session τ).run g front).2.shared.pinned <;> rfl

/-- An installation succeeds while nothing is pinned. -/
theorem step_install_of_free {config : Config} (h : s.shared.pinned = none) :
    (s.step g (.install config)).1 = .installed config := by
  simp [step, SharedConfig.install, h]

/-- An installation that comes too late is rejected and changes nothing. -/
theorem step_install_of_pinned {config pinned : Config} (h : s.shared.pinned = some pinned) :
    s.step g (.install config) = (.rejected config, s) := by
  simp [step, SharedConfig.install, h]

/-- Only an installation into a free place succeeds, and with its argument. -/
theorem eq_install_of_installed {step : SessionStep τ} {config : Config}
    (h : (s.step g step).1 = .installed config) :
    step = .install config ∧ s.shared.pinned = none := by
  cases step with
  | install argument =>
    cases hpinned : s.shared.pinned with
    | none =>
      rw [step_install_of_free hpinned, SessionAnswer.installed.injEq] at h
      exact ⟨by rw [h], rfl⟩
    | some pinned =>
      rw [step_install_of_pinned hpinned] at h
      cases h
  | read | makeRegistry | defaults => cases h
  | on number work =>
    rw [Session.step] at h
    cases hfound : s.registries[number]? <;> rw [hfound] at h <;> cases h

-- ---------------------------------------------------------------------------
-- Which installation succeeds
-- ---------------------------------------------------------------------------

/-- Nothing is pinned as long as no step pins anything. -/
theorem pinned_eq_none_iff {front : List (SessionStep τ)} :
    (({} : Session τ).run g front).2.shared.pinned = none ↔ ∀ step ∈ front, step.pins? = none := by
  have hpinned : (({} : Session τ).run g front).2.shared.pinned =
      front.findSome? SessionStep.pins? := pinned_run front
  rw [hpinned, List.findSome?_eq_none_iff]

/-- Where an installation succeeds, nothing in front of it has pinned anything. -/
theorem exists_install_of_installed {steps : List (SessionStep τ)} {i : Nat} {config : Config}
    (h : (({} : Session τ).run g steps).1[i]? = some (.installed config)) :
    ∃ front back, steps = front ++ .install config :: back ∧ front.length = i ∧
      ∀ step ∈ front, step.pins? = none := by
  obtain ⟨front, step, back, hsplit, hi, hanswer⟩ := exists_step_of_answer h
  obtain ⟨rfl, hnone⟩ := eq_install_of_installed hanswer.symm
  exact ⟨front, back, hsplit, hi, pinned_eq_none_iff.mp hnone⟩

/-- No installation succeeds behind one that has succeeded. -/
theorem le_of_installed {steps : List (SessionStep τ)} {i j : Nat} {config config' : Config}
    (hi : (({} : Session τ).run g steps).1[i]? = some (.installed config))
    (hj : (({} : Session τ).run g steps).1[j]? = some (.installed config')) : j ≤ i := by
  obtain ⟨front, back, hsplit, rfl, -⟩ := exists_install_of_installed hi
  obtain ⟨front', back', hsplit', rfl, hfree⟩ := exists_install_of_installed hj
  by_contra hlt
  have hget : steps[front.length]? = some (.install config) := by
    rw [hsplit, List.getElem?_append_right (Nat.le_refl _), Nat.sub_self]
    rfl
  have hmem : .install config ∈ front' := by
    rw [hsplit', List.getElem?_append_left (by omega)] at hget
    exact List.mem_of_getElem? hget
  cases hfree _ hmem

-- ---------------------------------------------------------------------------
-- One registry among the others
-- ---------------------------------------------------------------------------

/-- A step opens one registry at most. -/
theorem length_registries_step (step : SessionStep τ) :
    (s.step g step).2.registries.length = s.registries.length + if step.opens then 1 else 0 := by
  cases step with
  | install config =>
    rw [Session.step, SharedConfig.install]
    cases s.shared.pinned <;> rfl
  | read => rfl
  | makeRegistry => exact List.length_append
  | defaults => rfl
  | on number work =>
    rw [Session.step]
    cases s.registries[number]? with
    | none => rfl
    | some r => exact List.length_set

/-- There are as many registries as steps that open one. -/
theorem length_registries_run (steps : List (SessionStep τ)) :
    (s.run g steps).2.registries.length =
      s.registries.length + steps.countP SessionStep.opens := by
  induction steps generalizing s with
  | nil => rfl
  | cons step rest ih =>
    rw [run_cons, ih, length_registries_step, List.countP_cons]
    omega

/-- A step does to a registry what its work on this registry does, and nothing if it has none. -/
theorem getElem?_registries_step {number : Nat} {r : Registry τ}
    (h : s.registries[number]? = some r) (step : SessionStep τ) :
    (s.step g step).2.registries[number]? = some (r.run g (step.work? number).toList).2 := by
  have hnumber : number < s.registries.length := (List.getElem?_eq_some_iff.mp h).1
  cases step with
  | install config =>
    rw [Session.step, SharedConfig.install]
    cases s.shared.pinned <;> exact h
  | read => exact h
  | makeRegistry => exact (List.getElem?_append_left hnumber).trans h
  | defaults => exact h
  | on target work =>
    by_cases htarget : target = number
    · subst htarget
      rw [Session.step, h, SessionStep.work?, if_pos rfl]
      exact List.getElem?_set_self hnumber
    · rw [Session.step, SessionStep.work?, if_neg htarget]
      cases s.registries[target]? with
      | none => exact h
      | some other => exact (List.getElem?_set_ne htarget).trans h

/-- In a run a registry does what it would do alone. -/
theorem getElem?_registries_run {number : Nat} {r : Registry τ}
    (h : s.registries[number]? = some r) (steps : List (SessionStep τ)) :
    (s.run g steps).2.registries[number]? = some (r.run g (workOn number steps)).2 := by
  induction steps generalizing s r with
  | nil => exact h
  | cons step rest ih =>
    have hwork : workOn number (step :: rest) =
        (step.work? number).toList ++ workOn number rest := by
      rw [workOn, List.filterMap_cons]
      cases step.work? number <;> rfl
    rw [run_cons, ih (getElem?_registries_step h step), hwork, Registry.run_append]

/-- A registry starts empty, with the configuration that is shared when it is made. -/
theorem getElem?_registries_makeRegistry (front : List (SessionStep τ)) :
    (({} : Session τ).run g (front ++ [.makeRegistry])).2.registries[front.countP SessionStep.opens]? =
      some (.empty (sharedBy front)) := by
  have hlength : (({} : Session τ).run g front).2.registries.length =
      front.countP SessionStep.opens := by
    rw [length_registries_run]
    exact Nat.zero_add _
  rw [run_concat, ← hlength, ← read_after (g := g)]
  exact List.getElem?_concat_length

/-- What became of a registry that was made behind `front`. -/
theorem getElem?_registries_of_made (front back : List (SessionStep τ)) :
    (({} : Session τ).run g (front ++ .makeRegistry :: back)).2.registries[
        front.countP SessionStep.opens]? =
      some ((Registry.empty (sharedBy front)).run g
        (workOn (front.countP SessionStep.opens) back)).2 := by
  rw [List.append_cons, run_append]
  exact getElem?_registries_run (getElem?_registries_makeRegistry front) back

/-- Where no installation succeeds, the defaults are shared. -/
theorem sharedBy_of_not_installed {steps : List (SessionStep τ)}
    (hnone : ∀ (i : Nat) (config : Config),
      (({} : Session τ).run g steps).1[i]? ≠ some (.installed config)) : sharedBy steps = {} := by
  cases hfirst : steps.findSome? SessionStep.pins? with
  | none => rw [sharedBy, hfirst, Option.getD_none]
  | some config =>
    obtain ⟨front, step, back, hsplit, hpins, hfree⟩ := List.findSome?_eq_some_iff.mp hfirst
    rw [sharedBy, hfirst, Option.getD_some]
    cases step with
    | install argument =>
      -- nothing in front of this installation pins, so it succeeds
      have hanswer := getElem?_answers (g := g) (s := {}) front (.install argument) back
      rw [← hsplit, step_install_of_free (pinned_eq_none_iff.mpr hfree)] at hanswer
      exact absurd hanswer (hnone _ _)
    | read | makeRegistry => exact (Option.some.inj hpins).symm
    | defaults | on => cases hpins

-- ---------------------------------------------------------------------------
-- The account of a run
-- ---------------------------------------------------------------------------

/-- What is true of the answers of a program's run, and of its state at the end. -/
structure Settled (g : TypeGraph τ) (steps : List (SessionStep τ)) (answers : List (SessionAnswer τ))
    (s : Session τ) : Prop where
  length_answers : answers.length = steps.length
  /-- An installation succeeds exactly if nothing in front of it has installed or read. -/
  installed_iff : ∀ front config back, steps = front ++ .install config :: back →
    (answers[front.length]? = some (.installed config) ↔ ∀ step ∈ front, step.pins? = none)
  /-- Any other gets its argument back and changes nothing. -/
  rejected : ∀ front config back, steps = front ++ .install config :: back →
    answers[front.length]? ≠ some (.installed config) →
    answers[front.length]? = some (.rejected config) ∧
      (({} : Session τ).run g (front ++ [.install config])).2 = (({} : Session τ).run g front).2
  installed_once : ∀ (i j : Nat) (config config' : Config),
    answers[i]? = some (.installed config) → answers[j]? = some (.installed config') → i = j
  /-- All that is read or copied in the run is one configuration: what was installed, or else the
  defaults. -/
  read : ∀ front back, steps = front ++ .read :: back →
    answers[front.length]? = some (.shared (sharedBy steps))
  opened : ∀ front back, steps = front ++ .makeRegistry :: back →
    answers[front.length]? = some (.opened (sharedBy steps)) ∧ sharedBy front = sharedBy steps
  shared_of_installed : ∀ (i : Nat) (config : Config),
    answers[i]? = some (.installed config) → sharedBy steps = config
  shared_of_none : (∀ (i : Nat) (config : Config), answers[i]? ≠ some (.installed config)) →
    sharedBy steps = {}
  defaults : ∀ front back, steps = front ++ .defaults :: back →
    answers[front.length]? = some (.defaults {}) ∧
      (({} : Session τ).run g (front ++ [.defaults])).2 = (({} : Session τ).run g front).2
  length_registries : s.registries.length = steps.countP SessionStep.opens
  /-- At the end a registry is what the work on it alone makes of an empty one with the configuration
  that was shared in front of it. -/
  registry : ∀ front back, steps = front ++ .makeRegistry :: back →
    s.registries[front.countP SessionStep.opens]? = some ((Registry.empty (sharedBy front)).run g
      (workOn (front.countP SessionStep.opens) back)).2
  config_kept : ∀ front back r, steps = front ++ .makeRegistry :: back →
    s.registries[front.countP SessionStep.opens]? = some r → r.config = sharedBy front
  /-- A registry answers by the work that was done on it before, and by nothing else. -/
  worked : ∀ front middle work back,
    steps = front ++ .makeRegistry :: (middle ++ .on (front.countP SessionStep.opens) work :: back) →
    answers[front.length + 1 + middle.length]? = some (.registry
      (((Registry.empty (sharedBy front)).run g
        (workOn (front.countP SessionStep.opens) middle)).2.step g work).1)

/--
**One shared configuration.** Of the installations in a run at most one succeeds, and only in front of
everything else that installs or reads. All that is read in the run is the configuration it installed,
or the defaults if none did; asking for the defaults alone pins nothing. Every registry keeps the
configuration that was shared when it was made, and neither other registries nor later installations
have a part in what it holds and answers.
-/
theorem run_pins_first_choice (g : TypeGraph τ) (steps : List (SessionStep τ)) :
    Settled g steps (({} : Session τ).run g steps).1 (({} : Session τ).run g steps).2 := by
  constructor
  case length_answers => exact Session.length_answers steps
  case installed_iff =>
    rintro front config back rfl
    rw [getElem?_answers, Option.some.injEq, ← pinned_eq_none_iff]
    constructor
    · intro h
      exact (eq_install_of_installed h).2
    · exact step_install_of_free
  case rejected =>
    rintro front config back rfl hnot
    rw [getElem?_answers] at hnot ⊢
    rw [run_concat]
    cases hfront : (({} : Session τ).run g front).2.shared.pinned with
    | none => exact absurd (congrArg some (step_install_of_free hfront)) hnot
    | some pinned =>
      rw [step_install_of_pinned hfront]
      exact ⟨rfl, rfl⟩
  case installed_once =>
    intro i j config config' hi hj
    exact Nat.le_antisymm (le_of_installed hj hi) (le_of_installed hi hj)
  case read =>
    rintro front back rfl
    rw [getElem?_answers, sharedBy_append_of_pins rfl, ← read_after (g := g)]
    rfl
  case opened =>
    rintro front back rfl
    have hshared : sharedBy (front ++ .makeRegistry :: back) = sharedBy front :=
      sharedBy_append_of_pins rfl
    rw [getElem?_answers, hshared]
    refine ⟨?_, rfl⟩
    rw [← read_after (g := g)]
    rfl
  case shared_of_installed =>
    intro i config h
    obtain ⟨front, back, rfl, -, hfree⟩ := exists_install_of_installed h
    rw [sharedBy, List.findSome?_append, List.findSome?_eq_none_iff.mpr hfree, List.findSome?_cons]
    rfl
  case shared_of_none => exact sharedBy_of_not_installed
  case defaults =>
    rintro front back rfl
    rw [getElem?_answers, run_concat]
    exact ⟨rfl, rfl⟩
  case length_registries =>
    rw [length_registries_run]
    exact Nat.zero_add _
  case registry =>
    rintro front back rfl
    exact getElem?_registries_of_made front back
  case config_kept =>
    rintro front back r rfl hr
    rw [getElem?_registries_of_made front back, Option.some.injEq] at hr
    rw [← hr]
    exact Registry.config_run _ _
  case worked =>
    rintro front middle work back rfl
    have hsplit : front ++ .makeRegistry ::
        (middle ++ .on (front.countP SessionStep.opens) work :: back) =
        (front ++ .makeRegistry :: middle) ++
          .on (front.countP SessionStep.opens) work :: back := by simp
    have hlength : (front ++ SessionStep.makeRegistry :: middle).length =
        front.length + 1 + middle.length := by
      rw [List.length_append, List.length_cons]
      omega
    rw [hsplit, ← hlength, getElem?_answers, Session.step, getElem?_registries_of_made front middle]

end Session

end TableSchema
