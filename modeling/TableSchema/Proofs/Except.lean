import Mathlib.Data.List.Forall2

/-!
# Steps that may fail

When a chain of steps ends with a result, when it ends with a problem, and with which one.

* `map_eq_ok_iff`, `map_eq_error_iff` — a step that cannot fail behind one that can.
* `bind_eq_ok_iff`, `bind_eq_error_iff` — two steps.
* `mapM_eq_ok_iff`, `exists_mapM_iff` — one step for each item of a list.
* `foldlM_eq_error_iff` — a walk through a list ends with the problem of the first step that has one.
-/

namespace TableSchema

variable {ε α β : Type}

/-- A step that cannot fail leaves it to the other one whether there is a result. -/
theorem map_eq_ok_iff {x : Except ε α} {f : α → β} {b : β} :
    x.map f = .ok b ↔ ∃ a, x = .ok a ∧ f a = b := by
  cases x <;> simp [Except.map]

theorem exists_map_eq_ok_iff {x : Except ε α} {f : α → β} :
    (∃ b, x.map f = .ok b) ↔ ∃ a, x = .ok a := by
  cases x <;> simp [Except.map]

/-- Where there is no result there is a problem. -/
theorem exists_error_iff {x : Except ε α} : (∃ e, x = .error e) ↔ ¬ ∃ a, x = .ok a := by
  cases x <;> simp

/-- A step that cannot fail keeps the problem of the other one. -/
theorem map_eq_error_iff {x : Except ε α} {f : α → β} {e : ε} :
    x.map f = .error e ↔ x = .error e := by
  cases x <;> simp [Except.map]

/-- A result may be found by looking for a result only. -/
theorem eq_ok_of_toOption {x : Except ε α} {a : α} (h : x.toOption = some a) : x = .ok a := by
  cases x with
  | error e => cases h
  | ok b => exact congrArg _ (Option.some.inj h)

/-- Two steps end with a result if both of them have one. -/
theorem bind_eq_ok_iff {x : Except ε α} {f : α → Except ε β} {b : β} :
    x.bind f = .ok b ↔ ∃ a, x = .ok a ∧ f a = .ok b := by
  cases x <;> simp [Except.bind]

/-- Two steps end with the problem of the first one, or of the second one behind a result. -/
theorem bind_eq_error_iff {x : Except ε α} {f : α → Except ε β} {e : ε} :
    x.bind f = .error e ↔ x = .error e ∨ ∃ a, x = .ok a ∧ f a = .error e := by
  cases x <;> simp [Except.bind]

/-- A step for each item ends with the results of all items. -/
theorem mapM_eq_ok_iff {f : α → Except ε β} {items : List α} {results : List β} :
    items.mapM f = .ok results ↔ List.Forall₂ (fun a b => f a = .ok b) items results := by
  induction items generalizing results with
  | nil =>
    rw [List.forall₂_nil_left_iff, List.mapM_nil]
    exact ⟨fun h => (Except.ok.inj h).symm, congrArg Except.ok ∘ Eq.symm⟩
  | cons a rest ih =>
    rw [List.mapM_cons, List.forall₂_cons_left_iff]
    constructor
    · intro h
      obtain ⟨b, hb, h⟩ := bind_eq_ok_iff.mp h
      obtain ⟨bs, hbs, h⟩ := bind_eq_ok_iff.mp h
      exact ⟨b, bs, hb, ih.mp hbs, (Except.ok.inj h).symm⟩
    · rintro ⟨b, bs, hb, hbs, rfl⟩
      exact bind_eq_ok_iff.mpr ⟨b, hb, bind_eq_ok_iff.mpr ⟨bs, ih.mpr hbs, rfl⟩⟩

/-- A step for each item ends with results exactly if it has one for every item. -/
theorem exists_mapM_iff {f : α → Except ε β} {items : List α} :
    (∃ results, items.mapM f = .ok results) ↔ ∀ a ∈ items, ∃ b, f a = .ok b := by
  simp only [mapM_eq_ok_iff]
  induction items with
  | nil => simp
  | cons a rest ih =>
    rw [List.forall_mem_cons, ← ih]
    constructor
    · rintro ⟨results, h⟩
      obtain ⟨b, bs, hb, hbs, -⟩ := List.forall₂_cons_left_iff.mp h
      exact ⟨⟨b, hb⟩, bs, hbs⟩
    · rintro ⟨⟨b, hb⟩, bs, hbs⟩
      exact ⟨b :: bs, .cons hb hbs⟩

/-- A walk through a list fails at the first item whose step fails, in the state that the items in
front of it lead to. -/
theorem foldlM_eq_error_iff {step : β → α → Except ε β} {start : β} {items : List α} {e : ε} :
    items.foldlM step start = .error e ↔
      ∃ front a back state, items = front ++ a :: back ∧ front.foldlM step start = .ok state ∧
        step state a = .error e := by
  constructor
  · intro h
    induction items generalizing start with
    | nil => cases h
    | cons first rest ih =>
      rw [List.foldlM_cons] at h
      cases hfirst : step start first with
      | error problem =>
        rw [hfirst] at h
        exact ⟨[], first, rest, start, rfl, rfl, hfirst.trans h⟩
      | ok next =>
        rw [hfirst] at h
        obtain ⟨front, a, back, state, rfl, hfront, ha⟩ := ih h
        refine ⟨first :: front, a, back, state, rfl, ?_, ha⟩
        rw [List.foldlM_cons, hfirst]
        exact hfront
  · rintro ⟨front, a, back, state, rfl, hfront, ha⟩
    rw [List.foldlM_append, hfront]
    show (step state a).bind _ = .error e
    rw [ha]
    rfl

end TableSchema
