import TableSchema.Members

/-!
# Members that were written

What is found among the members of a table after one of them was written.

* `lookup_overwrite_self` — what is found under the name.
* `lookup_overwrite_of_ne` — what is found under any other name.
-/

namespace TableSchema

variable {α : Type} {ms : List (String × α)} {name : String} (a : α)

/-- A member that is there keeps its place. -/
theorem overwrite_of_mem (h : name ∈ ms.map Prod.fst) :
    overwrite name a ms = ms.map fun m => if m.1 = name then (name, a) else m := by
  obtain ⟨m, hm, hname⟩ := List.mem_map.mp h
  exact if_pos (List.any_eq_true.mpr ⟨m, hm, decide_eq_true hname⟩)

/-- A member that is not there yet goes behind all others. -/
theorem overwrite_of_not_mem (h : name ∉ ms.map Prod.fst) :
    overwrite name a ms = ms ++ [(name, a)] := by
  refine if_neg fun hany => h ?_
  obtain ⟨m, hm, hname⟩ := List.any_eq_true.mp hany
  exact List.mem_map.mpr ⟨m, hm, of_decide_eq_true hname⟩

/-- What was written is found under its name. -/
theorem lookup_overwrite_self : (overwrite name a ms).lookup name = some a := by
  by_cases hname : name ∈ ms.map Prod.fst
  · rw [overwrite_of_mem a hname]
    induction ms with
    | nil => cases hname
    | cons m rest ih =>
      by_cases heq : m.1 = name
      · rw [List.map_cons, if_pos heq, List.lookup_cons_self]
      · have hrest : name ∈ rest.map Prod.fst :=
          (List.mem_cons.mp hname).resolve_left (Ne.symm heq)
        have hne : (name == m.1) = false := beq_false_of_ne (Ne.symm heq)
        rw [List.map_cons, if_neg heq, List.lookup_cons, hne]
        exact ih hrest
  · have hnone : ms.lookup name = none :=
      List.lookup_eq_none_iff.mpr fun m hm =>
        bne_iff_ne.mpr fun heq => hname (heq ▸ List.mem_map_of_mem hm)
    rw [overwrite_of_not_mem a hname, List.lookup_append, hnone, List.lookup_cons_self]
    rfl

/-- Under any other name the same is found as before. -/
theorem lookup_overwrite_of_ne {other : String} (hne : other ≠ name) :
    (overwrite name a ms).lookup other = ms.lookup other := by
  have hother : (other == name) = false := beq_false_of_ne hne
  by_cases hname : name ∈ ms.map Prod.fst
  · rw [overwrite_of_mem a hname]
    clear hname
    induction ms with
    | nil => rfl
    | cons m rest ih =>
      by_cases heq : m.1 = name
      · rw [List.map_cons, if_pos heq, List.lookup_cons, List.lookup_cons, heq, hother]
        exact ih
      · rw [List.map_cons, if_neg heq, List.lookup_cons, List.lookup_cons, ih]
  · rw [overwrite_of_not_mem a hname, List.lookup_append, List.lookup_cons, hother]
    exact Option.or_none

end TableSchema
