import Mathlib.Data.List.Count
import Mathlib.Data.List.Induction
import Mathlib.Data.List.Nodup
import TableSchema.Fields

/-!
# What a name means

The visible fields are found with a running standing for each name: the smallest depth met so far and
how often the name was met there. This module says what that computes, without the running standing:
an occurrence is kept exactly if it is the only one of its name at the smallest depth of that name.

* `SoleShallowest` — the rule, as a property of an occurrence in a list.
* `Standing.Describes` — what a standing says about a list; `describes_add` is the step of the scan
  and `describes_standing?` its whole run.
* `unshadowed_eq_filter` — the scan keeps what the rule keeps.
* `filter_soleShallowest_of_overshadowed` — occurrences that others of their name overshadow may be
  left out beforehand.
-/

namespace TableSchema

variable {τ : Type}

-- ---------------------------------------------------------------------------
-- The rule
-- ---------------------------------------------------------------------------

/-- How often a name occurs at a depth. -/
def countAt (name : String) (depth : Nat) (all : List (Occurrence τ)) : Nat :=
  all.countP fun o => o.field.name = name ∧ o.depth = depth

/-- No occurrence of the name is closer to the root, and no other one is as close. -/
def SoleShallowest (all : List (Occurrence τ)) (o : Occurrence τ) : Prop :=
  (∀ other ∈ all, other.field.name = o.field.name → o.depth ≤ other.depth) ∧
    countAt o.field.name o.depth all = 1

instance (all : List (Occurrence τ)) (o : Occurrence τ) : Decidable (SoleShallowest all o) :=
  inferInstanceAs (Decidable (_ ∧ _))

/-- Counts add up. -/
theorem countAt_append (name : String) (depth : Nat) (front back : List (Occurrence τ)) :
    countAt name depth (front ++ back) = countAt name depth front + countAt name depth back :=
  List.countP_append ..

theorem countAt_singleton (name : String) (depth : Nat) (o : Occurrence τ) :
    countAt name depth [o] = if o.field.name = name ∧ o.depth = depth then 1 else 0 := by
  simp [countAt, List.countP_singleton]

/-- What is counted is there. -/
theorem countAt_pos_iff {name : String} {depth : Nat} {all : List (Occurrence τ)} :
    0 < countAt name depth all ↔ ∃ o ∈ all, o.field.name = name ∧ o.depth = depth := by
  simp [countAt, List.countP_pos_iff]

/-- One more occurrence counts at its own depth. -/
theorem countAt_concat_self {name : String} {all : List (Occurrence τ)} {o : Occurrence τ}
    (hname : o.field.name = name) :
    countAt name o.depth (all ++ [o]) = countAt name o.depth all + 1 := by
  rw [countAt_append, countAt_singleton, if_pos ⟨hname, rfl⟩]

/-- One more occurrence does not count under another name or at another depth. -/
theorem countAt_concat_of_not {name : String} {depth : Nat} {all : List (Occurrence τ)}
    {o : Occurrence τ} (hnot : ¬ (o.field.name = name ∧ o.depth = depth)) :
    countAt name depth (all ++ [o]) = countAt name depth all := by
  rw [countAt_append, countAt_singleton, if_neg hnot, Nat.add_zero]

/-- Above all occurrences of a name there is nothing to count. -/
theorem countAt_eq_zero {name : String} {depth : Nat} {all : List (Occurrence τ)}
    (h : ∀ o ∈ all, o.field.name = name → depth < o.depth) : countAt name depth all = 0 := by
  rw [countAt, List.countP_eq_zero]
  intro o ho hand
  obtain ⟨hname, hdepth⟩ := of_decide_eq_true hand
  have hlt : depth < o.depth := h o ho hname
  omega

/-- A lower bound on the depths of a name, after one more occurrence. -/
theorem le_depth_concat {name : String} {depth : Nat} {all : List (Occurrence τ)}
    {o : Occurrence τ} (hall : ∀ x ∈ all, x.field.name = name → depth ≤ x.depth)
    (ho : o.field.name = name → depth ≤ o.depth) :
    ∀ x ∈ all ++ [o], x.field.name = name → depth ≤ x.depth := by
  intro x hx hxname
  rcases List.mem_append.1 hx with hx | hx
  · exact hall x hx hxname
  · obtain rfl := List.mem_singleton.1 hx
    exact ho hxname

-- ---------------------------------------------------------------------------
-- The scan
-- ---------------------------------------------------------------------------

/-- What a standing says about the occurrences of a name in a list: there is none, or `depth` is the
smallest depth of the name and `count` its number of occurrences there. -/
def Standing.Describes (name : String) (all : List (Occurrence τ)) : Option Standing → Prop
  | none => ∀ o ∈ all, o.field.name ≠ name
  | some s =>
    (∀ o ∈ all, o.field.name = name → s.depth ≤ o.depth) ∧
      s.count = countAt name s.depth all ∧ 0 < s.count

/-- An occurrence with a smaller depth than all before it starts the count anew. -/
theorem Standing.describes_first {name : String} {all : List (Occurrence τ)} {o : Occurrence τ}
    (hname : o.field.name = name) (h : ∀ x ∈ all, x.field.name = name → o.depth < x.depth) :
    Standing.Describes name (all ++ [o]) (some ⟨o.depth, 1⟩) := by
  refine ⟨?_, ?_, Nat.one_pos⟩
  · apply le_depth_concat
    · exact fun x hx hxname => Nat.le_of_lt (h x hx hxname)
    · exact fun _ => Nat.le_refl _
  · show 1 = countAt name o.depth (all ++ [o])
    rw [countAt_concat_self hname, countAt_eq_zero h]

/-- The step of the scan at an occurrence of the name. -/
theorem Standing.describes_add {name : String} {all : List (Occurrence τ)} {o : Occurrence τ}
    {s : Option Standing} (hname : o.field.name = name) (h : Standing.Describes name all s) :
    Standing.Describes name (all ++ [o]) (some (Standing.add o.depth s)) := by
  cases s with
  | none => exact Standing.describes_first hname fun x hx hxname => absurd hxname (h x hx)
  | some s =>
    obtain ⟨hmin, hcount, hpos⟩ := h
    rw [Standing.add]
    split
    · next hlt =>
      apply Standing.describes_first hname
      exact fun x hx hxname => Nat.lt_of_lt_of_le hlt (hmin x hx hxname)
    · next hge =>
      -- the smallest depth stays; the count grows if the occurrence has it
      have hmin' : ∀ x ∈ all ++ [o], x.field.name = name → s.depth ≤ x.depth :=
        le_depth_concat hmin fun _ => Nat.le_of_not_lt hge
      split
      · next heq =>
        refine ⟨hmin', ?_, Nat.succ_pos _⟩
        show s.count + 1 = countAt name s.depth (all ++ [o])
        rw [← heq, countAt_concat_self hname, heq, hcount]
      · next hne =>
        refine ⟨hmin', ?_, hpos⟩
        rw [countAt_concat_of_not (fun hand => hne hand.2)]
        exact hcount

/-- The step of the scan at an occurrence of another name. -/
theorem Standing.describes_of_ne {name : String} {all : List (Occurrence τ)} {o : Occurrence τ}
    {s : Option Standing} (hname : o.field.name ≠ name) (h : Standing.Describes name all s) :
    Standing.Describes name (all ++ [o]) s := by
  cases s with
  | none =>
    intro x hx
    rcases List.mem_append.1 hx with hx | hx
    · exact h x hx
    · obtain rfl := List.mem_singleton.1 hx
      exact hname
  | some s =>
    obtain ⟨hmin, hcount, hpos⟩ := h
    refine ⟨le_depth_concat hmin fun heq => absurd heq hname, ?_, hpos⟩
    rw [countAt_concat_of_not (fun hand => hname hand.1)]
    exact hcount

/-- The standing that a whole scan ends with. -/
theorem Standing.describes_standing? (name : String) (all : List (Occurrence τ)) :
    Standing.Describes name all (standing? name all) := by
  induction all using List.reverseRecOn with
  | nil => exact fun o ho => absurd ho List.not_mem_nil
  | append_singleton all o ih =>
    rw [standing?, List.foldl_append]
    show Standing.Describes name (all ++ [o])
      (if o.field.name = name then some (Standing.add o.depth (standing? name all))
        else standing? name all)
    split
    · next hname => exact Standing.describes_add hname ih
    · next hname => exact Standing.describes_of_ne hname ih

/-- A name stands alone at a depth exactly if that is the rule's condition. -/
theorem standing?_eq_some_one_iff {all : List (Occurrence τ)} {o : Occurrence τ} (ho : o ∈ all) :
    standing? o.field.name all = some ⟨o.depth, 1⟩ ↔ SoleShallowest all o := by
  have hdesc := Standing.describes_standing? o.field.name all
  constructor
  · intro heq
    rw [heq] at hdesc
    exact ⟨hdesc.1, hdesc.2.1.symm⟩
  · rintro ⟨hmin, hone⟩
    cases hs : standing? o.field.name all with
    | none =>
      rw [hs] at hdesc
      exact absurd rfl (hdesc o ho)
    | some s =>
      rw [hs] at hdesc
      obtain ⟨hle, hcount, hpos⟩ := hdesc
      -- the two smallest depths are the same one
      obtain ⟨x, hx, hxname, hxdepth⟩ := countAt_pos_iff.1 (hcount ▸ hpos)
      have hdepth : s.depth = o.depth :=
        Nat.le_antisymm (hle o ho rfl) (hxdepth ▸ hmin x hx hxname)
      rw [hdepth, hone] at hcount
      obtain ⟨depth, count⟩ := s
      simp only at hdepth hcount
      rw [hdepth, hcount]

/-- The scan keeps the occurrences that the rule keeps. -/
theorem unshadowed_eq_filter (all : List (Occurrence τ)) :
    unshadowed all = all.filter (fun o => SoleShallowest all o) := by
  rw [unshadowed]
  apply List.filter_congr
  intro o ho
  rw [decide_eq_decide]
  exact standing?_eq_some_one_iff ho

/-- The fields that are kept are the only ones of their name at its smallest depth. -/
theorem mem_unshadowed {all : List (Occurrence τ)} {o : Occurrence τ} :
    o ∈ unshadowed all ↔ o ∈ all ∧ SoleShallowest all o := by
  rw [unshadowed_eq_filter, List.mem_filter, decide_eq_true_eq]

-- ---------------------------------------------------------------------------
-- What is kept and what is not
-- ---------------------------------------------------------------------------

/-- A kept occurrence is at least as close to the root as any other one of its name, and only itself
is as close. -/
theorem SoleShallowest.depth_le {all : List (Occurrence τ)} {o other : Occurrence τ}
    (h : SoleShallowest all o) (ho : o ∈ all) (hother : other ∈ all)
    (hname : other.field.name = o.field.name) :
    o.depth ≤ other.depth ∧ (other.depth = o.depth → other = o) := by
  refine ⟨h.1 other hother hname, fun hdepth => ?_⟩
  have hlen := h.2
  rw [countAt, List.countP_eq_length_filter, List.length_eq_one_iff] at hlen
  obtain ⟨x, hx⟩ := hlen
  have hmem : ∀ y ∈ all, y.field.name = o.field.name → y.depth = o.depth → y = x := by
    intro y hy hyname hydepth
    have : y ∈ all.filter fun y => y.field.name = o.field.name ∧ y.depth = o.depth :=
      List.mem_filter.2 ⟨hy, by simp [hyname, hydepth]⟩
    rw [hx] at this
    exact List.mem_singleton.1 this
  rw [hmem other hother hname hdepth, hmem o ho rfl rfl]

/-- Every name is kept at most once. -/
theorem nodup_names_unshadowed (all : List (Occurrence τ)) :
    ((unshadowed all).map (·.field.name)).Nodup := by
  rw [List.nodup_iff_count_le_one]
  intro name
  by_cases hkept : ∃ o ∈ unshadowed all, o.field.name = name
  · obtain ⟨o, ho, rfl⟩ := hkept
    obtain ⟨hoall, hsole⟩ := mem_unshadowed.1 ho
    calc ((unshadowed all).map (·.field.name)).count o.field.name
        = (unshadowed all).countP (fun x => x.field.name = o.field.name) := by
          rw [List.count, List.countP_map]
          rfl
      _ ≤ (unshadowed all).countP
            (fun x => x.field.name = o.field.name ∧ x.depth = o.depth) := by
          apply List.countP_mono_left
          intro x hx hxname
          simp only [decide_eq_true_eq] at hxname ⊢
          obtain ⟨hxall, hxsole⟩ := mem_unshadowed.1 hx
          exact ⟨hxname, Nat.le_antisymm (hxsole.1 o hoall hxname.symm) (hsole.1 x hxall hxname)⟩
      _ ≤ countAt o.field.name o.depth all :=
          List.Sublist.countP_le List.filter_sublist
      _ = 1 := hsole.2
  · have : ((unshadowed all).map (·.field.name)).count name = 0 := by
      rw [List.count_eq_zero]
      intro hmem
      obtain ⟨o, ho, hname⟩ := List.mem_map.1 hmem
      exact hkept ⟨o, ho, hname⟩
    omega

/-- Occurrences of different names hide nothing of each other. -/
theorem unshadowed_eq_self {all : List (Occurrence τ)} (hnodup : (all.map (·.field.name)).Nodup) :
    unshadowed all = all := by
  rw [unshadowed_eq_filter, List.filter_eq_self]
  intro o ho
  rw [decide_eq_true_eq]
  constructor
  · intro other hother hname
    have heq : other = o := List.inj_on_of_nodup_map hnodup hother ho hname
    exact heq ▸ Nat.le_refl _
  · have hpos : 0 < countAt o.field.name o.depth all := countAt_pos_iff.2 ⟨o, ho, rfl, rfl⟩
    have hle : countAt o.field.name o.depth all ≤ 1 := by
      calc countAt o.field.name o.depth all
          ≤ all.countP (fun x => x.field.name = o.field.name) := by
            apply List.countP_mono_left
            intro x _ hx
            exact decide_eq_true (of_decide_eq_true hx).1
        _ = (all.map (·.field.name)).count o.field.name := by
            rw [List.count, List.countP_map]
            rfl
        _ ≤ 1 := List.nodup_iff_count_le_one.1 hnodup _
    omega

/-- A name that occurs and is not kept occurs more than once at its smallest depth. -/
theorem two_le_countAt_of_not_kept {all : List (Occurrence τ)} {name : String}
    (hoccurs : ∃ o ∈ all, o.field.name = name)
    (hnot : ∀ o ∈ unshadowed all, o.field.name ≠ name) :
    ∃ depth, (∀ o ∈ all, o.field.name = name → depth ≤ o.depth) ∧
      2 ≤ countAt name depth all := by
  have hdesc := Standing.describes_standing? name all
  cases hs : standing? name all with
  | none =>
    rw [hs] at hdesc
    obtain ⟨o, ho, hname⟩ := hoccurs
    exact absurd hname (hdesc o ho)
  | some s =>
    rw [hs] at hdesc
    obtain ⟨hmin, hcount, hpos⟩ := hdesc
    refine ⟨s.depth, hmin, ?_⟩
    obtain ⟨o, ho, rfl, hdepth⟩ := countAt_pos_iff.1 (hcount ▸ hpos)
    have hne : countAt o.field.name s.depth all ≠ 1 := by
      intro hone
      apply hnot o _ rfl
      rw [mem_unshadowed, SoleShallowest, hdepth]
      exact ⟨ho, hmin, hone⟩
    omega

-- ---------------------------------------------------------------------------
-- Leaving out what is overshadowed
-- ---------------------------------------------------------------------------

section Overshadowed

variable {α : Type} {place : α → Occurrence τ} {keep : α → Bool} {items : List α}

theorem mem_map_of_mem_map_filter {o : Occurrence τ}
    (ho : o ∈ (items.filter keep).map place) : o ∈ items.map place :=
  (List.filter_sublist.map place).subset ho

variable (hover : ∀ x ∈ items, keep x = false → ∃ y ∈ items,
  (place y).field.name = (place x).field.name ∧ (place y).depth < (place x).depth)
include hover

/-- Every occurrence has one of its name among the kept ones that is at least as close. -/
theorem exists_kept_le {x : α} (hx : x ∈ items) :
    ∃ y ∈ items, keep y = true ∧ (place y).field.name = (place x).field.name ∧
      (place y).depth ≤ (place x).depth := by
  -- what overshadows an occurrence is closer to the root, so the depth decreases
  induction hd : (place x).depth using Nat.strongRecOn generalizing x with
  | _ d ih =>
    cases hkeep : keep x with
    | true => exact ⟨x, hx, hkeep, rfl, Nat.le_of_eq hd⟩
    | false =>
      obtain ⟨y, hy, hyname, hylt⟩ := hover x hx hkeep
      obtain ⟨z, hz, hzkeep, hzname, hzle⟩ := ih (place y).depth (hd ▸ hylt) hy rfl
      exact ⟨z, hz, hzkeep, hzname.trans hyname, by omega⟩

/-- The kept occurrences have the same lower bounds as all of them. -/
theorem forall_depth_le_iff_kept (name : String) (depth : Nat) :
    (∀ o ∈ items.map place, o.field.name = name → depth ≤ o.depth) ↔
      ∀ o ∈ (items.filter keep).map place, o.field.name = name → depth ≤ o.depth := by
  constructor
  · intro h o ho
    exact h o (mem_map_of_mem_map_filter ho)
  · intro h o ho hname
    obtain ⟨y, hy, rfl⟩ := List.mem_map.1 ho
    obtain ⟨z, hz, hzkeep, hzname, hzle⟩ := exists_kept_le hover hy
    have hzmem : place z ∈ (items.filter keep).map place :=
      List.mem_map_of_mem (List.mem_filter.2 ⟨hz, hzkeep⟩)
    exact Nat.le_trans (h (place z) hzmem (hzname.trans hname)) hzle

/-- Whatever has the smallest depth of its name is kept. -/
theorem keep_of_forall_depth_le {x : α} (hx : x ∈ items)
    (hmin : ∀ o ∈ items.map place, o.field.name = (place x).field.name →
      (place x).depth ≤ o.depth) :
    keep x = true := by
  by_contra hnot
  obtain ⟨y, hy, hyname, hylt⟩ := hover x hx (Bool.eq_false_iff.2 hnot)
  have hle : (place x).depth ≤ (place y).depth := hmin _ (List.mem_map_of_mem hy) hyname
  omega

/-- At the smallest depth of a name the kept occurrences are all of them. -/
theorem countAt_kept {name : String} {depth : Nat}
    (hmin : ∀ o ∈ items.map place, o.field.name = name → depth ≤ o.depth) :
    countAt name depth ((items.filter keep).map place) =
      countAt name depth (items.map place) := by
  rw [countAt, countAt, List.countP_map, List.countP_map, List.countP_filter]
  apply List.countP_congr
  intro x hx
  simp only [Function.comp_apply, decide_eq_true_eq, Bool.and_eq_true]
  constructor
  · exact And.left
  · rintro ⟨rfl, rfl⟩
    exact ⟨⟨rfl, rfl⟩, keep_of_forall_depth_le hover hx hmin⟩

/-- Items whose occurrence is overshadowed by another one may be left out before the rule is applied:
they neither have the smallest depth of their name nor count there. -/
theorem filter_soleShallowest_of_overshadowed :
    (items.map place).filter (fun o => SoleShallowest (items.map place) o) =
      ((items.filter keep).map place).filter
        (fun o => SoleShallowest ((items.filter keep).map place) o) := by
  rw [List.filter_map, List.filter_map, List.filter_filter]
  congr 1
  apply List.filter_congr
  intro x hx
  simp only [Function.comp_apply]
  rw [Bool.eq_iff_iff, Bool.and_eq_true, decide_eq_true_eq, decide_eq_true_eq]
  constructor
  · rintro ⟨hmin, hone⟩
    have hkeep : keep x = true := keep_of_forall_depth_le hover hx hmin
    exact ⟨⟨(forall_depth_le_iff_kept hover _ _).1 hmin, (countAt_kept hover hmin).trans hone⟩,
      hkeep⟩
  · rintro ⟨⟨hmin', hone⟩, -⟩
    have hmin := (forall_depth_le_iff_kept hover _ _).2 hmin'
    exact ⟨hmin, (countAt_kept hover hmin).symm.trans hone⟩

end Overshadowed

end TableSchema
