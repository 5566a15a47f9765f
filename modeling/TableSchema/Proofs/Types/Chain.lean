import Mathlib.Data.List.Dedup
import Mathlib.Data.List.Perm.Subperm
import TableSchema.Proofs.Types.Wrapping

/-!
# Chains of wrappers

Taking the wrappers off a type one by one gives a chain of types. It ends at a type without wrapper, or
it comes back to one of its own types and goes on in a circle. Resolution follows the chain as long as
it meets types that it has not met before.

* `beneath?` — the chain; `DistinctTo` — how far it has no type twice.
* `Walk`, `exists_walk_follow` — resolution as a relation between its turns, and that it comes to an
  end.
* `Visited`, `Visited.turn`, `Visited.of_walk` — what is known of the chain after some turns, kept by
  one turn and by all of them; `exists_walk_resolve` — the same of resolution.
* `resolve_type_of_end` — the base type of a chain that ends.
* `resolve_last_distinct` — the base type and its wrappers, whether or not the chain ends.
-/

namespace TableSchema

namespace TypeGraph

variable {τ : Type}

-- ---------------------------------------------------------------------------
-- Chains
-- ---------------------------------------------------------------------------

/-- The type is a pointer or a nullable value. -/
def IsWrapper (g : TypeGraph τ) (t : τ) : Prop :=
  (g.shape t).body.kind = .pointer ∨ (g.shape t).body.kind = .nullable

/-- The type under `n` wrappers of `t`, if there are as many. -/
def beneath? (g : TypeGraph τ) (t : τ) : Nat → Option τ
  | 0 => some t
  | n + 1 => (g.beneath? t n).bind fun u => (g.unwrap? u).map Prod.fst

/-- The chain of wrappers that starts at `t` comes to an end. -/
def ChainEnds (g : TypeGraph τ) (t : τ) : Prop :=
  ∃ n, g.beneath? t n = none

/-- The chain goes on to place `n`, and up to there no type is in it twice. -/
structure DistinctTo (g : TypeGraph τ) (t : τ) (n : Nat) : Prop where
  there : ∀ i ≤ n, (g.beneath? t i).isSome = true
  distinct : ∀ i ≤ n, ∀ j ≤ n, g.beneath? t i = g.beneath? t j → i = j

/-- The wrapper at place `i` of the chain is an optional pointer or a nullable value. -/
def AdmitsAt (g : TypeGraph τ) (t : τ) (i : Nat) : Prop :=
  ∃ u v, g.beneath? t i = some u ∧ g.beneath? t (i + 1) = some v ∧
    ((g.shape u).body = .pointer v true ∨ (g.shape u).body = .nullable v)

variable {g : TypeGraph τ} {t u : τ}

theorem not_isWrapper_iff : ¬ g.IsWrapper t ↔ g.unwrap? t = none := by
  rw [IsWrapper, unwrap?]
  cases (g.shape t).body <;> simp [Body.kind, Body.unwrap?]

/-- Absence is admitted by optional pointers and by nullable types. -/
theorem unwrap?_eq_some_true_iff {v : τ} :
    g.unwrap? u = some (v, true) ↔
      (g.shape u).body = .pointer v true ∨ (g.shape u).body = .nullable v := by
  rw [unwrap?]
  cases (g.shape u).body <;> simp [Body.unwrap?]

/-- One place further down is what is wrapped at the place above. -/
theorem beneath?_succ {n : Nat} (h : g.beneath? t n = some u) :
    g.beneath? t (n + 1) = (g.unwrap? u).map Prod.fst := by
  rw [beneath?, h, Option.bind_some]

/-- The chain from one of its places on is the chain of the type there. -/
theorem beneath?_add (m n : Nat) :
    g.beneath? t (m + n) = (g.beneath? t m).bind (g.beneath? · n) := by
  induction n with
  | zero =>
    show g.beneath? t m = (g.beneath? t m).bind some
    rw [Option.bind_fun_some]
  | succ n ih =>
    show (g.beneath? t (m + n)).bind _ = _
    rw [ih, Option.bind_assoc]
    rfl

theorem beneath?_eq_none_of_le {m n : Nat} (h : g.beneath? t m = none) (hmn : m ≤ n) :
    g.beneath? t n = none := by
  obtain ⟨d, rfl⟩ := Nat.exists_eq_add_of_le hmn
  rw [beneath?_add, h, Option.bind_none]

theorem isSome_beneath?_of_le {m n : Nat} (h : g.beneath? t n = some u) (hmn : m ≤ n) :
    (g.beneath? t m).isSome = true := by
  by_contra hnone
  rw [Option.not_isSome_iff_eq_none] at hnone
  have := beneath?_eq_none_of_le hnone hmn
  rw [h] at this
  cases this

/-- A chain stays among the types that can be reached. -/
theorem mem_reach_of_beneath? {n : Nat} (h : g.beneath? t n = some u) : u ∈ g.reach t := by
  induction n generalizing u with
  | zero =>
    obtain rfl := Option.some.inj h
    exact g.mem_reach_self t
  | succ n ih =>
    rw [beneath?, Option.bind_eq_some_iff] at h
    obtain ⟨v, hv, hu⟩ := h
    obtain ⟨⟨next, admits⟩, hnext, rfl⟩ := Option.map_eq_some_iff.mp hu
    exact g.mem_reach_of_unwrap? (ih hv) hnext

theorem beneath?_succ_of_end {n : Nat} (hu : g.beneath? t n = some u) (hend : g.unwrap? u = none) :
    g.beneath? t (n + 1) = none := by
  rw [beneath?_succ hu, hend]
  rfl

/-- A type without wrapper has no place of the chain behind its own. -/
theorem le_of_end {m n : Nat} {v : τ} (hu : g.beneath? t n = some u) (hend : g.unwrap? u = none)
    (hv : g.beneath? t m = some v) : m ≤ n := by
  by_contra hnm
  have := beneath?_eq_none_of_le (beneath?_succ_of_end hu hend) (show n + 1 ≤ m by omega)
  rw [hv] at this
  cases this

/-- A chain that ends does so at a type without wrapper. -/
theorem ChainEnds.exists_end (h : g.ChainEnds t) :
    ∃ n u, g.beneath? t n = some u ∧ g.unwrap? u = none := by
  obtain ⟨n, hn⟩ := h
  induction n with
  | zero => cases hn
  | succ n ih =>
    cases hu : g.beneath? t n with
    | none => exact ih hu
    | some u =>
      rw [beneath?_succ hu, Option.map_eq_none_iff] at hn
      exact ⟨n, u, hu, hn⟩

theorem DistinctTo.mono {m n : Nat} (h : g.DistinctTo t n) (hmn : m ≤ n) : g.DistinctTo t m where
  there i hi := h.there i (Nat.le_trans hi hmn)
  distinct i hi j hj := h.distinct i (Nat.le_trans hi hmn) j (Nat.le_trans hj hmn)

theorem distinctTo_zero (g : TypeGraph τ) (t : τ) : g.DistinctTo t 0 where
  there i hi := by
    obtain rfl := Nat.le_zero.mp hi
    rfl
  distinct i hi j hj _ := (Nat.le_zero.mp hi).trans (Nat.le_zero.mp hj).symm

/-- One more type that is not in the chain so far. -/
theorem DistinctTo.succ {n : Nat} (h : g.DistinctTo t n) (hu : g.beneath? t (n + 1) = some u)
    (hnew : ∀ i ≤ n, g.beneath? t i ≠ some u) : g.DistinctTo t (n + 1) := by
  constructor
  case there =>
    intro i hi
    exact isSome_beneath?_of_le hu hi
  case distinct =>
    intro i hi j hj heq
    rcases Nat.lt_or_ge i (n + 1) with hin | hin
    · rcases Nat.lt_or_ge j (n + 1) with hjn | hjn
      · exact h.distinct i (by omega) j (by omega) heq
      · obtain rfl : j = n + 1 := by omega
        exact absurd (heq.trans hu) (hnew i (by omega))
    · obtain rfl : i = n + 1 := by omega
      rcases Nat.lt_or_ge j (n + 1) with hjn | hjn
      · exact absurd (heq.symm.trans hu) (hnew j (by omega))
      · omega

/-- A chain that ends has no type twice: from a repeated type on it would have to end twice, at different
places. -/
theorem distinctTo_of_end {n : Nat} (hu : g.beneath? t n = some u) (hend : g.unwrap? u = none) :
    g.DistinctTo t n := by
  have hlast := beneath?_succ_of_end hu hend
  have hne : ∀ i j, i < j → j ≤ n → g.beneath? t i ≠ g.beneath? t j := by
    intro i j hij hjn heq
    -- as far behind `i` as the end is behind `j` the chain ends as well
    have hearly : g.beneath? t (i + (n - j + 1)) = none := by
      rw [beneath?_add, heq, ← beneath?_add, show j + (n - j + 1) = n + 1 by omega, hlast]
    have hsome := isSome_beneath?_of_le hu (show i + (n - j + 1) ≤ n by omega)
    rw [hearly] at hsome
    cases hsome
  constructor
  case there =>
    intro i hi
    exact isSome_beneath?_of_le hu hi
  case distinct =>
    intro i hi j hj heq
    rcases Nat.lt_trichotomy i j with hij | hij | hij
    · exact absurd heq (hne i j hij hj)
    · exact hij
    · exact absurd heq.symm (hne j i hij hi)

-- ---------------------------------------------------------------------------
-- Walks
-- ---------------------------------------------------------------------------

/-- `Walk seen t optional n r`: the resolution that has come to `t`, has met the types `seen` and has been
admitted `optional` ends with `r` when `n` more wrappers are taken off. -/
inductive Walk (g : TypeGraph τ) : List τ → τ → Bool → Nat → Resolved τ → Prop
  /-- There is no wrapper to take off. -/
  | bare {seen : List τ} {t : τ} {optional : Bool} :
      g.unwrap? t = none → Walk g seen t optional 0 ⟨t, optional⟩
  /-- What is under the wrapper has been met. The wrapper stays on, whatever it admits. -/
  | closed {seen : List τ} {t next : τ} {optional admits : Bool} :
      g.unwrap? t = some (next, admits) → next ∈ seen → Walk g seen t optional 0 ⟨t, optional⟩
  /-- What is under the wrapper is new. -/
  | turn {seen : List τ} {t next : τ} {optional admits : Bool} {n : Nat} {r : Resolved τ} :
      g.unwrap? t = some (next, admits) → next ∉ seen →
      Walk g (next :: seen) next (optional || admits) n r → Walk g seen t optional (n + 1) r

/-- A walk ends in one way only. -/
theorem Walk.unique {seen : List τ} {optional : Bool} {n n' : Nat} {r r' : Resolved τ}
    (h : g.Walk seen t optional n r) (h' : g.Walk seen t optional n' r') : n' = n ∧ r' = r := by
  induction h generalizing n' r' with
  | bare hnone =>
    cases h' with
    | bare _ => exact ⟨rfl, rfl⟩
    | closed _ _ => exact ⟨rfl, rfl⟩
    | turn hsome _ _ =>
      rw [hnone] at hsome
      cases hsome
  | closed hsome hmem =>
    cases h' with
    | bare _ => exact ⟨rfl, rfl⟩
    | closed _ _ => exact ⟨rfl, rfl⟩
    | turn hsome' hnew _ =>
      rw [hsome] at hsome'
      cases hsome'
      exact absurd hmem hnew
  | turn hsome hnew _ ih =>
    cases h' with
    | bare hnone =>
      rw [hnone] at hsome
      cases hsome
    | closed hsome' hmem =>
      rw [hsome] at hsome'
      cases hsome'
      exact absurd hmem hnew
    | turn hsome' _ hrest =>
      rw [hsome] at hsome'
      cases hsome'
      obtain ⟨rfl, rfl⟩ := ih hrest
      exact ⟨rfl, rfl⟩

-- ---------------------------------------------------------------------------
-- What a walk has met
-- ---------------------------------------------------------------------------

/-- What is known when the walk from `t` has come to `u` after `n` turns. -/
structure Visited (g : TypeGraph τ) (t : τ) (n : Nat) (seen : List τ) (u : τ) (optional : Bool) :
    Prop where
  place : g.beneath? t n = some u
  distinct : g.DistinctTo t n
  mem_seen : ∀ v, v ∈ seen ↔ ∃ i ≤ n, g.beneath? t i = some v
  nodup : seen.Nodup
  length : seen.length = n + 1
  optional : optional = true ↔ ∃ i < n, g.AdmitsAt t i

theorem visited_zero (g : TypeGraph τ) (t : τ) : g.Visited t 0 [t] t false where
  place := rfl
  distinct := g.distinctTo_zero t
  mem_seen v := by
    rw [List.mem_singleton]
    constructor
    · rintro rfl
      exact ⟨0, Nat.le_refl 0, rfl⟩
    · rintro ⟨i, hi, hv⟩
      obtain rfl := Nat.le_zero.mp hi
      exact (Option.some.inj hv).symm
  nodup := List.nodup_singleton t
  length := rfl
  optional := by simp

/-- Taking off one more wrapper. -/
theorem Visited.turn {n : Nat} {seen : List τ} {optional admits : Bool} {next : τ}
    (h : g.Visited t n seen u optional) (hsome : g.unwrap? u = some (next, admits))
    (hnew : next ∉ seen) : g.Visited t (n + 1) (next :: seen) next (optional || admits) := by
  have hplace : g.beneath? t (n + 1) = some next := by
    rw [beneath?_succ h.place, hsome]
    rfl
  have hadmits : admits = true ↔ g.AdmitsAt t n := by
    constructor
    · rintro rfl
      exact ⟨u, next, h.place, hplace, unwrap?_eq_some_true_iff.mp hsome⟩
    · rintro ⟨u', v, hu', -, hbody⟩
      obtain rfl := Option.some.inj (h.place.symm.trans hu')
      have := hsome.symm.trans (unwrap?_eq_some_true_iff.mpr hbody)
      exact congrArg Prod.snd (Option.some.inj this)
  constructor
  case place => exact hplace
  case distinct =>
    apply h.distinct.succ hplace
    intro i hi heq
    exact hnew ((h.mem_seen next).mpr ⟨i, hi, heq⟩)
  case mem_seen =>
    intro v
    rw [List.mem_cons, h.mem_seen]
    constructor
    · rintro (rfl | ⟨i, hi, hv⟩)
      · exact ⟨n + 1, Nat.le_refl _, hplace⟩
      · exact ⟨i, Nat.le_succ_of_le hi, hv⟩
    · rintro ⟨i, hi, hv⟩
      rcases Nat.lt_or_ge i (n + 1) with hin | hin
      · exact .inr ⟨i, by omega, hv⟩
      · obtain rfl : i = n + 1 := by omega
        exact .inl (Option.some.inj (hv.symm.trans hplace))
  case nodup => exact List.nodup_cons.mpr ⟨hnew, h.nodup⟩
  case length => rw [List.length_cons, h.length]
  case optional =>
    rw [Bool.or_eq_true, h.optional, hadmits]
    constructor
    · rintro (⟨i, hi, hat⟩ | hat)
      · exact ⟨i, by omega, hat⟩
      · exact ⟨n, by omega, hat⟩
    · rintro ⟨i, hi, hat⟩
      rcases Nat.lt_or_ge i n with hin | hin
      · exact .inl ⟨i, hin, hat⟩
      · obtain rfl : i = n := by omega
        exact .inr hat

/-- Where a walk stops, there is no wrapper, or what is under the wrapper has been met. -/
theorem Visited.of_walk {m n : Nat} {seen : List τ} {optional : Bool} {r : Resolved τ}
    (h : g.Visited t m seen u optional) (hwalk : g.Walk seen u optional n r) :
    ∃ met, g.Visited t (m + n) met r.type r.optional ∧
      (g.unwrap? r.type = none ∨
        ∃ next admits, g.unwrap? r.type = some (next, admits) ∧ next ∈ met) := by
  induction hwalk generalizing m with
  | bare hnone => exact ⟨_, h, .inl hnone⟩
  | closed hsome hmem => exact ⟨_, h, .inr ⟨_, _, hsome, hmem⟩⟩
  | @turn _ _ _ _ _ n _ hsome hnew _ ih =>
    rw [show m + (n + 1) = m + 1 + n by omega]
    exact ih (h.turn hsome hnew)

/-- Where a walk stops, the chain ends or comes back to one of its types. -/
theorem Visited.not_distinctTo_succ {n : Nat} {seen : List τ} {optional : Bool}
    (h : g.Visited t n seen u optional)
    (hstop : g.unwrap? u = none ∨
      ∃ next admits, g.unwrap? u = some (next, admits) ∧ next ∈ seen) :
    ¬ g.DistinctTo t (n + 1) := by
  intro hdistinct
  have hnext := beneath?_succ h.place
  rcases hstop with hnone | ⟨next, admits, hunwrap, hmem⟩
  · have hsome := hdistinct.there (n + 1) (Nat.le_refl _)
    rw [hnext, hnone] at hsome
    cases hsome
  · obtain ⟨i, hi, hat⟩ := (h.mem_seen next).mp hmem
    rw [hunwrap] at hnext
    have := hdistinct.distinct i (by omega) (n + 1) (Nat.le_refl _) (hat.trans hnext.symm)
    omega

/-- The types that have been met are different types that `t` leads to. -/
theorem Visited.lt_length_reach [DecidableEq τ] {n : Nat} {seen : List τ} {optional : Bool}
    (h : g.Visited t n seen u optional) : n < (g.reach t).dedup.length := by
  have hsub : seen ⊆ (g.reach t).dedup := by
    intro v hv
    obtain ⟨i, -, hat⟩ := (h.mem_seen v).mp hv
    exact List.mem_dedup.mpr (mem_reach_of_beneath? hat)
  have hle := (List.subperm_of_subset h.nodup hsub).length_le
  rw [h.length] at hle
  omega

-- ---------------------------------------------------------------------------
-- Resolution
-- ---------------------------------------------------------------------------

variable [DecidableEq τ]

/-- Following a type is a walk of some length. -/
theorem exists_walk_follow {root : τ} {seen : List τ} {optional : Bool} (ht : t ∈ g.reach root) :
    ∃ n, g.Walk seen t optional n (g.follow root seen t optional ht) := by
  fun_induction follow g root seen t optional ht with
  | case1 seen t optional ht hnone => exact ⟨0, .bare hnone⟩
  | case2 seen t optional ht next admits hsome hmem => exact ⟨0, .closed hsome hmem⟩
  | case3 seen t optional ht next admits hsome hnew hn ih =>
    obtain ⟨n, hwalk⟩ := ih
    exact ⟨n + 1, .turn hsome hnew hwalk⟩

/-- Resolution is a walk, and what it has met when it stops is known. -/
theorem exists_walk_resolve (g : TypeGraph τ) (t : τ) :
    ∃ n met, g.Walk [t] t false n (g.resolve t) ∧
      g.Visited t n met (g.resolve t).type (g.resolve t).optional ∧
      (g.unwrap? (g.resolve t).type = none ∨
        ∃ next admits, g.unwrap? (g.resolve t).type = some (next, admits) ∧ next ∈ met) := by
  obtain ⟨n, hwalk⟩ : ∃ n, g.Walk [t] t false n (g.resolve t) :=
    exists_walk_follow (g.mem_reach_self t)
  obtain ⟨met, hvisited, hstop⟩ := (g.visited_zero t).of_walk hwalk
  rw [Nat.zero_add] at hvisited
  exact ⟨n, met, hwalk, hvisited, hstop⟩

/-- A chain that ends gives its last type as base type. -/
theorem resolve_type_of_end {n : Nat} (hu : g.beneath? t n = some u) (hend : g.unwrap? u = none) :
    (g.resolve t).type = u := by
  obtain ⟨k, met, -, hvisited, hstop⟩ := g.exists_walk_resolve t
  have hkn : k ≤ n := le_of_end hu hend hvisited.place
  rcases Nat.lt_or_ge k n with hlt | hge
  · exact absurd ((distinctTo_of_end hu hend).mono hlt) (hvisited.not_distinctTo_succ hstop)
  · obtain rfl : k = n := by omega
    exact Option.some.inj (hvisited.place.symm.trans hu)

/--
**What a type resolves to.** Resolution takes off as many wrappers as it can without meeting a type
twice, and then it ends; they are fewer than the types that the first one leads to. If the chain of
wrappers ends, the base type is its first type without wrapper, and it is the base type of every type of
the chain. Otherwise it is the last type in front of the first repetition, which is a wrapper around a
type that has been met. A value may be absent if one of the wrappers that were taken off says so; the
wrapper that stays on does not count.
-/
theorem resolve_last_distinct (g : TypeGraph τ) (t : τ) :
    ∃ k, (∀ n, g.DistinctTo t n ↔ n ≤ k) ∧
      (∀ n r, g.Walk [t] t false n r ↔ n = k ∧ r = g.resolve t) ∧
      k < (g.reach t).dedup.length ∧
      g.beneath? t k = some (g.resolve t).type ∧
      (g.ChainEnds t → ¬ g.IsWrapper (g.resolve t).type ∧
        (∀ i < k, ∀ u, g.beneath? t i = some u → g.IsWrapper u) ∧
        ∀ i u, g.beneath? t i = some u → (g.resolve u).type = (g.resolve t).type) ∧
      (¬ g.ChainEnds t → g.IsWrapper (g.resolve t).type ∧
        ∃ i ≤ k, g.beneath? t (k + 1) = g.beneath? t i) ∧
      ((g.resolve t).optional = true ↔ ∃ i < k, g.AdmitsAt t i) := by
  obtain ⟨k, met, hwalk, hvisited, hstop⟩ := g.exists_walk_resolve t
  have hnext := beneath?_succ hvisited.place
  refine ⟨k, ?largest, ?terminates, hvisited.lt_length_reach, hvisited.place, ?ends, ?circles,
    hvisited.optional⟩
  case largest =>
    intro n
    constructor
    · intro hn
      by_contra hkn
      exact hvisited.not_distinctTo_succ hstop (hn.mono (by omega))
    · intro hn
      exact hvisited.distinct.mono hn
  case terminates =>
    intro n r
    constructor
    · intro h
      exact hwalk.unique h
    · rintro ⟨rfl, rfl⟩
      exact hwalk
  case ends =>
    intro hends
    obtain ⟨n, u, hu, hend⟩ := hends.exists_end
    have hbase := resolve_type_of_end hu hend
    refine ⟨?_, ?_, ?_⟩
    · rw [not_isWrapper_iff, hbase]
      exact hend
    · intro i hi v hv
      by_contra hbare
      rw [not_isWrapper_iff] at hbare
      have hsome := hvisited.distinct.there (i + 1) hi
      rw [beneath?_succ hv, hbare] at hsome
      cases hsome
    · intro i v hv
      -- the end of the chain is as well the end of the chain from any of its types
      have hin : i ≤ n := le_of_end hu hend hv
      have hrest : g.beneath? v (n - i) = some u := by
        rw [← hu, show n = i + (n - i) by omega, beneath?_add, hv, Option.bind_some,
          show i + (n - i) - i = n - i by omega]
      rw [hbase, resolve_type_of_end hrest hend]
  case circles =>
    intro hnot
    rcases hstop with hnone | ⟨next, admits, hunwrap, hmem⟩
    · refine absurd ⟨k + 1, ?_⟩ hnot
      rw [hnext, hnone]
      rfl
    · obtain ⟨i, hi, hat⟩ := (hvisited.mem_seen next).mp hmem
      refine ⟨?_, i, hi, ?_⟩
      · by_contra hbare
        rw [not_isWrapper_iff, hunwrap] at hbare
        cases hbare
      · rw [hnext, hunwrap, hat]
        rfl

/-- Two types that point at each other. -/
inductive Circle where
  | ping
  | pong
deriving DecidableEq

/-- One of the two pointers is optional. -/
def pingPong : TypeGraph Circle where
  shape
    | .ping => ⟨"Ping", .pointer .pong false, false⟩
    | .pong => ⟨"Pong", .pointer .ping true, false⟩
  reach _ := [.ping, .pong]
  mem_reach_self t := by cases t <;> decide
  mem_reach_of_mentions {_ _ u} _ _ := by cases u <;> decide

/-- Where a circle is entered makes a difference: the wrapper that closes it is not taken off. -/
example : pingPong.resolve .ping = ⟨.pong, false⟩ := by cbv
example : pingPong.resolve .pong = ⟨.ping, true⟩ := by cbv

end TypeGraph

end TableSchema
