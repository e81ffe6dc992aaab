import Mathlib.Algebra.BigOperators.Group.Finset.Basic

/-!
# Resources that threads hold

A semaphore counts permits, and every thread holds some of them.  A pool marks
its entries as free or taken, and every thread holds at most one entry.  This
module has the counting behind both, over an arbitrary type of threads.

* `sum_of_frame` is the bookkeeping of one thread's step: when one summand
  changes, the sum changes by as much.
* `PoolInv` ties the marks of a pool to what the threads hold.  Taking the
  first free entry and giving an entry back keep it, and so does a new thread
  that holds nothing.  `PoolMove` is what one step may do to a pool.
  `PoolInv.firstFree_ne_none` finds a free entry while fewer threads hold one
  than the pool has.
-/

namespace Base.Resources

variable {ι : Type*} {S : Finset ι} {i : ι}

/-- One summand changes. -/
theorem sum_of_frame {f g : ι → ℕ} (hi : i ∈ S) (hframe : ∀ j, j ≠ i → g j = f j) :
    ∑ j ∈ S, g j + f i = ∑ j ∈ S, f j + g i := by
  classical
  have hrest : ∑ j ∈ S.erase i, g j = ∑ j ∈ S.erase i, f j :=
    Finset.sum_congr rfl fun j hj => hframe j (Finset.ne_of_mem_erase hj)
  rw [← Finset.add_sum_erase S g hi, ← Finset.add_sum_erase S f hi, hrest]
  omega

/-! ## Pools -/

/-- The first entry that is marked as free. -/
def firstFree (free : List Bool) : Option ℕ := free.findIdx? id

theorem firstFree_eq_some {free : List Bool} {entry : ℕ} (h : firstFree free = some entry) :
    free[entry]? = some true := by
  obtain ⟨hlt, hfree, _⟩ := List.findIdx?_eq_some_iff_getElem.1 h
  rw [List.getElem?_eq_getElem hlt]
  exact congrArg some hfree

theorem firstFree_eq_none {free : List Bool} (h : firstFree free = none) :
    free.count false = free.length := by
  rw [List.count_eq_length]
  intro mark hmark
  have hnot := List.findIdx?_eq_none_iff.1 h mark hmark
  exact hnot.symm

/-- The number of entries that a thread holds. -/
def held : Option ℕ → ℕ
  | none => 0
  | some _ => 1

theorem held_le_one (entry : Option ℕ) : held entry ≤ 1 := by
  cases entry with
  | none => exact Nat.zero_le 1
  | some e => exact Nat.le_refl 1

/-- The marks of a pool and the entry that each thread holds. -/
structure PoolInv (S : Finset ι) (free : List Bool) (entry : ι → Option ℕ) : Prop where
  taken : ∀ i ∈ S, ∀ e, entry i = some e → free[e]? = some false
  distinct : ∀ i ∈ S, ∀ j ∈ S, ∀ e, entry i = some e → entry j = some e → i = j
  busy : free.count false = ∑ i ∈ S, held (entry i)

/-- What one step may do to a pool: nothing, or take the first free entry, or
give an entry back. -/
def PoolMove (free free' : List Bool) (entry entry' : Option ℕ) : Prop :=
  (free' = free ∧ entry' = entry) ∨
    (∃ e, entry = none ∧ entry' = some e ∧ firstFree free = some e ∧ free' = free.set e false) ∨
    ∃ e, entry = some e ∧ entry' = none ∧ free' = free.set e true

theorem PoolMove.refl (free : List Bool) (entry : Option ℕ) : PoolMove free free entry entry :=
  Or.inl ⟨rfl, rfl⟩

theorem PoolMove.take {free : List Bool} {e : ℕ} (h : firstFree free = some e) :
    PoolMove free (free.set e false) none (some e) :=
  Or.inr (Or.inl ⟨e, rfl, rfl, h, rfl⟩)

theorem PoolMove.give (free : List Bool) (e : ℕ) :
    PoolMove free (free.set e true) (some e) none :=
  Or.inr (Or.inr ⟨e, rfl, rfl, rfl⟩)

theorem PoolMove.length_eq {free free' : List Bool} {entry entry' : Option ℕ}
    (h : PoolMove free free' entry entry') : free'.length = free.length := by
  rcases h with ⟨rfl, _⟩ | ⟨e, _, _, _, rfl⟩ | ⟨e, _, _, rfl⟩
  · rfl
  · exact List.length_set
  · exact List.length_set

theorem count_false_take {free : List Bool} {e : ℕ} (h : free[e]? = some true) :
    (free.set e false).count false = free.count false + 1 := by
  obtain ⟨hlt, hfree⟩ := List.getElem?_eq_some_iff.1 h
  rw [List.count_set hlt, hfree]
  simp

theorem count_false_give {free : List Bool} {e : ℕ} (h : free[e]? = some false) :
    (free.set e true).count false + 1 = free.count false := by
  obtain ⟨hlt, hfree⟩ := List.getElem?_eq_some_iff.1 h
  have hpos : 0 < free.count false := List.count_pos_iff.2 (hfree ▸ List.getElem_mem hlt)
  rw [List.count_set hlt, hfree]
  simp
  omega

namespace PoolInv

variable {free : List Bool} {entry entry' : ι → Option ℕ} {e : ℕ}

/-- The first free entry goes to a thread without one. -/
theorem take (h : PoolInv S free entry) (hi : i ∈ S) (hnone : entry i = none)
    (hfree : firstFree free = some e) (hmoved : entry' i = some e)
    (hframe : ∀ j, j ≠ i → entry' j = entry j) : PoolInv S (free.set e false) entry' := by
  have hmark := firstFree_eq_some hfree
  have hother : ∀ j ∈ S, j ≠ i → ∀ d, entry' j = some d → free[d]? = some false ∧ d ≠ e := by
    intro j hj hne d hd
    rw [hframe j hne] at hd
    have htaken := h.taken j hj d hd
    refine ⟨htaken, fun heq => ?_⟩
    rw [heq, hmark] at htaken
    cases htaken
  refine ⟨?_, ?_, ?_⟩
  · intro j hj d hd
    rw [List.getElem?_set]
    by_cases hne : j = i
    · rw [hne, hmoved] at hd
      cases hd
      rw [if_pos rfl, if_pos (List.getElem?_eq_some_iff.1 hmark).1]
    · obtain ⟨htaken, hde⟩ := hother j hj hne d hd
      rw [if_neg (Ne.symm hde)]
      exact htaken
  · intro j hj k hk d hjd hkd
    by_cases hji : j = i
    · by_cases hki : k = i
      · rw [hji, hki]
      · rw [hji, hmoved] at hjd
        cases hjd
        exact absurd rfl (hother k hk hki e hkd).2
    · by_cases hki : k = i
      · rw [hki, hmoved] at hkd
        cases hkd
        exact absurd rfl (hother j hj hji e hjd).2
      · rw [hframe j hji] at hjd
        rw [hframe k hki] at hkd
        exact h.distinct j hj k hk d hjd hkd
  · have hsum := sum_of_frame (f := fun j => held (entry j)) (g := fun j => held (entry' j)) hi
      fun j hj => congrArg held (hframe j hj)
    rw [hnone, hmoved] at hsum
    rw [count_false_take hmark, h.busy]
    exact hsum.symm

/-- An entry comes back. -/
theorem give (h : PoolInv S free entry) (hi : i ∈ S) (hholds : entry i = some e)
    (hmoved : entry' i = none) (hframe : ∀ j, j ≠ i → entry' j = entry j) :
    PoolInv S (free.set e true) entry' := by
  have hmark := h.taken i hi e hholds
  have hother : ∀ j, ∀ d, entry' j = some d → j ≠ i ∧ entry j = some d := by
    intro j d hd
    have hne : j ≠ i := fun heq => by
      rw [heq, hmoved] at hd
      cases hd
    exact ⟨hne, (hframe j hne).symm.trans hd⟩
  refine ⟨?_, ?_, ?_⟩
  · intro j hj d hd
    obtain ⟨hne, hold⟩ := hother j d hd
    have hde : e ≠ d := fun heq => hne (h.distinct j hj i hi d hold (heq ▸ hholds))
    rw [List.getElem?_set, if_neg hde]
    exact h.taken j hj d hold
  · intro j hj k hk d hjd hkd
    exact h.distinct j hj k hk d (hother j d hjd).2 (hother k d hkd).2
  · have hsum := sum_of_frame (f := fun j => held (entry j)) (g := fun j => held (entry' j)) hi
      fun j hj => congrArg held (hframe j hj)
    rw [hholds, hmoved] at hsum
    have hcount := count_false_give hmark
    rw [h.busy] at hcount
    exact Nat.add_right_cancel (hcount.trans hsum.symm)

/-- A step of one thread. -/
theorem move {free' : List Bool} (h : PoolInv S free entry) (hi : i ∈ S)
    (hmove : PoolMove free free' (entry i) (entry' i))
    (hframe : ∀ j, j ≠ i → entry' j = entry j) : PoolInv S free' entry' := by
  rcases hmove with ⟨hmarks, hsame⟩ | ⟨e, hnone, hmoved, hfree, hmarks⟩ |
    ⟨e, hholds, hmoved, hmarks⟩
  · have hentries : entry' = entry := by
      funext j
      by_cases hj : j = i
      · rw [hj, hsame]
      · exact hframe j hj
    rwa [hmarks, hentries]
  · rw [hmarks]
    exact h.take hi hnone hfree hmoved hframe
  · rw [hmarks]
    exact h.give hi hholds hmoved hframe

/-- A thread that holds nothing joins. -/
theorem insert [DecidableEq ι] (h : PoolInv S free entry) (hi : i ∉ S) (hnone : entry i = none) :
    PoolInv (Insert.insert i S) free entry := by
  have hmem : ∀ j ∈ Insert.insert i S, ∀ d, entry j = some d → j ∈ S := by
    intro j hj d hd
    refine (Finset.mem_insert.1 hj).resolve_left fun heq => ?_
    rw [heq, hnone] at hd
    cases hd
  refine ⟨fun j hj d hd => h.taken j (hmem j hj d hd) d hd, ?_, ?_⟩
  · intro j hj k hk d hjd hkd
    exact h.distinct j (hmem j hj d hjd) k (hmem k hk d hkd) d hjd hkd
  · rw [Finset.sum_insert hi, hnone, h.busy]
    exact (Nat.zero_add _).symm

theorem firstFree_ne_none (h : PoolInv S free entry)
    (hlt : ∑ i ∈ S, held (entry i) < free.length) : firstFree free ≠ none := by
  intro hnone
  have hcount := firstFree_eq_none hnone
  rw [h.busy] at hcount
  omega

end PoolInv

end Base.Resources
