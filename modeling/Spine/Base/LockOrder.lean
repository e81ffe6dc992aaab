import Mathlib.Algebra.Order.BigOperators.Group.Finset
import Spine.Base.Interleaving

/-!
# Locks that are taken in an order

A thread takes and gives back locks.  Its program lists these operations; what it does
between them does not matter here.  A lock that another thread holds blocks `lock`, but
not `tryLock`, which goes on in another way.

* `Prog` is a program, and `step` lets one thread of several make its next operation.
* `Ordered rank held p after` says that the program takes a lock only while it holds
  locks of a lower rank, and that it gives back what it took.  `Nested` is the form in
  which programs are put together.
* `progress`: if every thread keeps to the order, then a thread that is not finished
  means that some thread can go on.
* `run_length_le`: every operation is made once, so a run ends.
-/

namespace Base.LockOrder

open Base.Interleaving

variable {ι L : Type*}

/-- The operations of a thread on its locks. -/
inductive Prog (L : Type*) where
  | done
  | lock (l : L) (next : Prog L)
  | unlock (l : L) (next : Prog L)
  | tryLock (l : L) (taken busy : Prog L)

/-- One program after the other. -/
def Prog.seq : Prog L → Prog L → Prog L
  | .done, q => q
  | .lock l next, q => .lock l (next.seq q)
  | .unlock l next, q => .unlock l (next.seq q)
  | .tryLock l taken busy, q => .tryLock l (taken.seq q) (busy.seq q)

/-- A program that runs while a lock is held. -/
def Prog.within (l : L) (body : Prog L) : Prog L := .lock l (body.seq (.unlock l .done))

/-- The most operations that a program can make. -/
def Prog.size : Prog L → ℕ
  | .done => 0
  | .lock _ next => next.size + 1
  | .unlock _ next => next.size + 1
  | .tryLock _ taken busy => max taken.size busy.size + 1

/-! ## The order -/

section Order

variable [DecidableEq L] {rank : L → ℕ} {held mid after : Finset L} {p q : Prog L} {r s : ℕ}
  {l : L}

/-- From the locks `held` the program comes to `after`.  A lock that it waits for has a
higher rank than those that it holds, and it gives back only what it holds. -/
def Ordered (rank : L → ℕ) : Finset L → Prog L → Finset L → Prop
  | held, .done, after => held = after
  | held, .lock l next, after =>
    (∀ k ∈ held, rank k < rank l) ∧ Ordered rank (insert l held) next after
  | held, .unlock l next, after => l ∈ held ∧ Ordered rank (held.erase l) next after
  | held, .tryLock l taken busy, after =>
    l ∉ held ∧ Ordered rank (insert l held) taken after ∧ Ordered rank held busy after

theorem Ordered.seq (hp : Ordered rank held p mid) (hq : Ordered rank mid q after) :
    Ordered rank held (p.seq q) after := by
  induction p generalizing held with
  | done =>
    cases hp
    exact hq
  | lock l next ih => exact ⟨hp.1, ih hp.2⟩
  | unlock l next ih => exact ⟨hp.1, ih hp.2⟩
  | tryLock l taken busy ihTaken ihBusy => exact ⟨hp.1, ihTaken hp.2.1, ihBusy hp.2.2⟩

/-- A program that can run while locks below a rank are held, and that holds the same
locks at its end. -/
def Nested (rank : L → ℕ) (r : ℕ) (p : Prog L) : Prop :=
  ∀ held, (∀ k ∈ held, rank k < r) → Ordered rank held p held

theorem nested_done : Nested rank r .done := fun _ _ => rfl

theorem Nested.mono (h : Nested rank s p) (hle : r ≤ s) : Nested rank r p :=
  fun held hheld => h held fun k hk => Nat.lt_of_lt_of_le (hheld k hk) hle

theorem Nested.seq (hp : Nested rank r p) (hq : Nested rank r q) : Nested rank r (p.seq q) :=
  fun held hheld => (hp held hheld).seq (hq held hheld)

/-- The locks that are held once `l` is taken as well. -/
theorem forall_insert_lt (hheld : ∀ k ∈ held, rank k < r) (hle : r ≤ rank l) :
    ∀ k ∈ insert l held, rank k < rank l + 1 := by
  intro k hk
  rcases Finset.mem_insert.1 hk with rfl | hmem
  · exact Nat.lt_succ_self _
  · have hlt := hheld k hmem
    omega

omit [DecidableEq L] in
theorem notMem_of_rank (hheld : ∀ k ∈ held, rank k < r) (hle : r ≤ rank l) : l ∉ held := by
  intro hmem
  have hlt := hheld l hmem
  omega

/-- What is done between taking `l` and giving it back. -/
theorem ordered_unlock (hp : Nested rank (rank l + 1) p) (hheld : ∀ k ∈ held, rank k < r)
    (hle : r ≤ rank l) (hq : Ordered rank held q after) :
    Ordered rank (insert l held) (p.seq (.unlock l q)) after := by
  refine (hp _ (forall_insert_lt hheld hle)).seq ⟨Finset.mem_insert_self l held, ?_⟩
  rw [Finset.erase_insert (notMem_of_rank hheld hle)]
  exact hq

theorem Nested.within (hp : Nested rank (rank l + 1) p) (hle : r ≤ rank l) :
    Nested rank r (.within l p) := by
  intro held hheld
  refine ⟨fun k hk => Nat.lt_of_lt_of_le (hheld k hk) hle, ?_⟩
  exact ordered_unlock hp hheld hle rfl

/-- A lock that is tried: what is done with it, what follows, and what is done without
it. -/
theorem Nested.tryLock {busy : Prog L} (hp : Nested rank (rank l + 1) p) (hle : r ≤ rank l)
    (hq : Nested rank r q) (hbusy : Nested rank r busy) :
    Nested rank r (.tryLock l (p.seq (.unlock l q)) busy) := by
  intro held hheld
  refine ⟨notMem_of_rank hheld hle, ?_, hbusy held hheld⟩
  exact ordered_unlock hp hheld hle (hq held hheld)

end Order

/-! ## Threads -/

section Threads

variable [DecidableEq ι] [DecidableEq L]

/-- The next operation of a thread.  The shared state is the owner of each lock. -/
def step : Step ι Unit (L → Option ι) (Prog L) := fun i _ owner p =>
  match p with
  | .done => none
  | .lock l next => if owner l = none then some (Function.update owner l (some i), next) else none
  | .unlock l next =>
    if owner l = some i then some (Function.update owner l none, next) else none
  | .tryLock l taken busy =>
    if owner l = none then some (Function.update owner l (some i), taken) else some (owner, busy)

/-- Every thread follows the order from the locks that it holds. -/
def Disciplined (rank : L → ℕ) (c : Config ι (L → Option ι) (Prog L)) : Prop :=
  ∀ i, ∃ held : Finset L, (∀ l, l ∈ held ↔ c.shared l = some i) ∧
    Ordered rank held (c.locals i) ∅

variable {rank : L → ℕ} {c c' : Config ι (L → Option ι) (Prog L)} {i : ι} {l : L}
  {owner : L → Option ι} {held : Finset L}

omit [DecidableEq ι] in
/-- A lock that changes its owner between two others. -/
theorem held_of_others {o : Option ι} (hheld : ∀ k, k ∈ held ↔ owner k = some i)
    (hbefore : owner l ≠ some i) (hafter : o ≠ some i) (k : L) :
    k ∈ held ↔ Function.update owner l o k = some i := by
  by_cases hk : k = l
  · rw [hk, Function.update_self]
    exact iff_of_false (fun hmem => hbefore ((hheld l).1 hmem)) hafter
  · rw [Function.update_of_ne hk]
    exact hheld k

omit [DecidableEq ι] in
theorem held_insert (hheld : ∀ k, k ∈ held ↔ owner k = some i) (k : L) :
    k ∈ insert l held ↔ Function.update owner l (some i) k = some i := by
  by_cases hk : k = l
  · rw [hk, Function.update_self]
    exact iff_of_true (Finset.mem_insert_self l held) rfl
  · rw [Function.update_of_ne hk, Finset.mem_insert, or_iff_right hk]
    exact hheld k

omit [DecidableEq ι] in
theorem held_erase (hheld : ∀ k, k ∈ held ↔ owner k = some i) (k : L) :
    k ∈ held.erase l ↔ Function.update owner l none k = some i := by
  by_cases hk : k = l
  · rw [hk, Function.update_self]
    exact iff_of_false (Finset.notMem_erase l held) (fun h => by cases h)
  · rw [Function.update_of_ne hk, Finset.mem_erase, and_iff_right hk]
    exact hheld k

/-- What one operation of a thread does. -/
theorem step_cases {p next : Prog L} {owner' : L → Option ι}
    (h : step i () owner p = some (owner', next)) :
    (∃ l, p = .lock l next ∧ owner l = none ∧ owner' = Function.update owner l (some i)) ∨
    (∃ l, p = .unlock l next ∧ owner l = some i ∧ owner' = Function.update owner l none) ∨
    (∃ l busy, p = .tryLock l next busy ∧ owner l = none ∧
      owner' = Function.update owner l (some i)) ∨
    ∃ l taken, p = .tryLock l taken next ∧ owner' = owner := by
  cases p with
  | done => cases h
  | lock l rest =>
    unfold step at h
    dsimp only at h
    split_ifs at h with hfree
    cases h
    exact Or.inl ⟨l, rfl, hfree, rfl⟩
  | unlock l rest =>
    unfold step at h
    dsimp only at h
    split_ifs at h with hmine
    cases h
    exact Or.inr (Or.inl ⟨l, rfl, hmine, rfl⟩)
  | tryLock l taken busy =>
    unfold step at h
    dsimp only at h
    split_ifs at h with hfree
    · cases h
      exact Or.inr (Or.inr (Or.inl ⟨l, busy, rfl, hfree, rfl⟩))
    · cases h
      exact Or.inr (Or.inr (Or.inr ⟨l, taken, rfl, rfl⟩))

/-- The other threads hold what they held. -/
theorem step_others {j : ι} {p next : Prog L} {owner' : L → Option ι}
    (h : step i () owner p = some (owner', next)) (hj : j ≠ i)
    (hheld : ∀ k, k ∈ held ↔ owner k = some j) (k : L) : k ∈ held ↔ owner' k = some j := by
  have hij : some i ≠ some j := fun heq => hj (Option.some.inj heq).symm
  have hnone : (none : Option ι) ≠ some j := fun heq => by cases heq
  rcases step_cases h with ⟨l, -, hfree, rfl⟩ | ⟨l, -, hmine, rfl⟩ | ⟨l, -, -, hfree, rfl⟩ |
    ⟨l, -, -, rfl⟩
  · exact held_of_others hheld (hfree ▸ hnone) hij k
  · exact held_of_others hheld (hmine ▸ hij) hnone k
  · exact held_of_others hheld (hfree ▸ hnone) hij k
  · exact hheld k

theorem Disciplined.stepAt {e : ι × Unit} (h : Disciplined rank c)
    (hstep : Interleaving.stepAt step c e = some c') : Disciplined rank c' := by
  obtain ⟨owner', next, hmove, hshared, hlocal, hframe⟩ := stepAt_eq_some hstep
  intro j
  obtain ⟨held, hheld, hordered⟩ := h j
  rw [hshared]
  by_cases hj : j = e.1
  · rw [hj] at hheld hordered ⊢
    rw [hlocal]
    rcases step_cases hmove with ⟨l, hp, -, rfl⟩ | ⟨l, hp, -, rfl⟩ | ⟨l, busy, hp, -, rfl⟩ |
      ⟨l, taken, hp, rfl⟩
    · rw [hp] at hordered
      exact ⟨insert l held, held_insert hheld, hordered.2⟩
    · rw [hp] at hordered
      exact ⟨held.erase l, held_erase hheld, hordered.2⟩
    · rw [hp] at hordered
      exact ⟨insert l held, held_insert hheld, hordered.2.1⟩
    · rw [hp] at hordered
      exact ⟨held, hheld, hordered.2.2⟩
  · rw [hframe j hj]
    exact ⟨held, step_others hmove hj hheld, hordered⟩

/-- A thread that keeps to the order and cannot go on waits for a lock that is held. -/
theorem waits_of_stuck (h : Disciplined rank c) (hlive : c.locals i ≠ .done)
    (hstuck : Interleaving.stepAt step c (i, ()) = none) :
    ∃ l next j, c.locals i = .lock l next ∧ c.shared l = some j := by
  obtain ⟨held, hheld, hordered⟩ := h i
  have hnone : step i () c.shared (c.locals i) = none := Option.map_eq_none_iff.1 hstuck
  cases hp : c.locals i with
  | done => exact absurd hp hlive
  | lock l next =>
    rw [hp] at hnone
    unfold step at hnone
    dsimp only at hnone
    split_ifs at hnone with hfree
    obtain ⟨j, hj⟩ := Option.ne_none_iff_exists'.1 hfree
    exact ⟨l, next, j, rfl, hj⟩
  | unlock l next =>
    rw [hp] at hnone hordered
    have hmine : c.shared l = some i := (hheld l).1 hordered.1
    unfold step at hnone
    dsimp only at hnone
    rw [if_pos hmine] at hnone
    cases hnone
  | tryLock l taken busy =>
    rw [hp] at hnone
    unfold step at hnone
    dsimp only at hnone
    split_ifs at hnone

/-- No deadlock: as long as a thread is not finished, some thread can go on. -/
theorem progress {bound : ℕ} (hbound : ∀ l, rank l ≤ bound) (h : Disciplined rank c)
    (hlive : c.locals i ≠ .done) : ∃ j, (Interleaving.stepAt step c (j, ())).isSome := by
  by_contra hnone
  have hstuck : ∀ j, Interleaving.stepAt step c (j, ()) = none := fun j =>
    Option.not_isSome_iff_eq_none.1 fun hsome => hnone ⟨j, hsome⟩
  -- The owner of a lock that is waited for waits itself, for a lock of a higher rank.
  have hclimb : ∀ n, ∀ j l next, c.locals j = .lock l next → bound - rank l < n → False := by
    intro n
    induction n with
    | zero => exact fun _ _ _ _ hlt => Nat.not_lt_zero _ hlt
    | succ n ih =>
      intro j l next hj hlt
      have hjlive : c.locals j ≠ .done := fun hdone => by rw [hdone] at hj; cases hj
      obtain ⟨l', next', k, hj', howner⟩ := waits_of_stuck h hjlive (hstuck j)
      rw [hj] at hj'
      cases hj'
      obtain ⟨held, hheld, hordered⟩ := h k
      have hmem : l ∈ held := (hheld l).2 howner
      have hklive : c.locals k ≠ .done := by
        intro hdone
        rw [hdone] at hordered
        rw [show held = ∅ from hordered] at hmem
        exact Finset.notMem_empty l hmem
      obtain ⟨l', next', -, hk, -⟩ := waits_of_stuck h hklive (hstuck k)
      rw [hk] at hordered
      have hrank := hordered.1 l hmem
      have hle := hbound l'
      exact ih k l' next' hk (by omega)
  obtain ⟨l, next, -, hi, -⟩ := waits_of_stuck h hlive (hstuck i)
  exact hclimb _ i l next hi (Nat.lt_succ_self _)

omit [DecidableEq ι] in
/-- When every thread is finished, every lock is free. -/
theorem free_of_done (h : Disciplined rank c) (hdone : ∀ i, c.locals i = .done) (l : L) :
    c.shared l = none := by
  by_contra howned
  obtain ⟨i, hi⟩ := Option.ne_none_iff_exists'.1 howned
  obtain ⟨held, hheld, hordered⟩ := h i
  rw [hdone i] at hordered
  have hmem := (hheld l).2 hi
  rw [show held = ∅ from hordered] at hmem
  exact Finset.notMem_empty l hmem

/-! ## Runs -/

/-- An operation takes a thread forward. -/
theorem step_size {p next : Prog L} {owner' : L → Option ι}
    (h : step i () owner p = some (owner', next)) : next.size + 1 ≤ p.size := by
  rcases step_cases h with ⟨l, rfl, -, -⟩ | ⟨l, rfl, -, -⟩ | ⟨l, busy, rfl, -, -⟩ |
    ⟨l, taken, rfl, -⟩
  · exact Nat.le_refl _
  · exact Nat.le_refl _
  · exact Nat.succ_le_succ (Nat.le_max_left _ _)
  · exact Nat.succ_le_succ (Nat.le_max_right _ _)

/-- A run makes no more operations than the threads had left. -/
theorem run_length_le [Fintype ι] {trace : List (ι × Unit)}
    (h : run step c trace = some c') :
    trace.length + ∑ i, (c'.locals i).size ≤ ∑ i, (c.locals i).size := by
  induction trace generalizing c with
  | nil =>
    cases h
    exact Nat.le_of_eq (Nat.zero_add _)
  | cons e trace ih =>
    obtain ⟨d, hd, hrest⟩ := run_cons_eq_some h
    obtain ⟨owner', next, hmove, -, hlocal, hframe⟩ := stepAt_eq_some hd
    have hstep := step_size hmove
    have hsum : ∑ i, (d.locals i).size + 1 ≤ ∑ i, (c.locals i).size := by
      rw [Nat.succ_le_iff]
      refine Finset.sum_lt_sum (fun j _ => ?_) ⟨e.1, Finset.mem_univ _, ?_⟩
      · by_cases hj : j = e.1
        · rw [hj, hlocal]
          omega
        · rw [hframe j hj]
      · rw [hlocal]
        omega
    have hlater := ih hrest
    rw [List.length_cons]
    omega

end Threads

end Base.LockOrder
