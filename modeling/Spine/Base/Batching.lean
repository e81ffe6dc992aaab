import Mathlib.Algebra.BigOperators.Group.List.Basic
import Mathlib.Data.List.Induction
import Mathlib.Data.List.Nodup
import Mathlib.Tactic.Linarith

/-!
# Greedy batching

A writer that collects entries in a bounded buffer closes the buffer when the
next entry would reach a limit, and opens a new one with that entry.  The
state holds the closed batches, the open one, and the tracked size of the
open one.  An open batch starts at the size `base` of an empty buffer, and
each entry adds its `cost`.

The three facts that callers need are:

* `run_flatten`: the batches, in order, are the entries, in order;
* `run_size`: the tracked size is the size of the open batch;
* `run_closed`: when every entry fits an empty buffer, every closed batch has
  an entry and stays below the limit.

`batches` adds the open batch when it has an entry, and `batches_flatten` and
`batches_spec` restate the facts for that list.

Whatever made the batches, `place_unique` says that an entry has one place in
them when no two entries have the same key.  `place_cases` finds a batch among
the old ones or at the end when one was added.
-/

namespace Base.Batching

variable {α : Type*}

/-- The closed batches, the open batch, and the tracked size of the open
batch. -/
structure State (α : Type*) where
  closed : List (List α)
  current : List α
  size : Nat

/-- No entry yet, and an empty buffer of size `base`. -/
def start (base : Nat) : State α := ⟨[], [], base⟩

/-- Close the open batch when `x` would reach the limit, then add `x`. -/
def add (cost : α → Nat) (base limit : Nat) (s : State α) (x : α) : State α :=
  if limit ≤ s.size + cost x then
    ⟨s.closed ++ [s.current], [x], base + cost x⟩
  else
    ⟨s.closed, s.current ++ [x], s.size + cost x⟩

/-- Add every entry in turn. -/
def run (cost : α → Nat) (base limit : Nat) (xs : List α) : State α :=
  xs.foldl (add cost base limit) (start base)

/-- The closed batches, and the open one when it has an entry. -/
def State.batches (s : State α) : List (List α) :=
  if s.current.isEmpty then s.closed else s.closed ++ [s.current]

/-- The size of a buffer that holds `xs`. -/
def batchSize (cost : α → Nat) (base : Nat) (xs : List α) : Nat := base + (xs.map cost).sum

section Facts

variable (cost : α → Nat) (base limit : Nat)

theorem batchSize_append_singleton (xs : List α) (x : α) :
    batchSize cost base (xs ++ [x]) = batchSize cost base xs + cost x := by
  simp [batchSize, Nat.add_assoc]

@[simp] theorem run_nil : run cost base limit [] = start base := rfl

theorem run_append_singleton (xs : List α) (x : α) :
    run cost base limit (xs ++ [x]) = add cost base limit (run cost base limit xs) x := by
  simp [run, List.foldl_append]

/-- No entry is lost, repeated or moved. -/
theorem run_flatten (xs : List α) :
    (run cost base limit xs).closed.flatten ++ (run cost base limit xs).current = xs := by
  induction xs using List.reverseRecOn with
  | nil => rfl
  | append_singleton xs x ih =>
    rw [run_append_singleton, add]
    split
    · simp only [List.flatten_append, List.flatten_singleton]
      rw [ih]
    · simp only [← List.append_assoc]
      rw [ih]

/-- The tracked size is the size of the open batch. -/
theorem run_size (xs : List α) :
    (run cost base limit xs).size = batchSize cost base (run cost base limit xs).current := by
  induction xs using List.reverseRecOn with
  | nil => simp [start, batchSize]
  | append_singleton xs x ih =>
    rw [run_append_singleton, add]
    split
    · simp [batchSize]
    · simp only [batchSize_append_singleton, ih]

variable {cost base limit}

/-- When each entry fits an empty buffer, a closed batch has an entry and
stays below the limit, and so does the open batch. -/
theorem run_closed {xs : List α} (hbase : base < limit)
    (hfit : ∀ x ∈ xs, base + cost x < limit) :
    (∀ b ∈ (run cost base limit xs).closed, b ≠ [] ∧ batchSize cost base b < limit) ∧
      batchSize cost base (run cost base limit xs).current < limit := by
  induction xs using List.reverseRecOn with
  | nil => simpa [start, batchSize] using hbase
  | append_singleton xs x ih =>
    have hx : base + cost x < limit := hfit x (by simp)
    obtain ⟨hclosed, hcurrent⟩ := ih fun y hy => hfit y (by simp [hy])
    have hsize := run_size cost base limit xs
    rw [run_append_singleton, add]
    split
    · rename_i hfull
      refine ⟨?_, by simpa [batchSize] using hx⟩
      intro b hb
      simp only [List.mem_append, List.mem_singleton] at hb
      rcases hb with hb | rfl
      · exact hclosed b hb
      · refine ⟨?_, hcurrent⟩
        -- An empty open batch has size `base`, and then `x` fits.
        intro hnil
        rw [hsize, hnil] at hfull
        simp only [batchSize, List.map_nil, List.sum_nil, Nat.add_zero] at hfull
        omega
    · rename_i hroom
      refine ⟨hclosed, ?_⟩
      simp only [batchSize_append_singleton, ← hsize]
      omega

/-- The batches, in order, are the entries, in order. -/
theorem batches_flatten (xs : List α) :
    (run cost base limit xs).batches.flatten = xs := by
  have h := run_flatten cost base limit xs
  rw [State.batches]
  split
  · rename_i hnil
    rw [List.isEmpty_iff.1 hnil, List.append_nil] at h
    exact h
  · simpa using h

theorem batches_spec {xs : List α} (hbase : base < limit)
    (hfit : ∀ x ∈ xs, base + cost x < limit) :
    ∀ b ∈ (run cost base limit xs).batches, b ≠ [] ∧ batchSize cost base b < limit := by
  obtain ⟨hclosed, hcurrent⟩ := run_closed hbase hfit
  intro b hb
  rw [State.batches] at hb
  split at hb
  · exact hclosed b hb
  · rename_i hne
    simp only [List.mem_append, List.mem_singleton] at hb
    rcases hb with hb | rfl
    · exact hclosed b hb
    · exact ⟨by simpa using hne, hcurrent⟩

/-- Entries that fit one buffer together are one open batch. -/
theorem run_of_lt {xs : List α} (h : batchSize cost base xs < limit) :
    run cost base limit xs = ⟨[], xs, batchSize cost base xs⟩ := by
  induction xs using List.reverseRecOn with
  | nil => rfl
  | append_singleton xs x ih =>
    rw [batchSize_append_singleton] at h
    rw [run_append_singleton, ih (by omega), add, if_neg (by dsimp only; omega),
      batchSize_append_singleton]

/-- An entry that does not fit an empty buffer closes a batch without an entry. -/
theorem run_singleton_of_le {x : α} (h : limit ≤ base + cost x) :
    run cost base limit [x] = ⟨[[]], [x], base + cost x⟩ :=
  if_pos h

end Facts

/-! ## Places -/

/-- With one more at the end, a place holds an old one or is the last. -/
theorem place_cases {batches : List α} {last b : α} {k : Nat}
    (h : (batches ++ [last])[k]? = some b) :
    batches[k]? = some b ∨ k = batches.length ∧ b = last := by
  rw [List.getElem?_append] at h
  split at h
  · exact Or.inl h
  · rename_i hge
    obtain ⟨hzero, hlast⟩ : k - batches.length = 0 ∧ last = b := by
      simpa [List.getElem?_singleton] using h
    exact Or.inr ⟨by omega, hlast.symm⟩

/-- Entries with one key stand at one place. -/
theorem place_unique {β γ : Type*} {batches : List α} {entries : α → List β} {key : β → γ}
    (h : ((batches.flatMap entries).map key).Nodup) {k k' j j' : Nat} {b b' : α} {x x' : β}
    (hb : batches[k]? = some b) (hx : (entries b)[j]? = some x)
    (hb' : batches[k']? = some b') (hx' : (entries b')[j']? = some x') (hkey : key x = key x') :
    k = k' ∧ j = j' := by
  rw [List.map_flatMap, List.nodup_flatMap] at h
  obtain ⟨hinside, hbetween⟩ := h
  have hx_mem : key x ∈ (entries b).map key := List.mem_map_of_mem (List.mem_of_getElem? hx)
  have hx_mem' : key x' ∈ (entries b').map key := List.mem_map_of_mem (List.mem_of_getElem? hx')
  -- Two batches share no key.
  have hlt : ∀ {m n : Nat} {c d : α}, batches[m]? = some c → batches[n]? = some d →
      key x ∈ (entries c).map key → key x ∈ (entries d).map key → ¬ m < n := by
    intro m n c d hc hd hmc hmd hmn
    obtain ⟨hm, rfl⟩ := List.getElem?_eq_some_iff.1 hc
    obtain ⟨hn, rfl⟩ := List.getElem?_eq_some_iff.1 hd
    exact List.pairwise_iff_getElem.1 hbetween m n hm hn hmn hmc hmd
  have hk : k = k' := by
    have h1 := hlt hb hb' hx_mem (hkey ▸ hx_mem')
    have h2 := hlt hb' hb (hkey ▸ hx_mem') hx_mem
    omega
  subst hk
  cases hb.symm.trans hb'
  refine ⟨rfl, ?_⟩
  have hj : j < ((entries b).map key).length := by
    rw [List.length_map]
    exact (List.getElem?_eq_some_iff.1 hx).1
  refine (List.getElem?_inj hj (hinside b (List.mem_of_getElem? hb))).1 ?_
  rw [List.getElem?_map, List.getElem?_map, hx, hx', Option.map_some, Option.map_some, hkey]

end Base.Batching
