import Mathlib.Algebra.BigOperators.Group.List.Basic
import Mathlib.Algebra.Order.Floor.Div

/-!
# Windows of a list

Workers that share a list read windows of one size: worker `i` of `n` skips
`size * i` entries and takes `size`.  Together the windows are a front part of
the list (`windows_eq_take`), and they are the whole list exactly when they
are long enough (`windows_perm_iff`).

Without a window size every worker reads the whole list, and
`flatMap_const_perm_iff` says when that is the list once.  A size of
`count ⌈/⌉ n` is enough for `count` entries, which is
`length_le_ceilDiv_mul`.
-/

namespace Base.Window

variable {α : Type*}

/-- The window of worker `i`. -/
def window (size i : Nat) (xs : List α) : List α := (xs.drop (size * i)).take size

/-- The windows of the workers below `n`, one after the other. -/
def windows (size n : Nat) (xs : List α) : List α :=
  (List.range n).flatMap fun i => window size i xs

theorem windows_eq_take (size n : Nat) (xs : List α) :
    windows size n xs = xs.take (size * n) := by
  unfold windows
  induction n with
  | zero => simp
  | succ n ih =>
    rw [List.range_succ, List.flatMap_append, ih, List.flatMap_singleton, window, Nat.mul_succ,
      List.take_add]

/-- The windows cover the list exactly when they are long enough. -/
theorem windows_perm_iff (size n : Nat) (xs : List α) :
    (windows size n xs).Perm xs ↔ xs.length ≤ size * n := by
  rw [windows_eq_take]
  constructor
  · intro h
    have hlen := h.length_eq
    rw [List.length_take] at hlen
    omega
  · intro h
    rw [List.take_of_length_le h]

theorem length_le_ceilDiv_mul {xs : List α} {count n : Nat} (hn : 0 < n)
    (h : xs.length ≤ count) : xs.length ≤ (count ⌈/⌉ n) * n := by
  have hcount : count ≤ n * (count ⌈/⌉ n) := (ceilDiv_le_iff_le_mul hn).1 le_rfl
  rw [Nat.mul_comm]
  omega

/-- Copies of a list are the list when there is one copy or nothing in it. -/
theorem flatMap_const_perm_iff (n : Nat) (xs : List α) :
    ((List.range n).flatMap fun _ => xs).Perm xs ↔ n = 1 ∨ xs = [] := by
  constructor
  · intro h
    have hlen := h.length_eq
    rw [List.length_flatMap, List.map_const', List.sum_replicate, List.length_range,
      smul_eq_mul] at hlen
    by_cases hnil : xs = []
    · exact Or.inr hnil
    · left
      have hpos := List.length_pos_iff.2 hnil
      exact Nat.eq_of_mul_eq_mul_right hpos (by omega)
  · intro h
    cases h with
    | inl h => simp [h]
    | inr h => simp [h]

end Base.Window
