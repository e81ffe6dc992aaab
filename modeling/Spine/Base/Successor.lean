import Mathlib.Data.List.Lex
import Mathlib.Order.Lattice

/-!
# Walks over a sorted list

A walk over a strictly sorted list goes from an element to the next greater
one.  What is left of the walk is the list of the elements after the current
one (`after`): its head is the next element (`next_eq_head`), and the step to
that element leaves the tail (`after_of_cons`).

For lists in lexicographic order, the lists with a common front part are an
interval that starts at that part (`isPrefix_of_between`), so a walk from there
meets all of them before it meets another one.
-/

namespace Base.Successor

variable {α : Type*} [LinearOrder α]

/-- The first element that is greater than `x`. -/
def next (xs : List α) (x : α) : Option α := xs.find? fun y => decide (x < y)

/-- The elements that are greater than `x`. -/
def after (xs : List α) (x : α) : List α := xs.filter fun y => decide (x < y)

theorem mem_after {xs : List α} {x y : α} : y ∈ after xs x ↔ y ∈ xs ∧ x < y := by
  rw [after, List.mem_filter, decide_eq_true_iff]

theorem next_eq_head (xs : List α) (x : α) : next xs x = (after xs x).head? :=
  List.head?_filter.symm

/-- The step to the next element leaves the rest. -/
theorem after_of_cons {xs rest : List α} {x y : α} (hsorted : xs.Pairwise (· < ·))
    (h : after xs x = y :: rest) : after xs y = rest := by
  have hy : x < y := (mem_after.1 (h ▸ List.mem_cons_self)).2
  have hrest : ∀ z ∈ rest, y < z := by
    have hfiltered : (after xs x).Pairwise (· < ·) := hsorted.filter _
    rw [h] at hfiltered
    exact (List.pairwise_cons.1 hfiltered).1
  have htwice : after xs y = after (after xs x) y := by
    unfold after
    rw [List.filter_filter]
    refine List.filter_congr fun z _ => ?_
    by_cases hz : y < z
    · simp [hz, hy.trans hz]
    · simp [hz]
  rw [htwice, h, after, List.filter_cons_of_neg (by simp), List.filter_eq_self]
  intro z hz
  exact decide_eq_true (hrest z hz)

/-- The lists with one front part are an interval. -/
theorem isPrefix_of_between {root a b : List α} (hb : root <+: b) (hroot : ¬ a < root)
    (hab : ¬ b < a) : root <+: a := by
  induction root generalizing a b with
  | nil => exact List.nil_prefix
  | cons r root ih =>
    obtain ⟨rest, rfl⟩ := hb
    cases a with
    | nil => exact absurd (List.nil_lt_cons r root) hroot
    | cons x a =>
      rw [List.cons_append] at hab
      rw [List.cons_lt_cons_iff, not_or] at hroot hab
      obtain rfl : r = x := le_antisymm (not_lt.1 hroot.1) (not_lt.1 hab.1)
      refine List.cons_prefix_cons.2 ⟨rfl, ih (List.prefix_append root rest) ?_ ?_⟩
      · exact fun h => hroot.2 ⟨rfl, h⟩
      · exact fun h => hab.2 ⟨rfl, h⟩

end Base.Successor
