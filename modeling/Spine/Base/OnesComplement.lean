import Mathlib.Data.List.Basic
import Mathlib.Data.Nat.ModEq

/-!
# Ones' complement sums

Numbers of `width` bits with two zeros: all bits clear and all bits set.  An
addition that leaves the width brings its carry back in at the low end.

* `add` is the addition with end-around carry, and `sum` adds a list of words.
* `reduce` is the value that all of this computes in closed form: a positive
  number is taken modulo `2 ^ width - 1` into the range from one, so that only
  zero has the value zero.  `sum_eq_reduce` is the connection.
* `fold` adds the high part of a number to its low part.  It keeps `reduce`, so a
  number that fits after some folds is its reduction.
* `reduce_add_complement`: a sum with its own complement has all bits set.

The width is a parameter.
-/

namespace Base.OnesComplement

variable {width : Nat}

/-- The word with all bits set. -/
def allOnes (width : Nat) : Nat := 2 ^ width - 1

/-- Addition with end-around carry. -/
def add (width a b : Nat) : Nat :=
  if a + b ≤ allOnes width then a + b else a + b - allOnes width

/-- The sum of some words. -/
def sum (width : Nat) (words : List Nat) : Nat := words.foldl (add width) 0

/-- A number brought into the width: zero stays zero. -/
def reduce (width n : Nat) : Nat := if n = 0 then 0 else (n - 1) % allOnes width + 1

/-- The high part added to the low part. -/
def fold (width n : Nat) : Nat := n / 2 ^ width + n % 2 ^ width

theorem two_pow_eq (width : Nat) : 2 ^ width = allOnes width + 1 := by
  have hpos := Nat.two_pow_pos width
  unfold allOnes
  omega

/-! ## Reduction -/

/-- A number of the width is its own reduction. -/
theorem reduce_of_le {n : Nat} (h : n ≤ allOnes width) : reduce width n = n := by
  unfold reduce
  split
  · omega
  · rw [Nat.mod_eq_of_lt (by omega)]
    omega

theorem reduce_le {n : Nat} (hwidth : 0 < allOnes width) : reduce width n ≤ allOnes width := by
  have hmod := Nat.mod_lt (n - 1) hwidth
  unfold reduce
  split
  · omega
  · omega

theorem reduce_modEq (n : Nat) : reduce width n ≡ n [MOD allOnes width] := by
  unfold reduce
  split
  · rename_i hzero
    rw [hzero]
  · have hmod := (Nat.mod_modEq (n - 1) (allOnes width)).add_right 1
    rwa [Nat.sub_add_cancel (by omega)] at hmod

theorem reduce_eq_zero_iff (n : Nat) : reduce width n = 0 ↔ n = 0 := by
  unfold reduce
  split
  · simp [*]
  · simp [*]

/-- The reduction depends on the residue, and on whether the number is zero. -/
theorem reduce_congr {a b : Nat} (hmod : a ≡ b [MOD allOnes width]) (hzero : a = 0 ↔ b = 0) :
    reduce width a = reduce width b := by
  unfold reduce
  by_cases ha : a = 0
  · rw [if_pos ha, if_pos (hzero.1 ha)]
  · have hb : b ≠ 0 := fun hb => ha (hzero.2 hb)
    rw [if_neg ha, if_neg hb]
    have hpred : a - 1 ≡ b - 1 [MOD allOnes width] := by
      apply Nat.ModEq.add_right_cancel' 1
      rwa [Nat.sub_add_cancel (by omega), Nat.sub_add_cancel (by omega)]
    rw [hpred]

/-- A part of a sum may be reduced first. -/
theorem reduce_reduce_add (a b : Nat) :
    reduce width (reduce width a + b) = reduce width (a + b) := by
  apply reduce_congr ((reduce_modEq a).add_right b)
  rw [Nat.add_eq_zero_iff, Nat.add_eq_zero_iff, reduce_eq_zero_iff]

/-! ## Sums -/

/-- The carry comes back in at the low end. -/
theorem add_eq_reduce {a b : Nat} (ha : a ≤ allOnes width) (hb : b ≤ allOnes width) :
    add width a b = reduce width (a + b) := by
  unfold add
  split
  · rename_i hfits
    exact (reduce_of_le hfits).symm
  · rename_i hcarry
    unfold reduce
    have hmod : (a + b - 1) % allOnes width = a + b - 1 - allOnes width := by
      rw [Nat.mod_eq_sub_mod (by omega), Nat.mod_eq_of_lt (by omega)]
    rw [if_neg (by omega), hmod]
    omega

theorem sum_eq_reduce (hwidth : 0 < allOnes width) {words : List Nat}
    (h : ∀ word ∈ words, word ≤ allOnes width) : sum width words = reduce width words.sum := by
  -- The accumulator is the reduction of what was added so far.
  have hfrom : ∀ (start : Nat), words.foldl (add width) (reduce width start) =
      reduce width (start + words.sum) := by
    induction words with
    | nil => intro start; rw [List.foldl_nil, List.sum_nil, Nat.add_zero]
    | cons word words ih =>
      intro start
      have hword := h word List.mem_cons_self
      rw [List.foldl_cons, add_eq_reduce (reduce_le hwidth) hword, reduce_reduce_add,
        ih (fun other hother => h other (List.mem_cons_of_mem _ hother)), List.sum_cons,
        Nat.add_assoc]
  have hsum := hfrom 0
  rwa [Nat.zero_add] at hsum

/-! ## Folds -/

theorem fold_modEq (n : Nat) : fold width n ≡ n [MOD allOnes width] := by
  have hsplit : n = fold width n + allOnes width * (n / 2 ^ width) := by
    have hdiv := Nat.div_add_mod n (2 ^ width)
    have hexpand : 2 ^ width * (n / 2 ^ width) =
        allOnes width * (n / 2 ^ width) + n / 2 ^ width := by
      rw [two_pow_eq, Nat.add_mul, Nat.one_mul]
    unfold fold
    omega
  conv_rhs => rw [hsplit]
  exact (Nat.add_mul_mod_self_left _ _ _).symm

theorem fold_eq_zero_iff (n : Nat) : fold width n = 0 ↔ n = 0 := by
  have hdiv := Nat.div_add_mod n (2 ^ width)
  unfold fold
  constructor
  · intro h
    obtain ⟨hhigh, hlow⟩ := Nat.add_eq_zero_iff.1 h
    rw [hhigh, hlow] at hdiv
    exact hdiv.symm
  · intro h
    rw [h, Nat.zero_div, Nat.zero_mod]

theorem reduce_fold (n : Nat) : reduce width (fold width n) = reduce width n :=
  reduce_congr (fold_modEq n) (fold_eq_zero_iff n)

/-! ## Complements -/

/-- A positive multiple of the modulus reduces to the word with all bits set. -/
theorem reduce_eq_allOnes {n : Nat} (hpos : 0 < n) (hmod : n ≡ 0 [MOD allOnes width])
    (hwidth : 0 < allOnes width) : reduce width n = allOnes width := by
  have hfull : n ≡ allOnes width [MOD allOnes width] :=
    hmod.trans (Nat.modEq_zero_iff_dvd.2 (Nat.dvd_refl _)).symm
  rw [reduce_congr hfull (by omega), reduce_of_le (Nat.le_refl _)]

/-- A sum and its own complement add up to the word with all bits set. -/
theorem reduce_add_complement (hwidth : 0 < allOnes width) (n : Nat) :
    reduce width (n + (allOnes width - reduce width n)) = allOnes width := by
  have hle : reduce width n ≤ allOnes width := reduce_le hwidth
  have hzero : reduce width n = 0 ↔ n = 0 := reduce_eq_zero_iff n
  refine reduce_eq_allOnes (by omega) ?_ hwidth
  have hshift : n + (allOnes width - reduce width n) ≡
      reduce width n + (allOnes width - reduce width n) [MOD allOnes width] :=
    (reduce_modEq n).symm.add_right _
  rw [Nat.add_sub_cancel' hle] at hshift
  exact hshift.trans (Nat.modEq_zero_iff_dvd.2 (Nat.dvd_refl _))

end Base.OnesComplement
