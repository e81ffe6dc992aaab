import Mathlib.Data.List.Basic

/-!
# Frames with a terminator

A sender puts a terminator of two symbols behind every text, and a receiver
splits what arrives at the terminators.  `splitFrames` returns the texts and
what follows the last terminator.

* What is split can be joined again (`joinFrames_splitFrames`), so a stream
  splits into given texts only if it is their frames (`splitFrames_eq_iff`).
* A sender with a buffer of `n` symbols cuts its frames.  The stream is still
  the frames of the texts exactly when no frame was cut
  (`flatMap_take_eq_joinFrames_iff`).
-/

namespace Base.Framing

variable {α : Type*} {a b : α}

/-- The frames of texts. -/
def joinFrames (a b : α) (texts : List (List α)) : List α := texts.flatMap (· ++ [a, b])

@[simp] theorem joinFrames_nil : joinFrames a b [] = [] := rfl

@[simp] theorem joinFrames_cons (text : List α) (texts : List (List α)) :
    joinFrames a b (text :: texts) = text ++ a :: b :: joinFrames a b texts := by
  simp [joinFrames]

section Split

variable [DecidableEq α]

/-- A symbol in front of the first text, or of the rest when there is no text. -/
def pushFront (x : α) : List (List α) × List α → List (List α) × List α
  | ([], rest) => ([], x :: rest)
  | (text :: texts, rest) => ((x :: text) :: texts, rest)

/-- The texts before the terminators, and what follows the last one. -/
def splitFrames (a b : α) : List α → List (List α) × List α
  | [] => ([], [])
  | [x] => ([], [x])
  | x :: y :: symbols =>
    if x = a ∧ y = b then ([] :: (splitFrames a b symbols).1, (splitFrames a b symbols).2)
    else pushFront x (splitFrames a b (y :: symbols))

omit [DecidableEq α] in
theorem joinFrames_pushFront (x : α) (split : List (List α) × List α) :
    joinFrames a b (pushFront x split).1 ++ (pushFront x split).2 =
      x :: (joinFrames a b split.1 ++ split.2) := by
  obtain ⟨texts, rest⟩ := split
  cases texts with
  | nil => rfl
  | cons text texts => simp [pushFront]

/-- Joining undoes splitting. -/
theorem joinFrames_splitFrames (symbols : List α) :
    joinFrames a b (splitFrames a b symbols).1 ++ (splitFrames a b symbols).2 = symbols := by
  fun_induction splitFrames a b symbols with
  | case1 => rfl
  | case2 x => rfl
  | case3 x y symbols h ih =>
    obtain ⟨rfl, rfl⟩ := h
    simpa using ih
  | case4 x y symbols h ih => rw [joinFrames_pushFront, ih]

/-- A text without the first symbol of the terminator is split off whole. -/
theorem splitFrames_append {text : List α} (h : a ∉ text) (symbols : List α) :
    splitFrames a b (text ++ a :: b :: symbols) =
      (text :: (splitFrames a b symbols).1, (splitFrames a b symbols).2) := by
  induction text with
  | nil => simp [splitFrames]
  | cons x text ih =>
    rw [List.mem_cons, not_or] at h
    have hne : ∀ y, ¬ (x = a ∧ y = b) := fun y hy => h.1 hy.1.symm
    have hrest := ih h.2
    -- The symbol behind `x` is the next one of the text, or the terminator.
    cases text with
    | nil =>
      rw [List.singleton_append, splitFrames, if_neg (hne a)]
      rw [List.nil_append] at hrest
      rw [hrest]
      rfl
    | cons y text =>
      rw [List.cons_append, List.cons_append, splitFrames, if_neg (hne y), ← List.cons_append,
        hrest]
      rfl

theorem splitFrames_joinFrames {texts : List (List α)} (h : ∀ text ∈ texts, a ∉ text) :
    splitFrames a b (joinFrames a b texts) = (texts, []) := by
  induction texts with
  | nil => rfl
  | cons text texts ih =>
    rw [List.forall_mem_cons] at h
    rw [joinFrames_cons, splitFrames_append h.1, ih h.2]

/-- A stream splits into the texts exactly when it is their frames. -/
theorem splitFrames_eq_iff {texts : List (List α)} (h : ∀ text ∈ texts, a ∉ text)
    {symbols : List α} :
    splitFrames a b symbols = (texts, []) ↔ symbols = joinFrames a b texts := by
  constructor
  · intro hsplit
    have hjoin := joinFrames_splitFrames (a := a) (b := b) symbols
    rw [hsplit, List.append_nil] at hjoin
    exact hjoin.symm
  · rintro rfl
    exact splitFrames_joinFrames h

end Split

/-! ## Frames that are cut -/

theorem flatMap_take_length_le (n : Nat) (texts : List (List α)) :
    (texts.flatMap fun text => (text ++ [a, b]).take n).length ≤ (joinFrames a b texts).length := by
  induction texts with
  | nil => exact Nat.le_refl 0
  | cons text texts ih =>
    rw [List.flatMap_cons, joinFrames, List.flatMap_cons, List.length_append, List.length_append]
    exact Nat.add_le_add (List.length_take_le' _ _) ih

/-- Frames that are cut are the frames of the texts only if none is cut. -/
theorem flatMap_take_eq_joinFrames_iff (n : Nat) (texts : List (List α)) :
    (texts.flatMap fun text => (text ++ [a, b]).take n) = joinFrames a b texts ↔
      ∀ text ∈ texts, text.length + 2 ≤ n := by
  induction texts with
  | nil => simp
  | cons text texts ih =>
    rw [List.forall_mem_cons, ← ih, List.flatMap_cons, joinFrames, List.flatMap_cons]
    have hrest := flatMap_take_length_le (a := a) (b := b) n texts
    have hlength : (text ++ [a, b]).length = text.length + 2 := by simp
    constructor
    · intro h
      -- The two sides are as long as each other, and no part of the left one
      -- is longer than its part of the right one.
      have hsum := congrArg List.length h
      rw [List.length_append, List.length_append, List.length_take] at hsum
      rw [joinFrames] at hrest
      have hfits : text.length + 2 ≤ n := by omega
      rw [List.take_of_length_le (Nat.le_trans (Nat.le_of_eq hlength) hfits)] at h
      exact ⟨hfits, List.append_cancel_left h⟩
    · rintro ⟨hfits, h⟩
      rw [List.take_of_length_le (Nat.le_trans (Nat.le_of_eq hlength) hfits), h]
      rfl

end Base.Framing
