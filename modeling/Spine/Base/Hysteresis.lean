import Mathlib.Data.List.Induction

/-!
# Switches with two thresholds

A switch watches a series of readings, each of them bad or good.  It starts on.
It goes off with the reading that completes a number of bad readings in a row,
and it goes on again with the reading that completes a number of good ones.

* `streak p readings` is the number of readings at the end of the series that
  all meet `p`, and `runStart p readings` is the first of them.
* `isOn` says where the switch is after a series, by the series alone.
* While the switch is on, the bad readings at the end are fewer than the
  threshold, and while it is off the good ones are.  So a counter that starts
  again with each change never passes its threshold.
-/

namespace Base.Hysteresis

variable {α : Type*}

/-! ## Readings in a row -/

/-- The number of readings at the end of the series that meet `p`. -/
def streak (p : α → Bool) (readings : List α) : Nat :=
  (readings.reverse.takeWhile p).length

theorem streak_concat_of_pos {p : α → Bool} {a : α} (h : p a = true) (readings : List α) :
    streak p (readings ++ [a]) = streak p readings + 1 := by
  simp [streak, h]

theorem streak_concat_of_neg {p : α → Bool} {a : α} (h : p a = false) (readings : List α) :
    streak p (readings ++ [a]) = 0 := by
  simp [streak, h]

theorem streak_le_length (p : α → Bool) (readings : List α) :
    streak p readings ≤ readings.length := by
  have hsublist : (readings.reverse.takeWhile p).Sublist readings.reverse :=
    List.takeWhile_sublist p
  simpa [streak] using hsublist.length_le

/-- The first of the readings at the end of the series that meet `p`. -/
def runStart (p : α → Bool) (readings : List α) : Option α :=
  (readings.reverse.takeWhile p).getLast?

/-- One more reading starts the run when there was none before. -/
theorem runStart_concat_of_pos {p : α → Bool} {a : α} (h : p a = true) (readings : List α) :
    runStart p (readings ++ [a]) =
      if streak p readings = 0 then some a else runStart p readings := by
  unfold runStart streak
  rw [List.reverse_append, List.reverse_singleton, List.singleton_append,
    List.takeWhile_cons_of_pos h]
  cases readings.reverse.takeWhile p with
  | nil => rfl
  | cons b rest => rfl

/-! ## The switch -/

/-- A switch: which readings are bad, how many of them in a row turn it off,
and how many good ones turn it on. -/
structure Switch (α : Type*) where
  bad : α → Bool
  offAfter : Nat
  onAfter : Nat
  offAfter_pos : 0 < offAfter
  onAfter_pos : 0 < onAfter

namespace Switch

/-- A reading that is not bad. -/
def good (switch : Switch α) (a : α) : Bool := !switch.bad a

/-- The switch after a series that is given with its last reading first. -/
def isOnLatest (switch : Switch α) : List α → Bool
  | [] => true
  | a :: past =>
    if isOnLatest switch past then
      decide (streak switch.bad (past.reverse ++ [a]) ≠ switch.offAfter)
    else decide (streak switch.good (past.reverse ++ [a]) = switch.onAfter)

/-- The switch after a series. -/
def isOn (switch : Switch α) (readings : List α) : Bool := switch.isOnLatest readings.reverse

theorem isOn_concat (switch : Switch α) (readings : List α) (a : α) :
    switch.isOn (readings ++ [a]) =
      if switch.isOn readings then
        decide (streak switch.bad (readings ++ [a]) ≠ switch.offAfter)
      else decide (streak switch.good (readings ++ [a]) = switch.onAfter) := by
  unfold isOn
  rw [List.reverse_append]
  show switch.isOnLatest (a :: readings.reverse) = _
  rw [isOnLatest, List.reverse_reverse]

/-- A good reading ends the bad ones, and a bad reading ends the good ones. -/
theorem streak_bad_eq_zero_of_good {switch : Switch α} {readings : List α} {a : α}
    (h : switch.bad a = false) : streak switch.bad (readings ++ [a]) = 0 :=
  streak_concat_of_neg h readings

theorem streak_good_eq_zero_of_bad {switch : Switch α} {readings : List α} {a : α}
    (h : switch.bad a = true) : streak switch.good (readings ++ [a]) = 0 :=
  streak_concat_of_neg (by simp [good, h]) readings

/-- Neither threshold is passed without a change of the switch. -/
theorem streak_lt (switch : Switch α) (readings : List α) :
    (switch.isOn readings = true → streak switch.bad readings < switch.offAfter) ∧
      (switch.isOn readings = false → streak switch.good readings < switch.onAfter) := by
  have hoff := switch.offAfter_pos
  have hon := switch.onAfter_pos
  induction readings using List.reverseRecOn with
  | nil => exact ⟨fun _ => hoff, fun h => by cases h⟩
  | append_singleton readings a ih =>
    rw [isOn_concat]
    cases hbefore : switch.isOn readings with
    | true =>
      rw [if_pos rfl]
      have hbound := ih.1 hbefore
      cases hbad : switch.bad a with
      | true =>
        rw [streak_concat_of_pos hbad, streak_good_eq_zero_of_bad hbad]
        simp only [decide_eq_true_eq, decide_eq_false_iff_not]
        omega
      | false =>
        rw [streak_bad_eq_zero_of_good hbad]
        simp only [decide_eq_true_eq, decide_eq_false_iff_not]
        omega
    | false =>
      rw [if_neg (by decide)]
      have hbound := ih.2 hbefore
      cases hbad : switch.bad a with
      | true =>
        rw [streak_good_eq_zero_of_bad hbad]
        simp only [decide_eq_true_eq, decide_eq_false_iff_not]
        omega
      | false =>
        have hgood : switch.good a = true := by simp [good, hbad]
        rw [streak_concat_of_pos hgood, streak_bad_eq_zero_of_good hbad]
        simp only [decide_eq_true_eq, decide_eq_false_iff_not]
        omega

theorem streak_bad_lt {switch : Switch α} {readings : List α} (h : switch.isOn readings = true) :
    streak switch.bad readings < switch.offAfter :=
  (switch.streak_lt readings).1 h

theorem streak_good_lt {switch : Switch α} {readings : List α}
    (h : switch.isOn readings = false) : streak switch.good readings < switch.onAfter :=
  (switch.streak_lt readings).2 h

end Switch

end Base.Hysteresis
