import Spine.Database.CactiQuery
import Mathlib.Tactic.Ring

/-!
# The schedule of an item

After each poll of a device the schedule UPDATE counts `rrd_next_step` down
by the poller interval.  The item query selects an item when its counter is
zero or below, and the UPDATE restarts a counter that would go below zero.

The two tests do not agree.  A counter strictly between zero and the interval
is not due, and the UPDATE restarts it all the same.  Whether an item with
such a counter is ever polled depends on its step alone:

* a step that is at most the interval, or a multiple of it, restarts the
  counter at a value from which it reaches zero;
* any other step restarts the counter above zero at a value that is not a
  multiple of the interval, and `Missed` is the invariant that the counter
  then keeps for ever.

`noStarvation_iff` puts the two together.
-/

namespace Spine

open Function

/-! ## The counter -/

/-- The counter after `n` updates. -/
def counterAfter (interval rrdStep : Int) (n : Nat) (x : Int) : Int :=
  (nextStep interval rrdStep)^[n] x

/-- `⌈max(x, 0) / interval⌉`: the number of intervals that cover `x`. -/
def intervalsFor (interval x : Int) : Nat := ((max x 0 + interval - 1) / interval).toNat

section Counter

variable {interval rrdStep x : Int}

/-- A counter of at least one interval is counted down. -/
theorem nextStep_countdown (hne : rrdStep ≠ interval) (hx : interval ≤ x) :
    nextStep interval rrdStep x = x - interval := by
  rw [nextStep, if_neg hne, if_neg (by omega)]

/-- A counter below one interval restarts, whether it was due or not. -/
theorem nextStep_restart (hx : x < interval) :
    nextStep interval rrdStep x = rrdStep - interval := by
  rw [nextStep]
  split
  · omega
  · rw [if_pos (by omega)]

theorem counterAfter_zero : counterAfter interval rrdStep 0 x = x := rfl

theorem counterAfter_one :
    counterAfter interval rrdStep 1 x = nextStep interval rrdStep x := rfl

theorem counterAfter_add (m n : Nat) :
    counterAfter interval rrdStep (m + n) x =
      counterAfter interval rrdStep n (counterAfter interval rrdStep m x) := by
  rw [counterAfter, Nat.add_comm, iterate_add_apply]
  rfl

theorem counterAfter_succ (n : Nat) :
    counterAfter interval rrdStep (n + 1) x =
      nextStep interval rrdStep (counterAfter interval rrdStep n x) :=
  iterate_succ_apply' _ _ _

/-- While whole intervals remain, `n` updates take `n` of them. -/
theorem counterAfter_countdown (hinterval : 1 ≤ interval) (hne : rrdStep ≠ interval) {n : Nat}
    (hx : n * interval ≤ x) :
    counterAfter interval rrdStep n x = x - n * interval := by
  induction n with
  | zero => simp [counterAfter_zero]
  | succ n ih =>
    have hmul : ((n + 1 : Nat) : Int) * interval = n * interval + interval := by
      push_cast
      ring
    rw [hmul] at hx ⊢
    rw [counterAfter_succ, ih (by omega), nextStep_countdown hne (by omega)]
    ring

/-- From a restart with a step of `k` intervals, the counter after `r` updates
is `k - r` intervals. -/
theorem counterAfter_cycle (hinterval : 1 ≤ interval) {k : Nat} (hstep : rrdStep = k * interval)
    (hx : x < interval) {r : Nat} (hr : 1 ≤ r) (hrk : r ≤ k) :
    counterAfter interval rrdStep r x = rrdStep - r * interval := by
  obtain ⟨n, rfl⟩ : ∃ n, r = n + 1 := ⟨r - 1, by omega⟩
  have hmul : ((n + 1 : Nat) : Int) * interval = n * interval + interval := by
    push_cast
    ring
  rw [Nat.add_comm, counterAfter_add, counterAfter_one, nextStep_restart hx, Nat.add_comm]
  rcases Nat.eq_zero_or_pos n with rfl | hn
  · simp [counterAfter_zero]
  · -- Two intervals or more: the first update restarts and the others count down.
    have hk : ((n : Int) + 1) * interval ≤ k * interval :=
      mul_le_mul_of_nonneg_right (by exact_mod_cast hrk) (by omega)
    have hpos : (1 : Int) * interval ≤ n * interval :=
      mul_le_mul_of_nonneg_right (by exact_mod_cast hn) (by omega)
    have hne : rrdStep ≠ interval := by
      rw [hstep]
      intro h
      linarith
    rw [counterAfter_countdown hinterval hne (by rw [hstep]; linarith), hmul]
    ring

/-! ## Steps that keep an item polled -/

/-- The number of intervals that cover `k` intervals is `k`. -/
theorem intervalsFor_mul (hinterval : 1 ≤ interval) (k : Nat) :
    intervalsFor interval (k * interval) = k := by
  have hnonneg : 0 ≤ (k : Int) * interval := mul_nonneg (by omega) (by omega)
  rw [intervalsFor, max_eq_left hnonneg, show (k : Int) * interval + interval - 1 =
    (interval - 1) + k * interval by ring, Int.add_mul_ediv_right _ _ (by omega),
    Int.ediv_eq_zero_of_lt (by omega) (by omega)]
  simp

/-- One interval covers a step of at most one interval. -/
theorem intervalsFor_short (hx : 1 ≤ x) (hle : x ≤ interval) : intervalsFor interval x = 1 := by
  rw [intervalsFor, max_eq_left (by omega), show x + interval - 1 = (x - 1) + 1 * interval by ring,
    Int.add_mul_ediv_right _ _ (by omega), Int.ediv_eq_zero_of_lt (by omega) (by omega)]
  rfl

/-- The whole intervals of a counter are no more than the intervals that cover
it. -/
theorem floor_le_intervalsFor (hinterval : 1 ≤ interval) (x : Int) :
    (max x 0 / interval).toNat ≤ intervalsFor interval x :=
  Int.toNat_le_toNat (Int.ediv_le_ediv (by omega) (by omega))

/-- A counter below one interval is due as many updates later as the step has
intervals. -/
theorem counterAfter_restart_due (hinterval : 1 ≤ interval) (hstep : 1 ≤ rrdStep)
    (hgood : rrdStep ≤ interval ∨ interval ∣ rrdStep) (hx : x < interval) :
    counterAfter interval rrdStep (intervalsFor interval rrdStep) x ≤ 0 := by
  rcases hgood with hshort | ⟨c, hc⟩
  · rw [intervalsFor_short hstep hshort, counterAfter_one, nextStep_restart hx]
    omega
  · have hcpos : 0 < c := by
      by_contra hneg
      have : interval * c ≤ 0 := mul_nonpos_of_nonneg_of_nonpos (by omega) (by omega)
      omega
    obtain ⟨k, rfl⟩ := Int.eq_ofNat_of_zero_le hcpos.le
    have hmul : rrdStep = k * interval := by rw [hc, mul_comm]
    have hk : intervalsFor interval rrdStep = k := by rw [hmul, intervalsFor_mul hinterval]
    rw [hk, counterAfter_cycle hinterval hmul hx (by omega) le_rfl]
    omega

/-- Counting down leaves a counter below one interval. -/
theorem counterAfter_floor_lt (hinterval : 1 ≤ interval) (hne : rrdStep ≠ interval) (x : Int) :
    counterAfter interval rrdStep (max x 0 / interval).toNat x < interval := by
  rcases le_or_gt 0 x with hx | hx
  · have hdiv : 0 ≤ x / interval := Int.ediv_nonneg hx (by omega)
    have hmod := Int.emod_lt_of_pos x (show 0 < interval by omega)
    have hsplit := Int.emod_add_mul_ediv x interval
    have hnonneg := Int.emod_nonneg x (show interval ≠ 0 by omega)
    have hcast : (((x / interval).toNat : Nat) : Int) = x / interval := Int.toNat_of_nonneg hdiv
    rw [max_eq_left hx, counterAfter_countdown hinterval hne (by rw [hcast]; linarith), hcast]
    linarith
  · rw [max_eq_right hx.le, Int.zero_ediv]
    show x < interval
    omega

/-- From any counter, the item is due within the stated number of updates. -/
theorem counterAfter_first_due (hinterval : 1 ≤ interval) (hstep : 1 ≤ rrdStep)
    (hgood : rrdStep ≤ interval ∨ interval ∣ rrdStep) (x : Int) :
    ∃ n ≤ intervalsFor interval x + intervalsFor interval rrdStep,
      counterAfter interval rrdStep n x ≤ 0 := by
  rcases eq_or_ne rrdStep interval with heq | hne
  · refine ⟨1, ?_, ?_⟩
    · rw [intervalsFor_short hstep heq.le]
      omega
    · rw [counterAfter_one, nextStep, if_pos heq]
  · refine ⟨(max x 0 / interval).toNat + intervalsFor interval rrdStep, ?_, ?_⟩
    · exact Nat.add_le_add_right (floor_le_intervalsFor hinterval x) _
    · rw [counterAfter_add]
      exact counterAfter_restart_due hinterval hstep hgood (counterAfter_floor_lt hinterval hne x)

/-- With a step of `k` intervals, an item that is due now is due again exactly
at every `k`-th update. -/
theorem counterAfter_due_iff_dvd (hinterval : 1 ≤ interval) {k : Nat} (hk : 1 ≤ k)
    (hstep : rrdStep = k * interval) (hx : x ≤ 0) (n : Nat) :
    counterAfter interval rrdStep n x ≤ 0 ↔ k ∣ n := by
  induction n using Nat.strong_induction_on generalizing x with
  | _ n ih =>
    rcases Nat.eq_zero_or_pos n with rfl | hn
    · simpa [counterAfter_zero] using hx
    · rcases Nat.lt_or_ge n k with hlt | hge
      · -- Inside a cycle a whole number of intervals is left.
        rw [counterAfter_cycle hinterval hstep (by omega) hn hlt.le]
        have hleft : ((n : Int) + 1) * interval ≤ k * interval :=
          mul_le_mul_of_nonneg_right (by exact_mod_cast hlt) (by omega)
        refine ⟨fun h => ?_, fun h => absurd (Nat.le_of_dvd hn h) (by omega)⟩
        rw [hstep] at h
        exact absurd h (by linarith)
      · -- A whole cycle ends at zero, and the rest is the same question again.
        obtain ⟨m, rfl⟩ := Nat.exists_eq_add_of_le hge
        have hend : counterAfter interval rrdStep k x = 0 := by
          rw [counterAfter_cycle hinterval hstep (by omega) hk le_rfl, hstep, sub_self]
        rw [counterAfter_add, hend, ih m (by omega) le_rfl]
        exact (Nat.dvd_add_right dvd_rfl).symm

/-! ## Steps that starve an item -/

/-- The counter is above zero and is never a whole number of intervals. -/
def Missed (interval rrdStep x : Int) : Prop := 0 < x ∧ interval ∣ x - rrdStep

theorem nextStep_missed (hlong : interval < rrdStep) (hndvd : ¬ interval ∣ rrdStep)
    (h : Missed interval rrdStep x) : Missed interval rrdStep (nextStep interval rrdStep x) := by
  obtain ⟨hpos, hdvd⟩ := h
  rcases lt_or_ge x interval with hx | hx
  · rw [nextStep_restart hx]
    exact ⟨by omega, ⟨-1, by ring⟩⟩
  · rw [nextStep_countdown (by omega) hx]
    have hne : x ≠ interval := by
      rintro rfl
      exact hndvd ((Int.dvd_iff_dvd_of_dvd_sub hdvd).1 dvd_rfl)
    have hshift : x - interval - rrdStep = (x - rrdStep) - interval := by ring
    exact ⟨by omega, hshift ▸ Int.dvd_sub hdvd dvd_rfl⟩

theorem counterAfter_missed (hlong : interval < rrdStep) (hndvd : ¬ interval ∣ rrdStep)
    (h : Missed interval rrdStep x) (n : Nat) :
    Missed interval rrdStep (counterAfter interval rrdStep n x) := by
  induction n with
  | zero => exact h
  | succ n ih =>
    rw [counterAfter_succ]
    exact nextStep_missed hlong hndvd ih

/-- An item with such a step that is due once is never due again. -/
theorem counterAfter_pos_of_due (hinterval : 1 ≤ interval) (hlong : interval < rrdStep)
    (hndvd : ¬ interval ∣ rrdStep) (hx : x ≤ 0) {n : Nat} (hn : 1 ≤ n) :
    0 < counterAfter interval rrdStep n x := by
  obtain ⟨m, rfl⟩ := Nat.exists_eq_add_of_le hn
  rw [counterAfter_add, counterAfter_one, nextStep_restart (by omega)]
  exact (counterAfter_missed hlong hndvd ⟨by omega, ⟨-1, by ring⟩⟩ m).1

end Counter

/-! ## The item -/

/-- The item after `n` schedule updates. -/
def ScheduleUpdate.after (update : ScheduleUpdate) (n : Nat) (row : PollerItem) : PollerItem :=
  update.applyRow^[n] row

/-- The UPDATE changes the counter and no other column. -/
theorem ScheduleUpdate.after_eq {update : ScheduleUpdate} {row : PollerItem}
    (hsel : update.selects row = true) (n : Nat) :
    update.after n row =
      { row with rrdNextStep := counterAfter update.interval row.rrdStep n row.rrdNextStep } := by
  induction n with
  | zero => rfl
  | succ n ih =>
    rw [counterAfter_succ, ScheduleUpdate.after, iterate_succ_apply', ← ScheduleUpdate.after, ih,
      ScheduleUpdate.applyRow, if_pos (by simpa [ScheduleUpdate.selects] using hsel)]

theorem ScheduleUpdate.after_due_iff {update : ScheduleUpdate} {row : PollerItem}
    (hsel : update.selects row = true) (n : Nat) :
    (update.after n row).due = true ↔
      counterAfter update.interval row.rrdStep n row.rrdNextStep ≤ 0 := by
  rw [after_eq hsel, PollerItem.due, decide_eq_true_iff]

/-- The item is due within the stated number of updates, it is due again
within the intervals of its step each time, and a step of `k` intervals makes
it due at every `k`-th update from its first. -/
structure NoStarvation (update : ScheduleUpdate) (row : PollerItem) : Prop where
  first : ∃ n ≤ intervalsFor update.interval row.rrdNextStep +
      intervalsFor update.interval row.rrdStep, (update.after n row).due = true
  again : ∀ n, (update.after n row).due = true →
    ∃ d, 1 ≤ d ∧ d ≤ intervalsFor update.interval row.rrdStep ∧
      (update.after (n + d) row).due = true
  periodic : ∀ k : Nat, 1 ≤ k → row.rrdStep = k * update.interval →
    ∀ n, (update.after n row).due = true → (∀ m < n, (update.after m row).due = false) →
      ∀ d, (update.after (n + d) row).due = true ↔ k ∣ d

/-- An item is never starved exactly when its step is at most the poller
interval or a multiple of it. -/
theorem noStarvation_iff (update : ScheduleUpdate) (row : PollerItem)
    (hsel : update.selects row = true) (hinterval : 1 ≤ update.interval)
    (hstep : 1 ≤ row.rrdStep) :
    NoStarvation update row ↔
      row.rrdStep ≤ update.interval ∨ update.interval ∣ row.rrdStep := by
  have hdue := ScheduleUpdate.after_due_iff hsel
  constructor
  · intro h
    by_contra hbad
    obtain ⟨hlong, hndvd⟩ := not_or.1 hbad
    obtain ⟨n, _, hn⟩ := h.first
    obtain ⟨d, hd, _, hagain⟩ := h.again n hn
    rw [hdue] at hn
    rw [hdue, counterAfter_add] at hagain
    have := counterAfter_pos_of_due hinterval (not_le.1 hlong) hndvd hn hd
    omega
  · intro hgood
    refine ⟨?_, ?_, ?_⟩
    · obtain ⟨n, hle, hn⟩ := counterAfter_first_due hinterval hstep hgood row.rrdNextStep
      exact ⟨n, hle, (hdue n).2 hn⟩
    · intro n hn
      rw [hdue] at hn
      refine ⟨intervalsFor update.interval row.rrdStep, ?_, le_rfl, ?_⟩
      · have := Int.le_ediv_iff_mul_le (show 0 < update.interval by omega) |>.2
          (show 1 * update.interval ≤ max row.rrdStep 0 + update.interval - 1 by omega)
        rw [intervalsFor]
        omega
      · rw [hdue, counterAfter_add]
        exact counterAfter_restart_due hinterval hstep hgood (by omega)
    · intro k hk hmul n hn _ d
      rw [hdue] at hn
      rw [hdue, counterAfter_add]
      exact counterAfter_due_iff_dvd hinterval hk hmul hn d

/-- An item of device 7 with the given step and counter. -/
private def scheduledItem (rrdStep rrdNextStep : Int) : PollerItem :=
  ⟨1, [], 7, 1, rrdStep, rrdNextStep, 161⟩

/-- A one-minute poller never starves an item with a step of five minutes. -/
theorem noStarvation_minute : NoStarvation ⟨60, 7, some 1⟩ (scheduledItem 300 90) :=
  (noStarvation_iff _ _ (by decide) (by decide) (by decide)).2 (Or.inr (by decide))

/-- A 20-second poller starves an item with a step of 30 seconds: its counter
is restarted at 10 for ever. -/
theorem starvation_twenty_seconds : ¬ NoStarvation ⟨20, 7, some 1⟩ (scheduledItem 30 10) := by
  have hmissed : ∀ n, 0 < counterAfter 20 30 n 10 := fun n =>
    (counterAfter_missed (by decide) (by decide) ⟨by decide, by decide⟩ n).1
  intro h
  obtain ⟨n, _, hn⟩ := h.first
  rw [ScheduleUpdate.after_due_iff (by decide)] at hn
  exact absurd hn (not_le.2 (hmissed n))

end Spine
