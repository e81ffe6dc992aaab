import Spine.Poller.Availability

/-!
# The dates of an outage

`host_failure_transition` keeps the time at which an outage began in
`status_fail_date`, and `host_recovery_transition` the time at which it ended in
`status_rec_date`.  Each date is written in one of two places: together with the
change of the status when the threshold is one, and with the first poll of the
run otherwise.

* The thresholds.  `readPingOptions` is `read_ping_options` of `config/options.c`.
  It stores what `atoi` makes of a text, so zero and negative numbers occur.
* The dates.  `Dated` says which date is already right while a device is still
  up or recovering.  It is kept by every poll when both thresholds are positive.
* The thresholds for which the dates are right.  A threshold of zero or less
  changes the status with the first poll like a threshold of one, but neither
  place writes the date.  `outageDates_iff` says that these are the only ones.
-/

namespace Spine

open Base.CString Base.Hysteresis

/-! ## The thresholds -/

/-- The settings that `read_ping_options` stores. -/
structure PingOptions where
  availabilityMethod : Int32
  pingRecoveryCount : Int32
  pingFailureCount : Int32
  pingMethod : Int32
  pingRetries : Int32
  pingTimeout : Int32
  snmpRetries : Int32
  deriving DecidableEq, Repr

/-- `read_ping_options`.  `getsetting` returns `NULL` only when there is no memory
for its answer; a setting that is missing is an empty text. -/
def readPingOptions (getsetting : Text → Option Text) (set : PingOptions) : PingOptions where
  availabilityMethod :=
    ((getsetting (lit "availability_method")).map atoi).getD set.availabilityMethod
  pingRecoveryCount :=
    ((getsetting (lit "ping_recovery_count")).map atoi).getD set.pingRecoveryCount
  pingFailureCount :=
    ((getsetting (lit "ping_failure_count")).map atoi).getD set.pingFailureCount
  pingMethod := ((getsetting (lit "ping_method")).map atoi).getD set.pingMethod
  pingRetries := ((getsetting (lit "ping_retries")).map atoi).getD set.pingRetries
  pingTimeout := ((getsetting (lit "ping_timeout")).map atoi).getD 400
  snmpRetries := ((getsetting (lit "snmp_retries")).map atoi).getD 3

/-- The settings that `update_host_status` reads. -/
def PingOptions.env (options : PingOptions) (logLevel : Int) (atof : Text → ℚ) :
    AvailabilityEnv where
  pingFailureCount := options.pingFailureCount.toInt
  pingRecoveryCount := options.pingRecoveryCount.toInt
  logLevel := logLevel
  atof := atof

theorem toInt_le_intMax (i : Int32) : i.toInt ≤ INT_MAX := by
  have hle := i.toInt_le
  simp only [INT_MAX]
  exact hle

/-! ## The dates -/

/-- The time of the first of the failures at the end of a run, as it is printed. -/
def firstFailureDate (polls : List StatusPoll) : Option Text :=
  (runStart StatusPoll.failed polls).map fun poll => decimal poll.time

/-- The time of the first of the successes since the last failure. -/
def firstSuccessDate (polls : List StatusPoll) : Option Text :=
  (runStart (fun poll => !poll.failed) polls).map fun poll => decimal poll.time

section Dates

variable {env : AvailabilityEnv} {polls : List StatusPoll} {poll : StatusPoll}
  {state : HostState}

variable (polls) in
theorem firstFailureDate_concat (h : poll.failed = true) :
    firstFailureDate (polls ++ [poll]) =
      if failuresInARow polls = 0 then some (decimal poll.time) else firstFailureDate polls := by
  unfold firstFailureDate failuresInARow
  rw [runStart_concat_of_pos h]
  split <;> rfl

variable (polls) in
theorem firstSuccessDate_concat (h : poll.failed = false) :
    firstSuccessDate (polls ++ [poll]) =
      if successesInARow polls = 0 then some (decimal poll.time) else firstSuccessDate polls := by
  unfold firstSuccessDate successesInARow
  rw [runStart_concat_of_pos (by rw [h]; rfl)]
  split <;> rfl

/-- The date of the failures is right while the device is still up, and the date
of the successes while it is recovering. -/
structure Dated (polls : List StatusPoll) (state : HostState) : Prop where
  fail : state.status = .up → failuresInARow polls ≠ 0 →
    firstFailureDate polls = some state.statusFailDate
  recovery : state.status = .recovering →
    firstSuccessDate polls = some state.statusRecDate

/-- The two dates after a change of the status. -/
structure ChangeDated (polls : List StatusPoll) (before after : HostState) : Prop where
  fail : before.status = .up → after.status = .down →
    firstFailureDate polls = some after.statusFailDate
  recovery : before.status ≠ .up → after.status = .up →
    firstSuccessDate polls = some after.statusRecDate

/-- One failure keeps the dates, and writes the date of the outage when it makes
the device go down. -/
theorem hostFailureTransition_dated (htracks : Tracks env polls state) (h : Dated polls state)
    (hcounts : Counts state) (hthreshold : 1 ≤ env.pingFailureCount)
    (hfailed : poll.failed = true) :
    Dated (polls ++ [poll]) (hostFailureTransition env state (decimal poll.time)).1 ∧
      ChangeDated (polls ++ [poll]) state
        (hostFailureTransition env state (decimal poll.time)).1 := by
  have hdate := firstFailureDate_concat polls hfailed
  cases hstatus : state.status with
  | up =>
    have hcount := htracks.failures hstatus
    -- The first failure starts the run, and its date is written in one of the two places.
    have hright : ∀ first : Bool, (first = true ↔ failuresInARow polls = 0) →
        firstFailureDate (polls ++ [poll]) =
          some (if first then decimal poll.time else state.statusFailDate) := by
      intro first hfirst
      by_cases hzero : failuresInARow polls = 0
      · rw [hdate, if_pos hzero, if_pos (hfirst.2 hzero)]
      · rw [hdate, if_neg hzero, if_neg fun hyes => hzero (hfirst.1 hyes)]
        exact h.fail hstatus hzero
    unfold hostFailureTransition
    rw [hstatus]
    dsimp only
    rw [hcounts (by rw [hstatus]; decide), hcount]
    by_cases hdown : env.pingFailureCount ≤ (failuresInARow polls : Int) + 1
    · rw [if_pos hdown]
      refine ⟨⟨nofun, nofun⟩, fun _ _ => ?_, fun hnotUp _ => absurd hstatus hnotUp⟩
      have hlt : failuresInARow polls < (max env.pingFailureCount 1).toNat :=
        Switch.streak_bad_lt (htracks.isOn_iff.2 hstatus)
      simpa using hright (decide (env.pingFailureCount = 1)) (by
        rw [decide_eq_true_eq]
        omega)
    · rw [if_neg hdown]
      refine ⟨⟨fun _ _ => ?_, nofun⟩, nofun, fun hnotUp _ => absurd hstatus hnotUp⟩
      simpa using hright (decide ((failuresInARow polls : Int) + 1 = 1)) (by
        rw [decide_eq_true_eq]
        omega)
  | down | recovering | unknown =>
    unfold hostFailureTransition
    rw [hstatus]
    exact ⟨⟨nofun, nofun⟩, fun hwas => absurd (hstatus.symm.trans hwas) (by decide), nofun⟩

/-- One success keeps the dates, and writes the date of the recovery when it makes
the device come back. -/
theorem hostRecoveryTransition_dated (htracks : Tracks env polls state) (h : Dated polls state)
    (hcounts : Counts state) (hthreshold : 1 ≤ env.pingRecoveryCount)
    (hfailed : poll.failed = false) :
    Dated (polls ++ [poll]) (hostRecoveryTransition env state (decimal poll.time)).1 ∧
      ChangeDated (polls ++ [poll]) state
        (hostRecoveryTransition env state (decimal poll.time)).1 := by
  have hnone : failuresInARow (polls ++ [poll]) = 0 := streak_concat_of_neg hfailed polls
  have hdate := firstSuccessDate_concat polls hfailed
  by_cases hup : state.status = .up
  · unfold hostRecoveryTransition
    rw [hup, if_pos (by decide)]
    exact ⟨⟨fun _ hsome => absurd hnone hsome, nofun⟩, nofun, fun hnotUp => absurd hup hnotUp⟩
  · have hoff := htracks.isOn_eq_false hup
    have hlt : successesInARow polls < (max env.pingRecoveryCount 1).toNat :=
      Switch.streak_good_lt hoff
    obtain ⟨hnotUp, hcount⟩ := htracks.recovery_count hcounts hoff
    have hkept : successesInARow polls ≠ 0 →
        firstSuccessDate polls = some state.statusRecDate := fun hne => by
      rcases htracks.status_of_off hoff with ⟨-, hzero⟩ | ⟨hrecovering, -⟩
      · exact absurd hzero hne
      · exact h.recovery hrecovering
    -- As for the failures, the first success of the run writes the date.
    have hright : ∀ first : Bool, (first = true ↔ successesInARow polls = 0) →
        firstSuccessDate (polls ++ [poll]) =
          some (if first then decimal poll.time else state.statusRecDate) := by
      intro first hfirst
      by_cases hzero : successesInARow polls = 0
      · rw [hdate, if_pos hzero, if_pos (hfirst.2 hzero)]
      · rw [hdate, if_neg hzero, if_neg fun hyes => hzero (hfirst.1 hyes)]
        exact hkept hzero
    unfold hostRecoveryTransition
    rw [if_neg hnotUp]
    dsimp only
    rw [hcount]
    by_cases hback : env.pingRecoveryCount ≤ (successesInARow polls : Int) + 1
    · rw [if_pos hback]
      refine ⟨⟨fun _ hsome => absurd hnone hsome, nofun⟩, fun hwas => absurd hwas hup,
        fun _ _ => ?_⟩
      simpa using hright (decide (env.pingRecoveryCount = 1)) (by
        rw [decide_eq_true_eq]
        omega)
    · rw [if_neg hback]
      refine ⟨⟨nofun, fun _ => ?_⟩, nofun, nofun⟩
      simpa using hright (decide ((successesInARow polls : Int) + 1 = 1)) (by
        rw [decide_eq_true_eq]
        omega)

/-- One poll keeps the dates, and a change of the status finds the right one. -/
theorem statusTransition_dated {host : MonitoredHost} (htracks : Tracks env polls host.state)
    (h : Dated polls host.state) (hcounts : Counts host.state)
    (hfailure : 1 ≤ env.pingFailureCount) (hrecovery : 1 ≤ env.pingRecoveryCount)
    (poll : StatusPoll) :
    Dated (polls ++ [poll]) (statusTransition env host poll).1 ∧
      ChangeDated (polls ++ [poll]) host.state (statusTransition env host poll).1 := by
  unfold statusTransition
  dsimp only
  by_cases hdown : poll.status = .down
  · rw [if_pos hdown]
    have hfailed : poll.failed = true := by simp [StatusPoll.failed, hdown]
    have hmessage : Tracks env polls
        { host.state with statusLastError := hostFailureMessage host poll.ping poll.method } :=
      ⟨htracks.status, htracks.failures, htracks.successes, htracks.bounded⟩
    obtain ⟨hdated, hchange⟩ :=
      hostFailureTransition_dated hmessage ⟨h.fail, h.recovery⟩ hcounts hfailure hfailed
    exact ⟨hdated, hchange.fail, hchange.recovery⟩
  · rw [if_neg hdown]
    have hfailed : poll.failed = false := by simp [StatusPoll.failed, hdown]
    exact hostRecoveryTransition_dated htracks h hcounts hrecovery hfailed

end Dates

/-- Every run from a device that is up keeps the dates. -/
theorem hostAfter_dated {env : AvailabilityEnv} {host : MonitoredHost}
    (hfailure : 1 ≤ env.pingFailureCount ∧ env.pingFailureCount ≤ INT_MAX)
    (hrecovery : 1 ≤ env.pingRecoveryCount ∧ env.pingRecoveryCount ≤ INT_MAX)
    (hstatus : host.state.status = .up) (hcount : host.state.statusEventCount = 0)
    (polls : List StatusPoll) : Dated polls (hostAfter env host polls).state := by
  induction polls using List.reverseRecOn with
  | nil =>
    exact ⟨fun _ hsome => absurd rfl hsome, fun h => absurd (hstatus.symm.trans h) (by decide)⟩
  | append_singleton polls poll ih =>
    have htracks := hostAfter_tracks_of_thresholds hfailure.2 hrecovery.2 hstatus hcount polls
    rw [hostAfter_concat]
    exact (statusTransition_dated htracks ih (htracks.counts_of_thresholds hfailure.2 hrecovery.2)
      hfailure.1 hrecovery.1 poll).1

/-! ## The thresholds for which the dates are right -/

/-- For every run of polls at increasing times from a device that is up, the dates
are right with every change of the status. -/
def OutagesDated (env : AvailabilityEnv) : Prop :=
  ∀ host : MonitoredHost, host.state.status = .up → host.state.statusEventCount = 0 →
    ∀ polls poll, (polls ++ [poll]).Pairwise (fun a b => a.time < b.time) →
      ChangeDated (polls ++ [poll]) (hostAfter env host polls).state
        (hostAfter env host (polls ++ [poll])).state

/-- A failed poll at a time. -/
def failedAt (time : Nat) : StatusPoll := ⟨.down, ⟨[], [], [], []⟩, .ping, time⟩

/-- A successful poll at a time. -/
def successAt (time : Nat) : StatusPoll := ⟨.up, ⟨[], [], [], []⟩, .ping, time⟩

/-- A number of failures, one after the other. -/
def failures (count : Nat) : List StatusPoll := (List.range count).map failedAt

section Necessary

variable {env : AvailabilityEnv}

theorem failures_succ (count : Nat) :
    failures (count + 1) = failures count ++ [failedAt count] := by
  unfold failures
  rw [List.range_succ, List.map_append]
  rfl

theorem failures_increasing (count : Nat) {poll : StatusPoll} (htime : poll.time = count) :
    (failures count ++ [poll]).Pairwise fun a b => a.time < b.time := by
  rw [List.pairwise_append]
  refine ⟨List.pairwise_map.2 List.pairwise_lt_range, List.pairwise_singleton _ _, ?_⟩
  intro earlier hearlier later hlater
  obtain ⟨time, hrange, rfl⟩ := List.mem_map.1 hearlier
  rw [List.mem_singleton] at hlater
  rw [hlater, htime]
  exact List.mem_range.1 hrange

theorem failuresInARow_failures (count : Nat) : failuresInARow (failures count) = count := by
  induction count with
  | zero => rfl
  | succ count ih =>
    rw [failures_succ, failuresInARow, streak_concat_of_pos rfl]
    exact congrArg (· + 1) ih

/-- A failure never touches the date of the recovery. -/
theorem hostAfter_failures_recDate (env : AvailabilityEnv) (host : MonitoredHost) (count : Nat) :
    (hostAfter env host (failures count)).state.statusRecDate = host.state.statusRecDate := by
  induction count with
  | zero => rfl
  | succ count ih =>
    rw [failures_succ, hostAfter_concat, ← ih]
    show (hostFailureTransition env _ _).1.statusRecDate = _
    unfold hostFailureTransition
    dsimp only
    split
    · split <;> rfl
    all_goals rfl

/-- A device is up until the last of the failures that make it go down. -/
theorem hostAfter_failures_status (hthreshold : 1 ≤ env.pingFailureCount)
    (htracks : ∀ polls, Tracks env polls (hostAfter env steadyHost polls).state)
    {count : Nat} (hcount : (count : Int) ≤ env.pingFailureCount) :
    (hostAfter env steadyHost (failures count)).state.status =
      if (count : Int) = env.pingFailureCount then .down else .up := by
  induction count with
  | zero =>
    rw [if_neg (by omega)]
    rfl
  | succ count ih =>
    have hup := ih (by omega)
    rw [if_neg (by omega)] at hup
    have hafter := htracks (failures count ++ [failedAt count])
    have hnext := (htracks (failures count)).next_of_up hafter hup
    have hdown := (htracks (failures count)).next_down_iff hafter hup
    rw [← failures_succ] at hnext hdown
    rw [failuresInARow_failures] at hdown
    split
    · exact hdown.2 (by omega)
    · rcases hnext with hstays | hgone
      · exact hstays
      · have hreached := hdown.1 hgone
        omega

/-- With a failure threshold of zero or less, the first failure changes the status
and leaves the date of an earlier outage. -/
theorem not_outagesDated_of_failure (hthreshold : env.pingFailureCount ≤ 0) :
    ¬ OutagesDated env := by
  intro h
  have hstep : (hostAfter env steadyHost ([] ++ [failedAt 0])).state =
      ⟨.down, 1, [], [], []⟩ := by
    show (statusTransition env steadyHost (failedAt 0)).1 = _
    unfold statusTransition hostFailureTransition
    dsimp only [steadyHost]
    rw [if_pos (by rfl)]
    rw [intSucc_of_lt (by decide), if_pos (by omega), if_neg (by omega)]
    rfl
  have hdate := (h steadyHost rfl rfl [] (failedAt 0) (List.pairwise_singleton _ _)).fail rfl
    (by rw [hstep])
  rw [hstep] at hdate
  exact decimal_ne_nil 0 (Option.some.inj hdate)

/-- With a recovery threshold of zero or less, the first success after the outage
changes the status and leaves the date of an earlier recovery. -/
theorem not_outagesDated_of_recovery (hfailure : 1 ≤ env.pingFailureCount)
    (hthreshold : env.pingRecoveryCount ≤ 0)
    (htracks : ∀ polls, Tracks env polls (hostAfter env steadyHost polls).state) :
    ¬ OutagesDated env := by
  intro h
  obtain ⟨count, hcount⟩ := Int.eq_ofNat_of_zero_le (show 0 ≤ env.pingFailureCount by omega)
  have hdown := hostAfter_failures_status hfailure htracks (le_of_eq hcount.symm)
  rw [if_pos hcount.symm] at hdown
  have hdate := hostAfter_failures_recDate env steadyHost count
  have hstep :
      (hostAfter env steadyHost (failures count ++ [successAt count])).state.status = .up ∧
      (hostAfter env steadyHost (failures count ++ [successAt count])).state.statusRecDate =
        [] := by
    rw [hostAfter_concat]
    show (hostRecoveryTransition env _ _).1.status = _ ∧
      (hostRecoveryTransition env _ _).1.statusRecDate = _
    unfold hostRecoveryTransition
    rw [hdown, if_neg (by decide), if_pos rfl]
    dsimp only
    rw [if_pos (by omega), if_neg (by omega)]
    exact ⟨rfl, hdate⟩
  have hright := (h steadyHost rfl rfl (failures count) (successAt count)
    (failures_increasing count rfl)).recovery (by rw [hdown]; decide) hstep.1
  rw [hstep.2, firstSuccessDate_concat _ rfl] at hright
  have hzero : successesInARow (failures count) = 0 := by
    cases count with
    | zero => rfl
    | succ count =>
      rw [failures_succ]
      exact streak_concat_of_neg rfl _
  rw [if_pos hzero] at hright
  exact decimal_ne_nil count (Option.some.inj hright)

end Necessary

/-- The dates of every outage are right exactly when both settings are read as
positive numbers. -/
theorem outageDates_iff (getsetting : Text → Option Text) (set : PingOptions) (logLevel : Int)
    (atof : Text → ℚ) :
    let options := readPingOptions getsetting set
    OutagesDated (options.env logLevel atof) ↔
      1 ≤ options.pingFailureCount.toInt ∧ 1 ≤ options.pingRecoveryCount.toInt := by
  intro options
  have hfailure : (options.env logLevel atof).pingFailureCount ≤ INT_MAX := toInt_le_intMax _
  have hrecovery : (options.env logLevel atof).pingRecoveryCount ≤ INT_MAX := toInt_le_intMax _
  constructor
  · intro h
    have hpositive : 1 ≤ options.pingFailureCount.toInt := by
      by_contra hlow
      exact not_outagesDated_of_failure (show options.pingFailureCount.toInt ≤ 0 by omega) h
    refine ⟨hpositive, ?_⟩
    by_contra hlow
    exact not_outagesDated_of_recovery hpositive
      (show options.pingRecoveryCount.toInt ≤ 0 by omega)
      (hostAfter_tracks_of_thresholds hfailure hrecovery rfl rfl) h
  · rintro ⟨hfail, hrec⟩ host hstatus hcount polls poll -
    have htracks := hostAfter_tracks_of_thresholds hfailure hrecovery hstatus hcount polls
    have hdated := hostAfter_dated ⟨hfail, hfailure⟩ ⟨hrec, hrecovery⟩ hstatus hcount polls
    rw [hostAfter_concat]
    exact (statusTransition_dated htracks hdated (htracks.counts_of_thresholds hfailure hrecovery)
      hfail hrec poll).2

/-- Settings that are missing are read as zero.  The device goes down with its first
failure, at the time 5, and the date of the outage stays empty. -/
theorem outageDates_missing_settings :
    let env := (readPingOptions (fun _ => some []) ⟨0, 0, 0, 0, 0, 0, 0⟩).env 1 fun _ => 0
    (hostAfter env steadyHost [failedAt 5]).state.status = .down ∧
      firstFailureDate [failedAt 5] = some (lit "5") ∧
      (hostAfter env steadyHost [failedAt 5]).state.statusFailDate = [] ∧
      ¬ OutagesDated env :=
  ⟨by decide, by decide, by decide, not_outagesDated_of_failure (by decide)⟩

end Spine
