import Mathlib.Tactic.FieldSimp
import Mathlib.Tactic.Ring
import Spine.Poller.Availability

/-!
# The statistics of a device

`update_host_status` keeps two counters, the share of the polls that succeeded and
the mean of the response times.  Neither list of polls is stored: the mean is moved
by one poll, with counters that already have that poll.

* `countPoll` is one call, with the increment of the counters as a parameter and with
  the numbers that it divides by.  `statusStatistics_eq` says that the call counts in `int`.
* `exactStatistics` is a run that counts in integers.  `hostAfter_statistics` says
  that a run of at most `INT_MAX` polls is such a run.
* `Summarizes` says what the statistics are after a run, by the polls alone.
-/

namespace Spine

open Base.CString

/-! ## One call -/

/-- What one call does to the statistics, with the increment of a counter, and its
divisors. -/
def countPoll (succ : Int → Int) (failed : Bool) (pingTime : ℚ) (statistics : HostStatistics) :
    HostStatistics × List Int :=
  let counted := { statistics with totalPolls := succ statistics.totalPolls }
  let (polled, divisors) :=
    if failed then ({ counted with failedPolls := succ counted.failedPolls }, [])
    else hostResponseStatistics counted pingTime
  let (availability, last) :=
    divide (100 * ((polled.totalPolls - polled.failedPolls : Int) : ℚ)) polled.totalPolls
  ({ polled with availability }, divisors ++ last)

/-- The response time of a poll.  It depends on what is configured for the device,
not on its state. -/
def StatusPoll.responseTime (env : AvailabilityEnv) (host : MonitoredHost) (poll : StatusPoll) :
    ℚ :=
  hostResponseTime env host poll.ping poll.method

theorem statusStatistics_eq (env : AvailabilityEnv) (host : MonitoredHost) (poll : StatusPoll) :
    statusStatistics env host poll =
      countPoll intSucc poll.failed (poll.responseTime env host) host.statistics := by
  unfold statusStatistics countPoll StatusPoll.failed
  by_cases hdown : poll.status = .down
  · simp only [hdown, if_true, decide_true]
  · simp only [hdown, if_false, decide_false, Bool.false_eq_true]
    rfl

/-! ## Runs -/

/-- The statistics after a run, with counters that do not wrap. -/
def exactStatistics (env : AvailabilityEnv) (host : MonitoredHost) (polls : List StatusPoll) :
    HostStatistics :=
  polls.foldl
    (fun statistics poll =>
      (countPoll (· + 1) poll.failed (poll.responseTime env host) statistics).1)
    host.statistics

/-- The response times of the polls that succeeded. -/
def successTimes (env : AvailabilityEnv) (host : MonitoredHost) (polls : List StatusPoll) :
    List ℚ :=
  (polls.filter fun poll => !poll.failed).map (StatusPoll.responseTime env host)

/-- The arithmetic mean. -/
def mean (values : List ℚ) : ℚ := values.sum / values.length

/-- One more value moves the mean of the others.  Without others, whatever stood
for their mean has no weight. -/
theorem mean_concat (values : List ℚ) (value before : ℚ)
    (hbefore : values ≠ [] → before = mean values) :
    mean (values ++ [value]) =
      ((values.length : ℚ) * before + value) / (values.length + 1 : ℚ) := by
  have hsum : (values.length : ℚ) * before = values.sum := by
    by_cases hnil : values = []
    · rw [hnil]
      simp
    · have hpos : (values.length : ℚ) ≠ 0 := by
        rw [Nat.cast_ne_zero]
        exact fun hzero => hnil (List.length_eq_zero_iff.1 hzero)
      rw [hbefore hnil, mean]
      field_simp
  rw [mean, List.sum_append, List.sum_singleton, List.length_append, List.length_singleton, hsum]
  push_cast
  rfl

section Runs

variable {env : AvailabilityEnv} {host : MonitoredHost} {polls : List StatusPoll}
  {poll : StatusPoll} {statistics : HostStatistics}

theorem exactStatistics_concat (env : AvailabilityEnv) (host : MonitoredHost)
    (polls : List StatusPoll) (poll : StatusPoll) :
    exactStatistics env host (polls ++ [poll]) =
      (countPoll (· + 1) poll.failed (poll.responseTime env host)
        (exactStatistics env host polls)).1 := by
  unfold exactStatistics
  rw [List.foldl_append]
  rfl

theorem successTimes_concat (env : AvailabilityEnv) (host : MonitoredHost)
    (polls : List StatusPoll) (poll : StatusPoll) :
    successTimes env host (polls ++ [poll]) =
      successTimes env host polls ++ if poll.failed then [] else [poll.responseTime env host] := by
  unfold successTimes
  rw [List.filter_append, List.map_append]
  cases hfailed : poll.failed <;> simp [hfailed]

/-- What the statistics are after a run: the counters count the polls, the failed
ones among them, and the rest are the successes whose mean is kept. -/
structure Summarizes (env : AvailabilityEnv) (host : MonitoredHost) (polls : List StatusPoll)
    (statistics : HostStatistics) : Prop where
  total : statistics.totalPolls = polls.length
  successes : statistics.totalPolls - statistics.failedPolls = (successTimes env host polls).length
  failed_nonneg : 0 ≤ statistics.failedPolls
  availability : polls ≠ [] → statistics.availability =
    100 * ((statistics.totalPolls - statistics.failedPolls : Int) : ℚ) / (statistics.totalPolls : ℚ)
  avgTime : successTimes env host polls ≠ [] →
    statistics.avgTime = mean (successTimes env host polls)

theorem Summarizes.start (htotal : host.statistics.totalPolls = 0)
    (hfailed : host.statistics.failedPolls = 0) : Summarizes env host [] host.statistics where
  total := htotal
  successes := by rw [htotal, hfailed]; rfl
  failed_nonneg := by rw [hfailed]
  availability := fun hne => absurd rfl hne
  avgTime := fun hne => absurd rfl hne

/-- One call adds its poll to the statistics. -/
theorem Summarizes.countPoll (h : Summarizes env host polls statistics) (poll : StatusPoll) :
    Summarizes env host (polls ++ [poll])
      (Spine.countPoll (· + 1) poll.failed (poll.responseTime env host) statistics).1 := by
  have htotal := h.total
  have hsuccesses := h.successes
  have hfailed_nonneg := h.failed_nonneg
  have htimes := successTimes_concat env host polls poll
  cases hfailed : poll.failed with
  | true =>
    rw [hfailed, if_pos rfl, List.append_nil] at htimes
    refine ⟨?_, ?_, ?_, fun _ => rfl, ?_⟩
    · show statistics.totalPolls + 1 = _
      rw [htotal, List.length_append]
      rfl
    · show statistics.totalPolls + 1 - (statistics.failedPolls + 1) = _
      rw [htimes]
      omega
    · show 0 ≤ statistics.failedPolls + 1
      omega
    · rw [htimes]
      exact h.avgTime
  | false =>
    rw [hfailed, if_neg (by decide)] at htimes
    refine ⟨?_, ?_, hfailed_nonneg, fun _ => rfl, fun _ => ?_⟩
    · show statistics.totalPolls + 1 = _
      rw [htotal, List.length_append]
      rfl
    · show statistics.totalPolls + 1 - statistics.failedPolls = _
      rw [htimes, List.length_append, List.length_singleton]
      push_cast
      omega
    · -- The counters already have this poll, so the weight of the old mean is one less.
      rw [htimes, mean_concat _ _ statistics.avgTime h.avgTime]
      show (((statistics.totalPolls + 1 - 1 - statistics.failedPolls : Int) : ℚ) *
          statistics.avgTime + poll.responseTime env host) /
        ((statistics.totalPolls + 1 - statistics.failedPolls : Int) : ℚ) = _
      have hweight : statistics.totalPolls + 1 - 1 - statistics.failedPolls =
          ((successTimes env host polls).length : Int) := by omega
      have hdivisor : statistics.totalPolls + 1 - statistics.failedPolls =
          ((successTimes env host polls).length : Int) + 1 := by omega
      rw [hweight, hdivisor]
      push_cast
      rfl

/-- The divisors of the next call. -/
theorem Summarizes.divisors_pos (h : Summarizes env host polls statistics) (failed : Bool)
    (pingTime : ℚ) :
    ∀ divisor ∈ (Spine.countPoll (· + 1) failed pingTime statistics).2, 0 < divisor := by
  have htotal := h.total
  have hsuccesses := h.successes
  intro divisor hmem
  cases failed with
  | true =>
    have heq : divisor = statistics.totalPolls + 1 := List.mem_singleton.1 hmem
    omega
  | false =>
    have heq : divisor = statistics.totalPolls + 1 - statistics.failedPolls ∨
        divisor = statistics.totalPolls + 1 := List.mem_pair.1 hmem
    omega

theorem exactStatistics_summarizes (htotal : host.statistics.totalPolls = 0)
    (hfailed : host.statistics.failedPolls = 0) (polls : List StatusPoll) :
    Summarizes env host polls (exactStatistics env host polls) := by
  induction polls using List.reverseRecOn with
  | nil => exact Summarizes.start htotal hfailed
  | append_singleton polls poll ih =>
    rw [exactStatistics_concat]
    exact ih.countPoll poll

/-- What is configured for a device stays. -/
theorem hostAfter_configured (env : AvailabilityEnv) (host : MonitoredHost)
    (polls : List StatusPoll) :
    (hostAfter env host polls).community = host.community ∧
      (hostAfter env host polls).version = host.version := by
  induction polls using List.reverseRecOn with
  | nil => exact ⟨rfl, rfl⟩
  | append_singleton polls poll ih =>
    rw [hostAfter_concat]
    exact ih

theorem responseTime_hostAfter (env : AvailabilityEnv) (host : MonitoredHost)
    (polls : List StatusPoll) (poll : StatusPoll) :
    poll.responseTime env (hostAfter env host polls) = poll.responseTime env host := by
  obtain ⟨hcommunity, hversion⟩ := hostAfter_configured env host polls
  unfold StatusPoll.responseTime hostResponseTime hostRequiresSnmp
  rw [hcommunity, hversion]

/-- Counting in `int` is exact below the limit. -/
theorem countPoll_intSucc (failed : Bool) (pingTime : ℚ)
    (htotal : statistics.totalPolls < INT_MAX) (hfailed : statistics.failedPolls < INT_MAX) :
    countPoll intSucc failed pingTime statistics =
      countPoll (· + 1) failed pingTime statistics := by
  unfold countPoll
  dsimp only
  rw [intSucc_of_lt htotal, intSucc_of_lt hfailed]

/-- A call that counts in `int` after a run that was exact. -/
theorem statusStatistics_of_exact (htotal : host.statistics.totalPolls = 0)
    (hfailed : host.statistics.failedPolls = 0) (hlength : polls.length < INT_MAX)
    (hexact : (hostAfter env host polls).statistics = exactStatistics env host polls) :
    statusStatistics env (hostAfter env host polls) poll =
      countPoll (· + 1) poll.failed (poll.responseTime env host)
        (exactStatistics env host polls) := by
  have hsummary : Summarizes env host polls (exactStatistics env host polls) :=
    exactStatistics_summarizes htotal hfailed polls
  have hcounted := hsummary.total
  have hsuccesses := hsummary.successes
  rw [statusStatistics_eq, responseTime_hostAfter, hexact]
  exact countPoll_intSucc _ _ (by omega) (by omega)

/-- No counter wraps in a run of at most `INT_MAX` polls. -/
theorem hostAfter_statistics (htotal : host.statistics.totalPolls = 0)
    (hfailed : host.statistics.failedPolls = 0) (hlength : polls.length ≤ INT_MAX) :
    (hostAfter env host polls).statistics = exactStatistics env host polls := by
  induction polls using List.reverseRecOn with
  | nil => rfl
  | append_singleton polls poll ih =>
    rw [List.length_append, List.length_singleton] at hlength
    rw [hostAfter_concat, exactStatistics_concat]
    exact congrArg Prod.fst (statusStatistics_of_exact htotal hfailed hlength (ih (by omega)))

end Runs

/-- After every call of every run from zero counters: the counters are in order, no
divisor was zero or negative, the availability is the share of the successes, and
the mean is that of the response times of all successes so far.  A run of at most
`INT_MAX` calls has these statistics and divisors also with counters of type `int`. -/
theorem updateHostStatus_statistics (env : AvailabilityEnv) (host : MonitoredHost)
    (htotal : host.statistics.totalPolls = 0) (hfailed : host.statistics.failedPolls = 0)
    (polls : List StatusPoll) (poll : StatusPoll) :
    let after := exactStatistics env host (polls ++ [poll])
    let divisors := (countPoll (· + 1) poll.failed (poll.responseTime env host)
      (exactStatistics env host polls)).2
    let times := successTimes env host (polls ++ [poll])
    (0 ≤ after.failedPolls ∧ after.failedPolls ≤ after.totalPolls) ∧
      (∀ divisor ∈ divisors, 0 < divisor) ∧
      after.availability =
        100 * ((after.totalPolls - after.failedPolls : Int) : ℚ) / (after.totalPolls : ℚ) ∧
      (times ≠ [] → after.avgTime = mean times) ∧
      ((polls ++ [poll]).length ≤ INT_MAX →
        (hostAfter env host (polls ++ [poll])).statistics = after ∧
          (statusStatistics env (hostAfter env host polls) poll).2 = divisors) := by
  intro after divisors times
  have hbefore : Summarizes env host polls (exactStatistics env host polls) :=
    exactStatistics_summarizes htotal hfailed polls
  have hafter : Summarizes env host (polls ++ [poll]) after :=
    exactStatistics_summarizes htotal hfailed (polls ++ [poll])
  have hsuccesses := hafter.successes
  refine ⟨⟨hafter.failed_nonneg, by omega⟩, hbefore.divisors_pos poll.failed _, ?_,
    hafter.avgTime, fun hlength => ⟨hostAfter_statistics htotal hfailed hlength, ?_⟩⟩
  · exact hafter.availability (List.append_ne_nil_of_right_ne_nil _ (List.cons_ne_nil _ _))
  · rw [List.length_append, List.length_singleton] at hlength
    exact congrArg Prod.snd (statusStatistics_of_exact htotal hfailed hlength
      (hostAfter_statistics htotal hfailed (Nat.le_of_succ_le hlength)))

/-- A failure and then a success of 4 ms: half of the polls succeeded, and the mean
is that of the one success. -/
theorem updateHostStatus_statistics_mixed :
    ∃ (env : AvailabilityEnv) (failure success : StatusPoll),
      failure.failed = true ∧ success.failed = false ∧
      (exactStatistics env steadyHost ([failure] ++ [success])).availability = 50 ∧
      (exactStatistics env steadyHost ([failure] ++ [success])).avgTime = 4 ∧
      (hostAfter env steadyHost ([failure] ++ [success])).statistics =
        exactStatistics env steadyHost ([failure] ++ [success]) := by
  refine ⟨⟨1, 1, 1, fun _ => 4⟩, failedPoll, ⟨.up, failedPoll.ping, .ping, 1700000300⟩,
    rfl, rfl, ?_, ?_, ?_⟩
  · rw [(updateHostStatus_statistics _ steadyHost rfl rfl _ _).2.2.1]
    show (100 * ((2 - 1 : Int) : ℚ) / ((2 : Int) : ℚ) : ℚ) = 50
    norm_num
  · refine ((updateHostStatus_statistics _ steadyHost rfl rfl _ _).2.2.2.1 ?_).trans ?_
    · exact List.cons_ne_nil _ _
    · show ((4 + 0 : ℚ) / ((1 : Nat) : ℚ)) = 4
      norm_num
  · exact ((updateHostStatus_statistics _ steadyHost rfl rfl _ _).2.2.2.2 (by decide)).1

end Spine
