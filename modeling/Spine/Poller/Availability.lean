import Spine.Base.Hysteresis
import Spine.Poller.PollHost

/-!
# The status of a device

`update_host_status` of `poller/availability.c` takes the outcome of one poll
and keeps the status of a device, its statistics and its event count.  A device
goes down after `ping_failure_count` failures in a row, and it comes back after
`ping_recovery_count` successes.

* The model.  `hostFailureTransition` and `hostRecoveryTransition` move the
  status and say whether an event is logged.  The times are rational numbers
  here, and `atof` is an argument.
* The switch.  `availabilitySwitch` is the purpose of the two thresholds, a
  switch with hysteresis over the outcomes.  `Tracks` ties status and event
  count to it.  Each of the two transitions keeps `Tracks`, and
  `hostAfter_tracks` follows for every run.
* The result is `hostAfter_hysteresis`.
-/

namespace Spine

open Base.CString Base.Hysteresis

/-! ## Records -/

/-- `HOST_UNKNOWN`, `HOST_DOWN`, `HOST_RECOVERING` and `HOST_UP`. -/
inductive HostStatus where
  | unknown
  | down
  | recovering
  | up
  deriving DecidableEq, Repr

/-- `host->state`. -/
structure HostState where
  status : HostStatus
  statusEventCount : Int
  statusFailDate : Text
  statusRecDate : Text
  statusLastError : Text
  deriving DecidableEq, Repr

/-- `host->statistics`. -/
structure HostStatistics where
  minTime : ℚ
  maxTime : ℚ
  curTime : ℚ
  avgTime : ℚ
  totalPolls : Int
  failedPolls : Int
  availability : ℚ
  deriving DecidableEq

/-- The part of `host_t` that `update_host_status` reads and writes. -/
structure MonitoredHost where
  id : Int
  hostname : Text
  community : Text
  version : Int
  state : HostState
  statistics : HostStatistics
  deriving DecidableEq

/-- `ping_t`. -/
structure Ping where
  pingStatus : Text
  pingResponse : Text
  snmpStatus : Text
  snmpResponse : Text
  deriving DecidableEq, Repr

/-- The arguments of one call, with the time that it is made. -/
structure StatusPoll where
  status : HostStatus
  ping : Ping
  method : AvailMethod
  time : Nat
  deriving DecidableEq, Repr

/-- The settings that are read, and `atof`. -/
structure AvailabilityEnv where
  pingFailureCount : Int
  pingRecoveryCount : Int
  logLevel : Int
  atof : Text → ℚ

/-- A line of the log: the result of an availability check, or a `HOST EVENT`. -/
inductive AvailabilityLine where
  | result (text : Text)
  | hostEvent (text : Text)
  deriving DecidableEq, Repr

def POLLER_VERBOSITY_HIGH : Int := 4

/-- `count++` on an `int`, which wraps where the C standard leaves it open. -/
def intSucc (count : Int) : Int := if count = INT_MAX then -INT_MAX - 1 else count + 1

theorem intSucc_of_lt {count : Int} (h : count < INT_MAX) : intSucc count = count + 1 := by
  unfold intSucc
  rw [if_neg (by omega)]

theorem intSucc_le (count : Int) : intSucc count ≤ count + 1 := by
  unfold intSucc
  split
  · omega
  · exact le_rfl

/-! ## The update -/

/-- `host_requires_snmp`. -/
def hostRequiresSnmp (host : MonitoredHost) : Bool :=
  !host.community.isEmpty || decide (3 ≤ host.version)

/-- `host_failure_message`. -/
def hostFailureMessage (host : MonitoredHost) (ping : Ping) (method : AvailMethod) : Text :=
  snprintfS (BUFSIZE * 2 + 1) <|
    match method with
    | .snmpOrPing | .snmpAndPing =>
      if hostRequiresSnmp host then ping.snmpResponse ++ lit ", " ++ ping.pingResponse
      else ping.pingResponse
    | .snmp =>
      if hostRequiresSnmp host then ping.snmpResponse else lit "Device does not require SNMP"
    | _ => ping.pingResponse

/-- `host_failure_transition`: the state afterwards, and whether an event is
logged. -/
def hostFailureTransition (env : AvailabilityEnv) (state : HostState) (date : Text) :
    HostState × Bool :=
  match state.status with
  | .up =>
    let count := intSucc state.statusEventCount
    if env.pingFailureCount ≤ count then
      ({ state with
          status := .down
          statusEventCount := count
          statusFailDate := if env.pingFailureCount = 1 then date else state.statusFailDate },
        true)
    else
      ({ state with
          statusEventCount := count
          statusFailDate := if count = 1 then date else state.statusFailDate },
        false)
  | .recovering => ({ state with status := .down, statusEventCount := 1 }, false)
  | .unknown => ({ state with status := .down, statusEventCount := 0 }, false)
  | .down => ({ state with statusEventCount := intSucc state.statusEventCount }, false)

/-- `host_recovery_transition`: the state afterwards, and whether an event is
logged. -/
def hostRecoveryTransition (env : AvailabilityEnv) (state : HostState) (date : Text) :
    HostState × Bool :=
  if state.status ≠ .down ∧ state.status ≠ .recovering then
    ({ state with status := .up, statusEventCount := 0 }, false)
  else
    let count := if state.status = .down then 1 else intSucc state.statusEventCount
    if env.pingRecoveryCount ≤ count then
      ({ state with
          status := .up
          statusEventCount := 0
          statusRecDate := if env.pingRecoveryCount = 1 then date else state.statusRecDate },
        true)
    else
      ({ state with
          status := .recovering
          statusEventCount := count
          statusRecDate := if count = 1 then date else state.statusRecDate },
        false)

/-- `host_response_time`. -/
def hostResponseTime (env : AvailabilityEnv) (host : MonitoredHost) (ping : Ping)
    (method : AvailMethod) : ℚ :=
  match method with
  | .snmpAndPing =>
    if hostRequiresSnmp host then (env.atof ping.snmpStatus + env.atof ping.pingStatus) / 2
    else env.atof ping.pingStatus
  | .snmp => if hostRequiresSnmp host then env.atof ping.snmpStatus else 0
  | .none => 0
  | _ => env.atof ping.pingStatus

/-- A quotient, with what was divided by. -/
def divide (numerator : ℚ) (divisor : Int) : ℚ × List Int :=
  (numerator / (divisor : ℚ), [divisor])

/-- `host_response_statistics`, with the divisors. -/
def hostResponseStatistics (statistics : HostStatistics) (pingTime : ℚ) :
    HostStatistics × List Int :=
  let (avgTime, divisors) := divide
    (((statistics.totalPolls - 1 - statistics.failedPolls : Int) : ℚ) * statistics.avgTime +
      pingTime)
    (statistics.totalPolls - statistics.failedPolls)
  ({ statistics with
      curTime := pingTime
      maxTime := if statistics.maxTime < pingTime then pingTime else statistics.maxTime
      minTime := if pingTime < statistics.minTime then pingTime else statistics.minTime
      avgTime }, divisors)

/-- `log_host_availability`. -/
def logHostAvailability (env : AvailabilityEnv) (host : MonitoredHost) (ping : Ping)
    (method : AvailMethod) : List AvailabilityLine :=
  let isUp := decide (host.state.status = .up ∨ host.state.status = .recovering)
  let line (label text : Text) : AvailabilityLine :=
    .result (lit "Device[" ++ decimalInt host.id ++ lit "] " ++ label ++ text)
  if env.logLevel < POLLER_VERBOSITY_HIGH then []
  else if method = .snmpAndPing ∨ (method = .snmpOrPing ∧ isUp) then
    [line (lit "PING Result: ") ping.pingResponse, line (lit "SNMP Result: ") ping.snmpResponse]
  else if method = .snmp then
    [line (lit "SNMP Result: ")
      (if isUp && !hostRequiresSnmp host then lit "Device does not require SNMP"
      else ping.snmpResponse)]
  else if method = .none then [line (lit "No Device Availability Method Selected") []]
  else if isUp then [line (lit "PING: Result ") ping.pingResponse]
  else [line (lit "PING Result: ") ping.pingResponse]

/-- The `HOST EVENT` line of the status that the device changed to. -/
def hostEventLine (host : MonitoredHost) : AvailabilityLine :=
  .hostEvent <|
    lit "Device[" ++ decimalInt host.id ++ lit "] Hostname[" ++ host.hostname ++ lit "] " ++
      if host.state.status = .down then
        lit "ERROR: HOST EVENT: Device is DOWN Message: " ++ host.state.statusLastError
      else lit "NOTICE: HOST EVENT: Device Returned from DOWN State"

/-- The transition that `update_host_status` makes. -/
def statusTransition (env : AvailabilityEnv) (host : MonitoredHost) (poll : StatusPoll) :
    HostState × Bool :=
  let date := decimal poll.time
  if poll.status = .down then
    hostFailureTransition env
      { host.state with statusLastError := hostFailureMessage host poll.ping poll.method } date
  else hostRecoveryTransition env host.state date

/-- The statistics that `update_host_status` leaves, with the divisors. -/
def statusStatistics (env : AvailabilityEnv) (host : MonitoredHost) (poll : StatusPoll) :
    HostStatistics × List Int :=
  let counted := { host.statistics with totalPolls := intSucc host.statistics.totalPolls }
  let (polled, divisors) :=
    if poll.status = .down then ({ counted with failedPolls := intSucc counted.failedPolls }, [])
    else
      hostResponseStatistics counted (hostResponseTime env host poll.ping poll.method)
  let (availability, last) :=
    divide (100 * ((polled.totalPolls - polled.failedPolls : Int) : ℚ)) polled.totalPolls
  ({ polled with availability }, divisors ++ last)

/-- `update_host_status`: the device afterwards and the lines that are logged. -/
def updateHostStatus (env : AvailabilityEnv) (host : MonitoredHost) (poll : StatusPoll) :
    MonitoredHost × List AvailabilityLine :=
  let (state, issueLogMessage) := statusTransition env host poll
  let host := { host with state, statistics := (statusStatistics env host poll).1 }
  (host, logHostAvailability env host poll.ping poll.method ++
    if issueLogMessage then [hostEventLine host] else [])

/-- A device after a run of polls. -/
def hostAfter (env : AvailabilityEnv) (host : MonitoredHost) (polls : List StatusPoll) :
    MonitoredHost :=
  polls.foldl (fun host poll => (updateHostStatus env host poll).1) host

/-- The lines that one more poll logs. -/
def linesAt (env : AvailabilityEnv) (host : MonitoredHost) (polls : List StatusPoll)
    (poll : StatusPoll) : List AvailabilityLine :=
  (updateHostStatus env (hostAfter env host polls) poll).2

/-- A line is a `HOST EVENT`. -/
def AvailabilityLine.isHostEvent : AvailabilityLine → Bool
  | .result _ => false
  | .hostEvent _ => true

theorem hostAfter_concat (env : AvailabilityEnv) (host : MonitoredHost) (polls : List StatusPoll)
    (poll : StatusPoll) :
    hostAfter env host (polls ++ [poll]) =
      (updateHostStatus env (hostAfter env host polls) poll).1 := by
  unfold hostAfter
  rw [List.foldl_append]
  rfl

/-- The results of the checks are no events. -/
theorem not_isHostEvent_of_mem_logHostAvailability {env : AvailabilityEnv} {host : MonitoredHost}
    {ping : Ping} {method : AvailMethod} {line : AvailabilityLine}
    (h : line ∈ logHostAvailability env host ping method) : line.isHostEvent = false := by
  unfold logHostAvailability at h
  dsimp only at h
  split_ifs at h <;> simp only [List.mem_cons, List.not_mem_nil, or_false] at h
  · rcases h with rfl | rfl <;> rfl
  all_goals rw [h]; rfl

/-- A `HOST EVENT` is logged exactly when the transition asks for it. -/
theorem updateHostStatus_hostEvent (env : AvailabilityEnv) (host : MonitoredHost)
    (poll : StatusPoll) :
    (∃ line ∈ (updateHostStatus env host poll).2, line.isHostEvent = true) ↔
      (statusTransition env host poll).2 = true := by
  unfold updateHostStatus
  dsimp only
  constructor
  · rintro ⟨line, hline, hevent⟩
    rcases List.mem_append.1 hline with hresult | hissued
    · rw [not_isHostEvent_of_mem_logHostAvailability hresult] at hevent
      cases hevent
    · by_contra hno
      rw [if_neg hno] at hissued
      exact absurd hissued List.not_mem_nil
  · intro hissue
    rw [if_pos hissue]
    exact ⟨_, List.mem_append_right _ (List.mem_singleton.2 rfl), rfl⟩

/-! ## The switch -/

/-- The poll failed. -/
def StatusPoll.failed (poll : StatusPoll) : Bool := decide (poll.status = .down)

/-- What the thresholds are for: a device goes off after a number of failures
in a row and on again after a number of successes. -/
def availabilitySwitch (env : AvailabilityEnv) : Switch StatusPoll where
  bad := StatusPoll.failed
  offAfter := (max env.pingFailureCount 1).toNat
  onAfter := (max env.pingRecoveryCount 1).toNat
  offAfter_pos := by omega
  onAfter_pos := by omega

/-- The failures at the end of a run. -/
def failuresInARow (polls : List StatusPoll) : Nat := streak StatusPoll.failed polls

/-- The successes since the last failure of a run. -/
def successesInARow (polls : List StatusPoll) : Nat := streak (fun poll => !poll.failed) polls

/-- The state after a run, against the switch: the status is up while the
switch is on, and the event count is the number of failures or of successes in
a row. -/
structure Tracks (env : AvailabilityEnv) (polls : List StatusPoll) (state : HostState) :
    Prop where
  status : state.status =
    if (availabilitySwitch env).isOn polls then .up
    else if successesInARow polls = 0 then .down
    else .recovering
  failures : state.status = .up → state.statusEventCount = failuresInARow polls
  successes : state.status = .recovering → state.statusEventCount = successesInARow polls
  bounded : state.statusEventCount ≤ polls.length

theorem Tracks.start (env : AvailabilityEnv) {state : HostState} (hstatus : state.status = .up)
    (hcount : state.statusEventCount = 0) : Tracks env [] state where
  status := hstatus
  failures := fun _ => hcount
  successes := fun h => by rw [hstatus] at h; cases h
  bounded := by rw [hcount]; exact le_rfl

section Step

variable {env : AvailabilityEnv} {polls : List StatusPoll} {poll : StatusPoll} {state : HostState}

theorem Tracks.ofUp (hon : (availabilitySwitch env).isOn polls = true)
    (hstatus : state.status = .up) (hcount : state.statusEventCount = failuresInARow polls) :
    Tracks env polls state where
  status := by rw [if_pos hon, hstatus]
  failures := fun _ => hcount
  successes := fun h => absurd (hstatus.symm.trans h) (by decide)
  bounded := by
    have hle : failuresInARow polls ≤ polls.length := streak_le_length _ _
    omega

theorem Tracks.ofDown (hoff : (availabilitySwitch env).isOn polls = false)
    (hsuccesses : successesInARow polls = 0) (hstatus : state.status = .down)
    (hbounded : state.statusEventCount ≤ polls.length) : Tracks env polls state where
  status := by rw [hoff, if_neg (by decide), if_pos hsuccesses, hstatus]
  failures := fun h => absurd (hstatus.symm.trans h) (by decide)
  successes := fun h => absurd (hstatus.symm.trans h) (by decide)
  bounded := hbounded

theorem Tracks.ofRecovering (hoff : (availabilitySwitch env).isOn polls = false)
    (hsuccesses : successesInARow polls ≠ 0) (hstatus : state.status = .recovering)
    (hcount : state.statusEventCount = successesInARow polls) : Tracks env polls state where
  status := by rw [hoff, if_neg (by decide), if_neg hsuccesses, hstatus]
  failures := fun h => absurd (hstatus.symm.trans h) (by decide)
  successes := fun _ => hcount
  bounded := by
    have hle : successesInARow polls ≤ polls.length := streak_le_length _ _
    omega

theorem Tracks.status_of_on (h : Tracks env polls state)
    (hon : (availabilitySwitch env).isOn polls = true) : state.status = .up := by
  rw [h.status, if_pos hon]

theorem Tracks.status_of_off (h : Tracks env polls state)
    (hoff : (availabilitySwitch env).isOn polls = false) :
    state.status = .down ∧ successesInARow polls = 0 ∨
      state.status = .recovering ∧ successesInARow polls ≠ 0 := by
  have hstatus := h.status
  rw [hoff, if_neg (by decide)] at hstatus
  by_cases hzero : successesInARow polls = 0
  · rw [if_pos hzero] at hstatus
    exact Or.inl ⟨hstatus, hzero⟩
  · rw [if_neg hzero] at hstatus
    exact Or.inr ⟨hstatus, hzero⟩

/-- The event count is not at its limit, unless the device is down. -/
def Counts (state : HostState) : Prop :=
  state.status ≠ .down → intSucc state.statusEventCount = state.statusEventCount + 1

theorem Tracks.counts_of_length (h : Tracks env polls state) (hlength : polls.length < INT_MAX) :
    Counts state := by
  intro _
  have hbounded := h.bounded
  exact intSucc_of_lt (by omega)

/-- A count of failures or of successes in a row stays below its threshold, so
with thresholds of type `int` no run is too long. -/
theorem Tracks.counts_of_thresholds (h : Tracks env polls state)
    (hfailure : env.pingFailureCount ≤ INT_MAX) (hrecovery : env.pingRecoveryCount ≤ INT_MAX) :
    Counts state := by
  have hmax : 1 ≤ (INT_MAX : Int) := by decide
  intro hstatus
  refine intSucc_of_lt ?_
  cases hswitch : (availabilitySwitch env).isOn polls with
  | true =>
    have hlt : failuresInARow polls < (max env.pingFailureCount 1).toNat :=
      Switch.streak_bad_lt hswitch
    rw [h.failures (h.status_of_on hswitch)]
    omega
  | false =>
    have hlt : successesInARow polls < (max env.pingRecoveryCount 1).toNat :=
      Switch.streak_good_lt hswitch
    rcases h.status_of_off hswitch with ⟨hdown, -⟩ | ⟨hrecovering, -⟩
    · exact absurd hdown hstatus
    · rw [h.successes hrecovering]
      omega

/-- The switch after one more poll, in the counts of the run. -/
theorem isOn_availabilitySwitch_concat (env : AvailabilityEnv) (polls : List StatusPoll)
    (poll : StatusPoll) :
    (availabilitySwitch env).isOn (polls ++ [poll]) =
      if (availabilitySwitch env).isOn polls then
        decide (failuresInARow (polls ++ [poll]) ≠ (max env.pingFailureCount 1).toNat)
      else decide (successesInARow (polls ++ [poll]) = (max env.pingRecoveryCount 1).toNat) :=
  (availabilitySwitch env).isOn_concat polls poll

/-- One failure moves the state with the switch, and an event is logged when
the switch goes off. -/
theorem hostFailureTransition_tracks (h : Tracks env polls state) (hfailed : poll.failed = true)
    (hcounts : Counts state) (date : Text) :
    Tracks env (polls ++ [poll]) (hostFailureTransition env state date).1 ∧
      ((hostFailureTransition env state date).2 = true ↔
        (availabilitySwitch env).isOn polls ≠
          (availabilitySwitch env).isOn (polls ++ [poll])) := by
  have hfailures : failuresInARow (polls ++ [poll]) = failuresInARow polls + 1 :=
    streak_concat_of_pos hfailed polls
  have hsuccesses : successesInARow (polls ++ [poll]) = 0 :=
    streak_concat_of_neg (by rw [hfailed]; rfl) polls
  have hgrown : intSucc state.statusEventCount ≤ (polls ++ [poll]).length := by
    have hbounded := h.bounded
    have hle := intSucc_le state.statusEventCount
    rw [List.length_append, List.length_singleton]
    omega
  have hswitch := isOn_availabilitySwitch_concat env polls poll
  cases hbefore : (availabilitySwitch env).isOn polls with
  | true =>
    have hup := h.status_of_on hbefore
    have hcount := h.failures hup
    have hlt : failuresInARow polls < (max env.pingFailureCount 1).toNat :=
      Switch.streak_bad_lt hbefore
    rw [hbefore, if_pos rfl, hfailures] at hswitch
    rw [hcounts (by rw [hup]; decide)] at hgrown
    unfold hostFailureTransition
    rw [hup]
    dsimp only
    rw [hcounts (by rw [hup]; decide)]
    by_cases hdown : env.pingFailureCount ≤ state.statusEventCount + 1
    · rw [if_pos hdown]
      have hoff : (availabilitySwitch env).isOn (polls ++ [poll]) = false := by
        rw [hswitch, decide_eq_false_iff_not]
        omega
      exact ⟨Tracks.ofDown hoff hsuccesses rfl hgrown, by simp [hoff]⟩
    · rw [if_neg hdown]
      have hstill : (availabilitySwitch env).isOn (polls ++ [poll]) = true := by
        rw [hswitch, decide_eq_true_eq]
        omega
      refine ⟨Tracks.ofUp hstill rfl ?_, by simp [hstill]⟩
      rw [hfailures, hcount]
      rfl
  | false =>
    have hoff : (availabilitySwitch env).isOn (polls ++ [poll]) = false := by
      rw [hswitch, hbefore, if_neg (by decide), hsuccesses, decide_eq_false_iff_not]
      omega
    unfold hostFailureTransition
    rcases h.status_of_off hbefore with ⟨hstatus, -⟩ | ⟨hstatus, -⟩
    · rw [hstatus]
      exact ⟨Tracks.ofDown hoff hsuccesses rfl hgrown, by simp [hoff]⟩
    · rw [hstatus]
      refine ⟨Tracks.ofDown hoff hsuccesses rfl ?_, by simp [hoff]⟩
      rw [List.length_append]
      show (1 : Int) ≤ _
      simp

/-- Whatever the event count of a device that is off held before, a success makes it count
the successes. -/
theorem Tracks.recovery_count (h : Tracks env polls state) (hcounts : Counts state)
    (hoff : (availabilitySwitch env).isOn polls = false) :
    ¬ (state.status ≠ .down ∧ state.status ≠ .recovering) ∧
      (if state.status = .down then 1 else intSucc state.statusEventCount) =
        (successesInARow polls : Int) + 1 := by
  rcases h.status_of_off hoff with ⟨hstatus, hzero⟩ | ⟨hstatus, -⟩
  · rw [if_pos hstatus, hzero]
    exact ⟨by simp [hstatus], rfl⟩
  · rw [if_neg (by rw [hstatus]; decide), hcounts (by rw [hstatus]; decide), h.successes hstatus]
    exact ⟨by simp [hstatus], rfl⟩

/-- One success moves the state with the switch, and an event is logged when
the switch goes on. -/
theorem hostRecoveryTransition_tracks (h : Tracks env polls state) (hfailed : poll.failed = false)
    (hcounts : Counts state) (date : Text) :
    Tracks env (polls ++ [poll]) (hostRecoveryTransition env state date).1 ∧
      ((hostRecoveryTransition env state date).2 = true ↔
        (availabilitySwitch env).isOn polls ≠
          (availabilitySwitch env).isOn (polls ++ [poll])) := by
  have hfailures : failuresInARow (polls ++ [poll]) = 0 := streak_concat_of_neg hfailed polls
  have hsuccesses : successesInARow (polls ++ [poll]) = successesInARow polls + 1 :=
    streak_concat_of_pos (by rw [hfailed]; rfl) polls
  have hswitch := isOn_availabilitySwitch_concat env polls poll
  cases hbefore : (availabilitySwitch env).isOn polls with
  | true =>
    have hstill : (availabilitySwitch env).isOn (polls ++ [poll]) = true := by
      rw [hswitch, hbefore, if_pos rfl, hfailures, decide_eq_true_eq]
      omega
    unfold hostRecoveryTransition
    rw [h.status_of_on hbefore, if_pos (by decide)]
    refine ⟨Tracks.ofUp hstill rfl ?_, by simp [hstill]⟩
    rw [hfailures]
    rfl
  | false =>
    have hlt : successesInARow polls < (max env.pingRecoveryCount 1).toNat :=
      Switch.streak_good_lt hbefore
    rw [hbefore, if_neg (by decide), hsuccesses] at hswitch
    obtain ⟨hnotUp, hcount⟩ := h.recovery_count hcounts hbefore
    unfold hostRecoveryTransition
    rw [if_neg hnotUp]
    dsimp only
    rw [hcount]
    by_cases hback : env.pingRecoveryCount ≤ (successesInARow polls : Int) + 1
    · rw [if_pos hback]
      have hup : (availabilitySwitch env).isOn (polls ++ [poll]) = true := by
        rw [hswitch, decide_eq_true_eq]
        omega
      refine ⟨Tracks.ofUp hup rfl ?_, by simp [hup]⟩
      rw [hfailures]
      rfl
    · rw [if_neg hback]
      have hoff : (availabilitySwitch env).isOn (polls ++ [poll]) = false := by
        rw [hswitch, decide_eq_false_iff_not]
        omega
      refine ⟨Tracks.ofRecovering hoff (by omega) rfl ?_, by simp [hoff]⟩
      rw [hsuccesses]
      rfl

/-- One poll moves the state with the switch, and an event is logged exactly
when the switch changes. -/
theorem statusTransition_tracks {host : MonitoredHost} (h : Tracks env polls host.state)
    (hcounts : Counts host.state) (poll : StatusPoll) :
    Tracks env (polls ++ [poll]) (statusTransition env host poll).1 ∧
      ((statusTransition env host poll).2 = true ↔
        (availabilitySwitch env).isOn polls ≠
          (availabilitySwitch env).isOn (polls ++ [poll])) := by
  unfold statusTransition
  dsimp only
  by_cases hdown : poll.status = .down
  · rw [if_pos hdown]
    have hfailed : poll.failed = true := by simp [StatusPoll.failed, hdown]
    have hmessage : Tracks env polls
        { host.state with statusLastError := hostFailureMessage host poll.ping poll.method } :=
      ⟨h.status, h.failures, h.successes, h.bounded⟩
    exact hostFailureTransition_tracks hmessage hfailed hcounts _
  · rw [if_neg hdown]
    have hfailed : poll.failed = false := by simp [StatusPoll.failed, hdown]
    exact hostRecoveryTransition_tracks h hfailed hcounts _

theorem Tracks.isOn_iff (h : Tracks env polls state) :
    (availabilitySwitch env).isOn polls = true ↔ state.status = .up := by
  refine ⟨h.status_of_on, fun hup => ?_⟩
  by_contra hoff
  rcases h.status_of_off (Bool.eq_false_of_not_eq_true hoff) with ⟨hstatus, -⟩ | ⟨hstatus, -⟩
  · exact absurd (hstatus.symm.trans hup) (by decide)
  · exact absurd (hstatus.symm.trans hup) (by decide)

theorem Tracks.isOn_eq_false (h : Tracks env polls state) (hstatus : state.status ≠ .up) :
    (availabilitySwitch env).isOn polls = false :=
  Bool.eq_false_of_not_eq_true fun hon => hstatus (h.isOn_iff.1 hon)

/-- A device is recovering exactly when it is not back and there are successes
since the last failure, fewer than it takes to come back. -/
theorem Tracks.recovering_iff (h : Tracks env polls state) :
    state.status = .recovering ↔
      state.status ≠ .up ∧ 1 ≤ (successesInARow polls : Int) ∧
        (successesInARow polls : Int) ≤ env.pingRecoveryCount - 1 := by
  constructor
  · intro hrecovering
    have hnotUp : state.status ≠ .up := by rw [hrecovering]; decide
    have hlt : successesInARow polls < (max env.pingRecoveryCount 1).toNat :=
      Switch.streak_good_lt (h.isOn_eq_false hnotUp)
    rcases h.status_of_off (h.isOn_eq_false hnotUp) with ⟨hdown, -⟩ | ⟨-, hsome⟩
    · exact absurd (hrecovering.symm.trans hdown) (by decide)
    · exact ⟨hnotUp, by omega, by omega⟩
  · rintro ⟨hnotUp, hsome, -⟩
    rcases h.status_of_off (h.isOn_eq_false hnotUp) with ⟨-, hzero⟩ | ⟨hstatus, -⟩
    · omega
    · exact hstatus

section Next

variable {next : HostState} (h : Tracks env polls state)
  (hnext : Tracks env (polls ++ [poll]) next)

include h hnext

/-- A device that is up does not go to recovering at once. -/
theorem Tracks.next_of_up (hup : state.status = .up) : next.status = .up ∨ next.status = .down := by
  have hswitch := isOn_availabilitySwitch_concat env polls poll
  rw [h.isOn_iff.2 hup, if_pos rfl] at hswitch
  by_cases hstays : next.status = .up
  · exact Or.inl hstays
  have hoff := hnext.isOn_eq_false hstays
  rcases hnext.status_of_off hoff with ⟨hdown, -⟩ | ⟨-, hsome⟩
  · exact Or.inr hdown
  · -- A success would have kept the switch on.
    have hgood : poll.failed = false := by
      by_contra hbad
      exact hsome (streak_concat_of_neg (by simpa using hbad) polls)
    have hzero : failuresInARow (polls ++ [poll]) = 0 := streak_concat_of_neg hgood polls
    rw [hoff, hzero] at hswitch
    have hthreshold := of_decide_eq_false hswitch.symm
    omega

theorem Tracks.next_down_iff (hup : state.status = .up) :
    next.status = .down ↔
      (failuresInARow (polls ++ [poll]) : Int) = max env.pingFailureCount 1 := by
  have hswitch := isOn_availabilitySwitch_concat env polls poll
  rw [h.isOn_iff.2 hup, if_pos rfl] at hswitch
  have hdown : next.status = .down ↔ ¬ next.status = .up := by
    rcases h.next_of_up hnext hup with hstatus | hstatus <;> simp [hstatus]
  rw [hdown, ← hnext.isOn_iff, hswitch, decide_eq_true_eq, not_not]
  omega

theorem Tracks.next_up_iff (hnotUp : state.status ≠ .up) :
    next.status = .up ↔
      (successesInARow (polls ++ [poll]) : Int) = max env.pingRecoveryCount 1 := by
  have hswitch := isOn_availabilitySwitch_concat env polls poll
  rw [h.isOn_eq_false hnotUp, if_neg (by decide)] at hswitch
  rw [← hnext.isOn_iff, hswitch, decide_eq_true_eq]
  omega

/-- The switch changes exactly when the device goes down or comes back. -/
theorem Tracks.isOn_ne_iff :
    (availabilitySwitch env).isOn polls ≠ (availabilitySwitch env).isOn (polls ++ [poll]) ↔
      state.status = .up ∧ next.status = .down ∨ state.status ≠ .up ∧ next.status = .up := by
  by_cases hup : state.status = .up
  · rw [h.isOn_iff.2 hup]
    rcases h.next_of_up hnext hup with hstatus | hstatus
    · simp [hnext.isOn_iff.2 hstatus, hup, hstatus]
    · simp [hnext.isOn_eq_false (by rw [hstatus]; decide), hup, hstatus]
  · rw [h.isOn_eq_false hup]
    by_cases hnextUp : next.status = .up
    · simp [hnext.isOn_iff.2 hnextUp, hup, hnextUp]
    · simp [hnext.isOn_eq_false hnextUp, hup, hnextUp]

end Next

end Step

/-- Every run from a device that is up keeps to the switch. -/
theorem hostAfter_tracks (env : AvailabilityEnv) {host : MonitoredHost}
    (hstatus : host.state.status = .up) (hcount : host.state.statusEventCount = 0)
    (polls : List StatusPoll) (hlength : polls.length < INT_MAX) :
    Tracks env polls (hostAfter env host polls).state := by
  induction polls using List.reverseRecOn with
  | nil => exact Tracks.start env hstatus hcount
  | append_singleton polls poll ih =>
    rw [List.length_append, List.length_singleton] at hlength
    have htracks := ih (by omega)
    rw [hostAfter_concat]
    exact (statusTransition_tracks htracks (htracks.counts_of_length (by omega)) poll).1

/-- With thresholds of type `int`, the runs may be of any length. -/
theorem hostAfter_tracks_of_thresholds {env : AvailabilityEnv} {host : MonitoredHost}
    (hfailure : env.pingFailureCount ≤ INT_MAX) (hrecovery : env.pingRecoveryCount ≤ INT_MAX)
    (hstatus : host.state.status = .up) (hcount : host.state.statusEventCount = 0)
    (polls : List StatusPoll) : Tracks env polls (hostAfter env host polls).state := by
  induction polls using List.reverseRecOn with
  | nil => exact Tracks.start env hstatus hcount
  | append_singleton polls poll ih =>
    rw [hostAfter_concat]
    exact (statusTransition_tracks ih (ih.counts_of_thresholds hfailure hrecovery) poll).1

/-- The status of a device over a run of polls.  A device that is up goes down
with the poll that completes `max ping_failure_count 1` failures in a row.  A
device that is not up comes back with the poll that completes
`max ping_recovery_count 1` successes in a row.  Until then it is recovering
exactly when there are successes since the last failure.  A `HOST EVENT` is
logged with these two changes and at no other poll. -/
theorem hostAfter_hysteresis (env : AvailabilityEnv) (host : MonitoredHost)
    (hstatus : host.state.status = .up) (hcount : host.state.statusEventCount = 0)
    (polls : List StatusPoll) (poll : StatusPoll) (hlength : (polls ++ [poll]).length < INT_MAX) :
    let before := (hostAfter env host polls).state.status
    let after := (hostAfter env host (polls ++ [poll])).state.status
    let failures : Int := failuresInARow (polls ++ [poll])
    let successes : Int := successesInARow (polls ++ [poll])
    (before = .up → after = .up ∨ after = .down) ∧
      (before = .up → (after = .down ↔ failures = max env.pingFailureCount 1)) ∧
      (before ≠ .up → (after = .up ↔ successes = max env.pingRecoveryCount 1)) ∧
      (after = .recovering ↔
        after ≠ .up ∧ 1 ≤ successes ∧ successes ≤ env.pingRecoveryCount - 1) ∧
      ((∃ line ∈ linesAt env host polls poll, line.isHostEvent = true) ↔
        before = .up ∧ after = .down ∨ before ≠ .up ∧ after = .up) := by
  intro before after failures successes
  have hshorter : polls.length < INT_MAX := by
    rw [List.length_append] at hlength
    omega
  have hbefore := hostAfter_tracks env hstatus hcount polls hshorter
  have hafter := hostAfter_tracks env hstatus hcount (polls ++ [poll]) hlength
  refine ⟨hbefore.next_of_up hafter, hbefore.next_down_iff hafter, hbefore.next_up_iff hafter,
    hafter.recovering_iff, ?_⟩
  rw [linesAt, updateHostStatus_hostEvent,
    (statusTransition_tracks hbefore (hbefore.counts_of_length hshorter) poll).2]
  exact hbefore.isOn_ne_iff hafter

/-- Two failures in a row for down, two successes for up. -/
def twoInARow : AvailabilityEnv := ⟨2, 2, 1, fun _ => 0⟩

/-- A device that is up. -/
def steadyHost : MonitoredHost where
  id := 7
  hostname := lit "router"
  community := lit "public"
  version := 2
  state := ⟨.up, 0, [], [], []⟩
  statistics := ⟨0, 0, 0, 0, 0, 0, 100⟩

def failedPoll : StatusPoll :=
  ⟨.down, ⟨lit "down", lit "PING: timeout", lit "0.00", []⟩, .ping, 1700000000⟩

/-- The second failure in a row is the one that logs the event. -/
theorem hostAfter_hysteresis_second_failure :
    (hostAfter twoInARow steadyHost [failedPoll]).state.status = .up ∧
      (hostAfter twoInARow steadyHost [failedPoll, failedPoll]).state.status = .down ∧
      ∃ line ∈ linesAt twoInARow steadyHost [failedPoll] failedPoll, line.isHostEvent = true :=
  have hsecond := hostAfter_hysteresis twoInARow steadyHost rfl rfl [failedPoll] failedPoll
    (by decide)
  ⟨rfl, (hsecond.2.1 rfl).2 rfl, hsecond.2.2.2.2.2 (Or.inl ⟨rfl, rfl⟩)⟩

end Spine
