import Spine.Poller.ReindexPoll

/-!
# Uptime that goes backward

A reindex row with the operator `<` on an object of the uptime fails when the
uptime is lower than the stored one, which means that the device was
restarted.  The poller knows two counters of uptime, `snmpEngineTime` in
seconds and `sysUpTime` in hundredths of a second, and takes the second one
where the first cannot be read.  This module is about the cycles of such a
row while the device keeps running, so that neither counter decreases.

* One cycle.  `UptimeCycle` holds the two counters of the agent and the
  replies that show them or fail.  `UptimeCycle.polled` is the value that the
  row is evaluated with.
* Runs.  `uptimeRun` says for each cycle whether the assertion fails.
* The counters.  A later cycle may read the other counter, and the engine time
  in hundredths of a second may not fit 64 bits.  `uptime_never_backward_iff`
  says that these are the ways in which a running device fails.
-/

namespace Spine

open Base.CString

/-! ## One cycle -/

/-- One poll of an uptime row.  The agent has two counters, and a reply that
can be read shows its counter.  The poll is primed when a row before it has
read the uptime in this cycle. -/
structure UptimeCycle where
  engineTime : Nat
  sysUpTime : Nat
  device : SnmpDevice
  answers : RowAnswers
  primed : Bool
  engine_reply : ∀ ticks, answers.engineTime.delivered.bind parseUptime = some ticks →
    ticks = engineTime
  system_reply : ∀ ticks, answers.sysUpTime.delivered.bind parseUptime = some ticks →
    ticks = sysUpTime

/-- The two counters. -/
inductive UptimeSource where
  | engine
  | system
  deriving DecidableEq, Repr

namespace UptimeCycle

/-- The counter that is read, if one of them can be. -/
def source (cycle : UptimeCycle) : Option UptimeSource :=
  if !cycle.device.session || cycle.device.ignoreHost then none
  else if (cycle.answers.engineTime.delivered.bind parseUptime).isSome then some .engine
  else if (cycle.answers.sysUpTime.delivered.bind parseUptime).isSome then some .system
  else none

/-- A counter in hundredths of a second, as a number of 64 bits. -/
def ticks (cycle : UptimeCycle) : UptimeSource → Nat
  | .engine => cycle.engineTime * 100 % 2 ^ 64
  | .system => cycle.sysUpTime

/-- The number that a comparison sees: the signed 64 bits saturate. -/
def compared (cycle : UptimeCycle) (source : UptimeSource) : Int :=
  min (2 ^ 63 - 1) (cycle.ticks source : Int)

/-- The state in which the row is polled. -/
def state (cycle : UptimeCycle) : PollState :=
  if cycle.primed then
    let (sysUptime, device) := readUptime cycle.device cycle.answers
    ⟨device, sysUptime⟩
  else ⟨cycle.device, []⟩

end UptimeCycle

/-- A row on an object of the uptime with the operator `<`, which the `UPDATE`
of its evaluation names. -/
structure AssertsUptime (row : ReindexRow) : Prop where
  action : (loadReindexItem row).action = .snmp
  op : row.op = some (lit "<")
  query : row.dataQueryId.isSome
  argument : ∃ arg1, row.arg1 = some arg1 ∧ arg1.length ≤ 511
  uptime : (loadReindexItem row).asksUptime = true

/-- A cycle of the row in the first partition, with successful writes: the row
afterwards, and whether the assertion failed.  Without a session the row is
passed over. -/
def uptimePoll (env : ReindexEnv) (server : ReindexServer) (row : ReindexRow)
    (cycle : UptimeCycle) : ReindexRow × Bool :=
  match (pollReindexAction env.cfg cycle.answers (loadReindexItem row) cycle.state).1 with
  | .value value =>
    let (row, evaluation) := pollRow env server row ⟨1, value, true, true⟩
    (row, evaluation.failed)
  | _ => (row, false)

/-- Whether the assertion fails, cycle by cycle. -/
def uptimeRun (env : ReindexEnv) (server : ReindexServer) :
    ReindexRow → List UptimeCycle → List Bool
  | _, [] => []
  | row, cycle :: cycles =>
    let (row, failed) := uptimePoll env server row cycle
    failed :: uptimeRun env server row cycles

section Poll

variable {cycle : UptimeCycle}

/-- A `GET` on a device that answers shows what its reply delivers. -/
theorem parseUptime_snmpGetBase_eq {device : SnmpDevice} {textOid : Text} {exchange : SnmpExchange}
    {shouldFail : Bool} (hsession : device.session = true) (hignore : device.ignoreHost = false) :
    parseUptime (snmpGetBase device textOid exchange shouldFail).1 =
      exchange.delivered.bind parseUptime := by
  cases hdelivered : exchange.delivered with
  | some text => rw [snmpGetBase_delivered hsession hignore hdelivered, Option.bind_some]
  | none =>
    rw [Option.bind_none]
    refine parseUptime_snmpGetBase hsession (Or.inr ?_)
    rw [hdelivered, Option.bind_none]

/-- The uptime that is read is the one of the source. -/
theorem readUptime_eq (hsession : cycle.device.session = true) :
    (readUptime cycle.device cycle.answers).1 =
      match cycle.source with
      | some source => decimal (cycle.ticks source)
      | none => [] := by
  cases hignore : cycle.device.ignoreHost with
  | true =>
    rw [readUptime_of_fails hsession (Or.inl hignore)]
    simp [UptimeCycle.source, hignore]
  | false =>
    unfold readUptime UptimeCycle.source
    dsimp only
    rw [parseUptime_snmpGetBase_eq hsession hignore, snmpGetBase_device,
      if_neg (by simp [hsession, hignore])]
    cases hengine : cycle.answers.engineTime.delivered.bind parseUptime with
    | some ticks =>
      rw [cycle.engine_reply ticks hengine]
      rfl
    | none =>
      dsimp only
      rw [snmpGet, parseUptime_snmpGetBase_eq hsession hignore]
      cases hsystem : cycle.answers.sysUpTime.delivered.bind parseUptime with
      | some ticks =>
        rw [cycle.system_reply ticks hsystem]
        rfl
      | none => rfl

/-- A counter that was read has 64 bits. -/
theorem UptimeCycle.ticks_lt {source : UptimeSource} (h : cycle.source = some source) :
    cycle.ticks source < 2 ^ 64 := by
  cases source with
  | engine => exact Nat.mod_lt _ (by decide)
  | system =>
    unfold UptimeCycle.source at h
    split_ifs at h with hsilent hengine hsystem
    · cases h
    obtain ⟨ticks, hticks⟩ := Option.isSome_iff_exists.1 hsystem
    obtain ⟨text, _, hparse⟩ := Option.bind_eq_some_iff.1 hticks
    show cycle.sysUpTime < 2 ^ 64
    rw [← cycle.system_reply ticks hticks]
    exact parseUptime_lt hparse

theorem decimal_length_le_twenty {n : Nat} (h : n < 2 ^ 64) : (decimal n).length ≤ 20 :=
  decimal_length_le (by decide) (lt_trans h (by decide))

/-- Digits are a value. -/
theorem isUnavailable_decimal (n : Nat) : isUnavailable (some (decimal n)) = false := by
  rw [isUnavailable, Bool.or_eq_false_iff, ← Bool.not_eq_true, ← Bool.not_eq_true, isUndefined_iff]
  constructor
  · intro hundefined
    have hmem : (85 : UInt8) ∈ decimal n := hundefined ▸ List.mem_singleton_self _
    exact absurd (isDigit_of_mem_decimal hmem) (by decide)
  · intro hinstance
    have hmap : (decimal n).map toLower = (lit "No Such Instance").map toLower := by
      simpa only [strcaseeq, beq_iff_eq] using hinstance
    have hmem : (110 : UInt8) ∈ (decimal n).map toLower := hmap ▸ by decide
    obtain ⟨b, hb, hlower⟩ := List.mem_map.1 hmem
    have hdigit := isDigit_of_mem_decimal hb
    rw [toLower_of_isDigit hdigit] at hlower
    exact absurd (hlower ▸ hdigit) (by decide)

theorem UptimeCycle.source_eq_none_iff (hsession : cycle.device.session = true) :
    cycle.source = none ↔ UptimeFails cycle.device cycle.answers := by
  unfold UptimeCycle.source UptimeFails
  cases cycle.device.ignoreHost with
  | true => simp
  | false =>
    rw [if_neg (by simp [hsession])]
    cases cycle.answers.engineTime.delivered.bind parseUptime <;>
      cases cycle.answers.sysUpTime.delivered.bind parseUptime <;> simp

/-- A second attempt with the same replies fails like the first. -/
theorem readUptime_again (hsession : cycle.device.session = true) (h : cycle.source = none) :
    (readUptime (readUptime cycle.device cycle.answers).2 cycle.answers).1 = [] := by
  apply readUptime_of_fails
  · rw [readUptime_session]
    exact hsession
  cases (UptimeCycle.source_eq_none_iff hsession).1 h with
  | inr hreplies => exact Or.inr hreplies
  | inl hignore =>
    left
    unfold readUptime snmpGet
    dsimp only
    rw [snmpGetBase_of_ignored _ _ _ hignore]
    dsimp only
    rw [parseUptime_undefinedText]
    dsimp only
    rw [snmpGetBase_of_ignored _ _ _ hignore]
    dsimp only
    rw [parseUptime_undefinedText]
    exact hignore

/-- The text that a cycle is evaluated with. -/
def UptimeCycle.polled (cycle : UptimeCycle) : Text :=
  match cycle.source with
  | some source => decimal (cycle.ticks source)
  | none => undefinedText

theorem pollReindexSnmp_unprimed {reindex : Reindex} (huptime : reindex.asksUptime = true)
    (hsession : cycle.device.session = true) :
    (pollReindexSnmp cycle.answers reindex ⟨cycle.device, []⟩).1 = .value (some cycle.polled) := by
  unfold pollReindexSnmp
  rw [if_neg (by simp [hsession]), if_pos huptime, if_neg (by simp)]
  dsimp only
  rw [readUptime_eq hsession]
  unfold UptimeCycle.polled
  cases cycle.source with
  | none => rfl
  | some source => rw [if_pos (decimal_ne_nil _)]

/-- A primed row takes the uptime that was read before. -/
theorem pollReindexSnmp_primed {reindex : Reindex} (huptime : reindex.asksUptime = true)
    (hsession : cycle.device.session = true) :
    (pollReindexSnmp cycle.answers reindex
      ⟨(readUptime cycle.device cycle.answers).2, (readUptime cycle.device cycle.answers).1⟩).1 =
        .value (some cycle.polled) := by
  have hkept : (readUptime cycle.device cycle.answers).2.session = true :=
    (readUptime_session _ _).trans hsession
  unfold pollReindexSnmp
  rw [if_neg (by simp [hkept]), if_pos huptime]
  dsimp only
  unfold UptimeCycle.polled
  cases hsource : cycle.source with
  | some source =>
    have hread : (readUptime cycle.device cycle.answers).1 = decimal (cycle.ticks source) := by
      rw [readUptime_eq hsession, hsource]
    have hlength := decimal_length_le_twenty (UptimeCycle.ticks_lt hsource)
    rw [hread, if_pos (decimal_ne_nil _), snprintfS_eq_self (by simp only [BUFSIZE]; omega)]
  | none =>
    have hread : (readUptime cycle.device cycle.answers).1 = [] := by
      rw [readUptime_eq hsession, hsource]
    rw [hread, if_neg (by simp), readUptime_again hsession hsource]
    rfl

end Poll

section Rows

variable {env : ReindexEnv} {server : ReindexServer} {row : ReindexRow} {cycle : UptimeCycle}

theorem pollReindexAction_uptime (hrow : AssertsUptime row) :
    (pollReindexAction env.cfg cycle.answers (loadReindexItem row) cycle.state).1 =
      if cycle.device.session then .value (some cycle.polled) else .unavailable := by
  unfold pollReindexAction
  rw [hrow.action]
  dsimp only
  cases hsession : cycle.device.session with
  | true =>
    rw [if_pos rfl]
    unfold UptimeCycle.state
    cases cycle.primed with
    | true => exact pollReindexSnmp_primed hrow.uptime hsession
    | false => exact pollReindexSnmp_unprimed hrow.uptime hsession
  | false =>
    have hkept : cycle.state.device.session = false := by
      unfold UptimeCycle.state
      split
      · exact (readUptime_session _ _).trans hsession
      · exact hsession
    unfold pollReindexSnmp
    rw [if_pos (by simp [hkept])]
    rfl

/-- The row stays an uptime row whatever it stores. -/
theorem AssertsUptime.store (hrow : AssertsUptime row) (stored : Option Text) :
    AssertsUptime { row with assertValue := stored } :=
  ⟨hrow.action, hrow.op, hrow.query, hrow.argument, hrow.uptime⟩

theorem AssertsUptime.pollRow (hrow : AssertsUptime row) (poll : ReindexPoll) :
    AssertsUptime (pollRow env server row poll).1 := by
  cases pollRow_cases env server row poll with
  | inl hsame => exact hsame.symm ▸ hrow
  | inr h =>
    obtain ⟨stored, hstored, _⟩ := h
    exact hstored.symm ▸ hrow.store stored

theorem AssertsUptime.loaded_op (hrow : AssertsUptime row) :
    (loadReindexItem row).op = lit "<" := by
  show snprintfS 4 (row.op.getD []) = lit "<"
  rw [hrow.op]
  rfl

/-- The number that the next value is compared with. -/
def baseline (row : ReindexRow) : Int := atoll (loadReindexItem row).assertValue

/-- An uptime fails the assertion exactly when it is below the baseline.  A
stored `0` is no exception, because no uptime is negative. -/
theorem reindexAssertionFailed_uptime (hrow : AssertsUptime row) (n : Nat) :
    reindexAssertionFailed (loadReindexItem row) (some (decimal n)) = true ↔
      min (2 ^ 63 - 1) (n : Int) < baseline row := by
  rw [reindexAssertionFailed_lt (isUnavailable_decimal n) hrow.loaded_op, atoll_decimal]
  refine ⟨And.right, fun h => ⟨fun hzero => ?_, h⟩⟩
  unfold baseline at h
  rw [hzero, show atoll (lit "0") = 0 by decide] at h
  omega

/-- An uptime that was read becomes the baseline. -/
theorem baseline_pollRow (hserver : server.Faithful env.escape) (hrow : AssertsUptime row) {n : Nat}
    (hn : n < 2 ^ 64) :
    baseline (pollRow env server row ⟨1, some (decimal n), true, true⟩).1 =
      min (2 ^ 63 - 1) (n : Int) := by
  obtain ⟨arg1, harg, hlength⟩ := hrow.argument
  have hupdate : (pollRow env server row ⟨1, some (decimal n), true, true⟩).2.update =
      some (reindexUpdate env (loadReindexItem row) (decimal n)) :=
    evaluateReindexAssertion_update.2 ⟨rfl, isUnavailable_decimal n, fun _ => rfl,
      Or.inr (Or.inr hrow.loaded_op), _, rfl, rfl⟩
  have hdigits := decimal_length_le_twenty hn
  unfold baseline
  rw [pollRow_loaded_of_update hserver hrow.query harg hlength hupdate rfl,
    List.take_of_length_le (by omega), atoll_decimal]

/-- A cycle that reads no uptime changes nothing. -/
theorem uptimePoll_of_none (hrow : AssertsUptime row) (h : cycle.source = none) :
    uptimePoll env server row cycle = (row, false) := by
  unfold uptimePoll
  rw [pollReindexAction_uptime hrow]
  cases cycle.device.session with
  | false => rfl
  | true =>
    have hvalue : cycle.polled = undefinedText := by
      unfold UptimeCycle.polled
      rw [h]
    have hupdate : (pollRow env server row ⟨1, some cycle.polled, true, true⟩).2.update = none := by
      apply evaluateReindexAssertion_update_none
      intro hstore
      rw [hvalue] at hstore
      exact absurd hstore.2.1 (by decide)
    rw [if_pos rfl]
    dsimp only
    rw [pollRow_fst_of_none hupdate, pollRow_failed, hvalue,
      reindexAssertionFailed_of_unavailable _ (by decide)]

/-- A cycle that reads a counter fails below the baseline and moves it. -/
theorem uptimePoll_of_some (hserver : server.Faithful env.escape) (hrow : AssertsUptime row)
    {source : UptimeSource} (h : cycle.source = some source) :
    ((uptimePoll env server row cycle).2 = false ↔ baseline row ≤ cycle.compared source) ∧
      AssertsUptime (uptimePoll env server row cycle).1 ∧
      baseline (uptimePoll env server row cycle).1 = cycle.compared source := by
  have hsession : cycle.device.session = true := by
    unfold UptimeCycle.source at h
    by_contra hsession
    rw [if_pos (by simp [hsession])] at h
    cases h
  have hvalue : cycle.polled = decimal (cycle.ticks source) := by
    unfold UptimeCycle.polled
    rw [h]
  have hpoll : uptimePoll env server row cycle =
      ((pollRow env server row ⟨1, some (decimal (cycle.ticks source)), true, true⟩).1,
        (pollRow env server row
          ⟨1, some (decimal (cycle.ticks source)), true, true⟩).2.failed) := by
    unfold uptimePoll
    rw [pollReindexAction_uptime hrow, if_pos hsession, hvalue]
  rw [hpoll]
  refine ⟨?_, hrow.pollRow _, baseline_pollRow hserver hrow (UptimeCycle.ticks_lt h)⟩
  rw [pollRow_failed, ← Bool.not_eq_true, reindexAssertionFailed_uptime hrow, not_lt]
  rfl

end Rows

/-! ## The counters -/

/-- The cycles that read a counter, each with its counter. -/
def uptimeReadings (cycles : List UptimeCycle) : List (UptimeCycle × UptimeSource) :=
  cycles.filterMap fun cycle => cycle.source.map (Prod.mk cycle)

/-- Of two cycles that read a counter, one after the other, the second is not
below the first.  Two readings of `sysUpTime` always are in order. -/
def CounterKept (first second : UptimeCycle × UptimeSource) : Prop :=
  match first.2, second.2 with
  | .system, .system => True
  | _, _ => first.1.compared first.2 ≤ second.1.compared second.2

/-- Neither counter decreases. -/
def Running (first second : UptimeCycle) : Prop :=
  first.engineTime ≤ second.engineTime ∧ first.sysUpTime ≤ second.sysUpTime

theorem counterKept_iff {first second : UptimeCycle × UptimeSource}
    (h : Running first.1 second.1) :
    CounterKept first second ↔ first.1.compared first.2 ≤ second.1.compared second.2 := by
  obtain ⟨firstCycle, firstSource⟩ := first
  obtain ⟨secondCycle, secondSource⟩ := second
  have hsystem := h.2
  unfold CounterKept
  cases firstSource with
  | engine => cases secondSource <;> exact Iff.rfl
  | system =>
    cases secondSource with
    | engine => exact Iff.rfl
    | system =>
      refine iff_of_true trivial ?_
      simp only [UptimeCycle.compared, UptimeCycle.ticks] at *
      omega

/-- While the engine time in hundredths of a second fits 64 bits, it is in
order. -/
theorem counterKept_engine {first second : UptimeCycle} (h : Running first second)
    (hfits : second.engineTime * 100 < 2 ^ 64) :
    CounterKept (first, .engine) (second, .engine) := by
  have hengine := h.1
  show first.compared .engine ≤ second.compared .engine
  simp only [UptimeCycle.compared, UptimeCycle.ticks]
  rw [Nat.mod_eq_of_lt hfits, Nat.mod_eq_of_lt (by omega)]
  omega

/-- From a baseline on, no reading is below the one before. -/
def NeverBelow (base : Int) : List (UptimeCycle × UptimeSource) → Prop
  | [] => True
  | reading :: readings =>
    base ≤ reading.1.compared reading.2 ∧ NeverBelow (reading.1.compared reading.2) readings

theorem neverBelow_iff {base : Int} {readings : List (UptimeCycle × UptimeSource)}
    (h : readings.Pairwise fun first second => Running first.1 second.1) :
    NeverBelow base readings ↔
      (∀ reading ∈ readings.head?, base ≤ reading.1.compared reading.2) ∧
        readings.IsChain CounterKept := by
  induction readings generalizing base with
  | nil => simp [NeverBelow]
  | cons first rest ih =>
    rw [List.pairwise_cons] at h
    rw [NeverBelow, ih h.2]
    cases rest with
    | nil => simp
    | cons second rest =>
      rw [List.isChain_cons_cons, counterKept_iff (h.1 second List.mem_cons_self)]
      simp

/-- The run by induction on the cycles: a cycle that reads nothing is passed
over, and the others move the baseline. -/
theorem uptimeRun_iff {env : ReindexEnv} {server : ReindexServer} {row : ReindexRow}
    (hserver : server.Faithful env.escape) (hrow : AssertsUptime row) (cycles : List UptimeCycle) :
    (∀ failed ∈ uptimeRun env server row cycles, failed = false) ↔
      NeverBelow (baseline row) (uptimeReadings cycles) := by
  induction cycles generalizing row with
  | nil => simp [uptimeRun, uptimeReadings, NeverBelow]
  | cons cycle cycles ih =>
    rw [uptimeRun, List.forall_mem_cons]
    unfold uptimeReadings at ih ⊢
    cases hsource : cycle.source with
    | none =>
      rw [uptimePoll_of_none hrow hsource, List.filterMap_cons_none (by rw [hsource]; rfl),
        ← ih hrow]
      simp
    | some source =>
      obtain ⟨hfailed, hnext, hbase⟩ := uptimePoll_of_some hserver hrow hsource
      rw [List.filterMap_cons_some (by rw [hsource]; rfl), NeverBelow, ← hbase, ← ih hnext, hbase,
        ← hfailed]

/-- No cycle of a running device fails exactly when the first reading is not
below the stored value and each reading is in order with the one before. -/
theorem uptime_never_backward_iff (env : ReindexEnv) (server : ReindexServer) (row : ReindexRow)
    (cycles : List UptimeCycle) (hserver : server.Faithful env.escape) (hrow : AssertsUptime row)
    (hrunning : cycles.Pairwise Running) :
    (∀ failed ∈ uptimeRun env server row cycles, failed = false) ↔
      (∀ reading ∈ (uptimeReadings cycles).head?,
        baseline row ≤ reading.1.compared reading.2) ∧
        (uptimeReadings cycles).IsChain CounterKept := by
  rw [uptimeRun_iff hserver hrow]
  apply neverBelow_iff
  unfold uptimeReadings
  rw [List.pairwise_filterMap]
  refine hrunning.imp fun {first second} h reading hreading next hnext => ?_
  obtain ⟨source, _, rfl⟩ := Option.map_eq_some_iff.1 hreading
  obtain ⟨source', _, rfl⟩ := Option.map_eq_some_iff.1 hnext
  exact h

/-- The reply to a `GET`: a number, or none in time. -/
private def uptimeReply : Option Text → SnmpExchange
  | some text => ⟨true, true, true, ⟨.success, some ⟨0, [⟨some [1], .data (some text)⟩]⟩, false⟩⟩
  | none => ⟨true, true, true, ⟨.timeout, none, false⟩⟩

private def uptimeAnswers (engineTime sysUpTime : Option Text) : RowAnswers where
  engineTime := uptimeReply engineTime
  sysUpTime := uptimeReply sysUpTime
  object := uptimeReply none
  root := none
  walk := []
  script := ⟨fun _ => false, fun _ => false, false, .failed, none⟩
  php := ⟨0, -1, fun _ => ⟨false, 0, false, false, .failed, false, []⟩⟩

private theorem eq_of_reply {reply : Option Nat} {n ticks : Nat} (h : reply.all (· == n) = true)
    (hreply : reply = some ticks) : ticks = n := by
  rw [hreply] at h
  simpa using h

/-- Both counters can be read. -/
private def firstCycle : UptimeCycle where
  engineTime := 100
  sysUpTime := 5000
  device := ⟨true, false⟩
  answers := uptimeAnswers (some (lit "100")) (some (lit "5000"))
  primed := false
  engine_reply _ := eq_of_reply (by decide)
  system_reply _ := eq_of_reply (by decide)

/-- Five minutes later the engine time can be read. -/
private def engineCycle : UptimeCycle where
  engineTime := 400
  sysUpTime := 35000
  device := ⟨true, false⟩
  answers := uptimeAnswers (some (lit "400")) none
  primed := true
  engine_reply _ := eq_of_reply (by decide)
  system_reply _ := eq_of_reply (by decide)

/-- One second later only `sysUpTime` can be read. -/
private def systemCycle : UptimeCycle where
  engineTime := 101
  sysUpTime := 5100
  device := ⟨true, false⟩
  answers := uptimeAnswers none (some (lit "5100"))
  primed := false
  engine_reply _ := eq_of_reply (by decide)
  system_reply _ := eq_of_reply (by decide)

private def uptimeRow : ReindexRow :=
  ⟨some 7, some 0, some (lit "<"), some (lit "0"), some sysUpTimeOid⟩

private theorem uptimeRow_asserts : AssertsUptime uptimeRow :=
  ⟨by decide, rfl, rfl, ⟨_, rfl, by decide⟩, by decide⟩

theorem uptime_kept_engine :
    uptimeReadings [firstCycle, engineCycle] =
        [(firstCycle, .engine), (engineCycle, .engine)] ∧
      ∀ failed ∈ uptimeRun .plain .plain uptimeRow [firstCycle, engineCycle], failed = false := by
  have hrunning : Running firstCycle engineCycle := by
    unfold Running
    decide
  have hreadings : uptimeReadings [firstCycle, engineCycle] =
      [(firstCycle, .engine), (engineCycle, .engine)] := rfl
  refine ⟨hreadings, (uptime_never_backward_iff .plain .plain uptimeRow [firstCycle, engineCycle]
    ReindexServer.plain_faithful uptimeRow_asserts (by simpa using hrunning)).2 ?_⟩
  rw [hreadings]
  refine ⟨?_, by simpa using counterKept_engine hrunning (by decide)⟩
  intro reading hreading
  cases hreading
  decide

/-- The engine time is 100 seconds, then it cannot be read, and `sysUpTime`
stands at 51 seconds.  Both counters go forward, and the assertion fails. -/
theorem uptime_backward_switch :
    AssertsUptime uptimeRow ∧ [firstCycle, systemCycle].Pairwise Running ∧
      uptimeRun .plain .plain uptimeRow [firstCycle, systemCycle] = [false, true] := by
  refine ⟨uptimeRow_asserts, ?_, by decide⟩
  rw [List.pairwise_pair]
  unfold Running
  decide

end Spine
