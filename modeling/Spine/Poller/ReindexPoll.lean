import Spine.Poller.Reindex
import Spine.Script.Protocol
import Spine.Snmp.Requests

/-!
# Polling the reindex rows of a device

`poll_host_reindex` of `poller/reindex.c` goes through the rows of a device.
For each row it polls one value with `poll_reindex_action` and evaluates the
assertion of the row.  The agent, the scripts and the script server are
arguments: `RowAnswers` is what they answer for one row.

There are four groups.

* One value.  `pollReindexAction` covers the six actions.
* The loop.  `pollHostReindex` returns what became of each row, in order.  A
  row is skipped when an earlier row of its data query failed.
* Failed polls.  `PollFails` says that nothing was polled for a row.
  `misread` is the text that a failed poll passes on as if it were a value:
  the number of lines of `U`, and what the agent leaves over after an error.
* What a failed poll does.  `failed_poll_inert_iff` says when the row, the
  queue and the spike mark stay as they were.
-/

namespace Spine

open Base.CString

/-! ## One value -/

/-- What the systems around the poller answer for one row: the three objects
that an SNMP row can ask for, the walk of a count, the script, and the script
server. -/
structure RowAnswers where
  engineTime : SnmpExchange
  sysUpTime : SnmpExchange
  object : SnmpExchange
  root : Option Oid
  walk : List SnmpReply
  script : ScriptSystem
  php : PhpSystem

/-- What the rows of a device share: the device, and the uptime once it is
known. -/
structure PollState where
  device : SnmpDevice
  sysUptime : Text
  deriving DecidableEq, Repr

/-- What a poll gives: the process ends, there is no session, or a value. -/
inductive PolledValue where
  | died
  | unavailable
  | value (value : Option Text)
  deriving DecidableEq, Repr

/-- The row asks for the uptime. -/
def Reindex.asksUptime (reindex : Reindex) : Bool :=
  strstr reindex.arg1 sysUpTimeOid || strstr reindex.arg1 engineTimeOid

/-- The uptime in hundredths of a second, or an empty text.  The product wraps
at 64 bits. -/
def readUptime (device : SnmpDevice) (answers : RowAnswers) : Text × SnmpDevice :=
  let (engineTime, device) := snmpGetBase device engineTimeOid answers.engineTime false
  match parseUptime engineTime with
  | some ticks => (decimal (ticks * 100 % 2 ^ 64), device)
  | none =>
    let (sysUpTime, device) := snmpGet device sysUpTimeOid answers.sysUpTime
    match parseUptime sysUpTime with
    | some ticks => (decimal ticks, device)
    | none => ([], device)

/-- `poll_reindex_snmp`. -/
def pollReindexSnmp (answers : RowAnswers) (reindex : Reindex) (state : PollState) :
    PolledValue × PollState :=
  if !state.device.session then (.unavailable, state)
  else if reindex.asksUptime then
    if state.sysUptime ≠ [] then (.value (some (snprintfS BUFSIZE state.sysUptime)), state)
    else
      let (sysUptime, device) := readUptime state.device answers
      (.value (some (if sysUptime ≠ [] then sysUptime else undefinedText)), ⟨device, sysUptime⟩)
  else
    let (text, device) := snmpGet state.device reindex.arg1 answers.object
    (.value (some text), ⟨device, state.sysUptime⟩)

/-- The result of a script, after `transform`. -/
def pollReindexScript (cfg : Config) (answers : RowAnswers) (reindex : Reindex)
    (transform : Text → Text) : PolledValue :=
  match execPoll cfg answers.script reindex.arg1 with
  | .died => .died
  | .returned buffer _ _ => .value (some (transform buffer.text))

/-- The number of lines of a result, as `%d` prints it. -/
def countLines (result : Text) : Text := decimal (charCount result 10)

/-- `poll_reindex_action`. -/
def pollReindexAction (cfg : Config) (answers : RowAnswers) (reindex : Reindex)
    (state : PollState) : PolledValue × PollState :=
  match reindex.action with
  | .snmp => pollReindexSnmp answers reindex state
  | .script =>
    if reindex.arg1 = [] then (.value none, state)
    else (pollReindexScript cfg answers reindex trim, state)
  | .phpScriptServer => (.value (some (trim (phpCmd answers.php))), state)
  | .snmpCount =>
    let (count, device) := snmpCount state.device answers.root answers.walk
    (.value (some (if count < 0 then undefinedText else decimalInt count)),
      ⟨device, state.sysUptime⟩)
  | .scriptCount => (pollReindexScript cfg answers reindex countLines, state)
  | .phpScriptServerCount => (.value (some (countLines (phpCmd answers.php))), state)
  | .unknown _ => (.value none, state)

/-! ## The loop -/

/-- The local state of `poll_host_reindex`. -/
structure ReindexLoop where
  state : PollState
  lastDataQueryId : Int32
  previousFailure : Bool
  spikeKill : Bool
  errors : Nat
  deriving DecidableEq, Repr

/-- The first row of a data query forgets the failure of the one before. -/
def ReindexLoop.enter (loop : ReindexLoop) (reindex : Reindex) : ReindexLoop :=
  if loop.lastDataQueryId ≠ reindex.dataQueryId then
    { loop with lastDataQueryId := reindex.dataQueryId, previousFailure := false }
  else loop

@[simp] theorem ReindexLoop.enter_state (loop : ReindexLoop) (reindex : Reindex) :
    (loop.enter reindex).state = loop.state := by
  unfold ReindexLoop.enter
  split <;> rfl

@[simp] theorem ReindexLoop.enter_spikeKill (loop : ReindexLoop) (reindex : Reindex) :
    (loop.enter reindex).spikeKill = loop.spikeKill := by
  unfold ReindexLoop.enter
  split <;> rfl

/-- What became of a row. -/
inductive RowOutcome where
  | skipped
  | died
  | unavailable
  | evaluated (evaluation : Evaluation)
  deriving DecidableEq, Repr

/-- A row, what is answered for it, and the answer to its queue statement. -/
structure RowPoll where
  row : ReindexRow
  answers : RowAnswers
  written : Bool

/-- The part of the loop body after the poll. -/
def evaluateRow (env : ReindexEnv) (thread : Nat) (reindex : Reindex) (written : Bool)
    (loop : ReindexLoop) : PolledValue → ReindexLoop × RowOutcome
  | .died => (loop, .died)
  | .unavailable => (loop, .unavailable)
  | .value value =>
    let evaluation := evaluateReindexAssertion env thread reindex value written
    ({ loop with
        previousFailure := loop.previousFailure || evaluation.failed
        spikeKill := loop.spikeKill || evaluation.spikeKill
        errors := loop.errors + evaluation.errors },
      .evaluated evaluation)

/-- The body of the loop. -/
def reindexRowStep (env : ReindexEnv) (thread : Nat) (loop : ReindexLoop) (poll : RowPoll) :
    ReindexLoop × RowOutcome :=
  let reindex := loadReindexItem poll.row
  let loop := loop.enter reindex
  if loop.previousFailure then (loop, .skipped)
  else
    let (value, state) := pollReindexAction env.cfg poll.answers reindex loop.state
    evaluateRow env thread reindex poll.written { loop with state := state } value

/-- The rows in order, until the process ends. -/
def reindexRows (env : ReindexEnv) (thread : Nat) :
    ReindexLoop → List RowPoll → ReindexLoop × List RowOutcome
  | loop, [] => (loop, [])
  | loop, poll :: polls =>
    let step := reindexRowStep env thread loop poll
    if step.2 = .died then (step.1, [.died])
    else
      let rest := reindexRows env thread step.1 polls
      (rest.1, step.2 :: rest.2)

/-- The state before the first row. -/
def ReindexLoop.start (device : SnmpDevice) : ReindexLoop := ⟨⟨device, []⟩, 0, false, false, 0⟩

/-- `poll_host_reindex`: the state at its end, and what became of each row.
The answer of the query is `none` when the query fails. -/
def pollHostReindex (env : ReindexEnv) (thread : Nat) (device : SnmpDevice)
    (result : Option (List RowPoll)) : ReindexLoop × List RowOutcome :=
  if device.ignoreHost ∨ env.hostId = 0 then (.start device, [])
  else
    let (loop, outcomes) := reindexRows env thread (.start device) (result.getD [])
    -- Item polling opens a session of its own.
    ({ loop with state.device.session := false }, outcomes)

/-- The state in which the loop reaches the row after `before`. -/
def loopAfter (env : ReindexEnv) (thread : Nat) : ReindexLoop → List RowPoll → Option ReindexLoop
  | loop, [] => some loop
  | loop, poll :: polls =>
    let step := reindexRowStep env thread loop poll
    if step.2 = .died then none else loopAfter env thread step.1 polls

/-- The row after `before` gets the outcome of its own step. -/
theorem reindexRows_getElem {env : ReindexEnv} {thread : Nat} {loop reached : ReindexLoop}
    {before after : List RowPoll} {poll : RowPoll}
    (h : loopAfter env thread loop before = some reached) :
    (reindexRows env thread loop (before ++ poll :: after)).2[before.length]? =
      some (reindexRowStep env thread reached poll).2 := by
  induction before generalizing loop with
  | nil =>
    cases h
    rw [List.nil_append, reindexRows]
    by_cases hdied : (reindexRowStep env thread reached poll).2 = .died
    · simp [hdied]
    · simp [hdied]
  | cons first before ih =>
    rw [loopAfter] at h
    rw [List.cons_append, reindexRows]
    by_cases hdied : (reindexRowStep env thread loop first).2 = .died
    · rw [if_pos hdied] at h
      cases h
    · rw [if_neg hdied] at h ⊢
      exact ih h

/-! ## The session -/

/-- Reading the uptime keeps the session. -/
theorem readUptime_session (device : SnmpDevice) (answers : RowAnswers) :
    (readUptime device answers).2.session = device.session := by
  unfold readUptime
  dsimp only
  split
  · exact snmpGetBase_session engineTimeOid answers.engineTime false
  · split
    · exact (snmpGetBase_session sysUpTimeOid answers.sysUpTime true).trans
        (snmpGetBase_session engineTimeOid answers.engineTime false)
    · exact (snmpGetBase_session sysUpTimeOid answers.sysUpTime true).trans
        (snmpGetBase_session engineTimeOid answers.engineTime false)

theorem pollReindexSnmp_session (answers : RowAnswers) (reindex : Reindex) (state : PollState) :
    (pollReindexSnmp answers reindex state).2.device.session = state.device.session := by
  unfold pollReindexSnmp
  split
  · rfl
  · split
    · split
      · rfl
      · exact readUptime_session state.device answers
    · exact snmpGetBase_session reindex.arg1 answers.object true

/-- A poll of one value keeps the session. -/
theorem pollReindexAction_session (cfg : Config) (answers : RowAnswers) (reindex : Reindex)
    (state : PollState) :
    (pollReindexAction cfg answers reindex state).2.device.session = state.device.session := by
  unfold pollReindexAction
  split
  · exact pollReindexSnmp_session answers reindex state
  · split <;> rfl
  · rfl
  · exact snmpCount_session state.device answers.root answers.walk
  · rfl
  · rfl
  · rfl

theorem reindexRowStep_session (env : ReindexEnv) (thread : Nat) (loop : ReindexLoop)
    (poll : RowPoll) :
    (reindexRowStep env thread loop poll).1.state.device.session =
      loop.state.device.session := by
  unfold reindexRowStep
  dsimp only
  split
  · rw [ReindexLoop.enter_state]
  · have hpoll := pollReindexAction_session env.cfg poll.answers (loadReindexItem poll.row)
      (loop.enter (loadReindexItem poll.row)).state
    rw [ReindexLoop.enter_state] at hpoll
    unfold evaluateRow
    split <;> rw [ReindexLoop.enter_state] <;> exact hpoll

/-- The rows keep the session. -/
theorem reindexRows_session (env : ReindexEnv) (thread : Nat) (loop : ReindexLoop)
    (polls : List RowPoll) :
    (reindexRows env thread loop polls).1.state.device.session = loop.state.device.session := by
  induction polls generalizing loop with
  | nil => rfl
  | cons poll polls ih =>
    rw [reindexRows]
    dsimp only
    split
    · exact reindexRowStep_session env thread loop poll
    · exact (ih _).trans (reindexRowStep_session env thread loop poll)

/-! ## Failed polls -/

/-- Neither object of the uptime can be read. -/
def UptimeFails (device : SnmpDevice) (answers : RowAnswers) : Prop :=
  device.ignoreHost = true ∨
    answers.engineTime.delivered.bind parseUptime = none ∧
      answers.sysUpTime.delivered.bind parseUptime = none

/-- Nothing was polled for a row.  An SNMP row has no session or no data, a
walk meets an error or a time-out, a script gave no byte, and the script
server gave no answer. -/
def PollFails (cfg : Config) (answers : RowAnswers) (reindex : Reindex) (state : PollState) :
    Prop :=
  match reindex.action with
  | .snmp =>
    state.device.session = false ∨
      if reindex.asksUptime then state.sysUptime = [] ∧ UptimeFails state.device answers
      else state.device.ignoreHost = true ∨ answers.object.delivered = none
  | .script =>
    reindex.arg1 = [] ∨
      ∃ buffer permits, execPoll cfg answers.script reindex.arg1 = .returned buffer permits []
  | .phpScriptServer => phpCmd answers.php = undefinedText
  | .snmpCount =>
    state.device.session = true → ∀ oid, answers.root = some oid → WalkFails oid answers.walk
  | .scriptCount =>
    ∃ buffer permits, execPoll cfg answers.script reindex.arg1 = .returned buffer permits []
  | .phpScriptServerCount => phpCmd answers.php = undefinedText
  | .unknown _ => True

/-- The text that a failed poll passes on as if it were a value. -/
def misread (answers : RowAnswers) (reindex : Reindex) (state : PollState) : Option Text :=
  match reindex.action with
  | .snmp =>
    if state.device.session = true ∧ state.device.ignoreHost = false ∧
        reindex.asksUptime = false ∧ answers.object.leftover reindex.arg1 ≠ undefinedText then
      some (answers.object.leftover reindex.arg1)
    else none
  | .scriptCount => some (lit "0")
  | .phpScriptServerCount => some (lit "0")
  | _ => none

/-- A polled value that no evaluation acts on. -/
def PolledValue.isIdle : PolledValue → Bool
  | .died => true
  | .unavailable => true
  | .value v => isUnavailable v

/-- What a `GET` without data leaves over. -/
theorem leftover_cases (textOid : Text) (exchange : SnmpExchange) :
    exchange.leftover textOid = undefinedText ∨ exchange.leftover textOid = [] ∨
      ∃ text : ExceptionText, exchange.leftover textOid = scalarText text.printed := by
  unfold SnmpExchange.leftover
  split
  · exact Or.inl rfl
  · split
    · exact Or.inr (Or.inl rfl)
    · split
      · exact Or.inr (Or.inr ⟨_, rfl⟩)
      · exact Or.inl rfl
    · exact Or.inl rfl

theorem parseUptime_leftover (textOid : Text) (exchange : SnmpExchange) :
    parseUptime (exchange.leftover textOid) = none := by
  rcases leftover_cases textOid exchange with h | h | ⟨text, h⟩
  · rw [h, parseUptime_undefinedText]
  · rw [h, parseUptime_nil]
  · rw [h, text.not_counter]

/-- A text that is left over is compared like data, unless it is the mark of an
unknown value. -/
theorem isUnavailable_leftover {textOid : Text} {exchange : SnmpExchange}
    (h : exchange.leftover textOid ≠ undefinedText) :
    isUnavailable (some (exchange.leftover textOid)) = false := by
  rcases leftover_cases textOid exchange with hleft | hleft | ⟨text, hleft⟩
  · exact absurd hleft h
  · rw [hleft]
    decide
  · rw [hleft, isUnavailable, text.not_mark.2, Bool.or_false, ← Bool.not_eq_true, isUndefined_iff]
    exact text.not_mark.1

section Failures

variable {device : SnmpDevice} {answers : RowAnswers} {reindex : Reindex} {state : PollState}
  {cfg : Config}

/-- A `GET` that found no uptime returns no uptime. -/
theorem parseUptime_snmpGetBase {textOid : Text} {exchange : SnmpExchange} {shouldFail : Bool}
    (hsession : device.session = true)
    (h : device.ignoreHost = true ∨ exchange.delivered.bind parseUptime = none) :
    parseUptime (snmpGetBase device textOid exchange shouldFail).1 = none := by
  cases hignore : device.ignoreHost with
  | true =>
    unfold snmpGetBase
    rw [if_pos hignore]
    exact parseUptime_undefinedText
  | false =>
    have hparse := h.resolve_left (by simp [hignore])
    cases hdelivered : exchange.delivered with
    | some text =>
      rw [snmpGetBase_delivered hsession hignore hdelivered]
      rw [hdelivered] at hparse
      exact hparse
    | none =>
      cases snmpGetBase_leftover textOid shouldFail hsession hignore hdelivered with
      | inl hleft =>
        rw [hleft]
        exact parseUptime_leftover textOid exchange
      | inr hempty =>
        rw [hempty.2]
        exact parseUptime_nil

/-- A `GET` that may fail leaves the device. -/
theorem snmpGetBase_device (textOid : Text) (exchange : SnmpExchange) :
    (snmpGetBase device textOid exchange false).2 = device := by
  unfold snmpGetBase
  dsimp only
  split_ifs <;> simp_all

theorem readUptime_of_fails (hsession : device.session = true)
    (h : UptimeFails device answers) : (readUptime device answers).1 = [] := by
  have hengine : parseUptime (snmpGetBase device engineTimeOid answers.engineTime false).1 = none :=
    parseUptime_snmpGetBase hsession (h.imp_right And.left)
  have hsystem : parseUptime (snmpGet device sysUpTimeOid answers.sysUpTime).1 = none :=
    parseUptime_snmpGetBase hsession (h.imp_right And.right)
  unfold readUptime
  dsimp only
  rw [hengine, snmpGetBase_device]
  dsimp only
  rw [hsystem]

/-- What a failed SNMP row passes on. -/
theorem pollReindexSnmp_of_fails (haction : reindex.action = .snmp)
    (h : PollFails cfg answers reindex state) :
    misread answers reindex state = none ∧
        (pollReindexSnmp answers reindex state).1.isIdle = true ∨
      ∃ x, misread answers reindex state = some x ∧ isUnavailable (some x) = false ∧
        (pollReindexSnmp answers reindex state).1 = .value (some x) := by
  unfold PollFails at h
  unfold misread pollReindexSnmp
  simp only [haction] at h ⊢
  by_cases hsession : state.device.session = true
  swap
  · left
    rw [if_neg fun hmisread => hsession hmisread.1, if_pos (by simp [hsession])]
    exact ⟨rfl, rfl⟩
  have h := h.resolve_left (by simp [hsession])
  rw [if_neg (by simp [hsession] : ¬ (!state.device.session) = true)]
  by_cases huptime : reindex.asksUptime = true
  · left
    rw [if_pos huptime] at h
    rw [if_neg fun hmisread => by simp [huptime] at hmisread, if_pos huptime,
      if_neg (not_not.2 h.1), readUptime_of_fails hsession h.2]
    exact ⟨rfl, rfl⟩
  rw [if_neg huptime] at h
  rw [if_neg huptime]
  by_cases hignore : state.device.ignoreHost = true
  · left
    rw [if_neg fun hmisread => by simp [hignore] at hmisread]
    unfold snmpGet snmpGetBase
    rw [if_pos hignore]
    exact ⟨rfl, rfl⟩
  have hignore : state.device.ignoreHost = false := by simpa using hignore
  have hleft := (snmpGetBase_leftover reindex.arg1 true hsession hignore
    (h.resolve_left (by simp [hignore]))).resolve_right (by simp)
  unfold snmpGet
  rw [hleft]
  by_cases hundefined : answers.object.leftover reindex.arg1 = undefinedText
  · left
    rw [if_neg fun hmisread => hmisread.2.2.2 hundefined, hundefined]
    exact ⟨rfl, rfl⟩
  · right
    refine ⟨_, if_pos ⟨hsession, hignore, by simpa using huptime, hundefined⟩, ?_, rfl⟩
    exact isUnavailable_leftover hundefined

theorem pollReindexScript_of_no_bytes {transform : Text → Text}
    (h : ∃ buffer permits,
      execPoll cfg answers.script reindex.arg1 = .returned buffer permits []) :
    pollReindexScript cfg answers reindex transform = .value (some (transform undefinedText)) := by
  obtain ⟨buffer, permits, hexec⟩ := h
  unfold pollReindexScript
  rw [hexec]
  dsimp only
  rw [execPoll_text_of_no_bytes hexec]

/-- A failed poll passes on a text that is misread, or nothing that an
evaluation acts on. -/
theorem pollReindexAction_of_fails (h : PollFails cfg answers reindex state) :
    misread answers reindex state = none ∧
        (pollReindexAction cfg answers reindex state).1.isIdle = true ∨
      ∃ x, misread answers reindex state = some x ∧ isUnavailable (some x) = false ∧
        (pollReindexAction cfg answers reindex state).1 = .value (some x) := by
  unfold pollReindexAction
  cases haction : reindex.action with
  | snmp => exact pollReindexSnmp_of_fails haction h
  | script =>
    simp only [PollFails, misread, haction] at h ⊢
    left
    refine ⟨trivial, ?_⟩
    by_cases harg : reindex.arg1 = []
    · rw [if_pos harg]
      rfl
    · rw [if_neg harg, pollReindexScript_of_no_bytes (h.resolve_left harg), trim_undefinedText]
      rfl
  | phpScriptServer =>
    simp only [PollFails, misread, haction] at h ⊢
    left
    rw [h, trim_undefinedText]
    exact ⟨trivial, rfl⟩
  | snmpCount =>
    simp only [PollFails, misread, haction] at h ⊢
    left
    rw [snmpCount_of_walkFails h]
    exact ⟨trivial, rfl⟩
  | scriptCount =>
    simp only [PollFails, misread, haction] at h ⊢
    right
    exact ⟨_, rfl, by decide, pollReindexScript_of_no_bytes h⟩
  | phpScriptServerCount =>
    simp only [PollFails, misread, haction] at h ⊢
    right
    rw [h]
    exact ⟨_, rfl, by decide, rfl⟩
  | unknown code =>
    simp only [misread, haction]
    exact Or.inl ⟨trivial, rfl⟩

end Failures

/-! ## What a failed poll does -/

/-- Nothing happened because of a row: no reindex was queued, the stored value
stays whether the `UPDATE` takes effect or not, and no spike was marked. -/
def Inert (server : ReindexServer) (row : ReindexRow) : RowOutcome → Prop
  | .evaluated evaluation =>
    evaluation.command = none ∧ evaluation.spikeKill = false ∧
      ∀ updated, server.write evaluation.update updated row = row
  | _ => True

/-- A text has no effect on a row.  Either it does not fail the assertion and, where
the first partition stores it in this row, the row holds already what the column keeps
of it, or it fails the assertion in a partition that does not write and the row marks no
spike. -/
def Quiet (env : ReindexEnv) (server : ReindexServer) (thread : Nat) (row : ReindexRow)
    (text : Text) : Prop :=
  let reindex := loadReindexItem row
  let update := reindexUpdate env reindex text
  reindexAssertionFailed reindex (some text) = false ∧
      (thread = 1 → reindex.op = lit ">" ∨ reindex.op = lit "<" → server.Matches update row →
        ∀ value, server.literal update.value = some value →
          row.assertValue = some (server.store value)) ∨
    reindexAssertionFailed reindex (some text) = true ∧ thread ≠ 1 ∧ reindex.marksSpike = false

section Effects

variable {env : ReindexEnv} {server : ReindexServer} {thread : Nat} {row : ReindexRow}
  {reindex : Reindex} {loop : ReindexLoop} {written : Bool}

theorem evaluateRow_of_idle {polled : PolledValue} (h : polled.isIdle = true) :
    Inert server row (evaluateRow env thread reindex written loop polled).2 := by
  cases polled with
  | died => trivial
  | unavailable => trivial
  | value v =>
    obtain ⟨hcommand, hupdate, hspike⟩ := evaluateReindexAssertion_unavailable h
    refine ⟨hcommand, hspike, fun updated => ?_⟩
    rw [hupdate]
    rfl

/-- A value that does not fail the assertion has at most one effect, the
`UPDATE` of a row whose operator follows the value. -/
theorem evaluate_write_of_not_failed {text : Text} (h : isUnavailable (some text) = false)
    (hfailed : reindexAssertionFailed reindex (some text) = false) :
    (∀ updated, server.write
        (evaluateReindexAssertion env thread reindex (some text) written).update updated row =
          row) ↔
      (thread = 1 → reindex.op = lit ">" ∨ reindex.op = lit "<" →
        server.applyUpdate (reindexUpdate env reindex text) row = row) := by
  by_cases hstored : thread = 1 ∧ (reindex.op = lit ">" ∨ reindex.op = lit "<")
  · have hupdate : (evaluateReindexAssertion env thread reindex (some text) written).update =
        some (reindexUpdate env reindex text) :=
      evaluateReindexAssertion_update.2
        ⟨hstored.1, h, fun hf => by simp [hfailed] at hf, Or.inr hstored.2, text, rfl, rfl⟩
    rw [hupdate]
    constructor
    · intro hwrite _ _
      exact hwrite true
    · intro happly updated
      cases updated with
      | true => exact happly hstored.1 hstored.2
      | false => rfl
  · have hupdate :
        (evaluateReindexAssertion env thread reindex (some text) written).update = none := by
      apply evaluateReindexAssertion_update_none
      intro hstore
      exact hstored ⟨hstore.1, hstore.2.2.2.resolve_left (by simp [hfailed])⟩
    rw [hupdate]
    exact iff_of_true (fun _ => rfl) fun hthread hop => absurd ⟨hthread, hop⟩ hstored

/-- The effects of an available value. -/
theorem evaluateRow_inert_iff {text : Text} (h : isUnavailable (some text) = false) :
    Inert server row
        (evaluateRow env thread (loadReindexItem row) written loop (.value (some text))).2 ↔
      Quiet env server thread row text := by
  show (_ ∧ _ ∧ _) ↔ _
  unfold Quiet
  dsimp only
  rw [evaluateReindexAssertion_command, evaluateReindexAssertion_spikeKill]
  cases hfailed : reindexAssertionFailed (loadReindexItem row) (some text) with
  | false =>
    simp only [evaluate_write_of_not_failed h hfailed, server.applyUpdate_eq_self_iff]
    simp
  | true =>
    by_cases hthread : thread = 1
    · simp [hthread]
    · have hupdate : (evaluateReindexAssertion env thread (loadReindexItem row) (some text)
          written).update = none := (evaluateReindexAssertion_other hthread).2
      rw [hupdate]
      simp [hthread, ReindexServer.write]

end Effects

/-- A failed poll acts on its row exactly when the text that it passes on has
an effect on the row. -/
theorem failed_poll_inert_iff (env : ReindexEnv) (server : ReindexServer) (thread : Nat)
    (device : SnmpDevice) (before after : List RowPoll) (poll : RowPoll) (loop : ReindexLoop)
    (hstart : device.ignoreHost = false ∧ env.hostId ≠ 0)
    (hreached : loopAfter env thread (.start device) before = some loop)
    (hpolled : (loop.enter (loadReindexItem poll.row)).previousFailure = false)
    (hfails : PollFails env.cfg poll.answers (loadReindexItem poll.row) loop.state) :
    ∃ outcome,
      (pollHostReindex env thread device (some (before ++ poll :: after))).2[before.length]? =
          some outcome ∧
        (Inert server poll.row outcome ↔
          ∀ text, misread poll.answers (loadReindexItem poll.row) loop.state = some text →
            Quiet env server thread poll.row text) := by
  refine ⟨(reindexRowStep env thread loop poll).2, ?_, ?_⟩
  · unfold pollHostReindex
    rw [if_neg (by simp [hstart.1, hstart.2])]
    exact reindexRows_getElem hreached
  unfold reindexRowStep
  dsimp only
  rw [if_neg (by simp [hpolled]), ReindexLoop.enter_state]
  cases pollReindexAction_of_fails hfails with
  | inl h =>
    rw [h.1]
    exact iff_of_true (evaluateRow_of_idle h.2) nofun
  | inr h =>
    obtain ⟨text, hmisread, havailable, hvalue⟩ := h
    rw [hmisread, hvalue, evaluateRow_inert_iff havailable]
    simp

/-- A script that is started and writes nothing before its time is over, an
agent that is silent, and no script server. -/
private def silentAnswers : RowAnswers where
  engineTime := ⟨true, true, true, ⟨.timeout, none, false⟩⟩
  sysUpTime := ⟨true, true, true, ⟨.timeout, none, false⟩⟩
  object := ⟨true, true, true, ⟨.timeout, none, false⟩⟩
  root := some []
  walk := []
  script := ⟨fun _ => true, fun _ => true, true, .timeout, none⟩
  php := ⟨0, -1, fun _ => ⟨false, 0, false, false, .timeout, false, []⟩⟩

/-- A row with five lines of a script, as an assertion about its output or
about the number of its lines. -/
private def fiveLines (action : Int32) : ReindexRow :=
  ⟨some 7, some action, some (lit "="), some (lit "5"), some (lit "/bin/true")⟩

/-- A script that times out leaves its row alone. -/
theorem failed_script_inert : ∃ outcome,
    (pollHostReindex .plain 1 ⟨true, false⟩
        (some ([] ++ ⟨fiveLines 1, silentAnswers, true⟩ :: []))).2[0]? = some outcome ∧
      Inert .plain (fiveLines 1) outcome := by
  obtain ⟨outcome, houtcome, hinert⟩ :=
    failed_poll_inert_iff .plain .plain 1 ⟨true, false⟩ [] [] ⟨fiveLines 1, silentAnswers, true⟩
      (.start ⟨true, false⟩) (by decide) rfl rfl (Or.inr ⟨_, _, rfl⟩)
  exact ⟨outcome, houtcome, hinert.2 (fun text htext => by cases htext)⟩

/-- The same script in a row that counts lines: its mark has no line feed, so
the count is zero, and a reindex is queued. -/
theorem failed_count_queues :
    PollFails Config.plain silentAnswers (loadReindexItem (fiveLines 11)) ⟨⟨true, false⟩, []⟩ ∧
    ∃ evaluation,
      (pollHostReindex .plain 1 ⟨true, false⟩
          (some [⟨fiveLines 11, silentAnswers, true⟩])).2 = [.evaluated evaluation] ∧
        evaluation.command = some (reindexCommand .plain 7) ∧
        ¬ Inert .plain (fiveLines 11) (.evaluated evaluation) := by
  refine ⟨⟨_, _, rfl⟩, _, rfl, rfl, ?_⟩
  intro h
  exact Option.some_ne_none (reindexCommand .plain 7) h.1

end Spine
