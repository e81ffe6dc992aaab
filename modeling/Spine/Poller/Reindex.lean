import Mathlib.Data.List.Induction
import Mathlib.Data.List.TakeDrop
import Spine.Base.SqlLiteral
import Spine.Database.Sql

/-!
# Reindex assertions

A row of `poller_reindex` holds an assertion about one value of a device.  The
poller reads the value in each cycle.  When the assertion fails, it queues a
reindex of the data query and stores the new value in the row.  This module
models the evaluation in `poller/reindex.c`, from the row that the database
returns to the two statements that go back.

There are five groups.

* The row and the assertion.  `loadReindexItem` copies the columns into arrays
  of fixed size, so it cuts long texts.
* The evaluation.  `evaluateReindexAssertion` returns the two statements, the
  spike mark and the number of errors that it adds.
* The server.  `ReindexServer` is what the database does with the `UPDATE`:
  how it reads a literal, what the column keeps, and how `WHERE` compares.
* Runs.  `runPolls` is a sequence of polls of one row, and
  `reindex_not_lost` says that no poll of a run loses a reindex.
* Convergence.  `reindex_converges_iff` says for which values the poll after a
  successful reindex does not fail again.
-/

namespace Spine

open Base.CString

/-! ## The row and the assertion -/

/-- The object of `sysUpTime`, in hundredths of a second. -/
def sysUpTimeOid : Text := lit ".1.3.6.1.2.1.1.3.0"

/-- The object of `snmpEngineTime`, in seconds. -/
def engineTimeOid : Text := lit ".1.3.6.1.6.3.10.2.1.3.0"

/-- A row of `poller_reindex` as the database returns it.  A column without a
value is `none`. -/
structure ReindexRow where
  dataQueryId : Option Int32
  action : Option Int32
  op : Option Text
  assertValue : Option Text
  arg1 : Option Text
  deriving DecidableEq, Repr

/-- `reindex_t`. -/
structure Reindex where
  op : Text
  assertValue : Text
  arg1 : Text
  dataQueryId : Int32
  action : PollerAction
  deriving DecidableEq, Repr

/-- `load_reindex_item`.  The arrays hold 4, 100 and 1024 bytes. -/
def loadReindexItem (row : ReindexRow) : Reindex where
  op := snprintfS 4 (row.op.getD [])
  assertValue := snprintfS 100 (row.assertValue.getD [])
  arg1 := snprintfS 1024 (row.arg1.getD [])
  dataQueryId := row.dataQueryId.getD 0
  action := PollerAction.ofCode (row.action.getD (-1)).toInt

/-- A polled value that cannot be compared. -/
def isUnavailable : Option Text → Bool
  | none => true
  | some value => isUndefined value || strcaseeq value (lit "No Such Instance")

/-- `reindex_assertion_failed`. -/
def reindexAssertionFailed (reindex : Reindex) : Option Text → Bool
  | none => false
  | some value =>
    if isUndefined value || strcaseeq value (lit "No Such Instance") then false
    else if reindex.op = lit "=" then decide (reindex.assertValue ≠ value)
    else if reindex.op = lit ">" then decide (atoll reindex.assertValue < atoll value)
    else if reindex.op = lit "<" then
      decide (reindex.assertValue ≠ lit "0") && decide (atoll value < atoll reindex.assertValue)
    else false

/-- An unavailable value fails no assertion. -/
theorem reindexAssertionFailed_of_unavailable (reindex : Reindex) {value : Option Text}
    (h : isUnavailable value = true) : reindexAssertionFailed reindex value = false := by
  cases value with
  | none => rfl
  | some v => exact if_pos h

theorem isUnavailable_of_failed {reindex : Reindex} {value : Option Text}
    (h : reindexAssertionFailed reindex value = true) : isUnavailable value = false := by
  cases hvalue : isUnavailable value with
  | false => rfl
  | true =>
    rw [reindexAssertionFailed_of_unavailable reindex hvalue] at h
    cases h

section Operators

variable {reindex : Reindex} {v : Text} (hv : isUnavailable (some v) = false)

include hv

theorem reindexAssertionFailed_eq (hop : reindex.op = lit "=") :
    reindexAssertionFailed reindex (some v) = true ↔ reindex.assertValue ≠ v := by
  simp only [isUnavailable] at hv
  rw [reindexAssertionFailed, if_neg (by simp [hv]), if_pos hop, decide_eq_true_iff]

theorem reindexAssertionFailed_gt (hop : reindex.op = lit ">") :
    reindexAssertionFailed reindex (some v) = true ↔ atoll reindex.assertValue < atoll v := by
  simp only [isUnavailable] at hv
  rw [reindexAssertionFailed, if_neg (by simp [hv]), if_neg (by rw [hop]; decide), if_pos hop,
    decide_eq_true_iff]

theorem reindexAssertionFailed_lt (hop : reindex.op = lit "<") :
    reindexAssertionFailed reindex (some v) = true ↔
      reindex.assertValue ≠ lit "0" ∧ atoll v < atoll reindex.assertValue := by
  simp only [isUnavailable] at hv
  rw [reindexAssertionFailed, if_neg (by simp [hv]), if_neg (by rw [hop]; decide),
    if_neg (by rw [hop]; decide), if_pos hop, Bool.and_eq_true, decide_eq_true_iff,
    decide_eq_true_iff]

end Operators

/-! ## The evaluation -/

/-- What an evaluation reads beside the row: the configuration, the client's
escape function, the id of the device in the record of the device and in the
work of the partition, and whether the device is in the debug list. -/
structure ReindexEnv where
  cfg : Config
  escape : Text → Text
  deviceId : Int32
  hostId : Int32
  debugDevice : Bool

/-- The log level or the device asks for every message. -/
def ReindexEnv.highlighted (env : ReindexEnv) : Bool :=
  env.debugDevice || decide (env.cfg.spineLogLevel = 2)

/-- The errors that `log_reindex_assertion` adds. -/
def logReindexAssertion (env : ReindexEnv) (failed : Bool) : Nat :=
  if failed && !env.highlighted && decide (env.cfg.spineLogLevel = 1) then 1 else 0

/-- `POLLER_COMMAND_REINDEX`. -/
def POLLER_COMMAND_REINDEX : Int := 1

/-- The statement of `queue_reindex` for one data query. -/
def reindexCommand (env : ReindexEnv) (dataQueryId : Int32) : Insert where
  mode := env.cfg.outputMode
  query := snprintfS LRG_BUFSIZE
    (lit "REPLACE INTO poller_command (poller_id, time, action, command) VALUES (" ++
      decimalInt env.cfg.pollerId ++ lit ", NOW(), " ++ decimalInt POLLER_COMMAND_REINDEX ++
      lit ", '" ++ decimalInt env.deviceId.toInt ++ lit ":" ++ decimalInt dataQueryId.toInt ++
      lit "')")

/-- `queue_reindex`: the statement that goes out, and the answer.  Only the
first partition sends it, and the others answer that it is queued. -/
def queueReindex (env : ReindexEnv) (thread : Nat) (reindex : Reindex) (written : Bool) :
    Option Insert × Bool :=
  if thread ≠ 1 then (none, true) else (some (reindexCommand env reindex.dataQueryId), written)

/-- The `UPDATE` of `update_reindex_value`, with its two escaped texts. -/
structure ReindexUpdate where
  value : Text
  hostId : Int32
  dataQueryId : Int32
  argument : Text
  deriving DecidableEq, Repr

/-- The two texts pass through buffers of `BUFSIZE` bytes. -/
def reindexUpdate (env : ReindexEnv) (reindex : Reindex) (value : Text) : ReindexUpdate where
  value := dbEscape env.escape BUFSIZE value
  hostId := env.hostId
  dataQueryId := reindex.dataQueryId
  argument := dbEscape env.escape BUFSIZE reindex.arg1

/-- `update_reindex_value`. -/
def updateReindexValue (env : ReindexEnv) (thread : Nat) (reindex : Reindex) :
    Option Text → Option ReindexUpdate
  | none => none
  | some value => if thread ≠ 1 then none else some (reindexUpdate env reindex value)

theorem updateReindexValue_eq_some {env : ReindexEnv} {thread : Nat} {reindex : Reindex} {v : Text}
    {update : ReindexUpdate} : updateReindexValue env thread reindex (some v) = some update ↔
      thread = 1 ∧ update = reindexUpdate env reindex v := by
  rw [updateReindexValue]
  by_cases hthread : thread = 1
  · rw [if_neg (not_not.2 hthread), Option.some.injEq]
    exact ⟨fun h => ⟨hthread, h.symm⟩, fun h => h.2.symm⟩
  · rw [if_pos hthread]
    constructor
    · intro h
      cases h
    · exact fun h => absurd h.1 hthread

/-- The errors that `discard_reindex_spike` adds. -/
def discardReindexSpike (env : ReindexEnv) : Nat :=
  if env.highlighted then 0 else if env.cfg.spineLogLevel = 1 then 1 else 0

/-- A failure of the row means that the counters of the device were reset. -/
def Reindex.marksSpike (reindex : Reindex) : Bool :=
  decide (reindex.op = lit "<") || decide (reindex.arg1 = sysUpTimeOid) ||
    decide (reindex.arg1 = engineTimeOid)

/-- What an evaluation does: its answer, the statements that it sends, whether
it sets `spike_kill`, and the errors that it adds. -/
structure Evaluation where
  failed : Bool
  command : Option Insert
  update : Option ReindexUpdate
  spikeKill : Bool
  errors : Nat
  deriving DecidableEq, Repr

/-- `evaluate_reindex_assertion`.  The argument `written` is the answer of
`db_insert` to the queue statement. -/
def evaluateReindexAssertion (env : ReindexEnv) (thread : Nat) (reindex : Reindex)
    (value : Option Text) (written : Bool) : Evaluation :=
  let failed := reindexAssertionFailed reindex value
  let unavailable := isUnavailable value
  let logged := if failed || unavailable then logReindexAssertion env failed else 0
  let (command, queued) :=
    if failed then queueReindex env thread reindex written else (none, true)
  let update :=
    if queued && !unavailable &&
        (failed || decide (reindex.op = lit ">") || decide (reindex.op = lit "<")) then
      updateReindexValue env thread reindex value
    else none
  let spike := failed && reindex.marksSpike
  { failed := failed
    command := command
    update := update
    spikeKill := spike
    errors := logged + if spike then discardReindexSpike env else 0 }

section Evaluate

variable {env : ReindexEnv} {thread : Nat} {reindex : Reindex} {value : Option Text}
  {written : Bool}

theorem evaluateReindexAssertion_spikeKill :
    (evaluateReindexAssertion env thread reindex value written).spikeKill =
      (reindexAssertionFailed reindex value && reindex.marksSpike) := rfl

theorem evaluateReindexAssertion_command :
    (evaluateReindexAssertion env thread reindex value written).command =
      if reindexAssertionFailed reindex value = true ∧ thread = 1 then
        some (reindexCommand env reindex.dataQueryId)
      else none := by
  unfold evaluateReindexAssertion queueReindex
  cases reindexAssertionFailed reindex value with
  | false => simp
  | true => by_cases hthread : thread = 1 <;> simp [hthread]

/-- The row is updated only by the first partition, only with an available
value, and only when no reindex is due or its command was written. -/
theorem evaluateReindexAssertion_update {update : ReindexUpdate} :
    (evaluateReindexAssertion env thread reindex value written).update = some update ↔
      thread = 1 ∧ isUnavailable value = false ∧
        (reindexAssertionFailed reindex value = true → written = true) ∧
        (reindexAssertionFailed reindex value = true ∨ reindex.op = lit ">" ∨
          reindex.op = lit "<") ∧
        ∃ v, value = some v ∧ update = reindexUpdate env reindex v := by
  cases value with
  | none => simp [evaluateReindexAssertion, isUnavailable]
  | some v =>
    unfold evaluateReindexAssertion queueReindex
    by_cases hthread : thread = 1
    · subst hthread
      cases reindexAssertionFailed reindex (some v) <;> cases isUnavailable (some v) <;>
        cases written <;> simp [updateReindexValue_eq_some]
    · simp [hthread, updateReindexValue_eq_some]

theorem evaluateReindexAssertion_update_none
    (h : ¬ (thread = 1 ∧ isUnavailable value = false ∧
      (reindexAssertionFailed reindex value = true → written = true) ∧
      (reindexAssertionFailed reindex value = true ∨ reindex.op = lit ">" ∨
        reindex.op = lit "<"))) :
    (evaluateReindexAssertion env thread reindex value written).update = none := by
  rw [Option.eq_none_iff_forall_ne_some]
  intro update hsome
  obtain ⟨hthread, hvalue, hwritten, hop, _⟩ := evaluateReindexAssertion_update.1 hsome
  exact h ⟨hthread, hvalue, hwritten, hop⟩

/-- The partitions after the first write nothing. -/
theorem evaluateReindexAssertion_other (hthread : thread ≠ 1) :
    (evaluateReindexAssertion env thread reindex value written).command = none ∧
      (evaluateReindexAssertion env thread reindex value written).update = none := by
  constructor
  · rw [evaluateReindexAssertion_command, if_neg fun h => hthread h.2]
  · exact evaluateReindexAssertion_update_none fun h => hthread h.1

/-- An unavailable value changes nothing. -/
theorem evaluateReindexAssertion_unavailable (hvalue : isUnavailable value = true) :
    (evaluateReindexAssertion env thread reindex value written).command = none ∧
      (evaluateReindexAssertion env thread reindex value written).update = none ∧
      (evaluateReindexAssertion env thread reindex value written).spikeKill = false := by
  have hfailed := reindexAssertionFailed_of_unavailable reindex hvalue
  refine ⟨?_, ?_, ?_⟩
  · rw [evaluateReindexAssertion_command, if_neg (by simp [hfailed])]
  · exact evaluateReindexAssertion_update_none fun h => by simp [hvalue] at h
  · rw [evaluateReindexAssertion_spikeKill, hfailed, Bool.false_and]

end Evaluate

/-! ## The server -/

/-- What the database does with the texts of an `UPDATE`: the text that a
literal denotes, the part of it that the column keeps, and the comparison of
`WHERE`. -/
structure ReindexServer where
  literal : Text → Option Text
  store : Text → Text
  same : Text → Text → Bool

/-- The `UPDATE` on one row of the device.  A column without a value equals
nothing. -/
def ReindexServer.applyUpdate (server : ReindexServer) (update : ReindexUpdate)
    (row : ReindexRow) : ReindexRow :=
  match row.dataQueryId, row.arg1, server.literal update.argument, server.literal update.value with
  | some dataQueryId, some arg1, some argument, some value =>
    if dataQueryId = update.dataQueryId ∧ server.same arg1 argument = true then
      { row with assertValue := some (server.store value) }
    else row
  | _, _, _, _ => row

/-- The statement of an evaluation, if there is one and it takes effect. -/
def ReindexServer.write (server : ReindexServer) (update : Option ReindexUpdate) (updated : Bool)
    (row : ReindexRow) : ReindexRow :=
  match update with
  | some update => if updated then server.applyUpdate update row else row
  | none => row

/-- The documented behaviour of the server: it reads an escaped text back, a
column keeps the whole text or at least its first 100 bytes, and a text equals
itself. -/
structure ReindexServer.Faithful (server : ReindexServer) (escape : Text → Text) : Prop where
  literal_escape : ∀ text, server.literal (cstr (escape text)) = some text
  store_take : ∀ text, ∃ kept, 100 ≤ kept ∧ server.store text = text.take kept
  same_self : ∀ text, server.same text text = true

/-- The row meets the `WHERE` of an `UPDATE`. -/
def ReindexServer.Matches (server : ReindexServer) (update : ReindexUpdate) (row : ReindexRow) :
    Prop :=
  row.dataQueryId = some update.dataQueryId ∧
    ∃ arg1 argument, row.arg1 = some arg1 ∧ server.literal update.argument = some argument ∧
      server.same arg1 argument = true

/-- An `UPDATE` that changes nothing: the row is another one, or it holds the value. -/
theorem ReindexServer.applyUpdate_eq_self_iff (server : ReindexServer) (update : ReindexUpdate)
    (row : ReindexRow) :
    server.applyUpdate update row = row ↔
      (server.Matches update row → ∀ value, server.literal update.value = some value →
        row.assertValue = some (server.store value)) := by
  unfold ReindexServer.applyUpdate ReindexServer.Matches
  split
  · rename_i dataQueryId arg1 argument value hquery harg hargument hvalue
    split
    · rename_i hmatch
      constructor
      · rintro hsame - stored hstored
        rw [← hsame]
        rw [hvalue] at hstored
        cases hstored
        rfl
      · intro hholds
        have hrow := hholds ⟨hquery.trans (congrArg some hmatch.1), arg1, argument, harg, hargument,
          hmatch.2⟩ value hvalue
        rw [← hrow]
    · rename_i hother
      refine iff_of_true rfl ?_
      rintro ⟨hquery', arg1', argument', harg', hargument', hsame⟩
      rw [hquery] at hquery'
      rw [harg] at harg'
      rw [hargument] at hargument'
      cases hquery'
      cases harg'
      cases hargument'
      exact absurd ⟨rfl, hsame⟩ hother
  · rename_i hnone
    refine iff_of_true rfl ?_
    rintro ⟨hquery, arg1, argument, harg, hargument, -⟩ value hvalue
    exact absurd hvalue (hnone _ _ _ value hquery harg hargument)

/-- An `UPDATE` leaves the row or replaces the one column. -/
theorem ReindexServer.applyUpdate_cases (server : ReindexServer) (update : ReindexUpdate)
    (row : ReindexRow) :
    server.applyUpdate update row = row ∨
      ∃ value, server.literal update.value = some value ∧
        server.applyUpdate update row = { row with assertValue := some (server.store value) } := by
  unfold ReindexServer.applyUpdate
  split
  · rename_i hvalue
    split
    · exact Or.inr ⟨_, hvalue, rfl⟩
    · exact Or.inl rfl
  · exact Or.inl rfl

/-! ## Runs -/

/-- One poll of a row: the partition, the value that it read, the answer to
the queue statement, and whether the `UPDATE` takes effect. -/
structure ReindexPoll where
  thread : Nat
  value : Option Text
  written : Bool
  updated : Bool
  deriving DecidableEq, Repr

/-- A partition loads a row, evaluates it and writes. -/
def pollRow (env : ReindexEnv) (server : ReindexServer) (row : ReindexRow) (poll : ReindexPoll) :
    ReindexRow × Evaluation :=
  let evaluation :=
    evaluateReindexAssertion env poll.thread (loadReindexItem row) poll.value poll.written
  (server.write evaluation.update poll.updated row, evaluation)

/-- The row after a sequence of polls. -/
def runPolls (env : ReindexEnv) (server : ReindexServer) (row : ReindexRow)
    (polls : List ReindexPoll) : ReindexRow :=
  polls.foldl (fun row poll => (pollRow env server row poll).1) row

/-- A poll gives the row an available value, for which the assertion held or
the command of the data query was written. -/
structure JustifiedBy (env : ReindexEnv) (server : ReindexServer) (row : ReindexRow)
    (poll : ReindexPoll) (stored : Option Text) : Prop where
  thread : poll.thread = 1
  value : ∃ v kept, poll.value = some v ∧ isUnavailable (some v) = false ∧
    server.literal (dbEscape env.escape BUFSIZE v) = some kept ∧ stored = some (server.store kept)
  safe : reindexAssertionFailed (loadReindexItem row) poll.value = false ∨
    (pollRow env server row poll).2.command =
        some (reindexCommand env (loadReindexItem row).dataQueryId) ∧ poll.written = true

section Runs

variable {env : ReindexEnv} {server : ReindexServer} {row : ReindexRow} {poll : ReindexPoll}

theorem pollRow_fst : (pollRow env server row poll).1 =
    server.write (pollRow env server row poll).2.update poll.updated row := rfl

theorem pollRow_failed : (pollRow env server row poll).2.failed =
    reindexAssertionFailed (loadReindexItem row) poll.value := rfl

/-- A poll without an `UPDATE` leaves the row. -/
theorem pollRow_fst_of_none (h : (pollRow env server row poll).2.update = none) :
    (pollRow env server row poll).1 = row := by
  rw [pollRow_fst, h]
  rfl

variable (env server row poll) in
/-- One poll leaves the row, or it replaces the stored value for a reason. -/
theorem pollRow_cases :
    (pollRow env server row poll).1 = row ∨
      ∃ stored, (pollRow env server row poll).1 = { row with assertValue := stored } ∧
        JustifiedBy env server row poll stored := by
  rw [pollRow_fst]
  cases hupdate : (pollRow env server row poll).2.update with
  | none => exact Or.inl rfl
  | some update =>
    by_cases hupdated : poll.updated = true
    · rw [ReindexServer.write, if_pos hupdated]
      obtain ⟨hthread, havailable, hwritten, _, v, hv, rfl⟩ :=
        evaluateReindexAssertion_update.1 hupdate
      cases server.applyUpdate_cases (reindexUpdate env (loadReindexItem row) v) row with
      | inl h => exact Or.inl h
      | inr h =>
        obtain ⟨kept, hkept, happly⟩ := h
        refine Or.inr ⟨_, happly, hthread, ⟨v, kept, hv, hv ▸ havailable, hkept, rfl⟩, ?_⟩
        cases hfailed : reindexAssertionFailed (loadReindexItem row) poll.value with
        | false => exact Or.inl rfl
        | true =>
          refine Or.inr ⟨?_, hwritten hfailed⟩
          exact evaluateReindexAssertion_command.trans (if_pos ⟨hfailed, hthread⟩)
    · rw [ReindexServer.write, if_neg hupdated]
      exact Or.inl rfl

/-- When the command is not written, the row is left as it was. -/
theorem pollRow_fst_of_not_written
    (hfailed : reindexAssertionFailed (loadReindexItem row) poll.value = true)
    (hwritten : poll.written = false) : (pollRow env server row poll).1 = row := by
  apply pollRow_fst_of_none
  apply evaluateReindexAssertion_update_none
  intro h
  have hcommand := h.2.2.1 hfailed
  rw [hwritten] at hcommand
  cases hcommand

theorem runPolls_append_singleton (polls : List ReindexPoll) :
    runPolls env server row (polls ++ [poll]) =
      (pollRow env server (runPolls env server row polls) poll).1 := by
  unfold runPolls
  rw [List.foldl_append]
  rfl

end Runs

/-- The stored value of a run is the first one, or a poll of the run gave it
for a reason. -/
theorem runPolls_assertValue (env : ReindexEnv) (server : ReindexServer) (row : ReindexRow)
    (polls : List ReindexPoll) :
    (runPolls env server row polls).assertValue = row.assertValue ∨
      ∃ before poll after, polls = before ++ poll :: after ∧
        JustifiedBy env server (runPolls env server row before) poll
          (runPolls env server row polls).assertValue := by
  induction polls using List.reverseRecOn with
  | nil => exact Or.inl rfl
  | append_singleton polls last ih =>
    rw [runPolls_append_singleton]
    cases pollRow_cases env server (runPolls env server row polls) last with
    | inl hsame =>
      rw [hsame]
      refine Or.imp_right (fun h => ?_) ih
      obtain ⟨before, poll, after, rfl, hjustified⟩ := h
      exact ⟨before, poll, after ++ [last], by simp, hjustified⟩
    | inr h =>
      obtain ⟨stored, hstored, hjustified⟩ := h
      rw [hstored]
      exact Or.inr ⟨polls, last, [], rfl, hjustified⟩

/-- No reindex is lost.  In every sequence of polls of a row, a poll that
replaces the stored value has a reason, and so the value at the end is the
first one or has a reason.  The partitions after the first write nothing.  When
the assertion fails in the first partition and the command is not written, the
row stays: a later poll that reads the same value fails again, and the first partition
queues the command again. -/
theorem reindex_not_lost (env : ReindexEnv) (server : ReindexServer) (row : ReindexRow)
    (polls : List ReindexPoll) :
    ((runPolls env server row polls).assertValue = row.assertValue ∨
      ∃ before poll after, polls = before ++ poll :: after ∧
        JustifiedBy env server (runPolls env server row before) poll
          (runPolls env server row polls).assertValue) ∧
    ∀ before poll after, polls = before ++ poll :: after →
      let current := runPolls env server row before
      let result := pollRow env server current poll
      (result.1.assertValue ≠ current.assertValue →
        JustifiedBy env server current poll result.1.assertValue) ∧
      (poll.thread ≠ 1 →
        result.2.command = none ∧ result.2.update = none ∧ result.1 = current) ∧
      (poll.thread = 1 → reindexAssertionFailed (loadReindexItem current) poll.value = true →
        poll.written = false →
        result.1 = current ∧
          ∀ next, next.value = poll.value →
            reindexAssertionFailed (loadReindexItem result.1) next.value = true ∧
            (next.thread = 1 → (pollRow env server result.1 next).2.command =
              some (reindexCommand env (loadReindexItem result.1).dataQueryId))) := by
  refine ⟨runPolls_assertValue env server row polls, ?_⟩
  intro before poll after _ current result
  refine ⟨?_, ?_, ?_⟩
  · intro hne
    cases pollRow_cases env server current poll with
    | inl hsame => exact absurd (congrArg ReindexRow.assertValue hsame) hne
    | inr h =>
      obtain ⟨stored, hstored, hjustified⟩ := h
      show JustifiedBy env server current poll (pollRow env server current poll).1.assertValue
      rw [hstored]
      exact hjustified
  · intro hthread
    have hother : result.2.command = none ∧ result.2.update = none :=
      evaluateReindexAssertion_other hthread
    exact ⟨hother.1, hother.2, pollRow_fst_of_none hother.2⟩
  · intro _ hfailed hwritten
    have hsame : result.1 = current := pollRow_fst_of_not_written hfailed hwritten
    refine ⟨hsame, fun next hnext => ?_⟩
    have hagain : reindexAssertionFailed (loadReindexItem result.1) next.value = true := by
      rw [hsame, hnext]
      exact hfailed
    refine ⟨hagain, fun hthread => ?_⟩
    exact evaluateReindexAssertion_command.trans (if_pos ⟨hagain, hthread⟩)

/-- A plain device, with the escape function of the client library. -/
def ReindexEnv.plain : ReindexEnv := ⟨Config.plain, Base.SqlLiteral.escape, 3, 3, false⟩

/-- A server with the column `varchar(100)` and a comparison without case. -/
def ReindexServer.plain : ReindexServer :=
  ⟨Base.SqlLiteral.literalValue, fun text => text.take 100, strcaseeq⟩

theorem ReindexServer.plain_faithful : ReindexServer.plain.Faithful ReindexEnv.plain.escape where
  literal_escape text := by
    show Base.SqlLiteral.literalValue (cstr (Base.SqlLiteral.escape text)) = some text
    rw [Base.SqlLiteral.cstr_escape, Base.SqlLiteral.literalValue_escape]
  store_take text := ⟨100, le_rfl, rfl⟩
  same_self text := beq_self_eq_true _

/-- A row that asserts the output of a script. -/
private def scriptRow : ReindexRow :=
  ⟨some 7, some 1, some (lit "="), some (lit "122"), some (lit "/usr/bin/printf 123")⟩

/-- A command that is not written leaves the row as it was, so that the next cycle queues
it again. -/
theorem reindex_not_lost_unwritten :
    let unwritten : ReindexPoll := ⟨1, some (lit "123"), false, true⟩
    (pollRow .plain .plain scriptRow unwritten).1 = scriptRow ∧
      (pollRow .plain .plain (pollRow .plain .plain scriptRow unwritten).1
        ⟨1, some (lit "123"), true, true⟩).2.command = some (reindexCommand .plain 7) := by
  obtain ⟨hsame, hnext⟩ :=
    ((reindex_not_lost .plain .plain scriptRow [⟨1, some (lit "123"), false, true⟩]).2 []
      ⟨1, some (lit "123"), false, true⟩ [] rfl).2.2 rfl (by decide) rfl
  exact ⟨hsame, (hnext ⟨1, some (lit "123"), true, true⟩ rfl).2 rfl⟩

/-! ## Convergence -/

/-- After a poll whose `UPDATE` took effect, the row holds at least the part of
the value that the next poll loads. -/
theorem pollRow_loaded_of_update {env : ReindexEnv} {server : ReindexServer} {row : ReindexRow}
    {poll : ReindexPoll} {arg1 v : Text} (hserver : server.Faithful env.escape)
    (hquery : row.dataQueryId.isSome) (harg : row.arg1 = some arg1) (hlength : arg1.length ≤ 511)
    (hupdate : (pollRow env server row poll).2.update =
      some (reindexUpdate env (loadReindexItem row) v))
    (hupdated : poll.updated = true) :
    loadReindexItem (pollRow env server row poll).1 =
      { loadReindexItem row with assertValue := v.take 99 } := by
  obtain ⟨dataQueryId, hquery⟩ := Option.isSome_iff_exists.1 hquery
  have hloaded : (loadReindexItem row).arg1 = arg1 := by
    show snprintfS 1024 (row.arg1.getD []) = arg1
    rw [harg]
    exact snprintfS_eq_self (show arg1.length < 1024 by omega)
  have hargument : server.literal (reindexUpdate env (loadReindexItem row) v).argument =
      some arg1 := by
    show server.literal (dbEscape env.escape BUFSIZE (loadReindexItem row).arg1) = some arg1
    have hfit : arg1.length ≤ (BUFSIZE - 1) / 2 := hlength
    rw [hloaded, dbEscape_eq env.escape (by decide) hfit]
    exact hserver.literal_escape arg1
  have hliteral : server.literal (reindexUpdate env (loadReindexItem row) v).value =
      some (v.take 511) := by
    show server.literal (dbEscape env.escape BUFSIZE v) = some (v.take 511)
    rw [dbEscape, if_neg (by decide)]
    exact hserver.literal_escape (v.take 511)
  have hmatch : dataQueryId = (reindexUpdate env (loadReindexItem row) v).dataQueryId := by
    show dataQueryId = row.dataQueryId.getD 0
    rw [hquery]
    rfl
  obtain ⟨kept, hkept, hstore⟩ := hserver.store_take (v.take 511)
  rw [pollRow_fst, hupdate, ReindexServer.write, if_pos hupdated]
  unfold ReindexServer.applyUpdate
  rw [hquery, harg, hargument, hliteral]
  dsimp only
  rw [if_pos ⟨hmatch, hserver.same_self arg1⟩, hstore]
  -- The array of 100 bytes is the smallest of the three limits.
  have htake : snprintfS 100 ((v.take 511).take kept) = v.take 99 := by
    unfold snprintfS
    rw [List.take_take, List.take_take]
    congr 1
    omega
  unfold loadReindexItem
  simp only [Option.getD_some, htake, hquery, harg]

/-- A poll that failed stores its value. -/
theorem pollRow_loaded {env : ReindexEnv} {server : ReindexServer} {row : ReindexRow}
    {poll : ReindexPoll} {arg1 v : Text} (hserver : server.Faithful env.escape)
    (hquery : row.dataQueryId.isSome) (harg : row.arg1 = some arg1) (hlength : arg1.length ≤ 511)
    (hthread : poll.thread = 1) (hvalue : poll.value = some v)
    (hfailed : reindexAssertionFailed (loadReindexItem row) poll.value = true)
    (hwritten : poll.written = true) (hupdated : poll.updated = true) :
    loadReindexItem (pollRow env server row poll).1 =
      { loadReindexItem row with assertValue := v.take 99 } := by
  refine pollRow_loaded_of_update hserver hquery harg hlength ?_ hupdated
  exact evaluateReindexAssertion_update.2
    ⟨hthread, isUnavailable_of_failed hfailed, fun _ => hwritten, Or.inl hfailed, v, hvalue, rfl⟩

/-- The next poll compares a value with its own first 99 bytes. -/
def ConvergesFor (op v : Text) : Prop :=
  if op = lit "=" then v.length ≤ 99
  else if op = lit ">" then atoll v ≤ atoll (v.take 99)
  else atoll (v.take 99) ≤ atoll v

/-- The assertion of a value against its own first 99 bytes. -/
theorem reindexAssertionFailed_take {reindex : Reindex} {v : Text}
    (hop : reindex.op = lit "=" ∨ reindex.op = lit "<" ∨ reindex.op = lit ">")
    (hassert : reindex.assertValue = v.take 99) (hv : isUnavailable (some v) = false) :
    reindexAssertionFailed reindex (some v) = false ↔ ConvergesFor reindex.op v := by
  rw [← Bool.not_eq_true]
  unfold ConvergesFor
  rcases hop with hop | hop | hop
  · rw [reindexAssertionFailed_eq hv hop, hassert, if_pos hop, not_not]
    exact List.take_eq_self_iff v
  · rw [reindexAssertionFailed_lt hv hop, hassert, if_neg (by rw [hop]; decide),
      if_neg (by rw [hop]; decide)]
    constructor
    · intro h
      by_contra hlt
      refine h ⟨fun hzero => hlt ?_, by omega⟩
      -- A value that begins with `0` and ends there is the stored `0` itself.
      have hlength := congrArg List.length hzero
      rw [List.length_take, show (lit "0").length = 1 by decide] at hlength
      rw [List.take_of_length_le (by omega)]
    · intro hle h
      have := h.2
      omega
  · rw [reindexAssertionFailed_gt hv hop, hassert, if_neg (by rw [hop]; decide), if_pos hop]
    omega

/-- An `UPDATE` matches no row without a data query. -/
theorem pollRow_fst_of_no_query {env : ReindexEnv} {server : ReindexServer} {row : ReindexRow}
    (poll : ReindexPoll) (h : row.dataQueryId = none) : (pollRow env server row poll).1 = row := by
  rw [pollRow_fst]
  unfold ReindexServer.write ReindexServer.applyUpdate
  rw [h]
  split
  · split <;> rfl
  · rfl

/-- A reindex converges exactly when the first 99 bytes of the value compare
with the value as the whole value would. -/
theorem reindex_converges_iff (env : ReindexEnv) (server : ReindexServer) (row : ReindexRow)
    (poll next : ReindexPoll) (op arg1 v : Text) (hserver : server.Faithful env.escape)
    (hop : op = lit "=" ∨ op = lit "<" ∨ op = lit ">") (hrowop : row.op = some op)
    (harg : row.arg1 = some arg1) (harglength : arg1.length ≤ 511)
    (havailable : isUnavailable (some v) = false)
    (hthread : poll.thread = 1) (hvalue : poll.value = some v) (hwritten : poll.written = true)
    (hupdated : poll.updated = true) (hfailed : (pollRow env server row poll).2.failed = true)
    (hnext : next.value = some v) :
    (pollRow env server (pollRow env server row poll).1 next).2.failed = false ↔
      row.dataQueryId.isSome = true ∧ ConvergesFor op v := by
  have hassertion : reindexAssertionFailed (loadReindexItem row) poll.value = true := hfailed
  by_cases hquery : row.dataQueryId.isSome = true
  · have hloaded := pollRow_loaded hserver hquery harg harglength hthread hvalue hassertion
      hwritten hupdated
    have hloadedop : (loadReindexItem row).op = op := by
      show snprintfS 4 (row.op.getD []) = op
      rw [hrowop]
      rcases hop with rfl | rfl | rfl <;> decide
    rw [pollRow_failed, hnext, hloaded, and_iff_right hquery]
    rw [← hloadedop] at hop ⊢
    exact reindexAssertionFailed_take hop rfl havailable
  · -- The row stays, so the same value fails again.
    rw [pollRow_fst_of_no_query poll (by simpa using hquery), pollRow_failed, hnext, ← hvalue,
      hassertion]
    simp [hquery]

theorem reindex_converges_script :
    (pollRow .plain .plain (pollRow .plain .plain scriptRow ⟨1, some (lit "123"), true, true⟩).1
      ⟨2, some (lit "123"), true, true⟩).2.failed = false :=
  (reindex_converges_iff .plain .plain scriptRow ⟨1, some (lit "123"), true, true⟩
    ⟨2, some (lit "123"), true, true⟩ (lit "=") (lit "/usr/bin/printf 123") (lit "123")
    ReindexServer.plain_faithful (Or.inl rfl) rfl rfl (by decide) (by decide) rfl rfl rfl rfl
    (by decide) rfl).2 ⟨rfl, by unfold ConvergesFor; decide⟩

/-- A value of 100 bytes fits the column, but the array of the next poll holds
99 of them, so the assertion fails in every cycle. -/
theorem reindex_diverges_hundred_bytes :
    (List.replicate 100 (97 : UInt8)).length ≤ RESULTS_BUFFER - 1 ∧
    (0 : UInt8) ∉ List.replicate 100 97 ∧
    (pollRow .plain .plain scriptRow
      ⟨1, some (List.replicate 100 97), true, true⟩).2.failed = true ∧
    (pollRow .plain .plain
      (pollRow .plain .plain scriptRow ⟨1, some (List.replicate 100 97), true, true⟩).1
      ⟨1, some (List.replicate 100 97), true, true⟩).2.failed = true := by
  have havailable : isUnavailable (some (List.replicate 100 97)) = false := by decide
  have hfirst : reindexAssertionFailed (loadReindexItem scriptRow)
      (some (List.replicate 100 97)) = true :=
    (reindexAssertionFailed_eq havailable rfl).2 (by decide)
  refine ⟨by decide, by decide, hfirst, ?_⟩
  rw [pollRow_failed, pollRow_loaded ReindexServer.plain_faithful rfl rfl (by decide) rfl rfl hfirst
    rfl rfl]
  refine (reindexAssertionFailed_eq havailable rfl).2 fun h => ?_
  have hlength := congrArg List.length h
  rw [List.length_take, List.length_replicate] at hlength
  omega

end Spine
