import Spine.Database.Insert

/-!
# The budget of retries

`db_insert` and `db_query` of `database/sql.c` send a statement in a loop that has no
bound of its own.  A lost connection and a lock are counted in one variable,
`error_count`, which `retry_disconnected_query` increments for the first and the loop
for the second.

* `dbReconnect` is `db_reconnect`, with the answers of the client library.
* `sendFrom` is the loop.  It takes a bound on its rounds, and `none` means that it is
  still running after that many.
* `sendFrom_returns` is the budget: 31 rounds are always enough, and more of them change
  nothing.
* `dbInsertSends_eq` connects the loop with `dbInsert`, which the effect of a statement
  is stated for.
-/

namespace Spine

/-! ## Reconnecting -/

/-- What `db_reconnect` meets: the two thread ids around `mysql_ping`, its result, and
the outcomes of the calls that follow. -/
structure ReconnectEnv where
  threadBefore : Nat
  threadAfterPing : Nat
  pingOk : Bool
  /-- The answers to the statements of `db_set_session_mode` after a ping that
  reconnected. -/
  pingModes : Nat → Bool
  connected : Bool
  threadConnected : Nat
  connectModes : Nat → Bool

/-- The number of entries of `modes[]`. -/
def SESSION_MODES : Nat := 7

/-- `db_set_session_mode`: every statement must succeed. -/
def dbSetSessionMode (answers : Nat → Bool) : Bool := (List.range SESSION_MODES).all answers

/-- `db_reconnect`. -/
def dbReconnect (env : ReconnectEnv) : Int :=
  if env.threadAfterPing ≠ env.threadBefore then
    if dbSetSessionMode env.pingModes then 1 else -1
  else if env.pingOk then 0
  else if env.connected ∧ 0 < env.threadConnected ∧ dbSetSessionMode env.connectModes then 1
  else -1

/-! ## The loop -/

/-- What one send of the statement meets: the error of `mysql_query` if it fails,
whether the server applied the statement all the same, whether `errno` is `EINTR`, from
this call or from an earlier one, and what `db_reconnect` would meet. -/
structure Send where
  error : Option Nat
  applied : Bool
  interrupted : Bool
  reconnect : ReconnectEnv

/-- How the loop ended: with a send that succeeded or not, after a number of sends. -/
structure SendRun where
  succeeded : Bool
  sends : Nat
  deriving DecidableEq, Repr

/-- The loop of `db_insert` and of `db_query`, after `sent` sends. -/
def sendFrom (sends : Nat → Send) : Nat → Nat → Nat → Option SendRun
  | 0, _, _ => none
  | rounds + 1, sent, errorCount =>
    match (sends sent).error with
    | none => some ⟨true, sent + 1⟩
    | some error =>
      if isLost error then
        if retryDisconnectedQuery (errorCount + 1) (sends sent).interrupted
            (decide (0 ≤ dbReconnect (sends sent).reconnect)) then
          sendFrom sends rounds (sent + 1) (errorCount + 1)
        else some ⟨false, sent + 1⟩
      else if isLocked error then
        if 30 < errorCount + 1 then some ⟨false, sent + 1⟩
        else sendFrom sends rounds (sent + 1) (errorCount + 1)
      else some ⟨false, sent + 1⟩

/-- The answer to a send, as the effect of a statement takes it. -/
def Send.answer (send : Send) : SendAnswer :=
  match send.error with
  | none => .ok
  | some error =>
    .error error send.applied send.interrupted (decide (0 ≤ dbReconnect send.reconnect))

/-- `db_insert`: what it returns, and the number of sends. -/
def dbInsertSends (sqlReadonly : Bool) (sends : Nat → Send) (rounds : Nat) :
    Option (Bool × Nat) :=
  if sqlReadonly then some (true, 0)
  else (sendFrom sends rounds 0 0).map fun run => (run.succeeded, run.sends)

/-- `db_query`: the result of `mysql_store_result`, if it gets there, and the number of
sends.  The result may be `NULL` for a statement without a result set. -/
def dbQuerySends {ρ : Type*} (storeResult : Option ρ) (sends : Nat → Send) (rounds : Nat) :
    Option (Option (Option ρ) × Nat) :=
  (sendFrom sends rounds 0 0).map fun run =>
    (if run.succeeded then some storeResult else none, run.sends)

/-- An error after which the statement is sent again. -/
def isRetried (error : Nat) : Bool := isLost error || isLocked error

section Budget

variable {sends : Nat → Send} {rounds sent errorCount : Nat} {run : SendRun}

/-- A round decides as `db_insert` does after the answer to an attempt. -/
theorem sendFrom_succ (sends : Nat → Send) (rounds sent errorCount : Nat) :
    sendFrom sends (rounds + 1) sent errorCount =
      match insertVerdict (sends sent).answer (errorCount + 1) with
      | some returned => some ⟨returned, sent + 1⟩
      | none => sendFrom sends rounds (sent + 1) (errorCount + 1) := by
  rw [sendFrom]
  unfold Send.answer
  cases (sends sent).error with
  | none => rfl
  | some error =>
    dsimp only
    rw [insertVerdict]
    split_ifs <;> rfl

/-- A loop that returns reports whether the send succeeded. -/
theorem insertVerdict_answer_some {send : Send} {returned : Bool}
    (h : insertVerdict send.answer errorCount = some returned) :
    returned = true ↔ send.error = none := by
  unfold Send.answer at h
  cases herror : send.error with
  | none =>
    rw [herror] at h
    cases h
    exact iff_of_true rfl rfl
  | some error =>
    rw [herror] at h
    refine iff_of_false (fun hreturned => ?_) nofun
    rw [hreturned] at h
    cases insertVerdict_eq_some_true h

/-- A loop that goes on had an error that is retried. -/
theorem insertVerdict_answer_none {send : Send}
    (h : insertVerdict send.answer errorCount = none) :
    ∃ error, send.error = some error ∧ isRetried error = true := by
  unfold Send.answer at h
  cases herror : send.error with
  | none =>
    rw [herror] at h
    cases h
  | some error =>
    refine ⟨error, rfl, ?_⟩
    by_contra hother
    rw [isRetried, Bool.or_eq_true, not_or] at hother
    rw [herror] at h
    dsimp only at h
    rw [insertVerdict, if_neg hother.1, if_neg hother.2] at h
    cases h

/-- What is known of a loop that ended: it sent the statement within the budget, it
sent it again only after an error that is retried, and it ended well exactly when the
last send succeeded. -/
structure Ended (sends : Nat → Send) (sent : Nat) (run : SendRun) : Prop where
  later : sent < run.sends
  budget : run.sends ≤ 31
  retried : ∀ k, sent ≤ k → k + 1 < run.sends →
    ∃ error, (sends k).error = some error ∧ isRetried error = true
  succeeded : run.succeeded = true ↔ (sends (run.sends - 1)).error = none

/-- A loop that ends with the next send. -/
theorem Ended.now {succeeded : Bool} (hsent : sent ≤ 30)
    (h : succeeded = true ↔ (sends sent).error = none) :
    Ended sends sent ⟨succeeded, sent + 1⟩ where
  later := Nat.lt_succ_self sent
  budget := Nat.succ_le_succ hsent
  retried := fun k hle hlt => absurd (show k + 1 < sent + 1 from hlt) (by omega)
  succeeded := h

/-- A loop that sends the statement once more after an error that is retried. -/
theorem Ended.again {error : Nat} (h : Ended sends (sent + 1) run)
    (herror : (sends sent).error = some error) (hretried : isRetried error = true) :
    Ended sends sent run where
  later := Nat.lt_of_succ_lt h.later
  budget := h.budget
  retried := by
    intro k hle hlt
    by_cases hnow : k = sent
    · rw [hnow]
      exact ⟨error, herror, hretried⟩
    · exact h.retried k (by omega) hlt
  succeeded := h.succeeded

/-- One round: the loop ends with this send, or it goes on within the budget with one
more error. -/
theorem sendFrom_cases (sends : Nat → Send) {sent : Nat} (hsent : sent ≤ 30) :
    (∃ run, Ended sends sent run ∧ ∀ rounds, sendFrom sends (rounds + 1) sent sent = some run) ∨
      (∃ error, (sends sent).error = some error ∧ isRetried error = true) ∧ sent + 1 ≤ 30 ∧
        ∀ rounds, sendFrom sends (rounds + 1) sent sent =
          sendFrom sends rounds (sent + 1) (sent + 1) := by
  cases hverdict : insertVerdict (sends sent).answer (sent + 1) with
  | some returned =>
    refine Or.inl ⟨_, Ended.now hsent (insertVerdict_answer_some hverdict), fun rounds => ?_⟩
    rw [sendFrom_succ, hverdict]
  | none =>
    refine Or.inr ⟨insertVerdict_answer_none hverdict, insertVerdict_eq_none hverdict,
      fun rounds => ?_⟩
    rw [sendFrom_succ, hverdict]

/-- Every error that lets the loop go on is counted, so the count is the number of the
sends, and the rounds that are left of the budget are enough. -/
theorem sendFrom_returns (sends : Nat → Send) {left sent : Nat} (h : sent + left = 30) :
    ∃ run, Ended sends sent run ∧
      ∀ rounds, left < rounds → sendFrom sends rounds sent sent = some run := by
  induction left generalizing sent with
  | zero =>
    rcases sendFrom_cases sends (show sent ≤ 30 by omega) with ⟨run, hended, hrun⟩ | ⟨-, hle, -⟩
    · refine ⟨run, hended, fun rounds hrounds => ?_⟩
      obtain ⟨rounds, rfl⟩ := Nat.exists_eq_succ_of_ne_zero (Nat.ne_of_gt hrounds)
      exact hrun rounds
    · omega
  | succ left ih =>
    rcases sendFrom_cases sends (show sent ≤ 30 by omega) with
      ⟨run, hended, hrun⟩ | ⟨⟨error, herror, hretried⟩, -, hagain⟩
    · refine ⟨run, hended, fun rounds hrounds => ?_⟩
      obtain ⟨rounds, rfl⟩ := Nat.exists_eq_succ_of_ne_zero (show rounds ≠ 0 by omega)
      exact hrun rounds
    · obtain ⟨run, hended, hrun⟩ := ih (show sent + 1 + left = 30 by omega)
      refine ⟨run, hended.again herror hretried, fun rounds hrounds => ?_⟩
      obtain ⟨rounds, rfl⟩ := Nat.exists_eq_succ_of_ne_zero (show rounds ≠ 0 by omega)
      exact (hagain rounds).trans (hrun rounds (by omega))

end Budget

/-- `db_insert` and `db_query` send a statement at most 31 times, whatever the errors and
their order.  They always return: 31 rounds are enough, and more of them change nothing.
They send it again only after a lost connection or a lock, never after a success, and
they report success exactly when the last send succeeded. -/
theorem statement_sent_within_budget {ρ : Type*} (storeResult : Option ρ) (sends : Nat → Send) :
    ∃ run : SendRun,
      (∀ rounds, 31 ≤ rounds →
        dbInsertSends false sends rounds = some (run.succeeded, run.sends) ∧
        dbQuerySends storeResult sends rounds =
          some (if run.succeeded then some storeResult else none, run.sends)) ∧
      1 ≤ run.sends ∧ run.sends ≤ 31 ∧
      (∀ k, k + 1 < run.sends →
        ∃ error ∈ [2013, 2006, 1213, 1205], (sends k).error = some error) ∧
      (run.succeeded = true ↔ (sends (run.sends - 1)).error = none) := by
  obtain ⟨run, hended, hrun⟩ := sendFrom_returns sends (show 0 + 30 = 30 by rfl)
  refine ⟨run, fun rounds hrounds => ?_, hended.later, hended.budget, fun k hlt => ?_,
    hended.succeeded⟩
  · rw [dbQuerySends, dbInsertSends, if_neg (by decide), hrun rounds (by omega)]
    exact ⟨rfl, rfl⟩
  · obtain ⟨error, herror, hretried⟩ := hended.retried k (Nat.zero_le k) hlt
    refine ⟨error, ?_, herror⟩
    simp only [isRetried, isLost, isLocked, Bool.or_eq_true, beq_iff_eq] at hretried
    simp only [List.mem_cons, List.not_mem_nil, or_false]
    omega

/-! ## The effect -/

/-- The two loops do the same. -/
theorem sendFrom_eq_dbInsertFrom (sends : Nat → Send) {left sent : Nat} (h : sent + left = 30) :
    sendFrom sends (left + 1) sent sent =
      some ⟨(dbInsertFrom (fun k => (sends k).answer) (left + 1) sent).returned,
        (dbInsertFrom (fun k => (sends k).answer) (left + 1) sent).sends⟩ := by
  rw [sendFrom_succ, dbInsertFrom_succ]
  cases hverdict : insertVerdict (sends sent).answer (sent + 1) with
  | some returned => rfl
  | none =>
    have hle := insertVerdict_eq_none hverdict
    obtain ⟨left, rfl⟩ := Nat.exists_eq_succ_of_ne_zero (show left ≠ 0 by omega)
    exact sendFrom_eq_dbInsertFrom sends (by omega)

/-- The loop is the `db_insert` whose effect on the data is known. -/
theorem dbInsertSends_eq (sqlReadonly : Bool) (sends : Nat → Send) :
    dbInsertSends sqlReadonly sends 31 =
      some ((dbInsert sqlReadonly fun k => (sends k).answer).returned,
        (dbInsert sqlReadonly fun k => (sends k).answer).sends) := by
  unfold dbInsertSends dbInsert
  cases sqlReadonly with
  | true => rfl
  | false =>
    rw [if_neg (by decide), if_neg (by decide),
      sendFrom_eq_dbInsertFrom sends (show 0 + 30 = 30 by rfl)]
    rfl

end Spine
