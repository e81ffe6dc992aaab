import Spine.Internal.Types

/-!
# Sending a statement until it is answered

`db_insert` of `database/sql.c` sends a statement again when the connection was
lost or when the server reports a lock.  A statement whose connection was lost
may have been applied already, so a statement that is sent twice may be applied
twice.

* The loop.  `dbInsert` follows the answers of the server.  An attempt that
  fails is counted, and the loop ends after 31 of them.
* The effect.  `insertEffect` is what the sends do to the data that the
  statement changes.  `dbInsert_effect` says how often the statement was applied
  when `db_insert` returns `TRUE`: once, and once more for every send that was
  applied before its connection was lost.
-/

namespace Spine

/-! ## The loop -/

/-- The answer to `mysql_query`.  A failure has an error code, whether the
statement was applied all the same, whether `errno` is `EINTR`, and whether
`db_reconnect` finds the server. -/
inductive SendAnswer where
  | ok
  | error (code : Nat) (applied interrupted reconnected : Bool)
  deriving DecidableEq, Repr

/-- The codes of a lost connection. -/
def isLost (code : Nat) : Bool := code == 2013 || code == 2006

/-- The codes of a deadlock and of a lock that timed out. -/
def isLocked (code : Nat) : Bool := code == 1213 || code == 1205

/-- The server applied the statement.  An error other than a lost connection
means that it did not. -/
def SendAnswer.applied : SendAnswer → Bool
  | .ok => true
  | .error code applied _ _ => isLost code && applied

/-- `retry_disconnected_query`, with the count of this attempt. -/
def retryDisconnectedQuery (errorCount : Nat) (interrupted reconnected : Bool) : Bool :=
  if 30 < errorCount then false
  else if interrupted && decide (errorCount ≤ 3) then true
  else reconnected

/-- What `db_insert` does after the answer to an attempt, with the count of the
failed attempts if this one fails: it returns, or it sends the statement again. -/
def insertVerdict (answer : SendAnswer) (errorCount : Nat) : Option Bool :=
  match answer with
  | .ok => some true
  | .error code _ interrupted reconnected =>
    if isLost code then
      if retryDisconnectedQuery errorCount interrupted reconnected then none else some false
    else if isLocked code then
      if 30 < errorCount then some false else none
    else some false

/-- What `db_insert` returns, and the number of times that it sent the
statement. -/
structure InsertRun where
  returned : Bool
  sends : Nat
  deriving DecidableEq, Repr

/-- The loop of `db_insert` after `errorCount` failed attempts, with a bound on
the attempts that are left. -/
def dbInsertFrom (answers : Nat → SendAnswer) : Nat → Nat → InsertRun
  | 0, errorCount => ⟨false, errorCount⟩
  | left + 1, errorCount =>
    match insertVerdict (answers errorCount) (errorCount + 1) with
    | some returned => ⟨returned, errorCount + 1⟩
    | none => dbInsertFrom answers left (errorCount + 1)

/-- `db_insert`. -/
def dbInsert (sqlReadonly : Bool) (answers : Nat → SendAnswer) : InsertRun :=
  if sqlReadonly then ⟨true, 0⟩ else dbInsertFrom answers 31 0

section Loop

variable {answers : Nat → SendAnswer} {left errorCount sends : Nat}

variable (answers left errorCount) in
theorem dbInsertFrom_succ :
    dbInsertFrom answers (left + 1) errorCount =
      match insertVerdict (answers errorCount) (errorCount + 1) with
      | some returned => ⟨returned, errorCount + 1⟩
      | none => dbInsertFrom answers left (errorCount + 1) := rfl

theorem insertVerdict_eq_some_true {answer : SendAnswer}
    (h : insertVerdict answer errorCount = some true) : answer = .ok := by
  unfold insertVerdict at h
  split at h
  · rfl
  · split_ifs at h <;> cases h

/-- The attempt with the number 31 is the last one. -/
theorem insertVerdict_eq_none {answer : SendAnswer}
    (h : insertVerdict answer errorCount = none) : errorCount ≤ 30 := by
  by_contra hlast
  have hfull : 30 < errorCount := by omega
  cases answer with
  | ok => cases h
  | error code applied interrupted reconnected =>
    have hretry : retryDisconnectedQuery errorCount interrupted reconnected = false := if_pos hfull
    simp only [insertVerdict, hretry, if_pos hfull, Bool.false_eq_true, if_false, ite_self] at h
    cases h

/-- A loop that returns `TRUE` ends with a send that succeeds. -/
theorem dbInsertFrom_returned (h : dbInsertFrom answers left errorCount = ⟨true, sends⟩) :
    ∃ last, sends = last + 1 ∧ last < errorCount + left ∧ answers last = .ok := by
  induction left generalizing errorCount with
  | zero => cases h
  | succ left ih =>
    rw [dbInsertFrom_succ] at h
    cases hverdict : insertVerdict (answers errorCount) (errorCount + 1) with
    | some returned =>
      rw [hverdict] at h
      cases h
      exact ⟨errorCount, rfl, by omega, insertVerdict_eq_some_true hverdict⟩
    | none =>
      rw [hverdict] at h
      obtain ⟨last, hsends, hlt, hok⟩ := ih h
      exact ⟨last, hsends, by omega, hok⟩

end Loop

/-! ## The effect -/

section Effect

variable {σ : Type*}

/-- The data after a number of sends, where `apply` is what the statement does
to it. -/
def insertEffect (apply : σ → σ) (answers : Nat → SendAnswer) : Nat → σ → σ
  | 0, data => data
  | sends + 1, data =>
    let data := insertEffect apply answers sends data
    if (answers sends).applied then apply data else data

/-- The number of sends before the last one that were applied although their
connection was lost. -/
def lostApplied (answers : Nat → SendAnswer) (sends : Nat) : Nat :=
  (List.range (sends - 1)).countP fun k => (answers k).applied

theorem insertEffect_eq_iterate (apply : σ → σ) (answers : Nat → SendAnswer) (sends : Nat)
    (data : σ) :
    insertEffect apply answers sends data =
      apply^[(List.range sends).countP fun k => (answers k).applied] data := by
  induction sends with
  | zero => rfl
  | succ sends ih =>
    rw [insertEffect, List.range_succ, List.countP_append, List.countP_singleton, ih]
    split
    · rw [Function.iterate_succ_apply']
    · rfl

/-- How often a statement was applied when `db_insert` returns `TRUE`. -/
structure Applied (apply : σ → σ) (answers : Nat → SendAnswer) (before after : σ) : Prop where
  times : after = apply^[lostApplied answers (dbInsert false answers).sends + 1] before
  bound : lostApplied answers (dbInsert false answers).sends ≤ 30
  once : lostApplied answers (dbInsert false answers).sends = 0 ↔
    ∀ send, send + 1 < (dbInsert false answers).sends → (answers send).applied = false

theorem dbInsert_effect (apply : σ → σ) (answers : Nat → SendAnswer) (data : σ)
    (h : (dbInsert false answers).returned = true) :
    Applied apply answers data
      (insertEffect apply answers (dbInsert false answers).sends data) := by
  obtain ⟨last, hsends, hbound, hok⟩ :=
    dbInsertFrom_returned (show dbInsertFrom answers 31 0 = ⟨true, (dbInsert false answers).sends⟩
      from congrArg (InsertRun.mk · _) h)
  have hlost : lostApplied answers (dbInsert false answers).sends =
      (List.range last).countP fun k => (answers k).applied := by
    rw [hsends]
    rfl
  refine ⟨?_, ?_, ?_⟩
  · rw [hlost, insertEffect_eq_iterate, hsends, List.range_succ, List.countP_append,
      List.countP_singleton, hok]
    rfl
  · have hle := List.countP_le_length (p := fun k => (answers k).applied) (l := List.range last)
    rw [List.length_range] at hle
    omega
  · rw [hlost, List.countP_eq_zero]
    constructor
    · intro hnone send hsend
      exact Bool.eq_false_iff.2 (hnone send (List.mem_range.2 (by omega)))
    · intro hnone send hsend
      rw [hnone send (by have := List.mem_range.1 hsend; omega)]
      exact Bool.false_ne_true

end Effect

end Spine
