import Spine.Database.CactiQuery
import Spine.Database.Insert
import Spine.Poller.Completion

/-!
# What the completion of a device writes

`complete_poll_host` sends up to three statements.  Two of them change what
they find: the UPDATE of the schedule moves the counters of the items on, and
the upsert of `host_errors` adds to the errors of the device.  The third one
sets a column to a value.

Each statement goes through `db_insert`, which sends it again after a lost
connection.  `completion_applied` says what the tables hold when `db_insert`
returns `TRUE`, for every answer of the server: each statement was applied once,
and once more for each send that was applied before its connection was lost.
-/

namespace Spine

open Base.CString

/-! ## The statements -/

/-- The row of a device in `host_errors`. -/
structure HostErrors where
  errors : Int
  localDataIds : Text
  deriving DecidableEq, Repr

/-- The upsert of `host_errors`: a row is inserted, or the errors are added and
the ids are appended. -/
def HostErrors.upsert (values : HostErrors) : Option HostErrors → Option HostErrors
  | none => some values
  | some row =>
    some ⟨row.errors + values.errors, row.localDataIds ++ lit ", " ++ values.localDataIds⟩

/-- The errors of a device.  A device without a row has none. -/
def errorsOf (row : Option HostErrors) : Int := (row.map HostErrors.errors).getD 0

theorem errorsOf_upsert_iterate (values : HostErrors) (n : Nat) (row : Option HostErrors) :
    errorsOf (values.upsert^[n] row) = errorsOf row + n * values.errors := by
  induction n with
  | zero => simp
  | succ n ih =>
    have hone : ∀ row, errorsOf (values.upsert row) = errorsOf row + values.errors := by
      intro row
      cases row with
      | none => exact (Int.zero_add _).symm
      | some row => rfl
    rw [Function.iterate_succ_apply', hone, ih, Nat.cast_succ, Int.add_mul, Int.one_mul,
      Int.add_assoc]

/-- The tables that a completion changes: the items, and the row of the device
in `host_errors`. -/
structure CompletionTables where
  items : List PollerItem
  hostErrors : Option HostErrors

/-- The values of the statements of a completion. -/
structure CompletionStatements where
  schedule : ScheduleUpdate
  hostErrors : HostErrors

/-- What one execution of a statement does.  The polling time is a column that
nothing else here reads. -/
def CompletionWrite.execute (statements : CompletionStatements) :
    CompletionWrite → CompletionTables → CompletionTables
  | .schedule, tables => { tables with items := statements.schedule.apply tables.items }
  | .pollingTime, tables => tables
  | .hostErrors, tables =>
    { tables with hostErrors := statements.hostErrors.upsert tables.hostErrors }

/-- The statements in order, each sent by `db_insert`.  The server answers the
sends of each statement. -/
def executeWrites (statements : CompletionStatements)
    (answers : CompletionWrite → Nat → SendAnswer) :
    List CompletionWrite → CompletionTables → CompletionTables
  | [], tables => tables
  | write :: writes, tables =>
    executeWrites statements answers writes
      (insertEffect (write.execute statements) (answers write)
        (dbInsert false (answers write)).sends tables)

/-! ## The tables -/

section Tables

variable {σ : Type*} (view : CompletionTables → σ) (apply : σ → σ)

/-- A part of the tables that a statement changes by `apply`. -/
theorem insertEffect_view {step : CompletionTables → CompletionTables}
    (h : ∀ tables, view (step tables) = apply (view tables)) (answers : Nat → SendAnswer)
    (sends : Nat) (tables : CompletionTables) :
    view (insertEffect step answers sends tables) =
      insertEffect apply answers sends (view tables) := by
  induction sends with
  | zero => rfl
  | succ sends ih =>
    rw [insertEffect, insertEffect, ← ih]
    split
    · exact h _
    · rfl

theorem insertEffect_id (answers : Nat → SendAnswer) (sends : Nat) (data : σ) :
    insertEffect id answers sends data = data := by
  rw [insertEffect_eq_iterate, Function.iterate_id, id]

variable {statements : CompletionStatements} (answers : CompletionWrite → Nat → SendAnswer)
  {target : CompletionWrite}

/-- Only its own statement changes a part of the tables. -/
theorem executeWrites_view
    (hown : ∀ tables, view (target.execute statements tables) = apply (view tables))
    (hothers : ∀ write ≠ target, ∀ tables, view (write.execute statements tables) = view tables)
    {writes : List CompletionWrite} (hnodup : writes.Nodup) (tables : CompletionTables) :
    view (executeWrites statements answers writes tables) =
      if target ∈ writes then
        insertEffect apply (answers target) (dbInsert false (answers target)).sends (view tables)
      else view tables := by
  induction writes generalizing tables with
  | nil => rfl
  | cons write writes ih =>
    rw [List.nodup_cons] at hnodup
    rw [executeWrites, ih hnodup.2]
    by_cases heq : write = target
    · subst heq
      rw [if_neg hnodup.1, if_pos List.mem_cons_self, insertEffect_view view apply hown]
    · have hsame : view (insertEffect (write.execute statements) (answers write)
          (dbInsert false (answers write)).sends tables) = view tables := by
        rw [insertEffect_view view id (hothers write heq), insertEffect_id]
      rw [hsame]
      simp only [List.mem_cons, Ne.symm heq, false_or]

theorem executeWrites_applied
    (hown : ∀ tables, view (target.execute statements tables) = apply (view tables))
    (hothers : ∀ write ≠ target, ∀ tables, view (write.execute statements tables) = view tables)
    {writes : List CompletionWrite} (hnodup : writes.Nodup) (tables : CompletionTables)
    (hmem : target ∈ writes) (hreturned : (dbInsert false (answers target)).returned = true) :
    Applied apply (answers target) (view tables)
      (view (executeWrites statements answers writes tables)) := by
  rw [executeWrites_view view apply answers hown hothers hnodup, if_pos hmem]
  exact dbInsert_effect apply (answers target) (view tables) hreturned

end Tables

/-- What the tables hold after the writes of a completion: a statement for which
`db_insert` returned `TRUE` was applied, and `Applied` says how often. -/
structure CompletionApplied (statements : CompletionStatements)
    (answers : CompletionWrite → Nat → SendAnswer) (writes : List CompletionWrite)
    (before after : CompletionTables) : Prop where
  schedule : .schedule ∈ writes → (dbInsert false (answers .schedule)).returned = true →
    Applied statements.schedule.apply (answers .schedule) before.items after.items
  hostErrors : .hostErrors ∈ writes → (dbInsert false (answers .hostErrors)).returned = true →
    Applied statements.hostErrors.upsert (answers .hostErrors) before.hostErrors after.hostErrors ∧
      errorsOf after.hostErrors = errorsOf before.hostErrors +
        (lostApplied (answers .hostErrors) (dbInsert false (answers .hostErrors)).sends + 1) *
          statements.hostErrors.errors

/-- For every answer of the server, a statement of a completion that was reported
as written was applied once, and once more for each send that was applied before
its connection was lost. -/
theorem completion_applied (statements : CompletionStatements) (call : CompletionCall)
    (lastPartition updateSchedule : Bool) (answers : CompletionWrite → Nat → SendAnswer)
    (tables : CompletionTables) :
    CompletionApplied statements answers (completionWrites call lastPartition updateSchedule)
      tables
      (executeWrites statements answers (completionWrites call lastPartition updateSchedule)
        tables) := by
  have hnodup := completionWrites_nodup call lastPartition updateSchedule
  refine ⟨fun hmem hreturned => ?_, fun hmem hreturned => ?_⟩
  · refine executeWrites_applied CompletionTables.items statements.schedule.apply answers
      (fun _ => rfl) (fun write hne _ => ?_) hnodup tables hmem hreturned
    cases write with
    | schedule => exact absurd rfl hne
    | pollingTime => rfl
    | hostErrors => rfl
  · have happlied := executeWrites_applied CompletionTables.hostErrors statements.hostErrors.upsert
      answers (fun _ => rfl)
      (fun write hne _ => by
        cases write with
        | schedule => rfl
        | pollingTime => rfl
        | hostErrors => exact absurd rfl hne)
      hnodup tables hmem hreturned
    refine ⟨happlied, ?_⟩
    rw [happlied.times, errorsOf_upsert_iterate, Nat.cast_succ]

/-- The connection is lost after the statement was applied, and the server is
reached again. -/
private def lostOnce (send : Nat) : SendAnswer :=
  if send = 0 then .error 2013 true false true else .ok

/-- An item that is polled every ten minutes by a poller with an interval of
five minutes. -/
private def slowItem (rrdNextStep : Int) : PollerItem :=
  ⟨1, lit "load", 7, 1, 600, rrdNextStep, 161⟩

private def slowStatements : CompletionStatements := ⟨⟨300, 7, some 1⟩, ⟨2, lit "5, 6"⟩⟩

/-- A lost send that was applied moves the schedule on twice, and counts the
errors twice. -/
theorem completion_applied_twice :
    (dbInsert false lostOnce).returned = true ∧
      (executeWrites slowStatements (fun _ => lostOnce)
        (completionWrites ⟨false, false, 2⟩ true true) ⟨[slowItem 600], none⟩).items =
          [slowItem 0] ∧
      slowStatements.schedule.apply [slowItem 600] = [slowItem 300] ∧
      errorsOf (executeWrites slowStatements (fun _ => lostOnce)
        (completionWrites ⟨false, false, 2⟩ true true) ⟨[slowItem 600], none⟩).hostErrors = 4 := by
  decide

end Spine
