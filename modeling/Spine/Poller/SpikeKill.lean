import Spine.Base.Interleaving
import Spine.Poller.Items
import Spine.Poller.ReindexPoll

/-!
# The spike mark of the partitions of a device

Every partition of a device runs `poll_host_reindex` on the same rows of
`poller_reindex`.  The first partition also writes: when an assertion fails, it
replaces the stored value.  A partition that reads the rows after that write
compares with the new value.

The partitions are threads over the shared table, in the sense of
`Base.Interleaving`.  A partition takes four kinds of steps.  It reads the
rows, it polls the value of a row, it evaluates the row, and it writes the new
value.  `partitionSteps_loop` connects the steps to the loop of
`poll_host_reindex`.

The argument has three parts.

* The copy.  The other columns of a row never change, so a partition that
  reads the rows while the first value is still stored has the first row as
  its copy, and keeps it until it evaluates the row (`CopyInv`).
* The evaluation.  With that copy, an uptime below the stored value sets the
  spike mark, which is never cleared (`MarkInv`).
* The items.  `collectPollItems_suppressed` takes the mark to the results.

`spike_killed_in_every_partition` puts them together, and
`spike_missed_after_write` is the run in which the second partition reads the
rows too late.
-/

namespace Spine

open Base.CString Base.Interleaving

/-! ## The partitions -/

/-- Where a partition is in `poll_host_reindex`: before its query, at the top
of its loop, after the poll of a row, or before the write of a value.  `rows`
are the rows still to come, and `index` is the position of the current one. -/
inductive PartitionPhase where
  | waiting
  | ready (index : Nat) (rows : List ReindexRow)
  | polled (index : Nat) (reindex : Reindex) (value : PolledValue) (rows : List ReindexRow)
  | writing (index : Nat) (update : ReindexUpdate) (rows : List ReindexRow)

/-- A partition, and the history of the values that it evaluated. -/
structure Partition where
  phase : PartitionPhase
  loop : ReindexLoop
  evaluated : List (Nat × Option Text)

/-- The steps, with what the environment decides. -/
inductive PartitionLabel where
  | load
  | poll (answers : RowAnswers)
  | evaluate (written : Bool)
  | update (updated : Bool)

/-- The poll of a row, or its skip. -/
def Partition.poll (env : ReindexEnv) (answers : RowAnswers) (p : Partition) (index : Nat)
    (row : ReindexRow) (rows : List ReindexRow) : Partition :=
  let reindex := loadReindexItem row
  let loop := p.loop.enter reindex
  if loop.previousFailure then { p with phase := .ready (index + 1) rows, loop := loop }
  else
    let (value, state) := pollReindexAction env.cfg answers reindex loop.state
    { p with phase := .polled index reindex value rows, loop := { loop with state := state } }

/-- The evaluation of a row.  The write of its value is a step of its own. -/
def Partition.evaluate (env : ReindexEnv) (thread : Nat) (written : Bool) (p : Partition)
    (index : Nat) (reindex : Reindex) (value : Option Text) (rows : List ReindexRow) : Partition :=
  let (loop, _) := evaluateRow env thread reindex written p.loop (.value value)
  let phase :=
    match (evaluateReindexAssertion env thread reindex value written).update with
    | some update => .writing index update rows
    | none => .ready (index + 1) rows
  { phase := phase, loop := loop, evaluated := p.evaluated ++ [(index, value)] }

/-- The steps of a partition.  No step follows the end of the process. -/
def partitionStep (env : ReindexEnv) (server : ReindexServer) :
    Step Nat PartitionLabel (List ReindexRow) Partition :=
  fun thread label table p =>
    match label with
    | .load =>
      match p.phase with
      | .waiting => some (table, { p with phase := .ready 0 table })
      | _ => none
    | .poll answers =>
      match p.phase with
      | .ready index (row :: rows) => some (table, p.poll env answers index row rows)
      | _ => none
    | .evaluate written =>
      match p.phase with
      | .polled index _ .unavailable rows =>
        some (table, { p with phase := .ready (index + 1) rows })
      | .polled index reindex (.value value) rows =>
        some (table, p.evaluate env thread written index reindex value rows)
      | _ => none
    | .update updated =>
      match p.phase with
      | .writing index update rows =>
        some (table.map (server.write (some update) updated),
          { p with phase := .ready (index + 1) rows })
      | _ => none

/-- All partitions wait, each with its own device. -/
def startPartitions (devices : Nat → SnmpDevice) (table : List ReindexRow) :
    Base.Interleaving.Config Nat (List ReindexRow) Partition :=
  ⟨table, fun i => ⟨.waiting, .start (devices i), []⟩⟩

/-- A poll and an evaluation are the body of the loop, whatever the other
partitions do in between. -/
theorem partitionSteps_loop {env : ReindexEnv} {server : ReindexServer} {thread : Nat}
    {answers : RowAnswers} {written : Bool} {table₁ table₂ table₃ table₄ : List ReindexRow}
    {p q r : Partition} {index : Nat} {row : ReindexRow} {rows : List ReindexRow}
    (hphase : p.phase = .ready index (row :: rows))
    (hpoll : partitionStep env server thread (.poll answers) table₁ p = some (table₂, q))
    (hevaluate : partitionStep env server thread (.evaluate written) table₃ q = some (table₄, r)) :
    r.loop = (reindexRowStep env thread p.loop ⟨row, answers, written⟩).1 := by
  unfold partitionStep at hpoll hevaluate
  dsimp only at hpoll hevaluate
  rw [hphase] at hpoll
  cases hpoll
  unfold reindexRowStep Partition.poll at *
  dsimp only at *
  by_cases hskip : (p.loop.enter (loadReindexItem row)).previousFailure = true
  · rw [if_pos hskip] at hevaluate
    cases hevaluate
  · rw [if_neg hskip] at hevaluate ⊢
    dsimp only at hevaluate
    cases hvalue : (pollReindexAction env.cfg answers (loadReindexItem row)
        (p.loop.enter (loadReindexItem row)).state).1 with
    | died =>
      rw [hvalue] at hevaluate
      cases hevaluate
    | unavailable =>
      rw [hvalue] at hevaluate
      cases hevaluate
      rfl
    | value v =>
      rw [hvalue] at hevaluate
      cases hevaluate
      rfl

/-! ## The evaluation -/

/-- An uptime that was read and is below the stored value, as numbers.  The
comparison of the source saturates at the largest signed number of 64 bits. -/
structure ReadsBelow (stored v : Text) : Prop where
  available : isUnavailable (some v) = false
  nonneg : 0 ≤ strtol v
  below : strtol v < strtol stored
  small : strtol v < llongMax

theorem ReadsBelow.atoll_lt {stored v : Text} (h : ReadsBelow stored v) :
    atoll v < atoll stored := by
  have hnonneg := h.nonneg
  have hbelow := h.below
  have hsmall := h.small
  unfold atoll
  simp only [llongMax, llongMin] at *
  omega

/-- A row with the operator `<` and a stored value that fits its array. -/
structure UptimeRow (row : ReindexRow) (stored : Text) : Prop where
  op : row.op = some (lit "<")
  assertValue : row.assertValue = some stored
  length : stored.length ≤ 99

theorem UptimeRow.loaded_op {row : ReindexRow} {stored : Text} (h : UptimeRow row stored) :
    (loadReindexItem row).op = lit "<" := by
  show snprintfS 4 (row.op.getD []) = lit "<"
  rw [h.op]
  rfl

theorem UptimeRow.loaded_assertValue {row : ReindexRow} {stored : Text}
    (h : UptimeRow row stored) : (loadReindexItem row).assertValue = stored := by
  have hlength := h.length
  show snprintfS 100 (row.assertValue.getD []) = stored
  rw [h.assertValue]
  apply snprintfS_eq_self
  show stored.length < 100
  omega

/-- An uptime below the stored value fails the assertion. -/
theorem UptimeRow.failed {row : ReindexRow} {stored v : Text} (h : UptimeRow row stored)
    (hbelow : ReadsBelow stored v) :
    reindexAssertionFailed (loadReindexItem row) (some v) = true := by
  rw [reindexAssertionFailed_lt hbelow.available h.loaded_op, h.loaded_assertValue]
  refine ⟨?_, hbelow.atoll_lt⟩
  intro hzero
  -- No uptime is below a stored zero.
  have hlt := hbelow.atoll_lt
  have hnonneg := hbelow.nonneg
  have hsmall := hbelow.small
  rw [hzero, show atoll (lit "0") = 0 by decide] at hlt
  unfold atoll at hlt
  simp only [llongMax, llongMin] at *
  omega

theorem UptimeRow.marksSpike {row : ReindexRow} {stored : Text} (h : UptimeRow row stored) :
    (loadReindexItem row).marksSpike = true := by
  unfold Reindex.marksSpike
  rw [h.loaded_op]
  rfl

/-! ## The copy -/

/-- The partition has yet to read the rows, or its copy of the row at `k` is
`row` as long as the row is to come. -/
def CopyInv (k : Nat) (row : ReindexRow) : PartitionPhase → Prop
  | .waiting => True
  | .ready index rows => ∀ j, index + j = k → rows[j]? = some row
  | .polled index reindex _ rows =>
    (index = k → reindex = loadReindexItem row) ∧ ∀ j, index + 1 + j = k → rows[j]? = some row
  | .writing index _ rows => ∀ j, index + 1 + j = k → rows[j]? = some row

/-- An uptime below the stored value has set the spike mark. -/
def MarkInv (k : Nat) (stored : Text) (p : Partition) : Prop :=
  ∀ v, (k, some v) ∈ p.evaluated → ReadsBelow stored v → p.loop.spikeKill = true

/-- The row at `k` keeps all its columns but the stored value. -/
def StoredInv (k : Nat) (row : ReindexRow) (table : List ReindexRow) : Prop :=
  ∃ value, table[k]? = some { row with assertValue := value }

/-- The rows are read while the first value is still stored. -/
def LoadsFirst (k : Nat) (stored : Text)
    (c : Base.Interleaving.Config Nat (List ReindexRow) Partition) (e : Nat × PartitionLabel) :
    Prop :=
  e.2 = .load → c.shared[k]?.bind ReindexRow.assertValue = some stored

theorem ReindexServer.write_columns (server : ReindexServer) (update : Option ReindexUpdate)
    (updated : Bool) (row : ReindexRow) :
    ∃ value, server.write update updated row = { row with assertValue := value } := by
  unfold ReindexServer.write
  split
  · split
    · rename_i update _
      cases server.applyUpdate_cases update row with
      | inl h => exact ⟨row.assertValue, h⟩
      | inr h =>
        obtain ⟨value, _, h⟩ := h
        exact ⟨_, h⟩
    · exact ⟨row.assertValue, rfl⟩
  · exact ⟨row.assertValue, rfl⟩

theorem StoredInv.write {k : Nat} {row : ReindexRow} {table : List ReindexRow}
    (h : StoredInv k row table) (server : ReindexServer) (update : Option ReindexUpdate)
    (updated : Bool) : StoredInv k row (table.map (server.write update updated)) := by
  obtain ⟨value, hvalue⟩ := h
  obtain ⟨next, hnext⟩ := server.write_columns update updated { row with assertValue := value }
  refine ⟨next, ?_⟩
  rw [List.getElem?_map, hvalue, Option.map_some, hnext]

section Steps

variable {env : ReindexEnv} {k index : Nat} {row : ReindexRow} {stored : Text} {p : Partition}
  {rows : List ReindexRow}

/-- The copy that a partition makes is the first row. -/
theorem CopyInv.load {table : List ReindexRow} (hrow : UptimeRow row stored)
    (htable : StoredInv k row table)
    (hfirst : table[k]?.bind ReindexRow.assertValue = some stored) :
    CopyInv k row (.ready 0 table) := by
  obtain ⟨value, hvalue⟩ := htable
  rw [hvalue] at hfirst
  have hvalue' : value = row.assertValue := hfirst.trans hrow.assertValue.symm
  intro j hj
  rw [show j = k by omega, hvalue, hvalue']

/-- The rows after the current one. -/
theorem CopyInv.tail {current : ReindexRow} (h : CopyInv k row (.ready index (current :: rows))) :
    ∀ j, index + 1 + j = k → rows[j]? = some row := by
  intro j hj
  have hnext := h (j + 1) (by omega)
  rwa [List.getElem?_cons_succ] at hnext

theorem CopyInv.poll {current : ReindexRow} (answers : RowAnswers)
    (h : CopyInv k row (.ready index (current :: rows))) :
    CopyInv k row (p.poll env answers index current rows).phase := by
  unfold Partition.poll
  dsimp only
  split
  · exact h.tail
  · refine ⟨fun hindex => ?_, h.tail⟩
    have hcurrent := h 0 (by omega)
    rw [List.getElem?_cons_zero, Option.some.injEq] at hcurrent
    rw [hcurrent]

theorem MarkInv.poll {current : ReindexRow} (answers : RowAnswers) (h : MarkInv k stored p) :
    MarkInv k stored (p.poll env answers index current rows) := by
  have henter := p.loop.enter_spikeKill (loadReindexItem current)
  unfold Partition.poll
  dsimp only
  split
  · intro v hv hbelow
    exact henter.trans (h v hv hbelow)
  · intro v hv hbelow
    exact henter.trans (h v hv hbelow)

theorem CopyInv.evaluate {thread : Nat} {written : Bool} {reindex : Reindex} {value : Option Text}
    (h : ∀ j, index + 1 + j = k → rows[j]? = some row) :
    CopyInv k row (p.evaluate env thread written index reindex value rows).phase := by
  unfold Partition.evaluate
  dsimp only
  split
  · exact h
  · exact h

/-- The mark is set when the row at `k` is evaluated, and kept afterwards. -/
theorem MarkInv.evaluate {thread : Nat} {written : Bool} {reindex : Reindex}
    {value : Option Text} (hrow : UptimeRow row stored) (h : MarkInv k stored p)
    (hcopy : index = k → reindex = loadReindexItem row) :
    MarkInv k stored (p.evaluate env thread written index reindex value rows) := by
  intro v hv hbelow
  show (p.loop.spikeKill ||
    (evaluateReindexAssertion env thread reindex value written).spikeKill) = true
  rw [Bool.or_eq_true]
  cases List.mem_append.1 hv with
  | inl hbefore => exact Or.inl (h v hbefore hbelow)
  | inr hnow =>
    obtain ⟨hindex, hvalue⟩ := Prod.mk.inj (List.mem_singleton.1 hnow)
    rw [evaluateReindexAssertion_spikeKill, ← hvalue, hcopy hindex.symm, hrow.failed hbelow,
      hrow.marksSpike]
    exact Or.inr rfl

end Steps

/-- One step of a partition keeps the row and the invariant of the partition,
when it does not read the rows too late. -/
theorem partitionStep_inv {env : ReindexEnv} {server : ReindexServer} {thread k : Nat}
    {label : PartitionLabel} {row : ReindexRow} {stored : Text} {table table' : List ReindexRow}
    {p p' : Partition} (hrow : UptimeRow row stored) (htable : StoredInv k row table)
    (hcopy : CopyInv k row p.phase) (hmark : MarkInv k stored p)
    (hfirst : label = .load → table[k]?.bind ReindexRow.assertValue = some stored)
    (h : partitionStep env server thread label table p = some (table', p')) :
    StoredInv k row table' ∧ CopyInv k row p'.phase ∧ MarkInv k stored p' := by
  unfold partitionStep at h
  cases label with
  | load =>
    dsimp only at h
    split at h
    · cases h
      exact ⟨htable, CopyInv.load hrow htable (hfirst rfl), hmark⟩
    · cases h
  | poll answers =>
    dsimp only at h
    split at h
    · rename_i hphase
      cases h
      rw [hphase] at hcopy
      exact ⟨htable, hcopy.poll answers, hmark.poll answers⟩
    · cases h
  | evaluate written =>
    dsimp only at h
    split at h
    · rename_i hphase
      cases h
      rw [hphase] at hcopy
      exact ⟨htable, hcopy.2, hmark⟩
    · rename_i hphase
      cases h
      rw [hphase] at hcopy
      exact ⟨htable, CopyInv.evaluate hcopy.2, hmark.evaluate hrow hcopy.1⟩
    · cases h
  | update updated =>
    dsimp only at h
    split at h
    · rename_i hphase
      cases h
      rw [hphase] at hcopy
      exact ⟨htable.write server _ updated, hcopy, hmark⟩
    · cases h

/-! ## Runs -/

/-- The invariant of a configuration. -/
structure SpikeInv (k : Nat) (row : ReindexRow) (stored : Text)
    (c : Base.Interleaving.Config Nat (List ReindexRow) Partition) : Prop where
  table : StoredInv k row c.shared
  copy : ∀ i, CopyInv k row (c.locals i).phase
  mark : ∀ i, MarkInv k stored (c.locals i)

theorem spikeInv_step {env : ReindexEnv} {server : ReindexServer} {k : Nat} {row : ReindexRow}
    {stored : Text} (hrow : UptimeRow row stored)
    (c : Base.Interleaving.Config Nat (List ReindexRow) Partition) (e : Nat × PartitionLabel)
    (c' : Base.Interleaving.Config Nat (List ReindexRow) Partition) (hinv : SpikeInv k row stored c)
    (hfirst : LoadsFirst k stored c e) (h : stepAt (partitionStep env server) c e = some c') :
    SpikeInv k row stored c' := by
  obtain ⟨table, p, hstep, rfl, rfl, hothers⟩ := stepAt_eq_some h
  obtain ⟨htable, hcopy, hmark⟩ :=
    partitionStep_inv hrow hinv.table (hinv.copy e.1) (hinv.mark e.1) hfirst hstep
  exact ⟨htable,
    forall_locals_of_frame (P := fun _ p => CopyInv k row p.phase) hothers hcopy hinv.copy,
    forall_locals_of_frame (P := fun _ p => MarkInv k stored p) hothers hmark hinv.mark⟩

/-- In every run in which the partitions read the rows before the new value is
stored, each partition that evaluates an uptime below the first value sets
the spike mark, and its collection leaves no number that stands alone. -/
theorem spike_killed_in_every_partition (env : ReindexEnv) (server : ReindexServer)
    (devices : Nat → SnmpDevice) (table : List ReindexRow) (k : Nat) (row : ReindexRow)
    (stored : Text) (trace : List (Nat × PartitionLabel))
    (c : Base.Interleaving.Config Nat (List ReindexRow) Partition)
    (hk : table[k]? = some row) (hrow : UptimeRow row stored)
    (hrun : run (partitionStep env server) (startPartitions devices table) trace = some c)
    (hloads : StepsMeet (partitionStep env server) (LoadsFirst k stored)
      (startPartitions devices table) trace) :
    ∀ i v, (k, some v) ∈ (c.locals i).evaluated → ReadsBelow stored v →
      (c.locals i).loop.spikeKill = true ∧
        ∀ (itemEnv : ItemEnv) (device : SnmpDevice) (items : List Target) (final : ItemLoop)
          (rows : Nat), itemEnv.spikeKill = (c.locals i).loop.spikeKill →
          (∀ item ∈ items, item.result = undefinedText) →
          collectPollItems itemEnv device items = some (final, rows) →
          ∀ item ∈ final.items, item.result = undefinedText ∨ (58 : UInt8) ∈ item.result := by
  have hstart : SpikeInv k row stored (startPartitions devices table) :=
    ⟨⟨row.assertValue, hk⟩, fun _ => trivial, fun _ v hv => by cases hv⟩
  have hinv : SpikeInv k row stored c :=
    run_invariant_of_steps (spikeInv_step hrow) hstart hloads hrun
  intro i v hv hbelow
  have hspike := hinv.mark i v hv hbelow
  refine ⟨hspike, ?_⟩
  intro itemEnv device items final rows henv hitems hfinal
  exact collectPollItems_suppressed (henv.trans hspike) hitems hfinal

/-- A device whose stored uptime is 10000 hundredths of a second. -/
private def rebootRow : ReindexRow :=
  ⟨some 7, some 0, some (lit "<"), some (lit "10000"), some sysUpTimeOid⟩

/-- The agent has been up for fifty seconds. -/
private def rebootAnswers : RowAnswers where
  engineTime := ⟨true, true, true,
    ⟨.success, some ⟨0, [⟨some [1, 3, 6, 1], .data (some (lit "50"))⟩]⟩, false⟩⟩
  sysUpTime := ⟨true, true, true, ⟨.timeout, none, false⟩⟩
  object := ⟨true, true, true, ⟨.timeout, none, false⟩⟩
  root := none
  walk := []
  script := ⟨fun _ => true, fun _ => true, true, .timeout, none⟩
  php := ⟨0, -1, fun _ => ⟨false, 0, false, false, .timeout, false, []⟩⟩

private def rebootStart : Base.Interleaving.Config Nat (List ReindexRow) Partition :=
  startPartitions (fun _ => ⟨true, false⟩) [rebootRow]

/-- Both partitions read the row before the first one writes. -/
private def earlyTrace : List (Nat × PartitionLabel) :=
  [(1, .load), (2, .load), (1, .poll rebootAnswers), (1, .evaluate true), (1, .update true),
    (2, .poll rebootAnswers), (2, .evaluate true)]

/-- The second partition reads the row after the first one wrote. -/
private def lateTrace : List (Nat × PartitionLabel) :=
  [(1, .load), (1, .poll rebootAnswers), (1, .evaluate true), (1, .update true), (2, .load),
    (2, .poll rebootAnswers), (2, .evaluate true)]

private theorem rebootRow_uptimeRow : UptimeRow rebootRow (lit "10000") := ⟨rfl, rfl, by decide⟩

private theorem rebootUptime_below : ReadsBelow (lit "10000") (lit "5000") :=
  ⟨by decide, by decide, by decide, by decide⟩

theorem spike_killed_in_both_partitions :
    ∃ c, run (partitionStep .plain .plain) rebootStart earlyTrace = some c ∧
      (c.locals 1).loop.spikeKill = true ∧ (c.locals 2).loop.spikeKill = true := by
  have hevaluated : (run (partitionStep .plain .plain) rebootStart earlyTrace).map
      (fun c => ((c.locals 1).evaluated, (c.locals 2).evaluated)) =
        some ([(0, some (lit "5000"))], [(0, some (lit "5000"))]) := by decide
  obtain ⟨c, hrun, hc⟩ := Option.map_eq_some_iff.1 hevaluated
  obtain ⟨hfirst, hsecond⟩ := Prod.mk.inj hc
  have hloads : StepsMeet (partitionStep .plain .plain) (LoadsFirst 0 (lit "10000")) rebootStart
      earlyTrace := by
    refine ⟨fun _ => rfl, fun d hd => ?_⟩
    cases hd
    refine ⟨fun _ => rfl, fun d _ => stepsMeet_of_labels (fun e he c hload => ?_) d⟩
    -- The rest of the trace reads no rows.
    simp only [List.mem_cons, List.not_mem_nil, or_false] at he
    rcases he with rfl | rfl | rfl | rfl | rfl <;> cases hload
  have hspike := spike_killed_in_every_partition .plain .plain (fun _ => ⟨true, false⟩) [rebootRow]
    0 rebootRow (lit "10000") earlyTrace c rfl rebootRow_uptimeRow hrun hloads
  refine ⟨c, hrun, (hspike 1 (lit "5000") ?_ rebootUptime_below).1,
    (hspike 2 (lit "5000") ?_ rebootUptime_below).1⟩
  · rw [hfirst]
    exact List.mem_singleton.2 rfl
  · rw [hsecond]
    exact List.mem_singleton.2 rfl

/-- The second partition compares the uptime with itself, and keeps the spike. -/
theorem spike_missed_after_write :
    UptimeRow rebootRow (lit "10000") ∧ ReadsBelow (lit "10000") (lit "5000") ∧
    ∃ c, run (partitionStep .plain .plain) rebootStart lateTrace = some c ∧
      (0, some (lit "5000")) ∈ (c.locals 1).evaluated ∧
      (0, some (lit "5000")) ∈ (c.locals 2).evaluated ∧
      (c.locals 1).loop.spikeKill = true ∧ (c.locals 2).loop.spikeKill = false := by
  refine ⟨rebootRow_uptimeRow, rebootUptime_below, ?_⟩
  have hone : (run (partitionStep .plain .plain) rebootStart lateTrace).map
      (fun c => ((c.locals 1).evaluated, (c.locals 1).loop.spikeKill)) =
        some ([(0, some (lit "5000"))], true) := by decide
  have htwo : (run (partitionStep .plain .plain) rebootStart lateTrace).map
      (fun c => ((c.locals 2).evaluated, (c.locals 2).loop.spikeKill)) =
        some ([(0, some (lit "5000"))], false) := by decide
  obtain ⟨c, hrun, hc⟩ := Option.map_eq_some_iff.1 hone
  rw [hrun, Option.map_some, Option.some.injEq] at htwo
  obtain ⟨hfirst, hmark⟩ := Prod.mk.inj hc
  obtain ⟨hsecond, hmiss⟩ := Prod.mk.inj htwo
  refine ⟨c, hrun, ?_, ?_, hmark, hmiss⟩
  · rw [hfirst]
    exact List.mem_singleton.2 rfl
  · rw [hsecond]
    exact List.mem_singleton.2 rfl

end Spine
