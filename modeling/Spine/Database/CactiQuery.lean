import Spine.Internal.Types
import Mathlib.Data.List.Sort

/-!
# The statements of a poll

`database/cacti_query.c` writes the SQL text of a poll.  A statement that
the model runs is kept as the record of its clauses, and its meaning on a
table is a function of that record.  The three texts of the output INSERT are
kept as texts, because the writer measures and concatenates them.

* `PollerItem` is a row of `poller_item`, with the columns that the clauses
  test.  A table is a list of rows in the order in which the server reads
  them.
* `ItemQuery` is the SELECT that `poller_item_query` writes, and
  `ItemQuery.rows` is its result.
* `ScheduleUpdate` is the UPDATE of the schedule, and `ScheduleUpdate.apply`
  is its effect.

The `agents` and `due_agents` queries of the source are written and never
read, so they are left out.
-/

namespace Spine

open Base.CString

/-! ## Rows and clauses -/

/-- A row of `poller_item`.  `local_data_id` and `rrd_name` are its key. -/
structure PollerItem where
  localDataId : Int
  rrdName : Text
  hostId : Int
  pollerId : Int
  rrdStep : Int
  rrdNextStep : Int
  snmpPort : Int
  deriving DecidableEq, Repr

/-- The condition `rrd_next_step <= 0`. -/
def PollerItem.due (row : PollerItem) : Bool := decide (row.rrdNextStep ≤ 0)

/-- The clause `LIMIT offset, count`. -/
structure Limits where
  offset : Nat
  count : Nat
  deriving DecidableEq, Repr

/-- What a LIMIT clause keeps of a result; no clause keeps all of it. -/
def applyLimits {α : Type*} (limits : Option Limits) (rows : List α) : List α :=
  match limits with
  | none => rows
  | some l => (rows.drop l.offset).take l.count

/-- `poller_query_filter_t`. -/
structure PollerQueryFilter where
  hostId : Int
  limits : Option Limits
  dueOnly : Bool
  deriving DecidableEq, Repr

/-- The clauses of a SELECT on `poller_item`. -/
structure ItemQuery where
  hostId : Int
  pollerId : Option Int
  dueOnly : Bool
  orderByPort : Bool
  limits : Option Limits
  deriving DecidableEq, Repr

/-- The condition on `poller_id`, which a poller with id 0 leaves out. -/
def Config.pollerClause (cfg : Config) : Option Int :=
  if cfg.pollerId ≠ 0 then some cfg.pollerId else none

/-- `poller_item_query`. -/
def pollerItemQuery (cfg : Config) (filter : PollerQueryFilter) : ItemQuery where
  hostId := filter.hostId
  pollerId := cfg.pollerClause
  dueOnly := filter.dueOnly
  orderByPort := decide (cfg.totalSnmpPorts ≠ 1)
  limits := filter.limits

/-- The WHERE condition. -/
def ItemQuery.selects (query : ItemQuery) (row : PollerItem) : Bool :=
  decide (row.hostId = query.hostId) &&
    query.pollerId.all (fun p => decide (row.pollerId = p)) &&
    (!query.dueOnly || row.due)

/-- The selected rows in result order, before the LIMIT clause.  Rows with
the same port keep the order in which the server reads them. -/
def ItemQuery.ordered (query : ItemQuery) (table : List PollerItem) : List PollerItem :=
  let selected := table.filter query.selects
  if query.orderByPort then
    selected.mergeSort (fun a b => decide (a.snmpPort ≤ b.snmpPort))
  else
    selected

/-- The result of the query. -/
def ItemQuery.rows (query : ItemQuery) (table : List PollerItem) : List PollerItem :=
  applyLimits query.limits (query.ordered table)

/-- The same query without its LIMIT clause. -/
def ItemQuery.unlimited (query : ItemQuery) : ItemQuery := { query with limits := none }

/-- The order of the result does not change how many rows it has. -/
theorem ItemQuery.unlimited_rows_length (query : ItemQuery) (table : List PollerItem) :
    (query.unlimited.rows table).length = table.countP query.selects := by
  show (query.ordered table).length = _
  rw [ItemQuery.ordered]
  split
  · rw [List.length_mergeSort, List.countP_eq_length_filter]
  · rw [List.countP_eq_length_filter]

/-! ## The schedule -/

/-- The value that the schedule UPDATE gives to `rrd_next_step`. -/
def nextStep (interval rrdStep rrdNextStep : Int) : Int :=
  if rrdStep = interval then 0
  else if rrdNextStep - interval < 0 then rrdStep - interval
  else rrdNextStep - interval

/-- The UPDATE of the schedule. -/
structure ScheduleUpdate where
  interval : Int
  hostId : Int
  pollerId : Option Int
  deriving DecidableEq, Repr

/-- The WHERE condition of the UPDATE. -/
def ScheduleUpdate.selects (update : ScheduleUpdate) (row : PollerItem) : Bool :=
  decide (row.hostId = update.hostId) &&
    update.pollerId.all (fun p => decide (row.pollerId = p))

/-- The effect of the UPDATE on one row. -/
def ScheduleUpdate.applyRow (update : ScheduleUpdate) (row : PollerItem) : PollerItem :=
  if update.selects row then
    { row with rrdNextStep := nextStep update.interval row.rrdStep row.rrdNextStep }
  else
    row

/-- The effect of the UPDATE on a table. -/
def ScheduleUpdate.apply (update : ScheduleUpdate) (table : List PollerItem) :
    List PollerItem :=
  table.map update.applyRow

/-! ## The prepared statements -/

/-- `poller_queries_t`.  `reindex` is the device whose `poller_reindex` rows
are read. -/
structure PollerQueries where
  items : ItemQuery
  dueItems : ItemQuery
  reindex : Int
  schedule : ScheduleUpdate
  output : Text
  boostOutput : Text
  suffix : Text

def outputPrefix : Text :=
  lit "INSERT INTO poller_output (local_data_id, rrd_name, time, output) VALUES"

def boostOutputPrefix : Text :=
  lit "INSERT INTO poller_output_boost (local_data_id, rrd_name, time, output) VALUES"

def outputSuffix : Text := lit " ON DUPLICATE KEY UPDATE output=VALUES(output)"

theorem outputPrefix_length : outputPrefix.length = 72 := by decide

theorem boostOutputPrefix_length : boostOutputPrefix.length = 78 := by decide

theorem outputSuffix_length : outputSuffix.length = 46 := by decide

/-- The LIMIT clause of a worker.  `none` is the call of `die`. -/
def itemLimits (hostThread hostDataIds : Nat) : Option (Option Limits) :=
  if 0 < hostDataIds then
    if hostThread < 1 then none
    else some (some ⟨hostDataIds * (hostThread - 1), hostDataIds⟩)
  else
    some none

/-- `poller_prepare_queries`.  `none` is the call of `die`. -/
def pollerPrepareQueries (cfg : Config) (hostId : Int) (hostThread hostDataIds : Nat) :
    Option PollerQueries := do
  let limits ← itemLimits hostThread hostDataIds
  some {
    items := pollerItemQuery cfg ⟨hostId, limits, false⟩
    dueItems := pollerItemQuery cfg ⟨hostId, limits, decide (cfg.activeProfiles ≠ 1)⟩
    reindex := hostId
    schedule := ⟨cfg.pollerInterval, hostId, cfg.pollerClause⟩
    output := snprintfS BUFSIZE outputPrefix
    boostOutput := snprintfS BUFSIZE boostOutputPrefix
    suffix := snprintfS BUFSIZE outputSuffix }

theorem pollerPrepareQueries_eq_some {cfg : Config} {hostId : Int} {hostThread hostDataIds : Nat}
    {queries : PollerQueries}
    (h : pollerPrepareQueries cfg hostId hostThread hostDataIds = some queries) :
    ∃ limits, itemLimits hostThread hostDataIds = some limits ∧
      queries = {
        items := pollerItemQuery cfg ⟨hostId, limits, false⟩
        dueItems := pollerItemQuery cfg ⟨hostId, limits, decide (cfg.activeProfiles ≠ 1)⟩
        reindex := hostId
        schedule := ⟨cfg.pollerInterval, hostId, cfg.pollerClause⟩
        output := outputPrefix
        boostOutput := boostOutputPrefix
        suffix := outputSuffix } := by
  simp only [pollerPrepareQueries, Option.bind_eq_bind, Option.bind_eq_some_iff,
    Option.some.injEq] at h
  obtain ⟨limits, hlimits, rfl⟩ := h
  refine ⟨limits, hlimits, ?_⟩
  rw [snprintfS_eq_self (by rw [outputPrefix_length]; decide),
    snprintfS_eq_self (by rw [boostOutputPrefix_length]; decide),
    snprintfS_eq_self (by rw [outputSuffix_length]; decide)]

/-- The query that `select_poll_items` runs. -/
def selectPollItemsQuery (cfg : Config) (queries : PollerQueries) : ItemQuery :=
  if cfg.pollerInterval = 0 then queries.items else queries.dueItems

end Spine
