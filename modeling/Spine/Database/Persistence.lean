import Spine.Base.Batching
import Spine.Base.SqlLiteral
import Spine.Database.Sql
import Spine.Database.CactiQuery

/-!
# Writing the results of a poll

`write_poll_results` of `database/persistence.c` collects the rows of a
worker in the text of one INSERT, sends the INSERT when the next row would
reach `MAX_MYSQL_BUF_SIZE`, and starts the next one.  With boost redirection
a second buffer takes the same rows under another prefix, and only the first
buffer's length is tracked.

* The row.  `formatPollerOutputRow` is `format_poller_output_row` of
  `poller/poller.c`.
* The writer.  `OutputWriter` holds the variables of the loop, and
  `writePollResults` is the whole function.  The result of `db_insert` for
  the statement with index `i` is `outcome i`.
* The refinement.  `Refines` relates a writer to the state of the greedy
  batching of `Base.Batching` over the formatted rows, and `addRow_refines`
  carries it over one item.  It holds for every pair of buffer sizes.
* The default sizes.  There every row fits, so no item is skipped and every
  statement has a row and stays within its buffer.
-/

namespace Spine

open Base.CString Base.Batching

/-! ## The row -/

/-- The loop over `host_time`: the number of digits, or `none` at a second
decimal point and at any other byte that is no digit. -/
def hostTimeDigits (decimalPoints digits : Nat) : Text → Option Nat
  | [] => some digits
  | b :: rest =>
    if b = 46 then
      if decimalPoints + 1 > 1 then none else hostTimeDigits (decimalPoints + 1) digits rest
    else if !isDigit b then none
    else hostTimeDigits decimalPoints (digits + 1) rest

/-- The row without the delimiter in front of it. -/
def outputTuple (localDataId : Int) (escapedRrdName hostTime escapedResult : Text) : Text :=
  lit "(" ++ decimalInt localDataId ++ lit ", '" ++ escapedRrdName ++ lit "', FROM_UNIXTIME(" ++
    hostTime ++ lit "), '" ++ escapedResult ++ lit "')"

/-- `format_poller_output_row`.  `none` is the result `FALSE`. -/
def formatPollerOutputRow (outputSize : Nat) (localDataId : Int)
    (escapedRrdName hostTime escapedResult : Text) : Option Text :=
  if outputSize = 0 ∨ hostTime = [] then none
  else
    match hostTimeDigits 0 0 hostTime with
    | none => none
    | some 0 => none
    | some (_ + 1) =>
      let output := lit " " ++ outputTuple localDataId escapedRrdName hostTime escapedResult
      if output.length < outputSize then some output else none

theorem hostTimeDigits_of_digits {hostTime : Text} (h : ∀ b ∈ hostTime, isDigit b = true)
    (decimalPoints digits : Nat) :
    hostTimeDigits decimalPoints digits hostTime = some (digits + hostTime.length) := by
  induction hostTime generalizing digits with
  | nil => rfl
  | cons b rest ih =>
    have hb : isDigit b = true := h b (by simp)
    have hpoint : b ≠ 46 := by
      rintro rfl
      exact absurd hb (by decide)
    rw [hostTimeDigits, if_neg hpoint, if_neg (by simp [hb]),
      ih (fun c hc => h c (List.mem_cons_of_mem _ hc)), List.length_cons]
    congr 1
    omega

/-- What an accepted row passed: the time has a digit, and the row fits. -/
theorem formatPollerOutputRow_cases {outputSize : Nat} {localDataId : Int}
    {name hostTime result row : Text}
    (h : formatPollerOutputRow outputSize localDataId name hostTime result = some row) :
    ∃ digits, hostTimeDigits 0 0 hostTime = some (digits + 1) ∧ hostTime ≠ [] ∧
      row.length < outputSize ∧ row = 32 :: outputTuple localDataId name hostTime result := by
  rw [formatPollerOutputRow] at h
  split at h
  · cases h
  rename_i hguard
  rw [not_or] at hguard
  split at h
  · cases h
  · cases h
  · rename_i digits hdigits
    dsimp only at h
    split at h
    · rename_i hfits
      cases h
      exact ⟨digits, hdigits, hguard.2, hfits, rfl⟩
    · cases h

/-- Every accepted row is a blank and the tuple. -/
theorem formatPollerOutputRow_eq_some {outputSize : Nat} {localDataId : Int}
    {name hostTime result row : Text}
    (h : formatPollerOutputRow outputSize localDataId name hostTime result = some row) :
    row = 32 :: outputTuple localDataId name hostTime result := by
  obtain ⟨-, -, -, -, hrow⟩ := formatPollerOutputRow_cases h
  exact hrow

/-- A time of digits is accepted, so the row is formatted when it fits. -/
theorem formatPollerOutputRow_of_digits {outputSize : Nat} {localDataId : Int}
    {name hostTime result : Text} (hne : hostTime ≠ []) (hdigits : ∀ b ∈ hostTime, isDigit b = true)
    (hfit : (outputTuple localDataId name hostTime result).length + 1 < outputSize) :
    formatPollerOutputRow outputSize localDataId name hostTime result =
      some (32 :: outputTuple localDataId name hostTime result) := by
  have hlen : 0 + hostTime.length = (hostTime.length - 1) + 1 := by
    have := List.length_pos_iff.2 hne
    omega
  have hrow : (lit " " ++ outputTuple localDataId name hostTime result).length < outputSize := by
    simpa [lit] using hfit
  have hguard : ¬ (outputSize = 0 ∨ hostTime = []) := not_or.2 ⟨by omega, hne⟩
  rw [formatPollerOutputRow, if_neg hguard, hostTimeDigits_of_digits hdigits, hlen]
  simp only [if_pos hrow]
  rfl

/-- The fixed text of a row has 27 bytes. -/
theorem outputTuple_length (localDataId : Int) (name hostTime result : Text) :
    (outputTuple localDataId name hostTime result).length =
      27 + (decimalInt localDataId).length + name.length + hostTime.length + result.length := by
  simp only [outputTuple, List.length_append, lit, List.length_map, String.length_toList]
  have h1 : "(".length = 1 := rfl
  have h2 : ", '".length = 3 := rfl
  have h3 : "', FROM_UNIXTIME(".length = 17 := rfl
  have h4 : "), '".length = 4 := rfl
  have h5 : "')".length = 2 := rfl
  omega

/-! ## The writer -/

/-- The variables of the loop of `write_poll_results`.  `query12` is there only
with boost redirection, and `sent` is the sequence of statements given to
`db_insert`. -/
structure OutputWriter where
  query3 : Text
  query12 : Option Text
  outBuffer : Nat
  newBuffer : Bool
  failed : Bool
  sent : List Insert

/-- The condition for writing to the boost table. -/
def Config.boost (cfg : Config) : Bool := cfg.boostRedirect && cfg.boostEnabled

/-- The result of `flush_output_query` on a query that is not `NULL`: what
`db_insert` answered, the query text afterwards, and the statements sent. -/
structure Flushed where
  success : Bool
  query : Text
  sent : List Insert

/-- `flush_output_query`.  A restart text of `none` is the `NULL` prefix, which
leaves the sent statement in the buffer. -/
def flushOutputQuery (outcome : Nat → Bool) (mode : DbMode) (suffix : Text) (query : Text)
    (restart : Option Text) (sent : List Insert) : Flushed where
  success := outcome sent.length
  query := restart.getD (query ++ suffix)
  sent := sent ++ [⟨mode, query ++ suffix⟩]

/-- The two calls of `flush_output_query`.  The second query may be `NULL`, and
then the call sends nothing and succeeds. -/
def flushQueries (cfg : Config) (outcome : Nat → Bool) (suffix : Text)
    (restart3 restart12 : Option Text) (w : OutputWriter) : OutputWriter :=
  let first := flushOutputQuery outcome cfg.outputMode suffix w.query3 restart3 w.sent
  match w.query12 with
  | none => { w with query3 := first.query, failed := w.failed || !first.success,
                     sent := first.sent }
  | some query12 =>
    let second := flushOutputQuery outcome cfg.outputMode suffix query12 restart12 first.sent
    { w with query3 := first.query, query12 := some second.query,
             failed := w.failed || !first.success || !second.success, sent := second.sent }

/-- The row of an item, as the loop body formats it in its local buffers. -/
def formatItem (sizes : BufferSizes) (escape : Text → Text) (hostTime : Text) (item : Target) :
    Option Text :=
  formatPollerOutputRow (sizes.resultsBuffer * 2 + DBL_BUFSIZE + SMALL_BUFSIZE)
    item.localDataId.toInt
    (dbEscape escape DBL_BUFSIZE item.rrdName) hostTime
    (dbEscape escape (sizes.resultsBuffer * 2 + 1) item.result)

/-- The part of the loop body after the row has been formatted. -/
def addRow (sizes : BufferSizes) (cfg : Config) (outcome : Nat → Bool) (queries : PollerQueries)
    (w : OutputWriter) (resultString : Text) : OutputWriter :=
  let w :=
    if sizes.maxMysqlBufSize ≤ w.outBuffer + resultString.length then
      let w := flushQueries cfg outcome queries.suffix (some queries.output)
        (some queries.boostOutput) w
      { w with outBuffer := w.query3.length, newBuffer := true }
    else w
  let resultString := resultString.set 0 (if w.newBuffer then 32 else 44)
  { w with
    query3 := w.query3 ++ resultString
    query12 := w.query12.map (· ++ resultString)
    outBuffer := w.outBuffer + resultString.length
    newBuffer := false }

/-- The loop body.  An item whose row cannot be formatted is skipped. -/
def addItem (sizes : BufferSizes) (cfg : Config) (escape : Text → Text) (outcome : Nat → Bool)
    (queries : PollerQueries) (hostTime : Text) (w : OutputWriter) (item : Target) :
    OutputWriter :=
  match formatItem sizes escape hostTime item with
  | none => w
  | some resultString => addRow sizes cfg outcome queries w resultString

/-- The buffers before the loop. -/
def startWriter (cfg : Config) (queries : PollerQueries) : OutputWriter where
  query3 := queries.output
  query12 := if cfg.boost then some queries.boostOutput else none
  outBuffer := queries.output.length
  newBuffer := true
  failed := false
  sent := []

/-- The last INSERT, when there is a row to send. -/
def finishWriter (cfg : Config) (outcome : Nat → Bool) (queries : PollerQueries)
    (w : OutputWriter) : OutputWriter :=
  if queries.output.length < w.outBuffer then
    flushQueries cfg outcome queries.suffix none none w
  else w

/-- `write_poll_results`. -/
def writePollResults (sizes : BufferSizes) (cfg : Config) (escape : Text → Text)
    (outcome : Nat → Bool) (queries : PollerQueries) (items : List Target) (hostTime : Text) :
    OutputWriter :=
  finishWriter cfg outcome queries
    (items.foldl (addItem sizes cfg escape outcome queries hostTime) (startWriter cfg queries))

/-! ## The refinement of batching -/

/-- The rows of a statement: a blank, then the tuples with a comma between
two of them. -/
def joinRows (rows : List Text) : Text :=
  if rows = [] then [] else 32 :: [(44 : UInt8)].intercalate rows

/-- A whole statement. -/
def outputStatement (opening suffix : Text) (rows : List Text) : Text :=
  opening ++ joinRows rows ++ suffix

/-- The statements that carry one batch of rows: the INSERT into
`poller_output`, and with boost redirection the one into
`poller_output_boost`. -/
def batchInserts (cfg : Config) (queries : PollerQueries) (rows : List Text) : List Insert :=
  ⟨cfg.outputMode, outputStatement queries.output queries.suffix rows⟩ ::
    if cfg.boost then
      [⟨cfg.outputMode, outputStatement queries.boostOutput queries.suffix rows⟩]
    else []

/-- What a tuple adds to the tracked length: itself and its delimiter. -/
def rowCost (tuple : Text) : Nat := tuple.length + 1

@[simp] theorem joinRows_nil : joinRows [] = [] := rfl

@[simp] theorem joinRows_singleton (row : Text) : joinRows [row] = 32 :: row := by
  simp [joinRows]

theorem joinRows_append_singleton {rows : List Text} (hne : rows ≠ []) (row : Text) :
    joinRows (rows ++ [row]) = joinRows rows ++ 44 :: row := by
  rw [joinRows, if_neg (by simp), joinRows, if_neg hne, intercalate_append_singleton _ hne]
  simp

theorem joinRows_length (rows : List Text) : (joinRows rows).length = (rows.map rowCost).sum := by
  induction rows using List.reverseRecOn with
  | nil => rfl
  | append_singleton rows row ih =>
    rcases eq_or_ne rows [] with rfl | hne
    · simp [rowCost]
    · rw [joinRows_append_singleton hne, List.length_append, ih]
      simp [rowCost]

/-- The failure flag says whether some statement sent so far was refused. -/
def FailedIff (outcome : Nat → Bool) (failed : Bool) (sent : List Insert) : Prop :=
  failed = true ↔ ∃ i < sent.length, outcome i = false

/-- The writer is in the state of the batching `b`: its buffers hold the open
batch under their two prefixes, its tracked length is the size of the open
batch, and it has sent the closed batches. -/
structure Refines (cfg : Config) (outcome : Nat → Bool) (queries : PollerQueries)
    (w : OutputWriter) (b : State Text) : Prop where
  query3 : w.query3 = queries.output ++ joinRows b.current
  query12 : w.query12 =
    if cfg.boost then some (queries.boostOutput ++ joinRows b.current) else none
  outBuffer : w.outBuffer = b.size
  newBuffer : w.newBuffer = b.current.isEmpty
  sent : w.sent = b.closed.flatMap (batchInserts cfg queries)
  failed : FailedIff outcome w.failed w.sent

section Refinement

variable {sizes : BufferSizes} {cfg : Config} {outcome : Nat → Bool} {queries : PollerQueries}
  {w : OutputWriter} {b : State Text}

theorem failedIff_append (failed : Bool) (sent : List Insert) (stmt : Insert)
    (h : FailedIff outcome failed sent) :
    FailedIff outcome (failed || !outcome sent.length) (sent ++ [stmt]) := by
  rw [FailedIff] at h ⊢
  rw [Bool.or_eq_true, Bool.not_eq_true', h, List.length_append, List.length_singleton]
  constructor
  · rintro (⟨i, hi, hfail⟩ | hfail)
    · exact ⟨i, by omega, hfail⟩
    · exact ⟨sent.length, by omega, hfail⟩
  · rintro ⟨i, hi, hfail⟩
    rcases Nat.lt_succ_iff_lt_or_eq.1 hi with hlt | rfl
    · exact Or.inl ⟨i, hlt, hfail⟩
    · exact Or.inr hfail

theorem startWriter_refines : Refines cfg outcome queries (startWriter cfg queries)
    (start queries.output.length) where
  query3 := by simp [startWriter, start]
  query12 := by simp [startWriter, start]
  outBuffer := rfl
  newBuffer := rfl
  sent := rfl
  failed := by simp [FailedIff, startWriter]

/-- A flush sends the statements of the open batch, and with a restart text it
empties the two buffers. -/
theorem flushQueries_sent (h : Refines cfg outcome queries w b) (restart3 restart12 : Option Text) :
    (flushQueries cfg outcome queries.suffix restart3 restart12 w).sent =
        (b.closed ++ [b.current]).flatMap (batchInserts cfg queries) ∧
      FailedIff outcome (flushQueries cfg outcome queries.suffix restart3 restart12 w).failed
        (flushQueries cfg outcome queries.suffix restart3 restart12 w).sent := by
  have hquery12 := h.query12
  have hfirst := failedIff_append w.failed w.sent
    ⟨cfg.outputMode, w.query3 ++ queries.suffix⟩ h.failed
  rw [flushQueries]
  cases hboost : cfg.boost with
  | false =>
    rw [hboost] at hquery12
    simp only [hquery12, flushOutputQuery]
    refine ⟨?_, hfirst⟩
    rw [h.sent, h.query3]
    simp [batchInserts, hboost, outputStatement]
  | true =>
    rw [hboost] at hquery12
    simp only [hquery12, flushOutputQuery]
    refine ⟨?_, failedIff_append _ _ _ hfirst⟩
    rw [h.sent, h.query3]
    simp [batchInserts, hboost, outputStatement]

theorem flushQueries_buffers (h : Refines cfg outcome queries w b) (text3 text12 : Text) :
    (flushQueries cfg outcome queries.suffix (some text3) (some text12) w).query3 = text3 ∧
      (flushQueries cfg outcome queries.suffix (some text3) (some text12) w).query12 =
        if cfg.boost then some text12 else none := by
  have hquery12 := h.query12
  rw [flushQueries]
  cases hboost : cfg.boost <;> rw [hboost] at hquery12 <;>
    simp [hquery12, flushOutputQuery]

/-- One formatted row is one step of the batching, whatever the sizes. -/
theorem addRow_refines (h : Refines cfg outcome queries w b) (tuple : Text) :
    Refines cfg outcome queries (addRow sizes cfg outcome queries w (32 :: tuple))
      (add rowCost queries.output.length sizes.maxMysqlBufSize b tuple) := by
  have hcost : (32 :: tuple : Text).length = rowCost tuple := rfl
  rw [addRow, add, hcost, h.outBuffer]
  split
  · -- The row would reach the limit: the open batch is sent and the row opens the next one.
    obtain ⟨hsent, hfailed⟩ :=
      flushQueries_sent h (some queries.output) (some queries.boostOutput)
    obtain ⟨hquery3, hquery12⟩ := flushQueries_buffers h queries.output queries.boostOutput
    refine ⟨?_, ?_, ?_, rfl, hsent, hfailed⟩
    · simp [hquery3]
    · simp only [hquery12]
      cases cfg.boost <;> simp
    · simp [hquery3, rowCost]
  · -- There is room: the delimiter depends on whether the batch has a row already.
    have hdelimiter : joinRows b.current ++ (32 :: tuple).set 0 (if w.newBuffer then 32 else 44) =
        joinRows (b.current ++ [tuple]) := by
      rw [h.newBuffer]
      rcases eq_or_ne b.current [] with hnil | hne
      · simp [hnil]
      · simp [joinRows_append_singleton hne, hne]
    refine ⟨?_, ?_, ?_, ?_, h.sent, h.failed⟩
    · show w.query3 ++ _ = _
      rw [h.query3, List.append_assoc, hdelimiter]
    · show w.query12.map _ = _
      rw [h.query12]
      cases cfg.boost with
      | false => rfl
      | true =>
        simp only [Option.map_some, if_true, Option.some.injEq]
        rw [List.append_assoc, hdelimiter]
    · simp [rowCost, h.outBuffer]
    · simp

/-- The tuples of the items that can be formatted. -/
def itemTuples (sizes : BufferSizes) (escape : Text → Text) (hostTime : Text)
    (items : List Target) : List Text :=
  items.filterMap fun item => (formatItem sizes escape hostTime item).map List.tail

/-- The loop is the batching of the formatted rows. -/
theorem foldl_addItem_refines (sizes : BufferSizes) (cfg : Config) (escape : Text → Text)
    (outcome : Nat → Bool) (queries : PollerQueries) (items : List Target) (hostTime : Text) :
    Refines cfg outcome queries
      (items.foldl (addItem sizes cfg escape outcome queries hostTime) (startWriter cfg queries))
      (run rowCost queries.output.length sizes.maxMysqlBufSize
        (itemTuples sizes escape hostTime items)) := by
  induction items using List.reverseRecOn with
  | nil => exact startWriter_refines
  | append_singleton items item ih =>
    rw [List.foldl_append, List.foldl_cons, List.foldl_nil, itemTuples, List.filterMap_append,
      ← itemTuples, addItem]
    cases hformat : formatItem sizes escape hostTime item with
    | none => simpa [hformat] using ih
    | some row =>
      obtain rfl := formatPollerOutputRow_eq_some hformat
      simp only [List.filterMap_cons, hformat, Option.map_some, List.tail_cons,
        List.filterMap_nil]
      rw [run_append_singleton]
      exact addRow_refines ih _

/-- The whole function sends the batches of the formatted rows. -/
theorem writePollResults_refines (sizes : BufferSizes) (cfg : Config) (escape : Text → Text)
    (outcome : Nat → Bool) (queries : PollerQueries) (items : List Target) (hostTime : Text) :
    let w := writePollResults sizes cfg escape outcome queries items hostTime
    w.sent = (run rowCost queries.output.length sizes.maxMysqlBufSize
        (itemTuples sizes escape hostTime items)).batches.flatMap (batchInserts cfg queries) ∧
      FailedIff outcome w.failed w.sent := by
  intro w
  have h := foldl_addItem_refines sizes cfg escape outcome queries items hostTime
  have hsize := run_size rowCost queries.output.length sizes.maxMysqlBufSize
    (itemTuples sizes escape hostTime items)
  have hw : w = finishWriter cfg outcome queries (items.foldl
    (addItem sizes cfg escape outcome queries hostTime) (startWriter cfg queries)) := rfl
  rw [hw, finishWriter, State.batches, h.outBuffer, hsize]
  rcases eq_or_ne (run rowCost queries.output.length sizes.maxMysqlBufSize
    (itemTuples sizes escape hostTime items)).current [] with hnil | hne
  · rw [hnil, if_neg (by simp [batchSize])]
    exact ⟨h.sent, h.failed⟩
  · -- A row costs at least its delimiter, so the tracked length tells that there is one.
    obtain ⟨row, rows, hrows⟩ := List.exists_cons_of_ne_nil hne
    have hpos : queries.output.length < batchSize rowCost queries.output.length
        (run rowCost queries.output.length sizes.maxMysqlBufSize
          (itemTuples sizes escape hostTime items)).current := by
      rw [hrows]
      simp only [batchSize, List.map_cons, List.sum_cons, rowCost]
      omega
    rw [if_pos hpos, if_neg (by simpa using hne)]
    exact flushQueries_sent h none none

end Refinement

/-! ## The default sizes -/

/-- The row of an item with nothing cut off. -/
def itemRow (escape : Text → Text) (hostTime : Text) (item : Target) : Text :=
  outputTuple item.localDataId.toInt (cstr (escape item.rrdName)) hostTime
    (cstr (escape item.result))

/-- What `load_poll_item` and the collectors promise of an item: its result
and its name fit their buffers. -/
def ItemFits (item : Target) : Prop :=
  item.result.length < RESULTS_BUFFER ∧ item.rrdName.length < 30

/-- The text of a poll time in whole seconds. -/
def IsHostTime (hostTime : Text) : Prop :=
  1 ≤ hostTime.length ∧ hostTime.length ≤ 39 ∧ ∀ b ∈ hostTime, isDigit b = true

section DefaultSizes

variable {escape : Text → Text} {hostTime : Text} {item : Target}

theorem itemRow_length_le (hescape : EscapeBound escape) (hitem : ItemFits item)
    (htime : IsHostTime hostTime) : (itemRow escape hostTime item).length ≤ 4229 := by
  obtain ⟨hresult, hname⟩ := hitem
  have hid := decimalInt_length_le item.localDataId
  have hresult' := cstr_length_le (escape item.result)
  have hname' := cstr_length_le (escape item.rrdName)
  have hesc := hescape item.result
  have hesc' := hescape item.rrdName
  have htime' := htime.2.1
  rw [itemRow, outputTuple_length]
  simp only [RESULTS_BUFFER] at hresult
  omega

/-- An item that fits its fields is formatted whole when its row fits. -/
theorem formatItem_of_fits {sizes : BufferSizes}
    (hresult : item.result.length < sizes.resultsBuffer)
    (hname : item.rrdName.length < 30) (hne : hostTime ≠ [])
    (hdigits : ∀ b ∈ hostTime, isDigit b = true)
    (hfit : (itemRow escape hostTime item).length + 1 <
      sizes.resultsBuffer * 2 + DBL_BUFSIZE + SMALL_BUFSIZE) :
    formatItem sizes escape hostTime item = some (32 :: itemRow escape hostTime item) := by
  rw [formatItem, dbEscape_eq escape (by decide) (by simp only [DBL_BUFSIZE]; omega),
    dbEscape_eq escape (by omega) (by omega)]
  exact formatPollerOutputRow_of_digits hne hdigits hfit

/-- No item is skipped and no text is cut. -/
theorem formatItem_default (hescape : EscapeBound escape) (hitem : ItemFits item)
    (htime : IsHostTime hostTime) :
    formatItem defaultSizes escape hostTime item = some (32 :: itemRow escape hostTime item) := by
  have hlen := itemRow_length_le hescape hitem htime
  refine formatItem_of_fits hitem.1 hitem.2 (List.length_pos_iff.1 htime.1) htime.2.2 ?_
  simp only [defaultSizes, RESULTS_BUFFER, DBL_BUFSIZE, SMALL_BUFSIZE]
  omega

theorem itemTuples_default {items : List Target} (hescape : EscapeBound escape)
    (hitems : ∀ item ∈ items, ItemFits item) (htime : IsHostTime hostTime) :
    itemTuples defaultSizes escape hostTime items = items.map (itemRow escape hostTime) := by
  rw [itemTuples, ← List.filterMap_eq_map]
  refine List.filterMap_congr fun item hmem => ?_
  rw [formatItem_default hescape (hitems item hmem) htime]
  rfl

theorem outputStatement_length (opening suffix : Text) (rows : List Text) :
    (outputStatement opening suffix rows).length =
      batchSize rowCost opening.length rows + suffix.length := by
  rw [outputStatement, List.length_append, List.length_append, joinRows_length, batchSize]

end DefaultSizes

/-- The lengths of the three texts of a statement. -/
theorem queries_lengths {cfg : Config} {hostId : Int} {hostThread hostDataIds : Nat}
    {queries : PollerQueries}
    (hqueries : pollerPrepareQueries cfg hostId hostThread hostDataIds = some queries) :
    queries.output.length = 72 ∧ queries.boostOutput.length = 78 ∧ queries.suffix.length = 46 := by
  obtain ⟨limits, _, rfl⟩ := pollerPrepareQueries_eq_some hqueries
  exact ⟨outputPrefix_length, boostOutputPrefix_length, outputSuffix_length⟩

/-- The boost prefix is six bytes longer than the one whose length is tracked, and
the suffix is added after the test. -/
theorem batchInserts_length_le {cfg : Config} {hostId : Int} {hostThread hostDataIds : Nat}
    {queries : PollerQueries} {rows : List Text}
    (hqueries : pollerPrepareQueries cfg hostId hostThread hostDataIds = some queries) :
    ∀ stmt ∈ batchInserts cfg queries rows,
      stmt.query.length ≤ batchSize rowCost queries.output.length rows + 52 := by
  obtain ⟨houtput, hboost, hsuffix⟩ := queries_lengths hqueries
  intro stmt hstmt
  rw [batchInserts, List.mem_cons] at hstmt
  rcases hstmt with rfl | hstmt
  · rw [outputStatement_length]
    omega
  · split at hstmt
    · rw [List.mem_singleton] at hstmt
      subst hstmt
      rw [outputStatement_length, batchSize, batchSize]
      omega
    · cases hstmt

/-- With the default sizes, every item is written once and in order, in
statements that have a row and fit their buffers, and the failure flag says
whether `db_insert` refused one of them. -/
theorem writePollResults_correct (cfg : Config) (escape : Text → Text) (outcome : Nat → Bool)
    (hostId : Int) (hostThread hostDataIds : Nat) (queries : PollerQueries)
    (items : List Target) (hostTime : Text) (hescape : EscapeBound escape)
    (hqueries : pollerPrepareQueries cfg hostId hostThread hostDataIds = some queries)
    (hitems : ∀ item ∈ items, ItemFits item) (htime : IsHostTime hostTime) :
    let w := writePollResults defaultSizes cfg escape outcome queries items hostTime
    (∀ item ∈ items, formatItem defaultSizes escape hostTime item =
        some (32 :: itemRow escape hostTime item)) ∧
      (∃ batches : List (List Text),
        batches.flatten = items.map (itemRow escape hostTime) ∧
        (∀ rows ∈ batches, rows ≠ []) ∧
        w.sent = batches.flatMap (batchInserts cfg queries)) ∧
      (∀ stmt ∈ w.sent, stmt.query.length ≤ MAX_MYSQL_BUF_SIZE + RESULTS_BUFFER - 1) ∧
      (w.failed = true ↔ ∃ i < w.sent.length, outcome i = false) := by
  intro w
  obtain ⟨hsent, hfailed⟩ :=
    writePollResults_refines defaultSizes cfg escape outcome queries items hostTime
  rw [itemTuples_default hescape hitems htime] at hsent
  have houtput := (queries_lengths hqueries).1
  -- A row of at most 4229 bytes fits behind the prefix, so batching keeps every batch small.
  have hspec : ∀ rows ∈ (run rowCost queries.output.length MAX_MYSQL_BUF_SIZE
      (items.map (itemRow escape hostTime))).batches,
      rows ≠ [] ∧ batchSize rowCost queries.output.length rows < MAX_MYSQL_BUF_SIZE := by
    refine batches_spec (by simp only [MAX_MYSQL_BUF_SIZE]; omega) ?_
    intro row hrow
    obtain ⟨item, hmem, rfl⟩ := List.mem_map.1 hrow
    have hlen := itemRow_length_le hescape (hitems item hmem) htime
    simp only [rowCost, MAX_MYSQL_BUF_SIZE]
    omega
  refine ⟨fun item hmem => formatItem_default hescape (hitems item hmem) htime,
    ⟨_, batches_flatten _, fun rows hrows => (hspec rows hrows).1, hsent⟩, ?_, hfailed⟩
  intro stmt hstmt
  rw [hsent] at hstmt
  obtain ⟨rows, hrows, hmem⟩ := List.mem_flatMap.1 hstmt
  have hsize := (hspec rows hrows).2
  have hlen := batchInserts_length_le hqueries stmt hmem
  simp only [MAX_MYSQL_BUF_SIZE, RESULTS_BUFFER] at hsize ⊢
  omega

/-- A poller that also fills the boost table. -/
private def boostConfig : Config :=
  { Config.plain with boostEnabled := true, boostRedirect := true }

/-- An item whose name has a quote. -/
private def quotedItem : Target where
  result := lit "42"
  localDataId := -7
  action := .script
  hostname := lit "router"
  rrdName := lit "o'k"
  arg1 := []
  outputRegex := []
  snmp := ⟨[], 2, [], [], [], [], [], [], [], 161, 500⟩

/-- One item with a quote in its name gives one row in each table. -/
theorem writePollResults_quoted_name :
    ∃ (queries : PollerQueries) (batches : List (List Text)),
      pollerPrepareQueries boostConfig 3 1 0 = some queries ∧
      batches.flatten = [itemRow Base.SqlLiteral.escape (lit "1700000000") quotedItem] ∧
      (∀ rows ∈ batches, rows ≠ []) ∧
      (writePollResults defaultSizes boostConfig Base.SqlLiteral.escape (fun _ => true) queries
        [quotedItem] (lit "1700000000")).sent =
        batches.flatMap (batchInserts boostConfig queries) := by
  obtain ⟨queries, hqueries⟩ : ∃ queries, pollerPrepareQueries boostConfig 3 1 0 = some queries :=
    ⟨_, rfl⟩
  obtain ⟨_, ⟨batches, hflatten, hne, hsent⟩, _⟩ :=
    writePollResults_correct boostConfig Base.SqlLiteral.escape (fun _ => true) 3 1 0 queries
      [quotedItem] (lit "1700000000") Base.SqlLiteral.escape_length_le hqueries
      (by simp only [List.mem_singleton, forall_eq]; exact ⟨by decide, by decide⟩)
      ⟨by decide, by decide,
        List.all_eq_true.1 (show (lit "1700000000").all isDigit = true by decide)⟩
  exact ⟨queries, batches, hqueries, hflatten, hne, hsent⟩

end Spine
