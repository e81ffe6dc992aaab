import Spine.Database.Persistence

/-!
# The sizes of the output buffers

`RESULTS_BUFFER` and `MAX_MYSQL_BUF_SIZE` are options of `configure`, which checks
neither.  The two buffers of `write_poll_results` have room for their sum.  The test
before a row is added compares the tracked length with `MAX_MYSQL_BUF_SIZE` alone, and
it sends the open statement even when that has no row.

* What can go wrong.  A row that does not fit behind the prefix makes the loop send a
  statement without a row.  A statement may be one byte below `MAX_MYSQL_BUF_SIZE`
  when the suffix is added, and the prefix of the boost table is longer than the one
  that is tracked, so `RESULTS_BUFFER` must have room for the difference.
* `largestItem` is an item with the longest row, and `exactItems` fill a statement up
  to the last byte.
* `outputFits_iff` gives the sizes for which neither happens.
-/

namespace Spine

open Base.CString Base.Batching Base.SqlLiteral

/-! ## What must hold -/

/-- The item fits its fields: `result[RESULTS_BUFFER]` and `rrd_name[30]`. -/
def FitsFields (sizes : BufferSizes) (item : Target) : Prop :=
  item.result.length < sizes.resultsBuffer ∧ item.rrdName.length < 30

/-- The text of a time with at most `digits` digits. -/
def IsDigitTime (digits : Nat) (hostTime : Text) : Prop :=
  hostTime ≠ [] ∧ hostTime.length ≤ digits ∧ ∀ b ∈ hostTime, isDigit b = true

/-- Every statement fits its buffer with the terminator, and has a row. -/
def OutputFits (sizes : BufferSizes) (digits : Nat) : Prop :=
  ∀ (cfg : Config) (outcome : Nat → Bool) (hostId : Int) (hostThread hostDataIds : Nat)
    (queries : PollerQueries) (items : List Target) (hostTime : Text),
    pollerPrepareQueries cfg hostId hostThread hostDataIds = some queries →
    (∀ item ∈ items, FitsFields sizes item) → IsDigitTime digits hostTime →
    ∀ stmt ∈ (writePollResults sizes cfg escape outcome queries items hostTime).sent,
      stmt.query.length ≤ sizes.maxMysqlBufSize + sizes.resultsBuffer - 1 ∧
        ∃ rows, rows ≠ [] ∧ stmt ∈ batchInserts cfg queries rows

/-- The longest row with its delimiter, for times of at most `digits` digits.  A row
that does not fit `result_string` is skipped. -/
def longestRow (sizes : BufferSizes) (digits : Nat) : Nat :=
  95 + 2 * sizes.resultsBuffer + min digits 2208

section Sufficient

variable {sizes : BufferSizes} {digits : Nat} {hostTime row : Text} {item : Target}

theorem formatPollerOutputRow_length {outputSize : Nat} {localDataId : Int}
    {name result : Text}
    (h : formatPollerOutputRow outputSize localDataId name hostTime result = some row) :
    row.length < outputSize := by
  obtain ⟨-, -, -, hfits, -⟩ := formatPollerOutputRow_cases h
  exact hfits

/-- Escaping doubles the bytes at most, and the row must fit `result_string`. -/
theorem formatItem_length_le (hitem : FitsFields sizes item) (htime : IsDigitTime digits hostTime)
    (h : formatItem sizes escape hostTime item = some row) :
    row.length ≤ longestRow sizes digits := by
  have hskipped := formatPollerOutputRow_length h
  have hid := decimalInt_length_le item.localDataId
  have hname := (dbEscape_length_le escape_length_le DBL_BUFSIZE item.rrdName).2
  have hresult :=
    (dbEscape_length_le escape_length_le (sizes.resultsBuffer * 2 + 1) item.result).2
  have hlength := congrArg List.length (formatPollerOutputRow_eq_some h)
  rw [List.length_cons, outputTuple_length] at hlength
  obtain ⟨hresultFits, hnameFits⟩ := hitem
  have htimeFits := htime.2.1
  simp only [DBL_BUFSIZE, SMALL_BUFSIZE] at hskipped
  unfold longestRow
  omega

theorem outputFits_of_large (hmax : 72 + longestRow sizes digits < sizes.maxMysqlBufSize)
    (hresults : 52 ≤ sizes.resultsBuffer) : OutputFits sizes digits := by
  intro cfg outcome hostId hostThread hostDataIds queries items hostTime hqueries hitems htime
    stmt hstmt
  have houtput := (queries_lengths hqueries).1
  rw [(writePollResults_refines sizes cfg escape outcome queries items hostTime).1] at hstmt
  obtain ⟨rows, hrows, hmem⟩ := List.mem_flatMap.1 hstmt
  have hspec : rows ≠ [] ∧
      batchSize rowCost queries.output.length rows < sizes.maxMysqlBufSize := by
    refine batches_spec (by omega) (fun tuple htuple => ?_) rows hrows
    obtain ⟨item, hitem, hformat⟩ := List.mem_filterMap.1 htuple
    obtain ⟨row, hrow, rfl⟩ := Option.map_eq_some_iff.1 hformat
    have hlong := formatItem_length_le (hitems item hitem) htime hrow
    rw [formatPollerOutputRow_eq_some hrow] at hlong ⊢
    rw [List.length_cons] at hlong
    rw [List.tail_cons, rowCost]
    omega
  have hlength := batchInserts_length_le hqueries stmt hmem
  exact ⟨by omega, rows, hspec.1, hmem⟩

end Sufficient

/-! ## Sizes that are too small -/

/-- An item with a name and a result, and nothing else that matters here. -/
def plainItem (localDataId : Int32) (rrdName result : Text) : Target where
  result := result
  localDataId := localDataId
  action := .script
  hostname := []
  rrdName := rrdName
  arg1 := []
  outputRegex := []
  snmp := ⟨[], 2, [], [], [], [], [], [], [], 161, 500⟩

/-- The smallest number and as many quotes as fit. -/
def largestItem (sizes : BufferSizes) : Target :=
  plainItem (-2147483648) (List.replicate 29 39) (List.replicate (sizes.resultsBuffer - 1) 39)

/-- Items whose rows with their delimiters have `size` bytes in all, for a time of one
digit. -/
def exactItems (size : Nat) : List Target :=
  List.replicate (size / 30 - 1) (plainItem 0 [] []) ++
    [plainItem 0 (List.replicate (size % 30) 97) []]

/-- A configuration with boost redirection. -/
def boostingConfig : Config := { Config.plain with boostEnabled := true, boostRedirect := true }

section Necessary

variable {sizes : BufferSizes} {digits : Nat} {hostTime : Text}

theorem escape_replicate_quote (count : Nat) :
    (escape (List.replicate count 39)).length = 2 * count := by
  induction count with
  | zero => rfl
  | succ count ih =>
    rw [List.replicate_succ, escape, List.flatMap_cons, ← escape, List.length_append, ih]
    show 2 + 2 * count = _
    omega

theorem escape_replicate_letter (count : Nat) :
    (escape (List.replicate count 97)).length = count := by
  induction count with
  | zero => rfl
  | succ count ih =>
    rw [List.replicate_succ, escape, List.flatMap_cons, ← escape, List.length_append, ih]
    show 1 + count = _
    omega

theorem rowCost_itemRow (hostTime : Text) (item : Target) :
    rowCost (itemRow escape hostTime item) =
      28 + (decimalInt item.localDataId.toInt).length + (escape item.rrdName).length +
        hostTime.length + (escape item.result).length := by
  rw [rowCost, itemRow, outputTuple_length, cstr_escape, cstr_escape]
  omega

theorem isDigitTime_ones {count : Nat} (hpos : 0 < count) (hle : count ≤ digits) :
    IsDigitTime digits (List.replicate count 49) := by
  refine ⟨?_, ?_, ?_⟩
  · rw [Ne, List.replicate_eq_nil_iff]
    omega
  · rwa [List.length_replicate]
  · intro b hb
    rw [List.eq_of_mem_replicate hb]
    rfl

/-- A statement with a row is longer than its two fixed texts. -/
theorem length_of_mem_batchInserts {cfg : Config} {hostId : Int} {hostThread hostDataIds : Nat}
    {queries : PollerQueries} {rows : List Text} {stmt : Insert} (hne : rows ≠ [])
    (hqueries : pollerPrepareQueries cfg hostId hostThread hostDataIds = some queries)
    (h : stmt ∈ batchInserts cfg queries rows) : 118 < stmt.query.length := by
  obtain ⟨houtput, hboost, hsuffix⟩ := queries_lengths hqueries
  obtain ⟨row, rest, rfl⟩ := List.exists_cons_of_ne_nil hne
  rw [batchInserts, List.mem_cons] at h
  rcases h with rfl | h
  · rw [outputStatement_length, batchSize, List.map_cons, List.sum_cons, rowCost]
    omega
  · split at h
    · rw [List.mem_singleton] at h
      rw [h, outputStatement_length, batchSize, List.map_cons, List.sum_cons, rowCost]
      omega
    · cases h

/-- Items that fit, with rows that fit `result_string`, are all formatted. -/
theorem itemTuples_of_fits {items : List Target} (htime : IsDigitTime digits hostTime)
    (hitems : ∀ item ∈ items, FitsFields sizes item ∧
      rowCost (itemRow escape hostTime item) < sizes.resultsBuffer * 2 + 2304) :
    itemTuples sizes escape hostTime items = items.map (itemRow escape hostTime) := by
  rw [itemTuples, ← List.filterMap_eq_map]
  refine List.filterMap_congr fun item hitem => ?_
  obtain ⟨⟨hresult, hname⟩, hcost⟩ := hitems item hitem
  rw [formatItem_of_fits hresult hname htime.1 htime.2.2 hcost]
  rfl

theorem fitsFields_largestItem (hresults : 0 < sizes.resultsBuffer) :
    FitsFields sizes (largestItem sizes) := by
  refine ⟨?_, show (List.replicate 29 (39 : UInt8)).length < 30 by decide⟩
  show (List.replicate (sizes.resultsBuffer - 1) (39 : UInt8)).length < _
  rw [List.length_replicate]
  omega

theorem rowCost_largestItem (hresults : 0 < sizes.resultsBuffer)
    (hlength : hostTime.length = min digits 2208) :
    rowCost (itemRow escape hostTime (largestItem sizes)) = longestRow sizes digits := by
  have hid : (decimalInt (largestItem sizes).localDataId.toInt).length = 11 := by
    show (decimalInt (-2147483648 : Int32).toInt).length = 11
    decide
  have hname : (escape (largestItem sizes).rrdName).length = 58 := escape_replicate_quote 29
  have hresult : (escape (largestItem sizes).result).length = 2 * (sizes.resultsBuffer - 1) :=
    escape_replicate_quote _
  rw [rowCost_itemRow, hid, hname, hresult, hlength, longestRow]
  omega

/-- When the longest row does not fit behind the prefix, a statement without a row is
sent. -/
theorem not_outputFits_of_max (hresults : 0 < sizes.resultsBuffer) (hdigits : 0 < digits)
    (h : sizes.maxMysqlBufSize ≤ 72 + longestRow sizes digits) : ¬ OutputFits sizes digits := by
  intro hfits
  obtain ⟨queries, hqueries⟩ : ∃ queries, pollerPrepareQueries Config.plain 1 1 0 = some queries :=
    ⟨_, rfl⟩
  obtain ⟨houtput, -, hsuffix⟩ := queries_lengths hqueries
  obtain ⟨hostTime, htime, hlength⟩ : ∃ hostTime : Text, IsDigitTime digits hostTime ∧
      hostTime.length = min digits 2208 :=
    ⟨List.replicate (min digits 2208) 49, isDigitTime_ones (by omega) (by omega),
      List.length_replicate⟩
  have hfields := fitsFields_largestItem hresults
  have hcost := rowCost_largestItem hresults hlength
  have htuples : itemTuples sizes escape hostTime [largestItem sizes] =
      [itemRow escape hostTime (largestItem sizes)] := by
    refine itemTuples_of_fits htime fun item hitem => ?_
    rw [List.mem_singleton.1 hitem, hcost, longestRow]
    exact ⟨hfields, by omega⟩
  have hsent := (writePollResults_refines sizes Config.plain escape (fun _ => true) queries
    [largestItem sizes] hostTime).1
  rw [htuples, run_singleton_of_le (by rw [hcost]; omega)] at hsent
  have hmem :
      (⟨Config.plain.outputMode, outputStatement queries.output queries.suffix []⟩ : Insert) ∈
      (writePollResults sizes Config.plain escape (fun _ => true) queries [largestItem sizes]
        hostTime).sent := by
    rw [hsent]
    exact List.mem_flatMap.2 ⟨[], List.mem_cons_self, List.mem_cons_self⟩
  obtain ⟨-, rows, hne, hrows⟩ := hfits Config.plain (fun _ => true) 1 1 0 queries
    [largestItem sizes] hostTime hqueries (by simpa using hfields) htime _ hmem
  have hlong := length_of_mem_batchInserts hne hqueries hrows
  rw [outputStatement_length, batchSize] at hlong
  simp only [List.map_nil, List.sum_nil] at hlong
  omega

theorem fitsFields_exactItems (hresults : 0 < sizes.resultsBuffer) (size : Nat) :
    ∀ item ∈ exactItems size, FitsFields sizes item := by
  intro item hitem
  rcases List.mem_append.1 hitem with hrest | hlast
  · rw [List.eq_of_mem_replicate hrest]
    exact ⟨hresults, by decide⟩
  · rw [List.mem_singleton.1 hlast]
    refine ⟨hresults, ?_⟩
    show (List.replicate (size % 30) (97 : UInt8)).length < 30
    rw [List.length_replicate]
    exact Nat.mod_lt _ (by decide)

theorem rowCost_exactItem (count : Nat) :
    rowCost (itemRow escape [49] (plainItem 0 (List.replicate count 97) [])) = 30 + count := by
  have hid :
      (decimalInt (plainItem 0 (List.replicate count 97) []).localDataId.toInt).length = 1 := by
    show (decimalInt 0).length = 1
    decide
  have hname : (escape (plainItem 0 (List.replicate count 97) []).rrdName).length = count :=
    escape_replicate_letter count
  rw [rowCost_itemRow, hid, hname]
  show 28 + 1 + count + 1 + 0 = 30 + count
  omega

theorem itemTuples_exactItems (hresults : 0 < sizes.resultsBuffer) (size : Nat) :
    itemTuples sizes escape [49] (exactItems size) =
      (exactItems size).map (itemRow escape [49]) := by
  have htime : IsDigitTime 1 [49] := isDigitTime_ones Nat.one_pos (le_refl 1)
  refine itemTuples_of_fits htime fun item hitem =>
    ⟨fitsFields_exactItems hresults size item hitem, ?_⟩
  rcases List.mem_append.1 hitem with hrest | hlast
  · have hcost := rowCost_exactItem 0
    rw [List.replicate_zero] at hcost
    rw [List.eq_of_mem_replicate hrest, hcost]
    omega
  · have hmod := Nat.mod_lt size (show 0 < 30 by decide)
    rw [List.mem_singleton.1 hlast, rowCost_exactItem]
    omega

theorem exactItems_cost {size : Nat} (h : 30 ≤ size) :
    (((exactItems size).map (itemRow escape [49])).map rowCost).sum = size := by
  have hfirst : rowCost (itemRow escape [49] (plainItem 0 [] [])) = 30 := rowCost_exactItem 0
  unfold exactItems
  rw [List.map_append, List.map_append, List.sum_append, List.map_replicate, List.map_replicate,
    List.sum_replicate, hfirst]
  simp only [List.map_cons, List.map_nil, List.sum_cons, List.sum_nil, rowCost_exactItem,
    nsmul_eq_mul, Nat.cast_id]
  have hdiv := Nat.div_add_mod size 30
  omega

/-- When the results buffer is smaller than what is added after the test, a statement
of the boost table is longer than its buffer. -/
theorem not_outputFits_of_results (hresults : 0 < sizes.resultsBuffer)
    (hsmall : sizes.resultsBuffer < 52) (hdigits : 0 < digits)
    (hmax : 102 < sizes.maxMysqlBufSize) : ¬ OutputFits sizes digits := by
  intro hfits
  obtain ⟨queries, hqueries⟩ :
      ∃ queries, pollerPrepareQueries boostingConfig 1 1 0 = some queries := ⟨_, rfl⟩
  obtain ⟨houtput, hboost, hsuffix⟩ := queries_lengths hqueries
  obtain ⟨size, hsize⟩ : ∃ size, size + 73 = sizes.maxMysqlBufSize :=
    ⟨sizes.maxMysqlBufSize - 73, by omega⟩
  have hcost := exactItems_cost (show 30 ≤ size by omega)
  have htuples := itemTuples_exactItems hresults size
  have hsent := (writePollResults_refines sizes boostingConfig escape (fun _ => true) queries
    (exactItems size) [49]).1
  have hne : (exactItems size).map (itemRow escape [49]) ≠ [] := by
    rw [Ne, List.map_eq_nil_iff]
    exact List.append_ne_nil_of_right_ne_nil _ (List.cons_ne_nil _ _)
  rw [htuples, run_of_lt (by rw [batchSize, hcost]; omega)] at hsent
  have hmem : (⟨boostingConfig.outputMode, outputStatement queries.boostOutput queries.suffix
      ((exactItems size).map (itemRow escape [49]))⟩ : Insert) ∈
      (writePollResults sizes boostingConfig escape (fun _ => true) queries (exactItems size)
        [49]).sent := by
    rw [hsent, State.batches, if_neg (by simpa using hne)]
    exact List.mem_flatMap.2 ⟨_, List.mem_cons_self, List.mem_cons_of_mem _ List.mem_cons_self⟩
  obtain ⟨hlength, -⟩ := hfits boostingConfig (fun _ => true) 1 1 0 queries (exactItems size) [49]
    hqueries (fitsFields_exactItems hresults size)
    (isDigitTime_ones Nat.one_pos hdigits) _ hmem
  rw [outputStatement_length, batchSize, hcost, hboost, hsuffix] at hlength
  omega

end Necessary

/-- The sizes for which every statement fits and has a row. -/
theorem outputFits_iff_longestRow (sizes : BufferSizes) (hresults : 0 < sizes.resultsBuffer)
    (digits : Nat) (hdigits : 0 < digits) :
    OutputFits sizes digits ↔
      72 + longestRow sizes digits < sizes.maxMysqlBufSize ∧ 52 ≤ sizes.resultsBuffer := by
  constructor
  · intro hfits
    have hmax : 72 + longestRow sizes digits < sizes.maxMysqlBufSize := by
      by_contra hsmall
      exact not_outputFits_of_max hresults hdigits (by omega) hfits
    refine ⟨hmax, ?_⟩
    by_contra hsmall
    refine not_outputFits_of_results hresults (by omega) hdigits ?_ hfits
    rw [longestRow] at hmax
    omega
  · rintro ⟨hmax, hlarge⟩
    exact outputFits_of_large hmax hlarge

/-- The same with the numbers: for times of any number of digits, and for the at most
39 digits that `host_time` of a worker has room for. -/
theorem outputFits_iff (sizes : BufferSizes) (hresults : 0 < sizes.resultsBuffer) :
    ((∀ digits, OutputFits sizes digits) ↔
      2 * sizes.resultsBuffer + 2375 < sizes.maxMysqlBufSize ∧ 52 ≤ sizes.resultsBuffer) ∧
    (OutputFits sizes 39 ↔
      2 * sizes.resultsBuffer + 206 < sizes.maxMysqlBufSize ∧ 52 ≤ sizes.resultsBuffer) := by
  constructor
  · constructor
    · intro hfits
      have hlarge := (outputFits_iff_longestRow sizes hresults 2208 (by decide)).1 (hfits 2208)
      rw [longestRow] at hlarge
      omega
    · rintro ⟨hmax, hlarge⟩ digits
      refine outputFits_of_large ?_ hlarge
      rw [longestRow]
      omega
  · rw [outputFits_iff_longestRow sizes hresults 39 (by decide), longestRow]
    omega

/-- The default sizes are large enough. -/
theorem outputFits_defaultSizes :
    0 < defaultSizes.resultsBuffer ∧ ∀ digits, OutputFits defaultSizes digits :=
  ⟨by decide, (outputFits_iff defaultSizes (by decide)).1.2 ⟨by decide, by decide⟩⟩

/-- One item of 32 bytes.  With `MAX_MYSQL_BUF_SIZE` 100 the first statement has no
row, and with `RESULTS_BUFFER` 16 and `MAX_MYSQL_BUF_SIZE` 105 a statement of 150 bytes
is built in a buffer of 121. -/
theorem outputFits_small_sizes :
    ∃ queries, pollerPrepareQueries Config.plain 1 1 0 = some queries ∧
      (writePollResults ⟨2048, 100⟩ Config.plain escape (fun _ => true) queries
        [plainItem 1 (lit "x") (lit "1")] (lit "1")).sent.head?.map Insert.query =
          some (outputPrefix ++ outputSuffix) ∧
      (writePollResults ⟨16, 105⟩ Config.plain escape (fun _ => true) queries
        [plainItem 1 (lit "x") (lit "1")] (lit "1")).sent.map (·.query.length) = [150] ∧
      ¬ OutputFits ⟨2048, 100⟩ 39 ∧ ¬ OutputFits ⟨16, 131072⟩ 39 := by
  refine ⟨_, rfl, by decide +kernel, by decide +kernel, ?_, ?_⟩
  · exact not_outputFits_of_max (by decide) (by decide) (by decide)
  · exact not_outputFits_of_results (by decide) (by decide) (by decide) (by decide)

end Spine
