import Spine.Poller.CompletionEffects
import Spine.Poller.Reindex

/-!
# The errors of a partition

A partition counts its errors in one number and lists the items behind them in
one buffer.  The evaluations of the reindex rows add to the number only,
`record_result_error` of `poller/items.c` adds to both, and
`complete_poll_host` writes both to `host_errors`.

* The buffer.  `buffer_output_errors` of `poller/poller.c` appends an id.  When
  the buffer is full it logs the list and starts again with the new id alone.
* Runs.  `recordErrors_buffer_iff` says when the buffer lists all the rejected
  items: exactly when their list fits.
* The report.  `errorReport` is what `complete_poll_host` inserts after any
  evaluations and rejected items, and `errorReport_exact_iff` says when it is
  the list of the items with their number.
-/

namespace Spine

open Base.CString

/-! ## The buffer -/

/-- `poll_error_context_t`: the buffer with its size and its number of ids, and
the error count of the partition.  `warnings` is history: the lists that were
logged, with their number of ids. -/
structure ErrorContext where
  buffer : Text
  size : Nat
  count : Nat
  errors : Int
  warnings : List (Nat × Text)
  deriving DecidableEq, Repr

/-- What is printed for an id after `count` others. -/
def idEntry (count : Nat) (localDataId : Int32) : Text :=
  (if 0 < count then lit ", " else []) ++ decimalInt localDataId.toInt

/-- `buffer_output_errors`. -/
def bufferOutputErrors (context : ErrorContext) (localDataId : Int32) (flush : Bool) :
    ErrorContext :=
  let logged := context.warnings ++ [(context.count, context.buffer)]
  if flush && decide (0 < context.count) then { context with warnings := logged }
  else if !flush then
    let entry := snprintfS SMALL_BUFSIZE (idEntry context.count localDataId)
    if DBL_BUFSIZE ≤ context.size + entry.length then
      { context with
        warnings := logged
        count := 1
        buffer := snprintfS DBL_BUFSIZE (decimalInt localDataId.toInt)
        size := (decimalInt localDataId.toInt).length }
    else
      { context with
        count := context.count + 1
        buffer := context.buffer.take context.size ++
          snprintfS (DBL_BUFSIZE - context.size) entry
        size := context.size + entry.length }
  else context

/-- `record_result_error`. -/
def recordResultError (context : ErrorContext) (localDataId : Int32) : ErrorContext :=
  let context := bufferOutputErrors context localDataId false
  { context with errors := context.errors + 1 }

/-- The list of all ids. -/
def idList (ids : List Int32) : Text :=
  (lit ", ").intercalate (ids.map fun id => decimalInt id.toInt)

/-- The buffer holds what its size says, and it has room for the end of the
text. -/
structure ErrorContext.Valid (context : ErrorContext) : Prop where
  size_eq : context.size = context.buffer.length
  fits : context.buffer.length < DBL_BUFSIZE

theorem idEntry_length_le (count : Nat) (localDataId : Int32) :
    (idEntry count localDataId).length ≤ 13 := by
  have hid := decimalInt_length_le localDataId
  unfold idEntry
  rw [List.length_append]
  split
  · have hseparator : (lit ", ").length = 2 := length_lit _
    omega
  · rw [List.length_nil]
    omega

section Record

variable {context : ErrorContext} (localDataId : Int32)

/-- The buffer for one entry is large enough. -/
theorem snprintfS_idEntry (count : Nat) :
    snprintfS SMALL_BUFSIZE (idEntry count localDataId) = idEntry count localDataId := by
  have hentry := idEntry_length_le count localDataId
  apply snprintfS_eq_self
  simp only [SMALL_BUFSIZE]
  omega

/-- An id that still fits is appended. -/
theorem bufferOutputErrors_of_lt (h : context.Valid)
    (hfits : (context.buffer ++ idEntry context.count localDataId).length < DBL_BUFSIZE) :
    bufferOutputErrors context localDataId false =
      ⟨context.buffer ++ idEntry context.count localDataId,
        (context.buffer ++ idEntry context.count localDataId).length, context.count + 1,
        context.errors, context.warnings⟩ := by
  rw [List.length_append] at hfits
  have hroom : snprintfS (DBL_BUFSIZE - context.buffer.length) (idEntry context.count localDataId) =
      idEntry context.count localDataId := snprintfS_eq_self (by omega)
  have hlong : ¬ DBL_BUFSIZE ≤ context.size + (idEntry context.count localDataId).length := by
    rw [h.size_eq]
    omega
  unfold bufferOutputErrors
  dsimp only
  rw [if_neg (by simp), if_pos (by rfl), snprintfS_idEntry, if_neg hlong, h.size_eq, hroom,
    List.take_length, List.length_append]

/-- An id that does not fit starts a new list. -/
theorem bufferOutputErrors_of_le (h : context.Valid)
    (hfull : DBL_BUFSIZE ≤ (context.buffer ++ idEntry context.count localDataId).length) :
    bufferOutputErrors context localDataId false =
      ⟨decimalInt localDataId.toInt, (decimalInt localDataId.toInt).length, 1,
        context.errors, context.warnings ++ [(context.count, context.buffer)]⟩ := by
  have hid := decimalInt_length_le localDataId
  have hsingle : snprintfS DBL_BUFSIZE (decimalInt localDataId.toInt) =
      decimalInt localDataId.toInt := by
    apply snprintfS_eq_self
    simp only [DBL_BUFSIZE]
    omega
  rw [List.length_append, ← h.size_eq] at hfull
  unfold bufferOutputErrors
  dsimp only
  rw [if_neg (by simp), if_pos (by rfl), snprintfS_idEntry, if_pos hfull, hsingle]

theorem bufferOutputErrors_valid (h : context.Valid) :
    (bufferOutputErrors context localDataId false).Valid := by
  by_cases hfits : (context.buffer ++ idEntry context.count localDataId).length < DBL_BUFSIZE
  · rw [bufferOutputErrors_of_lt localDataId h hfits]
    exact ⟨rfl, hfits⟩
  · rw [bufferOutputErrors_of_le localDataId h (not_lt.1 hfits)]
    have hid := decimalInt_length_le localDataId
    refine ⟨rfl, ?_⟩
    simp only [DBL_BUFSIZE]
    omega

/-- A rejected item that still fits is appended and counted. -/
theorem recordResultError_of_lt (h : context.Valid)
    (hfits : (context.buffer ++ idEntry context.count localDataId).length < DBL_BUFSIZE) :
    recordResultError context localDataId =
      ⟨context.buffer ++ idEntry context.count localDataId,
        (context.buffer ++ idEntry context.count localDataId).length, context.count + 1,
        context.errors + 1, context.warnings⟩ := by
  unfold recordResultError
  rw [bufferOutputErrors_of_lt localDataId h hfits]

theorem recordResultError_valid (h : context.Valid) :
    (recordResultError context localDataId).Valid ∧
      (recordResultError context localDataId).errors = context.errors + 1 := by
  obtain ⟨hsize, hfits⟩ := bufferOutputErrors_valid localDataId h
  have herrors : (bufferOutputErrors context localDataId false).errors = context.errors := by
    unfold bufferOutputErrors
    dsimp only
    rw [if_neg (by simp), if_pos (by rfl)]
    split <;> rfl
  exact ⟨⟨hsize, hfits⟩, congrArg (· + 1) herrors⟩

end Record

/-! ## Runs -/

/-- The buffers of `poll_host` before the items, with the errors so far. -/
def ErrorContext.start (errors : Int) : ErrorContext := ⟨[], 0, 0, errors, []⟩

theorem ErrorContext.start_valid (errors : Int) : (ErrorContext.start errors).Valid :=
  ⟨rfl, Nat.zero_lt_succ _⟩

/-- Rejected items in order. -/
def recordErrors (errors : Int) (ids : List Int32) : ErrorContext :=
  ids.foldl recordResultError (.start errors)

theorem recordErrors_concat (errors : Int) (ids : List Int32) (id : Int32) :
    recordErrors errors (ids ++ [id]) = recordResultError (recordErrors errors ids) id := by
  unfold recordErrors
  rw [List.foldl_append]
  rfl

/-- Every rejected item is counted, and the buffer is never overrun. -/
theorem recordErrors_valid (errors : Int) (ids : List Int32) :
    (recordErrors errors ids).Valid ∧ (recordErrors errors ids).errors = errors + ids.length := by
  induction ids using List.reverseRecOn with
  | nil => exact ⟨ErrorContext.start_valid errors, (Int.add_zero errors).symm⟩
  | append_singleton ids id ih =>
    rw [recordErrors_concat]
    obtain ⟨hvalid, herrors⟩ := recordResultError_valid id ih.1
    refine ⟨hvalid, ?_⟩
    rw [herrors, ih.2, List.length_append]
    push_cast
    rw [Int.add_assoc]
    rfl

theorem idList_concat (ids : List Int32) (id : Int32) :
    idList (ids ++ [id]) = idList ids ++ idEntry ids.length id := by
  unfold idList idEntry
  rw [List.map_append, List.map_singleton]
  cases ids with
  | nil => simp
  | cons first rest =>
    rw [intercalate_append_singleton _ (by simp), if_pos (by simp), List.append_assoc]

/-- While the list of all ids fits, the buffer is that list. -/
theorem recordErrors_of_fits (errors : Int) {ids : List Int32}
    (h : (idList ids).length < DBL_BUFSIZE) :
    (recordErrors errors ids).buffer = idList ids ∧
      (recordErrors errors ids).count = ids.length := by
  induction ids using List.reverseRecOn with
  | nil => exact ⟨rfl, rfl⟩
  | append_singleton ids id ih =>
    rw [idList_concat] at h ⊢
    have hshorter : (idList ids).length < DBL_BUFSIZE := by
      rw [List.length_append] at h
      omega
    obtain ⟨hbuffer, hcount⟩ := ih hshorter
    rw [recordErrors_concat, recordResultError_of_lt id (recordErrors_valid errors ids).1
      (by rw [hbuffer, hcount]; exact h), hbuffer, hcount]
    exact ⟨rfl, by simp⟩

/-- The buffer lists all ids exactly when their list fits. -/
theorem recordErrors_buffer_iff (errors : Int) (ids : List Int32) :
    (recordErrors errors ids).buffer = idList ids ↔ (idList ids).length < DBL_BUFSIZE := by
  constructor
  · intro h
    rw [← h]
    exact (recordErrors_valid errors ids).1.fits
  · intro h
    exact (recordErrors_of_fits errors h).1

/-! ## The report -/

/-- One evaluation of a reindex row: the row, the value, and the answer to the
queue statement. -/
structure ReindexCase where
  reindex : Reindex
  value : Option Text
  written : Bool

/-- The errors that evaluations add. -/
def reindexErrors (env : ReindexEnv) (thread : Nat) (evaluations : List ReindexCase) : Nat :=
  (evaluations.map fun e =>
    (evaluateReindexAssertion env thread e.reindex e.value e.written).errors).sum

/-- A failed assertion of the device is counted: the log level is one, and the
device is not in the debug list. -/
def ReindexEnv.countsFailures (env : ReindexEnv) : Bool :=
  !env.debugDevice && decide (env.cfg.spineLogLevel = 1)

theorem evaluateReindexAssertion_errors (env : ReindexEnv) (thread : Nat) (e : ReindexCase) :
    (evaluateReindexAssertion env thread e.reindex e.value e.written).errors = 0 ↔
      (env.countsFailures = true → reindexAssertionFailed e.reindex e.value = false) := by
  unfold evaluateReindexAssertion logReindexAssertion discardReindexSpike ReindexEnv.highlighted
    ReindexEnv.countsFailures
  dsimp only
  cases reindexAssertionFailed e.reindex e.value with
  | false => simp
  | true =>
    by_cases hlevel : env.cfg.spineLogLevel = 1
    · have hother : ¬ env.cfg.spineLogLevel = 2 := by rw [hlevel]; decide
      cases env.debugDevice <;> simp [hlevel]
    · cases env.debugDevice <;> simp [hlevel]

theorem reindexErrors_eq_zero_iff (env : ReindexEnv) (thread : Nat)
    (evaluations : List ReindexCase) :
    reindexErrors env thread evaluations = 0 ↔
      (env.countsFailures = true →
        ∀ e ∈ evaluations, reindexAssertionFailed e.reindex e.value = false) := by
  unfold reindexErrors
  rw [List.sum_eq_zero_iff_forall_eq_nat]
  simp only [List.mem_map, forall_exists_index, and_imp, forall_apply_eq_imp_iff₂,
    evaluateReindexAssertion_errors]
  exact ⟨fun h hcounts e he => h e he hcounts, fun h e he hcounts => h hcounts e he⟩

/-- The values that `complete_poll_host` inserts into `host_errors`, if it sends
that statement. -/
def hostErrorsRow (call : CompletionCall) (lastPartition updateSchedule : Bool)
    (context : ErrorContext) : Option HostErrors :=
  if .hostErrors ∈ completionWrites { call with errors := context.errors } lastPartition
      updateSchedule then
    some ⟨context.errors, context.buffer⟩
  else none

theorem hostErrorsRow_eq (call : CompletionCall) (lastPartition updateSchedule : Bool)
    (context : ErrorContext) :
    hostErrorsRow call lastPartition updateSchedule context =
      if call.pollFailed = false ∧ 0 < context.errors then some ⟨context.errors, context.buffer⟩
      else none := by
  unfold hostErrorsRow completionWrites
  cases call.pollFailed with
  | true => simp
  | false =>
    cases lastPartition <;> cases updateSchedule <;>
      by_cases hpositive : 0 < context.errors <;> simp [hpositive]

/-- The report of a partition after evaluations of its reindex rows and rejected
items: the values of the `INSERT`, if there is one. -/
def errorReport (env : ReindexEnv) (thread : Nat) (evaluations : List ReindexCase)
    (ids : List Int32) (call : CompletionCall) (lastPartition updateSchedule : Bool) :
    Option HostErrors :=
  hostErrorsRow call lastPartition updateSchedule
    (recordErrors (reindexErrors env thread evaluations) ids)

/-- The report of a partition lists exactly its rejected items, with their
number, when and only when the list of their ids fits the buffer and no failed
assertion was counted.  A partition whose poll failed sends no report. -/
theorem errorReport_exact_iff (env : ReindexEnv) (thread : Nat) (evaluations : List ReindexCase)
    (ids : List Int32) (call : CompletionCall) (lastPartition updateSchedule : Bool) :
    (∀ row, errorReport env thread evaluations ids call lastPartition updateSchedule = some row →
        row.localDataIds = idList ids ∧ row.errors = ids.length) ↔
      call.pollFailed = true ∨
        (idList ids).length < DBL_BUFSIZE ∧
          (env.countsFailures = true →
            ∀ e ∈ evaluations, reindexAssertionFailed e.reindex e.value = false) := by
  have herrors := (recordErrors_valid (reindexErrors env thread evaluations) ids).2
  have hbuffer := recordErrors_buffer_iff (reindexErrors env thread evaluations) ids
  rw [← reindexErrors_eq_zero_iff env thread evaluations, errorReport, hostErrorsRow_eq]
  cases hpoll : call.pollFailed with
  | true => simp
  | false =>
    rw [or_iff_right Bool.false_ne_true, herrors]
    by_cases hpositive : (0 : Int) < (reindexErrors env thread evaluations : Int) + ids.length
    · rw [if_pos ⟨rfl, hpositive⟩]
      constructor
      · intro h
        obtain ⟨hlist, hnumber⟩ := h _ rfl
        exact ⟨hbuffer.1 hlist, by dsimp only at hnumber; omega⟩
      · rintro ⟨hfits, hzero⟩ row hrow
        cases hrow
        exact ⟨hbuffer.2 hfits, by dsimp only; omega⟩
    · -- Nothing was counted, so there is no item either.
      rw [if_neg (fun h => hpositive h.2)]
      have hzero : reindexErrors env thread evaluations = 0 ∧ ids.length = 0 := by omega
      have hnil : ids = [] := List.eq_nil_of_length_eq_zero hzero.2
      rw [hnil]
      exact ⟨fun _ => ⟨by decide, hzero.1⟩, fun _ row hrow => by cases hrow⟩

/-- Log level one. -/
private def briefEnv : ReindexEnv := ⟨{ Config.plain with spineLogLevel := 1 }, id, 7, 7, false⟩

/-- A row whose assertion fails: the number of interfaces changed. -/
private def changedRow : ReindexCase :=
  ⟨⟨lit "=", lit "4", lit ".1.3.6.1.2.1.2.1.0", 9, .snmp⟩, some (lit "5"), true⟩

private def goodCall : CompletionCall := ⟨false, false, 0⟩

/-- Two rejected items and no failed assertion. -/
theorem errorReport_exact_two_items :
    (idList [12, 13] = lit "12, 13" ∧ errorReport briefEnv 1 [] [12, 13] goodCall true false =
        some ⟨2, lit "12, 13"⟩) ∧
      ∀ row, errorReport briefEnv 1 [] [12, 13] goodCall true false = some row →
        row.localDataIds = idList [12, 13] ∧ row.errors = 2 :=
  ⟨⟨by decide, by decide⟩, (errorReport_exact_iff briefEnv 1 [] [12, 13] goodCall true false).2
    (Or.inr ⟨by decide, fun _ _ he => absurd he List.not_mem_nil⟩)⟩

theorem mul_le_idList_length {k : Nat} {ids : List Int32}
    (h : ∀ id ∈ ids, k ≤ (decimalInt id.toInt).length) : k * ids.length ≤ (idList ids).length := by
  induction ids using List.reverseRecOn with
  | nil => exact Nat.zero_le _
  | append_singleton ids id ih =>
    have hfront := ih fun other hother => h other (List.mem_append_left _ hother)
    have hlast := h id (List.mem_append_right _ (List.mem_singleton.2 rfl))
    rw [idList_concat, idEntry, List.length_append, List.length_append, List.length_append,
      List.length_singleton, Nat.mul_succ]
    omega

/-- Items whose list of ids is longer than the buffer. -/
def manyItems : List Int32 := List.replicate 300 2147483647

theorem manyItems_long : DBL_BUFSIZE ≤ (idList manyItems).length := by
  have hdigits : ∀ id ∈ manyItems, 10 ≤ (decimalInt id.toInt).length := by
    intro id hid
    rw [List.eq_of_mem_replicate hid]
    decide
  have hlength := mul_le_idList_length hdigits
  rw [manyItems, List.length_replicate] at hlength
  exact le_trans (by decide) hlength

/-- A failed assertion is an error without an item, and a list that is too long
loses its first ids. -/
theorem errorReport_inexact :
    errorReport briefEnv 1 [changedRow] [] goodCall true false = some ⟨1, []⟩ ∧
      ∃ row, errorReport briefEnv 1 [] manyItems goodCall true false = some row ∧
        row.errors = manyItems.length ∧ row.localDataIds.length < (idList manyItems).length := by
  obtain ⟨hvalid, herrors⟩ := recordErrors_valid 0 manyItems
  have hpositive : (0 : Int) < manyItems.length := by
    rw [manyItems, List.length_replicate]
    decide
  have hshorter := hvalid.fits.trans_le manyItems_long
  have hreport : errorReport briefEnv 1 [] manyItems goodCall true false =
      some ⟨manyItems.length, (recordErrors 0 manyItems).buffer⟩ := by
    show hostErrorsRow goodCall true false (recordErrors 0 manyItems) = _
    rw [hostErrorsRow_eq, herrors, Int.zero_add, if_pos ⟨rfl, hpositive⟩]
  generalize (recordErrors 0 manyItems).buffer = buffer at hshorter hreport
  exact ⟨by decide, _, hreport, rfl, hshorter⟩

end Spine
