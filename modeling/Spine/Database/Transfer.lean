import Mathlib.Algebra.Order.BigOperators.Group.List
import Mathlib.Data.List.Induction
import Spine.App.Text
import Spine.Database.Sql

/-!
# Pushing the status to the main server

`poller_transfer_status` of `database/transfer.c` copies the rows of two tables
to the main server.  `transfer_table` selects the rows of one plan and sends
them in `INSERT` statements of many rows.  All texts are built by
`spine_snprintf`, which ends the process when a text does not fit; `none` is
that end.

* Texts.  `appendEntries` is the loop that two of the texts are built with.
* One table.  `transferStep` is the body of the loop over the rows: it sends
  the statement in the buffer when that is full, and appends the row.
* The invariant.  `TransferInv` ties the buffer to the rows that it carries.
  `transferStep_inv` is the step lemma, and `transferRows_spec` the run lemma.
* The end.  `TransferEnds` is what a transfer promises, after the last statement,
  a refused one or a fetch error.
* The two plans.  Their texts fit their buffers, which `transferTable_correct` and
  `pollerTransferStatus_success_iff` put together with the loop.
-/

namespace Spine

open Base.CString

/-! ## Texts -/

/-- Entries appended one by one, with a separator before all but the first of
them.  `index` is the number of entries before. -/
def appendEntries (capacity : Nat) : Nat → Text → List Text → Option Text
  | _, output, [] => some output
  | index, output, entry :: entries => do
    let output ← appendText capacity output ((if index = 0 then [] else lit ", ") ++ entry)
    appendEntries capacity (index + 1) output entries

/-- Entries with separators. -/
def joinEntries (entries : List Text) : Text := (lit ", ").intercalate entries

theorem joinEntries_concat (entries : List Text) (entry : Text) :
    joinEntries (entries ++ [entry]) =
      joinEntries entries ++ ((if entries.length = 0 then [] else lit ", ") ++ entry) := by
  rw [joinEntries, intercalate_concat]
  simp only [List.length_eq_zero_iff]
  rfl

/-- Each entry costs at most its length and a separator. -/
theorem joinEntries_length_le_sum (entries : List Text) :
    (joinEntries entries).length ≤ (entries.map fun entry => entry.length + 2).sum := by
  induction entries using List.reverseRecOn with
  | nil => exact Nat.zero_le _
  | append_singleton entries entry ih =>
    have hseparator : (if entries.length = 0 then [] else lit ", ").length ≤ 2 := by
      split <;> decide
    rw [joinEntries_concat, List.length_append, List.length_append, List.map_append,
      List.sum_append, List.map_singleton, List.sum_singleton]
    omega

theorem joinEntries_length_le {bound : Nat} {entries : List Text}
    (h : ∀ entry ∈ entries, entry.length ≤ bound) :
    (joinEntries entries).length ≤ entries.length * (bound + 2) := by
  refine (joinEntries_length_le_sum entries).trans ?_
  have hcosts : ∀ cost ∈ entries.map fun entry => entry.length + 2, cost ≤ bound + 2 := by
    intro cost hcost
    obtain ⟨entry, hentry, rfl⟩ := List.mem_map.1 hcost
    exact Nat.add_le_add_right (h entry hentry) 2
  have hsum := List.sum_le_card_nsmul _ _ hcosts
  rwa [List.length_map] at hsum

theorem joinEntries_length_mono (front rest : List Text) :
    (joinEntries front).length ≤ (joinEntries (front ++ rest)).length := by
  induction rest using List.reverseRecOn with
  | nil => rw [List.append_nil]
  | append_singleton rest entry ih =>
    rw [← List.append_assoc, joinEntries_concat, List.length_append]
    omega

/-- The loop builds the joined text as long as that fits. -/
theorem appendEntries_of_lt {capacity : Nat} {output : Text} (front : List Text)
    {entries : List Text}
    (h : (output ++ joinEntries (front ++ entries)).length < capacity) :
    appendEntries capacity front.length (output ++ joinEntries front) entries =
      some (output ++ joinEntries (front ++ entries)) := by
  induction entries generalizing front with
  | nil =>
    rw [List.append_nil]
    rfl
  | cons entry entries ih =>
    have hassoc : front ++ entry :: entries = (front ++ [entry]) ++ entries := by simp
    rw [hassoc] at h ⊢
    have hone : (output ++ joinEntries (front ++ [entry])).length < capacity := by
      have hmono := joinEntries_length_mono (front ++ [entry]) entries
      rw [List.length_append] at h ⊢
      omega
    have hnext := ih (front ++ [entry]) h
    rw [joinEntries_concat, ← List.append_assoc] at hone
    rw [joinEntries_concat, ← List.append_assoc, List.length_append] at hnext
    rw [appendEntries, appendText_of_lt hone]
    exact hnext

/-! ## One table -/

/-- `poller_transfer_t`. -/
structure TransferPlan where
  table : Text
  columns : Text
  filterColumn : Text
  orderColumn : Text
  updates : List Text
  fieldCount : Nat
  rowLimit : Nat
  deriving DecidableEq, Repr

/-- A row of a result: a field is `NULL` or a text. -/
abbrev ResultRow := List (Option Text)

/-- What a transfer reads, and the answers that it gets.  `accepts` is the
answer of `db_insert` to each statement in order, and `fetchError` is the
number of rows after which a fetch fails. -/
structure TransferEnv where
  pollerId : Int32
  hostIdList : Text
  hostIdList_fits : hostIdList.length < BIG_BUFSIZE
  escape : Text → Text
  answered : Bool
  fields : Nat
  allocated : Bool
  fetchError : Option Nat
  accepts : Nat → Bool

/-- The assignment of one column in the suffix. -/
def assignment (column : Text) : Text := column ++ lit "=VALUES(" ++ column ++ lit ")"

/-- The query up to its optional part. -/
def selectText (env : TransferEnv) (plan : TransferPlan) : Text :=
  lit "SELECT SQL_NO_CACHE " ++ plan.columns ++ lit " FROM " ++ plan.table ++
    lit " WHERE poller_id = " ++ decimalInt env.pollerId.toInt

/-- The part of the query for a list of devices. -/
def filterText (env : TransferEnv) (plan : TransferPlan) : Text :=
  if env.hostIdList ≠ [] then
    lit " AND " ++ plan.filterColumn ++ lit " IN (" ++ env.hostIdList ++ lit ")"
  else []

/-- The text before the rows. -/
def TransferPlan.opening (plan : TransferPlan) : Text :=
  lit "INSERT INTO " ++ plan.table ++ lit " (" ++ plan.columns ++ lit ") VALUES "

/-- `transfer_queries`: the query, the opening and the suffix of a statement.
The part for a list of devices is left out when there is none. -/
def transferQueries (env : TransferEnv) (plan : TransferPlan) : Option (Text × Text × Text) := do
  let query ← spineSnprintf MEGA_BUFSIZE (selectText env plan)
  let query ← appendText MEGA_BUFSIZE query (filterText env plan)
  let query ← appendText MEGA_BUFSIZE query (lit " ORDER BY " ++ plan.orderColumn)
  let opening ← spineSnprintf BUFSIZE plan.opening
  let suffix ← spineSnprintf BUFSIZE (lit " ON DUPLICATE KEY UPDATE ")
  let suffix ← appendEntries BUFSIZE 0 suffix (plan.updates.map assignment)
  some (query, opening, suffix)

/-- One field in a statement. -/
def fieldSql (env : TransferEnv) : Option Text → Text
  | none => lit "NULL"
  | some value => lit "'" ++ dbEscape env.escape (DBL_BUFSIZE * 2) value ++ lit "'"

/-- `transfer_row`. -/
def transferRow (env : TransferEnv) (row : ResultRow) (fieldCount capacity : Nat) :
    Option Text := do
  let output ← spineSnprintf capacity (lit "(")
  let output ← appendEntries capacity 0 output ((row.take fieldCount).map (fieldSql env))
  appendText capacity output (lit ")")

/-- A statement that was sent, with the answer of `db_insert`.  `rows` is
history: the rows that were put into it. -/
structure TransferStatement where
  query : Text
  accepted : Bool
  rows : List ResultRow
  deriving DecidableEq, Repr

/-- The local state of `transfer_table`.  `used` is the length of `buffer`.
`batch` is history: the rows in the buffer. -/
structure TransferState where
  buffer : Text
  rows : Nat
  batch : List ResultRow
  sent : List TransferStatement
  deriving DecidableEq, Repr

/-- `transfer_batch`: the statement goes out, and `db_insert` answers. -/
def transferBatch (env : TransferEnv) (suffix : Text) (state : TransferState) :
    Option (TransferState × Bool) := do
  let query ← appendText HUGE_BUFSIZE state.buffer suffix
  let accepted := env.accepts state.sent.length
  some ({ state with buffer := query, sent := state.sent ++ [⟨query, accepted, state.batch⟩] },
    accepted)

/-- The end of the loop body: the row goes into the buffer. -/
def putRow (opening rowSql : Text) (row : ResultRow) (state : TransferState) :
    Option TransferState := do
  let buffer ←
    if state.rows = 0 then spineSnprintf HUGE_BUFSIZE opening
    else appendText HUGE_BUFSIZE state.buffer (lit ", ")
  let buffer ← appendText HUGE_BUFSIZE buffer rowSql
  some { state with
    buffer := buffer
    rows := state.rows + 1
    batch := if state.rows = 0 then [row] else state.batch ++ [row] }

/-- The body of the loop: the state, and whether the loop goes on. -/
def transferStep (env : TransferEnv) (plan : TransferPlan) (opening suffix : Text)
    (state : TransferState) (row : ResultRow) : Option (TransferState × Bool) := do
  let rowCapacity := plan.fieldCount * (DBL_BUFSIZE * 2 + 4) + 2
  let rowSql ← transferRow env row plan.fieldCount rowCapacity
  if 0 < state.rows ∧ (state.rows = plan.rowLimit ∨
      HUGE_BUFSIZE - state.buffer.length < rowSql.length + suffix.length + 3) then
    let (state, accepted) ← transferBatch env suffix state
    if !accepted then some (state, false)
    else
      let state ← putRow opening rowSql row { state with rows := 0 }
      some (state, true)
  else
    let state ← putRow opening rowSql row state
    some (state, true)

/-- The loop over the rows: the state, and `success`. -/
def transferRows (env : TransferEnv) (plan : TransferPlan) (opening suffix : Text) :
    TransferState → List ResultRow → Option (TransferState × Bool)
  | state, [] => some (state, true)
  | state, row :: rows => do
    let (state, continues) ← transferStep env plan opening suffix state row
    if continues then transferRows env plan opening suffix state rows else some (state, false)

/-- The rows that are fetched before the end or an error. -/
def TransferEnv.fetched (env : TransferEnv) (rows : List ResultRow) : List ResultRow :=
  match env.fetchError with
  | none => rows
  | some position => rows.take position

/-- `transfer_table`: the statements that were sent and the answer.  `none` is
the end of the process. -/
def transferTable (env : TransferEnv) (plan : TransferPlan) (rows : List ResultRow) :
    Option (List TransferStatement × Bool) := do
  let (_, opening, suffix) ← transferQueries env plan
  if !env.answered then some ([], false)
  else if env.fields ≠ plan.fieldCount then some ([], false)
  else if !env.allocated then some ([], false)
  else
    let (state, success) ← transferRows env plan opening suffix ⟨[], 0, [], []⟩ (env.fetched rows)
    -- After a loop that was left early, `success` is already `FALSE`.
    let success := success && env.fetchError.isNone
    if success ∧ 0 < state.rows then
      let (state, accepted) ← transferBatch env suffix state
      some (state.sent, accepted)
    else some (state.sent, success)

/-! ## What a statement carries -/

/-- A whole field in a statement. -/
def fieldText (env : TransferEnv) : Option Text → Text
  | none => lit "NULL"
  | some value => lit "'" ++ cstr (env.escape value) ++ lit "'"

/-- A row with all its fields. -/
def rowText (env : TransferEnv) (row : ResultRow) : Text :=
  lit "(" ++ joinEntries (row.map (fieldText env)) ++ lit ")"

/-- A statement with its rows. -/
def statementText (env : TransferEnv) (opening suffix : Text) (rows : List ResultRow) : Text :=
  opening ++ joinEntries (rows.map (rowText env)) ++ suffix

/-- A row of the plan.  A field is `NULL` or at most 2047 bytes. -/
structure RowFits (plan : TransferPlan) (row : ResultRow) : Prop where
  length_eq : row.length = plan.fieldCount
  field : ∀ value, some value ∈ row → value.length ≤ 2047 ∧ (0 : UInt8) ∉ value

section Row

variable {env : TransferEnv} {plan : TransferPlan} {row : ResultRow}
  (hescape : EscapeBound env.escape) (hrow : RowFits plan row)

include hrow in
/-- No field is cut. -/
theorem fieldSql_eq {field : Option Text} (hfield : field ∈ row) :
    fieldSql env field = fieldText env field := by
  cases field with
  | none => rfl
  | some value =>
    have hvalue := (hrow.field value hfield).1
    rw [fieldSql, fieldText, dbEscape_eq env.escape (by decide)]
    have hhalf : (DBL_BUFSIZE * 2 - 1) / 2 = 2047 := rfl
    omega

include hescape hrow in
theorem fieldText_length_le {field : Option Text} (hfield : field ∈ row) :
    (fieldText env field).length ≤ 4096 := by
  cases field with
  | none => exact le_trans (by decide : (lit "NULL").length ≤ 4) (by decide)
  | some value =>
    have hvalue := (hrow.field value hfield).1
    have hbytes := (cstr_length_le (env.escape value)).trans (hescape value)
    have hquote : (lit "'").length = 1 := length_lit _
    simp only [fieldText, List.length_append, hquote]
    omega

include hescape hrow in
theorem rowText_length_le : (rowText env row).length ≤ plan.fieldCount * 4098 + 2 := by
  have hfields : ∀ entry ∈ row.map (fieldText env), entry.length ≤ 4096 := by
    intro entry hentry
    obtain ⟨field, hfield, rfl⟩ := List.mem_map.1 hentry
    exact fieldText_length_le hescape hrow hfield
  have hjoined := joinEntries_length_le hfields
  have hopen : (lit "(").length = 1 := length_lit _
  have hclose : (lit ")").length = 1 := length_lit _
  rw [List.length_map, hrow.length_eq] at hjoined
  rw [rowText, List.length_append, List.length_append, hopen, hclose]
  omega

include hescape hrow in
/-- A row fits its buffer, and all its fields are in its text. -/
theorem transferRow_eq (hfields : 0 < plan.fieldCount) :
    transferRow env row plan.fieldCount (plan.fieldCount * (DBL_BUFSIZE * 2 + 4) + 2) =
      some (rowText env row) := by
  have hbound : (rowText env row).length < plan.fieldCount * (DBL_BUFSIZE * 2 + 4) + 2 := by
    have hlength := rowText_length_le hescape hrow
    have hcell : DBL_BUFSIZE * 2 + 4 = 4100 := rfl
    rw [hcell]
    omega
  generalize plan.fieldCount * (DBL_BUFSIZE * 2 + 4) + 2 = capacity at hbound
  have hopen : (lit "(").length < capacity := by
    rw [rowText, List.length_append, List.length_append] at hbound
    omega
  have hentries : (lit "(" ++ joinEntries ([] ++ row.map (fieldText env))).length < capacity := by
    rw [rowText, List.length_append] at hbound
    rw [List.nil_append]
    omega
  have hjoined : appendEntries capacity 0 (lit "(") (row.map (fieldText env)) =
      some (lit "(" ++ joinEntries (row.map (fieldText env))) := appendEntries_of_lt [] hentries
  have hwhole : (row.take plan.fieldCount).map (fieldSql env) = row.map (fieldText env) := by
    rw [List.take_of_length_le hrow.length_eq.le]
    exact List.map_congr_left fun field hfield => fieldSql_eq hrow hfield
  rw [transferRow, spineSnprintf_of_lt hopen, hwhole]
  show (appendEntries capacity 0 (lit "(") _).bind _ = _
  rw [hjoined]
  exact appendText_of_lt hbound

end Row

/-! ## The invariant -/

/-- A statement carries its rows, at least one and not more than the limit. -/
structure Carried (env : TransferEnv) (plan : TransferPlan) (opening suffix : Text)
    (statement : TransferStatement) : Prop where
  query : statement.query = statementText env opening suffix statement.rows
  nonempty : statement.rows ≠ []
  limited : statement.rows.length ≤ plan.rowLimit

/-- The statements have the answers that `db_insert` gave to them. -/
def AnswersTo (env : TransferEnv) (sent : List TransferStatement) : Prop :=
  ∀ k statement, sent[k]? = some statement → statement.accepted = env.accepts k

theorem AnswersTo.concat {env : TransferEnv} {sent : List TransferStatement}
    (h : AnswersTo env sent) (query : Text) (rows : List ResultRow) :
    AnswersTo env (sent ++ [⟨query, env.accepts sent.length, rows⟩]) := by
  intro k statement hk
  rcases Nat.lt_trichotomy k sent.length with hlt | rfl | hgt
  · rw [List.getElem?_append_left hlt] at hk
    exact h k statement hk
  · rw [List.getElem?_concat_length] at hk
    cases hk
    rfl
  · rw [List.getElem?_eq_none (by simp; omega)] at hk
    cases hk

/-- The state after the rows in `done`: they were sent or are in the buffer, and
the buffer has room for the suffix. -/
structure TransferInv (env : TransferEnv) (plan : TransferPlan) (opening suffix : Text)
    (done : List ResultRow) (state : TransferState) : Prop where
  carried : state.sent.flatMap TransferStatement.rows ++ state.batch = done
  rows : state.rows = state.batch.length
  buffer : state.batch ≠ [] →
    state.buffer = opening ++ joinEntries (state.batch.map (rowText env))
  room : state.batch ≠ [] → state.buffer.length + suffix.length < HUGE_BUFSIZE
  limited : state.batch.length ≤ plan.rowLimit
  answers : AnswersTo env state.sent
  sent : ∀ statement ∈ state.sent,
    Carried env plan opening suffix statement ∧ statement.accepted = true

/-- The state after a statement that was refused: the rows in `done` were all
sent, and the last statement alone was not accepted. -/
structure Refused (env : TransferEnv) (plan : TransferPlan) (opening suffix : Text)
    (done : List ResultRow) (sent : List TransferStatement) : Prop where
  split : ∃ front last, sent = front ++ [last] ∧ last.accepted = false ∧
    ∀ statement ∈ front, statement.accepted = true
  carried : sent.flatMap TransferStatement.rows = done
  answers : AnswersTo env sent
  statements : ∀ statement ∈ sent, Carried env plan opening suffix statement

/-- All rows in `done` are in statements that were accepted. -/
structure Delivered (env : TransferEnv) (plan : TransferPlan) (opening suffix : Text)
    (done : List ResultRow) (sent : List TransferStatement) : Prop where
  carried : sent.flatMap TransferStatement.rows = done
  answers : AnswersTo env sent
  statements : ∀ statement ∈ sent,
    Carried env plan opening suffix statement ∧ statement.accepted = true

section Loop

variable {env : TransferEnv} {plan : TransferPlan} {opening suffix : Text}
  {done : List ResultRow} {state : TransferState} {row : ResultRow}

theorem TransferInv.start (env : TransferEnv) (plan : TransferPlan) (opening suffix : Text) :
    TransferInv env plan opening suffix [] ⟨[], 0, [], []⟩ :=
  ⟨rfl, rfl, fun h => absurd rfl h, fun h => absurd rfl h, Nat.zero_le _, nofun, nofun⟩

/-- The statement in the buffer goes out whole. -/
theorem transferBatch_inv (h : TransferInv env plan opening suffix done state)
    (hsome : 0 < state.rows) :
    ∃ query accepted, transferBatch env suffix state =
        some (⟨query, state.rows, state.batch,
          state.sent ++ [⟨query, accepted, state.batch⟩]⟩, accepted) ∧
      (accepted = true → Delivered env plan opening suffix done
        (state.sent ++ [⟨query, accepted, state.batch⟩])) ∧
      (accepted = false → Refused env plan opening suffix done
        (state.sent ++ [⟨query, accepted, state.batch⟩])) := by
  have hne : state.batch ≠ [] := by
    intro hnil
    rw [h.rows, hnil] at hsome
    exact absurd hsome (lt_irrefl _)
  have hroom : (state.buffer ++ suffix).length < HUGE_BUFSIZE := by
    rw [List.length_append]
    exact h.room hne
  have hlast : ∀ accepted, Carried env plan opening suffix
      ⟨state.buffer ++ suffix, accepted, state.batch⟩ :=
    fun accepted => ⟨by rw [h.buffer hne]; rfl, hne, h.limited⟩
  have hcarried : ∀ accepted, (state.sent ++ [(⟨state.buffer ++ suffix, accepted, state.batch⟩ :
      TransferStatement)]).flatMap TransferStatement.rows = done := by
    intro accepted
    rw [List.flatMap_append, List.flatMap_singleton]
    exact h.carried
  refine ⟨state.buffer ++ suffix, env.accepts state.sent.length, ?_, fun haccepted => ?_,
    fun hrefused => ?_⟩
  · rw [transferBatch, appendText_of_lt hroom]
    rfl
  · refine ⟨hcarried _, h.answers.concat _ _, fun statement hstatement => ?_⟩
    rcases List.mem_append.1 hstatement with hold | hnew
    · exact h.sent statement hold
    · rw [List.mem_singleton.1 hnew]
      exact ⟨hlast _, haccepted⟩
  · refine ⟨⟨state.sent, _, rfl, hrefused, fun statement hstatement =>
      (h.sent statement hstatement).2⟩, hcarried _, h.answers.concat _ _,
      fun statement hstatement => ?_⟩
    rcases List.mem_append.1 hstatement with hold | hnew
    · exact (h.sent statement hold).1
    · rw [List.mem_singleton.1 hnew]
      exact hlast _

/-- The first row of a statement. -/
theorem putRow_first (buffer : Text) (batch : List ResultRow) {sent : List TransferStatement}
    (hroom : opening.length + (rowText env row).length + suffix.length < HUGE_BUFSIZE)
    (hlimit : 0 < plan.rowLimit) (h : Delivered env plan opening suffix done sent) :
    ∃ state, putRow opening (rowText env row) row ⟨buffer, 0, batch, sent⟩ = some state ∧
      0 < state.rows ∧ TransferInv env plan opening suffix (done ++ [row]) state := by
  have hopening : opening.length < HUGE_BUFSIZE := by omega
  have hrow : (opening ++ rowText env row).length < HUGE_BUFSIZE := by
    rw [List.length_append]
    omega
  refine ⟨⟨opening ++ rowText env row, 1, [row], sent⟩, ?_, Nat.one_pos, ?_⟩
  · rw [putRow, if_pos rfl, spineSnprintf_of_lt hopening]
    show (appendText HUGE_BUFSIZE opening (rowText env row)).bind _ = _
    rw [appendText_of_lt hrow]
    rfl
  · refine ⟨by rw [h.carried], rfl, fun _ => ?_, fun _ => ?_, hlimit, h.answers, h.statements⟩
    · simp [joinEntries]
    · rw [List.length_append]
      exact hroom

/-- One more row of a statement. -/
theorem putRow_next (h : TransferInv env plan opening suffix done state)
    (hrows : 0 < state.rows) (hlimit : state.rows ≠ plan.rowLimit)
    (hroom : state.buffer.length + (rowText env row).length + suffix.length + 3 ≤ HUGE_BUFSIZE) :
    ∃ next, putRow opening (rowText env row) row state = some next ∧
      0 < next.rows ∧ TransferInv env plan opening suffix (done ++ [row]) next := by
  have hne : state.batch ≠ [] := by
    intro hnil
    rw [h.rows, hnil] at hrows
    exact absurd hrows (lt_irrefl _)
  have hcomma : (lit ", ").length = 2 := length_lit _
  have hseparator : (state.buffer ++ lit ", ").length < HUGE_BUFSIZE := by
    rw [List.length_append]
    omega
  have hrow : (state.buffer ++ lit ", " ++ rowText env row).length < HUGE_BUFSIZE := by
    rw [List.length_append, List.length_append]
    omega
  refine ⟨⟨state.buffer ++ lit ", " ++ rowText env row, state.rows + 1, state.batch ++ [row],
    state.sent⟩, ?_, Nat.succ_pos _, ?_⟩
  · rw [putRow, if_neg hrows.ne', appendText_of_lt hseparator]
    show (appendText HUGE_BUFSIZE (state.buffer ++ lit ", ") (rowText env row)).bind _ = _
    rw [appendText_of_lt hrow, if_neg hrows.ne']
    rfl
  · have hnext : state.batch.length + 1 ≤ plan.rowLimit := by
      have hle := h.limited
      have hcount := h.rows
      omega
    refine ⟨?_, ?_, fun _ => ?_, fun _ => ?_, ?_, h.answers, h.sent⟩
    · rw [← List.append_assoc, h.carried]
    · rw [List.length_append, h.rows]
      rfl
    · rw [h.buffer hne, List.map_append, List.map_singleton, joinEntries_concat,
        if_neg (by simpa using hne)]
      simp only [List.append_assoc]
    · rw [List.length_append, List.length_append]
      omega
    · rw [List.length_append]
      exact hnext

/-- What one row does: it is in the buffer afterwards, or a statement was
refused before it. -/
theorem transferStep_inv (hescape : EscapeBound env.escape) (hfields : 0 < plan.fieldCount)
    (hlimit : 0 < plan.rowLimit)
    (hopening : opening.length + (plan.fieldCount * 4098 + 2) + suffix.length < HUGE_BUFSIZE)
    (hrow : RowFits plan row) (h : TransferInv env plan opening suffix done state) :
    ∃ next continues, transferStep env plan opening suffix state row = some (next, continues) ∧
      (continues = true → 0 < next.rows ∧
        TransferInv env plan opening suffix (done ++ [row]) next) ∧
      (continues = false → Refused env plan opening suffix done next.sent) := by
  have hlength := rowText_length_le hescape hrow
  have hfirst : opening.length + (rowText env row).length + suffix.length < HUGE_BUFSIZE := by
    omega
  unfold transferStep
  dsimp only
  rw [transferRow_eq hescape hrow hfields]
  dsimp only [Option.bind_eq_bind, Option.bind_some]
  split
  · rename_i hfull
    obtain ⟨query, accepted, hbatch, hdelivered, hrefused⟩ := transferBatch_inv h hfull.1
    rw [hbatch]
    cases accepted with
    | false => exact ⟨_, false, rfl, nofun, fun _ => hrefused rfl⟩
    | true =>
      obtain ⟨next, hput, hpositive, hinv⟩ :=
        putRow_first query state.batch hfirst hlimit (hdelivered rfl)
      refine ⟨next, true, ?_, fun _ => ⟨hpositive, hinv⟩, nofun⟩
      show (putRow opening (rowText env row) row ⟨query, 0, state.batch, _⟩).bind _ = _
      rw [hput]
      rfl
  · rename_i hroomy
    have hput : ∃ next, putRow opening (rowText env row) row state = some next ∧
        0 < next.rows ∧ TransferInv env plan opening suffix (done ++ [row]) next := by
      by_cases hzero : state.rows = 0
      · have hdelivered : Delivered env plan opening suffix done state.sent := by
          have hnil : state.batch = [] := List.eq_nil_of_length_eq_zero (h.rows.symm.trans hzero)
          refine ⟨?_, h.answers, h.sent⟩
          rw [← h.carried, hnil, List.append_nil]
        have hstate : state = ⟨state.buffer, 0, state.batch, state.sent⟩ := by rw [← hzero]
        rw [hstate]
        exact putRow_first state.buffer state.batch hfirst hlimit hdelivered
      · have hnot : ¬ (state.rows = plan.rowLimit ∨ HUGE_BUFSIZE - state.buffer.length <
            (rowText env row).length + suffix.length + 3) := fun hor =>
          hroomy ⟨Nat.pos_of_ne_zero hzero, hor⟩
        obtain ⟨hbelow, hroom⟩ := not_or.1 hnot
        exact putRow_next h (Nat.pos_of_ne_zero hzero) hbelow (by omega)
    obtain ⟨next, hput, hpositive, hinv⟩ := hput
    rw [hput]
    exact ⟨next, true, rfl, fun _ => ⟨hpositive, hinv⟩, nofun⟩

/-- The whole loop: all rows are sent or in the buffer, or a statement was
refused after some of them. -/
theorem transferRows_spec (hescape : EscapeBound env.escape) (hfields : 0 < plan.fieldCount)
    (hlimit : 0 < plan.rowLimit)
    (hopening : opening.length + (plan.fieldCount * 4098 + 2) + suffix.length < HUGE_BUFSIZE)
    {rows : List ResultRow} (hrows : ∀ row ∈ rows, RowFits plan row)
    (h : TransferInv env plan opening suffix done state) :
    ∃ last success, transferRows env plan opening suffix state rows = some (last, success) ∧
      (success = true → TransferInv env plan opening suffix (done ++ rows) last) ∧
      (success = false → ∃ front, front <+: done ++ rows ∧
        Refused env plan opening suffix front last.sent) := by
  induction rows generalizing state done with
  | nil => exact ⟨state, true, rfl, fun _ => by rwa [List.append_nil], nofun⟩
  | cons row rows ih =>
    obtain ⟨next, continues, hstep, hgoes, hstops⟩ :=
      transferStep_inv hescape hfields hlimit hopening (hrows row List.mem_cons_self) h
    rw [transferRows, hstep]
    cases continues with
    | false =>
      exact ⟨next, false, rfl, nofun, fun _ => ⟨done, List.prefix_append _ _, hstops rfl⟩⟩
    | true =>
      have hrest : ∀ row ∈ rows, RowFits plan row := fun row hmem =>
        hrows row (List.mem_cons_of_mem _ hmem)
      obtain ⟨last, success, hrun, hdone, hrefused⟩ := ih hrest (hgoes rfl).2
      rw [List.append_assoc, List.singleton_append] at hdone hrefused
      exact ⟨last, success, hrun, hdone, hrefused⟩

end Loop

/-! ## The two plans -/

/-- `host_plan`. -/
def hostPlan : TransferPlan where
  table := lit "host"
  columns := lit (
    "id, snmp_sysDescr, snmp_sysObjectID, snmp_sysUpTimeInstance, snmp_sysContact, " ++
    "snmp_sysName, snmp_sysLocation, status, status_event_count, status_fail_date, " ++
    "status_rec_date, status_last_error, min_time, max_time, cur_time, avg_time, polling_time, " ++
    "total_polls, failed_polls, availability, last_updated")
  filterColumn := lit "id"
  orderColumn := lit "id"
  updates := [lit "snmp_sysDescr", lit "snmp_sysObjectID", lit "snmp_sysUpTimeInstance",
    lit "snmp_sysContact", lit "snmp_sysName", lit "snmp_sysLocation", lit "status",
    lit "status_event_count", lit "status_fail_date", lit "status_rec_date",
    lit "status_last_error", lit "min_time", lit "max_time", lit "cur_time", lit "avg_time",
    lit "polling_time", lit "total_polls", lit "failed_polls", lit "availability",
    lit "last_updated"]
  fieldCount := 21
  rowLimit := 500

/-- `item_plan`. -/
def itemPlan : TransferPlan where
  table := lit "poller_item"
  columns := lit "local_data_id, host_id, rrd_name, rrd_step, rrd_next_step"
  filterColumn := lit "host_id"
  orderColumn := lit "local_data_id, rrd_name"
  updates := [lit "rrd_next_step"]
  fieldCount := 5
  rowLimit := 10000

/-- `poller_transfer_status`: the statements for both tables, and the answer. -/
def pollerTransferStatus (hostEnv itemEnv : TransferEnv) (hosts items : List ResultRow) :
    Option (List TransferStatement × List TransferStatement × Bool) := do
  let (hostStatements, success) ← transferTable hostEnv hostPlan hosts
  if !success then some (hostStatements, [], false)
  else
    let (itemStatements, success) ← transferTable itemEnv itemPlan items
    some (hostStatements, itemStatements, success)

/-- The texts of a plan fit their buffers. -/
structure PlanFits (plan : TransferPlan) : Prop where
  fields : 0 < plan.fieldCount
  limit : 0 < plan.rowLimit
  columns : plan.columns.length + plan.table.length + plan.filterColumn.length +
    plan.orderColumn.length < 900
  updates : (joinEntries (plan.updates.map assignment)).length < 900
  row : plan.fieldCount * 4098 < 2000000

theorem length_assignment (column : Text) :
    (assignment column).length = 2 * column.length + 9 := by
  have hvalues : (lit "=VALUES(").length = 8 := length_lit _
  have hclose : (lit ")").length = 1 := length_lit _
  simp only [assignment, List.length_append, hvalues, hclose]
  omega

theorem assignments_length_le (columns : List Text) :
    (joinEntries (columns.map assignment)).length ≤
      ((columns.map List.length).map fun length => 2 * length + 11).sum := by
  refine (joinEntries_length_le_sum _).trans (le_of_eq ?_)
  simp only [List.map_map, Function.comp_def, length_assignment, Nat.add_assoc]

theorem hostPlan_updates_length : hostPlan.updates.map List.length =
    [13, 16, 22, 15, 12, 16, 6, 18, 16, 15, 17, 8, 8, 8, 8, 12, 11, 12, 12, 12] := by
  repeat' refine congrArg₂ List.cons (length_lit _) ?_
  rfl

theorem hostPlan_fits : PlanFits hostPlan := by
  refine ⟨by decide, by decide, ?_, ?_, by decide⟩
  · -- the four pieces of the column list, the table and the two columns named `id`
    have hsum : ∀ a b c d e f : Nat, a = 78 → b = 78 → c = 90 → d = 53 → e = 4 → f = 2 →
        a + b + c + d + e + f + f < 900 := by
      omega
    simp only [hostPlan, lit_append, List.length_append]
    exact hsum _ _ _ _ _ _ (length_lit _) (length_lit _) (length_lit _) (length_lit _)
      (length_lit _) (length_lit _)
  · refine (assignments_length_le _).trans_lt ?_
    rw [hostPlan_updates_length]
    decide

theorem itemPlan_fits : PlanFits itemPlan := by
  refine ⟨by decide, by decide, ?_, ?_, by decide⟩
  · have hsum : ∀ a b c d : Nat, a = 57 → b = 11 → c = 7 → d = 23 → a + b + c + d < 900 := by
      omega
    exact hsum _ _ _ _ (length_lit _) (length_lit _) (length_lit _) (length_lit _)
  · refine (assignments_length_le _).trans_lt ?_
    have hlength : itemPlan.updates.map List.length = [13] := congrArg₂ List.cons (length_lit _) rfl
    rw [hlength]
    decide

/-- The text after the rows. -/
def TransferPlan.suffix (plan : TransferPlan) : Text :=
  lit " ON DUPLICATE KEY UPDATE " ++ joinEntries (plan.updates.map assignment)

section Plan

variable {env : TransferEnv} {plan : TransferPlan}

theorem PlanFits.opening_lt (h : PlanFits plan) : plan.opening.length < BUFSIZE := by
  have hcolumns := h.columns
  have hinsert : (lit "INSERT INTO ").length = 12 := length_lit _
  have hopen : (lit " (").length = 2 := length_lit _
  have hvalues : (lit ") VALUES ").length = 9 := length_lit _
  have hsize : BUFSIZE = 1024 := rfl
  simp only [TransferPlan.opening, List.length_append, hinsert, hopen, hvalues]
  omega

theorem PlanFits.suffix_lt (h : PlanFits plan) : plan.suffix.length < BUFSIZE := by
  have hupdates := h.updates
  have hupdate : (lit " ON DUPLICATE KEY UPDATE ").length = 25 := length_lit _
  have hsize : BUFSIZE = 1024 := rfl
  simp only [TransferPlan.suffix, List.length_append, hupdate]
  omega

/-- The query of a plan. -/
def queryText (env : TransferEnv) (plan : TransferPlan) : Text :=
  selectText env plan ++ filterText env plan ++ (lit " ORDER BY " ++ plan.orderColumn)

theorem PlanFits.query_lt (env : TransferEnv) (h : PlanFits plan) :
    (queryText env plan).length < MEGA_BUFSIZE := by
  have hcolumns := h.columns
  have hlist := env.hostIdList_fits
  have hpoller := decimalInt_length_le env.pollerId
  have hselect : (lit "SELECT SQL_NO_CACHE ").length = 20 := length_lit _
  have hfrom : (lit " FROM ").length = 6 := length_lit _
  have hwhere : (lit " WHERE poller_id = ").length = 19 := length_lit _
  have hand : (lit " AND ").length = 5 := length_lit _
  have hin : (lit " IN (").length = 5 := length_lit _
  have hclose : (lit ")").length = 1 := length_lit _
  have horder : (lit " ORDER BY ").length = 10 := length_lit _
  have hmega : MEGA_BUFSIZE = 1024000 := rfl
  have hbig : BIG_BUFSIZE = 65535 := rfl
  unfold queryText selectText filterText
  split
  · simp only [List.length_append, hselect, hfrom, hwhere, hand, hin, hclose, horder]
    omega
  · simp only [List.length_append, hselect, hfrom, hwhere, horder, List.length_nil]
    omega

/-- All texts of a plan are built whole. -/
theorem transferQueries_eq (env : TransferEnv) (h : PlanFits plan) :
    transferQueries env plan = some (queryText env plan, plan.opening, plan.suffix) := by
  have hquery := h.query_lt env
  have hassignments : appendEntries BUFSIZE 0 (lit " ON DUPLICATE KEY UPDATE ")
      (plan.updates.map assignment) = some plan.suffix := appendEntries_of_lt [] h.suffix_lt
  have hupdate : (lit " ON DUPLICATE KEY UPDATE ").length < BUFSIZE := by decide
  have hfilter : (selectText env plan ++ filterText env plan).length < MEGA_BUFSIZE := by
    rw [queryText, List.length_append] at hquery
    omega
  have hselect : (selectText env plan).length < MEGA_BUFSIZE := by
    rw [List.length_append] at hfilter
    omega
  unfold transferQueries
  dsimp only [Option.bind_eq_bind]
  rw [spineSnprintf_of_lt hselect, Option.bind_some, appendText_of_lt hfilter, Option.bind_some,
    appendText_of_lt hquery, Option.bind_some, spineSnprintf_of_lt h.opening_lt, Option.bind_some,
    spineSnprintf_of_lt hupdate, Option.bind_some, hassignments]
  rfl

end Plan

/-! ## The result -/

section Result

variable {env : TransferEnv} {plan : TransferPlan} {opening suffix : Text}
  {done : List ResultRow} {sent : List TransferStatement}

/-- The rows of the statements that were accepted. -/
def acceptedRows (sent : List TransferStatement) : List ResultRow :=
  (sent.filter TransferStatement.accepted).flatMap TransferStatement.rows

theorem Delivered.acceptedRows_eq (h : Delivered env plan opening suffix done sent) :
    acceptedRows sent = done := by
  have hall : sent.filter TransferStatement.accepted = sent :=
    List.filter_eq_self.2 fun statement hstatement => (h.statements statement hstatement).2
  rw [acceptedRows, hall, h.carried]

/-- The rows of the statement that was refused are missing. -/
theorem Refused.acceptedRows_ne (h : Refused env plan opening suffix done sent)
    {rows : List ResultRow} (hrows : done <+: rows) : acceptedRows sent ≠ rows := by
  obtain ⟨front, last, hsplit, hlast, hfront⟩ := h.split
  have hcarried := h.carried
  have hnonempty := (h.statements last (by rw [hsplit]; simp)).nonempty
  intro heq
  have haccepted : acceptedRows sent = front.flatMap TransferStatement.rows := by
    rw [acceptedRows, hsplit, List.filter_append, List.filter_eq_self.2 hfront,
      List.filter_singleton, hlast]
    simp
  rw [hsplit, List.flatMap_append, List.flatMap_singleton, ← haccepted, heq] at hcarried
  have hlength := hrows.length_le
  rw [← hcarried, List.length_append] at hlength
  exact hnonempty (List.eq_nil_of_length_eq_zero (by omega))

/-- What holds of the statements whatever the answers were. -/
def WellSent (env : TransferEnv) (plan : TransferPlan) (opening suffix : Text)
    (rows : List ResultRow) (sent : List TransferStatement) : Prop :=
  sent.flatMap TransferStatement.rows <+: rows ∧ AnswersTo env sent ∧
    ∀ statement ∈ sent, statement.query = statementText env opening suffix statement.rows ∧
      statement.rows ≠ [] ∧ statement.rows.length ≤ plan.rowLimit

theorem wellSent_of_carried {rows : List ResultRow}
    (hrows : sent.flatMap TransferStatement.rows <+: rows) (hanswers : AnswersTo env sent)
    (h : ∀ statement ∈ sent, Carried env plan opening suffix statement) :
    WellSent env plan opening suffix rows sent :=
  ⟨hrows, hanswers, fun statement hstatement =>
    ⟨(h statement hstatement).query, (h statement hstatement).nonempty,
      (h statement hstatement).limited⟩⟩

theorem TransferEnv.fetched_isPrefix (env : TransferEnv) (rows : List ResultRow) :
    env.fetched rows <+: rows := by
  unfold TransferEnv.fetched
  split
  · exact List.prefix_refl rows
  · exact List.take_prefix _ rows

/-- How a transfer of the rows ends. -/
structure TransferEnds (env : TransferEnv) (plan : TransferPlan) (opening suffix : Text)
    (rows : List ResultRow) (sent : List TransferStatement) (success : Bool) : Prop where
  wellSent : WellSent env plan opening suffix rows sent
  success_iff : success = true ↔ env.fetchError = none ∧ acceptedRows sent = rows

theorem Delivered.ends {rows : List ResultRow} (h : Delivered env plan opening suffix rows sent)
    (hfetch : env.fetchError = none) : TransferEnds env plan opening suffix rows sent true := by
  refine ⟨wellSent_of_carried (h.carried ▸ List.prefix_refl _) h.answers fun statement hmem =>
    (h.statements statement hmem).1, ?_⟩
  exact iff_of_true rfl ⟨hfetch, h.acceptedRows_eq⟩

theorem Refused.ends {rows : List ResultRow} (h : Refused env plan opening suffix done sent)
    (hpart : done <+: rows) : TransferEnds env plan opening suffix rows sent false := by
  refine ⟨wellSent_of_carried (h.carried ▸ hpart) h.answers h.statements, ?_⟩
  exact iff_of_false Bool.false_ne_true fun hsuccess => h.acceptedRows_ne hpart hsuccess.2

/-- The rows could not all be fetched, and the buffer does not go out. -/
theorem TransferInv.ends_of_error {rows : List ResultRow} {state : TransferState} {position : Nat}
    (h : TransferInv env plan opening suffix (env.fetched rows) state)
    (hfetch : env.fetchError = some position) :
    TransferEnds env plan opening suffix rows state.sent false := by
  have hpart : state.sent.flatMap TransferStatement.rows <+: env.fetched rows :=
    h.carried ▸ List.prefix_append _ _
  refine ⟨wellSent_of_carried (hpart.trans (env.fetched_isPrefix rows)) h.answers
    fun statement hmem => (h.sent statement hmem).1, ?_⟩
  rw [hfetch]
  exact iff_of_false Bool.false_ne_true fun hsuccess => nomatch hsuccess.1

/-- All rows were fetched: what is left in the buffer goes out. -/
theorem TransferInv.ends {rows : List ResultRow} {state : TransferState}
    (h : TransferInv env plan opening suffix rows state) (hfetch : env.fetchError = none) :
    ∃ sent success,
      (if 0 < state.rows then (transferBatch env suffix state).map fun r => (r.1.sent, r.2)
        else some (state.sent, true)) = some (sent, success) ∧
      TransferEnds env plan opening suffix rows sent success := by
  by_cases hpending : 0 < state.rows
  · obtain ⟨query, accepted, hbatch, hdelivered, hrefused⟩ := transferBatch_inv h hpending
    rw [if_pos hpending, hbatch]
    refine ⟨_, accepted, rfl, ?_⟩
    cases accepted with
    | true => exact (hdelivered rfl).ends hfetch
    | false => exact (hrefused rfl).ends (List.prefix_refl rows)
  · -- There was no row at all.
    have hnil : state.batch = [] := List.eq_nil_of_length_eq_zero (by
      have hcount := h.rows
      omega)
    have hlast : Delivered env plan opening suffix rows state.sent := by
      refine ⟨?_, h.answers, h.sent⟩
      rw [← h.carried, hnil, List.append_nil]
    rw [if_neg hpending]
    exact ⟨state.sent, true, rfl, hlast.ends hfetch⟩

end Result

/-- A transfer whose result came back with the expected fields, with both
buffers allocated. -/
structure TransferReady (env : TransferEnv) (plan : TransferPlan) (rows : List ResultRow) :
    Prop where
  escape : EscapeBound env.escape
  answered : env.answered = true
  fields : env.fields = plan.fieldCount
  allocated : env.allocated = true
  rows : ∀ row ∈ rows, RowFits plan row

theorem PlanFits.transferTable_ends {env : TransferEnv} {plan : TransferPlan}
    {rows : List ResultRow} (hfits : PlanFits plan) (hready : TransferReady env plan rows) :
    ∃ sent success, transferTable env plan rows = some (sent, success) ∧
      TransferEnds env plan plan.opening plan.suffix rows sent success := by
  have hopening : plan.opening.length + (plan.fieldCount * 4098 + 2) + plan.suffix.length <
      HUGE_BUFSIZE := by
    have hfront := hfits.opening_lt
    have hback := hfits.suffix_lt
    have hrow := hfits.row
    have hsize : BUFSIZE = 1024 := rfl
    have hhuge : HUGE_BUFSIZE = 2048000 := rfl
    omega
  have hfetched := env.fetched_isPrefix rows
  obtain ⟨state, success, hrun, hdone, hrefused⟩ :=
    transferRows_spec hready.escape hfits.fields hfits.limit hopening
      (fun row hrow => hready.rows row (hfetched.subset hrow))
      (TransferInv.start env plan plan.opening plan.suffix)
  rw [List.nil_append] at hdone hrefused
  unfold transferTable
  rw [transferQueries_eq env hfits]
  dsimp only [Option.bind_eq_bind, Option.bind_some]
  rw [if_neg (by simp [hready.answered]), if_neg (by simp [hready.fields]),
    if_neg (by simp [hready.allocated]), hrun]
  dsimp only [Option.bind_some]
  cases success with
  | false =>
    obtain ⟨front, hfront, hstate⟩ := hrefused rfl
    exact ⟨state.sent, false, rfl, hstate.ends (hfront.trans hfetched)⟩
  | true =>
    cases herror : env.fetchError with
    | some position => exact ⟨state.sent, false, rfl, (hdone rfl).ends_of_error herror⟩
    | none =>
      have hinv := hdone rfl
      have hall : env.fetched rows = rows := by rw [TransferEnv.fetched, herror]
      rw [hall] at hinv
      obtain ⟨sent, success, hlast, hends⟩ := hinv.ends herror
      refine ⟨sent, success, ?_, hends⟩
      rw [← hlast]
      simp only [Option.isNone_none, Bool.and_true, true_and]
      split
      · cases transferBatch env plan.suffix state <;> rfl
      · rfl

/-- One of the two tables, with a result of the expected fields and both
buffers allocated.  No text is too long for its buffer.  The rows of the
statements are a front part of the result, each row once and with all its
fields, no statement has too few or too many, and each one has the answer that
`db_insert` gave to it.  The answer is `TRUE` exactly when there was no error and every
row is in a statement that was accepted. -/
theorem transferTable_correct (env : TransferEnv) (plan : TransferPlan)
    (hplan : plan = hostPlan ∨ plan = itemPlan) (hescape : EscapeBound env.escape)
    (hanswered : env.answered = true) (hfields : env.fields = plan.fieldCount)
    (hallocated : env.allocated = true) (rows : List ResultRow)
    (hrows : ∀ row ∈ rows, RowFits plan row) :
    ∃ sent success, transferTable env plan rows = some (sent, success) ∧
      WellSent env plan plan.opening plan.suffix rows sent ∧
      (success = true ↔ env.fetchError = none ∧ acceptedRows sent = rows) := by
  have hfits : PlanFits plan := by
    rcases hplan with rfl | rfl
    · exact hostPlan_fits
    · exact itemPlan_fits
  obtain ⟨sent, success, htable, hends⟩ :=
    hfits.transferTable_ends ⟨hescape, hanswered, hfields, hallocated, hrows⟩
  exact ⟨sent, success, htable, hends.wellSent, hends.success_iff⟩

/-- Both tables: the answer is `TRUE` exactly when all rows of both of them
arrived. -/
theorem pollerTransferStatus_success_iff {hostEnv itemEnv : TransferEnv}
    {hosts items : List ResultRow} (hhosts : TransferReady hostEnv hostPlan hosts)
    (hitems : TransferReady itemEnv itemPlan items) :
    ∃ hostSent itemSent success,
      pollerTransferStatus hostEnv itemEnv hosts items = some (hostSent, itemSent, success) ∧
      (success = true ↔ (hostEnv.fetchError = none ∧ acceptedRows hostSent = hosts) ∧
        itemEnv.fetchError = none ∧ acceptedRows itemSent = items) := by
  obtain ⟨hostSent, hostSuccess, hhost, hhostEnds⟩ := hostPlan_fits.transferTable_ends hhosts
  obtain ⟨itemSent, itemSuccess, hitem, hitemEnds⟩ := itemPlan_fits.transferTable_ends hitems
  unfold pollerTransferStatus
  rw [hhost]
  dsimp only [Option.bind_eq_bind, Option.bind_some]
  have hhostIff := hhostEnds.success_iff
  cases hostSuccess with
  | false =>
    refine ⟨hostSent, [], false, rfl, iff_of_false nofun fun h => ?_⟩
    exact Bool.false_ne_true (hhostIff.2 h.1)
  | true =>
    refine ⟨hostSent, itemSent, itemSuccess, ?_, ?_⟩
    · rw [hitem]
      rfl
    · rw [hitemEnds.success_iff]
      exact (and_iff_right (hhostIff.1 rfl)).symm

/-- A main server that accepts the first statement only. -/
private def fullServer : TransferEnv where
  pollerId := 2
  hostIdList := []
  hostIdList_fits := by decide
  escape := id
  answered := true
  fields := 5
  allocated := true
  fetchError := none
  accepts := fun k => k == 0

/-- An item whose next step is `NULL`. -/
private def idleItem : ResultRow :=
  [some (lit "12"), some (lit "7"), some (lit "traffic_in"), some (lit "300"), none]

/-- One item more than a statement takes. -/
private def idleItems : List ResultRow := List.replicate (itemPlan.rowLimit + 1) idleItem

/-- The second statement is refused, so the rows that arrive are those of the first. -/
private theorem acceptedRows_fullServer {sent : List TransferStatement}
    (hsent : WellSent fullServer itemPlan itemPlan.opening itemPlan.suffix idleItems sent) :
    acceptedRows sent ≠ idleItems := by
  obtain ⟨-, hanswers, hstatements⟩ := hsent
  have hlength : (acceptedRows sent).length ≤ itemPlan.rowLimit := by
    cases sent with
    | nil => exact Nat.zero_le _
    | cons first rest =>
      have hrest : rest.filter TransferStatement.accepted = [] := by
        refine List.filter_eq_nil_iff.2 fun statement hmem => ?_
        obtain ⟨k, hk⟩ := List.getElem?_of_mem hmem
        rw [hanswers (k + 1) statement hk]
        exact Bool.false_ne_true
      rw [acceptedRows, List.filter_cons, hrest]
      split
      · rw [List.flatMap_singleton]
        exact (hstatements first List.mem_cons_self).2.2
      · exact Nat.zero_le _
  intro heq
  rw [heq, idleItems, List.length_replicate] at hlength
  omega

theorem transferTable_correct_full_server :
    ∃ sent, transferTable fullServer itemPlan idleItems = some (sent, false) ∧
      WellSent fullServer itemPlan itemPlan.opening itemPlan.suffix idleItems sent := by
  have hitem : RowFits itemPlan idleItem := by
    refine ⟨rfl, fun value hvalue => ?_⟩
    simp only [idleItem, List.mem_cons, Option.some.injEq, reduceCtorEq, List.not_mem_nil,
      or_false] at hvalue
    rcases hvalue with rfl | rfl | rfl | rfl <;> decide
  have hescape : EscapeBound fullServer.escape := by
    intro text
    show text.length ≤ 2 * text.length
    omega
  obtain ⟨sent, success, htable, hsent, hsuccess⟩ :=
    transferTable_correct fullServer itemPlan (Or.inr rfl) hescape rfl rfl rfl idleItems
      fun row hrow => by
        rw [List.eq_of_mem_replicate hrow]
        exact hitem
  refine ⟨sent, ?_, hsent⟩
  cases success with
  | true => exact absurd (hsuccess.1 rfl).2 (acceptedRows_fullServer hsent)
  | false => exact htable

end Spine
