import Spine.Base.SqlLexer
import Spine.Database.Persistence

/-!
# How the server reads a row

The name and the result of an item come from outside of the program and may hold
any byte.  `write_poll_results` puts them into the text of an INSERT, and the
server reads the text token by token.

* The time.  `format_poller_output_row` writes `host_time` without quotes, so it
  accepts nothing but a number (`hostTimeDigits_eq_some_iff`).
* The row.  `lex_outputTuple` gives the tokens of a row in front of any text, and
  `parseTuple_outputTuple` reads the four values back.
* The statement.  Its tokens are those of the two fixed texts and those of its rows
  with a comma between them (`lex_outputStatement`).
* The function.  `writePollResults_values_quoted` says so for every row that is
  added and every statement that is sent, whatever the sizes of the buffers.
-/

namespace Spine

open Base.CString Base.SqlLiteral Base.SqlLexer

/-! ## The time -/

/-- A number as it is written in SQL: digits, at most one decimal point, and at
least one digit. -/
def IsSqlNumber (text : Text) : Prop :=
  (∀ b ∈ text, isNumberByte b = true) ∧ text.count 46 ≤ 1 ∧ ∃ b ∈ text, isDigit b = true

instance (text : Text) : Decidable (IsSqlNumber text) :=
  have := List.decidableBAll (isNumberByte · = true) text
  have := List.decidableBEx (isDigit · = true) text
  instDecidableAnd

section Time

variable {hostTime : Text} {points digits count : Nat}

/-- The loop counts the digits of a text with at most one decimal point. -/
theorem hostTimeDigits_eq_some_iff (hpoints : points ≤ 1) :
    hostTimeDigits points digits hostTime = some count ↔
      (∀ b ∈ hostTime, isNumberByte b = true) ∧ points + hostTime.count 46 ≤ 1 ∧
        count = digits + hostTime.countP isDigit := by
  induction hostTime generalizing points digits with
  | nil =>
    simp only [hostTimeDigits, Option.some.injEq, List.not_mem_nil, List.count_nil,
      List.countP_nil, false_implies, implies_true, true_and]
    omega
  | cons b rest ih =>
    rw [hostTimeDigits]
    by_cases hpoint : b = 46
    · subst hpoint
      rw [if_pos rfl, List.count_cons_self, List.countP_cons_of_neg (by decide)]
      split
      · constructor
        · intro h
          cases h
        · omega
      · rw [ih (by omega)]
        simp only [List.mem_cons, forall_eq_or_imp]
        have hnumber : isNumberByte 46 = true := rfl
        simp only [hnumber, true_and]
        constructor <;> rintro ⟨hbytes, hcount, hdigits⟩ <;> exact ⟨hbytes, by omega, hdigits⟩
    · rw [if_neg hpoint, List.count_cons_of_ne hpoint]
      cases hdigit : isDigit b with
      | false =>
        have hother : isNumberByte b = false := by simp [isNumberByte, hdigit, hpoint]
        rw [if_pos (by rfl)]
        simp [hother]
      | true =>
        have hnumber : isNumberByte b = true := by simp [isNumberByte, hdigit]
        rw [if_neg (by decide), ih hpoints, List.countP_cons_of_pos hdigit]
        simp only [List.mem_cons, forall_eq_or_imp, hnumber, true_and]
        constructor <;> rintro ⟨hbytes, hcount, hdigits⟩ <;> exact ⟨hbytes, hcount, by omega⟩

end Time

/-- A row is formatted only with a time that is a number. -/
theorem isSqlNumber_of_formatPollerOutputRow {outputSize : Nat} {localDataId : Int}
    {name hostTime result row : Text}
    (h : formatPollerOutputRow outputSize localDataId name hostTime result = some row) :
    IsSqlNumber hostTime := by
  obtain ⟨digits, hdigits, -⟩ := formatPollerOutputRow_cases h
  obtain ⟨hbytes, hpoints, hcount⟩ := (hostTimeDigits_eq_some_iff (by omega)).1 hdigits
  refine ⟨hbytes, by omega, ?_⟩
  obtain ⟨b, hb⟩ := List.countP_pos_iff.1 (show 0 < hostTime.countP isDigit by omega)
  exact ⟨b, hb⟩

/-! ## The row -/

/-- The four values of a row. -/
structure OutputRow where
  localDataId : Int
  rrdName : Text
  hostTime : Text
  result : Text
  deriving DecidableEq, Repr

/-- The tokens of an integer. -/
def integerTokens (i : Int) : List Token :=
  if i < 0 then [.punctuation 45, .number (decimal i.natAbs)] else [.number (decimal i.natAbs)]

/-- The tokens of a row: `(id, 'name', FROM_UNIXTIME(time), 'result')`. -/
def OutputRow.tokens (row : OutputRow) : List Token :=
  [.punctuation 40] ++ integerTokens row.localDataId ++
    [.punctuation 44, .string row.rrdName, .punctuation 44, .word (lit "FROM_UNIXTIME"),
      .punctuation 40, .number row.hostTime, .punctuation 41, .punctuation 44, .string row.result,
      .punctuation 41]

/-- Read an integer off the front of the tokens. -/
def readInteger : List Token → Option (Int × List Token)
  | .punctuation 45 :: .number digits :: rest =>
    if digits.all isDigit then some (-(digitsValue digits : Int), rest) else none
  | .number digits :: rest =>
    if digits.all isDigit then some ((digitsValue digits : Int), rest) else none
  | _ => none

/-- Read one row and nothing after it. -/
def readTuple : List Token → Option OutputRow
  | .punctuation 40 :: tokens =>
    match readInteger tokens with
    | some (id, [.punctuation 44, .string name, .punctuation 44, .word function,
        .punctuation 40, .number time, .punctuation 41, .punctuation 44, .string result,
        .punctuation 41]) =>
      if function = lit "FROM_UNIXTIME" ∧ IsSqlNumber time then some ⟨id, name, time, result⟩
      else none
    | _ => none
  | _ => none

/-- The row that a text is, if it is exactly one. -/
def parseTuple (text : Text) : Option OutputRow := (lex text).bind readTuple

section Row

variable {rest : Text} {row : OutputRow}

/-- What follows a number in a row ends it. -/
theorem lex_decimal (n : Nat) (rest : Text) :
    lex (decimal n ++ 44 :: rest) = (lex (44 :: rest)).map (.number (decimal n) :: ·) := by
  refine lex_number (decimal_ne_nil n) (fun b hb => ?_) (fun b hb => ?_)
  · rw [isNumberByte, isDigit_of_mem_decimal hb, Bool.true_or]
  · obtain rfl : 44 = b := Option.some.inj hb
    exact ⟨rfl, rfl⟩

theorem lex_decimalInt (i : Int) (rest : Text) :
    lex (decimalInt i ++ 44 :: rest) = (lex (44 :: rest)).map (integerTokens i ++ ·) := by
  unfold decimalInt integerTokens
  split
  · show lex (45 :: (decimal i.natAbs ++ 44 :: rest)) = _
    rw [lex_punctuation rfl rfl, lex_decimal, Option.map_map]
    rfl
  · rw [lex_decimal]
    rfl

/-- The bytes of a row in the order in which they are read. -/
theorem outputTuple_append (id : Int) (name hostTime result rest : Text) :
    outputTuple id name hostTime result ++ rest =
      40 :: (decimalInt id ++ 44 :: 32 :: 39 :: (name ++ 39 :: 44 :: 32 :: 70 ::
        (lit "ROM_UNIXTIME" ++ 40 :: (hostTime ++ 41 :: 44 :: 32 :: 39 ::
          (result ++ 39 :: 41 :: rest))))) := by
  unfold outputTuple
  simp only [List.append_assoc]
  rfl

/-- The tokens of a row in front of any text, whatever bytes its values have. -/
theorem lex_outputTuple (row : OutputRow) (htime : IsSqlNumber row.hostTime) (rest : Text) :
    lex (outputTuple row.localDataId (escape row.rrdName) row.hostTime (escape row.result) ++
      rest) = (lex rest).map (row.tokens ++ ·) := by
  have htimeNe : row.hostTime ≠ [] := by
    obtain ⟨b, hb, -⟩ := htime.2.2
    exact List.ne_nil_of_mem hb
  have hclose : ∀ b,
      (41 :: 44 :: 32 :: 39 :: (escape row.result ++ 39 :: 41 :: rest) : Text).head? = some b →
      isNumberByte b = false ∧ isWordByte b = false := by
    intro b hb
    obtain rfl : 41 = b := Option.some.inj hb
    exact ⟨rfl, rfl⟩
  have hopen : ∀ (tail : Text) b, (40 :: tail : Text).head? = some b →
      (isWordByte b || isDigit b) = false := by
    intro tail b hb
    obtain rfl : 40 = b := Option.some.inj hb
    rfl
  have hword : ∀ b ∈ lit "ROM_UNIXTIME", (isWordByte b || isDigit b) = true :=
    List.all_eq_true.1 (by decide)
  rw [outputTuple_append, lex_punctuation rfl rfl, lex_decimalInt, lex_punctuation rfl rfl,
    lex_space rfl, lex_escape _ (by exact nofun), lex_punctuation rfl rfl, lex_space rfl,
    lex_word rfl hword (hopen _), lex_punctuation rfl rfl, lex_number htimeNe htime.1 hclose,
    lex_punctuation rfl rfl, lex_punctuation rfl rfl, lex_space rfl, lex_escape _ (by exact nofun),
    lex_punctuation rfl rfl]
  simp only [Option.map_map]
  refine congrArg (Option.map · _) (funext fun tokens => ?_)
  unfold OutputRow.tokens
  simp only [Function.comp, List.append_assoc]
  rfl

theorem readInteger_integerTokens (i : Int) (rest : List Token) :
    readInteger (integerTokens i ++ rest) = some (i, rest) := by
  have hdigits : (decimal i.natAbs).all isDigit = true :=
    List.all_eq_true.2 fun _ hb => isDigit_of_mem_decimal hb
  unfold integerTokens
  split
  · show (if (decimal i.natAbs).all isDigit then
      some (-(digitsValue (decimal i.natAbs) : Int), rest) else none) = _
    rw [if_pos hdigits, digitsValue_decimal, Option.some.injEq, Prod.mk.injEq]
    exact ⟨by omega, rfl⟩
  · show (if (decimal i.natAbs).all isDigit then
      some ((digitsValue (decimal i.natAbs) : Int), rest) else none) = _
    rw [if_pos hdigits, digitsValue_decimal, Option.some.injEq, Prod.mk.injEq]
    exact ⟨by omega, rfl⟩

/-- A row is one tuple with the four values that it was made of. -/
theorem parseTuple_outputTuple (row : OutputRow) (htime : IsSqlNumber row.hostTime) :
    parseTuple (outputTuple row.localDataId (escape row.rrdName) row.hostTime
      (escape row.result)) = some row := by
  have htokens := lex_outputTuple row htime []
  rw [List.append_nil] at htokens
  rw [parseTuple, htokens]
  show readTuple (row.tokens ++ []) = some row
  rw [List.append_nil, OutputRow.tokens, List.append_assoc, List.singleton_append, readTuple,
    readInteger_integerTokens]
  exact if_pos ⟨rfl, htime⟩

end Row

/-! ## The items -/

/-- What is stored of an item.  The two buffers of the loop cut longer texts. -/
def storedRow (sizes : BufferSizes) (hostTime : Text) (item : Target) : OutputRow where
  localDataId := item.localDataId.toInt
  rrdName := item.rrdName.take ((DBL_BUFSIZE - 1) / 2)
  hostTime := hostTime
  result := item.result.take sizes.resultsBuffer

/-- `db_escape` escapes what fits, and no escape is cut. -/
theorem dbEscape_escape {maxSize : Nat} (h : 1 < maxSize) (input : Text) :
    dbEscape escape maxSize input = escape (input.take ((maxSize - 1) / 2)) := by
  rw [dbEscape, if_neg (by omega), cstr_escape]

/-- A buffer of `2 n + 1` bytes takes the escaped form of `n` bytes. -/
theorem dbEscape_results (n : Nat) (input : Text) :
    dbEscape escape (n * 2 + 1) input = escape (input.take n) := by
  cases n with
  | zero => rfl
  | succ n =>
    rw [dbEscape_escape (by omega)]
    congr 2
    omega

section Items

variable {sizes : BufferSizes} {hostTime text : Text} {item : Target}

/-- The text that is formatted for an item is a blank and one tuple of its values. -/
theorem formatItem_eq_some (h : formatItem sizes escape hostTime item = some text) :
    IsSqlNumber hostTime ∧ ∃ tuple, text = 32 :: tuple ∧
      tuple = outputTuple item.localDataId.toInt (escape (storedRow sizes hostTime item).rrdName)
        hostTime (escape (storedRow sizes hostTime item).result) := by
  refine ⟨isSqlNumber_of_formatPollerOutputRow h, _, formatPollerOutputRow_eq_some h, ?_⟩
  rw [dbEscape_results, dbEscape_escape (by decide)]
  rfl

theorem formatItem_of_not_isSqlNumber (h : ¬ IsSqlNumber hostTime) (item : Target) :
    formatItem sizes escape hostTime item = none := by
  cases hformat : formatItem sizes escape hostTime item with
  | none => rfl
  | some text => exact absurd (formatItem_eq_some hformat).1 h

/-- The tuples of a run are those of stored rows of its items. -/
theorem mem_itemTuples {items : List Target} (h : text ∈ itemTuples sizes escape hostTime items) :
    ∃ item ∈ items, IsSqlNumber hostTime ∧
      text = outputTuple item.localDataId.toInt (escape (storedRow sizes hostTime item).rrdName)
        hostTime (escape (storedRow sizes hostTime item).result) := by
  obtain ⟨item, hmem, hitem⟩ := List.mem_filterMap.1 h
  obtain ⟨row, hrow, rfl⟩ := Option.map_eq_some_iff.1 hitem
  obtain ⟨htime, tuple, rfl, htuple⟩ := formatItem_eq_some hrow
  exact ⟨item, hmem, htime, htuple⟩

end Items

/-! ## The statement -/

/-- The tokens of a list of rows, with a comma between two of them. -/
def rowsTokens (rows : List OutputRow) : List Token :=
  [Token.punctuation 44].intercalate (rows.map OutputRow.tokens)

/-- The text of a row. -/
def OutputRow.text (row : OutputRow) : Text :=
  outputTuple row.localDataId (escape row.rrdName) row.hostTime (escape row.result)

section Statement

variable {rows : List OutputRow} {opening suffix rest : Text} {front back : List Token}

/-- The rows of a statement are read one after the other. -/
theorem lex_rows (htime : ∀ row ∈ rows, IsSqlNumber row.hostTime) (rest : Text) :
    lex ([(44 : UInt8)].intercalate (rows.map OutputRow.text) ++ rest) =
      (lex rest).map (rowsTokens rows ++ ·) := by
  induction rows with
  | nil =>
    show lex rest = (lex rest).map fun tokens => tokens
    cases lex rest <;> rfl
  | cons row rows ih =>
    have hrow := htime row List.mem_cons_self
    cases rows with
    | nil =>
      have hcut : [(44 : UInt8)].intercalate ([row].map OutputRow.text) = row.text := by
        simp [List.intercalate]
      have hjoin : rowsTokens [row] = row.tokens := by
        simp [rowsTokens, List.intercalate]
      rw [hcut, hjoin]
      exact lex_outputTuple row hrow rest
    | cons next rows =>
      have hnext := ih fun r hr => htime r (List.mem_cons_of_mem _ hr)
      have hcut : [(44 : UInt8)].intercalate ((row :: next :: rows).map OutputRow.text) ++ rest =
          row.text ++ 44 ::
            ([(44 : UInt8)].intercalate ((next :: rows).map OutputRow.text) ++ rest) := by
        simp [List.intercalate]
      have hjoin : rowsTokens (row :: next :: rows) =
          row.tokens ++ .punctuation 44 :: rowsTokens (next :: rows) := by
        simp [rowsTokens, List.intercalate]
      rw [hcut, OutputRow.text, lex_outputTuple row hrow, lex_punctuation rfl rfl, hnext, hjoin]
      simp only [Option.map_map]
      refine congrArg (Option.map · _) (funext fun tokens => ?_)
      simp [Function.comp]

/-- The tokens of a statement: those of the opening, of the rows and of the end. -/
theorem lex_outputStatement (htime : ∀ row ∈ rows, IsSqlNumber row.hostTime)
    (hopening : lex opening = some front) (hsuffix : lex suffix = some back) :
    lex (outputStatement opening (32 :: suffix) (rows.map OutputRow.text)) =
      some (front ++ rowsTokens rows ++ back) := by
  by_cases hne : rows = []
  · subst hne
    show lexFrom .start (opening ++ [] ++ 32 :: suffix) = _
    rw [List.append_nil, lexFrom_append_space hopening, hsuffix]
    show some (front ++ back) = some (front ++ [] ++ back)
    rw [List.append_nil]
  · have hrows : joinRows (rows.map OutputRow.text) =
        32 :: [(44 : UInt8)].intercalate (rows.map OutputRow.text) := by
      rw [joinRows, if_neg (by simpa using hne)]
    rw [outputStatement, hrows, List.append_assoc, List.cons_append]
    refine (lexFrom_append_space hopening _).trans ?_
    rw [lex_rows htime, lex_space rfl, hsuffix, List.append_assoc]
    rfl

end Statement

/-- The fixed texts have tokens of their own. -/
theorem lex_outputPrefix : ∃ front, lex outputPrefix = some front :=
  Option.isSome_iff_exists.1 (by decide)

theorem lex_boostOutputPrefix : ∃ front, lex boostOutputPrefix = some front :=
  Option.isSome_iff_exists.1 (by decide)

theorem lex_outputSuffix : ∃ suffix back, outputSuffix = 32 :: suffix ∧ lex suffix = some back := by
  obtain ⟨back, hback⟩ := Option.isSome_iff_exists.1
    (show (lex (lit "ON DUPLICATE KEY UPDATE output=VALUES(output)")).isSome by decide)
  exact ⟨_, back, rfl, hback⟩

/-- The tokens of a statement are those of one of the two openings, of rows of the
items, and of the end. -/
def ReadsAsRows (sizes : BufferSizes) (queries : PollerQueries) (items : List Target)
    (hostTime query : Text) : Prop :=
  ∃ rows : List OutputRow,
    (∀ row ∈ rows, ∃ item ∈ items, row = storedRow sizes hostTime item) ∧
    ∃ opening ∈ [queries.output, queries.boostOutput], ∃ front back,
      lex opening = some front ∧ lex queries.suffix = some back ∧
      lex query = some (front ++ rowsTokens rows ++ back)

/-- A list of tuples of the items is the list of the texts of their rows. -/
theorem exists_rows {sizes : BufferSizes} {hostTime : Text} {items : List Target}
    {tuples : List Text} (h : ∀ tuple ∈ tuples, tuple ∈ itemTuples sizes escape hostTime items) :
    ∃ rows : List OutputRow, tuples = rows.map OutputRow.text ∧
      (∀ row ∈ rows, ∃ item ∈ items, row = storedRow sizes hostTime item) ∧
      ∀ row ∈ rows, IsSqlNumber row.hostTime := by
  induction tuples with
  | nil => exact ⟨[], rfl, nofun, nofun⟩
  | cons tuple tuples ih =>
    obtain ⟨rows, rfl, hitems, htimes⟩ := ih fun t ht => h t (List.mem_cons_of_mem _ ht)
    obtain ⟨item, hmem, htime, rfl⟩ := mem_itemTuples (h tuple List.mem_cons_self)
    refine ⟨storedRow sizes hostTime item :: rows, rfl, ?_, ?_⟩
    · exact List.forall_mem_cons.2 ⟨⟨item, hmem, rfl⟩, hitems⟩
    · exact List.forall_mem_cons.2 ⟨htime, htimes⟩

/-- Every statement is read as its rows. -/
theorem writePollResults_readsAsRows (sizes : BufferSizes) (cfg : Config) (outcome : Nat → Bool)
    {hostId : Int} {hostThread hostDataIds : Nat} {queries : PollerQueries} (items : List Target)
    (hostTime : Text)
    (hqueries : pollerPrepareQueries cfg hostId hostThread hostDataIds = some queries) :
    ∀ stmt ∈ (writePollResults sizes cfg escape outcome queries items hostTime).sent,
      ReadsAsRows sizes queries items hostTime stmt.query := by
  obtain ⟨hsent, -⟩ := writePollResults_refines sizes cfg escape outcome queries items hostTime
  obtain ⟨limits, -, rfl⟩ := pollerPrepareQueries_eq_some hqueries
  obtain ⟨front, hfront⟩ := lex_outputPrefix
  obtain ⟨boostFront, hboostFront⟩ := lex_boostOutputPrefix
  obtain ⟨suffix, back, hsuffix, hback⟩ := lex_outputSuffix
  intro stmt hstmt
  rw [hsent] at hstmt
  obtain ⟨tuples, htuples, hmem⟩ := List.mem_flatMap.1 hstmt
  have hformatted : ∀ tuple ∈ tuples, tuple ∈ itemTuples sizes escape hostTime items := by
    intro tuple htuple
    have hflatten := List.mem_flatten.2 ⟨tuples, htuples, htuple⟩
    rwa [Base.Batching.batches_flatten] at hflatten
  obtain ⟨rows, rfl, hitems, htimes⟩ := exists_rows hformatted
  have hblank : lex outputSuffix = some back := by rw [hsuffix, lex_space rfl, hback]
  have hread : ∀ opening tokens, lex opening = some tokens →
      lex (outputStatement opening outputSuffix (rows.map OutputRow.text)) =
        some (tokens ++ rowsTokens rows ++ back) := by
    intro opening tokens hopening
    rw [hsuffix]
    exact lex_outputStatement htimes hopening hback
  refine ⟨rows, hitems, ?_⟩
  rcases List.mem_cons.1 hmem with rfl | hboost
  · exact ⟨_, List.mem_cons_self, front, back, hfront, hblank, hread _ _ hfront⟩
  · split at hboost
    · rw [List.mem_singleton] at hboost
      subst hboost
      exact ⟨_, List.mem_cons_of_mem _ List.mem_cons_self, boostFront, back, hboostFront, hblank,
        hread _ _ hboostFront⟩
    · cases hboost

/-- No value leaves its literal.  A row that is added is exactly one tuple with the
values of its item, and the statements are read as such rows.  The fields of an item
are smaller than the buffers, so none is cut.  Without a number for the time nothing
is added.  `db_escape` keeps to its buffer and never cuts an escape. -/
theorem writePollResults_values_quoted (sizes : BufferSizes) (cfg : Config)
    (outcome : Nat → Bool) (hostId : Int) (hostThread hostDataIds : Nat) (queries : PollerQueries)
    (items : List Target) (hostTime : Text)
    (hqueries : pollerPrepareQueries cfg hostId hostThread hostDataIds = some queries) :
    (∀ w item, addItem sizes cfg escape outcome queries hostTime w item = w ∨
      ∃ tuple, addItem sizes cfg escape outcome queries hostTime w item =
          addRow sizes cfg outcome queries w (32 :: tuple) ∧
        parseTuple tuple = some (storedRow sizes hostTime item)) ∧
    (∀ item : Target, item.rrdName.length < 30 → item.result.length < sizes.resultsBuffer →
      storedRow sizes hostTime item =
        ⟨item.localDataId.toInt, item.rrdName, hostTime, item.result⟩) ∧
    (∀ stmt ∈ (writePollResults sizes cfg escape outcome queries items hostTime).sent,
      ReadsAsRows sizes queries items hostTime stmt.query) ∧
    (¬ IsSqlNumber hostTime → ∀ w item,
      addItem sizes cfg escape outcome queries hostTime w item = w) ∧
    (∀ (capacity : Nat) (input : Text), 1 < capacity →
      (dbEscape escape capacity input).length ≤ capacity - 1 ∧
        literalValue (dbEscape escape capacity input) =
          some (input.take ((capacity - 1) / 2))) := by
  refine ⟨?_, ?_, writePollResults_readsAsRows sizes cfg outcome items hostTime hqueries, ?_, ?_⟩
  · intro w item
    unfold addItem
    cases hformat : formatItem sizes escape hostTime item with
    | none => exact Or.inl rfl
    | some text =>
      obtain ⟨htime, tuple, rfl, htuple⟩ := formatItem_eq_some hformat
      refine Or.inr ⟨tuple, rfl, ?_⟩
      rw [htuple]
      exact parseTuple_outputTuple (storedRow sizes hostTime item) htime
  · intro item hname hresult
    have hwhole : item.rrdName.length ≤ (DBL_BUFSIZE - 1) / 2 :=
      Nat.le_trans (Nat.le_of_lt hname) (by decide)
    unfold storedRow
    rw [List.take_of_length_le hwhole, List.take_of_length_le (Nat.le_of_lt hresult)]
  · intro htime w item
    rw [addItem, formatItem_of_not_isSqlNumber htime]
  · intro capacity input hcapacity
    refine ⟨(dbEscape_length_le escape_length_le capacity input).1, ?_⟩
    rw [dbEscape_escape hcapacity, literalValue_escape]

/-- A name that tries to close its literal is stored as it is. -/
theorem writePollResults_values_quoted_hostile :
    ∃ (queries : PollerQueries) (item : Target),
      pollerPrepareQueries Config.plain 3 1 0 = some queries ∧
      item.rrdName = lit "x'), (1, '" ∧
      (storedRow defaultSizes (lit "1700000000") item).rrdName = lit "x'), (1, '" ∧
      ∀ stmt ∈ (writePollResults defaultSizes Config.plain escape (fun _ => true) queries [item]
          (lit "1700000000")).sent,
        ReadsAsRows defaultSizes queries [item] (lit "1700000000") stmt.query := by
  obtain ⟨queries, hqueries⟩ : ∃ queries, pollerPrepareQueries Config.plain 3 1 0 = some queries :=
    ⟨_, rfl⟩
  let item : Target := ⟨lit "42", -7, .script, lit "router", lit "x'), (1, '", [], [],
    ⟨[], 2, [], [], [], [], [], [], [], 161, 500⟩⟩
  obtain ⟨-, hstored, hreads, -⟩ := writePollResults_values_quoted defaultSizes Config.plain
    (fun _ => true) 3 1 0 queries [item] (lit "1700000000") hqueries
  refine ⟨queries, item, hqueries, rfl, ?_, hreads⟩
  rw [hstored item (by decide) (by decide)]

end Spine
