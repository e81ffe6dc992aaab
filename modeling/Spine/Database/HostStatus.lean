import Spine.Base.SqlUpdate
import Spine.Poller.SystemInformation

/-!
# The status of a device in the database

`persist_host_status` writes the status of a device, its statistics and, when they
were read, the texts that the device gives of itself.  The texts come from the
device and from the row of the device, so none of them may end the literal that it
stands in.

* The row.  `hostMetadataStatus` and `hostMetadataStatistics` load the columns.  A date
  that is NULL stays empty.
* The statement.  `persistHostStatus` is the text that is sent.
* The device.  `Storable` says that the numbers of a device are of type `int` and its
  dates are numbers or empty.  Loading a row gives it, and a check keeps it.
* The reading.  `refreshHost_persisted` says that the text is not cut and is read as
  one UPDATE of the row of that device, with the values cut to their buffers, and that
  it is refused when a date is empty.
-/

namespace Spine

open Base.CString Base.SqlLiteral Base.SqlLexer Base.SqlUpdate

/-! ## The row -/

def HostStatus.code : HostStatus → Int
  | .unknown => 0
  | .down => 1
  | .recovering => 2
  | .up => 3

/-- The status that a number stands for. -/
def HostStatus.ofCode : Int → Option HostStatus
  | 0 => some .unknown
  | 1 => some .down
  | 2 => some .recovering
  | 3 => some .up
  | _ => none

/-- The columns 0 and 19 to 30 of the row of a device. -/
structure HostColumns where
  id : Option Text
  status : Option Text
  statusEventCount : Option Text
  statusFailDate : Option Text
  statusRecDate : Option Text
  statusLastError : Option Text
  minTime : Option Text
  maxTime : Option Text
  curTime : Option Text
  avgTime : Option Text
  totalPolls : Option Text
  failedPolls : Option Text
  availability : Option Text

/-- The number in a column, or the default. -/
def intColumn (default : Int) (column : Option Text) : Int :=
  (column.map fun text => (atoi text).toInt).getD default

/-- `STRNCOPY` of a column into an empty buffer. -/
def textColumn (capacity : Nat) (column : Option Text) : Text :=
  (column.map (snprintfS capacity)).getD []

/-- `host_metadata_status` on the values of `host_metadata_defaults`.  There is no result
when the number is not one of a status. -/
def hostMetadataStatus (row : HostColumns) : Option HostState :=
  (HostStatus.ofCode (intColumn HostStatus.up.code row.status)).map fun status =>
    { status := status
      statusEventCount := intColumn 0 row.statusEventCount
      statusFailDate := textColumn 40 row.statusFailDate
      statusRecDate := textColumn 40 row.statusRecDate
      statusLastError := textColumn (BUFSIZE * 2 + 2) row.statusLastError }

/-- `host_metadata_statistics` on the values of `host_metadata_defaults`. -/
def hostMetadataStatistics (atof : Text → ℚ) (row : HostColumns) : HostStatistics where
  minTime := (row.minTime.map atof).getD 0
  maxTime := (row.maxTime.map atof).getD 0
  curTime := (row.curTime.map atof).getD 0
  avgTime := (row.avgTime.map atof).getD 0
  totalPolls := intColumn 0 row.totalPolls
  failedPolls := intColumn 0 row.failedPolls
  availability := (row.availability.map atof).getD 100

/-- `load_host_metadata` for what a check reads and writes.  The name, the community and
the version are those that `host_metadata_connection` sets. -/
def loadHostMetadata (atof : Text → ℚ) (hostname community : Text) (version : Int)
    (row : HostColumns) : Option MonitoredHost :=
  (hostMetadataStatus row).map fun state =>
    ⟨intColumn 0 row.id, hostname, community, version, state, hostMetadataStatistics atof row⟩

/-! ## The statement -/

/-- A column with a conversion between quotes. -/
def quotedSet (column : String) (value : Text) : Text :=
  lit column ++ (lit "='" ++ (value ++ lit "'"))

/-- A column with a date. -/
def unixtimeSet (column : String) (date : Text) : Text :=
  lit column ++ (lit "=FROM_UNIXTIME(" ++ (date ++ lit ")"))

/-- The part of the text that both forms share.  `print` is the conversion of a
`double` with a number of decimals. -/
def statusText (escape : Text → Text) (print : Nat → ℚ → Text) (host : MonitoredHost) : Text :=
  quotedSet "status" (decimalInt host.state.status.code) ++
  (lit ", " ++ quotedSet "status_event_count" (decimalInt host.state.statusEventCount)) ++
  (lit ", " ++ unixtimeSet "status_fail_date" host.state.statusFailDate) ++
  (lit ", " ++ unixtimeSet "status_rec_date" host.state.statusRecDate) ++
  (lit ", " ++ quotedSet "status_last_error"
    (dbEscape escape BUFSIZE host.state.statusLastError)) ++
  (lit ", " ++ quotedSet "min_time" (print 6 host.statistics.minTime)) ++
  (lit ", " ++ quotedSet "max_time" (print 6 host.statistics.maxTime)) ++
  (lit ", " ++ quotedSet "cur_time" (print 6 host.statistics.curTime)) ++
  (lit ", " ++ quotedSet "avg_time" (print 6 host.statistics.avgTime)) ++
  (lit ", " ++ quotedSet "total_polls" (decimalInt host.statistics.totalPolls)) ++
  (lit ", " ++ quotedSet "failed_polls" (decimalInt host.statistics.failedPolls)) ++
  (lit ", " ++ quotedSet "availability" (print 4 host.statistics.availability))

/-- The part with the system group, which has two blanks in two places. -/
def systemText (system : HostSystem) : Text :=
  (lit ", " ++ quotedSet "snmp_sysDescr" system.snmpSysDescr) ++
  (lit ",  " ++ quotedSet "snmp_sysObjectID" system.snmpSysObjectID) ++
  (lit ", " ++ quotedSet "snmp_sysUpTimeInstance" (decimal system.snmpSysUpTimeInstance)) ++
  (lit ",  " ++ quotedSet "snmp_sysContact" system.snmpSysContact) ++
  (lit ", " ++ quotedSet "snmp_sysName" system.snmpSysName) ++
  (lit ", " ++ quotedSet "snmp_sysLocation" system.snmpSysLocation)

/-- The text before it is put in its buffer. -/
def hostStatusText (escape : Text → Text) (print : Nat → ℚ → Text) (host : MonitoredHost)
    (system : Option HostSystem) : Text :=
  lit "UPDATE host SET " ++ statusText escape print host ++ (system.map systemText).getD [] ++
    lit " WHERE " ++ quotedSet "id" (decimalInt host.id)

/-- `persist_host_status`: the text that `db_insert` gets. -/
def persistHostStatus (escape : Text → Text) (print : Nat → ℚ → Text) (host : MonitoredHost)
    (system : HostSystem) (includeSystemInformation : Bool) : Text :=
  snprintfS BIG_BUFSIZE <|
    hostStatusText escape print host (if includeSystemInformation then some system else none)

/-! ## The device -/

/-- A number of type `int`. -/
def IsInt (i : Int) : Prop := -INT_MAX - 1 ≤ i ∧ i ≤ INT_MAX

/-- The text of `UNIX_TIMESTAMP` in a buffer of 40 bytes, or nothing for NULL. -/
structure IsDate (date : Text) : Prop where
  number : date.all isNumberByte = true
  fits : date.length < 40

/-- Both dates of a device are set. -/
def MonitoredHost.dated (host : MonitoredHost) : Bool :=
  !host.state.statusFailDate.isEmpty && !host.state.statusRecDate.isEmpty

/-- The dates of a row are what `UNIX_TIMESTAMP` gives: NULL, or a number. -/
structure HostColumns.Dates (row : HostColumns) : Prop where
  failDate : ∀ date ∈ row.statusFailDate, date ≠ [] ∧ date.all isNumberByte = true
  recDate : ∀ date ∈ row.statusRecDate, date ≠ [] ∧ date.all isNumberByte = true

/-- The numbers and the dates of a device are such. -/
structure Storable (host : MonitoredHost) : Prop where
  id : IsInt host.id
  eventCount : IsInt host.state.statusEventCount
  totalPolls : IsInt host.statistics.totalPolls
  failedPolls : IsInt host.statistics.failedPolls
  failDate : IsDate host.state.statusFailDate
  recDate : IsDate host.state.statusRecDate

section Device

variable {env : AvailabilityEnv} {host : MonitoredHost} {poll : StatusPoll}

theorem isInt_intSucc {count : Int} (h : IsInt count) : IsInt (intSucc count) := by
  unfold IsInt intSucc at *
  split <;> omega

theorem isInt_zero : IsInt 0 := ⟨by decide, by decide⟩

theorem isInt_one : IsInt 1 := ⟨by decide, by decide⟩

theorem isInt_intColumn {default : Int} (h : IsInt default) (column : Option Text) :
    IsInt (intColumn default column) := by
  cases column with
  | none => exact h
  | some text =>
    have hlow := (atoi text).le_toInt
    have hhigh := (atoi text).toInt_lt
    unfold IsInt intColumn
    simp only [Option.map_some, Option.getD_some, INT_MAX]
    omega

/-- A column of a row gives a date, which is empty for NULL only. -/
theorem isDate_textColumn {column : Option Text}
    (h : ∀ date ∈ column, date ≠ [] ∧ date.all isNumberByte = true) :
    IsDate (textColumn 40 column) ∧ (textColumn 40 column = [] → column = none) := by
  cases column with
  | none => exact ⟨⟨rfl, by decide⟩, fun _ => rfl⟩
  | some date =>
    obtain ⟨hne, hnumber⟩ := h date rfl
    have htake : textColumn 40 (some date) = date.take 39 := rfl
    rw [htake]
    refine ⟨⟨?_, ?_⟩, fun hempty => ?_⟩
    · rw [List.all_eq_true] at hnumber ⊢
      exact fun b hb => hnumber b (List.mem_of_mem_take hb)
    · rw [List.length_take]
      omega
    · exact absurd (List.take_eq_nil_iff.1 hempty) (by simp [hne])

theorem isDate_decimal {time : Nat} (h : time < 2 ^ 63) : IsDate (decimal time) where
  number := by
    rw [List.all_eq_true]
    intro b hb
    rw [isNumberByte, isDigit_of_mem_decimal hb, Bool.true_or]
  fits := by
    have hlength : (decimal time).length ≤ 20 :=
      decimal_length_le (by decide) (lt_trans h (by decide))
    omega

/-- What a transition does to the state: the count is one that it may have, and a
date is kept or is the new one. -/
structure StateKept (state state' : HostState) (date : Text) : Prop where
  count : IsInt state.statusEventCount → IsInt state'.statusEventCount
  failDate : state'.statusFailDate = state.statusFailDate ∨ state'.statusFailDate = date
  recDate : state'.statusRecDate = state.statusRecDate ∨ state'.statusRecDate = date

theorem hostFailureTransition_kept (env : AvailabilityEnv) (state : HostState) (date : Text) :
    StateKept state (hostFailureTransition env state date).1 date := by
  unfold hostFailureTransition
  split
  · dsimp only
    split
    · exact ⟨isInt_intSucc, (ite_eq_or_eq _ _ _).symm, Or.inl rfl⟩
    · exact ⟨isInt_intSucc, (ite_eq_or_eq _ _ _).symm, Or.inl rfl⟩
  · exact ⟨fun _ => isInt_one, Or.inl rfl, Or.inl rfl⟩
  · exact ⟨fun _ => isInt_zero, Or.inl rfl, Or.inl rfl⟩
  · exact ⟨isInt_intSucc, Or.inl rfl, Or.inl rfl⟩

theorem hostRecoveryTransition_kept (env : AvailabilityEnv) (state : HostState) (date : Text) :
    StateKept state (hostRecoveryTransition env state date).1 date := by
  have hint : IsInt state.statusEventCount →
      IsInt (if state.status = .down then 1 else intSucc state.statusEventCount) := by
    intro hcount
    split
    · exact isInt_one
    · exact isInt_intSucc hcount
  unfold hostRecoveryTransition
  dsimp only
  generalize (if state.status = .down then 1 else intSucc state.statusEventCount) = count at *
  split
  · exact ⟨fun _ => isInt_zero, Or.inl rfl, Or.inl rfl⟩
  split
  · exact ⟨fun _ => isInt_zero, Or.inl rfl, (ite_eq_or_eq _ _ _).symm⟩
  · exact ⟨hint, Or.inl rfl, (ite_eq_or_eq _ _ _).symm⟩

theorem statusTransition_kept (env : AvailabilityEnv) (host : MonitoredHost)
    (poll : StatusPoll) :
    StateKept host.state (statusTransition env host poll).1 (decimal poll.time) := by
  unfold statusTransition
  dsimp only
  split
  · obtain ⟨hcount, hfail, hrec⟩ := hostFailureTransition_kept env
      { host.state with statusLastError := hostFailureMessage host poll.ping poll.method }
      (decimal poll.time)
    exact ⟨hcount, hfail, hrec⟩
  · exact hostRecoveryTransition_kept env host.state (decimal poll.time)

theorem statusStatistics_counts (env : AvailabilityEnv) (host : MonitoredHost)
    (poll : StatusPoll) (htotal : IsInt host.statistics.totalPolls)
    (hfailed : IsInt host.statistics.failedPolls) :
    IsInt (statusStatistics env host poll).1.totalPolls ∧
      IsInt (statusStatistics env host poll).1.failedPolls := by
  unfold statusStatistics
  dsimp only
  split
  · exact ⟨isInt_intSucc htotal, isInt_intSucc hfailed⟩
  · exact ⟨isInt_intSucc htotal, hfailed⟩

/-- A poll keeps a device storable. -/
theorem Storable.updateHostStatus (h : Storable host) (htime : poll.time < 2 ^ 63) :
    Storable (updateHostStatus env host poll).1 := by
  have hkept := statusTransition_kept env host poll
  have hcounts := statusStatistics_counts env host poll h.totalPolls h.failedPolls
  have hdate : ∀ {old new : Text}, IsDate old → (new = old ∨ new = decimal poll.time) →
      IsDate new := by
    intro old new hold hnew
    rcases hnew with rfl | rfl
    · exact hold
    · exact isDate_decimal htime
  exact ⟨h.id, hkept.count h.eventCount, hcounts.1, hcounts.2, hdate h.failDate hkept.failDate,
    hdate h.recDate hkept.recDate⟩

/-- A row gives a storable device. -/
theorem storable_of_load {atof : Text → ℚ} {hostname community : Text} {version : Int}
    {row : HostColumns} (hdates : row.Dates)
    (h : loadHostMetadata atof hostname community version row = some host) :
    Storable host ∧ (host.state.statusFailDate = [] → row.statusFailDate = none) ∧
      (host.state.statusRecDate = [] → row.statusRecDate = none) := by
  obtain ⟨state, hstate, rfl⟩ := Option.map_eq_some_iff.1 h
  obtain ⟨status, -, rfl⟩ := Option.map_eq_some_iff.1 hstate
  obtain ⟨hfail, hfailNone⟩ := isDate_textColumn hdates.failDate
  obtain ⟨hrec, hrecNone⟩ := isDate_textColumn hdates.recDate
  exact ⟨⟨isInt_intColumn isInt_zero _, isInt_intColumn isInt_zero _, isInt_intColumn isInt_zero _,
    isInt_intColumn isInt_zero _, hfail, hrec⟩, hfailNone, hrecNone⟩

/-- A check leaves no date empty that was not. -/
theorem updateHostStatus_dates (env : AvailabilityEnv) (host : MonitoredHost)
    (poll : StatusPoll) :
    ((updateHostStatus env host poll).1.state.statusFailDate = [] →
        host.state.statusFailDate = []) ∧
      ((updateHostStatus env host poll).1.state.statusRecDate = [] →
        host.state.statusRecDate = []) := by
  have hkept := statusTransition_kept env host poll
  have hdate : ∀ {old new : Text}, (new = old ∨ new = decimal poll.time) → new = [] →
      old = [] := by
    rintro old new (rfl | rfl) hempty
    · exact hempty
    · exact absurd hempty (decimal_ne_nil poll.time)
  exact ⟨hdate hkept.failDate, hdate hkept.recDate⟩

end Device

/-! ## The reading -/

/-- What `printf` prints for a `double`: digits with a sign and a point, or a word,
in no more bytes than the largest number takes. -/
structure PrintsDoubles (print : Nat → ℚ → Text) : Prop where
  plain : ∀ decimals value, ∀ b ∈ print decimals value, escapeCode b = none
  length_le : ∀ decimals value, (print decimals value).length ≤ 311 + decimals

/-- A text that an escaped buffer of a size holds. -/
def cutTo (capacity : Nat) (text : Text) : Text := text.take ((capacity - 1) / 2)

def literalSet (column value : Text) : Assignment := ⟨column, .literal value⟩

def dateSet (column date : Text) : Assignment := ⟨column, .call (lit "FROM_UNIXTIME") date⟩

/-- The assignments of the status and of the statistics. -/
def statusSets (print : Nat → ℚ → Text) (host : MonitoredHost) : List (ℕ × Assignment) :=
  [(0, literalSet (lit "status") (decimalInt host.state.status.code)),
    (1, literalSet (lit "status_event_count") (decimalInt host.state.statusEventCount)),
    (1, dateSet (lit "status_fail_date") host.state.statusFailDate),
    (1, dateSet (lit "status_rec_date") host.state.statusRecDate),
    (1, literalSet (lit "status_last_error") (cutTo BUFSIZE host.state.statusLastError)),
    (1, literalSet (lit "min_time") (print 6 host.statistics.minTime)),
    (1, literalSet (lit "max_time") (print 6 host.statistics.maxTime)),
    (1, literalSet (lit "cur_time") (print 6 host.statistics.curTime)),
    (1, literalSet (lit "avg_time") (print 6 host.statistics.avgTime)),
    (1, literalSet (lit "total_polls") (decimalInt host.statistics.totalPolls)),
    (1, literalSet (lit "failed_polls") (decimalInt host.statistics.failedPolls)),
    (1, literalSet (lit "availability") (print 4 host.statistics.availability))]

/-- The assignments of the system group. -/
def systemSets (values : SystemValues) : List (ℕ × Assignment) :=
  [(1, literalSet (lit "snmp_sysDescr") (cutTo SYS_DESCR_SIZE values.descr)),
    (2, literalSet (lit "snmp_sysObjectID") (cutTo SYS_OBJECT_ID_SIZE values.objectId)),
    (1, literalSet (lit "snmp_sysUpTimeInstance") (decimal values.uptime)),
    (2, literalSet (lit "snmp_sysContact") (cutTo SYS_CONTACT_SIZE values.contact)),
    (1, literalSet (lit "snmp_sysName") (cutTo SYS_NAME_SIZE values.name)),
    (1, literalSet (lit "snmp_sysLocation") (cutTo SYS_LOCATION_SIZE values.location))]

/-- The statement that stores a device. -/
def hostUpdate (print : Nat → ℚ → Text) (host : MonitoredHost) (values : Option SystemValues) :
    Update where
  table := lit "host"
  sets := statusSets print host ++ (values.map systemSets).getD []
  key := literalSet (lit "id") (decimalInt host.id)

section Reading

variable {print : Nat → ℚ → Text} {host : MonitoredHost} {text : Text}

theorem escapeCode_of_isDigit {b : UInt8} (h : isDigit b = true) : escapeCode b = none := by
  have hne : ∀ c : UInt8, isDigit c = false → b ≠ c := by
    intro c hc hbc
    rw [hbc, hc] at h
    cases h
  unfold escapeCode
  rw [if_neg (hne 0 rfl), if_neg (hne 10 rfl), if_neg (hne 13 rfl), if_neg (hne 26 rfl),
    if_neg (by simp [hne 34 rfl, hne 39 rfl, hne 92 rfl])]

theorem escape_decimal (n : Nat) : escape (decimal n) = decimal n :=
  escape_of_plain fun _ hb => escapeCode_of_isDigit (isDigit_of_mem_decimal hb)

theorem escape_decimalInt (i : Int) : escape (decimalInt i) = decimalInt i := by
  unfold decimalInt
  split
  · rw [escape_of_plain]
    intro b hb
    rcases List.mem_cons.1 hb with rfl | hb
    · rfl
    · exact escapeCode_of_isDigit (isDigit_of_mem_decimal hb)
  · exact escape_decimal _

theorem dbEscape_eq_cutTo {capacity : Nat} (h : 1 < capacity) (text : Text) :
    dbEscape escape capacity text = escape (cutTo capacity text) := by
  rw [dbEscape_escape h, cutTo]

/-- A conversion between quotes is the literal of what was escaped. -/
theorem quotedSet_eq_sql {value escaped : Text} (column : String) (h : escape value = escaped) :
    quotedSet column escaped = (literalSet (lit column) value).sql := by
  subst h
  rfl

theorem unixtimeSet_eq_sql (column : String) (date : Text) :
    unixtimeSet column date = (dateSet (lit column) date).sql := rfl

theorem comma_blank : lit ", " = 44 :: List.replicate 1 32 := by decide

theorem comma_blanks : lit ",  " = 44 :: List.replicate 2 32 := by decide

/-- The text that is formatted is the text of the statement. -/
theorem hostStatusText_eq_sql (hprint : PrintsDoubles print) (host : MonitoredHost)
    (values : Option SystemValues) :
    hostStatusText escape print host (values.map (SystemValues.stored escape)) =
      (hostUpdate print host values).sql := by
  have hdouble : ∀ column decimals value, quotedSet column (print decimals value) =
      (literalSet (lit column) (print decimals value)).sql := fun column decimals value =>
    quotedSet_eq_sql column (escape_of_plain (hprint.plain decimals value))
  have hint : ∀ column i, quotedSet column (decimalInt i) =
      (literalSet (lit column) (decimalInt i)).sql := fun column i =>
    quotedSet_eq_sql column (escape_decimalInt i)
  have hescaped : ∀ column capacity text, 1 < capacity →
      quotedSet column (dbEscape escape capacity text) =
        (literalSet (lit column) (cutTo capacity text)).sql := fun column capacity text h =>
    quotedSet_eq_sql column (dbEscape_eq_cutTo h text).symm
  have hstatus : statusText escape print host = setClause (statusSets print host) := by
    unfold statusText statusSets
    rw [setClause_cons]
    simp only [hint, hdouble, unixtimeSet_eq_sql, hescaped _ BUFSIZE _ (by decide), comma_blank]
    simp only [List.flatMap_cons, List.flatMap_nil, List.append_assoc, List.cons_append,
      List.append_nil]
    rfl
  have hsystem : ∀ values : SystemValues, systemText (values.stored escape) =
      (systemSets values).flatMap fun s => 44 :: (List.replicate s.1 32 ++ s.2.sql) := by
    intro values
    unfold systemText systemSets SystemValues.stored
    dsimp only
    rw [hescaped _ SYS_DESCR_SIZE _ (by decide), hescaped _ SYS_OBJECT_ID_SIZE _ (by decide),
      hescaped _ SYS_CONTACT_SIZE _ (by decide), hescaped _ SYS_NAME_SIZE _ (by decide),
      hescaped _ SYS_LOCATION_SIZE _ (by decide), quotedSet_eq_sql _ (escape_decimal _),
      comma_blank, comma_blanks]
    simp only [List.flatMap_cons, List.flatMap_nil, List.append_assoc, List.cons_append,
      List.append_nil]
  have hsets : statusText escape print host ++
      ((values.map (SystemValues.stored escape)).map systemText).getD [] =
        setClause (hostUpdate print host values).sets := by
    show _ = setClause (statusSets print host ++ (values.map systemSets).getD [])
    rw [setClause_append (fun h => by cases h), hstatus]
    cases values with
    | none => rfl
    | some values => exact congrArg _ (hsystem values)
  unfold hostStatusText Update.sql
  rw [← hsets, hint]
  simp only [List.append_assoc]
  rfl

/-- The calls of the statement are those for the dates. -/
theorem hostUpdate_complete (host : MonitoredHost) (values : Option SystemValues) :
    (hostUpdate print host values).complete = host.dated := by
  cases values <;>
    simp [hostUpdate, statusSets, systemSets, literalSet, dateSet, Update.complete,
      Value.complete, MonitoredHost.dated]

/-- The columns are names and the dates are numbers. -/
theorem hostUpdate_valid (hhost : Storable host) (values : Option SystemValues) :
    (hostUpdate print host values).Valid := by
  have hcolumns : ∀ s ∈ (hostUpdate print host values).sets, isName s.2.column = true := by
    refine List.all_eq_true.1 ?_
    cases values <;> rfl
  have hvalues : ∀ s ∈ (hostUpdate print host values).sets, s.2.value.Valid := by
    have hfail : ∀ b ∈ host.state.statusFailDate, isNumberByte b = true :=
      List.all_eq_true.1 hhost.failDate.number
    have hrec : ∀ b ∈ host.state.statusRecDate, isNumberByte b = true :=
      List.all_eq_true.1 hhost.recDate.number
    have hfunction : isName (lit "FROM_UNIXTIME") = true := rfl
    cases values <;>
      simpa [hostUpdate, statusSets, systemSets, literalSet, dateSet, Value.Valid, hfunction]
        using And.intro hfail hrec
  exact {
    table := rfl
    sets := fun s hs => ⟨hcolumns s hs, hvalues s hs⟩
    nonempty := fun h => by cases h
    key := ⟨rfl, trivial⟩ }

theorem quotedSet_length (column : String) (value : Text) :
    (quotedSet column value).length = (lit column).length + value.length + 3 := by
  unfold quotedSet
  have hopen : (lit "='").length = 2 := by decide
  have hclose : (lit "'").length = 1 := by decide
  simp only [List.length_append]
  omega

theorem unixtimeSet_length (column : String) (date : Text) :
    (unixtimeSet column date).length = (lit column).length + date.length + 16 := by
  unfold unixtimeSet
  have hopen : (lit "=FROM_UNIXTIME(").length = 15 := by decide
  have hclose : (lit ")").length = 1 := by decide
  simp only [List.length_append]
  omega

theorem decimalInt_length_le_of_isInt {i : Int} (h : IsInt i) : (decimalInt i).length ≤ 11 := by
  have hround : (Int32.ofInt i).toInt = i := by
    obtain ⟨hlow, hhigh⟩ := h
    simp only [INT_MAX] at hlow hhigh
    exact Int32.toInt_ofInt_of_le (by omega) (by omega)
  rw [← hround]
  exact decimalInt_length_le (Int32.ofInt i)

theorem statusText_length_le (hprint : PrintsDoubles print) (hhost : Storable host) :
    (statusText escape print host).length ≤ 3000 := by
  unfold statusText
  have hcode : (decimalInt host.state.status.code).length = 1 := by
    cases host.state.status <;> rfl
  have hcount := decimalInt_length_le_of_isInt hhost.eventCount
  have htotal := decimalInt_length_le_of_isInt hhost.totalPolls
  have hfailed := decimalInt_length_le_of_isInt hhost.failedPolls
  have hfail := hhost.failDate.fits
  have hrec := hhost.recDate.fits
  have herror : (dbEscape escape BUFSIZE host.state.statusLastError).length ≤ 1023 :=
    (dbEscape_length_le escape_length_le BUFSIZE host.state.statusLastError).1
  have hmin := hprint.length_le 6 host.statistics.minTime
  have hmax := hprint.length_le 6 host.statistics.maxTime
  have hcur := hprint.length_le 6 host.statistics.curTime
  have havg := hprint.length_le 6 host.statistics.avgTime
  have havailability := hprint.length_le 4 host.statistics.availability
  simp only [List.length_append, quotedSet_length, unixtimeSet_length]
  simp only [lit, List.length_map, String.reduceToList, List.length_cons, List.length_nil]
  omega

theorem systemText_length_le {values : SystemValues} (huptime : values.uptime < 2 ^ 64) :
    (systemText (values.stored escape)).length ≤ 2200 := by
  have hfits : ∀ capacity text, (dbEscape escape capacity text).length ≤ capacity - 1 :=
    fun capacity text => (dbEscape_length_le escape_length_le capacity text).1
  have hdescr := hfits SYS_DESCR_SIZE values.descr
  have hobject := hfits SYS_OBJECT_ID_SIZE values.objectId
  have hcontact := hfits SYS_CONTACT_SIZE values.contact
  have hname := hfits SYS_NAME_SIZE values.name
  have hlocation := hfits SYS_LOCATION_SIZE values.location
  have hdigits : (decimal values.uptime).length ≤ 20 :=
    decimal_length_le (by decide) (lt_trans huptime (by decide))
  unfold systemText SystemValues.stored
  simp only [List.length_append, quotedSet_length]
  simp only [lit, List.length_map, String.reduceToList, List.length_cons, List.length_nil]
  simp only [SYS_DESCR_SIZE, SYS_OBJECT_ID_SIZE, SYS_CONTACT_SIZE, SYS_NAME_SIZE,
    SYS_LOCATION_SIZE] at hdescr hobject hcontact hname hlocation ⊢
  omega

/-- No statement is cut. -/
theorem hostStatusText_length_lt (hprint : PrintsDoubles print) (hhost : Storable host)
    {values : Option SystemValues} (hvalues : ∀ v ∈ values, v.uptime < 2 ^ 64) :
    (hostStatusText escape print host (values.map (SystemValues.stored escape))).length <
      BIG_BUFSIZE := by
  have hstatus := statusText_length_le hprint hhost
  have hid := decimalInt_length_le_of_isInt hhost.id
  have hsystem : (((values.map (SystemValues.stored escape)).map systemText).getD []).length ≤
      2200 := by
    cases values with
    | none => exact Nat.zero_le _
    | some values => exact systemText_length_le (hvalues values rfl)
  unfold hostStatusText
  simp only [List.length_append, quotedSet_length]
  simp only [lit, List.length_map, String.reduceToList, List.length_cons, List.length_nil]
  simp only [BIG_BUFSIZE]
  omega

/-- The values that are stored, if they were read. -/
def readValues (read : Bool) (values : SystemValues) : Option SystemValues :=
  if read then some values else none

theorem readValues_stored (read : Bool) (values : SystemValues) :
    (if read then some (values.stored escape) else none) =
      (readValues read values).map (SystemValues.stored escape) := by
  cases read <;> rfl

/-- The text is not cut. -/
theorem persistHostStatus_eq_sql (hprint : PrintsDoubles print) (hhost : Storable host)
    {values : SystemValues} (hvalues : values.uptime < 2 ^ 64) (read : Bool) :
    persistHostStatus escape print host (values.stored escape) read =
      (hostUpdate print host (readValues read values)).sql := by
  have huptime : ∀ v ∈ readValues read values, v.uptime < 2 ^ 64 := by
    cases read with
    | true =>
      intro v hv
      obtain rfl : values = v := Option.some.inj hv
      exact hvalues
    | false =>
      intro v hv
      cases hv
  unfold persistHostStatus
  rw [readValues_stored, snprintfS_eq_self (hostStatusText_length_lt hprint hhost huptime),
    hostStatusText_eq_sql hprint]

end Reading

/-- Whatever the row of a device holds and whatever the device answers, the statement
that stores it after a check is not cut, and it is read as one UPDATE of its own row.  A
text that was read of the device replaces the one of the row, and a literal has as much
of its text as half of its buffer takes.  The statement is refused when a date is empty:
its column was NULL and the check has not set it. -/
theorem refreshHost_persisted {print : Nat → ℚ → Text} (hprint : PrintsDoubles print)
    (call : RefreshCall) (htime : call.time < 2 ^ 63) {atof : Text → ℚ}
    {hostname community : Text} {version : Int} {row : HostColumns} {host : MonitoredHost}
    (hload : loadHostMetadata atof hostname community version row = some host)
    (hdates : row.Dates) (columns : SystemColumns) :
    ∃ after system read,
      refreshHost escape call host (hostMetadataSystem escape columns) =
        ((after, system), read) ∧
      persistHostStatus escape print after system read =
        hostStatusText escape print after (if read then some system else none) ∧
      parseUpdate (persistHostStatus escape print after system read) =
        (if after.dated then
          some (lit "host",
            (statusSets print after ++
              if read then systemSets (call.answers.values ⟨true, false⟩ columns.values.uptime)
              else []).map Prod.snd,
            literalSet (lit "id") (decimalInt host.id))
        else none) ∧
      (after.state.statusFailDate = [] → row.statusFailDate = none) ∧
      (after.state.statusRecDate = [] → row.statusRecDate = none) := by
  rw [hostMetadataSystem_eq_stored rfl]
  obtain ⟨hhost, hfail, hrec⟩ := storable_of_load hdates hload
  obtain ⟨after, read, hrefresh, hafter, -⟩ := refreshHost_cases escape call host columns.values
  have hstorable : Storable after := by
    rcases hafter with rfl | ⟨status, rfl⟩
    · exact hhost
    · exact hhost.updateHostStatus htime
  have hid : after.id = host.id := by
    rcases hafter with rfl | ⟨status, rfl⟩ <;> rfl
  have hempty : (after.state.statusFailDate = [] → host.state.statusFailDate = []) ∧
      (after.state.statusRecDate = [] → host.state.statusRecDate = []) := by
    rcases hafter with rfl | ⟨status, rfl⟩
    · exact ⟨id, id⟩
    · exact updateHostStatus_dates _ _ _
  have huptime : (if read then call.answers.values ⟨true, false⟩ columns.values.uptime
      else columns.values).uptime < 2 ^ 64 := by
    cases read with
    | true => exact pollSystemUptime_lt columns.values_uptime_lt
    | false => exact columns.values_uptime_lt
  have hsql := persistHostStatus_eq_sql hprint hstorable huptime read
  refine ⟨after, _, read, hrefresh, ?_, ?_, fun h => hfail (hempty.1 h),
    fun h => hrec (hempty.2 h)⟩
  · rw [hsql, readValues_stored, hostStatusText_eq_sql hprint]
  · rw [hsql, parseUpdate_sql (hostUpdate_valid hstorable _), hostUpdate_complete, ← hid]
    cases read <;> rfl

/-- A device whose description and whose row try to end their literals. -/
private def injectingCall : RefreshCall where
  env := twoInARow
  mibs := true
  row := ⟨2, lit "public", 10, .snmp, true, true, true⟩
  session := true
  ping := ⟨[], [], lit "0.1", lit "Device is Alive"⟩
  time := 1700000000
  hostThread := 1
  answers :=
    have quoted : SnmpExchange := ⟨true, true, true,
      ⟨.success, some ⟨0, [⟨some [1], .data (some (lit "', status='0' WHERE 1=1 -- \\"))⟩]⟩, false⟩⟩
    ⟨quoted, quoted, quoted, quoted, quoted, quoted, quoted⟩

private def injectedRow : HostColumns :=
  ⟨some (lit "7"), some (lit "3"), none, some (lit "0"), some (lit "1690000000"),
    some (lit "it's down"), none, none, none, none, none, none, none⟩

private def injectedHost : MonitoredHost where
  id := 7
  hostname := lit "router"
  community := lit "public"
  version := 2
  state := ⟨.up, 0, lit "0", lit "1690000000", lit "it's down"⟩
  statistics := ⟨0, 0, 0, 0, 0, 0, 100⟩

private def injectedColumns : SystemColumns := ⟨none, some (lit "a'b"), none, none, none, none⟩

private def plainPrint (decimals : Nat) (_ : ℚ) : Text := lit "0." ++ List.replicate decimals 48

private theorem printsDoubles_plainPrint : PrintsDoubles plainPrint := by
  refine ⟨fun decimals _ b hb => ?_, fun decimals _ => ?_⟩
  · rcases List.mem_append.1 hb with hb | hb
    · have hplain : (lit "0.").all (fun b => (escapeCode b).isNone) = true := by decide
      exact Option.isNone_iff_eq_none.1 (List.all_eq_true.1 hplain b hb)
    · rw [List.eq_of_mem_replicate hb]
      rfl
  · unfold plainPrint
    rw [List.length_append, List.length_replicate]
    have hpoint : (lit "0.").length = 2 := by decide
    omega

/-- The texts stay in their literals, and the row of the device is the one that is updated. -/
theorem refreshHost_persisted_injected :
    ∃ after system sets, refreshHost escape injectingCall injectedHost
        (hostMetadataSystem escape injectedColumns) = ((after, system), true) ∧
      parseUpdate (persistHostStatus escape plainPrint after system true) =
        some (lit "host", sets, literalSet (lit "id") (lit "7")) := by
  obtain ⟨after, system, read, hrefresh, -, hparse, -⟩ :=
    refreshHost_persisted printsDoubles_plainPrint injectingCall (by decide)
      (show loadHostMetadata (fun _ => 0) (lit "router") (lit "public") 2 injectedRow =
        some injectedHost from rfl) ⟨by decide, by decide⟩ injectedColumns
  obtain rfl : true = read := congrArg Prod.snd hrefresh
  have hdated : after.dated = true :=
    (congrArg (fun result => result.1.1.dated) hrefresh).symm.trans rfl
  rw [if_pos hdated] at hparse
  exact ⟨after, system, _, hrefresh, hparse⟩

end Spine
