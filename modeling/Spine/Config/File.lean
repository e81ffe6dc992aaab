import Spine.Base.Stdio
import Spine.Log.Sanitize

/-!
# The configuration file

`read_spine_config` of `config/file.c` reads `spine.conf` line by line with
`fgets`.  A line that is longer than the buffer comes in pieces, so
`config_line_complete` looks whether the line just read was whole and consumes
what is left of it when it was not.

* `applyConfigDirective`, `configLineComplete` and `readSpineConfig` are the
  functions.  A file is the list of its bytes.
* `configEntry` is what one physical line means: nothing but its bytes before the
  first NUL, and a warning when it does not fit.
* `readConfigLine_cases`: one turn of the loop consumes exactly one physical
  line, whatever its length and whatever it holds.
* `configLoop_eq`: a whole run is the fold of `configEntry` over the lines of the
  file.  The number of a line is counted in an `int`.
-/

namespace Spine

open Base.CString Base.Splitting Base.Stdio

def LOGDEST_BOTH : Int32 := 2

/-! ## Directives -/

/-- The part of `spine_database_config_t` that the file sets. -/
structure DatabaseSettings where
  host : Text
  database : Text
  user : Text
  password : Text
  ssl : Int32
  sslKey : Text
  sslCert : Text
  sslCa : Text
  port : UInt32
  deriving DecidableEq

/-- The part of `config_t` that the file sets. -/
structure FileSettings where
  database : DatabaseSettings
  remoteDatabase : DatabaseSettings
  snmpClientaddr : Text
  pollerId : Int32
  pathLogfile : Text
  logfileProcessed : Int32
  logDestination : Int32
  deriving DecidableEq

/-- A message to the standard error, with the number of its line. -/
inductive ConfigWarning where
  | notOpened
  | tooLong (line : Int32)
  | noValue (line : Int32)
  | unrecognized (line : Int32)
  | preG
  deriving DecidableEq

def ConfigWarning.text (displayFile : Text) : ConfigWarning → Text
  | .notOpened => lit "ERROR: Could not open config file [" ++ displayFile ++ lit "]\n"
  | .tooLong line =>
    lit "WARNING: Ignoring line " ++ decimalInt line.toInt ++ lit " of " ++ displayFile ++
      lit ", longer than " ++ decimal (BUFSIZE - 2) ++ lit " characters\n"
  | .noValue line =>
    lit "WARNING: Directive without a value on line " ++ decimalInt line.toInt ++ lit " of " ++
      displayFile ++ lit "\n"
  | .unrecognized line =>
    lit "WARNING: Unrecognized directive on line " ++ decimalInt line.toInt ++ lit " of " ++
      displayFile ++ lit "\n"
  | .preG => lit "WARNING: DB_PreG is no longer supported\n"

/-- What the reading of a file changes: the settings and the two outputs. -/
structure ConfigRun where
  settings : FileSettings
  stdout : List Text
  stderr : List Text
  deriving DecidableEq

/-- The name of the file, the flags of the console and the log level, and what
closing the file reports. -/
structure ConfigEnv where
  file : Text
  stdoutNotty : Bool
  stderrNotty : Bool
  debugging : Bool
  fcloseFails : Bool

/-- `display_file`. -/
def ConfigEnv.displayFile (env : ConfigEnv) : Text :=
  spineSanitizeLogMessage (snprintfS BUFSIZE env.file)

/-- `if (!set.console.stderr_notty) fprintf(stderr, …)`. -/
def ConfigRun.warn (env : ConfigEnv) (warning : ConfigWarning) (run : ConfigRun) : ConfigRun :=
  if env.stderrNotty then run
  else { run with stderr := run.stderr ++ [warning.text env.displayFile] }

/-- `strings` of `apply_config_directive`.  The offset of a field is the function
that stores into it; every field has `BUFSIZE` bytes. -/
def directiveStrings : List (Text × (Text → FileSettings → FileSettings)) :=
  [(lit "RDB_Host", fun v s => { s with remoteDatabase.host := v }),
   (lit "RDB_Database", fun v s => { s with remoteDatabase.database := v }),
   (lit "RDB_User", fun v s => { s with remoteDatabase.user := v }),
   (lit "RDB_Pass", fun v s => { s with remoteDatabase.password := v }),
   (lit "RDB_SSL_Key", fun v s => { s with remoteDatabase.sslKey := v }),
   (lit "RDB_SSL_Cert", fun v s => { s with remoteDatabase.sslCert := v }),
   (lit "RDB_SSL_CA", fun v s => { s with remoteDatabase.sslCa := v }),
   (lit "DB_Host", fun v s => { s with database.host := v }),
   (lit "DB_Database", fun v s => { s with database.database := v }),
   (lit "DB_User", fun v s => { s with database.user := v }),
   (lit "DB_Pass", fun v s => { s with database.password := v }),
   (lit "DB_SSL_Key", fun v s => { s with database.sslKey := v }),
   (lit "DB_SSL_Cert", fun v s => { s with database.sslCert := v }),
   (lit "DB_SSL_CA", fun v s => { s with database.sslCa := v }),
   (lit "SNMP_Clientaddr", fun v s => { s with snmpClientaddr := v })]

/-- `apply_config_directive`, and whether it knows the name. -/
def applyConfigDirective (env : ConfigEnv) (name value : Text) (run : ConfigRun) :
    ConfigRun × Bool :=
  let settings := run.settings
  match directiveStrings.find? fun entry => strcaseeq name entry.1 with
  | some (_, store) =>
    ({ run with settings := store (snprintfS BUFSIZE value) settings }, true)
  | none =>
    if strcaseeq name (lit "RDB_Port") then
      ({ run with settings.remoteDatabase.port := (atoi value).toUInt32 }, true)
    else if strcaseeq name (lit "RDB_UseSSL") then
      ({ run with settings.remoteDatabase.ssl := atoi value }, true)
    else if strcaseeq name (lit "DB_Port") then
      ({ run with settings.database.port := (atoi value).toUInt32 }, true)
    else if strcaseeq name (lit "DB_UseSSL") then
      ({ run with settings.database.ssl := atoi value }, true)
    else if strcaseeq name (lit "Poller") then
      ({ run with settings.pollerId := atoi value }, true)
    else if strcaseeq name (lit "DB_PreG") then (run.warn env .preG, true)
    else if strcaseeq name (lit "Cacti_Log") then
      ({ run with settings := { settings with
          pathLogfile := snprintfS DBL_BUFSIZE value
          logfileProcessed := 1
          logDestination := LOGDEST_BOTH } }, true)
    else (run, false)

/-- A name with its value on the given line. -/
def ConfigRun.directive (env : ConfigEnv) (line : Int32) (name value : Text) (run : ConfigRun) :
    ConfigRun :=
  let (run, known) := applyConfigDirective env name value run
  if known then run else run.warn env (.unrecognized line)

/-- What the loop does with the fields of a line. -/
def ConfigRun.fields (env : ConfigEnv) (line : Int32) (fields : List Text) (run : ConfigRun) :
    ConfigRun :=
  match fields with
  | [] => run
  | [_] => run.warn env (.noValue line)
  | name :: value :: _ => run.directive env line name value

/-! ## Lines -/

/-- `config_line_complete`: whether the line just read was whole, and the stream
afterwards. -/
def configLineComplete (buff : List UInt8) (capacity : Nat) (stream : List UInt8) :
    Bool × List UInt8 :=
  if buff[capacity - 1]? ≠ some 0 ∨ buff[capacity - 2]? = some 10 then (true, stream)
  else
    match stream with
    | [] => (true, [])
    | next :: stream => if next = 10 then (true, stream) else (false, skipLine stream)

theorem configLineComplete_length_le (buff : List UInt8) (capacity : Nat) (stream : List UInt8) :
    (configLineComplete buff capacity stream).2.length ≤ stream.length := by
  unfold configLineComplete
  split
  · exact Nat.le_refl _
  · cases stream with
    | nil => exact Nat.le_refl _
    | cons next stream =>
      dsimp only
      split
      · exact Nat.le_succ _
      · exact Nat.le_succ_of_le (skipLine_length_le stream)

/-- The head of the loop of `read_spine_config`: the last byte of the buffer is set,
a line is read and it is looked whether it was whole. -/
def readConfigLine (buff stream : List UInt8) : Option (List UInt8 × Bool × List UInt8) :=
  match fgets BUFSIZE stream with
  | none => none
  | some (bytes, rest) =>
    let buff := stored (buff.set (BUFSIZE - 1) 1) bytes
    some (buff, configLineComplete buff BUFSIZE rest)

theorem readConfigLine_length_lt {buff stream next rest : List UInt8} {complete : Bool}
    (h : readConfigLine buff stream = some (next, complete, rest)) :
    rest.length < stream.length := by
  unfold readConfigLine at h
  cases hread : fgets BUFSIZE stream with
  | none =>
    rw [hread] at h
    cases h
  | some read =>
    rw [hread] at h
    simp only [Option.some.injEq, Prod.mk.injEq] at h
    have hrest := configLineComplete_length_le next BUFSIZE read.2
    rw [h.1] at h
    rw [h.2] at hrest
    exact Nat.lt_of_le_of_lt hrest (fgets_length_lt (by decide) hread)

/-- The body of the loop for a line that was whole. -/
def configLine (env : ConfigEnv) (line : Int32) (text : Text) (run : ConfigRun) : ConfigRun :=
  if text.head? = some 35 ∨ text.head? = some 32 ∨ text.head? = some 10 then run
  else run.fields env line (scanFields 1023 text)

/-- The loop of `read_spine_config`. -/
def configLoop (env : ConfigEnv) (buff stream : List UInt8) (line : Int32) (run : ConfigRun) :
    ConfigRun :=
  match _h : readConfigLine buff stream with
  | none => run
  | some (buff, complete, rest) =>
    let line := line + 1
    configLoop env buff rest line
      (if complete then configLine env line (cstr buff) run else run.warn env (.tooLong line))
  termination_by stream.length
  decreasing_by exact readConfigLine_length_lt _h

/-- An array of `BUFSIZE` bytes. -/
abbrev LineBuffer : Type := { bytes : List UInt8 // bytes.length = BUFSIZE }

/-- The run at the start of the loop, with the line on the standard output. -/
def openedRun (env : ConfigEnv) (settings : FileSettings) : ConfigRun where
  settings := settings
  stdout :=
    if env.stdoutNotty then []
    else [lit "SPINE: Using spine config file [" ++ env.displayFile ++ lit "]\n"]
  stderr := []

/-- `read_spine_config` for a file that has no read error, with what is in the
buffer at its start.  `none` is a file that does not open. -/
def readSpineConfig (env : ConfigEnv) (content : Option (List UInt8)) (buff : LineBuffer)
    (settings : FileSettings) : Int × ConfigRun :=
  match content with
  | none =>
    let run : ConfigRun := ⟨settings, [], []⟩
    (-1, if env.debugging then run.warn env .notOpened else run)
  | some bytes =>
    (if env.fcloseFails then -1 else 0,
      configLoop env buff.val bytes 0 (openedRun env settings))

/-! ## One line -/

/-- What a physical line means.  The line feed is no part of it. -/
def configEntry (env : ConfigEnv) (number : Int32) (line : List UInt8) (run : ConfigRun) :
    ConfigRun :=
  if 1023 < line.length then run.warn env (.tooLong number)
  else if (cstr line).head? = some 35 ∨ (cstr line).head? = some 32 then run
  else run.fields env number (tokens isSpace (cstr line))

/-! ## The buffer after a line -/

section Complete

variable {capacity : Nat} {buff bytes : List UInt8}

/-- The sentinel is still there: the line did not fill the buffer. -/
theorem configLineComplete_of_lt (hbuff : buff.length = capacity)
    (h : bytes.length < capacity - 1) (rest : List UInt8) :
    configLineComplete (stored (buff.set (capacity - 1) 1) bytes) capacity rest = (true, rest) := by
  have hlast : (stored (buff.set (capacity - 1) 1) bytes)[capacity - 1]? = some 1 := by
    rw [getElem?_stored_of_lt h, List.getElem?_set_self (by omega)]
  unfold configLineComplete
  rw [if_pos]
  rw [hlast]
  exact Or.inl (by decide)

/-- The buffer is full and its last byte is the line feed. -/
theorem configLineComplete_of_newline (hfull : bytes.length = capacity - 2)
    (rest : List UInt8) :
    configLineComplete (stored buff (bytes ++ [10])) capacity rest = (true, rest) := by
  have hlast : (stored buff (bytes ++ [10]))[capacity - 2]? = some 10 := by
    rw [getElem?_stored_of_gt (by simp [hfull]), ← hfull, List.getElem?_concat_length]
  exact if_pos (Or.inr hlast)

/-- The buffer is full and holds no line feed: the next byte decides. -/
theorem configLineComplete_of_full (hfull : bytes.length = capacity - 1)
    (hcapacity : 2 ≤ capacity) (hbytes : (10 : UInt8) ∉ bytes) (rest : List UInt8) :
    configLineComplete (stored buff bytes) capacity rest =
      match rest with
      | [] => (true, [])
      | next :: rest => if next = 10 then (true, rest) else (false, skipLine rest) := by
  have hend : (stored buff bytes)[capacity - 1]? = some 0 := by
    rw [← hfull]
    exact getElem?_stored_end buff bytes
  have hlast : (stored buff bytes)[capacity - 2]? ≠ some 10 := by
    rw [getElem?_stored_of_gt (by omega)]
    intro h
    exact hbytes (List.mem_of_getElem? h)
  unfold configLineComplete
  rw [if_neg (not_or.mpr ⟨not_not.mpr hend, hlast⟩)]

end Complete

/-- What one turn of the loop leaves for a physical line. -/
structure ReadsLine (line buff : List UInt8) (complete : Bool) : Prop where
  newline_notMem : (10 : UInt8) ∉ line
  length_buff : buff.length = BUFSIZE
  complete_eq : complete = decide (line.length ≤ 1023)
  text : complete = true → cstr buff = cstr line ∨
    line.length < 1023 ∧ cstr buff = cstr (line ++ [10])

section Reading

variable {buff line ending : List UInt8} (hbuff : buff.length = BUFSIZE)

variable (buff) in
theorem readConfigLine_of_fgetsBytes {stream bytes rest : List UInt8} (hne : stream ≠ [])
    (h : fgetsBytes (BUFSIZE - 1) stream = (bytes, rest)) :
    readConfigLine buff stream =
      some (stored (buff.set (BUFSIZE - 1) 1) bytes,
        configLineComplete (stored (buff.set (BUFSIZE - 1) 1) bytes) BUFSIZE rest) := by
  cases stream with
  | nil => exact absurd rfl hne
  | cons b stream =>
    unfold readConfigLine fgets
    dsimp only
    rw [h]

include hbuff

theorem length_buff_stored {bytes : List UInt8} (h : bytes.length ≤ 1023) :
    (stored (buff.set (BUFSIZE - 1) 1) bytes).length = BUFSIZE := by
  have hset : (buff.set (BUFSIZE - 1) 1).length = 1024 := by rw [List.length_set, hbuff]; rfl
  rw [stored_length (by omega), hset]
  rfl

variable (hline : (10 : UInt8) ∉ line) (hending : ∀ b ∈ ending.head?, b = 10)

include hline hending

/-- A line that fits with its line feed. -/
theorem readConfigLine_short (hne : line ++ ending ≠ []) (h : line.length < 1023) :
    ∃ next, readConfigLine buff (line ++ ending) = some (next, true, ending.tail) ∧
      ReadsLine line next true := by
  have hread := readConfigLine_of_fgetsBytes buff hne
    (fgetsBytes_of_lt hline hending (n := BUFSIZE - 1) h)
  have hlength : (line ++ ending.take 1).length ≤ 1023 := by
    rw [List.length_append, List.length_take]
    omega
  refine ⟨stored (buff.set (BUFSIZE - 1) 1) (line ++ ending.take 1), ?_, hline,
    length_buff_stored hbuff hlength, (decide_eq_true (by omega)).symm, fun _ => ?_⟩
  · rw [hread]
    by_cases hfits : (line ++ ending.take 1).length < BUFSIZE - 1
    · rw [configLineComplete_of_lt hbuff hfits]
    · -- Only a line feed can fill the buffer.
      have hfull : (line ++ ending.take 1).length = 1023 :=
        Nat.le_antisymm hlength (not_lt.mp hfits)
      cases ending with
      | nil =>
        rw [List.take_nil, List.append_nil] at hfull
        omega
      | cons b rest =>
        cases hending b rfl
        rw [List.take_succ_cons, List.take_zero] at hfull ⊢
        rw [List.length_append] at hfull
        rw [List.length_singleton] at hfull
        rw [configLineComplete_of_newline (Nat.succ.inj hfull)]
  · rw [cstr_stored]
    cases ending with
    | nil => exact Or.inl (by rw [List.take_nil, List.append_nil])
    | cons b rest =>
      cases hending b rfl
      exact Or.inr ⟨h, rfl⟩

/-- A line that fills the buffer: the look-ahead consumes its line feed. -/
theorem readConfigLine_full (h : line.length = 1023) :
    ∃ next, readConfigLine buff (line ++ ending) = some (next, true, ending.tail) ∧
      ReadsLine line next true := by
  have hne : line ++ ending ≠ [] := by
    intro hnil
    rw [List.append_eq_nil_iff] at hnil
    rw [hnil.1] at h
    cases h
  have hbytes : fgetsBytes (BUFSIZE - 1) (line ++ ending) = (line, ending) := by
    rw [show BUFSIZE - 1 = line.length from h.symm]
    exact fgetsBytes_full hline
  refine ⟨stored (buff.set (BUFSIZE - 1) 1) line, ?_, hline, length_buff_stored hbuff (by omega),
    (decide_eq_true (by omega)).symm, fun _ => Or.inl (cstr_stored _ _)⟩
  rw [readConfigLine_of_fgetsBytes buff hne hbytes, configLineComplete_of_full h (by decide) hline]
  cases ending with
  | nil => rfl
  | cons b rest =>
    cases hending b rfl
    rfl

/-- A line that is longer: the look-ahead finds more of it and consumes the rest. -/
theorem readConfigLine_long (h : 1023 < line.length) :
    ∃ next, readConfigLine buff (line ++ ending) = some (next, false, ending.tail) ∧
      ReadsLine line next false := by
  obtain ⟨front, next, tail, rfl, hfront⟩ :
      ∃ front next tail, line = front ++ next :: tail ∧ front.length = 1023 := by
    refine ⟨line.take 1023, line.get ⟨1023, h⟩, line.drop 1024, ?_, ?_⟩
    · rw [List.get_eq_getElem, List.getElem_cons_drop, List.take_append_drop]
    · rw [List.length_take]
      omega
  obtain ⟨hfrontline, hnext, htail⟩ :
      (10 : UInt8) ∉ front ∧ (10 : UInt8) ≠ next ∧ (10 : UInt8) ∉ tail := by
    rwa [List.mem_append, List.mem_cons, not_or, not_or] at hline
  have hbytes : fgetsBytes (BUFSIZE - 1) (front ++ (next :: tail ++ ending)) =
      (front, next :: tail ++ ending) := by
    rw [show BUFSIZE - 1 = front.length from hfront.symm]
    exact fgetsBytes_full hfrontline
  refine ⟨stored (buff.set (BUFSIZE - 1) 1) front, ?_, hline, length_buff_stored hbuff (by omega),
    (decide_eq_false (by omega)).symm, fun h => by cases h⟩
  rw [List.append_assoc, readConfigLine_of_fgetsBytes buff (by simp) hbytes,
    configLineComplete_of_full hfront (by decide) hfrontline]
  dsimp only [List.cons_append]
  rw [if_neg (Ne.symm hnext), skipLine_append htail hending]

end Reading

/-- One turn of the loop consumes one physical line. -/
theorem readConfigLine_cases {buff stream : List UInt8} (hbuff : buff.length = BUFSIZE)
    (hne : stream ≠ []) :
    ∃ line more next complete, lines 10 stream = line :: lines 10 more ∧
      readConfigLine buff stream = some (next, complete, more) ∧ ReadsLine line next complete := by
  obtain ⟨line, ending, hline, hending, rfl, hlines⟩ := exists_firstLine hne
  rcases Nat.lt_trichotomy line.length 1023 with hlt | heq | hgt
  · obtain ⟨next, hread, hreads⟩ := readConfigLine_short hbuff hline hending hne hlt
    exact ⟨line, _, next, true, hlines, hread, hreads⟩
  · obtain ⟨next, hread, hreads⟩ := readConfigLine_full hbuff hline hending heq
    exact ⟨line, _, next, true, hlines, hread, hreads⟩
  · obtain ⟨next, hread, hreads⟩ := readConfigLine_long hbuff hline hending hgt
    exact ⟨line, _, next, false, hlines, hread, hreads⟩

/-! ## The meaning of a line -/

section Meaning

variable (env : ConfigEnv) (number : Int32) (run : ConfigRun)

theorem fields_take_two (fields : List Text) :
    run.fields env number (fields.take 2) = run.fields env number fields := by
  match fields with
  | [] => rfl
  | [_] => rfl
  | _ :: _ :: _ => rfl

/-- The widths of the conversions cut no token of a line. -/
theorem configLine_eq {text : Text} (h : text.length ≤ 1023) :
    configLine env number text run =
      if text.head? = some 35 ∨ text.head? = some 32 ∨ text.head? = some 10 then run
      else run.fields env number (tokens isSpace text) := by
  unfold configLine
  rw [scanFields_eq h, fields_take_two]

/-- The string of a line with its line feed: a NUL in the line hides the line feed. -/
theorem cstr_concat_newline (line : List UInt8) :
    cstr (line ++ [10]) = cstr line ∨ cstr (line ++ [10]) = cstr line ++ [10] := by
  by_cases hnul : (0 : UInt8) ∈ line
  · obtain ⟨front, rest, rfl, hfront⟩ := List.eq_append_cons_of_mem hnul
    left
    rw [List.append_assoc, List.cons_append, cstr_append_nul hfront, cstr_append_nul hfront]
  · right
    rw [cstr_eq_self hnul, cstr_eq_self (by simpa using hnul)]

/-- The line feed at the end means nothing. -/
theorem configLine_concat_newline {text : Text} (h : text.length < 1023) :
    configLine env number (text ++ [10]) run = configLine env number text run := by
  have hconcat : (text ++ [10]).length ≤ 1023 := by
    rw [List.length_append, List.length_singleton]
    omega
  rw [configLine_eq env number run hconcat,
    configLine_eq env number run (Nat.le_of_lt h),
    tokens_append_cons text (by decide), tokens_nil, List.append_nil]
  cases text with
  | nil => rfl
  | cons b text => rfl

/-- What the loop does with a line is what the line means. -/
theorem configEntry_of_readsLine {line buff : List UInt8} {complete : Bool}
    (h : ReadsLine line buff complete) :
    (if complete then configLine env number (cstr buff) run
      else run.warn env (.tooLong number)) = configEntry env number line run := by
  have hcomplete := h.complete_eq
  by_cases hlength : line.length ≤ 1023
  · rw [decide_eq_true hlength] at hcomplete
    subst hcomplete
    have htext : configLine env number (cstr buff) run = configLine env number (cstr line) run := by
      rcases h.text rfl with htext | ⟨hlt, htext⟩
      · rw [htext]
      · rw [htext]
        rcases cstr_concat_newline line with hcstr | hcstr
        · rw [hcstr]
        · rw [hcstr, configLine_concat_newline]
          exact Nat.lt_of_le_of_lt (cstr_length_le line) hlt
    have hfits : ¬ 1023 < line.length := by omega
    have hhead : (cstr line).head? ≠ some 10 := by
      intro hhead
      have hmem := List.takeWhile_subset _ (List.mem_of_mem_head? hhead)
      exact h.newline_notMem hmem
    rw [if_pos rfl, htext, configLine_eq _ _ _ (Nat.le_trans (cstr_length_le line) hlength),
      configEntry, if_neg hfits]
    simp only [hhead, or_false]
  · rw [decide_eq_false hlength] at hcomplete
    subst hcomplete
    rw [if_neg Bool.false_ne_true, configEntry, if_pos (by omega)]

end Meaning

/-! ## The whole file -/

/-- The meaning of physical lines, the first of which has the given number. -/
def configEntries (env : ConfigEnv) (number : Nat) (entries : List (List UInt8)) (run : ConfigRun) :
    ConfigRun :=
  (entries.zipIdx number).foldl
    (fun run entry => configEntry env (Int32.ofNat entry.2) entry.1 run) run

theorem configLoop_nil (env : ConfigEnv) (buff : List UInt8) (line : Int32) (run : ConfigRun) :
    configLoop env buff [] line run = run := by
  unfold configLoop
  rfl

theorem configLoop_of_readConfigLine {env : ConfigEnv} {buff stream next rest : List UInt8}
    {complete : Bool} {line : Int32} {run : ConfigRun}
    (h : readConfigLine buff stream = some (next, complete, rest)) :
    configLoop env buff stream line run =
      configLoop env next rest (line + 1)
        (if complete then configLine env (line + 1) (cstr next) run
          else run.warn env (.tooLong (line + 1))) := by
  rw [configLoop]
  split
  · rename_i hnone
    rw [h] at hnone
    cases hnone
  · rename_i hsome
    rw [h] at hsome
    cases hsome
    rfl

/-- The loop goes through the physical lines in order.  The induction is on what is
left of the file. -/
theorem configLoop_eq (env : ConfigEnv) {buff : List UInt8} (hbuff : buff.length = BUFSIZE)
    (stream : List UInt8) (count : Nat) (run : ConfigRun) :
    configLoop env buff stream (Int32.ofNat count) run =
      configEntries env (count + 1) (lines 10 stream) run := by
  induction hn : stream.length using Nat.strong_induction_on generalizing buff stream count run with
  | _ n ih =>
    by_cases hne : stream = []
    · subst hne
      rw [configLoop_nil, lines_nil]
      rfl
    · obtain ⟨line, more, next, complete, hlines, hread, hreads⟩ := readConfigLine_cases hbuff hne
      have hless := readConfigLine_length_lt hread
      have hnumber : Int32.ofNat count + 1 = Int32.ofNat (count + 1) :=
        (Int32.ofNat_add count 1).symm
      rw [configLoop_of_readConfigLine hread, hnumber, configEntry_of_readsLine env _ run hreads,
        ih more.length (by omega) hreads.length_buff more (count + 1) _ rfl, hlines]
      rfl

/-- Every line of the file is taken by itself and in order, and a line up to number
`INT_MAX` is reported under its own number. -/
theorem readSpineConfig_lines (env : ConfigEnv) (content : List UInt8) (buff : LineBuffer)
    (settings : FileSettings) :
    readSpineConfig env (some content) buff settings =
        (if env.fcloseFails then -1 else 0,
          configEntries env 1 (lines 10 content) (openedRun env settings)) ∧
      ∀ number : Nat, number ≤ INT_MAX →
        decimalInt (Int32.ofNat number).toInt = decimal number := by
  constructor
  · have hloop := configLoop_eq env buff.property content 0 (openedRun env settings)
    exact congrArg (Prod.mk _) hloop
  · intro number hnumber
    have hmax : INT_MAX = 2147483647 := rfl
    rw [Int32.toInt_ofNat_of_lt (by omega)]
    rfl

/-! ## The counter -/

/-- Empty lines change nothing but the number. -/
theorem configEntries_replicate_nil (env : ConfigEnv) (number n : Nat)
    (entries : List (List UInt8)) (run : ConfigRun) :
    configEntries env number (List.replicate n [] ++ entries) run =
      configEntries env (number + n) entries run := by
  induction n generalizing number with
  | zero => rfl
  | succ n ih =>
    have hnumber : number + (n + 1) = number + 1 + n := by omega
    rw [hnumber, ← ih (number + 1), List.replicate_succ]
    rfl

theorem lines_replicate_newline (n : Nat) {last : List UInt8} (hne : last ≠ [])
    (h : (10 : UInt8) ∉ last) :
    lines 10 (List.replicate n 10 ++ last) = List.replicate n [] ++ [last] := by
  induction n with
  | zero => exact lines_of_notMem hne h
  | succ n ih =>
    have hfront : (10 : UInt8) ∉ [] := List.not_mem_nil
    have hcut := lines_append_cons hfront (List.replicate n 10 ++ last)
    rw [ih] at hcut
    exact hcut

/-- The number in a warning after `n` empty lines. -/
theorem stderr_after_newlines {env : ConfigEnv} (henv : env.stderrNotty = false) (n : Nat)
    (buff : LineBuffer) (settings : FileSettings) :
    (readSpineConfig env (some (List.replicate n 10 ++ lit "x")) buff settings).2.stderr =
      [(ConfigWarning.noValue (Int32.ofNat (n + 1))).text env.displayFile] := by
  have hloop := configLoop_eq env buff.property (List.replicate n 10 ++ lit "x") 0
    (openedRun env settings)
  rw [lines_replicate_newline n (by decide) (by decide), configEntries_replicate_nil,
    Nat.zero_add, Nat.add_comm] at hloop
  have hentry : (configEntries env (n + 1) [lit "x"] (openedRun env settings)).stderr =
      [(ConfigWarning.noValue (Int32.ofNat (n + 1))).text env.displayFile] := by
    show ((openedRun env settings).warn env (.noValue (Int32.ofNat (n + 1)))).stderr = _
    rw [ConfigRun.warn, henv]
    rfl
  rw [← hentry, ← hloop]
  rfl

/-- The number of line 2147483649 has wrapped around. -/
theorem readSpineConfig_number_wraps :
    ∃ (env : ConfigEnv) (content : List UInt8),
      (lines 10 content)[2147483648]? = some (lit "x") ∧
        ∀ (buff : LineBuffer) (settings : FileSettings),
          (readSpineConfig env (some content) buff settings).2.stderr =
            [lit "WARNING: Directive without a value on line -2147483647 of spine.conf\n"] := by
  refine ⟨⟨lit "spine.conf", true, false, false, false⟩,
    List.replicate 2147483648 10 ++ lit "x", ?_, ?_⟩
  · generalize 2147483648 = n
    rw [lines_replicate_newline n (by decide) (by decide),
      List.getElem?_append_right (by rw [List.length_replicate]), List.length_replicate,
      Nat.sub_self]
    rfl
  · intro buff settings
    rw [stderr_after_newlines rfl]
    decide

end Spine
