import Spine.Log.Sanitize

/-!
# Log records

`spine_log` of `log/log.c` formats a message into a buffer, sanitizes it, puts the
date and a prefix in front in a second buffer of the same size and appends a line
feed.  The two buffers come from the heap, or from the stack with `BUFSIZE` bytes
each.

* `logFormatMessage` and `spineLog` are the functions.  What `strftime` leaves in
  the buffer is part of `LogEnv`, with the bound of its call.
* `logFormatMessage_eq`: the date, the prefix and what still fits of the message,
  with room for the line feed and the NUL.
* `spineLog_one_line`: every record fits and is one line.
-/

namespace Spine

open Base.CString

def LOGSIZE : Nat := 65535

def LOGDEST_STDOUT : Int := 4

def POLLER_VERBOSITY_NONE : Int := 1

/-! ## The functions -/

/-- What a record is made of besides its message.  The date is empty when
`localtime_r` or `strftime` fails. -/
structure LogEnv where
  pollerId : Int32
  pid : Int32
  threadId : Nat
  logDestination : Int
  logLevel : Int
  date : Text
  date_length_le : date.length ≤ 49
  newline_notMem_date : (10 : UInt8) ∉ date

/-- `prefix` of `log_format_message`. -/
def LogEnv.recordPrefix (env : LogEnv) : Text :=
  snprintfS SMALL_BUFSIZE (lit "SPINE: Poller[" ++ decimalInt env.pollerId.toInt ++ lit "] PID[" ++
    decimalInt env.pid.toInt ++ lit "] PT[" ++ decimal env.threadId ++ lit "] ")

/-- `"%.*s"`.  A negative precision is taken as if it was left out. -/
def formatPrecision (precision : Int) (text : Text) : Text :=
  if precision < 0 then text else text.take precision.toNat

/-- `log_format_message`: what it leaves in `output`. -/
def logFormatMessage (env : LogEnv) (capacity : Nat) (message : Text) : Text :=
  let available : Int := capacity - env.date.length - 2
  let prefixLength : Int :=
    if (env.recordPrefix.length : Int) > available then available else env.recordPrefix.length
  let messageLength : Int :=
    if (message.length : Int) > available - prefixLength then available - prefixLength
    else message.length
  env.date ++ snprintfS (capacity - env.date.length)
    (formatPrecision prefixLength env.recordPrefix ++ formatPrecision messageLength message)

/-- The stream that also gets a record: `stdout`, or what `log_error_stream`
returns. -/
inductive LogStream where
  | output
  | error
  deriving DecidableEq

/-- What `spine_log` does with a message: it prints it at once, or it passes a
record to `log_to_file` and, by the log level, to a stream. -/
inductive LogCall where
  | printed (message : Text)
  | recorded (record : Text) (stream : Option LogStream)
  deriving DecidableEq

/-- The size of both buffers. -/
def logCapacity (buffers : Bool) : Nat := if buffers then LOGSIZE else BUFSIZE

/-- `spine_log` for a formatted message.  `buffers` says that the thread has its
buffers from the heap. -/
def spineLog (env : LogEnv) (buffers : Bool) (text : Text) : LogCall :=
  let capacity := logCapacity buffers
  let message := spineSanitizeLogMessage (snprintfS (capacity - 1) text)
  if env.logDestination = LOGDEST_STDOUT then .printed message
  else
    let formatted := logFormatMessage env capacity message
    let formatted :=
      if 10 ∈ formatted then formatted
      else formatted ++ snprintfS (capacity - formatted.length) (lit "\n")
    let marked := env.date.isEmpty || strstr formatted (lit "ERROR") ||
      strstr formatted (lit "WARNING") || strstr formatted (lit "FATAL")
    .recorded formatted
      (if POLLER_VERBOSITY_NONE ≤ env.logLevel then some (if marked then .error else .output)
        else none)

/-! ## Lengths -/

theorem formatPrecision_of_nonneg {precision : Int} (h : 0 ≤ precision) (text : Text) :
    formatPrecision precision text = text.take precision.toNat :=
  if_neg (by omega)

theorem LogEnv.recordPrefix_length_lt (env : LogEnv) :
    env.recordPrefix.length < SMALL_BUFSIZE := by
  have hcut : env.recordPrefix.length ≤ SMALL_BUFSIZE - 1 := List.length_take_le _ _
  have hsize : SMALL_BUFSIZE = 256 := rfl
  omega

/-- What the date and the prefix leave of a buffer is for the message. -/
theorem logFormatMessage_eq (env : LogEnv) {capacity : Nat} (h : BUFSIZE ≤ capacity)
    (message : Text) :
    logFormatMessage env capacity message = env.date ++ (env.recordPrefix ++
      message.take (capacity - 2 - env.date.length - env.recordPrefix.length)) := by
  have hdate := env.date_length_le
  have hprefix := env.recordPrefix_length_lt
  have hbuffer : BUFSIZE = 1024 := rfl
  have hsmall : SMALL_BUFSIZE = 256 := rfl
  unfold logFormatMessage
  dsimp only
  -- The prefix is never cut: all of it is printed with its own length as precision.
  rw [if_neg (by omega : ¬ (env.recordPrefix.length : Int) > capacity - env.date.length - 2)]
  rw [formatPrecision_of_nonneg (Int.natCast_nonneg _), Int.toNat_natCast, List.take_length]
  have hmessage : ∀ precision : Int,
      (if (message.length : Int) > capacity - env.date.length - 2 - env.recordPrefix.length then
        (capacity - env.date.length - 2 - env.recordPrefix.length : Int) else message.length) =
        precision →
      formatPrecision precision message =
        message.take (capacity - 2 - env.date.length - env.recordPrefix.length) := by
    rintro precision rfl
    split
    · rw [formatPrecision_of_nonneg (by omega)]
      congr 1
      omega
    · rw [formatPrecision_of_nonneg (Int.natCast_nonneg _), Int.toNat_natCast, List.take_length,
        List.take_of_length_le (by omega)]
  rw [hmessage _ rfl, snprintfS_eq_self]
  rw [List.length_append, List.length_take]
  omega

theorem length_logFormatMessage (env : LogEnv) {capacity : Nat} (h : BUFSIZE ≤ capacity)
    (message : Text) : (logFormatMessage env capacity message).length + 2 ≤ capacity := by
  have hdate := env.date_length_le
  have hprefix := env.recordPrefix_length_lt
  have hbuffer : BUFSIZE = 1024 := rfl
  have hsmall : SMALL_BUFSIZE = 256 := rfl
  rw [logFormatMessage_eq env h, List.length_append, List.length_append, List.length_take]
  omega

/-! ## Line feeds -/

theorem LogEnv.newline_notMem_recordPrefix (env : LogEnv) :
    (10 : UInt8) ∉ env.recordPrefix := by
  have hnumber : ∀ i, (10 : UInt8) ∉ decimalInt i := notMem_decimalInt (by decide) (by decide)
  have hthread : (10 : UInt8) ∉ decimal env.threadId := fun hmem =>
    absurd (isDigit_of_mem_decimal hmem) (by decide)
  have hopen : (10 : UInt8) ∉ lit "SPINE: Poller[" := by decide
  have hpid : (10 : UInt8) ∉ lit "] PID[" := by decide
  have hpt : (10 : UInt8) ∉ lit "] PT[" := by decide
  have hclose : (10 : UInt8) ∉ lit "] " := by decide
  intro hmem
  have hwhole := List.mem_of_mem_take hmem
  simp only [List.mem_append] at hwhole
  rcases hwhole with (((((h | h) | h) | h) | h) | h) | h
  · exact hopen h
  · exact hnumber _ h
  · exact hpid h
  · exact hnumber _ h
  · exact hpt h
  · exact hthread h
  · exact hclose h

theorem newline_notMem_logFormatMessage (env : LogEnv) {capacity : Nat} (h : BUFSIZE ≤ capacity)
    {message : Text} (hmessage : (10 : UInt8) ∉ message) :
    (10 : UInt8) ∉ logFormatMessage env capacity message := by
  rw [logFormatMessage_eq env h, List.mem_append, List.mem_append]
  rintro (hdate | hfront | hback)
  · exact env.newline_notMem_date hdate
  · exact env.newline_notMem_recordPrefix hfront
  · exact hmessage (List.mem_of_mem_take hback)

/-- Unless it prints the message at once, `spine_log` passes on a record that fits
its buffer with the NUL, ends in a line feed and has no other line feed.  The record is
the date, the prefix and the sanitized message, of which only the end may be cut. -/
theorem spineLog_one_line (env : LogEnv) (buffers : Bool) (text : Text) :
    let message := spineSanitizeLogMessage (snprintfS (logCapacity buffers - 1) text)
    (env.logDestination = LOGDEST_STDOUT ∧ spineLog env buffers text = .printed message) ∨
      ∃ line stream, spineLog env buffers text = .recorded (line ++ [10]) stream ∧
        (line ++ [10]).length + 1 ≤ logCapacity buffers ∧ (10 : UInt8) ∉ line ∧
        line = env.date ++ (env.recordPrefix ++
          message.take (logCapacity buffers - 2 - env.date.length - env.recordPrefix.length)) := by
  intro message
  have hcapacity : BUFSIZE ≤ logCapacity buffers := by
    cases buffers with
    | false => decide
    | true => decide
  unfold spineLog
  dsimp only
  by_cases hstdout : env.logDestination = LOGDEST_STDOUT
  · rw [if_pos hstdout]
    exact Or.inl ⟨hstdout, rfl⟩
  · rw [if_neg hstdout]
    right
    have hmessage : (10 : UInt8) ∉ message := newline_notMem_spineSanitizeLogMessage _
    have hline := newline_notMem_logFormatMessage env hcapacity hmessage
    have hlength := length_logFormatMessage env hcapacity message
    have hnewline : snprintfS (logCapacity buffers -
        (logFormatMessage env (logCapacity buffers) message).length) (lit "\n") = [10] := by
      rw [snprintfS_eq_self]
      · rfl
      · have hone : (lit "\n").length = 1 := length_lit _
        omega
    rw [if_neg hline, hnewline]
    refine ⟨logFormatMessage env (logCapacity buffers) message, _, rfl, ?_, hline,
      logFormatMessage_eq env hcapacity message⟩
    rw [List.length_append, List.length_singleton]
    omega

/-- A log file, and `stdout` for what is no warning. -/
private def plainLog : LogEnv where
  pollerId := 1
  pid := 4711
  threadId := 139
  logDestination := 1
  logLevel := 2
  date := lit "2026-01-31 23:59:58 - "
  date_length_le := by decide
  newline_notMem_date := by decide

/-- A message of two thousand bytes in the buffer of the stack is cut, and the record
fills the buffer. -/
theorem spineLog_one_line_cut :
    ∃ line stream, spineLog plainLog false (List.replicate 2000 97) =
        .recorded (line ++ [10]) stream ∧
      (line ++ [10]).length + 1 = logCapacity false ∧ (10 : UInt8) ∉ line := by
  rcases spineLog_one_line plainLog false (List.replicate 2000 97) with
    ⟨hstdout, -⟩ | ⟨line, stream, hrecord, -, hline, hwhole⟩
  · exact absurd hstdout (by decide)
  · refine ⟨line, stream, hrecord, ?_, hline⟩
    have hdate : plainLog.date.length = 22 := by decide
    have hprefix : plainLog.recordPrefix.length = 35 := by decide
    have hcapacity : logCapacity false = 1024 := rfl
    rw [hwhole, List.length_append, List.length_append, List.length_append, List.length_take,
      spineSanitizeLogMessage_length, snprintfS, List.length_take, List.length_replicate,
      List.length_singleton, hdate, hprefix, hcapacity]
    decide

end Spine
