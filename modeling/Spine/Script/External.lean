import Spine.App.Text

/-!
# Running a script

`exec_poll` of `script/external.c` runs one command and returns what it wrote.
It takes a script permit first and gives it back at its end.

The system answers every question that the function asks it: `ScriptSystem`
holds the answers of one call.  The record of a call keeps two things beside
the result buffer, the permits that it took and gave back, and the bytes that
it read from the child.

`execPoll_safe_iff` says for which commands and answers the call keeps its
promises.  The one way to break them is the second `spine_snprintf`, which
writes the whole command behind `/usr/bin/` into a buffer that is only sure
to hold the command.
-/

namespace Spine

open Base.CString

/-! ## The function -/

/-- The answer of `spine_wait_readable`: below zero, zero, or above zero. -/
inductive WaitAnswer where
  | failed
  | timeout
  | ready
  deriving DecidableEq, Repr

/-- What the system answers during a call: each try for a permit, whether a
file can be executed, whether `nft_popen` gives a descriptor, the wait, and
the bytes that `read` finds.  A `read` of `none` fails, and one of `[]` is at
the end of the file. -/
structure ScriptSystem where
  permit : Nat → Bool
  access : Text → Bool
  popen : Bool
  wait : WaitAnswer
  read : Option (List UInt8)

/-- A permit is taken from `available_scripts` or given back to it. -/
inductive PermitEvent where
  | acquire
  | release
  deriving DecidableEq, Repr

/-- The end of a call: the process ends, or the call returns its buffer. -/
inductive ExecResult where
  | died
  | returned (buffer : ResultBuffer) (permits : List PermitEvent) (bytesRead : List UInt8)

/-- `acquire_script_permit`.  The loop counts from one, so it tries once less
than its budget. -/
def acquireScriptPermit (cfg : Config) (sys : ScriptSystem) : Bool :=
  if cfg.scriptTimeout ≤ 0 then false
  else (List.range (cfg.scriptTimeout.toNat * 15 - 1)).any sys.permit

/-- The executable of a command, as it is left in its buffer of `BUFSIZE`
bytes.  `none` is the call of `die` in `spine_snprintf`. -/
def scriptExecutable (command : Text) : Option Text := do
  let buffer ← spineSnprintf BUFSIZE command
  let executable := strtokHead 32 buffer
  if 47 ∈ executable then
    some executable
  else do
    let buffer ← spineSnprintf BUFSIZE (lit "/usr/bin/" ++ command)
    some (strtokHead 32 buffer)

theorem resultBytes_fit (data : List UInt8) :
    (data.take (RESULTS_BUFFER - 1) ++ [0]).length ≤ RESULTS_BUFFER := by
  rw [List.length_append, List.length_take, List.length_singleton]
  simp only [RESULTS_BUFFER]
  omega

/-- `read_script_result`: the buffer afterwards and the bytes that were read. -/
def readScriptResult (sys : ScriptSystem) (result : ResultBuffer) :
    ResultBuffer × List UInt8 :=
  match sys.wait, sys.read with
  | .ready, some (b :: data) =>
    (result.write ((b :: data).take (RESULTS_BUFFER - 1) ++ [0]) (resultBytes_fit _),
      (b :: data).take (RESULTS_BUFFER - 1))
  | _, _ => (result.setUndefined, [])

/-- `exec_poll`. -/
def execPoll (cfg : Config) (sys : ScriptSystem) (command : Text) : ExecResult :=
  if acquireScriptPermit cfg sys then
    match scriptExecutable command with
    | none => .died
    | some executable =>
      if sys.access executable then
        if sys.popen then
          let (buffer, bytesRead) := readScriptResult sys .zero
          .returned buffer [.acquire, .release] bytesRead
        else .returned ResultBuffer.zero.setUndefined [.acquire, .release] []
      else .returned ResultBuffer.zero.setUndefined [.acquire, .release] []
  else .returned ResultBuffer.zero.setUndefined [] []

/-! ## What a call promises -/

/-- The call returns a terminated result that fits its buffer, which is `U`
unless bytes were read, and it gives back the permit that it took. -/
def ExecSafe (r : ExecResult) : Prop :=
  ∃ buffer permits bytesRead, r = .returned buffer permits bytesRead ∧
    buffer.Terminated ∧ buffer.text.length < RESULTS_BUFFER ∧
    (bytesRead = [] → buffer.text = undefinedText) ∧
    (permits = [] ∨ permits = [.acquire, .release])

theorem execSafe_undefined (permits : List PermitEvent)
    (h : permits = [] ∨ permits = [.acquire, .release]) :
    ExecSafe (.returned ResultBuffer.zero.setUndefined permits []) :=
  ⟨_, _, _, rfl, ResultBuffer.setUndefined_terminated _,
    (ResultBuffer.setUndefined_terminated _).text_length_lt,
    fun _ => ResultBuffer.setUndefined_text _, h⟩

/-- Whatever the child does, the result is terminated. -/
theorem readScriptResult_spec (sys : ScriptSystem) (result : ResultBuffer) :
    (readScriptResult sys result).1.Terminated ∧
      ((readScriptResult sys result).2 = [] →
        (readScriptResult sys result).1.text = undefinedText) := by
  unfold readScriptResult
  split
  · refine ⟨ResultBuffer.write_nul_terminated _ _ (resultBytes_fit _), fun h => ?_⟩
    exact absurd h (by simp [RESULTS_BUFFER])
  · exact ⟨ResultBuffer.setUndefined_terminated _, fun _ => ResultBuffer.setUndefined_text _⟩

/-- A call that returns has read the child, or it has the mark of an unknown
value and read nothing. -/
theorem execPoll_eq_returned {cfg : Config} {sys : ScriptSystem} {command : Text}
    {buffer : ResultBuffer} {permits : List PermitEvent} {bytesRead : List UInt8}
    (h : execPoll cfg sys command = .returned buffer permits bytesRead) :
    readScriptResult sys .zero = (buffer, bytesRead) ∨
      buffer = ResultBuffer.zero.setUndefined ∧ bytesRead = [] := by
  unfold execPoll at h
  split at h
  · split at h
    · cases h
    · split at h
      · split at h
        · cases h
          exact Or.inl rfl
        · cases h
          exact Or.inr ⟨rfl, rfl⟩
      · cases h
        exact Or.inr ⟨rfl, rfl⟩
  · cases h
    exact Or.inr ⟨rfl, rfl⟩

/-- A call that read no byte returns the mark of an unknown value. -/
theorem execPoll_text_of_no_bytes {cfg : Config} {sys : ScriptSystem} {command : Text}
    {buffer : ResultBuffer} {permits : List PermitEvent}
    (h : execPoll cfg sys command = .returned buffer permits []) :
    buffer.text = undefinedText := by
  rcases execPoll_eq_returned h with hread | ⟨rfl, _⟩
  · have hundefined := (readScriptResult_spec sys .zero).2
    rw [hread] at hundefined
    exact hundefined rfl
  · exact ResultBuffer.setUndefined_text _

/-- A call that read bytes returns the front of what was in the pipe. -/
theorem execPoll_text_of_bytes {cfg : Config} {sys : ScriptSystem} {command : Text}
    {buffer : ResultBuffer} {permits : List PermitEvent} {bytesRead data : List UInt8}
    (h : execPoll cfg sys command = .returned buffer permits bytesRead) (hne : bytesRead ≠ [])
    (hdata : sys.read = some data) (hzero : (0 : UInt8) ∉ data) :
    bytesRead = data.take (RESULTS_BUFFER - 1) ∧ buffer.text = bytesRead := by
  rcases execPoll_eq_returned h with hread | ⟨_, hnil⟩
  · unfold readScriptResult at hread
    split at hread
    · rename_i hchild
      cases hdata.symm.trans hchild
      cases hread
      refine ⟨rfl, ?_⟩
      show cstr ((_ ++ [0]) ++ _) = _
      rw [List.append_assoc, List.singleton_append]
      exact cstr_append_nul (fun hmem => hzero (List.mem_of_mem_take hmem)) _
    · cases hread
      exact absurd rfl hne
  · exact absurd hnil hne

/-- After the executable is known, every path keeps the promises. -/
theorem execPoll_safe_of_executable {cfg : Config} {sys : ScriptSystem} {command executable : Text}
    (hpermit : acquireScriptPermit cfg sys = true)
    (hexecutable : scriptExecutable command = some executable) :
    ExecSafe (execPoll cfg sys command) := by
  unfold execPoll
  rw [if_pos hpermit, hexecutable]
  dsimp only
  split
  · split
    · obtain ⟨hterminated, hundefined⟩ := readScriptResult_spec sys .zero
      exact ⟨_, _, _, rfl, hterminated, hterminated.text_length_lt, hundefined, Or.inr rfl⟩
    · exact execSafe_undefined _ (Or.inr rfl)
  · exact execSafe_undefined _ (Or.inr rfl)

/-- A command that fits the buffer dies only when it has no slash in its first
word and `/usr/bin/` in front of it does not fit. -/
theorem scriptExecutable_eq_none_iff {command : Text} (hfit : command.length < BUFSIZE) :
    scriptExecutable command = none ↔
      47 ∉ strtokHead 32 command ∧ BUFSIZE ≤ command.length + 9 := by
  have hfirst : spineSnprintf BUFSIZE command = some command := if_pos hfit
  have hlength : (lit "/usr/bin/" ++ command).length = command.length + 9 := by
    rw [List.length_append, Nat.add_comm]
    rfl
  unfold scriptExecutable
  rw [hfirst]
  show (if 47 ∈ strtokHead 32 command then _ else _) = none ↔ _
  split
  · rename_i hslash
    simp [hslash]
  · rename_i hslash
    rw [Option.bind_eq_bind, Option.bind_eq_none_iff]
    constructor
    · intro h
      refine ⟨hslash, ?_⟩
      by_contra hlt
      have hsome : spineSnprintf BUFSIZE (lit "/usr/bin/" ++ command) =
          some (lit "/usr/bin/" ++ command) := if_pos (by rw [hlength]; omega)
      exact absurd (h _ hsome) (by simp)
    · intro h buffer hbuffer
      have hnone := spineSnprintf_eq_none_iff.2 (hlength.symm ▸ h.2)
      rw [hnone] at hbuffer
      cases hbuffer

/-- A call keeps its promises exactly when it gets no permit, or the first word
of its command has a slash, or the command leaves room for `/usr/bin/`. -/
theorem execPoll_safe_iff (cfg : Config) (sys : ScriptSystem) (command : Text)
    (hfit : command.length ≤ 1023) :
    ExecSafe (execPoll cfg sys command) ↔
      acquireScriptPermit cfg sys = false ∨ 47 ∈ strtokHead 32 command ∨
        command.length + 9 < BUFSIZE := by
  have hnone := scriptExecutable_eq_none_iff (show command.length < BUFSIZE by
    simp only [BUFSIZE]
    omega)
  cases hpermit : acquireScriptPermit cfg sys with
  | false =>
    refine iff_of_true ?_ (Or.inl rfl)
    unfold execPoll
    rw [if_neg (by simp [hpermit])]
    exact execSafe_undefined _ (Or.inl rfl)
  | true =>
    cases hexecutable : scriptExecutable command with
    | none =>
      obtain ⟨hslash, hlong⟩ := hnone.1 hexecutable
      refine iff_of_false ?_ ?_
      · unfold execPoll
        rw [if_pos hpermit, hexecutable]
        intro h
        obtain ⟨_, _, _, hreturned, _⟩ := h
        cases hreturned
      · intro h
        rcases h with h | h | h
        · cases h
        · exact hslash h
        · omega
    | some executable =>
      refine iff_of_true (execPoll_safe_of_executable hpermit hexecutable) (Or.inr ?_)
      by_contra hbad
      rw [not_or] at hbad
      rw [hnone.2 ⟨hbad.1, by omega⟩] at hexecutable
      cases hexecutable

/-- A system in which every answer is good and the child writes `42`. -/
private def goodSystem : ScriptSystem :=
  ⟨fun _ => true, fun _ => true, true, .ready, some [52, 50]⟩

theorem execPoll_safe_uptime : ExecSafe (execPoll Config.plain goodSystem (lit "uptime -p")) :=
  (execPoll_safe_iff Config.plain goodSystem (lit "uptime -p") (by decide)).2
    (Or.inr (Or.inr (by decide)))

/-- A command of 1020 bytes without a slash in its first word ends the
process. -/
theorem execPoll_long_command : (List.replicate 1020 (97 : UInt8)).length ≤ 1023 ∧
    execPoll Config.plain goodSystem (List.replicate 1020 97) = .died ∧
    ¬ ExecSafe (execPoll Config.plain goodSystem (List.replicate 1020 97)) := by
  have hlength : (List.replicate 1020 (97 : UInt8)).length = 1020 := List.length_replicate
  have hnone : scriptExecutable (List.replicate 1020 97) = none := by
    refine (scriptExecutable_eq_none_iff (by rw [hlength]; decide)).2 ⟨?_, by rw [hlength]; decide⟩
    intro h
    unfold strtokHead at h
    rw [List.mem_append] at h
    rcases h with h | h
    · exact absurd (List.eq_of_mem_replicate ((List.takeWhile_sublist _).subset h)) (by decide)
    · exact absurd (List.eq_of_mem_replicate ((List.dropWhile_sublist _).subset
        ((List.takeWhile_sublist _).subset h))) (by decide)
  have hdied : execPoll Config.plain goodSystem (List.replicate 1020 97) = .died := by
    unfold execPoll
    rw [if_pos (by decide), hnone]
  refine ⟨by rw [hlength]; decide, hdied, fun h => ?_⟩
  obtain ⟨_, _, _, hreturned, _⟩ := h
  rw [hdied] at hreturned
  cases hreturned

end Spine
