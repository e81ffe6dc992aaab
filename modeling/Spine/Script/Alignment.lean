import Spine.Script.Slot

/-!
# Answers and commands of a slot

A server that answers every command with one line keeps its answers aligned
with the commands: the answer to a command is its own line, whatever way the
reads split the bytes.  A line that does not fit the result buffer costs the
server.  It is closed while the slot is still locked, and its pipe goes with
it.

* Lines.  The read loop takes a line that fits whole and leaves nothing.  For
  a longer line it fails.
* Calls.  `Slot.Aligned` is the invariant of the slot: a ready slot has an open
  server and nothing unread.  `AlignedCall` says what one call does, and there
  is one lemma for each kind of call.
* Runs.  `slotRun_aligned` takes the calls to every sequence of commands.
-/

namespace Spine

open Base.CString

/-! ## Lines -/

/-- A line: the line feed at its end is the only one, and there is no NUL. -/
def IsLine (bytes : List UInt8) : Prop :=
  ∃ text : List UInt8, (∀ b ∈ text, b ≠ 0 ∧ b ≠ 10) ∧ bytes = text ++ [10]

/-- The line fits the result buffer. -/
def Fits (bytes : List UInt8) : Prop := bytes.length ≤ RESULTS_BUFFER - 1

instance (bytes : List UInt8) : Decidable (Fits bytes) :=
  inferInstanceAs (Decidable (_ ≤ _))

section Lines

variable {got unread : List UInt8}

theorem IsLine.ne_nil {bytes : List UInt8} (h : IsLine bytes) : bytes ≠ [] := by
  obtain ⟨text, _, rfl⟩ := h
  simp

theorem IsLine.cstr_eq {bytes : List UInt8} (h : IsLine bytes) : cstr bytes = bytes := by
  obtain ⟨text, hclean, rfl⟩ := h
  refine cstr_eq_self fun hzero => ?_
  rcases List.mem_append.1 hzero with htext | hfeed
  · exact (hclean 0 htext).1 rfl
  · exact absurd (List.mem_singleton.1 hfeed) (by decide)

/-- The loop finds the line feed with the last byte of the line. -/
theorem IsLine.found_iff (h : IsLine (got ++ unread)) : (10 : UInt8) ∈ cstr got ↔ unread = [] := by
  constructor
  · intro hfound
    by_contra hne
    obtain ⟨text, hclean, hline⟩ := h
    have hfront := congrArg List.dropLast hline
    rw [List.dropLast_append_of_ne_nil hne, List.dropLast_concat] at hfront
    have hmem : (10 : UInt8) ∈ text :=
      hfront ▸ List.mem_append_left _ ((List.takeWhile_sublist _).subset hfound)
    exact (hclean 10 hmem).2 rfl
  · rintro rfl
    rw [List.append_nil] at h
    rw [h.cstr_eq]
    obtain ⟨text, _, rfl⟩ := h
    simp

/-- A line that fits is returned whole, and nothing of it stays in the pipe. -/
theorem slotReadLoop_line {choices : List ReadChoice} (h : IsLine (got ++ unread))
    (hne : unread ≠ []) (hfits : Fits (got ++ unread)) :
    slotReadLoop got unread choices = (some (got ++ unread), []) := by
  induction choices generalizing got unread with
  | nil =>
    have hlength : unread.length ≤ RESULTS_BUFFER - 1 - got.length := by
      unfold Fits at hfits
      rw [List.length_append] at hfits
      omega
    have hread : readPipe got unread unread.length = (got ++ unread, []) := by
      unfold readPipe
      dsimp only
      rw [List.take_length, List.take_of_length_le hlength, Nat.min_eq_right hlength,
        List.drop_length]
    have hfound : (10 : UInt8) ∈ cstr (got ++ unread) :=
      IsLine.found_iff (by rwa [List.append_nil]) |>.2 rfl
    rw [slotReadLoop, hread]
    exact congrArg (·, []) (if_pos hfound)
  | cons choice choices ih =>
    cases choice with
    | interrupted => exact ih h hne hfits
    | available size =>
      have happend := readPipe_append got unread (size + 1)
      rw [slotReadLoop, if_neg hne]
      dsimp only
      generalize readPipe got unread (size + 1) = next at happend ⊢
      obtain ⟨taken, rest⟩ := next
      dsimp only at happend ⊢
      rw [← happend] at h hfits ⊢
      by_cases hrest : rest = []
      · rw [if_pos (h.found_iff.2 hrest), hrest, List.append_nil]
      · have hroom : ¬ RESULTS_BUFFER - 1 ≤ taken.length := by
          have := List.length_pos_iff.2 hrest
          unfold Fits at hfits
          rw [List.length_append] at hfits
          omega
        rw [if_neg (fun hfound => hrest (h.found_iff.1 hfound)), if_neg hroom]
        exact ih h hrest hfits

/-- The loop fails on a line that does not fit. -/
theorem slotReadLoop_long {choices : List ReadChoice} (h : IsLine (got ++ unread))
    (hgot : got.length ≤ RESULTS_BUFFER - 1) (hlong : ¬ Fits (got ++ unread)) :
    (slotReadLoop got unread choices).1 = none := by
  cases hread : slotReadLoop got unread choices with
  | mk result rest =>
    cases result with
    | none => rfl
    | some taken =>
      obtain ⟨happend, hfound, hlength⟩ := slotReadLoop_eq_some hgot hread
      rw [← happend] at h hlong
      have hrest := h.found_iff.1 hfound
      rw [hrest, List.append_nil] at hlong
      exact absurd hlength hlong

end Lines

/-! ## Calls -/

/-- The server greets with a line and answers every command with a line, and
every command is written. -/
structure LineServer (sys : SlotSystem) : Prop where
  greeting : ∀ server, IsLine (sys.greeting server)
  answer : ∀ call, IsLine (sys.answer call)
  written : ∀ call, sys.written call 0 = true

/-- A ready slot has an open server and nothing unread. -/
def Slot.Aligned (sys : SlotSystem) (slot : Slot) : Prop :=
  slot.state = .ready →
    ∃ server, slot.server = some server ∧ sys.watchable server = true ∧ slot.unread = []

section Calls

variable {sys : SlotSystem} {slot : Slot} {server : Nat}

theorem Slot.readResult_line {reads : List ReadChoice} {restart : Slot → Slot}
    (hserver : slot.server = some server) (hwatch : sys.watchable server = true)
    (h : IsLine slot.unread) (hfits : Fits slot.unread) :
    slot.readResult sys reads restart =
      (slot.unread, { slot with state := .ready, unread := [] }) := by
  have hwatchable : ¬ (!slot.server.any sys.watchable) = true := by simp [hserver, hwatch]
  have hread : slotReadLoop [] slot.unread reads = (some slot.unread, []) :=
    slotReadLoop_line h h.ne_nil hfits
  unfold Slot.readResult
  rw [if_neg hwatchable, if_neg h.ne_nil, hread]
  dsimp only
  rw [h.cstr_eq]

theorem Slot.readResult_long {reads : List ReadChoice} {restart : Slot → Slot}
    (h : IsLine slot.unread) (hlong : ¬ Fits slot.unread) :
    ∃ unread, slot.readResult sys reads restart =
      (undefinedText, restart { slot with state := .busy, unread := unread }) := by
  have hnone : (slotReadLoop [] slot.unread reads).1 = none :=
    slotReadLoop_long h (Nat.zero_le _) hlong
  unfold Slot.readResult
  split
  · exact ⟨_, rfl⟩
  · rw [if_neg h.ne_nil]
    cases hread : slotReadLoop [] slot.unread reads with
    | mk result unread =>
      rw [hread] at hnone
      cases hnone
      exact ⟨unread, rfl⟩

/-- A server that became ready has been read up to the end of its greeting. -/
theorem Slot.phpInit_aligned (h : LineServer sys) (slot : Slot) :
    (slot.phpInit sys).Aligned sys := by
  have hstarted : strstr undefinedText (lit "Started") = false := by decide
  unfold Slot.phpInit
  dsimp only
  split
  · generalize hopened : ({ slot with
        server := some slot.tried
        tried := slot.tried + 1
        unread := sys.greeting slot.tried
        events := slot.events ++ [SlotEvent.spawn slot.tried] } : Slot) = opened
    have hserver : opened.server = some slot.tried := by rw [← hopened]
    have hgreeting : opened.unread = sys.greeting slot.tried := by rw [← hopened]
    have hline : IsLine opened.unread := hgreeting ▸ h.greeting slot.tried
    by_cases hgood : sys.watchable slot.tried = true ∧ Fits opened.unread
    · rw [Slot.readResult_line hserver hgood.1 hline hgood.2]
      exact fun _ => ⟨slot.tried, hserver, hgood.1, rfl⟩
    · -- Otherwise the greeting is not read, and the slot is not ready.
      have hundefined : (opened.readResult sys (sys.greetingReads slot.tried) id).1 =
          undefinedText := by
        by_cases hfits : Fits opened.unread
        · have hwatch : (!opened.server.any sys.watchable) = true := by
            simpa [hserver] using fun hwatch => hgood ⟨hwatch, hfits⟩
          unfold Slot.readResult
          rw [if_pos hwatch]
        · obtain ⟨unread, hread⟩ := Slot.readResult_long hline hfits
          rw [hread]
      rw [hundefined, hstarted]
      exact nofun
  · exact nofun

theorem Slot.readResult_id_events (reads : List ReadChoice) (slot : Slot) :
    (slot.readResult sys reads id).2.events = slot.events := by
  unfold Slot.readResult
  split
  · rfl
  · split
    · rfl
    · split <;> rfl

/-- All that a start does on the slot is to spawn servers. -/
theorem Slot.phpInit_events (sys : SlotSystem) (slot : Slot) :
    ∃ started : List Nat,
      (slot.phpInit sys).events = slot.events ++ started.map SlotEvent.spawn := by
  unfold Slot.phpInit
  dsimp only
  split
  · exact ⟨[slot.tried], Slot.readResult_id_events _ _⟩
  · exact ⟨[], (List.append_nil _).symm⟩

theorem Slot.usable_of_ready (hstate : slot.state = .ready) (hserver : slot.server = some server) :
    slot.usable = true := by
  unfold Slot.usable
  rw [hstate, hserver]
  rfl

theorem Slot.phpCmd_of_not_usable (call : Nat) (command : Text) (h : slot.usable = false) :
    slot.phpCmd sys call command = (undefinedText, (slot.log .lock).log .unlock) := by
  have hlocked : (!(slot.log .lock).usable) = true := by
    rw [Bool.not_eq_true']
    exact h
  unfold Slot.phpCmd
  rw [Slot.cmdLoop, if_pos hlocked]

/-- A command that is written at the first attempt. -/
theorem Slot.phpCmd_of_usable (call : Nat) (command : Text) (h : slot.usable = true)
    (hwritten : sys.written call 0 = true) :
    slot.phpCmd sys call command =
      let read := ((slot.log .lock).send sys call (phpFrame command)).readResult sys
        (sys.reads call) (.restart sys)
      (if read.1 = [] then undefinedText else read.1, read.2.log .unlock) := by
  have hlocked : ¬ (!(slot.log .lock).usable) = true := by
    rw [Bool.not_eq_true', Bool.not_eq_false]
    exact h
  unfold Slot.phpCmd
  rw [Slot.cmdLoop, if_neg hlocked, if_neg (by simp [hwritten])]

/-- A slot with nothing unread has only the answer to the command to read. -/
theorem Slot.send_unread (sys : SlotSystem) (call : Nat) (frame : List UInt8)
    (hunread : slot.unread = []) :
    ((slot.log .lock).send sys call frame).unread = sys.answer call := by
  show slot.unread ++ sys.answer call = sys.answer call
  rw [hunread, List.nil_append]

/-- The server that took the command was closed before the slot was
unlocked. -/
def SlotCall.ClosedUnderLock (call : SlotCall) : Prop :=
  ∃ (server : Nat) (restart : List SlotEvent), call.before.server = some server ∧
    call.after.events = call.before.events ++
      ([.lock, .write server (phpFrame call.command), .close server] ++ restart ++ [.unlock]) ∧
    SlotEvent.unlock ∉ restart

/-- A read that fails closes the server before the unlock. -/
theorem closedUnderLock_of_restart (sys : SlotSystem) (call : Nat) (command text : Text)
    (unread : List UInt8) (hserver : slot.server = some server) :
    SlotCall.ClosedUnderLock
      ⟨command, text, slot,
        (Slot.restart sys { (slot.log .lock).send sys call (phpFrame command) with
          state := .busy, unread := unread }).log .unlock⟩ := by
  -- The events of the restart stand between the close and the unlock.
  obtain ⟨started, hevents⟩ := Slot.phpInit_events sys (Slot.phpClose
    { (slot.log .lock).send sys call (phpFrame command) with state := .busy, unread := unread })
  refine ⟨server, started.map .spawn, hserver, ?_, by simp⟩
  show (Slot.phpInit sys _).events ++ [SlotEvent.unlock] = _
  rw [hevents]
  simp [Slot.phpClose, Slot.send, Slot.log, hserver]

/-- What a call does when the servers answer with lines. -/
structure AlignedCall (sys : SlotSystem) (i : Nat) (call : SlotCall) : Prop where
  own : call.text = undefinedText ∨ call.text = sys.answer i
  aligned : call.after.Aligned sys
  fits : call.before.state = .ready → Fits (sys.answer i) →
    call.text = sys.answer i ∧ call.after.state = .ready ∧ call.after.unread = []
  long : ¬ Fits (sys.answer i) →
    call.text = undefinedText ∧ (call.before.state = .ready → call.ClosedUnderLock)

/-- A call on a slot that is not ready changes nothing. -/
theorem alignedCall_of_busy (call : Nat) (command : Text) (h : slot.state ≠ .ready) :
    AlignedCall sys call
      ⟨command, (slot.phpCmd sys call command).1, slot, (slot.phpCmd sys call command).2⟩ := by
  have husable : slot.usable = false := by
    unfold Slot.usable
    rw [decide_eq_false h, Bool.false_and]
  rw [Slot.phpCmd_of_not_usable call command husable]
  exact ⟨Or.inl rfl, fun hready => absurd hready h, fun hready => absurd hready h,
    fun _ => ⟨rfl, fun hready => absurd hready h⟩⟩

/-- A call whose line fits returns the line and leaves the slot as it was. -/
theorem alignedCall_of_fits (h : LineServer sys) (call : Nat) (command : Text)
    (husable : slot.usable = true) (hserver : slot.server = some server)
    (hwatch : sys.watchable server = true) (hunread : slot.unread = [])
    (hfits : Fits (sys.answer call)) :
    AlignedCall sys call
      ⟨command, (slot.phpCmd sys call command).1, slot, (slot.phpCmd sys call command).2⟩ := by
  have hanswer := Slot.send_unread sys call (phpFrame command) hunread
  have hsent : ((slot.log .lock).send sys call (phpFrame command)).server = some server := hserver
  rw [Slot.phpCmd_of_usable call command husable (h.written call),
    Slot.readResult_line hsent hwatch (hanswer.symm ▸ h.answer call) (hanswer.symm ▸ hfits),
    hanswer]
  dsimp only
  rw [if_neg (h.answer call).ne_nil]
  exact ⟨Or.inr rfl, fun _ => ⟨server, hserver, hwatch, rfl⟩, fun _ _ => ⟨rfl, rfl, rfl⟩,
    fun hlong => absurd hfits hlong⟩

/-- A call whose line does not fit closes the server. -/
theorem alignedCall_of_long (h : LineServer sys) (call : Nat) (command : Text)
    (husable : slot.usable = true) (hserver : slot.server = some server)
    (hunread : slot.unread = []) (hlong : ¬ Fits (sys.answer call)) :
    AlignedCall sys call
      ⟨command, (slot.phpCmd sys call command).1, slot, (slot.phpCmd sys call command).2⟩ := by
  have hanswer := Slot.send_unread sys call (phpFrame command) hunread
  obtain ⟨unread, hread⟩ := Slot.readResult_long (hanswer.symm ▸ h.answer call)
    (hanswer.symm ▸ hlong)
  rw [Slot.phpCmd_of_usable call command husable (h.written call), hread]
  dsimp only
  rw [if_neg (by decide)]
  exact ⟨Or.inl rfl, Slot.phpInit_aligned h _, fun _ hfits => absurd hfits hlong,
    fun _ => ⟨rfl, fun _ => closedUnderLock_of_restart sys call command _ unread hserver⟩⟩

/-- Every call keeps the invariant of the slot. -/
theorem Slot.phpCmd_aligned (h : LineServer sys) (hslot : slot.Aligned sys) (call : Nat)
    (command : Text) :
    AlignedCall sys call
      ⟨command, (slot.phpCmd sys call command).1, slot, (slot.phpCmd sys call command).2⟩ := by
  by_cases hready : slot.state = .ready
  · obtain ⟨server, hserver, hwatch, hunread⟩ := hslot hready
    have husable := Slot.usable_of_ready hready hserver
    by_cases hfits : Fits (sys.answer call)
    · exact alignedCall_of_fits h call command husable hserver hwatch hunread hfits
    · exact alignedCall_of_long h call command husable hserver hunread hfits
  · exact alignedCall_of_busy call command hready

end Calls

/-! ## Runs -/

section Runs

variable {sys : SlotSystem} {slot : Slot} {first i : Nat} {commands : List Text} {call : SlotCall}

theorem Slot.run_commands (sys : SlotSystem) (first : Nat) (slot : Slot) (commands : List Text) :
    (slot.run sys first commands).map SlotCall.command = commands := by
  induction commands generalizing first slot with
  | nil => rfl
  | cons command commands ih => exact congrArg (command :: ·) (ih _ _)

theorem Slot.run_aligned (h : LineServer sys) (hslot : slot.Aligned sys)
    (hcall : (slot.run sys first commands)[i]? = some call) :
    AlignedCall sys (first + i) call := by
  induction commands generalizing first slot i with
  | nil => cases hcall
  | cons command commands ih =>
    have hfirst := Slot.phpCmd_aligned h hslot first command
    cases i with
    | zero =>
      cases hcall
      exact hfirst
    | succ i =>
      have hnext := ih hfirst.aligned hcall
      rwa [Nat.add_right_comm, Nat.add_assoc] at hnext

/-- While the lines fit, the slot stays ready. -/
theorem Slot.run_ready (h : LineServer sys) (hslot : slot.Aligned sys)
    (hready : slot.state = .ready) (hfits : ∀ j < i, Fits (sys.answer (first + j)))
    (hcall : (slot.run sys first commands)[i]? = some call) : call.before.state = .ready := by
  induction commands generalizing first slot i with
  | nil => cases hcall
  | cons command commands ih =>
    have hfirst := Slot.phpCmd_aligned h hslot first command
    cases i with
    | zero =>
      cases hcall
      exact hready
    | succ i =>
      refine ih hfirst.aligned (hfirst.fits hready (hfits 0 (Nat.succ_pos i))).2.1 ?_ hcall
      intro j hj
      have := hfits (j + 1) (Nat.succ_lt_succ hj)
      rwa [Nat.add_comm j, ← Nat.add_assoc] at this

end Runs

/-- What the calls of a run return. -/
structure AlignedRun (sys : SlotSystem) (commands : List Text) (calls : List SlotCall) : Prop where
  commands : calls.map SlotCall.command = commands
  fits : ∀ (i : Nat) (call : SlotCall), calls[i]? = some call →
    (∀ j ≤ i, Fits (sys.answer j)) → call.text = sys.answer i ∧ call.after.unread = []
  long : ∀ (i : Nat) (call : SlotCall), calls[i]? = some call → ¬ Fits (sys.answer i) →
    call.text = undefinedText ∧ (call.before.state = .ready → call.ClosedUnderLock)
  own : ∀ (i : Nat) (call : SlotCall), calls[i]? = some call →
    call.text = undefinedText ∨ call.text = sys.answer i

/-- The commands of a ready slot, for every server that greets with a line and
answers with lines, and for every way to split the reads.  While the lines fit,
every command returns its own line and leaves nothing unread.  A command whose
line does not fit returns the mark of an unknown value, and its server is closed
under the lock.  No command, before or after it, returns another line than its own. -/
theorem slotRun_aligned (sys : SlotSystem) (h : LineServer sys) (start : Slot)
    (hready : (start.phpInit sys).state = .ready) (commands : List Text) :
    AlignedRun sys commands ((start.phpInit sys).run sys 0 commands) := by
  have hslot := Slot.phpInit_aligned h start
  have haligned : ∀ (i : Nat) (call : SlotCall),
      ((start.phpInit sys).run sys 0 commands)[i]? = some call → AlignedCall sys i call := by
    intro i call hcall
    have hrun := Slot.run_aligned h hslot hcall
    rwa [Nat.zero_add] at hrun
  refine ⟨Slot.run_commands sys 0 _ commands, ?_, ?_, ?_⟩
  · intro i call hcall hfits
    have hbefore : call.before.state = .ready :=
      Slot.run_ready h hslot hready
        (fun j hj => (Nat.zero_add j).symm ▸ hfits j (le_of_lt hj)) hcall
    obtain ⟨htext, _, hunread⟩ := (haligned i call hcall).fits hbefore (hfits i le_rfl)
    exact ⟨htext, hunread⟩
  · intro i call hcall hlong
    exact (haligned i call hcall).long hlong
  · intro i call hcall
    exact (haligned i call hcall).own

/-- A server that answers the second command with a line of 2048 bytes, and
every other one with its number.  Its reads are split and interrupted. -/
private def numberSystem : SlotSystem where
  spawned _ := true
  watchable _ := true
  greeting _ := lit "PHP Script Server has Started" ++ [10]
  greetingReads _ := [.interrupted, .available 3]
  written _ _ := true
  answer call := (if call = 1 then List.replicate 2047 120 else decimal call) ++ [10]
  reads _ := [.available 0, .interrupted]

private def closedSlot : Slot := ⟨.busy, none, 0, [], []⟩

private theorem numberSystem_lines : LineServer numberSystem where
  greeting _ := by
    have hclean :
        (lit "PHP Script Server has Started").all (fun b => b != 0 && b != 10) = true := by
      decide
    refine ⟨_, fun b hb => ?_, rfl⟩
    simpa using List.all_eq_true.1 hclean b hb
  answer call := by
    refine ⟨_, fun b hb => ?_, rfl⟩
    split at hb
    · rw [List.eq_of_mem_replicate hb]
      decide
    · have hdigit := isDigit_iff.1 (isDigit_of_mem_decimal hb)
      constructor
      · rintro rfl
        exact absurd hdigit (by decide)
      · rintro rfl
        exact absurd hdigit (by decide)
  written _ := rfl

theorem slotRun_aligned_numbers :
    (closedSlot.phpInit numberSystem).state = .ready ∧ ¬ Fits (numberSystem.answer 1) ∧
      AlignedRun numberSystem [lit "ss_cpu", lit "ss_disk", lit "ss_memory"]
        ((closedSlot.phpInit numberSystem).run numberSystem 0
          [lit "ss_cpu", lit "ss_disk", lit "ss_memory"]) := by
  have hready : (closedSlot.phpInit numberSystem).state = .ready := by decide
  refine ⟨hready, ?_, slotRun_aligned numberSystem numberSystem_lines closedSlot hready _⟩
  show ¬ (List.replicate 2047 (120 : UInt8) ++ [10]).length ≤ RESULTS_BUFFER - 1
  rw [List.length_append, List.length_replicate]
  decide

end Spine
