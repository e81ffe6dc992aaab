import Spine.Poller.ReindexPoll
import Spine.Script.Alignment

/-!
# Counting the lines of an output

Two actions of a reindex row count the line feeds of what a command writes.
Neither reader takes the output to its end.  `read_script_result` makes one
`read`, and what comes later is ignored.  `php_read_result` stops with the read
that brings the first line feed.

`lineCount_of_part` says what the rows are evaluated with: the number of line
feeds in the part of the output that was read.  It is the number for the whole
output when the part has all of them.  What the read loop of the script server
leaves stays in the pipe of the slot: nothing, when the output was read whole.
When the loop fails, the server is closed under the lock.
-/

namespace Spine

open Base.CString

/-- The value is the number of line feeds in a first part of the output.  It is
the number for the whole output exactly when the part has all of them. -/
def CountsPart (output part : List UInt8) (value : PolledValue) : Prop :=
  part <+: output ∧ value = .value (some (decimal (part.count 10))) ∧
    (value = .value (some (decimal (output.count 10))) ↔
      (10 : UInt8) ∉ output.drop part.length)

theorem decimal_injective : Function.Injective decimal := by
  intro m n h
  rw [← digitsValue_decimal m, ← digitsValue_decimal n, h]

theorem countsPart_countLines {part rest : List UInt8} :
    CountsPart (part ++ rest) part (.value (some (countLines part))) := by
  refine ⟨List.prefix_append part rest, rfl, ?_⟩
  rw [PolledValue.value.injEq, Option.some.injEq, List.drop_left, ← List.count_eq_zero]
  show decimal (part.count 10) = _ ↔ _
  rw [decimal_injective.eq_iff, List.count_append]
  omega

section Script

variable {cfg : Config} {answers : RowAnswers} {reindex : Reindex}

/-- The one read of a script. -/
theorem scriptCount_part (haction : reindex.action = .scriptCount) (state : PollState)
    {output : List UInt8} (hzero : (0 : UInt8) ∉ output) {available : Nat}
    (hread : answers.script.read = some (output.take available)) {buffer : ResultBuffer}
    {permits : List PermitEvent} {bytesRead : List UInt8}
    (hexec : execPoll cfg answers.script reindex.arg1 = .returned buffer permits bytesRead)
    (hne : bytesRead ≠ []) :
    CountsPart output bytesRead (pollReindexAction cfg answers reindex state).1 := by
  obtain ⟨hbytes, htext⟩ := execPoll_text_of_bytes hexec hne hread
    fun hmem => hzero (List.mem_of_mem_take hmem)
  have hpart : bytesRead ++ output.drop (min (RESULTS_BUFFER - 1) available) = output := by
    rw [hbytes, List.take_take, List.take_append_drop]
  have hvalue : (pollReindexAction cfg answers reindex state).1 =
      .value (some (countLines bytesRead)) := by
    unfold pollReindexAction pollReindexScript
    rw [haction]
    dsimp only
    rw [hexec, ← htext]
  rw [hvalue, ← hpart]
  exact countsPart_countLines

end Script

section ScriptServer

variable {sys : SlotSystem} {slot : Slot} {server call : Nat} {command : Text}

/-- No byte, no line. -/
theorem slotReadLoop_nil (choices : List ReadChoice) : (slotReadLoop [] [] choices).1 = none := by
  induction choices with
  | nil => rfl
  | cons choice choices ih =>
    cases choice with
    | interrupted => exact ih
    | available size => rfl

/-- The command of a ready slot whose output has no NUL: the part that the loop
reads has a line feed and is returned, or the loop fails and the server is closed
under the lock. -/
theorem Slot.phpCmd_part (hstate : slot.state = .ready) (hserver : slot.server = some server)
    (hwatch : sys.watchable server = true) (hunread : slot.unread = [])
    (hwritten : sys.written call 0 = true) (hzero : (0 : UInt8) ∉ sys.answer call) :
    (∃ part rest, slotReadLoop [] (sys.answer call) (sys.reads call) = (some part, rest) ∧
        part ++ rest = sys.answer call ∧ (10 : UInt8) ∈ part ∧
        (slot.phpCmd sys call command).1 = part ∧
        (slot.phpCmd sys call command).2.unread = rest) ∨
      (slotReadLoop [] (sys.answer call) (sys.reads call)).1 = none ∧
        SlotCall.ClosedUnderLock
          ⟨command, (slot.phpCmd sys call command).1, slot, (slot.phpCmd sys call command).2⟩ := by
  have husable := Slot.usable_of_ready hstate hserver
  have hanswer := Slot.send_unread sys call (phpFrame command) hunread
  have hwatchable : ¬ (!((slot.log .lock).send sys call (phpFrame command)).server.any
      sys.watchable) = true := by
    show ¬ (!slot.server.any sys.watchable) = true
    simp [hserver, hwatch]
  rw [Slot.phpCmd_of_usable call command husable hwritten]
  unfold Slot.readResult
  rw [if_neg hwatchable]
  by_cases hempty : ((slot.log .lock).send sys call (phpFrame command)).unread = []
  · rw [if_pos hempty]
    refine Or.inr ⟨?_, closedUnderLock_of_restart sys call command _ _ hserver⟩
    rw [← hanswer, hempty]
    exact slotReadLoop_nil _
  · rw [if_neg hempty, hanswer]
    cases hread : slotReadLoop [] (sys.answer call) (sys.reads call) with
    | mk result rest =>
      cases result with
      | none => exact Or.inr ⟨rfl, closedUnderLock_of_restart sys call command _ rest hserver⟩
      | some part =>
        obtain ⟨hpart, hfound, _⟩ := slotReadLoop_eq_some (Nat.zero_le _) hread
        rw [List.nil_append] at hpart
        have hclean : (0 : UInt8) ∉ part := fun hmem =>
          hzero (hpart ▸ List.mem_append_left rest hmem)
        rw [cstr_eq_self hclean] at hfound
        have hne : part ≠ [] := List.ne_nil_of_mem hfound
        refine Or.inl ⟨part, rest, rfl, hpart, hfound, ?_, rfl⟩
        dsimp only
        rw [cstr_eq_self hclean, if_neg hne]

/-- The lines of the script server. -/
theorem phpScriptServerCount_part {cfg : Config} {answers : RowAnswers} {reindex : Reindex}
    (haction : reindex.action = .phpScriptServerCount) (state : PollState)
    (hphp : answers.php = slotSystem sys call reindex.arg1 (slot.log .lock)) :
    (pollReindexAction cfg answers reindex state).1 =
      .value (some (countLines (slot.phpCmd sys call reindex.arg1).1)) := by
  unfold pollReindexAction
  rw [haction]
  dsimp only
  rw [slotCmd_eq_phpCmd, hphp]

end ScriptServer

/-- What a row that counts lines is evaluated with.  The one read of a script
takes a first part of the output, and the row counts the lines of that part.
The script server is read until its loop has a line feed: the row counts the
lines of what the loop took, and the rest of the output stays in the pipe.  When
the loop fails, the server is closed under the lock. -/
structure LineCounts (cfg : Config) (answers : RowAnswers) (reindex : Reindex)
    (state : PollState) (output : List UInt8) : Prop where
  script : reindex.action = .scriptCount →
    ∀ (available : Nat) (buffer : ResultBuffer) (permits : List PermitEvent)
      (bytesRead : List UInt8), answers.script.read = some (output.take available) →
      execPoll cfg answers.script reindex.arg1 = .returned buffer permits bytesRead →
      bytesRead ≠ [] → CountsPart output bytesRead (pollReindexAction cfg answers reindex state).1
  scriptServer : reindex.action = .phpScriptServerCount →
    ∀ (sys : SlotSystem) (slot : Slot) (call server : Nat), slot.state = .ready →
      slot.server = some server → sys.watchable server = true → slot.unread = [] →
      sys.written call 0 = true → sys.answer call = output →
      answers.php = slotSystem sys call reindex.arg1 (slot.log .lock) →
      (∃ part rest, slotReadLoop [] output (sys.reads call) = (some part, rest) ∧
          part ++ rest = output ∧ (10 : UInt8) ∈ part ∧
          (slot.phpCmd sys call reindex.arg1).1 = part ∧
          (slot.phpCmd sys call reindex.arg1).2.unread = rest ∧
          CountsPart output part (pollReindexAction cfg answers reindex state).1) ∨
        (slotReadLoop [] output (sys.reads call)).1 = none ∧
          SlotCall.ClosedUnderLock ⟨reindex.arg1, (slot.phpCmd sys call reindex.arg1).1, slot,
            (slot.phpCmd sys call reindex.arg1).2⟩

/-- For every output without a NUL and every way to split the reads, a row that
counts lines counts those of the part that was read. -/
theorem lineCount_of_part (cfg : Config) (answers : RowAnswers) (reindex : Reindex)
    (state : PollState) (output : List UInt8) (hzero : (0 : UInt8) ∉ output) :
    LineCounts cfg answers reindex state output where
  script haction _ _ _ _ hread hexec hne := scriptCount_part haction state hzero hread hexec hne
  scriptServer haction sys slot call server hstate hserver hwatch hunread hwritten hanswer
      hphp := by
    have hvalue : (pollReindexAction cfg answers reindex state).1 =
        .value (some (countLines (slot.phpCmd sys call reindex.arg1).1)) :=
      phpScriptServerCount_part haction state hphp
    subst hanswer
    rcases Slot.phpCmd_part hstate hserver hwatch hunread hwritten hzero with
      ⟨part, rest, hread, hpart, hfound, htext, hrest⟩ | hclosed
    · refine Or.inl ⟨part, rest, hread, hpart, hfound, htext, hrest, ?_⟩
      rw [hvalue, htext, ← hpart]
      exact countsPart_countLines
    · exact Or.inr hclosed

/-- Two lines of an output. -/
private def twoLines : List UInt8 := lit "a" ++ [10] ++ lit "b" ++ [10]

private def twoLinesRow (action : PollerAction) : Reindex :=
  ⟨lit "=", lit "2", lit "/bin/list", 7, action⟩

/-- A slot with a server and nothing unread. -/
private def listSlot : Slot := ⟨.ready, some 0, 1, [], []⟩

/-- The server answers the first command with two lines, whose reads are split as
given, and each later one with one line. -/
private def twoLinesSystem (reads : List ReadChoice) : SlotSystem where
  spawned _ := true
  watchable _ := true
  greeting _ := lit "Started" ++ [10]
  greetingReads _ := []
  written _ _ := true
  answer call := if call = 0 then twoLines else lit "c" ++ [10]
  reads call := if call = 0 then reads else []

/-- The script has written some of its output when it is read. -/
private def partAnswers (available : Nat) (reads : List ReadChoice) : RowAnswers where
  engineTime := ⟨true, true, true, ⟨.timeout, none, false⟩⟩
  sysUpTime := ⟨true, true, true, ⟨.timeout, none, false⟩⟩
  object := ⟨true, true, true, ⟨.timeout, none, false⟩⟩
  root := some []
  walk := []
  script := ⟨fun _ => true, fun _ => true, true, .ready, some (twoLines.take available)⟩
  php := slotSystem (twoLinesSystem reads) 0 (lit "/bin/list") (listSlot.log .lock)

/-- What the row is evaluated with. -/
private def partValue (available : Nat) (reads : List ReadChoice) (action : PollerAction) :
    PolledValue :=
  (pollReindexAction .plain (partAnswers available reads) (twoLinesRow action)
    ⟨⟨false, false⟩, []⟩).1

/-- A read of the whole output counts both lines, and nothing stays in the pipe of
the slot. -/
theorem lineCount_of_whole :
    partValue 4 [] .scriptCount = .value (some (lit "2")) ∧
      partValue 4 [] .phpScriptServerCount = .value (some (lit "2")) ∧
      (listSlot.phpCmd (twoLinesSystem []) 0 (lit "/bin/list")).2.unread = [] := by
  have hscript := (lineCount_of_part .plain (partAnswers 4 []) (twoLinesRow .scriptCount)
    ⟨⟨false, false⟩, []⟩ twoLines (by decide)).script rfl 4 _ _ twoLines rfl rfl (by decide)
  have hserver := (lineCount_of_part .plain (partAnswers 4 [])
    (twoLinesRow .phpScriptServerCount) ⟨⟨false, false⟩, []⟩ twoLines (by decide)).scriptServer
    rfl (twoLinesSystem []) listSlot 0 0 rfl rfl rfl rfl rfl rfl rfl
  have htwo : decimal (twoLines.count 10) = lit "2" := by decide
  have hwhole : slotReadLoop [] twoLines ((twoLinesSystem []).reads 0) = (some twoLines, []) := by
    decide
  refine ⟨htwo ▸ hscript.2.1, ?_⟩
  rcases hserver with ⟨part, rest, hread, _, _, _, hrest, hcounts⟩ | ⟨hnone, _⟩
  · cases hwhole.symm.trans hread
    exact ⟨htwo ▸ hcounts.2.1, hrest⟩
  · rw [hwhole] at hnone
    cases hnone

/-- One of the two lines was there to read.  The script's row is evaluated with
one, and so is that of the script server, whose second line comes back with the
answer to the next command. -/
theorem lineCount_of_first_line :
    (partValue 2 [] .scriptCount = .value (some (lit "1")) ∧
      lit "1" ≠ undefinedText ∧ lit "1" ≠ decimal (twoLines.count 10)) ∧
    partValue 2 [.available 1] .phpScriptServerCount = .value (some (lit "1")) ∧
      ((listSlot.phpCmd (twoLinesSystem [.available 1]) 0 (lit "/bin/list")).2.phpCmd
          (twoLinesSystem [.available 1]) 1 (lit "/bin/next")).1 =
        lit "b" ++ [10] ++ lit "c" ++ [10] := by
  have hread : (partAnswers 2 []).script.read = some (twoLines.take 2) := rfl
  have hexec : execPoll .plain (partAnswers 2 []).script (twoLinesRow .scriptCount).arg1 =
      .returned _ _ (twoLines.take 2) := rfl
  have hcounts := scriptCount_part rfl ⟨⟨false, false⟩, []⟩ (by decide) hread hexec (by decide)
  have hone : decimal ((twoLines.take 2).count 10) = lit "1" := by decide
  have hserver : partValue 2 [.available 1] .phpScriptServerCount = _ :=
    phpScriptServerCount_part rfl _ rfl
  have hpart : (listSlot.phpCmd (twoLinesSystem [.available 1]) 0 (lit "/bin/list")).1 =
      twoLines.take 2 := by decide
  refine ⟨⟨hone ▸ hcounts.2.1, by decide, by decide⟩, ?_, by decide⟩
  rw [hserver]
  show PolledValue.value (some (countLines (listSlot.phpCmd _ 0 (lit "/bin/list")).1)) = _
  rw [hpart]
  decide

end Spine
