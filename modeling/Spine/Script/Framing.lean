import Spine.Base.Framing
import Spine.Script.Alignment

/-!
# The commands on the pipe of a slot

`php_cmd` puts CR and LF behind a command and writes the result to the pipe of
its slot.  It formats the command into a buffer of `BUFSIZE` bytes, and a
command that fills the buffer loses its terminator.  The server then reads the
command and the next one as one.

`slotRun_framed_iff` says for which commands the stream on the pipe splits at
CR LF into the commands again.  It holds for every run of a slot.
-/

namespace Spine

open Base.CString Base.Framing

/-- The bytes that a call of `php_cmd` writes. -/
def SlotEvent.bytes : SlotEvent → List UInt8
  | .write _ bytes => bytes
  | _ => []

/-- What a call of `php_cmd` wrote to the pipe of its server. -/
def SlotCall.wrote (call : SlotCall) : List UInt8 :=
  (call.after.events.drop call.before.events.length).flatMap SlotEvent.bytes

/-- Neither a read nor a restart writes a command. -/
theorem Slot.readResult_events (sys : SlotSystem) (reads : List ReadChoice) (slot : Slot) :
    ∃ events, (slot.readResult sys reads (.restart sys)).2.events = slot.events ++ events ∧
      events.flatMap SlotEvent.bytes = [] := by
  have hrestart : ∀ busy : Slot, busy.server = slot.server → busy.events = slot.events →
      ∃ events, (busy.restart sys).events = slot.events ++ events ∧
        events.flatMap SlotEvent.bytes = [] := by
    intro busy hserver hevents
    obtain ⟨started, hstarted⟩ := Slot.phpInit_events sys busy.phpClose
    refine ⟨(slot.server.map SlotEvent.close).toList ++ started.map SlotEvent.spawn, ?_, ?_⟩
    · rw [← List.append_assoc, ← hserver, ← hevents]
      exact hstarted
    · cases slot.server <;> simp [SlotEvent.bytes]
  unfold Slot.readResult
  split
  · exact hrestart _ rfl rfl
  · split
    · exact hrestart _ rfl rfl
    · split
      · exact ⟨[], (List.append_nil _).symm, rfl⟩
      · exact hrestart _ rfl rfl

/-- A call on a usable slot writes the frame of its command. -/
theorem Slot.phpCmd_wrote {sys : SlotSystem} {slot : Slot} {call : Nat} (command : Text)
    (husable : slot.usable = true) (hwritten : sys.written call 0 = true) :
    SlotCall.wrote
        ⟨command, (slot.phpCmd sys call command).1, slot, (slot.phpCmd sys call command).2⟩ =
      phpFrame command := by
  obtain ⟨server, hserver⟩ : ∃ server, slot.server = some server :=
    Option.isSome_iff_exists.1 (Bool.and_eq_true_iff.1 husable).2
  obtain ⟨events, hevents, hbytes⟩ := Slot.readResult_events sys (sys.reads call)
    ((slot.log .lock).send sys call (phpFrame command))
  rw [Slot.phpCmd_of_usable call command husable hwritten]
  show ((_ ++ [SlotEvent.unlock]).drop slot.events.length).flatMap SlotEvent.bytes = _
  rw [hevents]
  simp [Slot.send, Slot.log, hserver, SlotEvent.bytes, hbytes]

/-- The stream of a run whose calls all find a usable slot. -/
theorem Slot.run_wrote {sys : SlotSystem} (hwritten : ∀ call, sys.written call 0 = true)
    (first : Nat) (slot : Slot) (commands : List Text)
    (husable : ∀ call ∈ slot.run sys first commands, call.before.usable = true) :
    (slot.run sys first commands).flatMap SlotCall.wrote = commands.flatMap phpFrame := by
  induction commands generalizing first slot with
  | nil => rfl
  | cons command commands ih =>
    rw [Slot.run] at husable ⊢
    rw [List.forall_mem_cons] at husable
    rw [List.flatMap_cons, List.flatMap_cons, ih _ _ husable.2]
    exact congrArg (· ++ _) (Slot.phpCmd_wrote command husable.1 (hwritten first))

theorem flatMap_phpFrame_eq_iff (commands : List Text) :
    commands.flatMap phpFrame = joinFrames 13 10 commands ↔
      ∀ command ∈ commands, command.length ≤ 1021 := by
  refine (flatMap_take_eq_joinFrames_iff (BUFSIZE - 1) commands).trans ?_
  refine forall₂_congr fun command _ => ?_
  simp only [BUFSIZE]
  omega

/-- The stream that `php_cmd` writes splits at CR LF into the commands exactly
when each of them leaves room for CR LF in the buffer. -/
theorem slotRun_framed_iff (sys : SlotSystem) (slot : Slot) (commands : List Text)
    (hwritten : ∀ call, sys.written call 0 = true)
    (husable : ∀ call ∈ slot.run sys 0 commands, call.before.usable = true)
    (hclean : ∀ command ∈ commands, (13 : UInt8) ∉ command) :
    splitFrames 13 10 ((slot.run sys 0 commands).flatMap SlotCall.wrote) = (commands, []) ↔
      ∀ command ∈ commands, command.length ≤ 1021 := by
  rw [Slot.run_wrote hwritten 0 slot commands husable, splitFrames_eq_iff hclean]
  exact flatMap_phpFrame_eq_iff commands

/-- A server that answers every command with `0`. -/
private def zeroSystem : SlotSystem where
  spawned _ := true
  watchable _ := true
  greeting _ := lit "Started" ++ [10]
  greetingReads _ := []
  written _ _ := true
  answer _ := [48, 10]
  reads _ := []

private def readySlot : Slot := ⟨.ready, some 0, 1, [], []⟩

theorem slotRun_framed_short :
    splitFrames 13 10
        ((readySlot.run zeroSystem 0 [lit "ss_cpu 1", lit "ss_disk 2"]).flatMap SlotCall.wrote) =
      ([lit "ss_cpu 1", lit "ss_disk 2"], []) := by
  have husable : (readySlot.run zeroSystem 0 [lit "ss_cpu 1", lit "ss_disk 2"]).all
      (fun call => call.before.usable) = true := by decide
  refine (slotRun_framed_iff zeroSystem readySlot [lit "ss_cpu 1", lit "ss_disk 2"] (fun _ => rfl)
    (List.all_eq_true.1 husable) ?_).2 ?_
  · exact List.forall_mem_cons.2 ⟨by decide, List.forall_mem_singleton.2 (by decide)⟩
  · exact List.forall_mem_cons.2 ⟨by decide, List.forall_mem_singleton.2 (by decide)⟩

/-- A command of 1023 bytes and the next one arrive as one command. -/
theorem slotRun_framed_lost :
    splitFrames 13 10
        ((readySlot.run zeroSystem 0 [List.replicate 1023 97, [98]]).flatMap SlotCall.wrote) =
      ([List.replicate 1023 97 ++ [98]], []) ∧
    ([List.replicate 1023 97 ++ [98]] : List Text) ≠ [List.replicate 1023 97, [98]] := by
  have husable : (readySlot.run zeroSystem 0 [List.replicate 1023 97, [98]]).all
      (fun call => call.before.usable) = true := by decide
  have hlong : phpFrame (List.replicate 1023 97) = List.replicate 1023 97 :=
    List.take_left' List.length_replicate
  have hshort : phpFrame [98] = [98] ++ [13, 10] := by decide
  have hclean : (13 : UInt8) ∉ List.replicate 1023 97 ++ [98] := by
    rw [List.mem_append, not_or]
    exact ⟨fun h => absurd (List.eq_of_mem_replicate h) (by decide), by decide⟩
  refine ⟨?_, fun h => absurd (congrArg List.length h) (by decide)⟩
  rw [Slot.run_wrote (fun _ => rfl) 0 readySlot _ (List.all_eq_true.1 husable), List.flatMap_cons,
    List.flatMap_singleton, hlong, hshort, ← List.append_assoc]
  exact splitFrames_append hclean []

end Spine
