import Mathlib.Data.List.Nodup
import Spine.Base.CString

/-!
# Signals

The functions of `app/signals.c`.  `install_spine_signal_handler` puts a handler on the fatal
signals that have the default action and on `SIGPIPE`, `uninstall_spine_signal_handler` takes
them away at the end of the program, and `spine_signal_handler` reports a fatal signal on
the standard error and ends the process by it.

* The report.  `signalWrite` goes on after a partial and after an interrupted write.
  `numberDigits_eq` says that `signal_write_number` prints a number in decimal.
* The life of the process.  `SigStep` are the calls of the two functions, and `signalRun`
  makes them one after the other, with signals that arrive between any two of them.
* `signalRun_ended_iff` reduces a run to the handler that each signal meets, and
  `harmless_after_iff` and `pipe_harmless_after_iff` say when that one is harmless.
-/

namespace Spine

open Base.CString

/-! ## The signals -/

/-- The entries of `spine_fatal_signals`, and `SIGPIPE`. -/
inductive Signal where
  | int
  | segv
  | bus
  | fpe
  | quit
  | sys
  | abrt
  | pipe
  deriving DecidableEq, Repr

/-- `spine_fatal_signals`. -/
def spineFatalSignals : List Signal := [.int, .segv, .bus, .fpe, .quit, .sys, .abrt]

/-- The number of a signal on Linux. -/
def Signal.number : Signal → Nat
  | .int => 2
  | .quit => 3
  | .abrt => 6
  | .bus => 7
  | .fpe => 8
  | .segv => 11
  | .pipe => 13
  | .sys => 31

/-- How a process ends. -/
inductive ProcessEnd where
  | exited (status : Nat)
  | killed (signal : Signal)
  deriving DecidableEq, Repr

/-! ## The report -/

/-- The answer to a `write`. -/
inductive WriteAnswer where
  | wrote (count : Nat)
  | interrupted
  | failed
  deriving DecidableEq, Repr

/-- `signal_write`: what reaches the standard error, and the answers that are left.  There is
no result while a write lacks its answer. -/
def signalWrite : List WriteAnswer → Text → Option (Text × List WriteAnswer)
  | answers, [] => some ([], answers)
  | [], _ :: _ => none
  | .wrote 0 :: answers, _ :: _ => some ([], answers)
  | .wrote (count + 1) :: answers, b :: text =>
    (signalWrite answers (text.drop count)).map fun rest => (b :: text.take count ++ rest.1, rest.2)
  | .interrupted :: answers, b :: text => signalWrite answers (b :: text)
  | .failed :: answers, _ :: _ => some ([], answers)

/-- The loop of `signal_write_number`, with the bytes of the buffer that are left. -/
def numberDigits : Nat → Nat → Text → Text
  | 0, _, digits => digits
  | left + 1, magnitude, digits =>
    let digits := UInt8.ofNat (48 + magnitude % 10) :: digits
    if 0 < magnitude / 10 ∧ 0 < left then numberDigits left (magnitude / 10) digits else digits

/-- The text of `signal_write_number`. -/
def signalNumber (value : Nat) : Text := numberDigits 23 value []

/-- The message of a signal that has one. -/
def signalMessage : Signal → Option Text
  | .abrt => some (lit "FATAL: Spine Interrupted by Abort Signal\n")
  | .int => some (lit "FATAL: Spine Interrupted by Console Operator\n")
  | .segv => some (lit "FATAL: Spine Encountered a Segmentation Fault\n")
  | .bus => some (lit "FATAL: Spine Encountered a Bus Error\n")
  | .fpe => some (lit "FATAL: Spine Encountered a Floating Point Exception\n")
  | .quit => some (lit "FATAL: Spine Encountered a Keyboard Quit Command\n")
  | .sys => none
  | .pipe => none

/-- The texts that the handler writes, one call each. -/
def signalPieces (signal : Signal) (time : UInt64) : List Text :=
  [lit "[", signalNumber time.toNat, lit "] "] ++
    match signalMessage signal with
    | some message => [message]
    | none =>
      [lit "FATAL: Spine Encountered An Unhandled Exception Signal Number: '",
        signalNumber signal.number, lit "'\n"]

/-- Some calls of `signal_write`.  A call that fails does not keep the next one from writing. -/
def writePieces : List WriteAnswer → List Text → Option (Text × List WriteAnswer)
  | answers, [] => some ([], answers)
  | answers, piece :: pieces =>
    (signalWrite answers piece).bind fun written =>
      (writePieces written.2 pieces).map fun rest => (written.1 ++ rest.1, rest.2)

/-- How the handler ends the process: by `_exit`, or by the default action of the signal that it
raises again.  It returns from `SIGPIPE`. -/
def handlerEnd (signal : Signal) : Option ProcessEnd :=
  if signal = .segv then some (.exited 1)
  else if signal = .pipe then none
  else some (.killed signal)

/-- `spine_signal_handler`: what it writes, and how the process ends, if it does. -/
def spineSignalHandler (signal : Signal) (time : UInt64) (answers : List WriteAnswer) :
    Option (Text × Option ProcessEnd) :=
  (writePieces answers (signalPieces signal time)).map fun written =>
    (written.1, handlerEnd signal)

section Report

theorem decimal_eq_if (n : Nat) :
    decimal n =
      if n < 10 then [UInt8.ofNat (48 + n)]
      else decimal (n / 10) ++ [UInt8.ofNat (48 + n % 10)] := by
  unfold decimal
  rw [Nat.toDigits_eq_if (by decide)]
  split
  · rename_i hlt
    rw [List.map_singleton, Nat.toNat_digitChar_of_lt_ten hlt]
  · rw [List.map_append, List.map_singleton,
      Nat.toNat_digitChar_of_lt_ten (Nat.mod_lt n (by decide))]

/-- The buffer of `signal_write_number` takes every digit. -/
theorem numberDigits_eq {left n : Nat} (hn : n < 10 ^ left) (hleft : 0 < left) (digits : Text) :
    numberDigits left n digits = decimal n ++ digits := by
  induction left generalizing n digits with
  | zero => omega
  | succ left ih =>
    unfold numberDigits
    dsimp only
    rw [decimal_eq_if n]
    by_cases hlt : n < 10
    · have hdiv : n / 10 = 0 := Nat.div_eq_of_lt hlt
      rw [if_neg (fun h => by omega), if_pos hlt, Nat.mod_eq_of_lt hlt]
      rfl
    · have hdiv : n / 10 < 10 ^ left := by
        rw [Nat.div_lt_iff_lt_mul (by decide)]
        rwa [Nat.pow_succ] at hn
      have hleft' : 0 < left := by
        by_contra hzero
        have hzero' : left = 0 := by omega
        rw [hzero', Nat.pow_zero] at hdiv
        omega
      rw [if_pos ⟨by omega, hleft'⟩, if_neg hlt, ih hdiv hleft', List.append_assoc]
      rfl

theorem signalNumber_eq {value : Nat} (h : value < 2 ^ 64) :
    signalNumber value = decimal value := by
  unfold signalNumber
  rw [numberDigits_eq (Nat.lt_trans h (by decide)) (by decide), List.append_nil]

/-- A write that is not given up: it takes some bytes, or it is interrupted. -/
def WriteAnswer.goesOn : WriteAnswer → Bool
  | .wrote count => decide (0 < count)
  | .interrupted => true
  | .failed => false

/-- A write that takes some bytes. -/
def WriteAnswer.takes : WriteAnswer → Bool
  | .wrote count => decide (0 < count)
  | _ => false

/-- Writes that go on bring out the whole text, and each of them that takes something at least
one byte. -/
theorem signalWrite_whole {answers : List WriteAnswer} (text : Text)
    (hgo : ∀ a ∈ answers, a.goesOn = true)
    (hcount : text.length ≤ answers.countP WriteAnswer.takes) :
    ∃ rest, signalWrite answers text = some (text, rest) ∧ (∀ a ∈ rest, a.goesOn = true) ∧
      answers.countP WriteAnswer.takes ≤ rest.countP WriteAnswer.takes + text.length := by
  induction answers generalizing text with
  | nil =>
    cases text with
    | nil => exact ⟨[], rfl, hgo, Nat.le_refl _⟩
    | cons b text => exact absurd hcount (Nat.not_succ_le_zero _)
  | cons answer answers ih =>
    cases text with
    | nil => exact ⟨answer :: answers, by rw [signalWrite], hgo, Nat.le_refl _⟩
    | cons b text =>
      have hgo' : ∀ a ∈ answers, a.goesOn = true := fun a ha => hgo a (List.mem_cons_of_mem _ ha)
      rw [List.countP_cons] at hcount ⊢
      cases answer with
      | wrote count =>
        cases count with
        | zero => cases hgo (.wrote 0) List.mem_cons_self
        | succ count =>
          have htakes : (if WriteAnswer.takes (.wrote (count + 1)) then 1 else 0) = 1 := rfl
          rw [htakes] at hcount ⊢
          rw [List.length_cons] at hcount
          obtain ⟨rest, hwrite, hrest, hleft⟩ := ih (text.drop count) hgo'
            (by rw [List.length_drop]; omega)
          refine ⟨rest, ?_, hrest, ?_⟩
          · rw [signalWrite, hwrite, Option.map_some, List.cons_append, List.take_append_drop]
          · rw [List.length_drop] at hleft
            rw [List.length_cons]
            omega
      | interrupted =>
        obtain ⟨rest, hwrite, hrest, hleft⟩ := ih (b :: text) hgo' hcount
        exact ⟨rest, by rw [signalWrite, hwrite], hrest, hleft⟩
      | failed => cases hgo .failed List.mem_cons_self

theorem writePieces_whole {answers : List WriteAnswer} {pieces : List Text}
    (hgo : ∀ a ∈ answers, a.goesOn = true)
    (hcount : pieces.flatten.length ≤ answers.countP WriteAnswer.takes) :
    ∃ rest, writePieces answers pieces = some (pieces.flatten, rest) := by
  induction pieces generalizing answers with
  | nil => exact ⟨answers, rfl⟩
  | cons piece pieces ih =>
    rw [List.flatten_cons, List.length_append] at hcount
    obtain ⟨left, hwrite, hleft, hless⟩ := signalWrite_whole piece hgo (by omega)
    obtain ⟨rest, hrest⟩ := ih hleft (by omega)
    refine ⟨rest, ?_⟩
    rw [writePieces, hwrite, Option.bind_some, hrest]
    rfl

/-- The report of a signal. -/
def signalText (signal : Signal) (time : UInt64) : Text :=
  lit "[" ++ decimal time.toNat ++ lit "] " ++
    match signalMessage signal with
    | some message => message
    | none =>
      lit "FATAL: Spine Encountered An Unhandled Exception Signal Number: '" ++
        decimal signal.number ++ lit "'\n"

theorem signalPieces_flatten (signal : Signal) (time : UInt64) :
    (signalPieces signal time).flatten = signalText signal time := by
  have htime : signalNumber time.toNat = decimal time.toNat := signalNumber_eq time.toNat_lt
  have hnumber : signalNumber signal.number = decimal signal.number :=
    signalNumber_eq (by cases signal <;> decide)
  unfold signalPieces signalText
  rw [htime, hnumber]
  cases signalMessage signal with
  | some message => simp
  | none => simp

theorem handlerEnd_of_fatal {signal : Signal} (h : signal ∈ spineFatalSignals) :
    handlerEnd signal = some (if signal = .segv then .exited 1 else .killed signal) := by
  unfold handlerEnd
  split
  · rfl
  · rw [if_neg fun hpipe => absurd (hpipe ▸ h) (by decide)]

/-- However `write` splits the report of a fatal signal, and however often it is interrupted:
once it has taken as many times as the report has bytes, the handler has written the whole
report, and it ends the process by the signal, or with status 1 after a segmentation fault. -/
theorem spineSignalHandler_reports {signal : Signal} (hfatal : signal ∈ spineFatalSignals)
    (time : UInt64) {answers : List WriteAnswer} (hgo : ∀ a ∈ answers, a.goesOn = true)
    (hcount : (signalText signal time).length ≤ answers.countP WriteAnswer.takes) :
    spineSignalHandler signal time answers =
      some (signalText signal time,
        some (if signal = .segv then .exited 1 else .killed signal)) := by
  rw [← signalPieces_flatten] at hcount ⊢
  obtain ⟨rest, hrest⟩ := writePieces_whole hgo hcount
  rw [spineSignalHandler, hrest, Option.map_some, handlerEnd_of_fatal hfatal]

/-- Every second write is interrupted, and the others take seven bytes. -/
theorem spineSignalHandler_reports_quit :
    spineSignalHandler .quit 1700000000
        (List.replicate 70 [WriteAnswer.interrupted, .wrote 7]).flatten =
      some (signalText .quit 1700000000, some (.killed .quit)) :=
  spineSignalHandler_reports (by decide) 1700000000 (by decide +kernel) (by decide +kernel)

end Report

/-! ## The calls -/

/-- What is done with a signal. -/
inductive SignalHandler where
  | default
  | ignore
  | spineSignal
  | spineSigpipe
  | foreign (name : Nat)
  deriving DecidableEq, Repr

/-- A call that reads or changes the handler of a signal, with what follows from its result. -/
inductive SigStep where
  /-- `sigaction` for `SIGPIPE` in `install_spine_signal_handler`. -/
  | catchPipe
  /-- A turn of the first loop of `install_spine_signal_handler`. -/
  | claim (signal : Signal)
  /-- `ohandler = signal(.., handler)`. -/
  | swap (signal : Signal) (handler : SignalHandler)
  /-- `if (ohandler != kept) signal(.., ohandler)`. -/
  | putBack (signal : Signal) (kept : SignalHandler)
  /-- The treatment of `SIGPIPE` in `uninstall_spine_signal_handler`. -/
  | releasePipe
  /-- A turn of the first loop of `uninstall_spine_signal_handler`. -/
  | release (signal : Signal)
  deriving DecidableEq, Repr

/-- The handlers of the process, the variable `ohandler`, and how the process has ended. -/
structure SignalState where
  handlers : Signal → SignalHandler
  ohandler : SignalHandler
  ended : Option ProcessEnd

/-- A signal gets a handler. -/
def SignalState.set (state : SignalState) (signal : Signal) (handler : SignalHandler) :
    SignalState :=
  { state with handlers := Function.update state.handlers signal handler }

def SigStep.apply (state : SignalState) : SigStep → SignalState
  | .catchPipe => state.set .pipe .spineSigpipe
  | .claim signal =>
    if state.handlers signal = .default then state.set signal .spineSignal else state
  | .swap signal handler => { state.set signal handler with ohandler := state.handlers signal }
  | .putBack signal kept =>
    if state.ohandler = kept then state else state.set signal state.ohandler
  | .releasePipe =>
    if state.handlers .pipe = .spineSigpipe then state.set .pipe .default else state
  | .release signal =>
    if state.handlers signal = .spineSignal then state.set signal .default else state

/-- The second loop of the two functions: the handler is put on a signal and taken back, unless
the handler before was the one that is `kept`. -/
def swapSteps (handler kept : SignalHandler) (signals : List Signal) : List SigStep :=
  signals.flatMap fun signal => [.swap signal handler, .putBack signal kept]

/-- `install_spine_signal_handler`. -/
def installSteps : List SigStep :=
  .catchPipe :: spineFatalSignals.map .claim ++ swapSteps .spineSignal .default spineFatalSignals

/-- `uninstall_spine_signal_handler`. -/
def uninstallSteps : List SigStep :=
  .releasePipe :: spineFatalSignals.map .release ++
    swapSteps .default .spineSignal spineFatalSignals

/-- A signal arrives.  The handlers of other libraries return. -/
def deliver (state : SignalState) (signal : Signal) : SignalState :=
  match state.handlers signal with
  | .default => { state with ended := some (.killed signal) }
  | .spineSignal =>
    if signal = .pipe then state
    else { state.set signal .default with ended := handlerEnd signal }
  | _ => state

/-- Signals that arrive one after the other, as long as the process runs. -/
def deliverAll : List Signal → SignalState → SignalState
  | [], state => state
  | signal :: rest, state =>
    if (deliver state signal).ended.isSome then deliver state signal
    else deliverAll rest (deliver state signal)

/-- The calls of the process from the `k`-th one on.  `arrivals k` are the signals that arrive
after `k` calls. -/
def signalRun (arrivals : Nat → List Signal) : List SigStep → Nat → SignalState → SignalState
  | [], k, state => deliverAll (arrivals k) state
  | step :: rest, k, state =>
    if (deliverAll (arrivals k) state).ended.isSome then deliverAll (arrivals k) state
    else signalRun arrivals rest (k + 1) (step.apply (deliverAll (arrivals k) state))

/-- The calls of a whole run of Spine.  What it does between the two functions changes no
handler. -/
def spineSignalSteps : List SigStep := installSteps ++ uninstallSteps

/-- The process at its start. -/
def startSignals (handlers : Signal → SignalHandler) : SignalState :=
  ⟨handlers, .default, none⟩

/-! ## The handler that a signal meets -/

section Runs

variable {state : SignalState} {signal : Signal} {arrivals : Nat → List Signal}

/-- A handler that lets the process go on after a signal. -/
def SignalHandler.Harmless (handler : SignalHandler) (signal : Signal) : Prop :=
  handler ≠ .default ∧ (handler = .spineSignal → signal = .pipe)

/-- Some calls in a row. -/
def applyAll (state : SignalState) (steps : List SigStep) : SignalState :=
  steps.foldl SigStep.apply state

theorem deliver_of_harmless (h : (state.handlers signal).Harmless signal) :
    deliver state signal = state := by
  unfold deliver
  split
  · rename_i hdefault
    exact absurd hdefault h.1
  · rename_i hspine
    exact if_pos (h.2 hspine)
  · rfl

theorem handlerEnd_isSome (h : signal ≠ .pipe) : (handlerEnd signal).isSome = true := by
  unfold handlerEnd
  rw [if_neg h]
  split <;> rfl

theorem deliver_ended (h : ¬ (state.handlers signal).Harmless signal) :
    (deliver state signal).ended.isSome = true := by
  unfold deliver
  split
  · rfl
  · rename_i hspine
    have hpipe : signal ≠ .pipe := fun hpipe =>
      h ⟨fun hdefault => absurd (hspine.symm.trans hdefault) (by decide), fun _ => hpipe⟩
    rw [if_neg hpipe]
    exact handlerEnd_isSome hpipe
  · rename_i hdefault hspine
    exact absurd ⟨hdefault, fun hnow => absurd hnow hspine⟩ h

/-- Signals change nothing, or one of them ends the process. -/
theorem deliverAll_cases (signals : List Signal) (hrunning : state.ended = none) :
    ((∀ s ∈ signals, (state.handlers s).Harmless s) ∧ deliverAll signals state = state) ∨
      (¬ ∀ s ∈ signals, (state.handlers s).Harmless s) ∧
        (deliverAll signals state).ended.isSome = true := by
  induction signals with
  | nil => exact Or.inl ⟨fun s hs => absurd hs List.not_mem_nil, rfl⟩
  | cons signal rest ih =>
    unfold deliverAll
    by_cases hsignal : (state.handlers signal).Harmless signal
    · rw [deliver_of_harmless hsignal, hrunning, if_neg (by decide), List.forall_mem_cons]
      simpa only [and_iff_right hsignal] using ih
    · have hended := deliver_ended hsignal
      rw [if_pos hended, List.forall_mem_cons]
      exact Or.inr ⟨fun h => hsignal h.1, hended⟩

theorem SigStep.apply_ended (step : SigStep) (state : SignalState) :
    (step.apply state).ended = state.ended := by
  cases step <;> simp only [SigStep.apply, SignalState.set] <;> split <;> rfl

/-- A run goes on to its end exactly if every signal meets a harmless handler, and then the
calls have the effect that they have without signals. -/
theorem signalRun_ended_iff (arrivals : Nat → List Signal) (steps : List SigStep) (k : Nat)
    (hrunning : state.ended = none) :
    ((signalRun arrivals steps k state).ended = none ↔
      ∀ j ≤ steps.length, ∀ s ∈ arrivals (k + j),
        ((applyAll state (steps.take j)).handlers s).Harmless s) ∧
    ((signalRun arrivals steps k state).ended = none →
      signalRun arrivals steps k state = applyAll state steps) := by
  induction steps generalizing k state with
  | nil =>
    have hall : (∀ j ≤ ([] : List SigStep).length, ∀ s ∈ arrivals (k + j),
        ((applyAll state (([] : List SigStep).take j)).handlers s).Harmless s) ↔
          ∀ s ∈ arrivals k, (state.handlers s).Harmless s := by
      simp [applyAll]
    rw [hall, signalRun]
    rcases deliverAll_cases (arrivals k) hrunning with ⟨hharmless, hsame⟩ | ⟨hharm, hended⟩
    · rw [hsame]
      exact ⟨iff_of_true hrunning hharmless, fun _ => rfl⟩
    · have hnot : ¬ (deliverAll (arrivals k) state).ended = none :=
        Option.ne_none_iff_isSome.2 hended
      exact ⟨iff_of_false hnot hharm, fun h => absurd h hnot⟩
  | cons step rest ih =>
    have hall : (∀ j ≤ (step :: rest).length, ∀ s ∈ arrivals (k + j),
        ((applyAll state ((step :: rest).take j)).handlers s).Harmless s) ↔
          (∀ s ∈ arrivals k, (state.handlers s).Harmless s) ∧
            ∀ j ≤ rest.length, ∀ s ∈ arrivals (k + 1 + j),
              ((applyAll (step.apply state) (rest.take j)).handlers s).Harmless s := by
      rw [← Nat.and_forall_add_one]
      simp [applyAll, Nat.add_assoc, Nat.add_comm 1]
    rw [hall, signalRun]
    rcases deliverAll_cases (arrivals k) hrunning with ⟨hharmless, hsame⟩ | ⟨hharm, hended⟩
    · rw [hsame, hrunning, if_neg (by decide), and_iff_right hharmless]
      exact ih (k + 1) ((step.apply_ended state).trans hrunning)
    · rw [if_pos hended]
      have hnot : ¬ (deliverAll (arrivals k) state).ended = none :=
        Option.ne_none_iff_isSome.2 hended
      exact ⟨iff_of_false hnot fun h => hharm h.1, fun h => absurd h hnot⟩

/-! ### One signal among the calls -/

/-- The signal that a call is about. -/
def SigStep.about : SigStep → Signal
  | .catchPipe | .releasePipe => .pipe
  | .claim signal | .release signal | .swap signal _ | .putBack signal _ => signal

theorem SignalState.set_handlers_of_ne {other : Signal} (h : other ≠ signal)
    (handler : SignalHandler) :
    (state.set other handler).handlers signal = state.handlers signal := by
  unfold SignalState.set
  exact Function.update_of_ne (Ne.symm h) handler state.handlers

theorem SignalState.set_handlers_self (state : SignalState) (signal : Signal)
    (handler : SignalHandler) : (state.set signal handler).handlers signal = handler := by
  unfold SignalState.set
  exact Function.update_self signal handler state.handlers

/-- A call about another signal. -/
theorem SigStep.apply_handlers_of_ne {step : SigStep} (h : step.about ≠ signal) :
    (step.apply state).handlers signal = state.handlers signal := by
  cases step with
  | catchPipe => exact SignalState.set_handlers_of_ne h _
  | swap other handler => exact SignalState.set_handlers_of_ne h _
  | claim other | release other | putBack other kept | releasePipe =>
    simp only [SigStep.apply]
    split
    all_goals first
      | rfl
      | exact SignalState.set_handlers_of_ne h _

/-- Calls about other signals. -/
theorem applyAll_handlers_of_ne {steps : List SigStep}
    (h : ∀ step ∈ steps, step.about ≠ signal) :
    (applyAll state steps).handlers signal = state.handlers signal := by
  induction steps generalizing state with
  | nil => rfl
  | cons step rest ih =>
    rw [List.forall_mem_cons] at h
    rw [applyAll, List.foldl_cons]
    exact (ih h.2).trans (SigStep.apply_handlers_of_ne h.1)

theorem applyAll_append (state : SignalState) (before after : List SigStep) :
    applyAll state (before ++ after) = applyAll (applyAll state before) after :=
  List.foldl_append

theorem forall_mem_take {steps : List SigStep} (h : ∀ step ∈ steps, step.about ≠ signal)
    (k : Nat) : ∀ step ∈ steps.take k, step.about ≠ signal :=
  fun step hstep => h step (List.mem_of_mem_take hstep)

variable (state) in
/-- One call about the signal among others, after any number of the calls. -/
theorem applyAll_take_of_one {before after : List SigStep} {step : SigStep}
    {f : SignalHandler → SignalHandler}
    (hbefore : ∀ step ∈ before, step.about ≠ signal) (hafter : ∀ step ∈ after, step.about ≠ signal)
    (hf : ∀ state, (step.apply state).handlers signal = f (state.handlers signal)) (k : Nat) :
    (applyAll state ((before ++ step :: after).take k)).handlers signal =
      if before.length < k then f (state.handlers signal) else state.handlers signal := by
  rw [List.take_append, applyAll_append]
  split
  · rename_i hlt
    obtain ⟨j, hj⟩ : ∃ j, k - before.length = j + 1 := ⟨k - before.length - 1, by omega⟩
    rw [hj, List.take_succ_cons]
    refine (applyAll_handlers_of_ne (forall_mem_take hafter j)).trans ?_
    rw [hf, applyAll_handlers_of_ne (forall_mem_take hbefore k)]
  · rename_i hle
    rw [Nat.sub_eq_zero_of_le (Nat.not_lt.1 hle), List.take_zero]
    exact applyAll_handlers_of_ne (forall_mem_take hbefore k)

variable (state) in
/-- The two calls of a turn of a second loop among others. -/
theorem applyAll_take_of_swap {before after : List SigStep} (handler kept : SignalHandler)
    (hbefore : ∀ step ∈ before, step.about ≠ signal) (hafter : ∀ step ∈ after, step.about ≠ signal)
    (k : Nat) :
    (applyAll state
        ((before ++ .swap signal handler :: .putBack signal kept :: after).take
          k)).handlers signal =
      if k = before.length + 1 then handler
      else if before.length + 1 < k ∧ state.handlers signal = kept then handler
      else state.handlers signal := by
  have hstart : (applyAll state (before.take k)).handlers signal = state.handlers signal :=
    applyAll_handlers_of_ne (forall_mem_take hbefore k)
  rw [List.take_append, applyAll_append]
  rcases Nat.lt_trichotomy k (before.length + 1) with hlt | heq | hgt
  · rw [if_neg (by omega), if_neg (by omega), Nat.sub_eq_zero_of_le (by omega), List.take_zero]
    exact hstart
  · rw [if_pos heq, heq, Nat.add_sub_cancel_left]
    exact SignalState.set_handlers_self _ signal handler
  · obtain ⟨j, hj⟩ : ∃ j, k - before.length = j + 2 := ⟨k - before.length - 2, by omega⟩
    rw [if_neg (by omega), hj, List.take_succ_cons, List.take_succ_cons]
    refine (applyAll_handlers_of_ne (forall_mem_take hafter j)).trans ?_
    simp only [SigStep.apply, hstart]
    by_cases hkept : state.handlers signal = kept
    · rw [if_pos hkept, if_pos ⟨hgt, hkept⟩]
      exact SignalState.set_handlers_self _ signal handler
    · rw [if_neg hkept, if_neg fun h => hkept h.2]
      exact SignalState.set_handlers_self _ signal _

/-! ### The handlers of the fatal signals -/

/-- The place of a signal in `spine_fatal_signals`. -/
def place (signal : Signal) : Nat := spineFatalSignals.idxOf signal

theorem swapSteps_append (handler kept : SignalHandler) (before after : List Signal) :
    swapSteps handler kept (before ++ signal :: after) =
      swapSteps handler kept before ++
        .swap signal handler :: .putBack signal kept :: swapSteps handler kept after := by
  unfold swapSteps
  rw [List.flatMap_append, List.flatMap_cons]
  rfl

theorem length_swapSteps (handler kept : SignalHandler) (signals : List Signal) :
    (swapSteps handler kept signals).length = 2 * signals.length := by
  unfold swapSteps
  rw [List.length_flatMap]
  simp [Nat.mul_comm]

theorem swapSteps_about {signals : List Signal} (h : signal ∉ signals)
    (handler kept : SignalHandler) :
    ∀ step ∈ swapSteps handler kept signals, step.about ≠ signal := by
  intro step hstep habout
  obtain ⟨other, hother, hstep⟩ := List.mem_flatMap.1 hstep
  have hsame : step.about = other := by
    rcases List.mem_cons.1 hstep with rfl | hstep
    · rfl
    · rw [List.mem_singleton.1 hstep]
      rfl
  exact h (habout ▸ hsame ▸ hother)

/-- A fatal signal cuts the list in two that do not have it. -/
theorem spineFatalSignals_split (h : signal ∈ spineFatalSignals) :
    ∃ before after, spineFatalSignals = before ++ signal :: after ∧ signal ∉ before ∧
      signal ∉ after ∧ before.length = place signal := by
  obtain ⟨before, after, hsplit⟩ := List.append_of_mem h
  have hnodup : (before ++ signal :: after).Nodup := hsplit ▸ (by decide)
  have hbefore : signal ∉ before := fun hmem =>
    (List.nodup_append.1 hnodup).2.2 signal hmem signal List.mem_cons_self rfl
  refine ⟨before, after, hsplit, hbefore,
    (List.nodup_cons.1 (List.nodup_append.1 hnodup).2.1).1, ?_⟩
  rw [place, hsplit, List.idxOf_append_of_notMem hbefore, List.idxOf_cons_self, Nat.add_zero]

/-- A first loop, after the call for `SIGPIPE` and any number of its turns. -/
theorem applyAll_take_first (hfatal : signal ∈ spineFatalSignals) {first : SigStep}
    {turn : Signal → SigStep} {f : SignalHandler → SignalHandler}
    (hfirst : first.about = .pipe) (hturn : ∀ s, (turn s).about = s)
    (hf : ∀ state, ((turn signal).apply state).handlers signal = f (state.handlers signal))
    (k : Nat) :
    (applyAll state ((first :: spineFatalSignals.map turn).take k)).handlers signal =
      if place signal + 1 < k then f (state.handlers signal) else state.handlers signal := by
  obtain ⟨before, after, hsplit, hbefore, hafter, hlength⟩ := spineFatalSignals_split hfatal
  have hother : ∀ signals : List Signal, signal ∉ signals →
      ∀ step ∈ signals.map turn, step.about ≠ signal := by
    intro signals hnot step hstep
    obtain ⟨s, hs, rfl⟩ := List.mem_map.1 hstep
    rw [hturn]
    exact fun heq => hnot (heq ▸ hs)
  have hpipe : first.about ≠ signal := fun heq =>
    absurd (hfirst ▸ heq ▸ hfatal) (by decide)
  have hstart : ∀ step ∈ first :: before.map turn, step.about ≠ signal :=
    List.forall_mem_cons.2 ⟨hpipe, hother before hbefore⟩
  have hcut := applyAll_take_of_one state hstart (hother after hafter) hf k
  rw [List.length_cons, List.length_map, hlength] at hcut
  rw [hsplit, List.map_append, List.map_cons]
  exact hcut

/-- A second loop, after any number of its calls. -/
theorem applyAll_take_second (hfatal : signal ∈ spineFatalSignals) (handler kept : SignalHandler)
    (k : Nat) :
    (applyAll state ((swapSteps handler kept spineFatalSignals).take k)).handlers signal =
      if k = 2 * place signal + 1 then handler
      else if 2 * place signal + 1 < k ∧ state.handlers signal = kept then handler
      else state.handlers signal := by
  obtain ⟨before, after, hsplit, hbefore, hafter, hlength⟩ := spineFatalSignals_split hfatal
  have hcut := applyAll_take_of_swap state handler kept
    (swapSteps_about hbefore handler kept) (swapSteps_about hafter handler kept) k
  rw [length_swapSteps, hlength] at hcut
  rw [hsplit, swapSteps_append]
  exact hcut

/-- The handler, unless it is the one that is looked for. -/
def SignalHandler.replaced (old new handler : SignalHandler) : SignalHandler :=
  if handler = old then new else handler

/-- The two loops of one of the functions, after any number of the calls.  They change the
handler `old` to `new`, and a handler that is neither is replaced for the time between the two
calls of its turn. -/
theorem applyAll_take_loops (hfatal : signal ∈ spineFatalSignals) {first : SigStep}
    {turn : Signal → SigStep} {old new : SignalHandler} (hfirst : first.about = .pipe)
    (hturn : ∀ s, (turn s).about = s)
    (hf : ∀ state, ((turn signal).apply state).handlers signal =
      SignalHandler.replaced old new (state.handlers signal))
    (hnew : state.handlers signal ≠ new) (k : Nat) :
    (applyAll state
        ((first :: spineFatalSignals.map turn ++ swapSteps new old spineFatalSignals).take
          k)).handlers signal =
      if state.handlers signal = old then (if place signal + 1 < k then new else old)
      else if k = 2 * place signal + 9 then new
      else state.handlers signal := by
  have hplace : place signal < 7 := List.idxOf_lt_length_iff.2 hfatal
  have hlength : (first :: spineFatalSignals.map turn).length = 8 := rfl
  rw [List.take_append, applyAll_append, hlength, applyAll_take_second hfatal,
    applyAll_take_first hfatal hfirst hturn hf, SignalHandler.replaced]
  by_cases hold : state.handlers signal = old
  · have hne : new ≠ old := fun heq => hnew (hold.trans heq.symm)
    simp only [hold, if_true]
    by_cases hk : place signal + 1 < k
    · simp only [if_pos hk, hne, and_false, ite_self]
    · rw [if_neg hk, if_neg (by omega), if_neg (by omega)]
  · simp only [hold, if_false, ite_self, and_false]
    by_cases hk : k = 2 * place signal + 9
    · rw [if_pos hk, if_pos (by omega)]
    · rw [if_neg hk, if_neg (by omega)]

/-- A fatal signal while the handlers are put on. -/
theorem applyAll_take_install (hfatal : signal ∈ spineFatalSignals)
    (hown : state.handlers signal ≠ .spineSignal) (k : Nat) :
    (applyAll state (installSteps.take k)).handlers signal =
      if state.handlers signal = .default then
        (if place signal + 1 < k then .spineSignal else .default)
      else if k = 2 * place signal + 9 then .spineSignal
      else state.handlers signal := by
  refine applyAll_take_loops hfatal rfl (fun s => rfl) (fun state => ?_) hown k
  simp only [SigStep.apply, SignalHandler.replaced]
  split
  · exact SignalState.set_handlers_self _ _ _
  · rfl

/-- A fatal signal while the handlers are taken away. -/
theorem applyAll_take_uninstall (hfatal : signal ∈ spineFatalSignals)
    (hcaught : state.handlers signal ≠ .default) (k : Nat) :
    (applyAll state (uninstallSteps.take k)).handlers signal =
      if state.handlers signal = .spineSignal then
        (if place signal + 1 < k then .default else .spineSignal)
      else if k = 2 * place signal + 9 then .default
      else state.handlers signal := by
  refine applyAll_take_loops hfatal rfl (fun s => rfl) (fun state => ?_) hcaught k
  simp only [SigStep.apply, SignalHandler.replaced]
  split
  · exact SignalState.set_handlers_self _ _ _
  · rfl

/-- What the whole of `install_spine_signal_handler` makes of the handler of a fatal signal. -/
theorem applyAll_install (hfatal : signal ∈ spineFatalSignals)
    (hown : state.handlers signal ≠ .spineSignal) :
    (applyAll state installSteps).handlers signal =
      SignalHandler.replaced .default .spineSignal (state.handlers signal) := by
  have hplace : place signal < 7 := List.idxOf_lt_length_iff.2 hfatal
  have hall := applyAll_take_install hfatal hown 22
  have hfirst : place signal + 1 < 22 := by omega
  have hsecond : ¬ 22 = 2 * place signal + 9 := by omega
  rw [if_pos hfirst, if_neg hsecond] at hall
  exact hall

variable (state) in
theorem applyAll_take_spineSignalSteps_of_le {k : Nat} (hk : k ≤ 22) :
    applyAll state (spineSignalSteps.take k) = applyAll state (installSteps.take k) := by
  rw [spineSignalSteps, List.take_append_of_le_length hk]

variable (state) in
theorem applyAll_take_spineSignalSteps (j : Nat) :
    applyAll state (spineSignalSteps.take (22 + j)) =
      applyAll (applyAll state installSteps) (uninstallSteps.take j) := by
  rw [← applyAll_append]
  rw [spineSignalSteps, ← List.take_length_add_append]
  rfl

theorem harmless_iff (hfatal : signal ∈ spineFatalSignals) (handler : SignalHandler) :
    handler.Harmless signal ↔ handler ≠ .default ∧ handler ≠ .spineSignal := by
  have hpipe : signal ≠ .pipe := fun heq => absurd (heq ▸ hfatal) (by decide)
  simp only [SignalHandler.Harmless, hpipe, imp_false]

/-- When the handler that a fatal signal meets lets the process go on. -/
theorem harmless_after_iff (hfatal : signal ∈ spineFatalSignals)
    (hown : state.handlers signal ≠ .spineSignal) {k : Nat} :
    (((applyAll state (spineSignalSteps.take k)).handlers signal).Harmless signal ↔
      state.handlers signal ≠ .default ∧ k ≠ 2 * place signal + 9 ∧
        k ≠ 2 * place signal + 31) := by
  have hplace : place signal < 7 := List.idxOf_lt_length_iff.2 hfatal
  rw [harmless_iff hfatal]
  rcases Nat.le_total k 22 with hle | hge
  · rw [applyAll_take_spineSignalSteps_of_le state hle, applyAll_take_install hfatal hown]
    by_cases hdefault : state.handlers signal = .default
    · simp only [hdefault, if_true]
      split <;> simp
    · rw [if_neg hdefault]
      split
      · simp [*]
      · have hlater : k ≠ 2 * place signal + 31 := by omega
        simp [*]
  · obtain ⟨j, rfl⟩ := Nat.exists_eq_add_of_le hge
    have hinstalled := applyAll_install hfatal hown
    rw [applyAll_take_spineSignalSteps]
    by_cases hdefault : state.handlers signal = .default
    · rw [hdefault, SignalHandler.replaced, if_pos rfl] at hinstalled
      rw [applyAll_take_uninstall hfatal (by rw [hinstalled]; decide), if_pos hinstalled]
      split <;> simp [hdefault]
    · rw [SignalHandler.replaced, if_neg hdefault] at hinstalled
      rw [applyAll_take_uninstall hfatal (by rwa [hinstalled]), hinstalled, if_neg hown]
      have hearlier : 22 + j ≠ 2 * place signal + 9 := by omega
      split
      · simp; omega
      · have hnot : 22 + j ≠ 2 * place signal + 31 := by omega
        simp [*]

/-! ### The handler of `SIGPIPE` -/

/-- A first call about the signal, and others after it. -/
theorem applyAll_take_cons {first : SigStep} {rest : List SigStep}
    (hrest : ∀ step ∈ rest, step.about ≠ signal) (k : Nat) :
    (applyAll state ((first :: rest).take k)).handlers signal =
      if 0 < k then (first.apply state).handlers signal else state.handlers signal := by
  cases k with
  | zero => rfl
  | succ k =>
    rw [List.take_succ_cons, if_pos (Nat.succ_pos k)]
    exact applyAll_handlers_of_ne (forall_mem_take hrest k)

theorem applyAll_take_install_pipe (k : Nat) :
    (applyAll state (installSteps.take k)).handlers .pipe =
      if 0 < k then .spineSigpipe else state.handlers .pipe := by
  have hrest : ∀ step ∈ installSteps.tail, step.about ≠ .pipe := by decide
  refine (applyAll_take_cons hrest k).trans ?_
  rw [SigStep.apply, SignalState.set_handlers_self]

theorem applyAll_take_uninstall_pipe (hcaught : state.handlers .pipe = .spineSigpipe) (k : Nat) :
    (applyAll state (uninstallSteps.take k)).handlers .pipe =
      if 0 < k then .default else .spineSigpipe := by
  have hrest : ∀ step ∈ uninstallSteps.tail, step.about ≠ .pipe := by decide
  refine (applyAll_take_cons hrest k).trans ?_
  rw [SigStep.apply, if_pos hcaught, SignalState.set_handlers_self, hcaught]

/-- What the whole of `install_spine_signal_handler` makes of `SIGPIPE`. -/
theorem applyAll_install_pipe : (applyAll state installSteps).handlers .pipe = .spineSigpipe :=
  applyAll_take_install_pipe 22

theorem pipe_harmless_iff (handler : SignalHandler) :
    handler.Harmless .pipe ↔ handler ≠ .default := by
  simp [SignalHandler.Harmless]

/-- When the handler that `SIGPIPE` meets lets the process go on. -/
theorem pipe_harmless_after_iff {k : Nat} :
    (((applyAll state (spineSignalSteps.take k)).handlers .pipe).Harmless .pipe ↔
      if k = 0 then state.handlers .pipe ≠ .default else k ≤ 22) := by
  rw [pipe_harmless_iff]
  rcases Nat.le_total k 22 with hle | hge
  · rw [applyAll_take_spineSignalSteps_of_le state hle, applyAll_take_install_pipe]
    rcases Nat.eq_zero_or_pos k with rfl | hpos
    · rfl
    · rw [if_pos hpos, if_neg (by omega)]
      exact iff_of_true (by decide) hle
  · obtain ⟨j, rfl⟩ := Nat.exists_eq_add_of_le hge
    rw [applyAll_take_spineSignalSteps, applyAll_take_uninstall_pipe applyAll_install_pipe,
      if_neg (by omega : ¬ 22 + j = 0)]
    rcases Nat.eq_zero_or_pos j with rfl | hpos
    · exact iff_of_true (by decide) (Nat.le_refl 22)
    · rw [if_pos hpos]
      exact iff_of_false (fun h => h rfl) (by omega)

/-! ### The life of the process -/

theorem mem_spineFatalSignals (h : signal ≠ .pipe) : signal ∈ spineFatalSignals := by
  revert h
  cases signal <;> decide

/-- What the calls of a whole run leave of the handlers. -/
theorem applyAll_spineSignalSteps (hown : state.handlers signal ≠ .spineSignal) :
    (applyAll state spineSignalSteps).handlers signal =
      if signal = .pipe then .default else state.handlers signal := by
  have hall : applyAll state spineSignalSteps =
      applyAll (applyAll state installSteps) (uninstallSteps.take 22) :=
    applyAll_take_spineSignalSteps state 22
  rw [hall]
  by_cases hpipe : signal = .pipe
  · rw [if_pos hpipe, hpipe, applyAll_take_uninstall_pipe applyAll_install_pipe]
    rfl
  · have hfatal := mem_spineFatalSignals hpipe
    have hplace : place signal < 7 := List.idxOf_lt_length_iff.2 hfatal
    have hinstalled := applyAll_install hfatal hown
    rw [if_neg hpipe]
    by_cases hdefault : state.handlers signal = .default
    · rw [hdefault, SignalHandler.replaced, if_pos rfl] at hinstalled
      rw [applyAll_take_uninstall hfatal (by rw [hinstalled]; decide), if_pos hinstalled,
        if_pos (by omega), hdefault]
    · rw [SignalHandler.replaced, if_neg hdefault] at hinstalled
      rw [applyAll_take_uninstall hfatal (by rwa [hinstalled]), hinstalled, if_neg hown,
        if_neg (by omega)]

end Runs

/-- A run of Spine goes on to its end exactly if no fatal signal that has the default action
arrives, none with another handler arrives between the two calls that replace this handler and
put it back, at the start or at the end, and `SIGPIPE` arrives only while it is caught.  Then every
handler is again what it was at the start, and `SIGPIPE` has the default action. -/
theorem signalRun_survives_iff {handlers : Signal → SignalHandler}
    (hown : ∀ s, handlers s ≠ .spineSignal) (arrivals : Nat → List Signal) :
    ((signalRun arrivals spineSignalSteps 0 (startSignals handlers)).ended = none ↔
      ∀ k ≤ 44, ∀ s ∈ arrivals k,
        if s = .pipe then (if k = 0 then handlers .pipe ≠ .default else k ≤ 22)
        else handlers s ≠ .default ∧ k ≠ 2 * place s + 9 ∧ k ≠ 2 * place s + 31) ∧
    ((signalRun arrivals spineSignalSteps 0 (startSignals handlers)).ended = none →
      ∀ s, (signalRun arrivals spineSignalSteps 0 (startSignals handlers)).handlers s =
        if s = .pipe then .default else handlers s) := by
  have hrunning : (startSignals handlers).ended = none := rfl
  obtain ⟨hiff, hsame⟩ := signalRun_ended_iff arrivals spineSignalSteps 0 hrunning
  constructor
  · rw [hiff]
    refine forall_congr' fun k => forall_congr' fun _ => forall_congr' fun s =>
      imp_congr ?_ ?_
    · rw [Nat.zero_add]
    · by_cases hpipe : s = .pipe
      · rw [if_pos hpipe, hpipe]
        exact pipe_harmless_after_iff
      · rw [if_neg hpipe]
        exact harmless_after_iff (mem_spineFatalSignals hpipe) (hown s)
  · intro hended s
    rw [hsame hended]
    exact applyAll_spineSignalSteps (hown s)

/-- `SIGINT` is ignored.  It is harmless while the poller runs, and ends it when it arrives
between the two calls for `SIGINT` at the end. -/
theorem signalRun_survives_iff_ignored :
    ∃ handlers : Signal → SignalHandler, handlers .int = .ignore ∧
      (signalRun (fun k => if k = 22 then [.int] else []) spineSignalSteps 0
        (startSignals handlers)).ended = none ∧
      (signalRun (fun k => if k = 31 then [.int] else []) spineSignalSteps 0
        (startSignals handlers)).ended ≠ none := by
  have hown : ∀ s : Signal,
      (if s = .int then SignalHandler.ignore else .default) ≠ .spineSignal := by
    intro s
    split <;> decide
  refine ⟨_, rfl, (signalRun_survives_iff hown _).1.2 ?_, ?_⟩
  · intro k _ s hs
    split at hs
    · rename_i hk
      rw [List.mem_singleton.1 hs, hk]
      decide
    · exact absurd hs List.not_mem_nil
  · rw [Ne, (signalRun_survives_iff hown _).1]
    intro hall
    exact absurd (hall 31 (by decide) .int List.mem_cons_self) (by decide)

end Spine
