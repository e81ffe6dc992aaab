import Spine.Base.Attempts
import Spine.Base.Ledger
import Spine.Internal.Types
import Spine.Ping.SharedAwait

/-!
# Echo requests

`ping_icmp` and `ping_icmp_ipv6` send an echo request, wait for its reply, and send
it again when the time is over.  A socket of their own receives whatever the network
sends to the process, so most of what they read may be meant for somebody else.

* The reply.  `icmpJudges` is the test of a datagram.  `icmpJudges_iff` says which
  datagrams pass it, by the parts of an echo reply.
* One attempt.  `echoListen` is the loop behind `keep_listening`.  What it skips
  neither ends the attempt nor changes the time that is measured.
* The probe.  `pingEcho` is both functions, which differ in the texts, the test and
  what follows a failed `sendto`.  `EchoHold` is what a probe holds, and
  `EchoHold.cleanup` the three releases at its end.

The answers of the system are inputs: what `select` and `recvfrom` return, the time
that is measured then, the descriptors and the resolved address.  On a shared socket
the input is a run of all threads, see `SharedAwait`.
-/

namespace Spine

open Base.Attempts Base.CString Base.Ledger

/-! ## The reply -/

/-- `spine_icmp_classify_dgram_reply`. -/
def spineIcmpClassifyDgramReply (reply : List UInt8) (wantSeq : Word) : IcmpReply :=
  if reply.length < ICMP_HDR_SIZE then .tooShort
  else if byteAt reply 0 ≠ ICMP_ECHOREPLY ∨ byteAt reply 1 ≠ 0 then .notEcho
  else if wordAt reply 6 ≠ wantSeq then .notOurs
  else .ok

/-- The tests between `recvfrom` and the verdict that the device is alive.  A
datagram socket sets the id itself. -/
def icmpJudges (request : IcmpRequest) (dgram : Bool) (reply source : List UInt8) : Bool :=
  match request.family with
  | .inet =>
    let verdict :=
      if dgram then spineIcmpClassifyDgramReply reply request.seq
      else spineIcmpClassifyReply reply request.id request.seq
    if verdict ≠ .ok ∧ verdict ≠ .notEcho then false
    else if request.peer = source then decide (verdict = .ok)
    else false
  | .inet6 =>
    if request.peer ≠ source then false
    else icmp6ReplyMatches reply request.id request.seq !dgram

/-- An echo reply without its IP header. -/
def IsEchoMessage4 (bytes : List UInt8) (id seq : Word) : Prop :=
  ∃ (c₁ c₂ : UInt8) (body : List UInt8),
    bytes = [ICMP_ECHOREPLY, 0, c₁, c₂, id.1, id.2, seq.1, seq.2] ++ body

/-- The datagram is the echo reply of the device to the request. -/
def IcmpRequest.IsAnsweredBy (request : IcmpRequest) (dgram : Bool) (reply source : List UInt8) :
    Prop :=
  source = request.peer ∧
    match request.family, dgram with
    | .inet, false => IsEchoReply4 reply request.id request.seq
    | .inet, true => ∃ id, IsEchoMessage4 reply id request.seq
    | .inet6, false => IsEchoReply6 reply request.id request.seq
    | .inet6, true => ∃ id, IsEchoReply6 reply id request.seq

section Reply

variable {reply source : List UInt8} {seq : Word}

theorem spineIcmpClassifyDgramReply_eq_ok_iff :
    spineIcmpClassifyDgramReply reply seq = .ok ↔ ∃ id, IsEchoMessage4 reply id seq := by
  unfold spineIcmpClassifyDgramReply
  constructor
  · intro h
    split_ifs at h with hshort hecho hseq
    simp only [not_or, not_not] at hecho hseq
    have hlength : 0 + 8 ≤ reply.length := by
      simp only [ICMP_HDR_SIZE] at hshort
      omega
    have hbytes := eq_take_eight_drop hlength
    obtain rfl : wordAt reply 6 = seq := hseq
    simp only [Nat.zero_add, hecho.1, hecho.2, List.take_zero, List.nil_append] at hbytes
    exact ⟨(byteAt reply 4, byteAt reply 5), _, _, _, hbytes⟩
  · rintro ⟨id, c₁, c₂, body, rfl⟩
    rw [if_neg (by simp [ICMP_HDR_SIZE]), if_neg (by simp [byteAt, ICMP_ECHOREPLY]),
      if_neg (by simp [wordAt, byteAt])]

/-- Without the test of the id, the id is whatever the reply has. -/
theorem icmp6ReplyMatches_unchecked_iff {id : Word} :
    icmp6ReplyMatches reply id seq false = true ↔ ∃ id', IsEchoReply6 reply id' seq := by
  have hown : icmp6ReplyMatches reply id seq false =
      icmp6ReplyMatches reply (wordAt reply 4) seq true := by
    unfold icmp6ReplyMatches
    simp
  constructor
  · intro h
    rw [hown] at h
    exact ⟨_, icmp6ReplyMatches_iff.1 h⟩
  · rintro ⟨id', h⟩
    have hid : wordAt reply 4 = id' := by
      obtain ⟨code, c₁, c₂, rest, rfl⟩ := h
      rfl
    rw [hown, hid]
    exact icmp6ReplyMatches_iff.2 h

theorem icmpJudges_iff {request : IcmpRequest} {dgram : Bool} :
    icmpJudges request dgram reply source = true ↔ request.IsAnsweredBy dgram reply source := by
  obtain ⟨family, peer, id, seq⟩ := request
  unfold icmpJudges IcmpRequest.IsAnsweredBy
  cases family with
  | inet =>
    have htests : ∀ verdict : IcmpReply,
        (if verdict ≠ .ok ∧ verdict ≠ .notEcho then false
          else if peer = source then decide (verdict = .ok) else false) = true ↔
          source = peer ∧ verdict = .ok := by
      intro verdict
      cases verdict <;> simp [eq_comm]
    dsimp only
    rw [htests]
    cases dgram with
    | false => rw [if_neg (by decide), spineIcmpClassifyReply_eq_ok_iff]
    | true => rw [if_pos rfl, spineIcmpClassifyDgramReply_eq_ok_iff]
  | inet6 =>
    have hpeer : ∀ matched : Bool, (if peer ≠ source then false else matched) = true ↔
        source = peer ∧ matched = true := by
      intro matched
      by_cases h : peer = source
      · simp [h]
      · simp [h, Ne.symm h]
    dsimp only
    rw [hpeer]
    cases dgram with
    | false => exact and_congr_right fun _ => icmp6ReplyMatches_iff
    | true => exact and_congr_right fun _ => icmp6ReplyMatches_unchecked_iff

end Reply

/-! ## One attempt -/

/-- What `recvfrom` returns. -/
inductive RecvAnswer where
  | interrupted
  | failed
  | datagram (reply source : List UInt8)
  deriving DecidableEq

/-- What `select` returns, with the datagram that is read then. -/
inductive ListenAnswer where
  | interrupted
  | failed
  | quiet
  | readable (received : RecvAnswer)
  deriving DecidableEq

/-- One pass from `keep_listening` on.  `elapsed` is `total_time` after `select`, in
milliseconds since the attempt began. -/
structure ListenPass where
  select : ListenAnswer
  elapsed : ℚ

/-- What an attempt meets: whether `sendto` succeeds, what the threads do up to the
return of `icmp_shared_await`, and the passes of the receive loop. -/
structure EchoAttempt where
  sent : Bool
  awaited : (request : IcmpRequest) → SharedAwait request
  passes : List ListenPass

/-- What settles a probe: a reply, or a descriptor that `select` cannot watch. -/
inductive EchoEnd where
  | alive (elapsed : ℚ)
  | unwatchable
  deriving DecidableEq

/-- The loop behind `keep_listening`.  An attempt is lost when `select` times out or
fails, when the time is over and when `recvfrom` fails. -/
def echoListen (request : IcmpRequest) (dgram : Bool) (timeout : ℚ) :
    List ListenPass → Option (Verdict EchoEnd)
  | [] => none
  | pass :: passes =>
    match pass.select with
    | .interrupted => echoListen request dgram timeout passes
    | .failed => some .again
    | .quiet => some .again
    | .readable received =>
      if pass.elapsed < timeout then
        match received with
        | .interrupted => echoListen request dgram timeout passes
        | .failed => some .again
        | .datagram reply source =>
          if icmpJudges request dgram reply source then some (.done (.alive pass.elapsed))
          else echoListen request dgram timeout passes
      else some .again

/-- A pass that is skipped: an interrupted call, or a datagram in time that is not the
reply. -/
def ListenPass.noise (request : IcmpRequest) (dgram : Bool) (timeout : ℚ) (pass : ListenPass) :
    Bool :=
  match pass.select with
  | .interrupted => true
  | .readable .interrupted => decide (pass.elapsed < timeout)
  | .readable (.datagram reply source) =>
    decide (pass.elapsed < timeout) && !icmpJudges request dgram reply source
  | _ => false

section Listen

variable {request : IcmpRequest} {dgram : Bool} {timeout : ℚ} {pass : ListenPass}
  {passes : List ListenPass}

theorem noise_datagram (reply source : List UInt8) (elapsed : ℚ) :
    ListenPass.noise request dgram timeout ⟨.readable (.datagram reply source), elapsed⟩ =
      (decide (elapsed < timeout) && !icmpJudges request dgram reply source) := rfl

theorem echoListen_cons_noise (h : pass.noise request dgram timeout = true) :
    echoListen request dgram timeout (pass :: passes) =
      echoListen request dgram timeout passes := by
  obtain ⟨select, elapsed⟩ := pass
  unfold ListenPass.noise at h
  rw [echoListen]
  split at h
  · rename_i hselect
    rw [hselect]
  · rename_i hselect
    rw [hselect]
    dsimp only
    rw [if_pos (of_decide_eq_true h)]
  · rename_i reply source hselect
    obtain ⟨htime, hother⟩ := Bool.and_eq_true_iff.1 h
    rw [hselect]
    dsimp only
    rw [if_pos (of_decide_eq_true htime), if_neg (by simpa using hother)]
  · cases h

/-- A pass that is not skipped decides, whatever comes after it. -/
theorem echoListen_cons_of_not_noise (h : pass.noise request dgram timeout = false)
    (passes : List ListenPass) :
    ∃ verdict, echoListen request dgram timeout (pass :: passes) = some verdict ∧
      (verdict = .again ∨ ∃ reply source,
        pass.select = .readable (.datagram reply source) ∧ pass.elapsed < timeout ∧
          icmpJudges request dgram reply source = true ∧
            verdict = .done (.alive pass.elapsed)) := by
  obtain ⟨select, elapsed⟩ := pass
  rw [echoListen]
  cases select with
  | interrupted => cases h
  | failed => exact ⟨_, rfl, Or.inl rfl⟩
  | quiet => exact ⟨_, rfl, Or.inl rfl⟩
  | readable received =>
    dsimp only
    by_cases htime : elapsed < timeout
    · rw [if_pos htime]
      cases received with
      | interrupted =>
        rw [ListenPass.noise, decide_eq_true htime] at h
        cases h
      | failed => exact ⟨_, rfl, Or.inl rfl⟩
      | datagram reply source =>
        cases hjudges : icmpJudges request dgram reply source with
        | true => exact ⟨_, if_pos hjudges, Or.inr ⟨reply, source, rfl, htime, hjudges, rfl⟩⟩
        | false =>
          rw [noise_datagram, decide_eq_true htime, hjudges] at h
          cases h
    · rw [if_neg htime]
      exact ⟨_, rfl, Or.inl rfl⟩

/-- What is skipped can be left out. -/
theorem echoListen_filter (passes : List ListenPass) :
    echoListen request dgram timeout
        (passes.filter fun pass => !pass.noise request dgram timeout) =
      echoListen request dgram timeout passes := by
  induction passes with
  | nil => rfl
  | cons pass passes ih =>
    cases hnoise : pass.noise request dgram timeout with
    | true => rw [List.filter_cons_of_neg (by simp [hnoise]), ih, echoListen_cons_noise hnoise]
    | false =>
      rw [List.filter_cons_of_pos (by simp [hnoise]), echoListen, echoListen, ih]

/-- An attempt is settled by the reply to its request, in time, behind noise only. -/
theorem echoListen_eq_done_iff {result : EchoEnd} :
    echoListen request dgram timeout passes = some (.done result) ↔
      ∃ skipped reply source elapsed rest,
        passes = skipped ++ ⟨.readable (.datagram reply source), elapsed⟩ :: rest ∧
          (∀ pass ∈ skipped, pass.noise request dgram timeout = true) ∧ elapsed < timeout ∧
            request.IsAnsweredBy dgram reply source ∧ result = .alive elapsed := by
  induction passes with
  | nil => simp [echoListen]
  | cons pass passes ih =>
    cases hnoise : pass.noise request dgram timeout with
    | true =>
      rw [echoListen_cons_noise hnoise, ih]
      constructor
      · rintro ⟨skipped, reply, source, elapsed, rest, rfl, hskipped, hrest⟩
        refine ⟨pass :: skipped, reply, source, elapsed, rest, rfl, ?_, hrest⟩
        rintro x (_ | ⟨_, hx⟩)
        · exact hnoise
        · exact hskipped x hx
      · rintro ⟨skipped, reply, source, elapsed, rest, hsplit, hskipped, htime, hanswer, hresult⟩
        cases skipped with
        | nil =>
          obtain rfl : pass = _ := (List.cons.inj hsplit).1
          rw [noise_datagram, icmpJudges_iff.2 hanswer, Bool.not_true, Bool.and_false] at hnoise
          cases hnoise
        | cons x skipped =>
          exact ⟨skipped, reply, source, elapsed, rest, (List.cons.inj hsplit).2,
            fun y hy => hskipped y (List.mem_cons_of_mem x hy), htime, hanswer, hresult⟩
    | false =>
      obtain ⟨verdict, hlisten, hverdict⟩ := echoListen_cons_of_not_noise hnoise passes
      rw [hlisten]
      constructor
      · intro h
        obtain rfl := Option.some.inj h
        obtain hagain | ⟨reply, source, hselect, htime, hjudges, hdone⟩ := hverdict
        · cases hagain
        · refine ⟨[], reply, source, pass.elapsed, passes, ?_, List.forall_mem_nil _, htime,
            icmpJudges_iff.1 hjudges, ?_⟩
          · rw [← hselect]
            rfl
          · cases hdone
            rfl
      · rintro ⟨skipped, reply, source, elapsed, rest, hsplit, hskipped, htime, hanswer, rfl⟩
        cases skipped with
        | nil =>
          obtain rfl : pass = _ := (List.cons.inj hsplit).1
          rw [← hlisten, echoListen]
          dsimp only
          rw [if_pos htime, if_pos (icmpJudges_iff.2 hanswer)]
        | cons x skipped =>
          obtain rfl : pass = x := (List.cons.inj hsplit).1
          rw [hskipped pass List.mem_cons_self] at hnoise
          cases hnoise

/-- An attempt ends if a pass of it decides. -/
theorem echoListen_isSome (h : ∃ pass ∈ passes, pass.noise request dgram timeout = false) :
    (echoListen request dgram timeout passes).isSome := by
  obtain ⟨pass, hmem, hpass⟩ := h
  induction passes with
  | nil => cases hmem
  | cons x passes ih =>
    cases hnoise : x.noise request dgram timeout with
    | true =>
      rw [echoListen_cons_noise hnoise]
      rcases List.mem_cons.1 hmem with rfl | hmem
      · rw [hpass] at hnoise
        cases hnoise
      · exact ih hmem
    | false =>
      obtain ⟨verdict, hlisten, -⟩ := echoListen_cons_of_not_noise hnoise passes
      rw [hlisten]
      rfl

end Listen

/-! ## The probe -/

/-- The socket of a probe: one that it opened, or the shared one. -/
inductive EchoSocket where
  | own (fd : Nat) (dgram : Bool)
  | shared
  deriving DecidableEq, Repr

/-- What a probe holds. -/
inductive EchoHeld where
  | socket
  | packet
  | waiter
  deriving DecidableEq, Repr

/-- A call of `ping_icmp` or `ping_icmp_ipv6` and the answers that it gets: the sockets
that can be opened, one entry for each try of a raw one, and the resolved address. -/
structure EchoCall where
  family : Family
  hostname : Text
  timeout : Int
  retries : Int
  id : Word
  seq : Word
  datagramSocket : Option Nat
  sharedSocket : Bool
  rawSockets : List (Option Nat)
  address : Option (List UInt8)
  attempts : List EchoAttempt

/-- What a probe leaves in `ping_t` and returns, with the number of requests and the
log of what it held. -/
structure ProbeRun (ρ : Type) where
  up : Bool
  pingStatus : Text
  pingResponse : Text
  sends : Nat
  log : List (Event ρ)
  deriving DecidableEq, Repr

namespace EchoCall

variable (call : EchoCall)

def label : Text :=
  match call.family with
  | .inet => lit "ICMP"
  | .inet6 => lit "ICMPv6"

/-- A datagram socket, else the shared one, else a raw one in five tries. -/
def openSocket : Option (Option EchoSocket) :=
  match call.datagramSocket with
  | some fd => some (some (.own fd true))
  | none =>
    if call.sharedSocket then some (some .shared)
    else
      (run (fun fd : Option Nat => some ((fd.map Verdict.done).getD .again)) 5
        call.rawSockets).map fun opened => opened.1.map (.own · false)

/-- One turn of the outer loop.  Only `ping_icmp_ipv6` looks at what `sendto` returned
before it listens on a socket of its own. -/
def attempt (socket : EchoSocket) (address : List UInt8) (a : EchoAttempt) :
    Option (Verdict EchoEnd) :=
  match socket with
  | .shared =>
    let awaited := a.awaited ⟨call.family, address, call.id, call.seq⟩
    if a.sent && awaited.answered then some (.done (.alive awaited.elapsed)) else some .again
  | .own fd dgram =>
    if call.family = .inet6 ∧ !a.sent then some .again
    else if FD_SETSIZE ≤ fd then some (.done .unwatchable)
    else
      echoListen ⟨call.family, address, call.id, call.seq⟩ dgram call.timeout a.passes

/-- `retry_count` goes from zero to `retries`. -/
def limit : Nat := (call.retries + 1).toNat

def down (message : String) (sends : Nat) (log : List (Event EchoHeld)) :
    ProbeRun EchoHeld :=
  ⟨false, lit "down", call.label ++ lit ": " ++ lit message, sends, log⟩

end EchoCall

/-- The variables that `cleanup` reads, with the log so far: whether `icmp_socket` is a
socket of the probe's own, whether `packet` is allocated and whether the waiter is
registered. -/
structure EchoHold where
  own : Bool
  packet : Bool
  waiting : Bool
  log : List (Event EchoHeld)

namespace EchoHold

def opened : EchoSocket → EchoHold
  | .own _ _ => ⟨true, false, false, [.acquire .socket]⟩
  | .shared => ⟨false, false, false, []⟩

def allocate (h : EchoHold) : EchoHold :=
  { h with packet := true, log := h.log ++ [.acquire .packet] }

/-- `icmp_shared_register`, which only a probe on the shared socket calls. -/
def register (h : EchoHold) : EchoHold :=
  if h.own then h else { h with waiting := true, log := h.log ++ [.acquire .waiter] }

/-- The code behind `cleanup`. -/
def cleanup (h : EchoHold) : List (Event EchoHeld) :=
  h.log ++ (if h.packet then [.release .packet] else []) ++
    (if h.waiting then [.release .waiter] else []) ++ (if h.own then [.release .socket] else [])

end EchoHold

/-- What follows the loop, for what settled it and the number of requests.  `print` is
the conversion of the time. -/
def EchoCall.conclude (print : ℚ → Text) (call : EchoCall) (hold : EchoHold)
    (r : Option EchoEnd × ℕ) : ProbeRun EchoHeld :=
  match r.1 with
  | none => call.down "Ping timed out" r.2 hold.cleanup
  | some .unwatchable => call.down "fd exceeds FD_SETSIZE" r.2 hold.cleanup
  | some (.alive elapsed) =>
    ⟨true, snprintfS 50 (print elapsed), call.label ++ lit ": Device is Alive", r.2, hold.cleanup⟩

/-- `ping_icmp` and `ping_icmp_ipv6`. -/
def pingEcho (print : ℚ → Text) (call : EchoCall) : Option (ProbeRun EchoHeld) :=
  match call.openSocket with
  | none => none
  | some none =>
    some (call.down ("Ping unable to create " ++
      (match call.family with | .inet => "ICMP" | .inet6 => "ICMPv6") ++ " Socket") 0 [])
  | some (some socket) =>
    let hold := (EchoHold.opened socket).allocate
    if call.hostname.isEmpty then
      some (call.down "Destination address not specified" 0 hold.cleanup)
    else
      match call.address with
      | none => some (call.down "Destination hostname invalid" 0 hold.cleanup)
      | some address =>
        (run (call.attempt socket address) call.limit call.attempts).map
          (call.conclude print hold.register)

/-! ### What a probe holds -/

namespace EchoHold

variable {h : EchoHold}

/-- What is held. -/
def items (h : EchoHold) : List EchoHeld :=
  (if h.packet then [.packet] else []) ++ (if h.waiting then [.waiter] else []) ++
    (if h.own then [.socket] else [])

/-- The log has the acquisitions of what is held, in some order, and nothing else. -/
def Recorded (h : EchoHold) : Prop :=
  ∃ acquired : List EchoHeld, h.log = acquired.map .acquire ∧ acquired.Perm h.items

theorem items_nodup (h : EchoHold) : h.items.Nodup := by
  obtain ⟨own, packet, waiting, log⟩ := h
  cases own <;> cases packet <;> cases waiting <;> simp [items]

theorem recorded_opened (socket : EchoSocket) : (opened socket).Recorded := by
  cases socket with
  | own fd dgram => exact ⟨[.socket], rfl, .refl _⟩
  | shared => exact ⟨[], rfl, .refl _⟩

theorem Recorded.allocate (hrec : h.Recorded) (hfree : h.packet = false) :
    h.allocate.Recorded := by
  obtain ⟨acquired, hlog, hperm⟩ := hrec
  refine ⟨acquired ++ [.packet], by simp [EchoHold.allocate, hlog], ?_⟩
  have hitems : h.allocate.items = .packet :: h.items := by
    unfold items
    rw [hfree]
    rfl
  rw [hitems]
  exact (List.perm_append_singleton _ _).trans (hperm.cons _)

theorem Recorded.register (hrec : h.Recorded) (hfree : h.waiting = false) :
    h.register.Recorded := by
  unfold EchoHold.register
  split
  · exact hrec
  · rename_i hown
    obtain ⟨acquired, hlog, hperm⟩ := hrec
    refine ⟨acquired ++ [.waiter], by simp [hlog], ?_⟩
    have hitems : items { h with waiting := true, log := h.log ++ [.acquire .waiter] } =
        h.items ++ [.waiter] := by simp [items, hfree, hown]
    rw [hitems]
    exact hperm.append_right _

theorem cleanup_eq (h : EchoHold) : h.cleanup = h.log ++ h.items.map .release := by
  obtain ⟨own, packet, waiting, log⟩ := h
  cases own <;> cases packet <;> cases waiting <;> simp [cleanup, items]

/-- `cleanup` releases what is held, once, and nothing else. -/
theorem Recorded.balanced (hrec : h.Recorded) : Balanced h.cleanup := by
  obtain ⟨acquired, hlog, hperm⟩ := hrec
  rw [cleanup_eq, hlog]
  refine Leaves.balanced (leaves_of_perm (hperm.nodup_iff.2 h.items_nodup) ?_)
  rw [List.append_nil]
  exact hperm

theorem recorded_allocate_opened (socket : EchoSocket) : (opened socket).allocate.Recorded :=
  (recorded_opened socket).allocate (by cases socket <;> rfl)

theorem recorded_register_opened (socket : EchoSocket) :
    (opened socket).allocate.register.Recorded :=
  (recorded_allocate_opened socket).register (by cases socket <;> rfl)

end EchoHold

section Probe

variable {call : EchoCall} {socket : EchoSocket} {address : List UInt8} {a : EchoAttempt}
  {print : ℚ → Text} {result : ProbeRun EchoHeld} {hold : EchoHold}

/-- The reply to the request in this attempt: read by some thread from the shared socket
before `icmp_shared_await` returns, or in time from one's own, behind noise only. -/
def EchoCall.Answered (call : EchoCall) (socket : EchoSocket) (address : List UInt8)
    (a : EchoAttempt) (elapsed : ℚ) : Prop :=
  match socket with
  | .shared =>
    a.sent = true ∧ (a.awaited ⟨call.family, address, call.id, call.seq⟩).Replied ∧
      (a.awaited ⟨call.family, address, call.id, call.seq⟩).elapsed = elapsed
  | .own fd dgram =>
    fd < FD_SETSIZE ∧ (call.family = .inet6 → a.sent = true) ∧ elapsed < call.timeout ∧
      ∃ skipped reply source rest,
        a.passes = skipped ++ ⟨.readable (.datagram reply source), elapsed⟩ :: rest ∧
          (∀ pass ∈ skipped, pass.noise ⟨call.family, address, call.id, call.seq⟩ dgram
            call.timeout = true) ∧
          IcmpRequest.IsAnsweredBy ⟨call.family, address, call.id, call.seq⟩ dgram reply source

theorem attempt_eq_alive_iff {elapsed : ℚ} :
    call.attempt socket address a = some (.done (.alive elapsed)) ↔
      call.Answered socket address a elapsed := by
  unfold EchoCall.attempt EchoCall.Answered
  cases socket with
  | shared =>
    dsimp only
    rw [← SharedAwait.answered_iff, ← and_assoc, ← Bool.and_eq_true]
    split
    · rename_i hanswered
      simp [hanswered]
    · rename_i hlost
      simp [hlost]
  | own fd dgram =>
    dsimp only
    by_cases hsent : call.family = .inet6 ∧ (!a.sent) = true
    · rw [if_pos hsent]
      constructor
      · intro h
        cases h
      · rintro ⟨-, hsend, -⟩
        rw [hsend hsent.1] at hsent
        cases hsent.2
    · have hsend : call.family = .inet6 → a.sent = true := fun hfamily => by
        simpa [hfamily] using hsent
      rw [if_neg hsent]
      by_cases hfd : FD_SETSIZE ≤ fd
      · rw [if_pos hfd]
        constructor
        · intro h
          cases h
        · rintro ⟨hlt, -⟩
          exact absurd hfd (Nat.not_le.2 hlt)
      · rw [if_neg hfd, echoListen_eq_done_iff]
        constructor
        · rintro ⟨skipped, reply, source, elapsed', rest, hpasses, hskipped, htime, hanswer, h⟩
          cases h
          exact ⟨Nat.not_le.1 hfd, hsend, htime, skipped, reply, source, rest, hpasses, hskipped,
            hanswer⟩
        · rintro ⟨-, -, htime, skipped, reply, source, rest, hpasses, hskipped, hanswer⟩
          exact ⟨skipped, reply, source, elapsed, rest, hpasses, hskipped, htime, hanswer, rfl⟩

theorem pingEcho_eq_map (hsocket : call.openSocket = some (some socket))
    (hname : call.hostname ≠ []) (haddress : call.address = some address) :
    pingEcho print call = (run (call.attempt socket address) call.limit call.attempts).map
      (call.conclude print (EchoHold.opened socket).allocate.register) := by
  unfold pingEcho
  rw [hsocket]
  dsimp only
  rw [if_neg (by simpa using hname), haddress]

theorem conclude_sends (r : Option EchoEnd × ℕ) : (call.conclude print hold r).sends = r.2 := by
  obtain ⟨_ | ⟨_ | _⟩, count⟩ := r <;> rfl

theorem conclude_log (r : Option EchoEnd × ℕ) :
    (call.conclude print hold r).log = hold.cleanup := by
  obtain ⟨_ | ⟨_ | _⟩, count⟩ := r <;> rfl

theorem conclude_up_iff (r : Option EchoEnd × ℕ) :
    (call.conclude print hold r).up = true ↔ ∃ elapsed, r.1 = some (.alive elapsed) := by
  obtain ⟨_ | ⟨elapsed | _⟩, count⟩ := r
  · exact iff_of_false (fun h => by cases h) fun ⟨_, h⟩ => by cases h
  · exact iff_of_true rfl ⟨elapsed, rfl⟩
  · exact iff_of_false (fun h => by cases h) fun ⟨_, h⟩ => by cases h

/-- Other attempts that come to the same give the same probe. -/
theorem pingEcho_congr {attempts : List EchoAttempt}
    (h : ∀ socket address, call.openSocket = some (some socket) → call.address = some address →
      run (call.attempt socket address) call.limit attempts =
        run (call.attempt socket address) call.limit call.attempts) :
    pingEcho print { call with attempts := attempts } = pingEcho print call := by
  have hopen : EchoCall.openSocket { call with attempts := attempts } = call.openSocket := rfl
  unfold pingEcho
  rw [hopen]
  cases hsocket : call.openSocket with
  | none => rfl
  | some opened =>
    cases opened with
    | none => rfl
    | some socket =>
      dsimp only
      cases haddress : call.address with
      | none => rfl
      | some address =>
        dsimp only
        split
        · rfl
        · exact congrArg (Option.map (call.conclude print _)) (h socket address hsocket haddress)

/-- A probe that returns ended before its attempts, or after a run of them. -/
theorem pingEcho_cases (h : pingEcho print call = some result) :
    (result.up = false ∧ result.sends = 0 ∧ Balanced result.log) ∨
      ∃ socket address r, call.openSocket = some (some socket) ∧ call.hostname ≠ [] ∧
        call.address = some address ∧
          run (call.attempt socket address) call.limit call.attempts = some r ∧
            result = call.conclude print (EchoHold.opened socket).allocate.register r := by
  unfold pingEcho at h
  split at h
  · cases h
  · cases h
    exact Or.inl ⟨rfl, rfl, fun r => Or.inl rfl⟩
  · rename_i socket hsocket
    split at h
    · cases h
      exact Or.inl ⟨rfl, rfl, (EchoHold.recorded_allocate_opened socket).balanced⟩
    · rename_i hname
      split at h
      · cases h
        exact Or.inl ⟨rfl, rfl, (EchoHold.recorded_allocate_opened socket).balanced⟩
      · rename_i address haddress
        obtain ⟨r, hrun, hconclude⟩ := Option.map_eq_some_iff.1 h
        exact Or.inr ⟨socket, address, r, hsocket, by simpa using hname, haddress, hrun,
          hconclude.symm⟩

end Probe

/-- The echo reply to the request of this probe, from the address of the device and
in an attempt that is made. -/
def EchoCall.Alive (call : EchoCall) : Prop :=
  ∃ socket address a elapsed, call.openSocket = some (some socket) ∧ call.hostname ≠ [] ∧
    call.address = some address ∧
    Reached (call.attempt socket address) call.limit call.attempts a ∧
    call.Answered socket address a elapsed

/-- A device is reported as up exactly for such a reply. -/
theorem pingEcho_up_iff (print : ℚ → Text) (call : EchoCall) :
    (∃ result, pingEcho print call = some result ∧ result.up = true) ↔ call.Alive := by
  constructor
  · rintro ⟨result, hresult, hup⟩
    obtain ⟨hdown, -⟩ | ⟨socket, address, r, hsocket, hname, haddress, hrun, rfl⟩ :=
      pingEcho_cases hresult
    · rw [hdown] at hup
      cases hup
    obtain ⟨elapsed, halive⟩ := (conclude_up_iff r).1 hup
    obtain ⟨ending, count⟩ := r
    obtain rfl : ending = some (.alive elapsed) := halive
    obtain ⟨a, hreached, hdone⟩ := exists_run_eq_done_iff.1 ⟨count, hrun⟩
    exact ⟨socket, address, a, elapsed, hsocket, hname, haddress, hreached,
      attempt_eq_alive_iff.1 hdone⟩
  · rintro ⟨socket, address, a, elapsed, hsocket, hname, haddress, hreached, hanswered⟩
    obtain ⟨count, hrun⟩ := exists_run_eq_done_iff.2
      ⟨a, hreached, attempt_eq_alive_iff.2 hanswered⟩
    rw [pingEcho_eq_map hsocket hname haddress, hrun]
    exact ⟨_, rfl, (conclude_up_iff _).2 ⟨elapsed, rfl⟩⟩

/-- The call without the interrupted calls and without the datagrams that are no reply
to its request. -/
def EchoCall.quieted (call : EchoCall) : EchoCall :=
  match call.openSocket, call.address with
  | some (some (.own _ dgram)), some address =>
    { call with
      attempts := call.attempts.map fun a =>
        { a with
          passes := a.passes.filter fun pass =>
            !pass.noise ⟨call.family, address, call.id, call.seq⟩ dgram call.timeout } }
  | _, _ => call

/-- No number of foreign datagrams and of signals changes what a probe finds, how
often it asks or what it holds. -/
theorem pingEcho_quieted (print : ℚ → Text) (call : EchoCall) :
    pingEcho print call.quieted = pingEcho print call := by
  unfold EchoCall.quieted
  split
  · rename_i fd dgram address hsocket haddress
    have hattempt : ∀ a : EchoAttempt, call.attempt (.own fd dgram) address
        { a with
          passes := a.passes.filter fun pass =>
            !pass.noise ⟨call.family, address, call.id, call.seq⟩ dgram call.timeout } =
          call.attempt (.own fd dgram) address a := by
      intro a
      unfold EchoCall.attempt
      dsimp only
      rw [echoListen_filter]
    refine pingEcho_congr fun socket address' hopen hresolved => ?_
    rw [hsocket] at hopen
    rw [haddress] at hresolved
    cases hopen
    cases hresolved
    exact run_map fun a _ => hattempt a
  · rfl

/-- A pass that ends an attempt: `select` timed out or failed, or the time is over. -/
def ListenPass.Over (timeout : ℚ) (pass : ListenPass) : Prop :=
  pass.select = .quiet ∨ pass.select = .failed ∨
    ∃ received, pass.select = .readable received ∧ timeout ≤ pass.elapsed

theorem ListenPass.Over.not_noise {request : IcmpRequest} {dgram : Bool} {timeout : ℚ}
    {pass : ListenPass} (h : pass.Over timeout) : pass.noise request dgram timeout = false := by
  unfold ListenPass.noise
  rcases h with h | h | ⟨received, h, htime⟩
  · rw [h]
  · rw [h]
  · rw [h]
    have hlate : ¬ pass.elapsed < timeout := not_lt.2 htime
    cases received with
    | interrupted => exact decide_eq_false hlate
    | failed => rfl
    | datagram reply source =>
      show (decide (pass.elapsed < timeout) && _) = false
      rw [decide_eq_false hlate, Bool.false_and]

/-- If the time of every attempt passes at last, a probe returns.  It has sent no more
than one request and its retries, and it has released what it held. -/
theorem pingEcho_ends (print : ℚ → Text) (call : EchoCall) (hraw : 5 ≤ call.rawSockets.length)
    (hattempts : call.retries < call.attempts.length)
    (hover : ∀ a ∈ call.attempts, ∃ pass ∈ a.passes, pass.Over call.timeout) :
    ∃ result, pingEcho print call = some result ∧ Balanced result.log ∧
      (result.sends : Int) ≤ max 0 (call.retries + 1) := by
  have hopen : call.openSocket.isSome := by
    unfold EchoCall.openSocket
    split
    · rfl
    · split
      · rfl
      · rw [Option.isSome_map]
        exact run_isSome hraw fun _ _ => rfl
  have hlimit : call.limit ≤ call.attempts.length := by
    unfold EchoCall.limit
    omega
  have hanswered : ∀ socket address, ∀ a ∈ call.attempts,
      (call.attempt socket address a).isSome := by
    intro socket address a ha
    unfold EchoCall.attempt
    split
    · dsimp only
      split <;> rfl
    · split
      · rfl
      · split
        · rfl
        · obtain ⟨pass, hpass, hends⟩ := hover a ha
          exact echoListen_isSome ⟨pass, hpass, hends.not_noise⟩
  have hreturns : ∃ result, pingEcho print call = some result := by
    obtain ⟨opened, hopened⟩ := Option.isSome_iff_exists.1 hopen
    unfold pingEcho
    rw [hopened]
    cases opened with
    | none => exact ⟨_, rfl⟩
    | some socket =>
      dsimp only
      split
      · exact ⟨_, rfl⟩
      · split
        · exact ⟨_, rfl⟩
        · rename_i address _
          rw [← Option.isSome_iff_exists, Option.isSome_map]
          exact run_isSome hlimit (hanswered socket address)
  obtain ⟨result, hresult⟩ := hreturns
  refine ⟨result, hresult, ?_⟩
  obtain ⟨-, hsends, hlog⟩ | ⟨socket, address, r, -, -, -, hrun, rfl⟩ := pingEcho_cases hresult
  · rw [hsends]
    exact ⟨hlog, le_max_left _ _⟩
  · rw [conclude_log, conclude_sends]
    refine ⟨(EchoHold.recorded_register_opened socket).balanced, ?_⟩
    have hcount := run_count_le hrun
    unfold EchoCall.limit at hcount
    omega

/-- A device that does not answer, behind the reply of another one. -/
private def silentCall : EchoCall where
  family := .inet
  hostname := lit "router"
  timeout := 400
  retries := 1
  id := (1, 2)
  seq := (0, 7)
  datagramSocket := none
  sharedSocket := false
  rawSockets := [none, some 5, none, none, none]
  address := some [10, 0, 0, 1]
  attempts := List.replicate 2
    ⟨true, SharedAwait.silent, [⟨.readable (.datagram [1, 2, 3] [10, 0, 0, 2]), 3⟩, ⟨.quiet, 400⟩]⟩

theorem pingEcho_ends_silent :
    ∃ result, pingEcho (fun _ => []) silentCall = some result ∧ Balanced result.log ∧
      (result.sends : Int) ≤ 2 :=
  pingEcho_ends (fun _ => []) silentCall (by decide) (by decide)
    (fun a ha => ⟨⟨.quiet, 400⟩, by rw [List.eq_of_mem_replicate ha]; simp, Or.inl rfl⟩)

end Spine
