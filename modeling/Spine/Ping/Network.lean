import Spine.Ping.Echo

/-!
# Which probe a device gets, and what makes it answer

`ping_network` looks at the name of a device and at its addresses and then asks it
with an echo request, a datagram or a connection.

* Datagrams.  `pingUdp` sends the marker until something comes back.  An error that
  the network returns counts as an answer.
* Connections.  `pingTcp` connects.  A refused connection counts only for the method
  that asks for a closed port.
* The choice.  `getAddressType` reads the addresses, and `pingNetwork` is the whole.
  `pingNetwork_up_iff` lists everything that makes a device count as up.
-/

namespace Spine

open Base.Attempts Base.CString Base.Ledger

/-- What a probe is told of a device by `availability`. -/
structure ProbeTarget where
  hostname : Text
  port : Int
  timeout : Int
  retries : Int
  deriving DecidableEq, Repr

/-- The probes of a transport make one attempt and their retries. -/
def ProbeTarget.limit (target : ProbeTarget) : Nat := (target.retries + 1).toNat

/-- `ping_down`. -/
def pingDown {ρ : Type} (message : String) (sends : Nat) (log : List (Event ρ)) : ProbeRun ρ :=
  ⟨false, lit "down", snprintfS SMALL_BUFSIZE (lit message), sends, log⟩

/-! ## The address -/

/-- What `getaddrinfo` returns: an address, an empty list, a failure that may pass, or
another one. -/
inductive ResolveAnswer where
  | found (address : List UInt8)
  | empty
  | again
  | failed
  deriving DecidableEq, Repr

def ResolveAnswer.verdict : ResolveAnswer → Verdict (Option (List UInt8))
  | .found address => .done (some address)
  | .empty => .done none
  | .again => .again
  | .failed => .done none

/-- `init_sockaddr`: the address if there is one.  A failure that may pass is met with
three more tries. -/
def initSockaddr (port : Int) (answers : List ResolveAnswer) : Option (Option (List UInt8)) :=
  if port < 0 ∨ 65535 < port then some none
  else (run (fun answer => some (ResolveAnswer.verdict answer)) 4 answers).map fun r => r.1.join

/-- What `ping_udp` and `ping_tcp` do before their attempts, with the names of their
messages.  `unready` is the one for a timeout or retries that leave no attempt. -/
def probeTransport {ρ : Type} (name unready : String) (target : ProbeTarget)
    (resolve : List ResolveAnswer) (probe : Option (ProbeRun ρ)) : Option (ProbeRun ρ) :=
  if target.hostname.isEmpty then
    some (pingDown (name ++ ": Destination address invalid or unable to create socket") 0 [])
  else
    match initSockaddr target.port resolve with
    | none => none
    | some none => some (pingDown (name ++ ": Destination hostname invalid") 0 [])
    | some (some _) =>
      if target.timeout ≤ 0 ∨ target.retries < 0 then some (pingDown unready 0 []) else probe

/-! ## Datagrams -/

/-- What `recv` returns. -/
inductive UdpReceived where
  | data
  | unreachable
  | reset
  | refused
  | interrupted
  | again
  | failed
  deriving DecidableEq, Repr

/-- What `spine_wait_readable` or `spine_wait_writable` returns. -/
inductive ReadyAnswer (ε : Type) where
  | ready
  | timedOut
  | failed (error : ε)
  deriving DecidableEq, Repr

/-- What `send` returns.  After an interruption the clock is read. -/
inductive UdpSent where
  | sent (bytes : Nat)
  | interrupted (late : Bool)
  | failed
  deriving DecidableEq, Repr

/-- The value of `ping_udp_response`. -/
inductive UdpResult where
  | responded
  | silent
  | failed
  deriving DecidableEq, Repr

/-- What one attempt meets. -/
structure UdpAttempt where
  sends : List UdpSent
  passes : List (ReadyAnswer Unit × UdpReceived)
  elapsed : ℚ

def udpRequest : Text := lit "cacti-monitoring-system"

/-- The loop around `send`: whether the whole request was sent. -/
def udpSend : List UdpSent → Option Bool
  | [] => none
  | .sent bytes :: _ => some (decide (bytes = udpRequest.length))
  | .failed :: _ => some false
  | .interrupted late :: answers => if late then some false else udpSend answers

/-- `ping_udp_response`. -/
def pingUdpResponse : List (ReadyAnswer Unit × UdpReceived) → Option UdpResult
  | [] => none
  | (.timedOut, _) :: _ => some .silent
  | (.failed _, _) :: _ => some .failed
  | (.ready, received) :: passes =>
    match received with
    | .data => some .responded
    | .unreachable => some .responded
    | .reset => some .responded
    | .refused => some .responded
    | .interrupted => pingUdpResponse passes
    | .again => pingUdpResponse passes
    | .failed => some .failed

/-- One turn of the loop of `ping_udp`: the time if the device answered, and nothing if
it is given up at once. -/
def udpAttempt (a : UdpAttempt) : Option (Verdict (Option ℚ)) :=
  match udpSend a.sends with
  | none => none
  | some false => some (.done none)
  | some true =>
    (pingUdpResponse a.passes).map fun result =>
      match result with
      | .responded => .done (some a.elapsed)
      | .silent => .again
      | .failed => .done none

/-- A call of `ping_udp` and its answers. -/
structure UdpCall where
  target : ProbeTarget
  resolve : List ResolveAnswer
  opens : Bool
  connects : Bool
  attempts : List UdpAttempt

/-- `ping_udp`. -/
def pingUdp (print : ℚ → Text) (call : UdpCall) : Option (ProbeRun Unit) :=
  probeTransport "UDP" "UDP: Ping timed out" call.target call.resolve <|
    if !call.opens then
      some (pingDown "UDP: Destination address invalid or unable to create socket" 0 [])
    else if !call.connects then
      some (pingDown "UDP: Cannot connect to host" 0 [.acquire (), .release ()])
    else
      (run udpAttempt call.target.limit call.attempts).map fun r =>
        match r.1 with
        | some (some elapsed) =>
          ⟨true, snprintfS 50 (print elapsed), lit "UDP: Device is Alive", r.2,
            [.acquire (), .release ()]⟩
        | some none => pingDown "UDP: Device is Down" r.2 [.acquire (), .release ()]
        | none => pingDown "UDP: Ping timed out" r.2 [.acquire (), .release ()]

/-! ## Connections -/

/-- The values of `errno` that are told apart. -/
inductive Errno where
  | connectionRefused
  | inProgress
  | interrupted
  | timedOut
  | other (code : Nat)
  deriving DecidableEq, Repr

/-- What one attempt meets: the errors of `socket`, of `fcntl` and of `connect`, the
wait, and what `getsockopt` returns or reads. -/
structure TcpAttempt where
  socket : Option Errno
  flags : Option Errno
  connect : Option Errno
  wait : ReadyAnswer Errno
  socketError : Except Errno (Option Errno)
  elapsed : ℚ

/-- `ping_tcp_complete`. -/
def pingTcpComplete (a : TcpAttempt) : Option Errno :=
  match a.wait with
  | .timedOut => some .timedOut
  | .failed error => some error
  | .ready =>
    match a.socketError with
    | .error error => some error
    | .ok error => error

/-- `ping_tcp_attempt`. -/
def pingTcpAttempt (a : TcpAttempt) : Option Errno :=
  match a.flags with
  | some error => some error
  | none =>
    match a.connect with
    | none => none
    | some error =>
      if error ≠ .inProgress ∧ error ≠ .interrupted then some error else pingTcpComplete a

/-- `ping_tcp_connect`: no error, or the one that stopped it. -/
def pingTcpConnect (a : TcpAttempt) : Option Errno :=
  match a.socket with
  | some error => some error
  | none => pingTcpAttempt a

/-- The device answered: it took the connection, or it refused it where that counts. -/
def tcpAnswers (closed : Bool) (a : TcpAttempt) : Bool :=
  match pingTcpConnect a with
  | none => true
  | some error => decide (error = .connectionRefused) && closed

/-- A call of `ping_tcp`.  `closed` is `PING_TCP_CLOSED`. -/
structure TcpCall where
  target : ProbeTarget
  closed : Bool
  resolve : List ResolveAnswer
  attempts : List TcpAttempt

/-- The sockets of the first attempts, each closed before the next one is opened. -/
def tcpLog (attempts : List TcpAttempt) : List (Event ℕ) :=
  (attempts.zipIdx.filter fun a => a.1.socket.isNone).flatMap fun a =>
    [.acquire a.2, .release a.2]

/-- One turn of the loop of `ping_tcp`. -/
def tcpAttempt (closed : Bool) (a : TcpAttempt) : Option (Verdict ℚ) :=
  some (if tcpAnswers closed a then .done a.elapsed else .again)

/-- `ping_tcp`. -/
def pingTcp (print : ℚ → Text) (call : TcpCall) : Option (ProbeRun ℕ) :=
  probeTransport "TCP" "TCP: Cannot connect to host" call.target call.resolve <|
    (run (tcpAttempt call.closed) call.target.limit call.attempts).map fun r =>
      match r.1 with
      | some elapsed =>
        ⟨true, snprintfS 50 (print elapsed), lit "TCP: Device is Alive", r.2,
          tcpLog (call.attempts.take r.2)⟩
      | none => pingDown "TCP: Cannot connect to host" r.2 (tcpLog (call.attempts.take r.2))

/-! ## The choice -/

/-- `PING_ICMP`, `PING_UDP`, `PING_TCP` and `PING_TCP_CLOSED`. -/
inductive PingMethod where
  | icmp
  | udp
  | tcp
  | tcpClosed
  | unknown (code : Int)
  deriving DecidableEq, Repr

/-- The family of an entry of `getaddrinfo`. -/
inductive EntryFamily where
  | inet
  | inet6
  | other
  deriving DecidableEq, Repr

/-- `SPINE_NONE`, `SPINE_IPV4` and `SPINE_IPV6`. -/
inductive AddressType where
  | none
  | ipv4
  | ipv6
  deriving DecidableEq, Repr

/-- The loop of `get_address_type`. -/
def addressTypeLoop (addrFound : Bool) : List EntryFamily → AddressType
  | [] => if addrFound then .ipv6 else .none
  | .inet :: _ => .ipv4
  | .inet6 :: entries => addressTypeLoop true entries
  | .other :: entries => addressTypeLoop addrFound entries

/-- `get_address_type`, with the entries if `getaddrinfo` returns any. -/
def getAddressType : Option (List EntryFamily) → AddressType
  | none => .none
  | some entries => addressTypeLoop false entries

/-- A call of `ping_network` with the probes that it may make and their answers. -/
structure NetworkCall where
  method : PingMethod
  icmpAvail : Bool
  haveIcmpv6 : Bool
  hostname : Text
  entries : Option (List EntryFamily)
  echo4 : EchoCall
  echo6 : EchoCall
  udp : UdpCall
  tcp : Bool → TcpCall
  echo4_family : echo4.family = .inet
  echo6_family : echo6.family = .inet6
  tcp_closed : ∀ closed, (tcp closed).closed = closed

/-- The method after the fallback. -/
def NetworkCall.effectiveMethod (call : NetworkCall) : PingMethod :=
  if call.method = .icmp ∧ !call.icmpAvail then .udp else call.method

/-- `ping_network`: whether the device is up. -/
def pingNetwork (print : ℚ → Text) (call : NetworkCall) : Option Bool :=
  let method := call.effectiveMethod
  if strstr call.hostname (lit "localhost") then some true
  else
    let addressType := getAddressType call.entries
    if call.haveIcmpv6 ∧ addressType = .ipv6 ∧ method = .icmp then
      (pingEcho print call.echo6).map ProbeRun.up
    else if addressType ≠ .ipv4 then some false
    else
      match method with
      | .icmp => (pingEcho print call.echo4).map ProbeRun.up
      | .udp => (pingUdp print call.udp).map ProbeRun.up
      | .tcp => (pingTcp print (call.tcp false)).map ProbeRun.up
      | .tcpClosed => (pingTcp print (call.tcp true)).map ProbeRun.up
      | .unknown _ => some false

/-! ## What makes a device answer -/

/-- A probe of a transport can begin. -/
structure ProbeTarget.Ready (target : ProbeTarget) (resolve : List ResolveAnswer) : Prop where
  hostname : target.hostname ≠ []
  address : ∃ address, initSockaddr target.port resolve = some (some address)
  timeout : 0 < target.timeout
  retries : 0 ≤ target.retries

/-- What counts as an answer to a datagram. -/
def UdpReceived.counts : UdpReceived → Bool
  | .data | .unreachable | .reset | .refused => true
  | _ => false

/-- The request was sent and something came back for it. -/
def UdpAttempt.Answered (a : UdpAttempt) : Prop :=
  udpSend a.sends = some true ∧ ∃ skipped received rest,
    a.passes = skipped ++ (.ready, received) :: rest ∧ received.counts = true ∧
      ∀ pass ∈ skipped, pass.1 = .ready ∧ (pass.2 = .interrupted ∨ pass.2 = .again)

def UdpCall.Alive (call : UdpCall) : Prop :=
  call.target.Ready call.resolve ∧ call.opens = true ∧ call.connects = true ∧
    ∃ a, Reached udpAttempt call.target.limit call.attempts a ∧ a.Answered

/-- The connection was made, or it was refused and that is asked for. -/
def TcpCall.Alive (call : TcpCall) : Prop :=
  call.target.Ready call.resolve ∧ ∃ a ∈ call.attempts.take call.target.limit,
    pingTcpConnect a = none ∨
      pingTcpConnect a = some .connectionRefused ∧ call.closed = true

section Alive

variable {print : ℚ → Text}

theorem addressTypeLoop_eq (addrFound : Bool) (entries : List EntryFamily) :
    addressTypeLoop addrFound entries =
      if .inet ∈ entries then .ipv4
      else if addrFound = true ∨ .inet6 ∈ entries then .ipv6 else .none := by
  induction entries generalizing addrFound with
  | nil => cases addrFound <;> rfl
  | cons entry entries ih =>
    cases entry with
    | inet => simp [addressTypeLoop]
    | inet6 => simp [addressTypeLoop, ih]
    | other => simp [addressTypeLoop, ih]

/-- The passes before the answer were interrupted. -/
theorem pingUdpResponse_eq_responded_iff {passes : List (ReadyAnswer Unit × UdpReceived)} :
    pingUdpResponse passes = some .responded ↔ ∃ skipped received rest,
      passes = skipped ++ (.ready, received) :: rest ∧ received.counts = true ∧
        ∀ pass ∈ skipped, pass.1 = .ready ∧ (pass.2 = .interrupted ∨ pass.2 = .again) := by
  constructor
  · intro h
    fun_induction pingUdpResponse passes with
    | case1 => cases h
    | case2 => cases h
    | case3 => cases h
    | case4 passes => exact ⟨[], .data, passes, rfl, rfl, List.forall_mem_nil _⟩
    | case5 passes => exact ⟨[], .unreachable, passes, rfl, rfl, List.forall_mem_nil _⟩
    | case6 passes => exact ⟨[], .reset, passes, rfl, rfl, List.forall_mem_nil _⟩
    | case7 passes => exact ⟨[], .refused, passes, rfl, rfl, List.forall_mem_nil _⟩
    | case8 passes ih =>
      obtain ⟨skipped, received, rest, rfl, hcounts, hskipped⟩ := ih h
      refine ⟨(.ready, .interrupted) :: skipped, received, rest, rfl, hcounts, ?_⟩
      rintro pass (_ | ⟨_, hpass⟩)
      · exact ⟨rfl, Or.inl rfl⟩
      · exact hskipped pass hpass
    | case9 passes ih =>
      obtain ⟨skipped, received, rest, rfl, hcounts, hskipped⟩ := ih h
      refine ⟨(.ready, .again) :: skipped, received, rest, rfl, hcounts, ?_⟩
      rintro pass (_ | ⟨_, hpass⟩)
      · exact ⟨rfl, Or.inr rfl⟩
      · exact hskipped pass hpass
    | case10 => cases h
  · rintro ⟨skipped, received, rest, rfl, hcounts, hskipped⟩
    induction skipped with
    | nil =>
      cases received <;> first | rfl | cases hcounts
    | cons pass skipped ih =>
      obtain ⟨wait, skippedReceived⟩ := pass
      obtain ⟨rfl, hreceived⟩ := hskipped _ List.mem_cons_self
      have hrest := ih fun x hx => hskipped x (List.mem_cons_of_mem _ hx)
      rcases hreceived with rfl | rfl
      · exact hrest
      · exact hrest

theorem udpAttempt_answered_iff {a : UdpAttempt} :
    (∃ elapsed, udpAttempt a = some (.done (some elapsed))) ↔ a.Answered := by
  unfold UdpAttempt.Answered
  rw [← pingUdpResponse_eq_responded_iff]
  unfold udpAttempt
  cases hsend : udpSend a.sends with
  | none => simp
  | some sent =>
    cases sent with
    | false => simp
    | true =>
      cases hresponse : pingUdpResponse a.passes with
      | none => simp
      | some result => cases result <;> simp

theorem probeTransport_up_iff {ρ : Type} {name unready : String} {target : ProbeTarget}
    {resolve : List ResolveAnswer} {probe : Option (ProbeRun ρ)} :
    (probeTransport name unready target resolve probe).map ProbeRun.up = some true ↔
      target.Ready resolve ∧ probe.map ProbeRun.up = some true := by
  have hready : target.Ready resolve ↔ target.hostname ≠ [] ∧
      (∃ address, initSockaddr target.port resolve = some (some address)) ∧
        ¬ (target.timeout ≤ 0 ∨ target.retries < 0) := by
    rw [not_or, not_le, not_lt]
    exact ⟨fun h => ⟨h.hostname, h.address, h.timeout, h.retries⟩,
      fun h => ⟨h.1, h.2.1, h.2.2.1, h.2.2.2⟩⟩
  rw [hready]
  unfold probeTransport
  by_cases hname : target.hostname = []
  · simp [hname, pingDown]
  rw [if_neg (by simpa using hname)]
  cases hresolve : initSockaddr target.port resolve with
  | none => simp
  | some address =>
    cases address with
    | none => simp [pingDown]
    | some address =>
      by_cases hrange : target.timeout ≤ 0 ∨ target.retries < 0
      · simp [hrange, pingDown]
      · simp [hrange, hname]

theorem pingUdp_up_iff (call : UdpCall) :
    (∃ result, pingUdp print call = some result ∧ result.up = true) ↔ call.Alive := by
  rw [← Option.map_eq_some_iff]
  unfold pingUdp UdpCall.Alive
  rw [probeTransport_up_iff]
  refine and_congr_right fun _ => ?_
  cases call.opens with
  | false => simp [pingDown]
  | true =>
    cases call.connects with
    | false => simp [pingDown]
    | true =>
      rw [if_neg (by simp), if_neg (by simp), Option.map_map, Option.map_eq_some_iff]
      constructor
      · rintro ⟨⟨result, count⟩, hrun, hup⟩
        obtain _ | _ | elapsed := result
        · cases hup
        · cases hup
        · obtain ⟨a, hreached, hdone⟩ := exists_run_eq_done_iff.1 ⟨count, hrun⟩
          exact ⟨rfl, rfl, a, hreached, udpAttempt_answered_iff.1 ⟨elapsed, hdone⟩⟩
      · rintro ⟨-, -, a, hreached, hanswered⟩
        obtain ⟨elapsed, hdone⟩ := udpAttempt_answered_iff.2 hanswered
        obtain ⟨count, hrun⟩ := exists_run_eq_done_iff.2 ⟨a, hreached, hdone⟩
        exact ⟨_, hrun, rfl⟩

theorem tcpAttempt_done_iff {closed : Bool} {a : TcpAttempt} :
    (∃ elapsed, tcpAttempt closed a = some (.done elapsed)) ↔
      pingTcpConnect a = none ∨ pingTcpConnect a = some .connectionRefused ∧ closed = true := by
  unfold tcpAttempt tcpAnswers
  cases pingTcpConnect a with
  | none => simp
  | some error =>
    by_cases h : error = .connectionRefused ∧ closed = true
    · simp [h.1, h.2]
    · simp [h]

theorem pingTcp_up_iff (call : TcpCall) :
    (∃ result, pingTcp print call = some result ∧ result.up = true) ↔ call.Alive := by
  rw [← Option.map_eq_some_iff]
  unfold pingTcp TcpCall.Alive
  rw [probeTransport_up_iff]
  refine and_congr_right fun _ => ?_
  have hreached : (∃ a elapsed, Reached (tcpAttempt call.closed) call.target.limit
      call.attempts a ∧ tcpAttempt call.closed a = some (.done elapsed)) ↔
        ∃ a ∈ call.attempts.take call.target.limit, ∃ elapsed,
          tcpAttempt call.closed a = some (.done elapsed) :=
    exists_reached_iff fun _ _ => rfl
  rw [Option.map_map, Option.map_eq_some_iff]
  constructor
  · rintro ⟨⟨result, count⟩, hrun, hup⟩
    cases result with
    | none => cases hup
    | some elapsed =>
      obtain ⟨a, hmade, hdone⟩ := exists_run_eq_done_iff.1 ⟨count, hrun⟩
      obtain ⟨a', hmem, hdone'⟩ := hreached.1 ⟨a, elapsed, hmade, hdone⟩
      exact ⟨a', hmem, tcpAttempt_done_iff.1 hdone'⟩
  · rintro ⟨a, hmem, hanswers⟩
    obtain ⟨a', elapsed, hmade, hdone⟩ := hreached.2 ⟨a, hmem, tcpAttempt_done_iff.2 hanswers⟩
    obtain ⟨count, hrun⟩ := exists_run_eq_done_iff.2 ⟨a', hmade, hdone⟩
    exact ⟨_, hrun, rfl⟩

end Alive

/-- Everything that makes a device count as up: a name with `localhost` in it, or the
answer to the probe of its method.  A device without an IPv4 address is only ever
asked with an ICMPv6 echo request, and one whose method is ICMP is asked with
datagrams when there is no socket for echo requests. -/
theorem pingNetwork_up_iff (print : ℚ → Text) (call : NetworkCall) :
    pingNetwork print call = some true ↔
      strstr call.hostname (lit "localhost") = true ∨
      ∃ entries, call.entries = some entries ∧
        ((.inet ∉ entries ∧ .inet6 ∈ entries ∧ call.haveIcmpv6 = true ∧ call.method = .icmp ∧
            call.icmpAvail = true ∧ call.echo6.Alive) ∨
          (.inet ∈ entries ∧
            ((call.method = .icmp ∧ call.icmpAvail = true ∧ call.echo4.Alive) ∨
              ((call.method = .udp ∨ call.method = .icmp ∧ call.icmpAvail = false) ∧
                call.udp.Alive) ∨
              (call.method = .tcp ∧ (call.tcp false).Alive) ∨
              (call.method = .tcpClosed ∧ (call.tcp true).Alive)))) := by
  unfold pingNetwork
  dsimp only
  by_cases hlocal : strstr call.hostname (lit "localhost") = true
  · rw [if_pos hlocal]
    exact iff_of_true rfl (Or.inl hlocal)
  rw [if_neg hlocal, or_iff_right hlocal]
  cases hentries : call.entries with
  | none =>
    have hnone : getAddressType none ≠ .ipv4 := fun h => by cases h
    rw [if_neg (fun h => by cases h.2.1), if_pos hnone]
    simp
  | some entries =>
    simp only [Option.some.injEq, exists_eq_left']
    have htype : getAddressType (some entries) = _ := addressTypeLoop_eq false entries
    rw [htype]
    unfold NetworkCall.effectiveMethod
    by_cases hinet : EntryFamily.inet ∈ entries
    · -- an IPv4 address is taken whatever the other entries are
      rw [if_pos hinet, if_neg (fun h => by cases h.2.1), if_neg (fun h => h rfl)]
      cases hmethod : call.method <;> cases havail : call.icmpAvail <;>
        simp [hinet, pingEcho_up_iff, pingUdp_up_iff, pingTcp_up_iff]
    · rw [if_neg hinet]
      by_cases hinet6 : EntryFamily.inet6 ∈ entries
      · rw [if_pos (Or.inr hinet6)]
        cases hmethod : call.method <;> cases havail : call.icmpAvail <;>
          cases hhave : call.haveIcmpv6 <;> simp [hinet, hinet6, pingEcho_up_iff]
      · simp [hinet, hinet6]

end Spine
