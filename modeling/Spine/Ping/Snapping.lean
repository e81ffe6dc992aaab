import Spine.Internal.Types
import Spine.Ping.Shared

/-!
# The bytes that the shared reader keeps

`icmp_shared_await` reads each datagram into `ICMP_SHARED_SNAPLEN` bytes, while
`ping_icmp` and `ping_icmp_ipv6` read theirs into `BUFSIZE` bytes of their own.
Neither check looks past the longest IPv4 header with its ICMP header, or past
the ICMPv6 header with the payload marker, so a cut that keeps these bytes
changes no verdict.

* `spineIcmpClassifyReply_take` and `icmp6ReplyMatches_take` are the two checks
  on a datagram that was cut anywhere after these bytes.
* `pingIcmpAccepts` is the test of a thread with a raw socket of its own.
* `icmpSharedDispatch_eq` replaces the test of the shared reader by it.
-/

namespace Spine

/-! ## Cut datagrams -/

/-- A length field of four bits counts words of four bytes. -/
theorem headerLength_le (reply : List UInt8) : headerLength reply ≤ 60 := by
  rw [headerLength_eq]
  omega

theorem headerLength_take {n : Nat} (hn : 0 < n) (reply : List UInt8) :
    headerLength (reply.take n) = headerLength reply := by
  unfold headerLength
  rw [byteAt_take hn]

theorem wordAt_take {bytes : List UInt8} {n i : Nat} (h : i + 1 < n) :
    wordAt (bytes.take n) i = wordAt bytes i := by
  unfold wordAt
  rw [byteAt_take (by omega), byteAt_take h]

/-- The longest header and the ICMP header decide the verdict. -/
theorem spineIcmpClassifyReply_take {n : Nat} (hn : 60 + ICMP_HDR_SIZE ≤ n) (reply : List UInt8)
    (wantId wantSeq : Word) :
    spineIcmpClassifyReply (reply.take n) wantId wantSeq =
      spineIcmpClassifyReply reply wantId wantSeq := by
  by_cases hshort : reply.length ≤ n
  · rw [List.take_of_length_le hshort]
  have hsize : ICMP_HDR_SIZE = 8 := rfl
  have hip : SIZEOF_IP = 20 := rfl
  have hihl := headerLength_le reply
  have hcut : (reply.take n).length = n := by
    rw [List.length_take]
    omega
  -- Both lengths pass both length checks, and every other check reads below the cut.
  have hlength : (reply.take n).length < headerLength reply + ICMP_HDR_SIZE ↔
      reply.length < headerLength reply + ICMP_HDR_SIZE := by
    rw [hcut]
    omega
  have hcutIp : ¬ (reply.take n).length < SIZEOF_IP := by omega
  have hwholeIp : ¬ reply.length < SIZEOF_IP := by omega
  unfold spineIcmpClassifyReply
  dsimp only
  rw [headerLength_take (by omega), if_neg hcutIp, if_neg hwholeIp, byteAt_take (by omega),
    byteAt_take (by omega), byteAt_take (by omega), byteAt_take (by omega),
    wordAt_take (by omega), wordAt_take (by omega)]
  simp only [hlength]

/-- The ICMPv6 header and the payload marker decide whether a reply matches. -/
theorem icmp6ReplyMatches_take {n : Nat} (hn : SIZEOF_ICMP6_HDR + icmp6Payload.length ≤ n)
    (reply : List UInt8) (id seq : Word) (checkId : Bool) :
    icmp6ReplyMatches (reply.take n) id seq checkId = icmp6ReplyMatches reply id seq checkId := by
  by_cases hshort : reply.length ≤ n
  · rw [List.take_of_length_le hshort]
  have hsize : SIZEOF_ICMP6_HDR = 8 := rfl
  have hcut : (reply.take n).length = n := by
    rw [List.length_take]
    omega
  have hpayload : ((reply.take n).drop SIZEOF_ICMP6_HDR).take icmp6Payload.length =
      (reply.drop SIZEOF_ICMP6_HDR).take icmp6Payload.length := by
    rw [List.drop_take, List.take_take, Nat.min_eq_left (by omega)]
  have hcutSize : ¬ (reply.take n).length < SIZEOF_ICMP6_HDR + icmp6Payload.length := by omega
  have hwholeSize : ¬ reply.length < SIZEOF_ICMP6_HDR + icmp6Payload.length := by omega
  unfold icmp6ReplyMatches
  rw [if_neg hcutSize, if_neg hwholeSize, hpayload, byteAt_take (by omega),
    wordAt_take (by omega), wordAt_take (by omega)]

/-! ## A socket of one's own -/

/-- The test of `ping_icmp` and `ping_icmp_ipv6` on a raw socket of their own, for
the first `BUFSIZE` bytes of a datagram. -/
def pingIcmpAccepts (request : IcmpRequest) (d : Datagram) : Bool :=
  let socketReply := d.bytes.take BUFSIZE
  match request.family with
  | .inet =>
    spineIcmpClassifyReply socketReply request.id request.seq == .ok && request.peer == d.source
  | .inet6 =>
    request.peer == d.source && icmp6ReplyMatches socketReply request.id request.seq true

/-- A waiter accepts what its thread would accept on a socket of its own. -/
theorem accepts_eq_pingIcmpAccepts (w : IcmpWaiter) (family : Family) (d : Datagram) :
    w.accepts family d.source (d.bytes.take ICMP_SHARED_SNAPLEN) =
      (w.family == family && !w.answered && pingIcmpAccepts w.request d) := by
  unfold IcmpWaiter.accepts pingIcmpAccepts
  by_cases hfamily : w.family = family
  · have hrequest : w.request.family = family := hfamily
    have hpeer : (d.source == w.request.peer) = (w.request.peer == d.source) := Bool.beq_comm
    dsimp only
    rw [hrequest, hpeer, Bool.and_assoc (_ && _)]
    cases family with
    | inet =>
      dsimp only
      rw [spineIcmpClassifyReply_take (by decide), spineIcmpClassifyReply_take (by decide),
        Bool.and_comm (w.request.peer == d.source)]
    | inet6 =>
      dsimp only
      rw [icmp6ReplyMatches_take (by decide), icmp6ReplyMatches_take (by decide)]
  · have hother : (w.family == family) = false := beq_eq_false_iff_ne.2 hfamily
    simp only [hother, Bool.false_and]

/-- An empty datagram is accepted on no socket. -/
theorem pingIcmpAccepts_nil (request : IcmpRequest) (source : List UInt8) :
    pingIcmpAccepts request ⟨source, []⟩ = false := by
  unfold pingIcmpAccepts
  cases request.family with
  | inet => exact Bool.false_and _
  | inet6 => exact Bool.and_false _

section Dispatch

variable {ι : Type*} [DecidableEq ι]

/-- The waiter that a datagram goes to, by the test of its own thread. -/
def firstAccepting (family : Family) (s : IcmpTable ι) (d : Datagram) : Option ι :=
  s.waiters.find? fun t =>
    (s.waiter t).family == family && !(s.waiter t).answered &&
      pingIcmpAccepts (s.waiter t).request d

theorem icmpSharedDispatch_eq (family : Family) (s : IcmpTable ι) (d : Datagram) :
    icmpSharedDispatch family s d =
      match firstAccepting family s d with
      | none => s
      | some t => s.mark t d := by
  unfold icmpSharedDispatch firstAccepting
  simp only [accepts_eq_pingIcmpAccepts]
  by_cases hempty : (d.bytes.take ICMP_SHARED_SNAPLEN).length = 0
  · -- The reader skips an empty message, and no thread would accept it.
    have hnil : d.bytes = [] := by
      rw [List.length_take, ICMP_SHARED_SNAPLEN] at hempty
      exact List.length_eq_zero_iff.1 (by omega)
    have hd : d = ⟨d.source, []⟩ := by rw [← hnil]
    have hnone : s.waiters.find? (fun t => (s.waiter t).family == family &&
        !(s.waiter t).answered && pingIcmpAccepts (s.waiter t).request d) = none := by
      rw [List.find?_eq_none]
      intro t _
      rw [hd, pingIcmpAccepts_nil, Bool.and_false]
      exact Bool.false_ne_true
    rw [if_pos hempty, hnone]
  · exact if_neg hempty

/-- The first `min(length, 128)` bytes of a datagram get the verdict of the whole
datagram from both checks, and the shared reader gives each datagram to the
waiter whose own thread would accept it. -/
theorem snapping_loses_nothing (bytes : List UInt8) (id seq : Word) :
    spineIcmpClassifyReply (bytes.take (min bytes.length ICMP_SHARED_SNAPLEN)) id seq =
        spineIcmpClassifyReply bytes id seq ∧
      (∀ checkId, icmp6ReplyMatches (bytes.take (min bytes.length ICMP_SHARED_SNAPLEN)) id seq
        checkId = icmp6ReplyMatches bytes id seq checkId) ∧
      ∀ (family : Family) (s : IcmpTable ι) (source : List UInt8),
        icmpSharedDispatch family s ⟨source, bytes⟩ =
          match firstAccepting family s ⟨source, bytes⟩ with
          | none => s
          | some t => s.mark t ⟨source, bytes⟩ := by
  have hcut : bytes.take (min bytes.length ICMP_SHARED_SNAPLEN) =
      bytes.take ICMP_SHARED_SNAPLEN := by
    rw [Nat.min_comm]
    exact List.take_eq_take_min.symm
  rw [hcut]
  refine ⟨spineIcmpClassifyReply_take (by decide) bytes id seq, fun checkId => ?_,
    fun family s source => icmpSharedDispatch_eq family s ⟨source, bytes⟩⟩
  exact icmp6ReplyMatches_take (by decide) bytes id seq checkId

end Dispatch

end Spine
