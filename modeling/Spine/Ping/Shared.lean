import Spine.Base.Interleaving
import Spine.Ping.Replies

/-!
# The shared ICMP sockets

All poller threads share one raw socket for IPv4 and one for IPv6.  A thread
registers a waiter for its echo request.  Whoever waits and finds the socket
idle reads it, dispatches what it reads to the registered waiters, and hands the
socket to a sleeping waiter when it leaves.  `LOCK_ICMP` guards the list of
waiters, the waiters and the two `reading` flags.

A thread's step is one `LOCK_ICMP` section or what it does between two of them,
so the lock is free in every configuration.

* `icmpSharedRegister`, `icmpSharedUnregister`, `icmpSharedHandoff` and
  `icmpSharedDispatch` are the functions of the source.
* `awaitLoop` is the loop of `icmp_shared_await` from its condition to the point
  where the lock is released: it returns, it sleeps, or it starts to read.
* `icmpStep` is the step of a thread.

A waiter is a variable on its thread's stack, so the thread names it, and the
list of waiters is a list of threads.  Its callers set `shared` to the socket of
its `family`.  `signaled` records that `wake` was signalled since the waiter went
to sleep.  `ticket` is the number of its registration, and `marks` lists which
registration was answered by which datagram.  No branch reads the last two.
-/

namespace Spine

variable {ι : Type*}

def ICMP_SHARED_DRAIN_MAX : Nat := 1024

def ICMP_SHARED_BATCH : Nat := 64

/-- The address families. -/
inductive Family where
  | inet
  | inet6
  deriving DecidableEq

/-- What an echo request is matched by. -/
structure IcmpRequest where
  family : Family
  peer : List UInt8
  id : Word
  seq : Word
  deriving DecidableEq

/-- A waiting probe.  The ticket numbers the registrations. -/
structure IcmpWaiter where
  request : IcmpRequest
  answered : Bool
  sleeping : Bool
  signaled : Bool
  ticket : Nat
  deriving DecidableEq

def IcmpWaiter.family (w : IcmpWaiter) : Family := w.request.family

/-- A datagram of a shared socket with its source address. -/
structure Datagram where
  source : List UInt8
  bytes : List UInt8
  deriving DecidableEq

/-- The datagram that answered a registration. -/
structure IcmpMark where
  ticket : Nat
  datagram : Datagram
  deriving DecidableEq

/-- The list of waiters and the flags of the readers, under one lock.  `marks` records
the answers. -/
structure IcmpTable (ι : Type*) where
  waiters : List ι
  waiter : ι → IcmpWaiter
  reading : Family → Bool
  nextTicket : Nat
  marks : List IcmpMark

section Functions

variable [DecidableEq ι]

def IcmpTable.setWaiter (s : IcmpTable ι) (t : ι) (w : IcmpWaiter) : IcmpTable ι :=
  { s with waiter := Function.update s.waiter t w }

def IcmpTable.setReading (s : IcmpTable ι) (family : Family) (reading : Bool) : IcmpTable ι :=
  { s with reading := Function.update s.reading family reading }

/-- `pthread_cond_signal(&waiter->wake)`. -/
def IcmpTable.signal (s : IcmpTable ι) (t : ι) : IcmpTable ι :=
  s.setWaiter t { s.waiter t with signaled := true }

/-- Wake one sleeping waiter of an idle socket. -/
def icmpSharedHandoff (family : Family) (s : IcmpTable ι) : IcmpTable ι :=
  if s.reading family then s
  else
    match s.waiters.find? fun t =>
        (s.waiter t).family == family && (s.waiter t).sleeping && !(s.waiter t).answered with
    | none => s
    | some t => s.signal t

def icmpSharedRegister (t : ι) (request : IcmpRequest) (s : IcmpTable ι) : IcmpTable ι :=
  { s with
    waiters := t :: s.waiters
    waiter := Function.update s.waiter t ⟨request, false, false, false, s.nextTicket⟩
    nextTicket := s.nextTicket + 1 }

def icmpSharedUnregister (t : ι) (s : IcmpTable ι) : IcmpTable ι :=
  icmpSharedHandoff (s.waiter t).family { s with waiters := s.waiters.erase t }

/-- The checks of one waiter in `icmp_shared_dispatch`. -/
def IcmpWaiter.accepts (w : IcmpWaiter) (family : Family) (source reply : List UInt8) : Bool :=
  w.family == family && !w.answered && source == w.request.peer &&
    match family with
    | .inet => spineIcmpClassifyReply reply w.request.id w.request.seq == .ok
    | .inet6 => icmp6ReplyMatches reply w.request.id w.request.seq true

/-- `waiter->answered = TRUE`, with the signal that follows. -/
def IcmpTable.mark (s : IcmpTable ι) (t : ι) (d : Datagram) : IcmpTable ι :=
  { s with
    waiter := Function.update s.waiter t { s.waiter t with answered := true, signaled := true }
    marks := s.marks ++ [⟨(s.waiter t).ticket, d⟩] }

/-- One slot of a batch: an empty message is skipped, and any other goes to the
first waiter it answers. -/
def icmpSharedDispatch (family : Family) (s : IcmpTable ι) (d : Datagram) : IcmpTable ι :=
  let reply := d.bytes.take ICMP_SHARED_SNAPLEN
  if reply.length = 0 then s
  else
    match s.waiters.find? fun t => (s.waiter t).accepts family d.source reply with
    | none => s
    | some t => s.mark t d

def dispatchBatch (family : Family) (s : IcmpTable ι) (batch : List Datagram) : IcmpTable ι :=
  batch.foldl (icmpSharedDispatch family) s

/-! ## The steps of a thread -/

/-- Where a thread is.  `registered` is between two calls, with what
`icmp_shared_await` last returned.  `asleep` is in `pthread_cond_timedwait`, and
`woken` has left it and wants the lock.  `selecting` and `reading` are the part of
the loop without the lock. -/
inductive IcmpThread where
  | idle
  | registered (result : Option Bool)
  | asleep
  | woken
  | selecting
  | reading (drained : Nat) (readable : Bool)
  deriving DecidableEq

/-- Why a wait on the condition ends. -/
inductive WakeCause where
  | signal
  | timeout
  | spurious
  deriving DecidableEq

/-- The loop of `icmp_shared_await` from its condition on, until the lock is
released.  `late` says that the deadline has passed. -/
def awaitLoop (t : ι) (late : Bool) (s : IcmpTable ι) : IcmpTable ι × IcmpThread :=
  let w := s.waiter t
  if w.answered || late then
    (icmpSharedHandoff w.family s, .registered (some w.answered))
  else if s.reading w.family then
    (s.setWaiter t { w with sleeping := true, signaled := false }, .asleep)
  else (s.setReading w.family true, .selecting)

/-- A locked section of a thread, with what it is answered. -/
inductive IcmpAction where
  | register (request : IcmpRequest)
  | unregister
  | await (late : Bool)
  | wake (cause : WakeCause)
  | relock (late : Bool)
  | select (readable : Bool)
  /-- A batch was read, and `more` says that the socket may hold more. -/
  | dispatch (batch : List Datagram) (more : Bool)
  | finish (late : Bool)

def icmpStep : Base.Interleaving.Step ι IcmpAction (IcmpTable ι) IcmpThread
  | t, .register request, s, .idle => some (icmpSharedRegister t request s, .registered none)
  | t, .unregister, s, .registered _ => some (icmpSharedUnregister t s, .idle)
  | t, .await late, s, .registered _ => some (awaitLoop t late s)
  | t, .wake cause, s, .asleep =>
    if cause = .signal ∧ (s.waiter t).signaled = false then none else some (s, .woken)
  | t, .relock late, s, .woken =>
    some (awaitLoop t late (s.setWaiter t { s.waiter t with sleeping := false }))
  | _, .select readable, s, .selecting => some (s, .reading 0 readable)
  | t, .dispatch batch more, s, .reading drained true =>
    if drained < ICMP_SHARED_DRAIN_MAX ∧ batch.length ≤ ICMP_SHARED_BATCH ∧
        (more = true → batch.length = ICMP_SHARED_BATCH) then
      some (dispatchBatch (s.waiter t).family s batch, .reading (drained + batch.length) more)
    else none
  | t, .finish late, s, .reading drained readable =>
    if readable = false ∨ ICMP_SHARED_DRAIN_MAX ≤ drained then
      some (awaitLoop t late (s.setReading (s.waiter t).family false))
    else none
  | _, _, _, _ => none

end Functions

/-- Before the first registration. -/
structure IcmpStart (c : Base.Interleaving.Config ι (IcmpTable ι) IcmpThread) : Prop where
  waiters : c.shared.waiters = []
  reading : ∀ family, c.shared.reading family = false
  marks : c.shared.marks = []
  threads : ∀ t, c.locals t = .idle

end Spine
