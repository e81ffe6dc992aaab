import Spine.Ping.SharedReplies

/-!
# A probe that waits on a shared socket

`ping_icmp` and `ping_icmp_ipv6` register one waiter and call `icmp_shared_await` in each
attempt.  Meanwhile the other threads of the poller register, read and leave, so the
reply may be read by any of them.

* `FirstFor` says whose reply a datagram is when several waiters have the same request.
  `answered_dispatchBatch_iff` says when a batch answers a waiter.
* `run_answered_iff` follows a waiter over a run of all threads: it is answered when a
  datagram of the run has reached it.
* `SharedAwait` is a run from the registration of a waiter to the return of a call of
  `icmp_shared_await`, and `SharedAwait.answered_iff` says what the call returns.
-/

namespace Spine

/-! ## The datagram that reaches a waiter -/

section Datagrams

variable {ι : Type*} [DecidableEq ι] {s : IcmpTable ι} {t : ι} {request : IcmpRequest}
  {family : Family} {d : Datagram}

/-- The thread's waiter is the first unanswered one with the request. -/
def FirstFor (s : IcmpTable ι) (t : ι) (request : IcmpRequest) : Prop :=
  (s.waiters.find? fun u => !(s.waiter u).answered && (s.waiter u).request == request) = some t

omit [DecidableEq ι] in
/-- The waiters that accept an answer to a request are the unanswered ones with it. -/
theorem accepts_eq_open (hanswers : Answers d request) :
    (fun u => (s.waiter u).accepts request.family d.source (d.bytes.take ICMP_SHARED_SNAPLEN)) =
      fun u => !(s.waiter u).answered && (s.waiter u).request == request := by
  funext u
  rw [Bool.eq_iff_iff, accepts_iff, Bool.and_eq_true, Bool.not_eq_true', beq_iff_eq]
  constructor
  · rintro ⟨hfamily, hopen, hother⟩
    exact ⟨hopen, hother.unique hanswers hfamily⟩
  · rintro ⟨hopen, hsame⟩
    refine ⟨?_, hopen, hsame ▸ hanswers⟩
    rw [IcmpWaiter.family, hsame]

/-- A waiter is answered when it was before, or by an answer that it is the first for. -/
theorem answered_dispatch_iff (hrequest : (s.waiter t).request = request) :
    ((icmpSharedDispatch family s d).waiter t).answered = true ↔
      (s.waiter t).answered = true ∨
        request.family = family ∧ Answers d request ∧ FirstFor s t request := by
  constructor
  · intro hafter
    unfold icmpSharedDispatch at hafter
    dsimp only at hafter
    split at hafter
    · exact Or.inl hafter
    · split at hafter
      · exact Or.inl hafter
      · rename_i v hfind
        by_cases htv : t = v
        · subst htv
          have haccepts := List.find?_some hfind
          obtain ⟨hfamily, -, hanswers⟩ := accepts_iff.1 haccepts
          rw [hrequest] at hanswers
          obtain rfl : request.family = family := by
            rw [← hrequest]
            exact hfamily
          refine Or.inr ⟨rfl, hanswers, ?_⟩
          rw [accepts_eq_open hanswers] at hfind
          exact hfind
        · rw [mark_waiter_of_ne s d htv] at hafter
          exact Or.inl hafter
  · rintro (hbefore | ⟨rfl, hanswers, hfirst⟩)
    · exact answered_of_dispatch hbefore
    · unfold icmpSharedDispatch
      dsimp only
      rw [if_neg hanswers.take_length_ne_zero, accepts_eq_open hanswers, hfirst]
      dsimp only
      rw [mark_waiter_self]

/-- A place in a list with a head is the head or a place in the rest. -/
theorem exists_split_cons {α : Type*} {P : List α → α → Prop} {a : α} {l : List α} :
    (∃ before x after, a :: l = before ++ x :: after ∧ P before x) ↔
      P [] a ∨ ∃ before x after, l = before ++ x :: after ∧ P (a :: before) x := by
  constructor
  · rintro ⟨before, x, after, hsplit, h⟩
    cases before with
    | nil =>
      cases hsplit
      exact Or.inl h
    | cons b before =>
      cases hsplit
      exact Or.inr ⟨before, x, after, rfl, h⟩
  · rintro (h | ⟨before, x, after, rfl, h⟩)
    · exact ⟨[], a, l, rfl, h⟩
    · exact ⟨a :: before, x, after, rfl, h⟩

/-- A batch answers a waiter with one of its datagrams. -/
theorem answered_dispatchBatch_iff (hrequest : (s.waiter t).request = request)
    (batch : List Datagram) :
    ((dispatchBatch family s batch).waiter t).answered = true ↔
      (s.waiter t).answered = true ∨
        ∃ before d after, batch = before ++ d :: after ∧ request.family = family ∧
          Answers d request ∧ FirstFor (dispatchBatch family s before) t request := by
  induction batch generalizing s with
  | nil => simp [dispatchBatch]
  | cons d batch ih =>
    have hnext : ((icmpSharedDispatch family s d).waiter t).request = request :=
      ((onlyMarks_dispatch s d).request t).trans hrequest
    show ((dispatchBatch family (icmpSharedDispatch family s d) batch).waiter t).answered = true ↔ _
    rw [ih hnext, answered_dispatch_iff hrequest, exists_split_cons, or_assoc]
    rfl

end Datagrams

/-! ## A waiter over a run -/

section Runs

variable {ι : Type*} [DecidableEq ι] {s s' : IcmpTable ι} {t u : ι} {a : IcmpAction}
  {l l' : IcmpThread} {request : IcmpRequest}

/-- A thread dispatches, from the socket of the request, a datagram that answers the
request, and the waiter of thread `t` is the first one for it. -/
def ReachedBy (t : ι) (request : IcmpRequest)
    (c : Base.Interleaving.Config ι (IcmpTable ι) IcmpThread) (e : ι × IcmpAction) : Prop :=
  ∃ before d after more, e.2 = .dispatch (before ++ d :: after) more ∧
    request.family = (c.shared.waiter e.1).family ∧ Answers d request ∧
    FirstFor (dispatchBatch request.family c.shared before) t request

/-- Such a datagram is dispatched in the course of a trace. -/
def ReachedIn (t : ι) (request : IcmpRequest)
    (start : Base.Interleaving.Config ι (IcmpTable ι) IcmpThread)
    (trace : List (ι × IcmpAction)) : Prop :=
  ∃ before e after, trace = before ++ e :: after ∧
    ∃ c, Base.Interleaving.run icmpStep start before = some c ∧ ReachedBy t request c e

theorem reachedIn_cons_iff {c c' : Base.Interleaving.Config ι (IcmpTable ι) IcmpThread}
    {e : ι × IcmpAction} {trace : List (ι × IcmpAction)}
    (hstep : Base.Interleaving.stepAt icmpStep c e = some c') :
    ReachedIn t request c (e :: trace) ↔
      ReachedBy t request c e ∨ ReachedIn t request c' trace := by
  unfold ReachedIn
  rw [exists_split_cons]
  refine or_congr ⟨?_, fun h => ⟨c, rfl, h⟩⟩ ?_
  · rintro ⟨_, hrun, h⟩
    cases hrun
    exact h
  · simp only [Base.Interleaving.run, hstep, Option.bind_some]

/-- One section of any thread, for a waiter that is registered. -/
theorem step_answered_iff {c c' : Base.Interleaving.Config ι (IcmpTable ι) IcmpThread}
    {e : ι × IcmpAction} (hstep : Base.Interleaving.stepAt icmpStep c e = some c')
    (hstays : e ≠ (t, .unregister)) (hlocal : c.locals t ≠ .idle)
    (hrequest : (c.shared.waiter t).request = request) :
    c'.locals t ≠ .idle ∧ (c'.shared.waiter t).request = request ∧
      ((c'.shared.waiter t).answered = true ↔
        (c.shared.waiter t).answered = true ∨ ReachedBy t request c e) := by
  obtain ⟨v, action⟩ := e
  obtain ⟨⟨table, next⟩, hicmp, rfl⟩ := Option.map_eq_some_iff.1 hstep
  have hnext : (v = t → next ≠ .idle) → Function.update c.locals v next t ≠ .idle := by
    intro hself
    by_cases htv : t = v
    · subst htv
      rw [Function.update_self]
      exact hself rfl
    · rw [Function.update_of_ne htv]
      exact hlocal
  dsimp only at hicmp ⊢
  rcases icmpStep_cases hicmp with ⟨request', hidle, rfl, rfl⟩ |
    ⟨batch, more, drained, rfl, rfl, rfl⟩ | ⟨hother, hsection⟩
  · -- Another thread registers.
    have htv : t ≠ v := fun h => hlocal (h ▸ hidle)
    have hwaiter : (icmpSharedRegister v request' c.shared).waiter t = c.shared.waiter t :=
      Function.update_of_ne htv _ _
    have haction : ∀ batch more, action ≠ .dispatch batch more := by
      rintro batch more rfl
      rw [hidle] at hicmp
      cases hicmp
    rw [hwaiter]
    refine ⟨hnext nofun, hrequest, (or_iff_left ?_).symm⟩
    rintro ⟨before, d, after, more, hdispatch, -⟩
    exact haction _ more hdispatch
  · refine ⟨hnext nofun, ((onlyMarks_dispatchBatch _ batch).request t).trans hrequest, ?_⟩
    rw [answered_dispatchBatch_iff hrequest]
    refine or_congr_right ⟨?_, ?_⟩
    · rintro ⟨before, d, after, rfl, hfamily, hanswers, hfirst⟩
      exact ⟨before, d, after, more, rfl, hfamily, hanswers, hfamily ▸ hfirst⟩
    · rintro ⟨before, d, after, more', hbatch, hfamily, hanswers, hfirst⟩
      cases hbatch
      exact ⟨before, d, after, rfl, hfamily, hanswers, hfamily ▸ hfirst⟩
  · refine ⟨hnext ?_, (hsection.same.request t).trans hrequest, ?_⟩
    · rintro rfl hidle
      exact hstays (by rw [hsection.left hidle])
    · rw [hsection.same.answered]
      refine (or_iff_left ?_).symm
      rintro ⟨before, d, after, more, hdispatch, -⟩
      exact hother _ more hdispatch

/-- A registered waiter over a run of all threads. -/
theorem run_answered_iff {c c' : Base.Interleaving.Config ι (IcmpTable ι) IcmpThread}
    {trace : List (ι × IcmpAction)} (hrun : Base.Interleaving.run icmpStep c trace = some c')
    (hstays : (t, .unregister) ∉ trace) (hlocal : c.locals t ≠ .idle)
    (hrequest : (c.shared.waiter t).request = request) :
    (c'.shared.waiter t).answered = true ↔
      (c.shared.waiter t).answered = true ∨ ReachedIn t request c trace := by
  induction trace generalizing c with
  | nil =>
    cases hrun
    refine (or_iff_left ?_).symm
    rintro ⟨before, e, after, hsplit, -⟩
    exact List.append_ne_nil_of_right_ne_nil before (List.cons_ne_nil e after) hsplit.symm
  | cons e trace ih =>
    obtain ⟨d, hstep, hrest⟩ := Base.Interleaving.run_cons_eq_some hrun
    have hhead : e ≠ (t, .unregister) := fun h => hstays (h ▸ List.mem_cons_self)
    have htail : (t, .unregister) ∉ trace := fun h => hstays (List.mem_cons_of_mem _ h)
    obtain ⟨hlocal', hrequest', hanswered⟩ := step_answered_iff hstep hhead hlocal hrequest
    rw [ih hrest htail hlocal' hrequest', hanswered, reachedIn_cons_iff hstep, or_assoc]

end Runs

/-! ## A call of `icmp_shared_await` -/

/-- A run of the poller's threads from the registration of a waiter to the return of a
call of `icmp_shared_await` for it, with what the call returns. -/
structure SharedAwait (request : IcmpRequest) where
  thread : ℕ
  /-- Before the registration. -/
  start : Base.Interleaving.Config ℕ (IcmpTable ℕ) IcmpThread
  /-- What all threads do between the registration and the section that returns. -/
  trace : List (ℕ × IcmpAction)
  last : Base.Interleaving.Config ℕ (IcmpTable ℕ) IcmpThread
  returns : IcmpAction
  answered : Bool
  /-- `total_time` then, in milliseconds since the attempt began. -/
  elapsed : ℚ
  stays : (thread, .unregister) ∉ trace
  runs : Base.Interleaving.run icmpStep start ((thread, .register request) :: trace) = some last
  ends : (icmpStep thread returns last.shared (last.locals thread)).map Prod.snd =
    some (.registered (some answered))

namespace SharedAwait

variable {request : IcmpRequest}

/-- The table after the registration. -/
def opened (w : SharedAwait request) : Base.Interleaving.Config ℕ (IcmpTable ℕ) IcmpThread where
  shared := icmpSharedRegister w.thread request w.start.shared
  locals := Function.update w.start.locals w.thread (.registered none)

/-- A thread has read the reply to the request, and no other waiter was there for it. -/
def Replied (w : SharedAwait request) : Prop :=
  ReachedIn w.thread request w.opened w.trace

theorem run_opened (w : SharedAwait request) :
    Base.Interleaving.run icmpStep w.opened w.trace = some w.last := by
  obtain ⟨c, hstep, hrun⟩ := Base.Interleaving.run_cons_eq_some w.runs
  obtain ⟨⟨table, next⟩, hicmp, rfl⟩ := Option.map_eq_some_iff.1 hstep
  dsimp only at hicmp
  generalize w.start.locals w.thread = l at hicmp
  cases l with
  | idle =>
    cases hicmp
    exact hrun
  | _ => cases hicmp

/-- The call returns `TRUE` when a reply has reached the waiter, also after the deadline
of the call. -/
theorem answered_iff (w : SharedAwait request) : w.answered = true ↔ w.Replied := by
  have hself : w.opened.shared.waiter w.thread =
      ⟨request, false, false, false, w.start.shared.nextTicket⟩ := Function.update_self _ _ _
  have hlocal : w.opened.locals w.thread = .registered none := Function.update_self _ _ _
  obtain ⟨⟨table, next⟩, hstep, hreturned⟩ := Option.map_eq_some_iff.1 w.ends
  have hmark : w.answered = (w.last.shared.waiter w.thread).answered := by
    rcases icmpStep_cases hstep with ⟨_, -, -, hnext⟩ | ⟨_, _, _, -, hnext, -⟩ | ⟨-, hsection⟩
    · cases hnext.symm.trans hreturned
    · cases hnext.symm.trans hreturned
    · exact hsection.returned hreturned
  rw [hmark, run_answered_iff w.run_opened w.stays (by rw [hlocal]; nofun)
    (by rw [hself]), hself]
  exact or_iff_right (by nofun)

/-- A thread alone whose call finds the deadline passed. -/
def silent (request : IcmpRequest) : SharedAwait request :=
  let table : IcmpTable ℕ := ⟨[], fun _ => ⟨request, false, false, false, 0⟩, fun _ => false, 0, []⟩
  { thread := 0
    start := ⟨table, fun _ => .idle⟩
    trace := []
    last := ⟨icmpSharedRegister 0 request table,
      Function.update (fun _ => .idle) 0 (.registered none)⟩
    returns := .await true
    answered := false
    elapsed := 0
    stays := List.not_mem_nil
    runs := rfl
    ends := by simp [icmpStep, awaitLoop, icmpSharedRegister] }

end SharedAwait

end Spine
