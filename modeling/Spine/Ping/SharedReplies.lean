import Spine.Ping.SharedRuns

/-!
# Replies reach the right waiter

* `Answers` says when a datagram answers a request: it comes from the peer and is
  an echo reply with the request's id and sequence number, and over IPv6 also
  with the payload marker.  `accepts_iff` relates it to the checks of
  `icmp_shared_dispatch`.
* `marked_unique`, `marked_of_answers` and `marked_dispatch` are about one datagram.
* `ReplyInv` keeps which registration was answered by which datagram, and
  `icmpShared_replies` is about every run.
-/

namespace Spine

variable {ι : Type*}

/-! ## Answers -/

/-- The datagram is the reply to the request. -/
def Answers (d : Datagram) (r : IcmpRequest) : Prop :=
  d.source = r.peer ∧
    match r.family with
    | .inet => IsEchoReply4 d.bytes r.id r.seq
    | .inet6 => IsEchoReply6 d.bytes r.id r.seq

theorem accepts_iff {w : IcmpWaiter} {family : Family} {d : Datagram} :
    w.accepts family d.source (d.bytes.take ICMP_SHARED_SNAPLEN) = true ↔
      w.family = family ∧ w.answered = false ∧ Answers d w.request := by
  unfold IcmpWaiter.accepts Answers
  simp only [Bool.and_eq_true, beq_iff_eq, Bool.not_eq_true', and_assoc]
  refine and_congr_right fun hfamily => and_congr_right fun _ => and_congr_right fun _ => ?_
  rw [show w.request.family = family from hfamily]
  cases family with
  | inet =>
    show (_ == IcmpReply.ok) = true ↔ _
    rw [beq_iff_eq, spineIcmpClassifyReply_eq_ok_iff, isEchoReply4_take_iff]
  | inet6 =>
    show icmp6ReplyMatches _ _ _ _ = true ↔ _
    rw [icmp6ReplyMatches_iff, isEchoReply6_take_iff]

/-- An answer is never empty, so the slots that are skipped answer nobody. -/
theorem Answers.take_length_ne_zero {d : Datagram} {r : IcmpRequest} (h : Answers d r) :
    (d.bytes.take ICMP_SHARED_SNAPLEN).length ≠ 0 := by
  intro hzero
  have hnil : d.bytes = [] := by
    rcases List.take_eq_nil_iff.mp (List.length_eq_zero_iff.mp hzero) with h0 | hnil
    · cases h0
    · exact hnil
  have hkind := h.2
  rw [hnil] at hkind
  split at hkind
  · exact not_isEchoReply4_nil _ _ hkind
  · exact not_isEchoReply6_nil _ _ hkind

/-- A datagram answers one request of a socket only. -/
theorem Answers.unique {d : Datagram} {r r' : IcmpRequest} (h : Answers d r) (h' : Answers d r')
    (hfamily : r.family = r'.family) : r = r' := by
  obtain ⟨family, peer, id, seq⟩ := r
  obtain ⟨family', peer', id', seq'⟩ := r'
  obtain rfl : family = family' := hfamily
  obtain rfl : peer = peer' := h.1.symm.trans h'.1
  have hfields : id = id' ∧ seq = seq' := by
    cases family with
    | inet => exact IsEchoReply4.unique h.2 h'.2
    | inet6 => exact IsEchoReply6.unique h.2 h'.2
  rw [hfields.1, hfields.2]

/-! ## One datagram -/

/-- The waiter of thread `t` becomes answered between two tables. -/
def Marked (s s' : IcmpTable ι) (t : ι) : Prop :=
  t ∈ s.waiters ∧ (s.waiter t).answered = false ∧ (s'.waiter t).answered = true

/-- The registered unanswered waiters have different requests. -/
def DistinctRequests (s : IcmpTable ι) : Prop :=
  ∀ t ∈ s.waiters, ∀ u ∈ s.waiters, (s.waiter t).answered = false →
    (s.waiter u).answered = false → (s.waiter t).request = (s.waiter u).request → t = u

section Datagrams

variable [DecidableEq ι] {s : IcmpTable ι} {family : Family} {d : Datagram} {t u : ι}

theorem eq_of_marked_mark {v : ι} (h : Marked s (s.mark v d) t) : t = v := by
  by_contra hne
  have hsame := h.2.2
  rw [mark_waiter_of_ne s d hne, h.2.1] at hsame
  cases hsame

/-- What a waiter that a datagram marks has in common with it. -/
theorem marked_dispatch (h : Marked s (icmpSharedDispatch family s d) t) :
    (s.waiter t).family = family ∧ Answers d (s.waiter t).request ∧
      icmpSharedDispatch family s d = s.mark t d := by
  rcases icmpSharedDispatch_cases family s d with ⟨heq, -⟩ | ⟨v, -, haccepts, heq⟩
  · rw [heq] at h
    cases h.2.1.symm.trans h.2.2
  · have htv : t = v := eq_of_marked_mark (heq ▸ h)
    subst htv
    obtain ⟨hfamily, -, hanswers⟩ := accepts_iff.mp haccepts
    exact ⟨hfamily, hanswers, heq⟩

/-- A datagram marks at most one waiter. -/
theorem marked_unique (ht : Marked s (icmpSharedDispatch family s d) t)
    (hu : Marked s (icmpSharedDispatch family s d) u) : t = u := by
  obtain ⟨-, -, heq⟩ := marked_dispatch hu
  exact eq_of_marked_mark (heq ▸ ht)

/-- A datagram that answers a registered unanswered waiter marks it. -/
theorem marked_of_answers (hdistinct : DistinctRequests s) (ht : t ∈ s.waiters)
    (hopen : (s.waiter t).answered = false) (hfamily : (s.waiter t).family = family)
    (hanswers : Answers d (s.waiter t).request) :
    Marked s (icmpSharedDispatch family s d) t := by
  have haccepts := accepts_iff.mpr ⟨hfamily, hopen, hanswers⟩
  rcases icmpSharedDispatch_cases family s d with ⟨-, hempty | hnone⟩ | ⟨v, hv, haccepts', heq⟩
  · exact absurd hempty hanswers.take_length_ne_zero
  · rw [hnone t ht] at haccepts
    cases haccepts
  · obtain ⟨hfamily', hopen', hanswers'⟩ := accepts_iff.mp haccepts'
    have hrequest := hanswers.unique hanswers' (hfamily.trans hfamily'.symm)
    have htv := hdistinct t ht v hv hopen hopen' hrequest
    subst htv
    refine ⟨ht, hopen, ?_⟩
    rw [heq, mark_waiter_self]

theorem answered_of_dispatch (h : (s.waiter t).answered = true) :
    ((icmpSharedDispatch family s d).waiter t).answered = true := by
  rcases icmpSharedDispatch_cases family s d with ⟨heq, -⟩ | ⟨v, -, -, heq⟩
  · rw [heq]
    exact h
  · rw [heq]
    by_cases htv : t = v
    · rw [htv, mark_waiter_self]
    · rw [mark_waiter_of_ne s d htv]
      exact h

theorem DistinctRequests.dispatch (h : DistinctRequests s) (d : Datagram) :
    DistinctRequests (icmpSharedDispatch family s d) := by
  have honly : OnlyMarks family s (icmpSharedDispatch family s d) := onlyMarks_dispatch s d
  have hopen : ∀ x, ((icmpSharedDispatch family s d).waiter x).answered = false →
      (s.waiter x).answered = false := by
    intro x hx
    by_contra hne
    rw [answered_of_dispatch (Bool.not_eq_false _ ▸ hne)] at hx
    cases hx
  intro t ht u hu htopen huopen hrequest
  rw [honly.waiters] at ht hu
  rw [honly.request, honly.request] at hrequest
  exact h t ht u hu (hopen t htopen) (hopen u huopen) hrequest

theorem DistinctRequests.dispatchBatch (h : DistinctRequests s) (batch : List Datagram) :
    DistinctRequests (dispatchBatch family s batch) := by
  induction batch generalizing s with
  | nil => exact h
  | cons d batch ih => exact ih (h.dispatch d)

end Datagrams

/-! ## What was answered -/

/-- A waiter that is answered has a mark for its own request. -/
structure ReplyInv (s : IcmpTable ι) (f : ι → IcmpThread) : Prop where
  tickets : ∀ t ∈ s.waiters, (s.waiter t).ticket < s.nextTicket
  marks : ∀ m ∈ s.marks, m.ticket < s.nextTicket
  answered : ∀ t ∈ s.waiters, (s.waiter t).answered = true →
    ∃ m ∈ s.marks, m.ticket = (s.waiter t).ticket ∧ Answers m.datagram (s.waiter t).request
  returned : ∀ t, f t = .registered (some true) → (s.waiter t).answered = true

/-- Nothing is answered or registered between two tables. -/
structure SameAnswers (s s' : IcmpTable ι) : Prop where
  waiters : s'.waiters ⊆ s.waiters
  request : ∀ t, (s'.waiter t).request = (s.waiter t).request
  answered : ∀ t, (s'.waiter t).answered = (s.waiter t).answered
  ticket : ∀ t, (s'.waiter t).ticket = (s.waiter t).ticket
  marks : s'.marks = s.marks
  nextTicket : s'.nextTicket = s.nextTicket

section Answered

variable {s s' s'' : IcmpTable ι} {f f' : ι → IcmpThread} {family : Family} {t : ι}
variable {l : IcmpThread}

theorem SameAnswers.trans (h : SameAnswers s s') (h' : SameAnswers s' s'') : SameAnswers s s'' where
  waiters := List.Subset.trans h'.waiters h.waiters
  request t := (h'.request t).trans (h.request t)
  answered t := (h'.answered t).trans (h.answered t)
  ticket t := (h'.ticket t).trans (h.ticket t)
  marks := h'.marks.trans h.marks
  nextTicket := h'.nextTicket.trans h.nextTicket

theorem SameAnswers.refl (s : IcmpTable ι) : SameAnswers s s :=
  ⟨List.Subset.refl _, fun _ => rfl, fun _ => rfl, fun _ => rfl, rfl, rfl⟩

theorem OnlySignals.sameAnswers (h : OnlySignals s s') : SameAnswers s s' :=
  ⟨fun _ ht => h.waiters ▸ ht, h.request, h.answered, h.ticket, h.marks, h.nextTicket⟩

theorem SameAnswers.replyInv (h : SameAnswers s s') (hinv : ReplyInv s f)
    (hreturned : ∀ t, f' t = .registered (some true) → (s.waiter t).answered = true) :
    ReplyInv s' f' where
  tickets := by
    intro t ht
    rw [h.ticket, h.nextTicket]
    exact hinv.tickets t (h.waiters ht)
  marks := by
    rw [h.marks, h.nextTicket]
    exact hinv.marks
  answered := by
    intro t ht hanswered
    rw [h.answered] at hanswered
    rw [h.marks, h.ticket, h.request]
    exact hinv.answered t (h.waiters ht) hanswered
  returned := by
    intro t ht
    rw [h.answered]
    exact hreturned t ht

variable [DecidableEq ι]

theorem returned_update (hinv : ReplyInv s f)
    (hl : l = .registered (some true) → (s.waiter t).answered = true) (u : ι)
    (hu : Function.update f t l u = .registered (some true)) : (s.waiter u).answered = true := by
  by_cases hut : u = t
  · subst hut
    rw [Function.update_self] at hu
    exact hl hu
  · rw [Function.update_of_ne hut] at hu
    exact hinv.returned u hu

/-- A thread goes on without a change of the table. -/
theorem ReplyInv.goOn (hinv : ReplyInv s f)
    (hl : l = .registered (some true) → (s.waiter t).answered = true) :
    ReplyInv s (Function.update f t l) :=
  (SameAnswers.refl s).replyInv hinv (returned_update hinv hl)

theorem sameAnswers_setWaiter {w : IcmpWaiter} (hrequest : w.request = (s.waiter t).request)
    (hanswered : w.answered = (s.waiter t).answered) (hticket : w.ticket = (s.waiter t).ticket) :
    SameAnswers s (s.setWaiter t w) := by
  have hwaiter : ∀ u, (s.setWaiter t w).waiter u = s.waiter u ∨
      u = t ∧ (s.setWaiter t w).waiter u = w := by
    intro u
    by_cases hut : u = t
    · subst hut
      exact .inr ⟨rfl, Function.update_self _ _ _⟩
    · exact .inl (Function.update_of_ne hut _ _)
  refine ⟨List.Subset.refl _, fun u => ?_, fun u => ?_, fun u => ?_, rfl, rfl⟩
  · rcases hwaiter u with h | ⟨rfl, h⟩ <;> rw [h]
    exact hrequest
  · rcases hwaiter u with h | ⟨rfl, h⟩ <;> rw [h]
    exact hanswered
  · rcases hwaiter u with h | ⟨rfl, h⟩ <;> rw [h]
    exact hticket

omit [DecidableEq ι] in
theorem sameAnswers_setReading (s : IcmpTable ι) (b : Bool) :
    SameAnswers s (s.setReading family b) :=
  ⟨List.Subset.refl _, fun _ => rfl, fun _ => rfl, fun _ => rfl, rfl, rfl⟩

theorem sameAnswers_relock (s : IcmpTable ι) (t : ι) :
    SameAnswers s (s.setWaiter t { s.waiter t with sleeping := false }) :=
  sameAnswers_setWaiter rfl rfl rfl

theorem sameAnswers_unregister (s : IcmpTable ι) (t : ι) :
    SameAnswers s (icmpSharedUnregister t s) := by
  have herase : SameAnswers s { s with waiters := s.waiters.erase t } :=
    ⟨List.erase_subset, fun _ => rfl, fun _ => rfl, fun _ => rfl, rfl, rfl⟩
  exact herase.trans (onlySignals_handoff _ _).sameAnswers

/-- A section that neither registers a waiter nor dispatches.  It answers nobody, and when
`icmp_shared_await` returns from it, the result is the mark of its waiter. -/
structure Unanswering (t : ι) (a : IcmpAction) (s s' : IcmpTable ι) (l : IcmpThread) : Prop where
  same : SameAnswers s s'
  returned : ∀ {answered}, l = .registered (some answered) → answered = (s.waiter t).answered
  left : l = .idle → a = .unregister

theorem awaitLoop_unanswering {a : IcmpAction} {late : Bool} (hsame : SameAnswers s s')
    (hloop : awaitLoop t late s' = (s'', l)) : Unanswering t a s s'' l := by
  unfold awaitLoop at hloop
  dsimp only at hloop
  split at hloop
  · cases hloop
    refine ⟨hsame.trans (onlySignals_handoff _ s').sameAnswers, fun h => ?_, nofun⟩
    cases h
    exact hsame.answered t
  · split at hloop
    · cases hloop
      exact ⟨hsame.trans (sameAnswers_setWaiter rfl rfl rfl), nofun, nofun⟩
    · cases hloop
      exact ⟨hsame.trans (sameAnswers_setReading s' true), nofun, nofun⟩

/-- The three kinds of a section. -/
theorem icmpStep_cases {a : IcmpAction} {l' : IcmpThread}
    (hstep : icmpStep t a s l = some (s', l')) :
    (∃ request, l = .idle ∧ s' = icmpSharedRegister t request s ∧ l' = .registered none) ∨
      (∃ batch more drained, a = .dispatch batch more ∧ l' = .reading drained more ∧
        s' = dispatchBatch (s.waiter t).family s batch) ∨
      (∀ batch more, a ≠ .dispatch batch more) ∧ Unanswering t a s s' l' := by
  unfold icmpStep at hstep
  split at hstep
  · cases hstep
    exact Or.inl ⟨_, rfl, rfl, rfl⟩
  · cases hstep
    exact Or.inr (Or.inr ⟨nofun, sameAnswers_unregister _ _, nofun, fun _ => rfl⟩)
  · exact Or.inr (Or.inr ⟨nofun, awaitLoop_unanswering (.refl _) (Option.some.inj hstep)⟩)
  · split at hstep <;> cases hstep
    exact Or.inr (Or.inr ⟨nofun, .refl _, nofun, nofun⟩)
  · exact Or.inr (Or.inr
      ⟨nofun, awaitLoop_unanswering (sameAnswers_relock _ _) (Option.some.inj hstep)⟩)
  · cases hstep
    exact Or.inr (Or.inr ⟨nofun, .refl _, nofun, nofun⟩)
  · split at hstep <;> cases hstep
    exact Or.inr (Or.inl ⟨_, _, _, rfl, rfl, rfl⟩)
  · split at hstep
    · exact Or.inr (Or.inr ⟨nofun,
        awaitLoop_unanswering (sameAnswers_setReading _ false) (Option.some.inj hstep)⟩)
    · cases hstep
  · cases hstep

theorem register_replyInv (hinv : ReplyInv s f) (request : IcmpRequest) (hnot : t ∉ s.waiters) :
    ReplyInv (icmpSharedRegister t request s) (Function.update f t (.registered none)) := by
  have hself : (icmpSharedRegister t request s).waiter t =
      ⟨request, false, false, false, s.nextTicket⟩ := Function.update_self _ _ _
  have hsame : ∀ u, u ≠ t → (icmpSharedRegister t request s).waiter u = s.waiter u := fun u hu =>
    Function.update_of_ne hu _ _
  refine ⟨fun u hu => ?_, fun m hm => Nat.lt_succ_of_lt (hinv.marks m hm), fun u hu hanswered => ?_,
    fun u hu => ?_⟩
  · by_cases hut : u = t
    · subst hut
      rw [hself]
      exact Nat.lt_succ_self _
    · rw [hsame u hut]
      exact Nat.lt_succ_of_lt (hinv.tickets u ((List.mem_cons.mp hu).resolve_left hut))
  · by_cases hut : u = t
    · subst hut
      rw [hself] at hanswered
      cases hanswered
    · rw [hsame u hut] at hanswered ⊢
      exact hinv.answered u ((List.mem_cons.mp hu).resolve_left hut) hanswered
  · by_cases hut : u = t
    · subst hut
      rw [Function.update_self] at hu
      cases hu
    · rw [Function.update_of_ne hut] at hu
      rw [hsame u hut]
      exact hinv.returned u hu

theorem dispatch_replyInv (hinv : ReplyInv s f) (d : Datagram) :
    ReplyInv (icmpSharedDispatch family s d) f := by
  rcases icmpSharedDispatch_cases family s d with ⟨heq, -⟩ | ⟨v, hv, haccepts, heq⟩
  · rw [heq]
    exact hinv
  · obtain ⟨-, -, hanswers⟩ := accepts_iff.mp haccepts
    rw [heq]
    have hticket : ∀ u, ((s.mark v d).waiter u).ticket = (s.waiter u).ticket := by
      intro u
      by_cases huv : u = v
      · rw [huv, mark_waiter_self]
      · rw [mark_waiter_of_ne s d huv]
    refine ⟨fun u hu => ?_, fun m hm => ?_, fun u hu hanswered => ?_, fun u hu => ?_⟩
    · rw [hticket]
      exact hinv.tickets u hu
    · rcases List.mem_append.mp hm with hm | hm
      · exact hinv.marks m hm
      · rw [List.mem_singleton.mp hm]
        exact hinv.tickets v hv
    · by_cases huv : u = v
      · subst huv
        rw [mark_waiter_self]
        exact ⟨_, List.mem_append_right _ List.mem_cons_self, rfl, hanswers⟩
      · rw [mark_waiter_of_ne s d huv] at hanswered ⊢
        obtain ⟨m, hm, hmark⟩ := hinv.answered u hu hanswered
        exact ⟨m, List.mem_append_left _ hm, hmark⟩
    · have hafter : ((icmpSharedDispatch family s d).waiter u).answered = true :=
        answered_of_dispatch (hinv.returned u hu)
      rw [heq] at hafter
      exact hafter

theorem dispatchBatch_replyInv (hinv : ReplyInv s f) (batch : List Datagram) :
    ReplyInv (dispatchBatch family s batch) f := by
  induction batch generalizing s with
  | nil => exact hinv
  | cons d batch ih => exact ih (dispatch_replyInv hinv d)

theorem icmpStep_replyInv {a : IcmpAction} (hinv : ReplyInv s f) (hlist : InvExcept s f none)
    (hstep : icmpStep t a s (f t) = some (s', l)) : ReplyInv s' (Function.update f t l) := by
  rcases icmpStep_cases hstep with ⟨request, hidle, rfl, rfl⟩ | ⟨batch, more, drained, -, rfl, rfl⟩ |
    ⟨-, hsection⟩
  · exact register_replyInv hinv _ fun ht => (hlist.mem _).mp ht hidle
  · exact ReplyInv.goOn (dispatchBatch_replyInv hinv _) fun h => nomatch h
  · exact hsection.same.replyInv hinv
      (returned_update hinv fun hl => (hsection.returned hl).symm)

end Answered

/-! ## Every run -/

variable [DecidableEq ι]

theorem run_replyInv {start c : Base.Interleaving.Config ι (IcmpTable ι) IcmpThread}
    {trace : List (ι × IcmpAction)} (hstart : IcmpStart start)
    (hrun : Base.Interleaving.run icmpStep start trace = some c) : ReplyInv c.shared c.locals := by
  have hstep : ∀ (d : Base.Interleaving.Config ι (IcmpTable ι) IcmpThread) (e : ι × IcmpAction) d',
      (InvExcept d.shared d.locals none ∧ ReplyInv d.shared d.locals) →
      Base.Interleaving.stepAt icmpStep d e = some d' →
      InvExcept d'.shared d'.locals none ∧ ReplyInv d'.shared d'.locals := by
    rintro d e d' ⟨hlist, hinv⟩ hd
    obtain ⟨⟨s', l⟩, hicmp, rfl⟩ := Option.map_eq_some_iff.mp hd
    exact ⟨icmpStep_inv hlist hicmp, icmpStep_replyInv hinv hlist hicmp⟩
  have hinit : ReplyInv start.shared start.locals := by
    refine ⟨fun t ht => ?_, fun m hm => ?_, fun t ht => ?_, fun t ht => ?_⟩
    · rw [hstart.waiters] at ht
      cases ht
    · rw [hstart.marks] at hm
      cases hm
    · rw [hstart.waiters] at ht
      cases ht
    · rw [hstart.threads] at ht
      cases ht
  exact (Base.Interleaving.run_invariant hstep ⟨hstart.inv, hinit⟩ hrun).2

/-- A section that dispatches does so for the thread's own socket. -/
theorem icmpStep_dispatch {s s' : IcmpTable ι} {t : ι} {l l' : IcmpThread}
    {batch : List Datagram} {more : Bool}
    (hstep : icmpStep t (.dispatch batch more) s l = some (s', l')) :
    s' = dispatchBatch (s.waiter t).family s batch := by
  rcases icmpStep_cases hstep with ⟨request, rfl, -⟩ | ⟨_, _, _, haction, -, hbatch⟩ | ⟨hother, -⟩
  · cases hstep
  · cases haction
    exact hbatch
  · exact absurd rfl (hother batch more)

/-- Only a section that dispatches answers a waiter. -/
theorem icmpStep_marks {s s' : IcmpTable ι} {a : IcmpAction} {t : ι} {l l' : IcmpThread}
    (hstep : icmpStep t a s l = some (s', l')) :
    (∃ batch more, a = .dispatch batch more) ∨ s'.marks = s.marks := by
  rcases icmpStep_cases hstep with ⟨request, -, rfl, -⟩ | ⟨batch, more, _, rfl, -⟩ | ⟨-, hsection⟩
  · exact .inr rfl
  · exact .inl ⟨batch, more, rfl⟩
  · exact .inr hsection.same.marks

/-- For every interleaving and every stream of datagrams.  A datagram `d` that
thread `t` dispatches, after the datagrams `before` of its batch, marks at most
one waiter, and only one of the socket it was read from that it answers; if the
registered unanswered waiters have different requests, it marks every such
waiter that it answers.  Nothing else marks a waiter.  And `icmp_shared_await`
returned `TRUE` only for a waiter whose registration has such a mark: the marks
carry the numbers of their registrations, and the next registration takes a
number that no mark has. -/
theorem icmpShared_replies {start c : Base.Interleaving.Config ι (IcmpTable ι) IcmpThread}
    {trace : List (ι × IcmpAction)} (hstart : IcmpStart start)
    (hrun : Base.Interleaving.run icmpStep start trace = some c) :
    (∀ t before d after more c',
      Base.Interleaving.stepAt icmpStep c (t, .dispatch (before ++ d :: after) more) = some c' →
      ∀ family s s', family = (c.shared.waiter t).family →
        s = dispatchBatch family c.shared before → s' = icmpSharedDispatch family s d →
        c'.shared = dispatchBatch family s' after ∧
        (∀ u v, Marked s s' u → Marked s s' v → u = v) ∧
        (∀ u, Marked s s' u →
          (s.waiter u).family = family ∧ Answers d (s.waiter u).request) ∧
        (DistinctRequests c.shared → ∀ u ∈ s.waiters, (s.waiter u).answered = false →
          (s.waiter u).family = family → Answers d (s.waiter u).request → Marked s s' u)) ∧
    (∀ e c', Base.Interleaving.stepAt icmpStep c e = some c' →
      (∃ batch more, e.2 = .dispatch batch more) ∨ c'.shared.marks = c.shared.marks) ∧
    (∀ t, c.locals t = .registered (some true) → t ∈ c.shared.waiters ∧
      ∃ m ∈ c.shared.marks, m.ticket = (c.shared.waiter t).ticket ∧
        Answers m.datagram (c.shared.waiter t).request) ∧
    ∀ m ∈ c.shared.marks, m.ticket < c.shared.nextTicket := by
  have hinv := run_replyInv hstart hrun
  have hlist := run_icmpInv hstart hrun
  refine ⟨?_, fun e c' hstep => ?_, fun t ht => ?_, hinv.marks⟩
  · rintro t before d after more c' hstep family s s' rfl rfl rfl
    obtain ⟨⟨s', l⟩, hicmp, rfl⟩ := Option.map_eq_some_iff.mp hstep
    refine ⟨?_, fun u v => marked_unique, fun u hu => ?_, fun hdistinct u => ?_⟩
    · show s' = _
      rw [icmpStep_dispatch hicmp, dispatchBatch, List.foldl_append, List.foldl_cons]
      rfl
    · obtain ⟨hfamily, hanswers, -⟩ := marked_dispatch hu
      exact ⟨hfamily, hanswers⟩
    · exact marked_of_answers (hdistinct.dispatchBatch before)
  · obtain ⟨⟨s', l⟩, hicmp, rfl⟩ := Option.map_eq_some_iff.mp hstep
    exact icmpStep_marks hicmp
  · have hmem : t ∈ c.shared.waiters := (hlist.mem t).mpr (by rw [ht]; nofun)
    exact ⟨hmem, hinv.answered t hmem (hinv.returned t ht)⟩

/-- An echo reply with a plain IPv4 header. -/
private def echoReply : Datagram where
  source := [10, 0, 0, 2]
  bytes := [0x45, 0, 0, 28, 0, 0, 0, 0, 64, 1, 0, 0, 10, 0, 0, 2, 10, 0, 0, 9,
    0, 0, 0, 0, 0, 7, 0, 2]

/-- One thread reads the reply of the other, which then wakes and returns. -/
private def replyTrace : List (Bool × IcmpAction) :=
  [(false, .register ⟨.inet, [10, 0, 0, 1], (0, 7), (0, 1)⟩), (false, .await false),
    (true, .register ⟨.inet, [10, 0, 0, 2], (0, 7), (0, 2)⟩), (true, .await false),
    (false, .select true), (false, .dispatch [echoReply] false), (true, .wake .signal),
    (true, .relock false)]

theorem icmpShared_replies_other_reader :
    ∃ c, Base.Interleaving.run icmpStep idlePings replyTrace = some c ∧
      c.locals true = .registered (some true) ∧
      ∃ m ∈ c.shared.marks, m.ticket = (c.shared.waiter true).ticket ∧
        Answers m.datagram (c.shared.waiter true).request := by
  have hstart : IcmpStart idlePings := ⟨rfl, fun _ => rfl, rfl, fun _ => rfl⟩
  obtain ⟨c, hrun, hreturned⟩ :
      ∃ c, Base.Interleaving.run icmpStep idlePings replyTrace = some c ∧
        c.locals true = .registered (some true) := ⟨_, rfl, rfl⟩
  exact ⟨c, hrun, hreturned, ((icmpShared_replies hstart hrun).2.2.1 true hreturned).2⟩

end Spine
