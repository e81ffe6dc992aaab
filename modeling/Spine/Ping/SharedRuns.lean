import Spine.Ping.Shared

/-!
# The reader of a shared ICMP socket

At most one thread reads a socket, and an idle socket with a sleeping waiter is
about to be taken over.

* `InvExcept` is the invariant without the last part for one socket, and
  `handoff_inv` says that a hand-off brings that part back.
* `InvExcept.move` is the step of one thread between the places of
  `icmp_shared_await`.  `awaitLoop_inv` puts its uses in the loop together.
* `icmpShared_no_lost_reader` is about every run.
-/

namespace Spine

variable {ι : Type*}

/-! ## The invariant -/

/-- The thread has set the `reading` flag and not yet cleared it. -/
def IcmpThread.reads : IcmpThread → Bool
  | .selecting => true
  | .reading _ _ => true
  | _ => false

/-- The thread's waiter has its `sleeping` flag set. -/
def IcmpThread.sleeps : IcmpThread → Bool
  | .asleep => true
  | .woken => true
  | _ => false

/-- Thread `t` reads the socket of a family. -/
def Reads (s : IcmpTable ι) (f : ι → IcmpThread) (family : Family) (t : ι) : Prop :=
  (s.waiter t).family = family ∧ (f t).reads = true

/-- Thread `t` is asleep and its waiter is unanswered. -/
def WaitsAsleep (s : IcmpTable ι) (f : ι → IcmpThread) (family : Family) (t : ι) : Prop :=
  (s.waiter t).family = family ∧ f t = .asleep ∧ (s.waiter t).answered = false

/-- Thread `t` has a pending signal, or has woken and not yet looked at the
socket again. -/
def Alerted (s : IcmpTable ι) (f : ι → IcmpThread) (family : Family) (t : ι) : Prop :=
  (s.waiter t).family = family ∧
    ((f t = .asleep ∧ (s.waiter t).signaled = true) ∨ f t = .woken)

/-- The invariant, with the hand-over of one socket left out. -/
structure InvExcept (s : IcmpTable ι) (f : ι → IcmpThread) (out : Option Family) : Prop where
  nodup : s.waiters.Nodup
  mem : ∀ t, t ∈ s.waiters ↔ f t ≠ .idle
  sleeping : ∀ t ∈ s.waiters, (s.waiter t).sleeping = (f t).sleeps
  reader : ∀ family, s.reading family = true ↔ ∃ t, Reads s f family t
  one : ∀ family t u, Reads s f family t → Reads s f family u → t = u
  alert : ∀ family, some family ≠ out → s.reading family = false →
    ∀ t, WaitsAsleep s f family t → ∃ u, Alerted s f family u

section Handoff

variable {s s' : IcmpTable ι} {f : ι → IcmpThread} {family : Family}

/-- The waiters of two tables differ in their signals only, and no signal is
taken back. -/
structure OnlySignals (s s' : IcmpTable ι) : Prop where
  waiters : s'.waiters = s.waiters
  reading : s'.reading = s.reading
  request : ∀ t, (s'.waiter t).request = (s.waiter t).request
  answered : ∀ t, (s'.waiter t).answered = (s.waiter t).answered
  sleeping : ∀ t, (s'.waiter t).sleeping = (s.waiter t).sleeping
  ticket : ∀ t, (s'.waiter t).ticket = (s.waiter t).ticket
  signaled : ∀ t, (s.waiter t).signaled = true → (s'.waiter t).signaled = true
  marks : s'.marks = s.marks
  nextTicket : s'.nextTicket = s.nextTicket

theorem OnlySignals.refl (s : IcmpTable ι) : OnlySignals s s :=
  ⟨rfl, rfl, fun _ => rfl, fun _ => rfl, fun _ => rfl, fun _ => rfl, fun _ h => h, rfl, rfl⟩

theorem OnlySignals.sameFamily (h : OnlySignals s s') (t : ι) :
    (s'.waiter t).family = (s.waiter t).family :=
  congrArg IcmpRequest.family (h.request t)

theorem OnlySignals.reads_iff (h : OnlySignals s s') (t : ι) :
    Reads s' f family t ↔ Reads s f family t := by
  unfold Reads
  rw [h.sameFamily]

theorem OnlySignals.waitsAsleep_iff (h : OnlySignals s s') (t : ι) :
    WaitsAsleep s' f family t ↔ WaitsAsleep s f family t := by
  unfold WaitsAsleep
  rw [h.sameFamily, h.answered]

theorem OnlySignals.alerted (h : OnlySignals s s') {t : ι} (ht : Alerted s f family t) :
    Alerted s' f family t := by
  refine ⟨(h.sameFamily t).trans ht.1, ?_⟩
  exact ht.2.imp_left fun ha => ⟨ha.1, h.signaled t ha.2⟩

theorem OnlySignals.invExcept {out : Option Family} (h : OnlySignals s s')
    (hinv : InvExcept s f out) : InvExcept s' f out where
  nodup := h.waiters ▸ hinv.nodup
  mem := h.waiters ▸ hinv.mem
  sleeping := by
    intro t ht
    rw [h.sleeping]
    exact hinv.sleeping t (h.waiters ▸ ht)
  reader := by
    intro family
    rw [h.reading, hinv.reader]
    exact exists_congr fun t => (h.reads_iff t).symm
  one := by
    intro family t u ht hu
    exact hinv.one family t u ((h.reads_iff t).mp ht) ((h.reads_iff u).mp hu)
  alert := by
    intro family hfamily hidle t ht
    obtain ⟨u, hu⟩ := hinv.alert family hfamily (h.reading ▸ hidle) t ((h.waitsAsleep_iff t).mp ht)
    exact ⟨u, h.alerted hu⟩

variable [DecidableEq ι]

theorem onlySignals_signal (s : IcmpTable ι) (u : ι) : OnlySignals s (s.signal u) := by
  have hwaiter : ∀ t, (s.signal u).waiter t = s.waiter t ∨
      (s.signal u).waiter t = { s.waiter t with signaled := true } := by
    intro t
    by_cases htu : t = u
    · subst htu
      exact .inr (Function.update_self _ _ _)
    · exact .inl (Function.update_of_ne htu _ _)
  refine ⟨rfl, rfl, ?_, ?_, ?_, ?_, ?_, rfl, rfl⟩ <;> intro t <;> rcases hwaiter t with h | h <;>
    rw [h]
  · exact id
  · exact fun _ => rfl

theorem onlySignals_handoff (family : Family) (s : IcmpTable ι) :
    OnlySignals s (icmpSharedHandoff family s) := by
  unfold icmpSharedHandoff
  split
  · exact OnlySignals.refl s
  · split
    · exact OnlySignals.refl s
    · exact onlySignals_signal s _

/-- A hand-off of an idle socket alerts one of its waiters if one is asleep. -/
theorem handoff_alerts (hinv : InvExcept s f (some family)) (hidle : s.reading family = false)
    {t : ι} (ht : WaitsAsleep s f family t) :
    ∃ u, Alerted (icmpSharedHandoff family s) f family u := by
  have hreg : t ∈ s.waiters := (hinv.mem t).mpr (by rw [ht.2.1]; nofun)
  unfold icmpSharedHandoff
  rw [if_neg (by rw [hidle]; nofun)]
  split
  · rename_i hnone
    have hskip := List.find?_eq_none.mp hnone t hreg
    have hsleeping := hinv.sleeping t hreg
    rw [ht.2.1] at hsleeping
    simp [ht.1, ht.2.2, hsleeping, IcmpThread.sleeps] at hskip
  · rename_i u hfirst
    have hu := List.find?_some hfirst
    simp only [Bool.and_eq_true, beq_iff_eq] at hu
    obtain ⟨⟨hfamily, hsleeping⟩, -⟩ := hu
    rw [hinv.sleeping u (List.mem_of_find?_eq_some hfirst)] at hsleeping
    -- the waiter it picks is asleep, or it has woken and still has its flag set
    refine ⟨u, ((onlySignals_signal s u).sameFamily u).trans hfamily, ?_⟩
    cases hf : f u with
    | asleep =>
      refine .inl ⟨rfl, ?_⟩
      show (Function.update s.waiter u _ u).signaled = true
      rw [Function.update_self]
    | woken => exact .inr rfl
    | _ => rw [hf] at hsleeping; cases hsleeping

theorem handoff_inv (hinv : InvExcept s f (some family)) :
    InvExcept (icmpSharedHandoff family s) f none := by
  have honly := onlySignals_handoff family s
  have hafter := honly.invExcept hinv
  refine { hafter with alert := fun other _ hidle t ht => ?_ }
  by_cases hother : other = family
  · subst hother
    exact handoff_alerts hinv (honly.reading ▸ hidle) ((honly.waitsAsleep_iff t).mp ht)
  · refine hafter.alert other (fun h => hother (Option.some.inj h)) hidle t ht

end Handoff

/-! ## One thread moves -/

section Moves

variable {s s' : IcmpTable ι} {f f' : ι → IcmpThread} {family : Family} {t : ι} {l : IcmpThread}

theorem InvExcept.weaken (hinv : InvExcept s f none) (family : Family) :
    InvExcept s f (some family) :=
  { hinv with alert := fun other _ => hinv.alert other (by nofun) }

/-- Nothing is to be handed over while the socket is read. -/
theorem InvExcept.close (hinv : InvExcept s f (some family)) (hreading : s.reading family = true) :
    InvExcept s f none := by
  refine { hinv with alert := fun other _ hidle u hu => ?_ }
  by_cases hother : other = family
  · rw [hother, hreading] at hidle
    cases hidle
  · exact hinv.alert other (fun h => hother (Option.some.inj h)) hidle u hu

@[simp] theorem IcmpTable.setReading_self (s : IcmpTable ι) (family : Family) :
    s.setReading family (s.reading family) = s := by
  rw [IcmpTable.setReading, Function.update_eq_self]

variable [DecidableEq ι]

@[simp] theorem IcmpTable.setWaiter_self (s : IcmpTable ι) (t : ι) :
    s.setWaiter t (s.waiter t) = s := by
  rw [IcmpTable.setWaiter, Function.update_eq_self]

/-- Thread `t` replaces its waiter and sets the `reading` flag of a socket. -/
def IcmpTable.moved (s : IcmpTable ι) (t : ι) (w : IcmpWaiter) (family : Family) (b : Bool) :
    IcmpTable ι :=
  (s.setWaiter t w).setReading family b

variable {w : IcmpWaiter} {b : Bool}

theorem moved_waiter_self (s : IcmpTable ι) : (s.moved t w family b).waiter t = w :=
  Function.update_self _ _ _

theorem moved_waiter_of_ne (s : IcmpTable ι) {u : ι} (hu : u ≠ t) :
    (s.moved t w family b).waiter u = s.waiter u :=
  Function.update_of_ne hu _ _

theorem reads_moved_of_ne {other : Family} {u : ι} (hu : u ≠ t) :
    Reads (s.moved t w family b) (Function.update f t l) other u ↔ Reads s f other u := by
  rw [Reads, moved_waiter_of_ne s hu, Function.update_of_ne hu]
  rfl

theorem reads_moved_self {other : Family} (hw : w.family = family) :
    Reads (s.moved t w family b) (Function.update f t l) other t ↔
      family = other ∧ l.reads = true := by
  rw [Reads, moved_waiter_self, hw, Function.update_self]

theorem reader_moved (hreader : ∀ other, s.reading other = true ↔ ∃ u, Reads s f other u)
    (hfamily : (s.waiter t).family = family) (hw : w.family = family)
    (hb : b = true ↔ l.reads = true ∨ ∃ u, u ≠ t ∧ Reads s f family u) (other : Family) :
    (s.moved t w family b).reading other = true ↔
      ∃ u, Reads (s.moved t w family b) (Function.update f t l) other u := by
  by_cases hother : other = family
  · subst hother
    show Function.update s.reading other b other = true ↔ _
    rw [Function.update_self, hb]
    constructor
    · rintro (hl | ⟨u, hut, hu⟩)
      · exact ⟨t, (reads_moved_self hw).mpr ⟨rfl, hl⟩⟩
      · exact ⟨u, (reads_moved_of_ne hut).mpr hu⟩
    · rintro ⟨u, hu⟩
      by_cases hut : u = t
      · subst hut
        exact .inl ((reads_moved_self hw).mp hu).2
      · exact .inr ⟨u, hut, (reads_moved_of_ne hut).mp hu⟩
  · show Function.update s.reading family b other = true ↔ _
    rw [Function.update_of_ne hother, hreader]
    refine exists_congr fun u => ?_
    by_cases hut : u = t
    · subst hut
      rw [reads_moved_self hw]
      refine iff_of_false (fun h => hother ?_) (fun h => hother h.1.symm)
      exact h.1.symm.trans hfamily
    · exact (reads_moved_of_ne hut).symm

/-- The sleepers and the alerted threads of the other socket are as before. -/
theorem alert_moved {other : Family} (hne : other ≠ family)
    (hfamily : (s.waiter t).family = family) (hw : w.family = family)
    (halert : s.reading other = false →
      ∀ u, WaitsAsleep s f other u → ∃ v, Alerted s f other v)
    (hidle : (s.moved t w family b).reading other = false) (u : ι)
    (hu : WaitsAsleep (s.moved t w family b) (Function.update f t l) other u) :
    ∃ v, Alerted (s.moved t w family b) (Function.update f t l) other v := by
  have hut : u ≠ t := by
    rintro rfl
    have hself := hu.1
    rw [moved_waiter_self, hw] at hself
    exact hne hself.symm
  rw [WaitsAsleep, moved_waiter_of_ne s hut, Function.update_of_ne hut] at hu
  have hkeep : (s.moved t w family b).reading other = s.reading other :=
    Function.update_of_ne hne _ _
  obtain ⟨v, hv⟩ := halert (hkeep ▸ hidle) u hu
  have hvt : v ≠ t := by
    rintro rfl
    exact hne (hv.1.symm.trans hfamily)
  refine ⟨v, ?_⟩
  rw [Alerted, moved_waiter_of_ne s hvt, Function.update_of_ne hvt]
  exact hv

/-- A registered thread goes on to `l` with the waiter `w` and leaves the
`reading` flag of its socket at `b`. -/
theorem InvExcept.move {out : Option Family} (hinv : InvExcept s f out)
    (hout : ∀ other, other ≠ family → some other ≠ out) (ht : f t ≠ .idle) (hl : l ≠ .idle)
    (hfamily : (s.waiter t).family = family) (hw : w.family = family)
    (hsleep : w.sleeping = l.sleeps)
    (hb : b = true ↔ l.reads = true ∨ ∃ u, u ≠ t ∧ Reads s f family u)
    (hone : l.reads = true → ∀ u, u ≠ t → ¬ Reads s f family u) :
    InvExcept (s.moved t w family b) (Function.update f t l) (some family) := by
  refine ⟨hinv.nodup, fun u => ?_, fun u hu => ?_, reader_moved hinv.reader hfamily hw hb,
    fun other u v hu hv => ?_, fun other hother => ?_⟩
  · by_cases hut : u = t
    · subst hut
      rw [Function.update_self]
      exact iff_of_true ((hinv.mem u).mpr ht) hl
    · rw [Function.update_of_ne hut]
      exact hinv.mem u
  · by_cases hut : u = t
    · subst hut
      rw [moved_waiter_self, Function.update_self]
      exact hsleep
    · rw [moved_waiter_of_ne s hut, Function.update_of_ne hut]
      exact hinv.sleeping u hu
  · by_cases hut : u = t <;> by_cases hvt : v = t
    · rw [hut, hvt]
    · subst hut
      obtain ⟨rfl, hl⟩ := (reads_moved_self hw).mp hu
      exact absurd ((reads_moved_of_ne hvt).mp hv) (hone hl v hvt)
    · subst hvt
      obtain ⟨rfl, hl⟩ := (reads_moved_self hw).mp hv
      exact absurd ((reads_moved_of_ne hut).mp hu) (hone hl u hut)
    · exact hinv.one other u v ((reads_moved_of_ne hut).mp hu) ((reads_moved_of_ne hvt).mp hv)
  · have hne : other ≠ family := fun h => hother (congrArg some h)
    exact alert_moved hne hfamily hw (hinv.alert other (hout other hne))

/-- A move that neither starts nor ends reading. -/
theorem InvExcept.moveSame {out : Option Family} (hinv : InvExcept s f out)
    (hout : ∀ other, other ≠ (s.waiter t).family → some other ≠ out) (ht : f t ≠ .idle)
    (hl : l ≠ .idle) (hw : w.family = (s.waiter t).family) (hsleep : w.sleeping = l.sleeps)
    (hreads : l.reads = (f t).reads) :
    InvExcept (s.setWaiter t w) (Function.update f t l) (some (s.waiter t).family) := by
  have hmove := hinv.move (b := s.reading (s.waiter t).family) hout ht hl rfl hw hsleep ?_ ?_
  · rw [IcmpTable.moved] at hmove
    exact (IcmpTable.setReading_self (s.setWaiter t w) _) ▸ hmove
  · rw [hinv.reader, hreads]
    constructor
    · rintro ⟨u, hu⟩
      by_cases hut : u = t
      · exact .inl (hut ▸ hu.2)
      · exact .inr ⟨u, hut, hu⟩
    · rintro (h | ⟨u, -, hu⟩)
      · exact ⟨t, rfl, h⟩
      · exact ⟨u, hu⟩
  · intro hl u hut hu
    exact hut (hinv.one _ u t hu ⟨rfl, hreads ▸ hl⟩)

end Moves

/-! ## The loop of `icmp_shared_await` -/

section Loop

variable [DecidableEq ι] {s : IcmpTable ι} {f : ι → IcmpThread} {t : ι} {l : IcmpThread}

theorem ne_some_of_ne {family other : Family} (h : other ≠ family) : some other ≠ some family :=
  fun heq => h (Option.some.inj heq)

/-- The loop keeps the invariant from a place where the thread neither sleeps
nor reads, also when the socket of its waiter is still to be handed over. -/
theorem awaitLoop_inv {late : Bool} {s' : IcmpTable ι}
    (hinv : InvExcept s f (some (s.waiter t).family)) (hf : ∃ r, f t = .registered r)
    (hloop : awaitLoop t late s = (s', l)) : InvExcept s' (Function.update f t l) none := by
  obtain ⟨r, hf⟩ := hf
  have ht : f t ≠ .idle := by rw [hf]; nofun
  have hawake : (s.waiter t).sleeping = false := by
    rw [hinv.sleeping t ((hinv.mem t).mpr ht), hf]
    rfl
  have hreads : (f t).reads = false := by rw [hf]; rfl
  unfold awaitLoop at hloop
  dsimp only at hloop
  split at hloop
  · -- it returns
    cases hloop
    have hmove := hinv.moveSame (l := .registered (some (s.waiter t).answered))
      (fun _ => ne_some_of_ne) ht (by nofun) rfl hawake hreads.symm
    rw [IcmpTable.setWaiter_self] at hmove
    exact handoff_inv hmove
  · split at hloop
    · -- it sleeps, and someone else reads
      rename_i hreading
      cases hloop
      have hmove := hinv.moveSame (l := .asleep)
        (w := { s.waiter t with sleeping := true, signaled := false })
        (fun _ => ne_some_of_ne) ht (by nofun) rfl rfl hreads.symm
      exact hmove.close hreading
    · -- it starts to read
      rename_i hidle
      cases hloop
      have hnone : ∀ u, ¬ Reads s f (s.waiter t).family u := by
        intro u hu
        exact hidle ((hinv.reader _).mpr ⟨u, hu⟩)
      have hmove := hinv.move (l := .selecting) (w := s.waiter t) (b := true)
        (fun _ => ne_some_of_ne) ht (by nofun) rfl rfl hawake (by simp [IcmpThread.reads])
        (fun _ u _ => hnone u)
      rw [IcmpTable.moved, IcmpTable.setWaiter_self] at hmove
      exact hmove.close (Function.update_self _ _ _)

end Loop

/-! ## Dispatching -/

section Dispatch

variable {s s' s'' : IcmpTable ι} {f : ι → IcmpThread} {family : Family}

/-- Two tables differ in what was answered and signalled on one socket only. -/
structure OnlyMarks (family : Family) (s s' : IcmpTable ι) : Prop where
  waiters : s'.waiters = s.waiters
  reading : s'.reading = s.reading
  request : ∀ t, (s'.waiter t).request = (s.waiter t).request
  sleeping : ∀ t, (s'.waiter t).sleeping = (s.waiter t).sleeping
  other : ∀ t, (s.waiter t).family ≠ family → s'.waiter t = s.waiter t

theorem OnlyMarks.refl (s : IcmpTable ι) : OnlyMarks family s s :=
  ⟨rfl, rfl, fun _ => rfl, fun _ => rfl, fun _ _ => rfl⟩

theorem OnlyMarks.sameFamily (h : OnlyMarks family s s') (t : ι) :
    (s'.waiter t).family = (s.waiter t).family :=
  congrArg IcmpRequest.family (h.request t)

theorem OnlyMarks.trans (h : OnlyMarks family s s') (h' : OnlyMarks family s' s'') :
    OnlyMarks family s s'' where
  waiters := h'.waiters.trans h.waiters
  reading := h'.reading.trans h.reading
  request t := (h'.request t).trans (h.request t)
  sleeping t := (h'.sleeping t).trans (h.sleeping t)
  other t ht := (h'.other t (fun hf => ht ((h.sameFamily t).symm.trans hf))).trans (h.other t ht)

theorem OnlyMarks.invExcept (h : OnlyMarks family s s') (hinv : InvExcept s f none)
    (hreading : s.reading family = true) : InvExcept s' f none := by
  have hreads : ∀ other u, Reads s' f other u ↔ Reads s f other u := by
    intro other u
    rw [Reads, h.sameFamily]
    rfl
  refine ⟨h.waiters ▸ hinv.nodup, h.waiters ▸ hinv.mem, fun t ht => ?_, fun other => ?_,
    fun other t u ht hu => ?_, fun other _ hidle t ht => ?_⟩
  · rw [h.sleeping]
    exact hinv.sleeping t (h.waiters ▸ ht)
  · rw [h.reading, hinv.reader]
    exact exists_congr fun t => (hreads other t).symm
  · exact hinv.one other t u ((hreads other t).mp ht) ((hreads other u).mp hu)
  · rw [h.reading] at hidle
    have hne : other ≠ family := by
      rintro rfl
      cases hidle.symm.trans hreading
    have hsame : ∀ u, (s.waiter u).family = other → s'.waiter u = s.waiter u := fun u hu =>
      h.other u (hu ▸ hne)
    have htf : (s.waiter t).family = other := (h.sameFamily t).symm.trans ht.1
    rw [WaitsAsleep, hsame t htf] at ht
    obtain ⟨v, hv⟩ := hinv.alert other (by nofun) hidle t ht
    refine ⟨v, ?_⟩
    rw [Alerted, hsame v hv.1]
    exact hv

variable [DecidableEq ι]

theorem accepts_family {w : IcmpWaiter} {source reply : List UInt8}
    (h : w.accepts family source reply = true) : w.family = family := by
  simp only [IcmpWaiter.accepts, Bool.and_eq_true, beq_iff_eq] at h
  exact h.1.1.1

theorem mark_waiter_self (s : IcmpTable ι) (t : ι) (d : Datagram) :
    (s.mark t d).waiter t = { s.waiter t with answered := true, signaled := true } :=
  Function.update_self _ _ _

theorem mark_waiter_of_ne (s : IcmpTable ι) {t u : ι} (d : Datagram) (hu : u ≠ t) :
    (s.mark t d).waiter u = s.waiter u :=
  Function.update_of_ne hu _ _

theorem onlyMarks_mark (s : IcmpTable ι) (u : ι) (d : Datagram)
    (hfamily : (s.waiter u).family = family) : OnlyMarks family s (s.mark u d) := by
  have hwaiter : ∀ t, (s.mark u d).waiter t = s.waiter t ∨
      (s.mark u d).waiter t = { s.waiter t with answered := true, signaled := true } := by
    intro t
    by_cases htu : t = u
    · subst htu
      exact .inr (mark_waiter_self s t d)
    · exact .inl (mark_waiter_of_ne s d htu)
  refine ⟨rfl, rfl, fun t => ?_, fun t => ?_, fun t ht => ?_⟩
  · rcases hwaiter t with h | h <;> rw [h]
  · rcases hwaiter t with h | h <;> rw [h]
  · exact mark_waiter_of_ne s d fun htu => ht (htu ▸ hfamily)

/-- A datagram marks the first waiter that accepts it, if there is one. -/
theorem icmpSharedDispatch_cases (family : Family) (s : IcmpTable ι) (d : Datagram) :
    (icmpSharedDispatch family s d = s ∧ ((d.bytes.take ICMP_SHARED_SNAPLEN).length = 0 ∨
      ∀ t ∈ s.waiters,
        (s.waiter t).accepts family d.source (d.bytes.take ICMP_SHARED_SNAPLEN) = false)) ∨
    ∃ t ∈ s.waiters,
      (s.waiter t).accepts family d.source (d.bytes.take ICMP_SHARED_SNAPLEN) = true ∧
      icmpSharedDispatch family s d = s.mark t d := by
  unfold icmpSharedDispatch
  dsimp only
  split
  · rename_i hempty
    exact .inl ⟨rfl, .inl hempty⟩
  · split
    · rename_i hnone
      refine .inl ⟨rfl, .inr fun t ht => ?_⟩
      exact Bool.eq_false_iff.mpr (List.find?_eq_none.mp hnone t ht)
    · rename_i t hfirst
      have haccepts := List.find?_some hfirst
      exact .inr ⟨t, List.mem_of_find?_eq_some hfirst, haccepts, rfl⟩

theorem onlyMarks_dispatch (s : IcmpTable ι) (d : Datagram) :
    OnlyMarks family s (icmpSharedDispatch family s d) := by
  rcases icmpSharedDispatch_cases family s d with ⟨h, -⟩ | ⟨t, -, haccepts, h⟩
  · rw [h]
    exact OnlyMarks.refl s
  · rw [h]
    exact onlyMarks_mark s t d (accepts_family haccepts)

theorem onlyMarks_dispatchBatch (s : IcmpTable ι) (batch : List Datagram) :
    OnlyMarks family s (dispatchBatch family s batch) := by
  induction batch generalizing s with
  | nil => exact OnlyMarks.refl s
  | cons d batch ih => exact (onlyMarks_dispatch s d).trans (ih _)

end Dispatch

/-! ## One step -/

section Steps

variable [DecidableEq ι] {s s' : IcmpTable ι} {f : ι → IcmpThread} {t : ι} {l : IcmpThread}

/-- A thread that neither sleeps nor reads registers or unregisters. -/
theorem InvExcept.quiet {out : Option Family} (hinv : InvExcept s f out)
    (hft : (f t).reads = false ∧ (f t).sleeps = false)
    (hl : l.reads = false ∧ l.sleeps = false) (hsame : ∀ u, u ≠ t → s'.waiter u = s.waiter u)
    (hreading : s'.reading = s.reading) (hnodup : s'.waiters.Nodup)
    (hmem : ∀ u, u ∈ s'.waiters ↔ Function.update f t l u ≠ .idle)
    (hothers : ∀ u, u ≠ t → u ∈ s'.waiters → u ∈ s.waiters)
    (hsleep : t ∈ s'.waiters → (s'.waiter t).sleeping = false) :
    InvExcept s' (Function.update f t l) out := by
  have hreads : ∀ other u, Reads s' (Function.update f t l) other u ↔ Reads s f other u := by
    intro other u
    by_cases hut : u = t
    · subst hut
      rw [Reads, Reads, Function.update_self, hl.1, hft.1]
      simp
    · rw [Reads, hsame u hut, Function.update_of_ne hut]
      rfl
  refine ⟨hnodup, hmem, fun u hu => ?_, fun other => ?_, fun other u v hu hv => ?_,
    fun other hother hidle u hu => ?_⟩
  · by_cases hut : u = t
    · subst hut
      rw [Function.update_self, hl.2]
      exact hsleep hu
    · rw [hsame u hut, Function.update_of_ne hut]
      exact hinv.sleeping u (hothers u hut hu)
  · rw [hreading, hinv.reader]
    exact exists_congr fun u => (hreads other u).symm
  · exact hinv.one other u v ((hreads other u).mp hu) ((hreads other v).mp hv)
  · have hut : u ≠ t := by
      rintro rfl
      have hasleep := hu.2.1
      rw [Function.update_self] at hasleep
      rw [hasleep] at hl
      cases hl.2
    rw [WaitsAsleep, hsame u hut, Function.update_of_ne hut] at hu
    obtain ⟨v, hv⟩ := hinv.alert other hother (hreading ▸ hidle) u hu
    have hvt : v ≠ t := by
      rintro rfl
      rcases hv.2 with ⟨h, -⟩ | h <;> rw [h] at hft <;> cases hft.2
    refine ⟨v, ?_⟩
    rw [Alerted, hsame v hvt, Function.update_of_ne hvt]
    exact hv

theorem register_inv (hinv : InvExcept s f none) (hf : f t = .idle) (request : IcmpRequest) :
    InvExcept (icmpSharedRegister t request s) (Function.update f t (.registered none)) none := by
  have hnot : t ∉ s.waiters := fun ht => (hinv.mem t).mp ht hf
  refine hinv.quiet (by rw [hf]; exact ⟨rfl, rfl⟩) ⟨rfl, rfl⟩
    (fun u hu => Function.update_of_ne hu _ _) rfl (List.nodup_cons.mpr ⟨hnot, hinv.nodup⟩)
    (fun u => ?_) (fun u hut hu => (List.mem_cons.mp hu).resolve_left hut) fun _ => ?_
  · show u ∈ t :: s.waiters ↔ _
    by_cases hut : u = t
    · subst hut
      rw [Function.update_self]
      exact iff_of_true List.mem_cons_self (by nofun)
    · rw [Function.update_of_ne hut, List.mem_cons, or_iff_right hut]
      exact hinv.mem u
  · show (Function.update s.waiter t _ t).sleeping = false
    rw [Function.update_self]

theorem unregister_inv {r : Option Bool} (hinv : InvExcept s f none) (hf : f t = .registered r) :
    InvExcept (icmpSharedUnregister t s) (Function.update f t .idle) none := by
  refine handoff_inv ?_
  refine (hinv.weaken (s.waiter t).family).quiet (by rw [hf]; exact ⟨rfl, rfl⟩) ⟨rfl, rfl⟩
    (fun _ _ => rfl) rfl (hinv.nodup.erase t) (fun u => ?_)
    (fun u _ hu => List.mem_of_mem_erase hu) fun ht => absurd ht hinv.nodup.not_mem_erase
  show u ∈ s.waiters.erase t ↔ _
  rw [hinv.nodup.mem_erase_iff]
  by_cases hut : u = t
  · subst hut
    rw [Function.update_self]
    simp
  · rw [Function.update_of_ne hut, and_iff_right hut]
    exact hinv.mem u

/-- The thread that leaves the wait is itself alerted. -/
theorem wake_inv (hinv : InvExcept s f none) (hf : f t = .asleep) :
    InvExcept s (Function.update f t .woken) none := by
  have ht : f t ≠ .idle := by rw [hf]; nofun
  have hsleeping : (s.waiter t).sleeping = true := by
    rw [hinv.sleeping t ((hinv.mem t).mpr ht), hf]
    rfl
  have hmove := hinv.moveSame (l := .woken) (w := s.waiter t) (fun _ _ => by nofun) ht (by nofun)
    rfl hsleeping (by rw [hf]; rfl)
  rw [IcmpTable.setWaiter_self] at hmove
  refine { hmove with alert := fun other _ hidle u hu => ?_ }
  by_cases hother : other = (s.waiter t).family
  · exact ⟨t, hother.symm, .inr (Function.update_self _ _ _)⟩
  · exact hmove.alert other (ne_some_of_ne hother) hidle u hu

/-- A thread that reads goes on to read. -/
theorem readOn_inv (hinv : InvExcept s f none) (hf : (f t).reads = true) (hl : l.reads = true) :
    InvExcept s (Function.update f t l) none := by
  have ht : f t ≠ .idle := fun h => by rw [h] at hf; cases hf
  have hsleeps : ∀ {x : IcmpThread}, x.reads = true → x.sleeps = false := by
    intro x hx
    cases x <;> first | rfl | cases hx
  have hsleeping : (s.waiter t).sleeping = l.sleeps := by
    rw [hinv.sleeping t ((hinv.mem t).mpr ht), hsleeps hf, hsleeps hl]
  have hmove := hinv.moveSame (l := l) (w := s.waiter t) (fun _ _ => by nofun) ht
    (fun h => by rw [h] at hl; cases hl) rfl hsleeping (hl.trans hf.symm)
  rw [IcmpTable.setWaiter_self] at hmove
  exact hmove.close ((hinv.reader _).mpr ⟨t, rfl, hf⟩)

theorem relock_inv {late : Bool} (hinv : InvExcept s f none) (hf : f t = .woken)
    (hloop : awaitLoop t late (s.setWaiter t { s.waiter t with sleeping := false }) = (s', l)) :
    InvExcept s' (Function.update f t l) none := by
  have ht : f t ≠ .idle := by rw [hf]; nofun
  have hmove := hinv.moveSame (l := .registered none)
    (w := { s.waiter t with sleeping := false }) (fun _ _ => by nofun) ht (by nofun) rfl rfl
    (by rw [hf]; rfl)
  have hfamily : ((s.setWaiter t { s.waiter t with sleeping := false }).waiter t).family =
      (s.waiter t).family := by
    show (Function.update s.waiter t _ t).family = _
    rw [Function.update_self]
    rfl
  rw [← hfamily] at hmove
  have hafter := awaitLoop_inv hmove ⟨none, Function.update_self _ _ _⟩ hloop
  rwa [Function.update_idem] at hafter

theorem finish_inv {late : Bool} (hinv : InvExcept s f none) (hf : (f t).reads = true)
    (hloop : awaitLoop t late (s.setReading (s.waiter t).family false) = (s', l)) :
    InvExcept s' (Function.update f t l) none := by
  have ht : f t ≠ .idle := fun h => by rw [h] at hf; cases hf
  have hsleeping : (s.waiter t).sleeping = false := by
    rw [hinv.sleeping t ((hinv.mem t).mpr ht)]
    cases hft : f t <;> first | rfl | (rw [hft] at hf; cases hf)
  have hothers : ¬ ∃ u, u ≠ t ∧ Reads s f (s.waiter t).family u := by
    rintro ⟨u, hut, hu⟩
    exact hut (hinv.one _ u t hu ⟨rfl, hf⟩)
  have hmove := hinv.move (l := .registered none) (w := s.waiter t) (b := false)
    (fun _ _ => by nofun) ht (by nofun) rfl rfl hsleeping
    (by simpa [IcmpThread.reads] using hothers)
    (by nofun)
  rw [IcmpTable.moved, IcmpTable.setWaiter_self] at hmove
  have hafter := awaitLoop_inv (s := s.setReading (s.waiter t).family false) hmove
    ⟨none, Function.update_self _ _ _⟩ hloop
  rwa [Function.update_idem] at hafter

theorem icmpStep_inv {a : IcmpAction} (hinv : InvExcept s f none)
    (hstep : icmpStep t a s (f t) = some (s', l)) :
    InvExcept s' (Function.update f t l) none := by
  unfold icmpStep at hstep
  split at hstep
  · rename_i hf
    cases hstep
    exact register_inv hinv hf _
  · rename_i hf
    cases hstep
    exact unregister_inv hinv hf
  · rename_i hf
    exact awaitLoop_inv (hinv.weaken _) ⟨_, hf⟩ (Option.some.inj hstep)
  · rename_i hf
    split at hstep
    · cases hstep
    · cases hstep
      exact wake_inv hinv hf
  · rename_i hf
    exact relock_inv hinv hf (Option.some.inj hstep)
  · rename_i hf
    cases hstep
    exact readOn_inv hinv (by rw [hf]; rfl) rfl
  · rename_i hf
    split at hstep
    · cases hstep
      have hreads : (f _).reads = true := congrArg IcmpThread.reads hf
      have hreading := (hinv.reader _).mpr ⟨_, rfl, hreads⟩
      exact readOn_inv ((onlyMarks_dispatchBatch _ _).invExcept hinv hreading) hreads rfl
    · cases hstep
  · rename_i hf
    split at hstep
    · exact finish_inv hinv (by rw [hf]; rfl) (Option.some.inj hstep)
    · cases hstep
  · cases hstep

end Steps

/-! ## Every run -/

theorem IcmpStart.inv {c : Base.Interleaving.Config ι (IcmpTable ι) IcmpThread}
    (h : IcmpStart c) : InvExcept c.shared c.locals none := by
  have hreads : ∀ family t, ¬ Reads c.shared c.locals family t := by
    intro family t ht
    rw [Reads, h.threads t] at ht
    cases ht.2
  refine ⟨h.waiters ▸ List.nodup_nil, fun t => ?_, fun t ht => ?_, fun family => ?_,
    fun family t u ht => absurd ht (hreads family t), fun family _ _ t ht => ?_⟩
  · rw [h.waiters, h.threads]
    simp
  · rw [h.waiters] at ht
    cases ht
  · rw [h.reading]
    exact iff_of_false (by nofun) fun ⟨t, ht⟩ => hreads family t ht
  · rw [WaitsAsleep, h.threads t] at ht
    cases ht.2.1

theorem run_icmpInv [DecidableEq ι] {start c : Base.Interleaving.Config ι (IcmpTable ι) IcmpThread}
    {trace : List (ι × IcmpAction)} (hstart : IcmpStart start)
    (hrun : Base.Interleaving.run icmpStep start trace = some c) :
    InvExcept c.shared c.locals none := by
  have hstep : ∀ (d : Base.Interleaving.Config ι (IcmpTable ι) IcmpThread) (e : ι × IcmpAction) d',
      InvExcept d.shared d.locals none → Base.Interleaving.stepAt icmpStep d e = some d' →
      InvExcept d'.shared d'.locals none := by
    intro d e d' hinv hd
    obtain ⟨⟨s', l⟩, hicmp, rfl⟩ := Option.map_eq_some_iff.mp hd
    exact icmpStep_inv hinv hicmp
  exact Base.Interleaving.run_invariant hstep hstart.inv hrun

/-- In every configuration that any threads reach with any time-outs and
wake-ups, for each socket: `reading` is set exactly while a registered thread
reads, and only one does; and if the socket is idle while a thread with an
unanswered waiter sleeps, some thread with a waiter of the socket has a pending
signal, or has woken and not yet looked at the socket again. -/
theorem icmpShared_no_lost_reader [DecidableEq ι]
    {start c : Base.Interleaving.Config ι (IcmpTable ι) IcmpThread}
    {trace : List (ι × IcmpAction)} (hstart : IcmpStart start)
    (hrun : Base.Interleaving.run icmpStep start trace = some c) (family : Family) :
    (c.shared.reading family = true ↔
      ∃ t ∈ c.shared.waiters, Reads c.shared c.locals family t) ∧
    (∀ t u, Reads c.shared c.locals family t → Reads c.shared c.locals family u → t = u) ∧
    (c.shared.reading family = false →
      ∀ t ∈ c.shared.waiters, WaitsAsleep c.shared c.locals family t →
        ∃ u ∈ c.shared.waiters, Alerted c.shared c.locals family u) := by
  have hinv := run_icmpInv hstart hrun
  refine ⟨?_, hinv.one family, fun hidle t _ ht => ?_⟩
  · rw [hinv.reader]
    refine exists_congr fun t => (and_iff_right_of_imp fun ht => (hinv.mem t).mpr fun hf => ?_).symm
    rw [Reads, hf] at ht
    cases ht.2
  · obtain ⟨u, hu⟩ := hinv.alert family (by nofun) hidle t ht
    refine ⟨u, (hinv.mem u).mpr fun hf => ?_, hu⟩
    rw [Alerted, hf] at hu
    rcases hu.2 with ⟨h, -⟩ | h <;> cases h

/-- Two threads that ping over IPv4. -/
def idlePings : Base.Interleaving.Config Bool (IcmpTable Bool) IcmpThread where
  shared :=
    ⟨[], fun _ => ⟨⟨.inet, [], (0, 0), (0, 0)⟩, false, false, false, 0⟩, fun _ => false, 0, []⟩
  locals _ := .idle

/-- The reader runs into its deadline while the other thread sleeps. -/
private def handoffTrace : List (Bool × IcmpAction) :=
  [(false, .register ⟨.inet, [10, 0, 0, 1], (0, 7), (0, 1)⟩), (false, .await false),
    (true, .register ⟨.inet, [10, 0, 0, 2], (0, 7), (0, 2)⟩), (true, .await false),
    (false, .select false), (false, .finish true)]

theorem icmpShared_no_lost_reader_handoff :
    ∃ c, Base.Interleaving.run icmpStep idlePings handoffTrace = some c ∧
      c.shared.reading .inet = false ∧ WaitsAsleep c.shared c.locals .inet true ∧
      ∃ u ∈ c.shared.waiters, Alerted c.shared c.locals .inet u := by
  have hstart : IcmpStart idlePings := ⟨rfl, fun _ => rfl, rfl, fun _ => rfl⟩
  obtain ⟨c, hrun, hidle, hmem, hasleep⟩ :
      ∃ c, Base.Interleaving.run icmpStep idlePings handoffTrace = some c ∧
        c.shared.reading .inet = false ∧ true ∈ c.shared.waiters ∧
        WaitsAsleep c.shared c.locals .inet true :=
    ⟨_, rfl, rfl, List.mem_cons_self, rfl, rfl, rfl⟩
  exact ⟨c, hrun, hidle, hasleep,
    (icmpShared_no_lost_reader hstart hrun .inet).2.2 hidle true hmem hasleep⟩

end Spine
