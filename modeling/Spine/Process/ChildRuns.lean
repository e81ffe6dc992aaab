import Spine.Process.ChildPlaces

/-!
# Runs of the script children

The descriptors of the registry, one step of a thread, and every run.

* `FdsInv`: every descriptor that `nft_popen` opened and that is still open is
  either in one entry of the registry or an end of one thread's pipe.
* `nftStep_inv`: a step keeps `ChildrenInv` and `FdsInv`.
* `nftChild_one_place` is about every interleaving: each script child is in
  exactly one place, a child is dropped only by a section that swept and still
  found every cell taken, and a sweep asks about every parked child and
  removes exactly those that are gone.
-/

namespace Spine

open Base.Custody

variable {ι : Type*}

/-! ## Descriptors -/

/-- Who holds a descriptor. -/
inductive FdHolder (ι : Type*) where
  | registry
  | popen (t : ι)

def fdHolds (s : ChildTable) (f : ι → ChildThread) : FdHolder ι → Nat → Prop
  | .registry, n => n ∈ s.pidList.map PidEntry.fd
  | .popen t, n => n ∈ (f t).ends

/-- Every descriptor of a script has one holder. -/
structure FdsInv (s : ChildTable) (f : ι → ChildThread) : Prop where
  custody : Exact (fdHolds s f) (fun n => s.fds n = .script)
  distinct : (s.pidList.map PidEntry.fd).Nodup
  ends : ∀ t, (f t).ends.Nodup

section Descriptors

variable {s s' : ChildTable} {f f' : ι → ChildThread}

theorem setFds_eq_script_iff {fds : Nat → FdUse} {changed : List Nat} {use : FdUse} {n : Nat}
    (huse : use ≠ .script) :
    setFds fds changed use n = .script ↔ n ∉ changed ∧ fds n = .script := by
  unfold setFds
  split
  · simp_all
  · simp_all

theorem setFds_script_iff {fds : Nat → FdUse} {changed : List Nat} {n : Nat} :
    setFds fds changed .script n = .script ↔ n ∈ changed ∨ fds n = .script := by
  unfold setFds
  split
  · simp_all
  · simp_all

/-- A step that leaves the registry and the pipes alone. -/
theorem FdsInv.same (h : FdsInv s f) (hlist : s'.pidList = s.pidList)
    (hfds : ∀ n, s'.fds n = .script ↔ s.fds n = .script)
    (hends : ∀ t, (f' t).ends = (f t).ends) : FdsInv s' f' where
  custody := by
    refine h.custody.congr (fun p n => ?_) hfds
    cases p with
    | registry => simp only [fdHolds, hlist]
    | popen t => simp only [fdHolds, hends]
  distinct := hlist ▸ h.distinct
  ends := fun t => (hends t) ▸ h.ends t

variable [DecidableEq ι] {t : ι} {l : ChildThread}

theorem ends_update_same (hl : l.ends = (f t).ends) (u : ι) :
    (Function.update f t l u).ends = (f u).ends := by
  by_cases hut : u = t
  · subst hut
    rw [Function.update_self, hl]
  · rw [Function.update_of_ne hut]

theorem ends_update_nodup (h : FdsInv s f) (hl : l.ends.Nodup) (u : ι) :
    (Function.update f t l u).ends.Nodup := by
  by_cases hut : u = t
  · subst hut
    rw [Function.update_self]
    exact hl
  · rw [Function.update_of_ne hut]
    exact h.ends u

/-- The pipe ends of a thread that has no pipe any more are with no thread. -/
theorem ends_update_iff (h : FdsInv s f) (hl : l.ends = []) (u : ι) (n : Nat) :
    n ∈ (Function.update f t l u).ends ↔ n ∉ (f t).ends ∧ n ∈ (f u).ends := by
  by_cases hut : u = t
  · subst hut
    rw [Function.update_self, hl]
    simp
  · rw [Function.update_of_ne hut]
    refine (and_iff_right_of_imp fun hu ht => hut ?_).symm
    exact FdHolder.popen.inj (h.custody.unique (.popen u) (.popen t) n hu ht)

/-- `pipe` gives a thread two descriptors that were not open. -/
theorem FdsInv.openPipe {rd wr : Nat} (h : FdsInv s f) (hrd : s.fds rd = .closed)
    (hwr : s.fds wr = .closed) (hne : rd ≠ wr) (hnone : (f t).ends = []) (mode : PopenMode) :
    FdsInv { s with fds := setFds s.fds [rd, wr] .script }
      (Function.update f t (.opening mode rd wr)) := by
  have hfree : ∀ p n, fdHolds s f p n → n ∉ [rd, wr] := by
    intro p n hp hn
    have hscript := h.custody.issued_of_holds p n hp
    rcases List.mem_cons.mp hn with rfl | hn
    · cases hscript.symm.trans hrd
    · rw [List.mem_singleton.mp hn] at hscript
      cases hscript.symm.trans hwr
  refine ⟨?_, h.distinct, ends_update_nodup h (by simpa [ChildThread.ends] using hne)⟩
  refine h.custody.pass (· ∈ [rd, wr]) (.popen t) (fun p n => ?_) fun n => setFds_script_iff
  cases p with
  | registry =>
    simp only [reduceCtorEq, and_false, false_or]
    exact (and_iff_right_of_imp (hfree .registry n)).symm
  | popen u =>
    show n ∈ (Function.update f t (.opening mode rd wr) u).ends ↔ _
    rw [FdHolder.popen.injEq]
    by_cases hut : u = t
    · subst hut
      have hno : ¬ fdHolds s f (.popen u) n := by
        show n ∉ (f u).ends
        rw [hnone]
        exact List.not_mem_nil
      rw [Function.update_self, and_iff_left rfl]
      exact (or_iff_left fun hn => hno hn.2).symm
    · rw [Function.update_of_ne hut]
      simp only [hut, and_false, false_or]
      exact (and_iff_right_of_imp (hfree (.popen u) n)).symm

/-- A failed `nft_popen` closes both ends. -/
theorem FdsInv.closePipe {rd wr : Nat} (h : FdsInv s f) (hends : (f t).ends = [rd, wr])
    (hl : l.ends = []) :
    FdsInv { s with fds := setFds s.fds [rd, wr] .closed } (Function.update f t l) := by
  refine ⟨?_, h.distinct, ends_update_nodup h (hl ▸ List.nodup_nil)⟩
  refine h.custody.retire (· ∈ [rd, wr]) (fun p n => ?_)
    fun n => setFds_eq_script_iff (by nofun)
  cases p with
  | registry =>
    refine (and_iff_right_of_imp fun hn hpipe => ?_).symm
    have hthread : fdHolds s f (.popen t) n := by
      show n ∈ (f t).ends
      rw [hends]
      exact hpipe
    cases h.custody.unique .registry (.popen t) n hn hthread
  | popen u =>
    show n ∈ (Function.update f t l u).ends ↔ _
    rw [ends_update_iff h hl, hends]
    rfl

/-- The two ends of a pipe are the parent's and the child's, whatever the mode. -/
theorem PopenMode.mem_ends_iff (mode : PopenMode) (rd wr n : Nat) :
    n ∈ [rd, wr] ↔ n = mode.parentEnd rd wr ∨ n = mode.childEnd rd wr := by
  unfold PopenMode.parentEnd PopenMode.childEnd
  split <;> simp [or_comm]

theorem PopenMode.parentEnd_ne_childEnd (mode : PopenMode) {rd wr : Nat} (hne : rd ≠ wr) :
    mode.parentEnd rd wr ≠ mode.childEnd rd wr := by
  unfold PopenMode.parentEnd PopenMode.childEnd
  split
  · exact hne.symm
  · exact hne

/-- `nft_popen` closes the child's end and registers its own. -/
theorem FdsInv.register {mode : PopenMode} {rd wr : Nat} (h : FdsInv s f)
    (hf : f t = .opening mode rd wr) (child : Child) (spawned : List Child)
    (result : CallResult) :
    FdsInv
      { s with
        pidList := ⟨mode.parentEnd rd wr, child⟩ :: s.pidList
        fds := setFds s.fds [mode.childEnd rd wr] .closed
        spawned := spawned }
      (Function.update f t (.outside result)) := by
  have hends : (f t).ends = [rd, wr] := by rw [hf]; rfl
  have hne : rd ≠ wr := by
    have hnodup := h.ends t
    rw [hends] at hnodup
    simpa using hnodup
  have hpair : ∀ n, n ∈ (f t).ends ↔
      n = mode.parentEnd rd wr ∨ n = mode.childEnd rd wr := by
    intro n
    rw [hends]
    exact mode.mem_ends_iff rd wr n
  have hdiff := mode.parentEnd_ne_childEnd hne
  have hnotin : ∀ n ∈ (f t).ends, n ∉ s.pidList.map PidEntry.fd := by
    intro n hn hreg
    cases h.custody.unique (.popen t) .registry n hn hreg
  have hparent := hnotin _ ((hpair _).mpr (.inl rfl))
  refine ⟨?_, List.nodup_cons.mpr ⟨hparent, h.distinct⟩, ends_update_nodup h List.nodup_nil⟩
  have hclosed : Exact (fun p n => n ≠ mode.childEnd rd wr ∧ fdHolds s f p n)
      (fun n => n ≠ mode.childEnd rd wr ∧ s.fds n = .script) :=
    h.custody.retire (· = mode.childEnd rd wr) (fun _ _ => Iff.rfl) fun _ => Iff.rfl
  refine hclosed.pass (· = mode.parentEnd rd wr) .registry (fun p n => ?_) fun n => ?_
  · cases p with
    | registry =>
      show n ∈ mode.parentEnd rd wr :: s.pidList.map PidEntry.fd ↔ _
      have hother : n ∈ s.pidList.map PidEntry.fd →
          n ≠ mode.parentEnd rd wr ∧ n ≠ mode.childEnd rd wr := by
        intro hn
        refine ⟨fun hp => hnotin n ((hpair n).mpr (.inl hp)) hn, fun hc => ?_⟩
        exact hnotin n ((hpair n).mpr (.inr hc)) hn
      rw [List.mem_cons, and_iff_left rfl]
      show _ ↔ _ ∨ _ ∧ _ ∧ n ∈ s.pidList.map PidEntry.fd
      tauto
    | popen u =>
      show n ∈ (Function.update f t (.outside result) u).ends ↔ _
      rw [ends_update_iff h rfl, hpair]
      simp only [reduceCtorEq, and_false, false_or, not_or, and_assoc]
      rfl
  · have hscript : s.fds (mode.parentEnd rd wr) = .script :=
      h.custody.issued_of_holds (.popen t) _ ((hpair _).mpr (.inl rfl))
    rw [setFds_eq_script_iff (by nofun), List.mem_singleton]
    constructor
    · exact .inr
    · rintro (rfl | hn)
      · exact ⟨hdiff, hscript⟩
      · exact hn

/-- `pid_list_close_and_take` closes the descriptor of the entry it unlinks. -/
theorem FdsInv.take {e : PidEntry} {pre post : List PidEntry} (h : FdsInv s f)
    (hsplit : s.pidList = pre ++ e :: post) (hnone : (f t).ends = []) :
    FdsInv { s with pidList := pre ++ post, fds := setFds s.fds [e.fd] .closed }
      (Function.update f t (.closing e.child)) := by
  have hnodup := h.distinct
  rw [hsplit] at hnodup
  obtain ⟨hrest, hiff⟩ := mem_without hnodup
  rw [← hsplit] at hiff
  have hregistry : fdHolds s f .registry e.fd := by
    show e.fd ∈ s.pidList.map PidEntry.fd
    rw [hsplit]
    simp
  refine ⟨?_, hrest, ends_update_nodup h List.nodup_nil⟩
  refine h.custody.retire (· = e.fd) (fun p n => ?_) fun n => ?_
  · cases p with
    | registry => exact hiff n
    | popen u =>
      show n ∈ (Function.update f t (.closing e.child) u).ends ↔ _
      have hsame : (ChildThread.closing e.child).ends = (f t).ends := hnone.symm
      rw [ends_update_same hsame]
      refine (and_iff_right_of_imp fun hu hn => ?_).symm
      subst hn
      cases h.custody.unique (.popen u) .registry e.fd hu hregistry
  · rw [setFds_eq_script_iff (by nofun), List.mem_singleton]

end Descriptors

/-! ## One step -/

/-- The invariant of the runs. -/
structure ChildInv (s : ChildTable) (f : ι → ChildThread) : Prop where
  children : ChildrenInv s f
  fds : FdsInv s f

section Steps

variable {s s' : ChildTable} {f : ι → ChildThread}

theorem pidListCloseAndTake_eq_some {fd : Nat} {c : Child}
    (h : pidListCloseAndTake s fd = some (c, s')) :
    ∃ e pre post, s.pidList = pre ++ e :: post ∧ c = e.child ∧
      s' = { s with pidList := pre ++ post, fds := setFds s.fds [e.fd] .closed } := by
  obtain ⟨e, hfind, heq⟩ := Option.map_eq_some_iff.mp h
  obtain ⟨hfd, pre, post, hsplit, hpre⟩ := List.find?_eq_some_iff_append.mp hfind
  have herase : (s.pidList.eraseP fun e => e.fd == fd) = pre ++ post := by
    rw [hsplit, List.eraseP_append_right _ (fun x hx => by simpa using hpre x hx),
      List.eraseP_cons_of_pos (p := fun e : PidEntry => e.fd == fd) hfd]
  rw [herase] at heq
  exact ⟨e, pre, post, hsplit, (Prod.mk.inj heq).1.symm, (Prod.mk.inj heq).2.symm⟩

theorem ChildInv.sweep (h : ChildInv s f) (env : WaitEnv) : ChildInv (nftSweepAbandoned env s) f :=
  ⟨h.children.sweep env, h.fds.same rfl (fun _ => Iff.rfl) fun _ => rfl⟩

variable [DecidableEq ι] {t : ι} {l : ChildThread}

/-- A thread goes on with the child and the pipe it has, and no descriptor of a
script is opened or closed. -/
theorem ChildInv.goOn {fds : Nat → FdUse} (h : ChildInv s f)
    (hfds : ∀ n, fds n = .script ↔ s.fds n = .script) (hchild : l.child = (f t).child)
    (hends : l.ends = (f t).ends) (hserver : ∀ c, l = .abandoning c .server → l = f t) :
    ChildInv { s with fds := fds } (Function.update f t l) where
  children := by
    refine h.children.same rfl rfl rfl rfl rfl (child_update_same hchild)
      (servers_update h.children fun c hc => ?_)
    exact h.children.servers t c ((hserver c hc) ▸ hc)
  fds := h.fds.same rfl hfds (ends_update_same hends)

theorem nftPopenOpen_inv {command type : Option String} {env : PopenEnv} {result : CallResult}
    (h : ChildInv s f) (hf : f t = .outside result)
    (hstep : nftPopenOpen command type env s = some (s', l)) :
    ChildInv s' (Function.update f t l) := by
  have hchild : (f t).child = none := by rw [hf]; rfl
  have hends : (f t).ends = [] := by rw [hf]; rfl
  have hreturn : ∀ {fds : Nat → FdUse} {errno : NftErrno},
      (∀ n, fds n = .script ↔ s.fds n = .script) →
      ChildInv { s with fds := fds } (Function.update f t (.outside (.failed errno))) :=
    fun hfds => h.goOn hfds hchild.symm hends.symm (by nofun)
  unfold nftPopenOpen at hstep
  split at hstep
  · rename_i mode _
    split at hstep
    · cases hstep
      exact hreturn fun _ => Iff.rfl
    · rename_i rd wr _
      split at hstep
      · rename_i hfree
        obtain ⟨hrd, hwr, hne⟩ := hfree
        split at hstep
        · cases hstep
          refine ⟨?_, h.fds.openPipe hrd hwr hne hends mode⟩
          exact h.children.goOn (l := .opening mode rd wr) hchild.symm (by nofun) _
        · cases hstep
          refine hreturn fun n => ?_
          rw [setFds_eq_script_iff (by nofun), setFds_script_iff]
          have hn : s.fds n = .script → n ∉ [rd, wr] := by
            intro hn hmem
            rcases List.mem_cons.mp hmem with rfl | hmem
            · cases hn.symm.trans hrd
            · rw [List.mem_singleton.mp hmem] at hn
              cases hn.symm.trans hwr
          tauto
      · cases hstep
  · cases hstep
    exact hreturn fun _ => Iff.rfl

theorem nftPopenSpawn_inv {env : SpawnEnv} {mode : PopenMode} {rd wr : Nat} (h : ChildInv s f)
    (hf : f t = .opening mode rd wr)
    (hstep : nftPopenSpawn env mode rd wr s = some (s', l)) :
    ChildInv s' (Function.update f t l) := by
  have hswept := h.sweep env.waits
  have hchild : (f t).child = none := by rw [hf]; rfl
  unfold nftPopenSpawn at hstep
  split at hstep
  · cases hstep
    have hends : (f t).ends = [rd, wr] := by rw [hf]; rfl
    refine ⟨?_, hswept.fds.closePipe hends rfl⟩
    exact hswept.children.goOn (l := .outside (.failed .system)) hchild.symm (by nofun) _
  · dsimp only at hstep
    split at hstep
    · rename_i hfresh
      cases hstep
      exact ⟨hswept.children.spawn hfresh hchild _ _, hswept.fds.register hf _ _ _⟩
    · cases hstep

theorem nftPcloseTake_inv {fd : Nat} {result : CallResult} (h : ChildInv s f)
    (hf : f t = .outside result) (hstep : nftPcloseTake s fd = (s', l)) :
    ChildInv s' (Function.update f t l) := by
  have hchild : (f t).child = none := by rw [hf]; rfl
  have hends : (f t).ends = [] := by rw [hf]; rfl
  unfold nftPcloseTake at hstep
  split at hstep
  · cases hstep
    exact h.goOn (fun _ => Iff.rfl) hchild.symm hends.symm (by nofun)
  · rename_i htake
    obtain ⟨e, pre, post, hsplit, rfl, rfl⟩ := pidListCloseAndTake_eq_some htake
    cases hstep
    exact ⟨h.children.take hsplit hchild _, h.fds.take hsplit hends⟩

theorem nftPcloseReap_inv {env : WaitEnv} {c : Child} (h : ChildInv s f)
    (hf : f t = .closing c) (hstep : nftPcloseReap env s c = (s', l)) :
    ChildInv s' (Function.update f t l) := by
  have hchild : (f t).child = some c := by rw [hf]; rfl
  have hends : (f t).ends = [] := by rw [hf]; rfl
  unfold nftPcloseReap at hstep
  split at hstep
  · cases hstep
    refine ⟨h.children.reap hchild rfl, ?_⟩
    exact h.fds.same rfl (fun _ => Iff.rfl) (ends_update_same hends.symm)
  · cases hstep
    exact h.goOn (fun _ => Iff.rfl) hchild.symm hends.symm (by nofun)
  · cases hstep
    exact h.goOn (fun _ => Iff.rfl) hchild.symm hends.symm (by nofun)

theorem parkChild_pidList (c : Child) (reason : AbandonReason) :
    (parkChild s c reason).pidList = s.pidList ∧ (parkChild s c reason).fds = s.fds := by
  unfold parkChild
  split
  · exact ⟨rfl, rfl⟩
  · exact ⟨rfl, rfl⟩

theorem nftAbandonChild_inv {c : Child} {reason : AbandonReason} (h : ChildInv s f)
    (hf : f t = .abandoning c reason) (env : WaitEnv) (result : CallResult) :
    ChildInv (nftAbandonChild env s c reason) (Function.update f t (.outside result)) := by
  have hswept := h.sweep env
  have hchild : (f t).child = some c := by rw [hf]; rfl
  have hends : (f t).ends = [] := by rw [hf]; rfl
  obtain ⟨hlist, hfds⟩ := parkChild_pidList (s := nftSweepAbandoned env s) c reason
  refine ⟨hswept.children.park hchild rfl reason, ?_⟩
  exact hswept.fds.same hlist (fun n => by rw [nftAbandonChild, hfds]) (ends_update_same hends.symm)

/-- Other code opens and closes descriptors that no script has. -/
theorem foreign_inv {fd : Nat} {use : FdUse} (h : ChildInv s f) (hfd : s.fds fd ≠ .script)
    (huse : use ≠ .script) :
    ChildInv { s with fds := setFds s.fds [fd] use } (Function.update f t (f t)) := by
  refine h.goOn (fun n => ?_) rfl rfl (fun _ _ => rfl)
  rw [setFds_eq_script_iff huse, List.mem_singleton]
  exact and_iff_right_of_imp fun hn hnfd => hfd (hnfd ▸ hn)

theorem server_inv {pid : Nat} {result : CallResult} (h : ChildInv s f)
    (hf : f t = .outside result) (hfresh : s.freshPid pid = true) :
    ChildInv { s with spawned := s.spawned ++ [s.newChild pid .server] }
      (Function.update f t (.abandoning (s.newChild pid .server) .server)) := by
  have hchild : (f t).child = none := by rw [hf]; rfl
  have hends : (f t).ends = [] := by rw [hf]; rfl
  refine ⟨h.children.server hfresh hchild, ?_⟩
  exact h.fds.same rfl (fun _ => Iff.rfl) (ends_update_same hends.symm)

theorem nftStep_inv {a : ChildAction} (h : ChildInv s f)
    (hstep : nftStep t a s (f t) = some (s', l)) : ChildInv s' (Function.update f t l) := by
  unfold nftStep at hstep
  split at hstep
  · split at hstep
    · rename_i hclosed
      cases hstep
      exact foreign_inv h (by rw [hclosed]; nofun) (by nofun)
    · cases hstep
  · split at hstep
    · rename_i hforeign
      cases hstep
      exact foreign_inv h (by rw [hforeign]; nofun) (by nofun)
    · cases hstep
  · rename_i hf
    exact nftPopenOpen_inv h hf hstep
  · rename_i hf
    exact nftPopenSpawn_inv h hf hstep
  · rename_i hf
    exact nftPcloseTake_inv h hf (Option.some.inj hstep)
  · rename_i hf
    exact nftPcloseReap_inv h hf (Option.some.inj hstep)
  · rename_i hf
    cases hstep
    exact h.goOn (fun _ => Iff.rfl) (by rw [hf]; rfl) (by rw [hf]; rfl) (by nofun)
  · rename_i hf
    cases hstep
    exact nftAbandonChild_inv h hf _ _
  · rename_i hf
    cases hstep
    exact (h.sweep _).goOn (fun _ => Iff.rfl) (by rw [hf]; rfl) (by rw [hf]; rfl) (by nofun)
  · rename_i hf
    dsimp only at hstep
    split at hstep
    · rename_i hfresh
      cases hstep
      exact server_inv h hf hfresh
    · cases hstep
  · cases hstep

end Steps

theorem ChildStart.inv {c : Base.Interleaving.Config ι ChildTable ChildThread}
    (h : ChildStart c) : ChildInv c.shared c.locals := by
  have hchild : ∀ t, (c.locals t).child = none := fun t => by rw [h.threads t]; rfl
  have hends : ∀ t, (c.locals t).ends = [] := fun t => by rw [h.threads t]; rfl
  refine ⟨⟨⟨?_, ?_, ?_⟩, ?_, ?_, ?_, ?_, ?_, ?_⟩, ⟨⟨?_, ?_, ?_⟩, ?_, ?_⟩⟩
  · simp [h.spawned]
  · intro p k hk
    rcases p with p | t
    · cases p <;> simp [childHolds, ChildTable.holds, h.pidList, h.abandonedPids, h.reaped,
        h.dropped] at hk
    · cases (hchild t).symm.trans hk
  · intro p q k hp hq
    rcases p with p | t
    · cases p <;> simp [childHolds, ChildTable.holds, h.pidList, h.abandonedPids, h.reaped,
        h.dropped] at hp
    · cases (hchild t).symm.trans hp
  · simp [h.pidList]
  · simp [h.abandonedPids]
  · simp [h.abandonedPids]
  · simp [h.spawned]
  · simp [ChildTable.unreaped, h.spawned]
  · intro t c hc
    rw [h.threads t] at hc
    cases hc
  · exact fun n hn => absurd hn (h.fds n)
  · intro p n hn
    cases p with
    | registry => simp [fdHolds, h.pidList] at hn
    | popen t => simp [fdHolds, hends] at hn
  · intro p q n hn
    cases p with
    | registry => simp [fdHolds, h.pidList] at hn
    | popen t => simp [fdHolds, hends] at hn
  · simp [h.pidList]
  · simp [hends]

theorem run_childInv [DecidableEq ι] {start c : Base.Interleaving.Config ι ChildTable ChildThread}
    {trace : List (ι × ChildAction)} (hstart : ChildStart start)
    (hrun : Base.Interleaving.run nftStep start trace = some c) :
    ChildInv c.shared c.locals := by
  have hstep : ∀ (d : Base.Interleaving.Config ι ChildTable ChildThread) (e : ι × ChildAction) d',
      ChildInv d.shared d.locals → Base.Interleaving.stepAt nftStep d e = some d' →
      ChildInv d'.shared d'.locals := by
    intro d e d' hinv hd
    obtain ⟨⟨s', l⟩, hnft, rfl⟩ := Option.map_eq_some_iff.mp hd
    exact nftStep_inv hinv hnft
  exact Base.Interleaving.run_invariant hstep hstart.inv hrun

/-! ## Places -/

/-- Where a script child can be. -/
inductive ChildPlace (ι : Type*) where
  | entry (i : Nat)
  | pclose (t : ι)
  | cell (i : Nat)
  | reaped
  | dropped

/-- The child of a thread that is inside `nft_pclose`. -/
def ChildThread.inPclose : ChildThread → Option Child
  | .closing c => some c
  | .killing c _ => some c
  | .abandoning c (.pclose _) => some c
  | _ => none

/-- An entry of the registry counts as a place only with an open descriptor that
no other entry has. -/
def Located (c : Base.Interleaving.Config ι ChildTable ChildThread) (child : Child) :
    ChildPlace ι → Prop
  | .entry i => ∃ e, c.shared.pidList[i]? = some e ∧ e.child = child ∧
      c.shared.fds e.fd = .script ∧
      ∀ (j : Nat) (e' : PidEntry), c.shared.pidList[j]? = some e' → e'.fd = e.fd → j = i
  | .pclose t => (c.locals t).inPclose = some child
  | .cell i => c.shared.abandonedPids[i]? = some child
  | .reaped => child ∈ c.shared.reaped
  | .dropped => child ∈ c.shared.dropped

def ChildPlace.holder : ChildPlace ι → Holder ι
  | .entry _ => .table .registry
  | .pclose t => .thread t
  | .cell _ => .table .parked
  | .reaped => .table .reaped
  | .dropped => .table .dropped

section Places

variable {c : Base.Interleaving.Config ι ChildTable ChildThread} {child : Child}

theorem child_of_inPclose {l : ChildThread} (h : l.inPclose = some child) :
    l.child = some child := by
  cases l with
  | abandoning c reason =>
    cases reason with
    | pclose failure => exact h
    | server => cases h
  | _ => exact h

theorem Located.holds {p : ChildPlace ι} (h : Located c child p) :
    childHolds c.shared c.locals p.holder child := by
  cases p with
  | entry i =>
    obtain ⟨e, he, rfl, -⟩ := h
    exact List.mem_map_of_mem (List.mem_of_getElem? he)
  | pclose t => exact child_of_inPclose h
  | cell i => exact List.mem_of_getElem? h
  | reaped => exact h
  | dropped => exact h

/-- Two places with the same holder are the same. -/
theorem Located.eq_of_holder {p q : ChildPlace ι} (hinv : ChildInv c.shared c.locals)
    (hp : Located c child p) (hq : Located c child q) (hpq : p.holder = q.holder) : p = q := by
  cases p <;> cases q <;> cases hpq
  · rename_i i j
    obtain ⟨e, he, hchild, -⟩ := hp
    obtain ⟨e', he', hchild', -⟩ := hq
    have hsame : e.child = e'.child := hchild.trans hchild'.symm
    rw [index_eq_of_token hinv.children.registry he he' hsame]
  · rfl
  · rename_i i j
    have hindex := existsUnique_index hinv.children.parked (List.mem_of_getElem? hp)
    rw [hindex.unique hp hq]
  · rfl
  · rfl

theorem exists_located (hinv : ChildInv c.shared c.locals) (hchild : child ∈ c.shared.spawned)
    (horigin : child.origin = .script) : ∃ p, Located c child p := by
  obtain ⟨p, hp⟩ := hinv.children.custody.held child hchild
  rcases p with p | t
  · cases p with
    | registry =>
      obtain ⟨e, he, rfl⟩ := List.mem_map.mp hp
      obtain ⟨i, hi⟩ := List.mem_iff_getElem?.mp he
      have hopen : c.shared.fds e.fd = .script :=
        hinv.fds.custody.issued_of_holds .registry e.fd (List.mem_map_of_mem he)
      exact ⟨.entry i, e, hi, rfl, hopen, fun j e' hj hfd =>
        index_eq_of_token hinv.fds.distinct hj hi hfd⟩
    | parked =>
      obtain ⟨i, hi⟩ := List.mem_iff_getElem?.mp hp
      exact ⟨.cell i, hi⟩
    | reaped => exact ⟨.reaped, hp⟩
    | dropped => exact ⟨.dropped, hp⟩
  · refine ⟨.pclose t, ?_⟩
    show (c.locals t).inPclose = some child
    have hthread : (c.locals t).child = some child := hp
    cases hl : c.locals t with
    | abandoning d reason =>
      rw [hl] at hthread
      cases reason with
      | pclose failure => exact hthread
      | server =>
        have hserver := hinv.children.servers t d hl
        rw [Option.some.inj hthread, horigin] at hserver
        cases hserver
    | _ => rw [hl] at hthread; exact hthread

theorem existsUnique_located (hinv : ChildInv c.shared c.locals)
    (hchild : child ∈ c.shared.spawned) (horigin : child.origin = .script) :
    ∃! p, Located c child p := by
  obtain ⟨p, hp⟩ := exists_located hinv hchild horigin
  refine ⟨p, hp, fun q hq => hq.eq_of_holder hinv hp ?_⟩
  exact hinv.children.custody.unique _ _ child hq.holds hp.holds

end Places

/-! ## Drops and sweeps -/

/-- The answers of a sweep.  A child is asked about until `waitpid` is not interrupted or
`EINTR_BUDGET` calls are made, beginning with the call that has the given number, and the
calls for the next child follow. -/
def AskedByWaitpid (env : WaitEnv) : Nat → List (Child × WaitReply) → Prop :=
  Base.SwapRemove.AskedInTurn fun _ call =>
    waitpidRetry env.reply (fun _ => false) (EINTR_BUDGET - 1) call

theorem abandonedSweep_swept (env : WaitEnv) (cells : List Child) :
    ((abandonedSweep env cells).verdicts.map Prod.fst).Perm cells ∧
      AskedByWaitpid env 0 (abandonedSweep env cells).verdicts ∧
      (abandonedSweep env cells).cells.Perm
        (((abandonedSweep env cells).verdicts.filter fun v => !v.2.gone v.1.pid).map Prod.fst) := by
  have h : Base.SwapRemove.Swept
      (fun _ call => waitpidRetry env.reply (fun _ => false) (EINTR_BUDGET - 1) call)
      (fun c answer => answer.gone c.pid) [] cells 0 (abandonedSweep env cells) :=
    Base.SwapRemove.sweep_swept cells 0
  exact ⟨h.asked, h.answered, h.left⟩

theorem parkChild_dropped (s : ChildTable) (c : Child) (reason : AbandonReason) (k : Child)
    (hk : k ∈ (parkChild s c reason).dropped) (hnew : k ∉ s.dropped) :
    NFT_ABANDONED_MAX ≤ s.abandonedPids.length := by
  unfold parkChild at hk
  split at hk
  · exact absurd hk hnew
  · rename_i hfull
    exact Nat.le_of_not_lt hfull

theorem nftPopenOpen_dropped {command type : Option String} {env : PopenEnv}
    {s s' : ChildTable} {l : ChildThread}
    (hstep : nftPopenOpen command type env s = some (s', l)) : s'.dropped = s.dropped := by
  unfold nftPopenOpen at hstep
  split at hstep
  · split at hstep
    · cases hstep
      rfl
    · split at hstep
      · split at hstep <;> cases hstep <;> rfl
      · cases hstep
  · cases hstep
    rfl

theorem nftPopenSpawn_dropped {env : SpawnEnv} {mode : PopenMode} {rd wr : Nat}
    {s s' : ChildTable} {l : ChildThread}
    (hstep : nftPopenSpawn env mode rd wr s = some (s', l)) : s'.dropped = s.dropped := by
  unfold nftPopenSpawn at hstep
  split at hstep
  · cases hstep
    rfl
  · dsimp only at hstep
    split at hstep
    · cases hstep
      rfl
    · cases hstep

theorem nftPcloseTake_dropped {fd : Nat} {s s' : ChildTable} {l : ChildThread}
    (hstep : nftPcloseTake s fd = (s', l)) : s'.dropped = s.dropped := by
  unfold nftPcloseTake at hstep
  split at hstep
  · cases hstep
    rfl
  · rename_i htake
    obtain ⟨e, pre, post, -, -, rfl⟩ := pidListCloseAndTake_eq_some htake
    cases hstep
    rfl

theorem nftPcloseReap_dropped {env : WaitEnv} {s s' : ChildTable} {l : ChildThread} {c : Child}
    (hstep : nftPcloseReap env s c = (s', l)) : s'.dropped = s.dropped := by
  unfold nftPcloseReap at hstep
  split at hstep <;> cases hstep <;> rfl

/-- Only `nft_abandon_child` drops a child, and only with every cell taken after
its sweep. -/
theorem nftStep_dropped {s s' : ChildTable} {l l' : ChildThread} {t : ι} {a : ChildAction}
    {k : Child} (hstep : nftStep t a s l = some (s', l')) (hk : k ∈ s'.dropped)
    (hnew : k ∉ s.dropped) :
    ∃ env, a = .abandon env ∧
      NFT_ABANDONED_MAX ≤ (nftSweepAbandoned env s).abandonedPids.length := by
  have hsame : s'.dropped ≠ s.dropped := fun h => hnew (h ▸ hk)
  unfold nftStep at hstep
  split at hstep
  · split at hstep <;> cases hstep
    exact absurd rfl hsame
  · split at hstep <;> cases hstep
    exact absurd rfl hsame
  · exact absurd (nftPopenOpen_dropped hstep) hsame
  · exact absurd (nftPopenSpawn_dropped hstep) hsame
  · exact absurd (nftPcloseTake_dropped (Option.some.inj hstep)) hsame
  · exact absurd (nftPcloseReap_dropped (Option.some.inj hstep)) hsame
  · cases hstep
    exact absurd rfl hsame
  · cases hstep
    exact ⟨_, rfl, parkChild_dropped _ _ _ k hk hnew⟩
  · cases hstep
    exact absurd rfl hsame
  · dsimp only at hstep
    split at hstep <;> cases hstep
    exact absurd rfl hsame
  · cases hstep

/-! ## Every run -/

variable [DecidableEq ι]

/-- For every interleaving of the calls and every answer of `waitpid` and
`kill`: each script child is in exactly one place, and the pid of a child that
was not yet waited for names no other; a child is dropped only when a sweep left
`NFT_ABANDONED_MAX` children parked; and a sweep asks `waitpid` about every
parked child, one after the other, keeps those that are not gone by the answer for their
own pid and passes the others on as reaped. -/
theorem nftChild_one_place {start c : Base.Interleaving.Config ι ChildTable ChildThread}
    {trace : List (ι × ChildAction)} (hstart : ChildStart start)
    (hrun : Base.Interleaving.run nftStep start trace = some c) :
    (∀ child ∈ c.shared.spawned, child.origin = .script → ∃! p, Located c child p) ∧
    (∀ child ∈ c.shared.spawned, child ∉ c.shared.reaped →
      ∀ other ∈ c.shared.spawned, other ∉ c.shared.reaped →
        child.pid = other.pid → child = other) ∧
    (∀ e c', Base.Interleaving.stepAt nftStep c e = some c' →
      ∀ child ∈ c'.shared.dropped, child ∉ c.shared.dropped →
        ∃ env, e.2 = .abandon env ∧
          (nftSweepAbandoned env c.shared).abandonedPids.length = NFT_ABANDONED_MAX) ∧
    ∀ env, ∃ verdicts : List (Child × WaitReply),
      (verdicts.map Prod.fst).Perm c.shared.abandonedPids ∧
      AskedByWaitpid env 0 verdicts ∧
      (nftSweepAbandoned env c.shared).abandonedPids.Perm
        ((verdicts.filter fun v => !v.2.gone v.1.pid).map Prod.fst) ∧
      (nftSweepAbandoned env c.shared).reaped =
        c.shared.reaped ++ (verdicts.filter fun v => v.2.gone v.1.pid).map Prod.fst := by
  have hinv := run_childInv hstart hrun
  refine ⟨fun child => existsUnique_located hinv, ?_, ?_, fun env => ?_⟩
  · intro child hchild hreaped other hother hreaped'
    exact hinv.children.pids child (mem_unreaped.mpr ⟨hchild, hreaped⟩) other
      (mem_unreaped.mpr ⟨hother, hreaped'⟩)
  · intro e c' hstep child hchild hnew
    obtain ⟨⟨s', l⟩, hnft, rfl⟩ := Option.map_eq_some_iff.mp hstep
    obtain ⟨env, ha, hfull⟩ := nftStep_dropped hnft hchild hnew
    exact ⟨env, ha, Nat.le_antisymm (hinv.sweep env).children.bound hfull⟩
  · obtain ⟨hasked, hreply, hleft⟩ := abandonedSweep_swept env c.shared.abandonedPids
    exact ⟨_, hasked, hreply, hleft, rfl⟩

/-- Two threads, with the three standard descriptors open. -/
private def idleChildren : Base.Interleaving.Config Bool ChildTable ChildThread where
  shared := ⟨[], [], fun n => if n < 3 then .foreign else .closed, [], [], [], []⟩
  locals _ := .outside .none

/-- `waitpid` keeps answering that the child runs. -/
private def lingeringWaits : WaitEnv := ⟨fun _ => .returned 0 0, fun _ => false, fun _ => true⟩

/-- One thread starts a script and closes it while another asks how many
children are parked. -/
private def lingeringTrace : List (Bool × ChildAction) :=
  [(true, .popen (some "uptime") (some "r") ⟨some (3, 4), true, true, true⟩),
    (true, .spawn ⟨lingeringWaits, true, true, none, fun _ => .pid 100⟩),
    (true, .pclose 3), (false, .pending lingeringWaits), (true, .reap lingeringWaits),
    (true, .kill 0), (true, .abandon lingeringWaits), (false, .pending lingeringWaits)]

theorem nftChild_one_place_lingering :
    ∃ c, Base.Interleaving.run nftStep idleChildren lingeringTrace = some c ∧
      c.shared.abandonedPids = [⟨0, 100, .script⟩] ∧
      ∃! p, Located c ⟨0, 100, .script⟩ p := by
  have hstart : ChildStart idleChildren := by
    refine ⟨rfl, rfl, rfl, rfl, rfl, fun n => ?_, fun _ => rfl⟩
    show (if n < 3 then FdUse.foreign else .closed) ≠ .script
    split <;> nofun
  obtain ⟨c, hrun, hparked, hspawned⟩ :
      ∃ c, Base.Interleaving.run nftStep idleChildren lingeringTrace = some c ∧
        c.shared.abandonedPids = [⟨0, 100, .script⟩] ∧
        c.shared.spawned = [⟨0, 100, .script⟩] := ⟨_, rfl, rfl, rfl⟩
  refine ⟨c, hrun, hparked, (nftChild_one_place hstart hrun).1 _ ?_ rfl⟩
  rw [hspawned]
  exact List.mem_singleton.mpr rfl

end Spine
