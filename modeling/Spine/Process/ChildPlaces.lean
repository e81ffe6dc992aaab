import Spine.Base.Custody
import Spine.Process.Children

/-!
# Where a script child is

A child is a token in the sense of `Base.Custody`.  Its holders are the
registry, a thread inside `nft_pclose`, the parked children, and the records of
the reaped and of the dropped ones.

* `ChildrenInv` says that the holdings of the children are exact.
* `ChildrenInv.sweep`, `ChildrenInv.park` and so on: what a section does to
  the holdings, one lemma for each way in which a token moves.
-/

namespace Spine

open Base.Custody

variable {ι : Type*}

/-! ## Holders -/

/-- The places in the state that the lock protects. -/
inductive TablePlace where
  | registry
  | parked
  | reaped
  | dropped
  deriving DecidableEq

/-- Who holds a child. -/
inductive Holder (ι : Type*) where
  | table (place : TablePlace)
  | thread (t : ι)

def ChildTable.holds (s : ChildTable) : TablePlace → Child → Prop
  | .registry, c => c ∈ s.pidList.map PidEntry.child
  | .parked, c => c ∈ s.abandonedPids
  | .reaped, c => c ∈ s.reaped
  | .dropped, c => c ∈ s.dropped

/-- The child a thread is responsible for. -/
def ChildThread.child : ChildThread → Option Child
  | .closing c => some c
  | .killing c _ => some c
  | .abandoning c _ => some c
  | _ => none

/-- The pipe ends a thread is responsible for. -/
def ChildThread.ends : ChildThread → List Nat
  | .opening _ rd wr => [rd, wr]
  | _ => []

def childHolds (s : ChildTable) (f : ι → ChildThread) : Holder ι → Child → Prop
  | .table p, c => s.holds p c
  | .thread t, c => (f t).child = some c

/-- Every child has one holder, and an unreaped child its own pid. -/
structure ChildrenInv (s : ChildTable) (f : ι → ChildThread) : Prop where
  custody : Exact (childHolds s f) (· ∈ s.spawned)
  registry : (s.pidList.map PidEntry.child).Nodup
  parked : s.abandonedPids.Nodup
  bound : s.abandonedPids.length ≤ NFT_ABANDONED_MAX
  serials : ∀ c ∈ s.spawned, c.serial < s.spawned.length
  pids : ∀ c ∈ s.unreaped, ∀ d ∈ s.unreaped, c.pid = d.pid → c = d
  servers : ∀ t c, f t = .abandoning c .server → c.origin = .server

section Moves

variable {s s' : ChildTable} {f f' : ι → ChildThread} {issued issued' : Child → Prop}
variable {c : Child} {q : TablePlace} {t : ι} {l : ChildThread}

/-- A child goes to a place of the table, from a thread or from nowhere. -/
theorem exact_toTable (h : Exact (childHolds s f) issued)
    (htable : ∀ p k, s'.holds p k ↔ (k = c ∧ p = q) ∨ (k ≠ c ∧ s.holds p k))
    (hthreads : ∀ u k, (f' u).child = some k ↔ k ≠ c ∧ (f u).child = some k)
    (hissued : ∀ k, issued' k ↔ k = c ∨ issued k) : Exact (childHolds s' f') issued' := by
  refine h.pass (· = c) (.table q) (fun p k => ?_) hissued
  cases p with
  | table p =>
    show s'.holds p k ↔ _
    rw [htable, Holder.table.injEq]
    rfl
  | thread u =>
    show (f' u).child = some k ↔ _
    rw [hthreads]
    simp [childHolds]

/-- A child goes to a thread that had none, from the table or from nowhere. -/
theorem exact_toThread [DecidableEq ι] (h : Exact (childHolds s f) issued)
    (htable : ∀ p k, s'.holds p k ↔ k ≠ c ∧ s.holds p k)
    (hnot : ∀ u, (f u).child ≠ some c) (hnone : (f t).child = none) (hl : l.child = some c)
    (hissued : ∀ k, issued' k ↔ k = c ∨ issued k) :
    Exact (childHolds s' (Function.update f t l)) issued' := by
  refine h.pass (· = c) (.thread t) (fun p k => ?_) hissued
  cases p with
  | table p =>
    show s'.holds p k ↔ _
    rw [htable]
    simp [childHolds]
  | thread u =>
    show (Function.update f t l u).child = some k ↔ _
    by_cases hu : u = t
    · subst hu
      rw [Function.update_self, hl]
      simp [childHolds, hnone, eq_comm]
    · rw [Function.update_of_ne hu, Holder.thread.injEq]
      have hk : (f u).child = some k → k ≠ c := fun hk hkc => hnot u (hkc ▸ hk)
      simp only [hu, and_false, false_or, childHolds]
      exact ⟨fun h => ⟨hk h, h⟩, And.right⟩

/-- The other threads do not have the child of thread `t`. -/
theorem child_update_iff [DecidableEq ι] (h : Exact (childHolds s f) issued)
    (hc : (f t).child = some c) (hl : l.child = none) (u : ι) (k : Child) :
    (Function.update f t l u).child = some k ↔ k ≠ c ∧ (f u).child = some k := by
  by_cases hu : u = t
  · subst hu
    rw [Function.update_self, hl, hc]
    constructor
    · nofun
    · rintro ⟨hk, hck⟩
      exact absurd (Option.some.inj hck).symm hk
  · rw [Function.update_of_ne hu]
    refine ⟨fun hk => ⟨fun hkc => hu ?_, hk⟩, And.right⟩
    subst hkc
    exact Holder.thread.inj (h.unique (.thread u) (.thread t) k hk hc)

/-- The child of a thread is in no place of the table. -/
theorem holds_ne (h : Exact (childHolds s f) issued) (hc : (f t).child = some c)
    {p : TablePlace} {k : Child} (hk : s.holds p k) : k ≠ c := by
  rintro rfl
  cases h.unique (.table p) (.thread t) k hk hc

end Moves

/-! ## The sections that move children -/

section Sections

variable {s s' : ChildTable} {f f' : ι → ChildThread}

theorem mem_unreaped {c : Child} : c ∈ s.unreaped ↔ c ∈ s.spawned ∧ c ∉ s.reaped := by
  simp [ChildTable.unreaped]

/-- What was waited for stays so, and no pid is given twice meanwhile. -/
theorem ChildrenInv.pids_of_subset (h : ChildrenInv s f) (hspawned : s'.spawned = s.spawned)
    (hreaped : s.reaped ⊆ s'.reaped) :
    ∀ c ∈ s'.unreaped, ∀ d ∈ s'.unreaped, c.pid = d.pid → c = d := by
  have hkeep : ∀ k ∈ s'.unreaped, k ∈ s.unreaped := by
    intro k hk
    rw [mem_unreaped] at hk ⊢
    exact ⟨hspawned ▸ hk.1, fun hr => hk.2 (hreaped hr)⟩
  exact fun c hc d hd => h.pids c (hkeep c hc) d (hkeep d hd)

/-- A step that leaves the lists alone and every child with its thread. -/
theorem ChildrenInv.same (h : ChildrenInv s f) (hlist : s'.pidList = s.pidList)
    (hparked : s'.abandonedPids = s.abandonedPids) (hspawned : s'.spawned = s.spawned)
    (hreaped : s'.reaped = s.reaped) (hdropped : s'.dropped = s.dropped)
    (hchild : ∀ t, (f' t).child = (f t).child)
    (hservers : ∀ t c, f' t = .abandoning c .server → c.origin = .server) :
    ChildrenInv s' f' where
  custody := by
    rw [hspawned]
    refine h.custody.congr (fun p k => ?_) (fun k => Iff.rfl)
    cases p with
    | table p => cases p <;> simp only [childHolds, ChildTable.holds, hlist, hparked, hreaped,
        hdropped]
    | thread t => simp only [childHolds, hchild]
  registry := hlist ▸ h.registry
  parked := hparked ▸ h.parked
  bound := hparked ▸ h.bound
  serials := hspawned ▸ h.serials
  pids := h.pids_of_subset hspawned (fun _ hk => hreaped ▸ hk)
  servers := hservers

theorem sweep_perm_abandoned (env : WaitEnv) (s : ChildTable) :
    ((nftSweepAbandoned env s).abandonedPids ++ sweptChildren env s.abandonedPids).Perm
      s.abandonedPids :=
  Base.SwapRemove.sweep_perm _ _

theorem mem_parked_of_swept {env : WaitEnv} {c : Child}
    (hc : c ∈ sweptChildren env s.abandonedPids) : c ∈ s.abandonedPids :=
  (sweep_perm_abandoned env s).subset (List.mem_append_right _ hc)

theorem mem_parked_sweep {env : WaitEnv} {k : Child} (hnodup : s.abandonedPids.Nodup) :
    k ∈ (nftSweepAbandoned env s).abandonedPids ↔
      k ∉ sweptChildren env s.abandonedPids ∧ k ∈ s.abandonedPids := by
  have hperm := sweep_perm_abandoned env s
  have hdisjoint := List.disjoint_of_nodup_append (hperm.nodup_iff.mpr hnodup)
  rw [← hperm.mem_iff, List.mem_append]
  constructor
  · exact fun hk => ⟨fun hswept => hdisjoint hk hswept, .inl hk⟩
  · exact fun hk => hk.2.resolve_right hk.1

/-- A sweep passes the children it removes to the reaped ones. -/
theorem ChildrenInv.sweep (h : ChildrenInv s f) (env : WaitEnv) :
    ChildrenInv (nftSweepAbandoned env s) f := by
  have hperm := sweep_perm_abandoned env s
  have hother : ∀ p k, p ≠ .parked → s.holds p k → k ∉ sweptChildren env s.abandonedPids := by
    intro p k hp hk hswept
    have hparked : childHolds s f (.table .parked) k := mem_parked_of_swept hswept
    exact hp (Holder.table.inj (h.custody.unique (.table p) (.table .parked) k hk hparked))
  have hissued : ∀ k ∈ sweptChildren env s.abandonedPids, k ∈ s.spawned := fun k hk =>
    h.custody.issued_of_holds (.table .parked) k (mem_parked_of_swept hk)
  refine ⟨?_, h.registry, (hperm.nodup_iff.mpr h.parked).of_append_left, ?_, h.serials,
    h.pids_of_subset rfl (List.subset_append_left _ _), h.servers⟩
  · refine h.custody.pass (· ∈ sweptChildren env s.abandonedPids) (.table .reaped)
      (fun p k => ?_) (fun k => (or_iff_right_of_imp (hissued k)).symm)
    rcases p with p | t
    · rw [Holder.table.injEq]
      cases p with
      | registry =>
        simp only [reduceCtorEq, and_false, false_or]
        exact (and_iff_right_of_imp (hother .registry k (by nofun))).symm
      | dropped =>
        simp only [reduceCtorEq, and_false, false_or]
        exact (and_iff_right_of_imp (hother .dropped k (by nofun))).symm
      | reaped =>
        show k ∈ s.reaped ++ sweptChildren env s.abandonedPids ↔ _
        rw [List.mem_append, and_iff_left rfl]
        show k ∈ s.reaped ∨ _ ↔ _ ∨ _ ∧ k ∈ s.reaped
        tauto
      | parked =>
        simp only [reduceCtorEq, and_false, false_or]
        exact mem_parked_sweep h.parked
    · simp only [reduceCtorEq, and_false, false_or]
      refine (and_iff_right_of_imp fun hk hswept => ?_).symm
      cases h.custody.unique (.thread t) (.table .parked) k hk (mem_parked_of_swept hswept)
  · have hlen := hperm.length_eq
    rw [List.length_append] at hlen
    exact Nat.le_trans (Nat.le.intro hlen) h.bound

theorem newChild_notMem (h : ChildrenInv s f) (pid : Nat) (origin : Origin) :
    s.newChild pid origin ∉ s.spawned := fun hmem =>
  Nat.lt_irrefl _ (h.serials _ hmem)

theorem serials_newChild (h : ChildrenInv s f) (pid : Nat) (origin : Origin) :
    ∀ c ∈ s.spawned ++ [s.newChild pid origin],
      c.serial < (s.spawned ++ [s.newChild pid origin]).length := by
  intro c hc
  rw [List.length_append]
  rcases List.mem_append.mp hc with hc | hc
  · exact Nat.lt_succ_of_lt (h.serials c hc)
  · rw [List.mem_singleton.mp hc]
    exact Nat.lt_succ_self _

theorem pids_newChild {pid : Nat} {origin : Origin} (h : ChildrenInv s f)
    (hfresh : s.freshPid pid = true) (hspawned : s'.spawned = s.spawned ++ [s.newChild pid origin])
    (hreaped : s'.reaped = s.reaped) :
    ∀ c ∈ s'.unreaped, ∀ d ∈ s'.unreaped, c.pid = d.pid → c = d := by
  have hcases : ∀ k ∈ s'.unreaped, k = s.newChild pid origin ∨ k ∈ s.unreaped := by
    intro k hk
    rw [mem_unreaped, hspawned, hreaped] at hk
    rcases List.mem_append.mp hk.1 with hold | hnew
    · exact .inr (mem_unreaped.mpr ⟨hold, hk.2⟩)
    · exact .inl (List.mem_singleton.mp hnew)
  have hne : ∀ k ∈ s.unreaped, k.pid ≠ pid := by
    intro k hk
    exact bne_iff_ne.mp (List.all_eq_true.mp hfresh k hk)
  intro c hc d hd hpid
  rcases hcases c hc with rfl | hc' <;> rcases hcases d hd with rfl | hd'
  · rfl
  · exact absurd hpid.symm (hne d hd')
  · exact absurd hpid (hne c hc')
  · exact h.pids c hc' d hd' hpid

variable [DecidableEq ι] {t : ι} {l : ChildThread} {c : Child}

theorem servers_update (h : ChildrenInv s f)
    (hl : ∀ c, l = .abandoning c .server → c.origin = .server) (u : ι) (c : Child)
    (hu : Function.update f t l u = .abandoning c .server) : c.origin = .server := by
  by_cases hut : u = t
  · subst hut
    rw [Function.update_self] at hu
    exact hl c hu
  · rw [Function.update_of_ne hut] at hu
    exact h.servers u c hu

theorem child_update_same (hl : l.child = (f t).child) (u : ι) :
    (Function.update f t l u).child = (f u).child := by
  by_cases hut : u = t
  · subst hut
    rw [Function.update_self, hl]
  · rw [Function.update_of_ne hut]

/-- A thread goes on with the child it has, and only descriptors change. -/
theorem ChildrenInv.goOn (h : ChildrenInv s f) (hl : l.child = (f t).child)
    (hserver : ∀ c, l ≠ .abandoning c .server) (fds : Nat → FdUse) :
    ChildrenInv { s with fds := fds } (Function.update f t l) :=
  h.same rfl rfl rfl rfl rfl (child_update_same hl)
    (servers_update h fun c hc => absurd hc (hserver c))

/-- A thread leaves its child in a place of the table. -/
theorem ChildrenInv.custody_leave {q : TablePlace} (h : ChildrenInv s f)
    (hc : (f t).child = some c) (hl : l.child = none) (hspawned : s'.spawned = s.spawned)
    (htable : ∀ p k, s'.holds p k ↔ (k = c ∧ p = q) ∨ s.holds p k) :
    Exact (childHolds s' (Function.update f t l)) (· ∈ s'.spawned) := by
  have hissued : c ∈ s.spawned := h.custody.issued_of_holds (.thread t) c hc
  refine exact_toTable (q := q) h.custody (fun p k => ?_) (child_update_iff h.custody hc hl)
    fun k => ?_
  · rw [htable, and_iff_right_of_imp (holds_ne h.custody hc)]
  · rw [hspawned]
    exact (or_iff_right_of_imp fun hk => hk ▸ hissued).symm

/-- The part of `nft_abandon_child` after the sweep: the child is parked if
there is a free cell, and dropped otherwise. -/
theorem ChildrenInv.park (h : ChildrenInv s f) (hc : (f t).child = some c) (hl : l.child = none)
    (reason : AbandonReason) :
    ChildrenInv (parkChild s c reason) (Function.update f t l) := by
  have hserver : ∀ d, l = .abandoning d .server → d.origin = .server := by
    rintro d rfl
    cases hl
  unfold parkChild
  split
  · rename_i hroom
    refine ⟨h.custody_leave (q := .parked) hc hl rfl fun p k => ?_, h.registry, ?_, ?_,
      h.serials, h.pids, servers_update h hserver⟩
    · cases p <;> simp [ChildTable.holds, or_comm]
    · have hnot : c ∉ s.abandonedPids := fun hmem =>
        holds_ne h.custody hc (show s.holds .parked c from hmem) rfl
      rw [← List.concat_eq_append]
      exact h.parked.concat hnot
    · rw [List.length_append]
      exact hroom
  · refine ⟨h.custody_leave (q := .dropped) hc hl rfl fun p k => ?_, h.registry, h.parked,
      h.bound, h.serials, h.pids, servers_update h hserver⟩
    cases p <;> simp [ChildTable.holds, or_comm]

/-- A thread has waited for its child. -/
theorem ChildrenInv.reap (h : ChildrenInv s f) (hc : (f t).child = some c) (hl : l.child = none) :
    ChildrenInv { s with reaped := s.reaped ++ [c] } (Function.update f t l) := by
  have hserver : ∀ d, l = .abandoning d .server → d.origin = .server := by
    rintro d rfl
    cases hl
  refine ⟨h.custody_leave (q := .reaped) hc hl rfl fun p k => ?_, h.registry, h.parked,
    h.bound, h.serials, h.pids_of_subset rfl (List.subset_append_left _ _),
    servers_update h hserver⟩
  cases p <;> simp [ChildTable.holds, or_comm]

/-- `pid_list_close_and_take` passes a child from the registry to the thread. -/
theorem ChildrenInv.take {e : PidEntry} {pre post : List PidEntry} (h : ChildrenInv s f)
    (hsplit : s.pidList = pre ++ e :: post) (hnone : (f t).child = none) (fds : Nat → FdUse) :
    ChildrenInv { s with pidList := pre ++ post, fds := fds }
      (Function.update f t (.closing e.child)) := by
  have hnodup := h.registry
  rw [hsplit] at hnodup
  obtain ⟨hrest, hiff⟩ := mem_without hnodup
  rw [← hsplit] at hiff
  have hregistry : childHolds s f (.table .registry) e.child := by
    show e.child ∈ s.pidList.map PidEntry.child
    rw [hsplit]
    simp
  have hother : ∀ p k, p ≠ .registry → s.holds p k → k ≠ e.child := by
    rintro p k hp hk rfl
    exact hp (Holder.table.inj (h.custody.unique (.table p) (.table .registry) _ hk hregistry))
  refine ⟨?_, hrest, h.parked, h.bound, h.serials, h.pids, servers_update h (by nofun)⟩
  refine exact_toThread h.custody (fun p k => ?_) (fun u hu => ?_) hnone rfl fun k => ?_
  · cases p with
    | registry => exact hiff k
    | parked => exact (and_iff_right_of_imp (hother .parked k (by nofun))).symm
    | reaped => exact (and_iff_right_of_imp (hother .reaped k (by nofun))).symm
    | dropped => exact (and_iff_right_of_imp (hother .dropped k (by nofun))).symm
  · cases h.custody.unique (.thread u) (.table .registry) _ hu hregistry
  · have hissued := h.custody.issued_of_holds (.table .registry) _ hregistry
    exact (or_iff_right_of_imp fun hk => hk ▸ hissued).symm

/-- `posix_spawn` in `nft_popen`: the new child is registered. -/
theorem ChildrenInv.spawn {pid fd : Nat} (h : ChildrenInv s f) (hfresh : s.freshPid pid = true)
    (hc : (f t).child = none) (result : CallResult) (fds : Nat → FdUse) :
    ChildrenInv
      { s with
        pidList := ⟨fd, s.newChild pid .script⟩ :: s.pidList
        fds := fds
        spawned := s.spawned ++ [s.newChild pid .script] }
      (Function.update f t (.outside result)) := by
  have hnew := newChild_notMem h pid .script
  have hne : ∀ p k, childHolds s f p k → k ≠ s.newChild pid .script := fun p k hk hkc =>
    hnew (hkc ▸ h.custody.issued_of_holds p k hk)
  refine ⟨?_, ?_, h.parked, h.bound, serials_newChild h pid .script,
    pids_newChild h hfresh rfl rfl, servers_update h (by nofun)⟩
  · refine exact_toTable (c := s.newChild pid .script) (q := .registry) h.custody
      (fun p k => ?_) (fun u k => ?_) fun k => ?_
    · have hp : s.holds p k → k ≠ s.newChild pid .script := hne (.table p) k
      rw [and_iff_right_of_imp hp]
      cases p <;> simp [ChildTable.holds]
    · have hsame : (ChildThread.outside result).child = (f t).child := hc.symm
      rw [child_update_same hsame]
      exact (and_iff_right_of_imp (hne (.thread u) k)).symm
    · rw [List.mem_append, List.mem_singleton, or_comm]
  · rw [List.map_cons]
    exact List.nodup_cons.mpr ⟨fun hmem => hne (.table .registry) _ hmem rfl, h.registry⟩

/-- A server that `php_close` gives up on comes to the thread. -/
theorem ChildrenInv.server {pid : Nat} (h : ChildrenInv s f) (hfresh : s.freshPid pid = true)
    (hc : (f t).child = none) :
    ChildrenInv { s with spawned := s.spawned ++ [s.newChild pid .server] }
      (Function.update f t (.abandoning (s.newChild pid .server) .server)) := by
  have hnew := newChild_notMem h pid .server
  have hne : ∀ p k, childHolds s f p k → k ≠ s.newChild pid .server := fun p k hk hkc =>
    hnew (hkc ▸ h.custody.issued_of_holds p k hk)
  refine ⟨?_, h.registry, h.parked, h.bound, serials_newChild h pid .server,
    pids_newChild h hfresh rfl rfl, servers_update h ?_⟩
  · refine exact_toThread h.custody (fun p k => ?_) (fun u hu => ?_) hc rfl fun k => ?_
    · exact (and_iff_right_of_imp (hne (.table p) k)).symm
    · exact hne (.thread u) _ hu rfl
    · rw [List.mem_append, List.mem_singleton, or_comm]
  · rintro c hcs
    injection hcs with hcs
    rw [← hcs]
    rfl

end Sections

end Spine
