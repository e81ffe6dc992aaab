import Spine.Process.ChildDescriptors

/-!
# The descriptors of the daemon over runs

`ParentFds` carries that the ends of registered pipes are close-on-exec.  This module says
why that is so, and that the registry's descriptors are open.

* `ParentFds.later` is the general change: old entries, other files, and marked ends of
  pipes that were numbered since.
* `afterPopen`, `afterPhpInit`, `afterPclose`, `afterClose` and `afterOpen` are the changes
  that the daemon makes, each a case of it.
* `live_of_run` is the invariant over runs of them.  `pid_list_close_and_take` closes a
  descriptor and unlinks its entry in one section, so that the walk of `nft_popen` over
  the registry meets open descriptors only.
-/

namespace Spine

open Base.Descriptors

/-! ## Later descriptors -/

namespace ParentFds

variable (parent : ParentFds)

/-- An entry that the daemon may have later: an old one, another file, or a marked end of
a pipe that was numbered since. -/
def May (next fd : Nat) (entry : Descriptor OpenFile) : Prop :=
  parent.table fd = some entry ∨ (∃ id, entry.file = .other id) ∨
    entry.cloexec = true ∧ ∃ pipe write, entry.file = .pipeEnd pipe write ∧
      parent.nextPipe ≤ pipe ∧ pipe < next

/-- Later descriptors and a later registry. -/
def later (next : Nat) (hnext : parent.nextPipe ≤ next) (table : Table OpenFile)
    (htable : ∀ fd entry, table fd = some entry → parent.May next fd entry)
    (pidList : List PipeEntry)
    (hpidList : ∀ node ∈ pidList, node ∈ parent.pidList ∨
      parent.nextPipe ≤ node.pipe ∧ node.pipe < next) : ParentFds where
  table := table
  pidList := pidList
  nextPipe := next
  numbered := by
    intro fd entry pipe write hentry hfile
    rcases htable fd entry hentry with hold | ⟨id, hother⟩ | ⟨-, pipe', write', hnew, -, hlt⟩
    · have hnumbered := parent.numbered fd entry pipe write hold hfile
      omega
    · rw [hfile] at hother
      cases hother
    · rw [hfile] at hnew
      cases hnew
      exact hlt
  registered := by
    intro node hnode
    rcases hpidList node hnode with hold | ⟨-, hlt⟩
    · have hregistered := parent.registered node hold
      omega
    · exact hlt
  marked := by
    intro fd entry hentry hend
    rcases htable fd entry hentry with hold | ⟨id, hother⟩ | ⟨hmarked, -⟩
    · cases hfile : entry.file with
      | other id =>
        rw [hfile] at hend
        exact hend.elim
      | pipeEnd pipe write =>
        rw [hfile] at hend
        obtain ⟨node, hnode, hpipe⟩ := List.mem_map.1 hend
        rcases hpidList node hnode with holdNode | ⟨hge, -⟩
        · refine parent.marked fd entry hold ?_
          rw [hfile]
          exact List.mem_map.2 ⟨node, holdNode, hpipe⟩
        · -- an old descriptor is no end of a pipe that was opened since
          have hnumbered := parent.numbered fd entry pipe write hold hfile
          omega
    · rw [hother] at hend
      exact hend.elim
    · exact hmarked

variable {parent} {limit next : Nat} {mode : PopenMode}

/-- Marked ends of new pipes may be added, and descriptors may be closed. -/
theorem may_of_opens {t : Table OpenFile} {new : List (Nat × Descriptor OpenFile)}
    (hopens : Opens parent.table t new)
    (hnew : ∀ p ∈ new, p.2.cloexec = true ∧ ∃ pipe write, p.2.file = .pipeEnd pipe write ∧
      parent.nextPipe ≤ pipe ∧ pipe < next) {closed : List Nat} {fd : Nat}
    {entry : Descriptor OpenFile} (h : (if fd ∈ closed then none else t fd) = some entry) :
    parent.May next fd entry := by
  split_ifs at h
  by_cases hmem : fd ∈ new.map Prod.fst
  · obtain ⟨p, hp, rfl⟩ := List.mem_map.1 hmem
    rw [hopens.opened p hp] at h
    cases h
    exact Or.inr (Or.inr (hnew p hp))
  · rw [hopens.same fd hmem] at h
    exact Or.inl h

theorem mem_pipeEnds_file {pipe rd wr : Nat} {p : Nat × Descriptor OpenFile}
    (h : p ∈ pipeEnds pipe rd wr) :
    p.2.cloexec = true ∧ ∃ write, p.2.file = .pipeEnd pipe write := by
  simp only [pipeEnds, List.mem_cons, List.not_mem_nil, or_false] at h
  rcases h with rfl | rfl
  · exact ⟨rfl, false, rfl⟩
  · exact ⟨rfl, true, rfl⟩

theorem mem_duplicateEnd_file {file : OpenFile} {inheritFd : Option Nat}
    {p : Nat × Descriptor OpenFile} (h : p ∈ duplicateEnd file inheritFd) :
    p.2.cloexec = true ∧ p.2.file = file := by
  obtain ⟨copy, -, rfl⟩ := List.mem_map.1 h
  exact ⟨rfl, rfl⟩

theorem mem_popen_new {fds : PopenFds} {p : Nat × Descriptor OpenFile}
    (h : p ∈ fds.new mode parent.nextPipe) :
    p.2.cloexec = true ∧ ∃ pipe write, p.2.file = .pipeEnd pipe write ∧
      parent.nextPipe ≤ pipe ∧ pipe < parent.nextPipe + 1 := by
  rcases List.mem_append.1 h with hend | hcopy
  · obtain ⟨hmarked, write, hfile⟩ := mem_pipeEnds_file hend
    exact ⟨hmarked, _, write, hfile, by omega, by omega⟩
  · obtain ⟨hmarked, hfile⟩ := mem_duplicateEnd_file hcopy
    exact ⟨hmarked, _, _, hfile, by omega, by omega⟩

theorem mem_php_new {fds : PhpFds} {p : Nat × Descriptor OpenFile}
    (h : p ∈ fds.new parent.nextPipe) :
    p.2.cloexec = true ∧ ∃ pipe write, p.2.file = .pipeEnd pipe write ∧
      parent.nextPipe ≤ pipe ∧ pipe < parent.nextPipe + 2 := by
  rcases List.mem_append.1 h with hrequest | hrest
  · obtain ⟨hmarked, write, hfile⟩ := mem_pipeEnds_file hrequest
    exact ⟨hmarked, _, write, hfile, by omega, by omega⟩
  · rcases List.mem_append.1 hrest with hresponse | hcopy
    · obtain ⟨hmarked, write, hfile⟩ := mem_pipeEnds_file hresponse
      exact ⟨hmarked, _, write, hfile, by omega, by omega⟩
    · obtain ⟨hmarked, hfile⟩ := mem_duplicateEnd_file hcopy
      exact ⟨hmarked, _, _, hfile, by omega, by omega⟩

/-! ## What the daemon does -/

/-- After `nft_popen`: the script's end and the duplicate are closed, and the other end is
registered. -/
def afterPopen {fds : PopenFds}
    (h : popenDescriptors limit mode parent.nextPipe parent.table = some fds) : ParentFds :=
  parent.later (parent.nextPipe + 1) (Nat.le_succ _)
    (fun n => if n ∈ [mode.childEnd fds.rd fds.wr, fds.source mode] then none else fds.table n)
    (fun _ _ hentry =>
      may_of_opens (popenDescriptors_opened h).opens (fun _ => mem_popen_new) hentry)
    (⟨mode.parentEnd fds.rd fds.wr, parent.nextPipe⟩ :: parent.pidList)
    (fun node hnode => by
      rcases List.mem_cons.1 hnode with rfl | hold
      · exact Or.inr ⟨Nat.le_refl _, Nat.lt_succ_self _⟩
      · exact Or.inl hold)

/-- After `php_init` started a server. -/
def afterPhpInit {fds : PhpFds}
    (h : phpDescriptors limit parent.nextPipe parent.table = some fds) : ParentFds :=
  parent.later (parent.nextPipe + 2) (Nat.le_add_right _ _)
    (fun n => if n ∈ [fds.cacti2phpRead, fds.php2cactiWrite, fds.childStdin] then none
      else fds.table n)
    (fun _ _ hentry =>
      may_of_opens (phpDescriptors_opened h).opens (fun _ => mem_php_new) hentry)
    parent.pidList (fun _ hnode => Or.inl hnode)

/-- After `pid_list_close_and_take`. -/
def afterPclose (parent : ParentFds) (fd : Nat) : ParentFds :=
  parent.later parent.nextPipe (Nat.le_refl _)
    (fun n => if n ∈ [fd] then none else parent.table n)
    (fun _ _ hentry => may_of_opens (opens_nil _) nofun hentry)
    (parent.pidList.eraseP fun node => node.fd == fd)
    (fun _ hnode => Or.inl (List.mem_of_mem_eraseP hnode))

/-- After other code closed a descriptor. -/
def afterClose (parent : ParentFds) (fd : Nat) : ParentFds :=
  parent.later parent.nextPipe (Nat.le_refl _)
    (fun n => if n ∈ [fd] then none else parent.table n)
    (fun _ _ hentry => may_of_opens (opens_nil _) nofun hentry)
    parent.pidList (fun _ hnode => Or.inl hnode)

/-- After other code opened a file. -/
def afterOpen (parent : ParentFds) (fd id : Nat) (cloexec : Bool) : ParentFds :=
  parent.later parent.nextPipe (Nat.le_refl _)
    (parent.table.set fd (some ⟨.other id, cloexec⟩))
    (fun n entry hentry => by
      by_cases hn : n = fd
      · rw [hn, Table.set_same] at hentry
        cases hentry
        exact Or.inr (Or.inl ⟨id, rfl⟩)
      · rw [Table.set_ne _ hn] at hentry
        exact Or.inl hentry)
    parent.pidList (fun _ hnode => Or.inl hnode)

/-! ## The registry over runs -/

/-- Every registered descriptor is open, and is a marked end of its pipe. -/
structure Live (parent : ParentFds) : Prop where
  nodup : parent.pidFds.Nodup
  open_end : ∀ node ∈ parent.pidList, ∃ write,
    parent.table node.fd = some ⟨.pipeEnd node.pipe write, true⟩

/-- One change of the descriptors. -/
inductive Step (limit : Nat) : ParentFds → ParentFds → Prop where
  | popen {parent : ParentFds} {mode : PopenMode} {fds : PopenFds}
    (h : popenDescriptors limit mode parent.nextPipe parent.table = some fds) :
    Step limit parent (afterPopen h)
  | phpInit {parent : ParentFds} {fds : PhpFds}
    (h : phpDescriptors limit parent.nextPipe parent.table = some fds) :
    Step limit parent (afterPhpInit h)
  | pclose {parent : ParentFds} {fd : Nat} (h : fd ∈ parent.pidFds) :
    Step limit parent (parent.afterPclose fd)
  | closeOther {parent : ParentFds} {fd : Nat} (h : fd ∉ parent.pidFds) :
    Step limit parent (parent.afterClose fd)
  | openOther {parent : ParentFds} {fd : Nat} (h : parent.table fd = none) (id : Nat)
    (cloexec : Bool) : Step limit parent (parent.afterOpen fd id cloexec)

/-- A descriptor that is open and not closed by a spawn is what it was. -/
theorem kept_of_opens {t : Table OpenFile} {new : List (Nat × Descriptor OpenFile)}
    (hopens : Opens parent.table t new) {closed : List Nat}
    (hclosed : ∀ fd ∈ closed, fd ∈ new.map Prod.fst) {fd : Nat} {entry : Descriptor OpenFile}
    (h : parent.table fd = some entry) :
    (if fd ∈ closed then none else t fd) = some entry := by
  have hold : fd ∉ closed := by
    intro hmem
    obtain ⟨p, hp, rfl⟩ := List.mem_map.1 (hclosed fd hmem)
    rw [hopens.free p hp] at h
    cases h
  rw [if_neg hold]
  exact hopens.of_open h

theorem Live.not_mem_of_free (h : parent.Live) {fd : Nat} (hfree : parent.table fd = none) :
    fd ∉ parent.pidFds := by
  intro hmem
  obtain ⟨node, hnode, rfl⟩ := List.mem_map.1 hmem
  obtain ⟨write, hopen⟩ := h.open_end node hnode
  rw [hfree] at hopen
  cases hopen

theorem source_mem_new (fds : PopenFds) (mode : PopenMode) (pipe : Nat) :
    fds.source mode ∈ (fds.new mode pipe).map Prod.fst := by
  unfold PopenFds.source PopenFds.new
  cases fds.inheritFd with
  | none =>
    exact List.mem_map.2
      ⟨_, List.mem_append_left _ (childEnd_mem_pipeEnds mode pipe fds.rd fds.wr), rfl⟩
  | some copy =>
    exact List.mem_map.2
      ⟨_, List.mem_append_right _ (mem_duplicateEnd (mode.childFile pipe) copy), rfl⟩

theorem Live.afterPopen {fds : PopenFds} (h : parent.Live)
    (hfds : popenDescriptors limit mode parent.nextPipe parent.table = some fds) :
    (ParentFds.afterPopen hfds).Live := by
  have hopened := popenDescriptors_opened hfds
  have hparent := List.mem_append_left (duplicateEnd (mode.childFile parent.nextPipe)
    fds.inheritFd) (parentEnd_mem_pipeEnds mode parent.nextPipe fds.rd fds.wr)
  refine ⟨List.nodup_cons.2 ⟨h.not_mem_of_free (hopened.opens.free _ hparent), h.nodup⟩, ?_⟩
  intro node hnode
  rcases List.mem_cons.1 hnode with rfl | hold
  · refine ⟨mode == .write, ?_⟩
    show (if _ then _ else _) = _
    rw [if_neg, hopened.opens.opened _ hparent]
    simp only [List.mem_cons, List.not_mem_nil, or_false, not_or]
    exact ⟨(childEnd_ne_parentEnd hopened.ordered mode).symm, hopened.source_ne_parent.symm⟩
  · obtain ⟨write, hopen⟩ := h.open_end node hold
    refine ⟨write, kept_of_opens hopened.opens (fun fd hfd => ?_) hopen⟩
    simp only [List.mem_cons, List.not_mem_nil, or_false] at hfd
    rcases hfd with rfl | rfl
    · exact List.mem_map.2 ⟨_, List.mem_append_left _ (childEnd_mem_pipeEnds mode _ _ _), rfl⟩
    · exact source_mem_new fds mode _

theorem childStdin_mem_new (fds : PhpFds) (pipe : Nat) :
    fds.childStdin ∈ (fds.new pipe).map Prod.fst := by
  unfold PhpFds.childStdin PhpFds.new
  cases fds.dupStdin with
  | none => simp [pipeEnds]
  | some copy => simp [pipeEnds, duplicateEnd]

theorem Live.afterPhpInit {fds : PhpFds} (h : parent.Live)
    (hfds : phpDescriptors limit parent.nextPipe parent.table = some fds) :
    (ParentFds.afterPhpInit hfds).Live := by
  refine ⟨h.nodup, fun node hnode => ?_⟩
  obtain ⟨write, hopen⟩ := h.open_end node hnode
  refine ⟨write, kept_of_opens (phpDescriptors_opened hfds).opens (fun fd hfd => ?_) hopen⟩
  simp only [List.mem_cons, List.not_mem_nil, or_false] at hfd
  rcases hfd with rfl | rfl | rfl
  · simp [PhpFds.new, pipeEnds]
  · simp [PhpFds.new, pipeEnds]
  · exact childStdin_mem_new fds _

/-- One closed descriptor leaves the others as they are. -/
theorem kept_of_ne {fd n : Nat} {entry : Descriptor OpenFile} (hne : n ≠ fd)
    (h : parent.table n = some entry) :
    (if n ∈ [fd] then none else parent.table n) = some entry := by
  rw [if_neg fun hmem => hne (List.mem_singleton.1 hmem)]
  exact h

theorem Live.afterPclose (h : parent.Live) (fd : Nat) : (parent.afterPclose fd).Live := by
  have hsub : (parent.afterPclose fd).pidFds.Sublist parent.pidFds :=
    List.eraseP_sublist.map PipeEntry.fd
  refine ⟨h.nodup.sublist hsub, fun node hnode => ?_⟩
  obtain ⟨write, hopen⟩ := h.open_end node (List.mem_of_mem_eraseP hnode)
  have hfds : (parent.afterPclose fd).pidFds = parent.pidFds.erase fd := by
    rw [List.erase_eq_eraseP', pidFds, pidFds, List.eraseP_map]
    rfl
  have hne : node.fd ≠ fd := by
    have hmem : node.fd ∈ parent.pidFds.erase fd := hfds ▸ List.mem_map.2 ⟨node, hnode, rfl⟩
    exact (h.nodup.mem_erase_iff.1 hmem).1
  exact ⟨write, kept_of_ne hne hopen⟩

theorem Live.afterClose (h : parent.Live) {fd : Nat} (hfd : fd ∉ parent.pidFds) :
    (parent.afterClose fd).Live := by
  refine ⟨h.nodup, fun node hnode => ?_⟩
  obtain ⟨write, hopen⟩ := h.open_end node hnode
  have hne : node.fd ≠ fd := fun heq => hfd (heq ▸ List.mem_map.2 ⟨node, hnode, rfl⟩)
  exact ⟨write, kept_of_ne hne hopen⟩

theorem Live.afterOpen (h : parent.Live) {fd : Nat} (hfree : parent.table fd = none) (id : Nat)
    (cloexec : Bool) : (parent.afterOpen fd id cloexec).Live := by
  refine ⟨h.nodup, fun node hnode => ?_⟩
  obtain ⟨write, hopen⟩ := h.open_end node hnode
  refine ⟨write, ?_⟩
  have hne : node.fd ≠ fd := fun heq =>
    h.not_mem_of_free hfree (heq ▸ List.mem_map.2 ⟨node, hnode, rfl⟩)
  exact (Table.set_ne _ hne _).trans hopen

theorem Step.live {after : ParentFds} (hstep : Step limit parent after) (h : parent.Live) :
    after.Live := by
  cases hstep with
  | popen hfds => exact h.afterPopen hfds
  | phpInit hfds => exact h.afterPhpInit hfds
  | pclose _ => exact h.afterPclose _
  | closeOther hfd => exact h.afterClose hfd
  | openOther hfree id cloexec => exact h.afterOpen hfree id cloexec

/-- From a daemon without scripts, every registered descriptor stays an open, marked end of
its own pipe. -/
theorem live_of_run {start after : ParentFds} (hstart : start.pidList = [])
    (hrun : Relation.ReflTransGen (Step limit) start after) : after.Live := by
  induction hrun with
  | refl => exact ⟨by rw [pidFds, hstart]; exact List.nodup_nil, by rw [hstart]; nofun⟩
  | tail _ hstep ih => exact hstep.live ih

/-- The three standard descriptors are open, and no script runs. -/
private def freshDaemon : ParentFds where
  table n := if n < 3 then some ⟨.other n, false⟩ else none
  pidList := []
  nextPipe := 0
  numbered := by
    intro fd entry pipe write hentry hfile
    split_ifs at hentry
    cases hentry
    cases hfile
  registered := nofun
  marked := by
    intro fd entry hentry hend
    split_ifs at hentry
    cases hentry
    exact hend.elim

/-- A script is started, and other code closes the standard input. -/
theorem live_of_run_script : ∃ after, Relation.ReflTransGen (Step 16) freshDaemon after ∧
    after.pidFds = [3] ∧ after.table 0 = none ∧ after.Live := by
  obtain ⟨fds, hfds, hfd⟩ : ∃ fds, popenDescriptors 16 .read freshDaemon.nextPipe
      freshDaemon.table = some fds ∧ fds.rd = 3 := ⟨_, rfl, rfl⟩
  have hpids : (afterPopen hfds).pidFds = [3] := congrArg (fun fd => [fd]) hfd
  have hrun : Relation.ReflTransGen (Step 16) freshDaemon ((afterPopen hfds).afterClose 0) :=
    (Relation.ReflTransGen.single (Step.popen hfds)).tail
      (Step.closeOther (by rw [hpids]; decide))
  exact ⟨_, hrun, hpids, rfl, live_of_run rfl hrun⟩

end ParentFds

end Spine
