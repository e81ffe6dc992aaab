import Spine.Process.Popen

/-!
# The descriptors that a child starts with

A script of `nft_popen` and a script server of `php_init` get their pipe ends through the
file actions of `posix_spawn`.  The daemon may have been started with descriptors 0, 1 or
2 closed, so that an end can sit on a standard descriptor already, on its own or on
another one.

* `ParentFds` is the descriptor table of the daemon with the registry `PidList`.  Pipes
  have numbers, and every descriptor of a registered pipe is close-on-exec.
* `popenDescriptors` and `phpDescriptors` open the ends of one spawn, and
  `popenActions` and `phpActions` are the file actions.
* `Wired` says that the child has its ends on the standard descriptors and no other
  descriptor of this spawn's pipes or of a registered one.

Every call for the file actions succeeds, and no other thread changes descriptors in the
meantime.
-/

namespace Spine

open Base.Descriptors

/-! ## The descriptors of the daemon -/

/-- What a descriptor refers to.  A socket pair counts as a pipe. -/
inductive OpenFile where
  | pipeEnd (pipe : Nat) (write : Bool)
  | other (id : Nat)
  deriving DecidableEq, Repr

/-- An end of one of the pipes. -/
def OpenFile.isEndOf (pipes : List Nat) : OpenFile → Prop
  | .pipeEnd pipe _ => pipe ∈ pipes
  | .other _ => False

/-- A registry entry with the pipe that its descriptor is an end of. -/
structure PipeEntry where
  fd : Nat
  pipe : Nat
  deriving DecidableEq, Repr

/-- The descriptors and the registry of the daemon.  The pipes have numbers below
`nextPipe`, and the ends of the registered ones are close-on-exec. -/
structure ParentFds where
  table : Table OpenFile
  pidList : List PipeEntry
  nextPipe : Nat
  numbered : ∀ fd entry pipe write, table fd = some entry → entry.file = .pipeEnd pipe write →
    pipe < nextPipe
  registered : ∀ node ∈ pidList, node.pipe < nextPipe
  marked : ∀ fd entry, table fd = some entry → entry.file.isEndOf (pidList.map PipeEntry.pipe) →
    entry.cloexec = true

def ParentFds.pipes (parent : ParentFds) : List Nat := parent.pidList.map PipeEntry.pipe

def ParentFds.pidFds (parent : ParentFds) : List Nat := parent.pidList.map PipeEntry.fd

/-! ## The ends of a spawn -/

/-- `spine_open_pipe_cloexec`. -/
def openPipeCloexec (limit pipe : Nat) (t : Table OpenFile) :
    Option (Table OpenFile × Nat × Nat) :=
  match Base.Descriptors.pipe limit (.pipeEnd pipe false) (.pipeEnd pipe true) t with
  | none => none
  | some (opened, rd, wr) => some (setCloexec wr (setCloexec rd opened), rd, wr)

/-- `spine_dup_cloexec`, for an end that already sits on its standard descriptor. -/
def dupCloexecIfOn (limit fd std : Nat) (t : Table OpenFile) :
    Option (Table OpenFile × Option Nat) :=
  if fd = std then
    match dup limit fd t with
    | none => none
    | some (opened, copy) => some (setCloexec copy opened, some copy)
  else some (t, none)

/-- The table and the descriptors of `nft_popen`. -/
structure PopenFds where
  table : Table OpenFile
  rd : Nat
  wr : Nat
  inheritFd : Option Nat

/-- What `nft_popen` opens before the spawn. -/
def popenDescriptors (limit : Nat) (mode : PopenMode) (pipe : Nat) (t : Table OpenFile) :
    Option PopenFds :=
  match openPipeCloexec limit pipe t with
  | none => none
  | some (opened, rd, wr) =>
    match dupCloexecIfOn limit (mode.childEnd rd wr) mode.target opened with
    | none => none
    | some (opened, inheritFd) => some ⟨opened, rd, wr, inheritFd⟩

/-- The table and the descriptors of `php_init`. -/
structure PhpFds where
  table : Table OpenFile
  cacti2phpRead : Nat
  cacti2phpWrite : Nat
  php2cactiRead : Nat
  php2cactiWrite : Nat
  dupStdin : Option Nat
  dupStdout : Option Nat

/-- What `php_init` opens before a spawn: the pipe for the requests, the pipe for the
responses, and the duplicates. -/
def phpDescriptors (limit pipe : Nat) (t : Table OpenFile) : Option PhpFds :=
  match openPipeCloexec limit pipe t with
  | none => none
  | some (opened, requestRead, requestWrite) =>
    match openPipeCloexec limit (pipe + 1) opened with
    | none => none
    | some (opened, responseRead, responseWrite) =>
      match dupCloexecIfOn limit requestRead 0 opened with
      | none => none
      | some (opened, dupStdin) =>
        match dupCloexecIfOn limit responseWrite 1 opened with
        | none => none
        | some (opened, dupStdout) =>
          some ⟨opened, requestRead, requestWrite, responseRead, responseWrite, dupStdin, dupStdout⟩

def phpAddcloseUnlessStd (fd : Nat) : List FileAction :=
  if fd = 0 ∨ fd = 1 then [] else [.close fd]

def phpActions (fds : PhpFds) : List FileAction :=
  [.dup2 (fds.dupStdin.getD fds.cacti2phpRead) 0,
    .dup2 (fds.dupStdout.getD fds.php2cactiWrite) 1] ++
    phpAddcloseUnlessStd fds.cacti2phpRead ++ phpAddcloseUnlessStd fds.cacti2phpWrite ++
    phpAddcloseUnlessStd fds.php2cactiRead ++ phpAddcloseUnlessStd fds.php2cactiWrite ++
    (fds.dupStdin.toList ++ fds.dupStdout.toList).map .close

/-! ## What the parent has open -/

/-- The entries of a new pipe. -/
def pipeEnds (pipe rd wr : Nat) : List (Nat × Descriptor OpenFile) :=
  [(rd, ⟨.pipeEnd pipe false, true⟩), (wr, ⟨.pipeEnd pipe true, true⟩)]

/-- The entry of a duplicate. -/
def duplicateEnd (file : OpenFile) (inheritFd : Option Nat) : List (Nat × Descriptor OpenFile) :=
  inheritFd.toList.map fun copy => (copy, ⟨file, true⟩)

theorem read_mem_pipeEnds (pipe rd wr : Nat) :
    (rd, ⟨.pipeEnd pipe false, true⟩) ∈ pipeEnds pipe rd wr :=
  List.mem_cons_self

theorem write_mem_pipeEnds (pipe rd wr : Nat) :
    (wr, ⟨.pipeEnd pipe true, true⟩) ∈ pipeEnds pipe rd wr :=
  List.mem_cons_of_mem _ (List.mem_singleton.2 rfl)

theorem mem_duplicateEnd (file : OpenFile) (copy : Nat) :
    (copy, ⟨file, true⟩) ∈ duplicateEnd file (some copy) :=
  List.mem_singleton.2 rfl

section Opening

variable {limit pipe fd std rd wr : Nat} {t t' : Table OpenFile} {inheritFd : Option Nat}
  {mode : PopenMode} {file : OpenFile}

/-- A new pipe has the two lowest free numbers, so that everything up to the higher one
is open. -/
theorem openPipeCloexec_opens (h : openPipeCloexec limit pipe t = some (t', rd, wr)) :
    Opens t t' (pipeEnds pipe rd wr) ∧ rd < wr ∧ ∀ n ≤ wr, t' n ≠ none := by
  unfold openPipeCloexec at h
  split at h
  · cases h
  · rename_i opened rd' wr' hpipe
    cases h
    obtain ⟨hread, hwrite, rfl⟩ := pipe_eq_some hpipe
    have hlt : rd < wr := lowestFree_lt hread hwrite
    obtain ⟨hfree, -⟩ := lowestFree_eq_some hread
    obtain ⟨hfree', hbusy⟩ := lowestFree_eq_some hwrite
    have htable : setCloexec wr (setCloexec rd
        ((t.set rd (some ⟨.pipeEnd pipe false, false⟩)).set wr
          (some ⟨.pipeEnd pipe true, false⟩))) =
        (t.set rd (some ⟨.pipeEnd pipe false, true⟩)).set wr (some ⟨.pipeEnd pipe true, true⟩) := by
      rw [setCloexec_set_of_ne _ (Nat.ne_of_lt hlt), setCloexec_set_self, setCloexec_set_self]
    rw [htable]
    refine ⟨?_, hlt, fun n hn => ?_⟩
    · have hwr : (t.set rd (some ⟨.pipeEnd pipe false, true⟩)) wr = none := by
        rw [Table.set_ne _ (Nat.ne_of_gt hlt)] at hfree' ⊢
        exact hfree'
      exact (opens_set hfree _).trans (opens_set hwr _)
    · rcases Nat.lt_or_eq_of_le hn with hn | hn
      · rw [Table.set_ne _ (Nat.ne_of_lt hn)]
        by_cases hrd : n = rd
        · rw [hrd, Table.set_same]
          nofun
        · have hopen := hbusy n hn
          rw [Table.set_ne _ hrd] at hopen ⊢
          exact hopen
      · rw [hn, Table.set_same]
        nofun

/-- An end that does not sit on its standard descriptor is used itself, and one that
does is duplicated. -/
theorem dupCloexecIfOn_opens {cloexec : Bool} (hfd : t fd = some ⟨file, cloexec⟩)
    (h : dupCloexecIfOn limit fd std t = some (t', inheritFd)) :
    Opens t t' (duplicateEnd file inheritFd) ∧
      (fd ≠ std ∧ inheritFd = none ∨ fd = std ∧ ∃ copy, inheritFd = some copy) := by
  unfold dupCloexecIfOn at h
  split_ifs at h with hon
  · split at h
    · cases h
    · rename_i opened copy hdup
      cases h
      obtain ⟨entry, hentry, hfree, rfl⟩ := dup_eq_some hdup
      rw [hfd] at hentry
      cases hentry
      rw [setCloexec_set_self]
      exact ⟨opens_set (lowestFree_eq_some hfree).1 _, Or.inr ⟨hon, copy, rfl⟩⟩
  · cases h
    exact ⟨opens_nil _, Or.inl ⟨hon, rfl⟩⟩

end Opening

/-! ## The child -/

/-- The child has the ends on these descriptors, and no other descriptor of the pipes of
this spawn or of a registered one. -/
def Wired (parent : ParentFds) (pipes : List Nat) (ends : List (Nat × OpenFile))
    (child : Table OpenFile) : Prop :=
  (∀ p ∈ ends, child p.1 = some ⟨p.2, false⟩) ∧
    ∀ n entry, child n = some entry → n ∉ ends.map Prod.fst →
      ¬ entry.file.isEndOf (pipes ++ parent.pipes)

/-- A descriptor that the child has from before the spawn is of no new and of no
registered pipe. -/
theorem ParentFds.not_isEndOf (parent : ParentFds) {pipes : List Nat}
    (hnew : ∀ pipe ∈ pipes, parent.nextPipe ≤ pipe) {n : Nat} {entry : Descriptor OpenFile}
    (hentry : parent.table n = some entry) (hcloexec : entry.cloexec = false) :
    ¬ entry.file.isEndOf (pipes ++ parent.pipes) := by
  intro hend
  cases hfile : entry.file with
  | other id =>
    rw [hfile] at hend
    exact hend
  | pipeEnd pipe write =>
    rw [hfile] at hend
    rcases List.mem_append.1 hend with hspawn | hregistered
    · have hlow := parent.numbered n entry pipe write hentry hfile
      have hhigh := hnew pipe hspawn
      omega
    · have hmarked := parent.marked n entry hentry (by rw [hfile]; exact hregistered)
      rw [hcloexec] at hmarked
      cases hmarked

/-- How a child is wired: the redirected descriptors are not closed again, and what was
opened for the spawn is closed or lies under a redirected descriptor. -/
theorem wired_of_closes (parent : ParentFds) {pipes : List Nat}
    (hnew : ∀ pipe ∈ pipes, parent.nextPipe ≤ pipe) {ends : List (Nat × OpenFile)}
    {t middle : Table OpenFile} {new : List (Nat × Descriptor OpenFile)} {closes : List Nat}
    (hopens : Opens parent.table t new)
    (hends : ∀ p ∈ ends, middle p.1 = some ⟨p.2, false⟩ ∧ p.1 ∉ closes)
    (hrest : ∀ n, n ∉ ends.map Prod.fst → n ∉ closes → middle n ≠ none →
      n ∉ new.map Prod.fst ∧ middle n = t n) :
    Wired parent pipes ends (closeOnExec fun n => if n ∈ closes then none else middle n) := by
  constructor
  · intro p hp
    obtain ⟨hmiddle, hkept⟩ := hends p hp
    apply closeOnExec_unmarked
    rw [if_neg hkept]
    exact hmiddle
  · intro n entry hchild hn
    obtain ⟨hentry, hcloexec⟩ := closeOnExec_eq_some hchild
    split_ifs at hentry with hclosed
    obtain ⟨hold, hsame⟩ := hrest n hn hclosed (by rw [hentry]; nofun)
    rw [hsame, hopens.same n hold] at hentry
    exact parent.not_isEndOf hnew hentry hcloexec

/-! ## The child of `nft_popen` -/

/-- The end that the script gets. -/
def PopenMode.childFile (mode : PopenMode) (pipe : Nat) : OpenFile :=
  .pipeEnd pipe (mode != .write)

/-- Where the script has its end. -/
def PopenMode.childEnds (mode : PopenMode) (pipe : Nat) : List (Nat × OpenFile) :=
  match mode with
  | .read => [(1, mode.childFile pipe)]
  | .duplex => [(1, mode.childFile pipe), (0, mode.childFile pipe)]
  | .write => [(0, mode.childFile pipe)]

/-- The descriptor that the script's end is copied from. -/
def PopenFds.source (fds : PopenFds) (mode : PopenMode) : Nat :=
  fds.inheritFd.getD (mode.childEnd fds.rd fds.wr)

/-- The entries that are opened for a script. -/
def PopenFds.new (fds : PopenFds) (mode : PopenMode) (pipe : Nat) :
    List (Nat × Descriptor OpenFile) :=
  pipeEnds pipe fds.rd fds.wr ++ duplicateEnd (mode.childFile pipe) fds.inheritFd

/-- What `nft_popen` has opened.  The source is not yet where it belongs, and every new
descriptor is the parent's end, the source or on the standard descriptor. -/
structure PopenOpened (mode : PopenMode) (pipe : Nat) (t : Table OpenFile) (fds : PopenFds) :
    Prop where
  opens : Opens t fds.table (fds.new mode pipe)
  ordered : fds.rd < fds.wr
  source : fds.table (fds.source mode) = some ⟨mode.childFile pipe, true⟩
  source_ne_target : fds.source mode ≠ mode.target
  source_ne_parent : fds.source mode ≠ mode.parentEnd fds.rd fds.wr
  covered : ∀ n ∈ (fds.new mode pipe).map Prod.fst,
    n = mode.parentEnd fds.rd fds.wr ∨ n = fds.source mode ∨ n = mode.target

section Script

variable {limit pipe : Nat} {mode : PopenMode} {t : Table OpenFile} {fds : PopenFds}

theorem childEnd_ne_parentEnd {rd wr : Nat} (h : rd < wr) (mode : PopenMode) :
    mode.childEnd rd wr ≠ mode.parentEnd rd wr := by
  cases mode <;> simp [PopenMode.childEnd, PopenMode.parentEnd] <;> omega

theorem mem_pipeEnds_fst {rd wr n : Nat} (mode : PopenMode)
    (h : n ∈ (pipeEnds pipe rd wr).map Prod.fst) :
    n = mode.parentEnd rd wr ∨ n = mode.childEnd rd wr := by
  simp only [pipeEnds, List.map_cons, List.map_nil, List.mem_cons, List.not_mem_nil, or_false] at h
  cases mode <;> simp [PopenMode.childEnd, PopenMode.parentEnd] <;> tauto

theorem childEnd_mem_pipeEnds (mode : PopenMode) (pipe rd wr : Nat) :
    (mode.childEnd rd wr, ⟨mode.childFile pipe, true⟩) ∈ pipeEnds pipe rd wr := by
  cases mode
  · exact write_mem_pipeEnds pipe rd wr
  · exact read_mem_pipeEnds pipe rd wr
  · exact write_mem_pipeEnds pipe rd wr

theorem parentEnd_mem_pipeEnds (mode : PopenMode) (pipe rd wr : Nat) :
    (mode.parentEnd rd wr, ⟨.pipeEnd pipe (mode == .write), true⟩) ∈ pipeEnds pipe rd wr := by
  cases mode
  · exact read_mem_pipeEnds pipe rd wr
  · exact write_mem_pipeEnds pipe rd wr
  · exact read_mem_pipeEnds pipe rd wr

theorem popenDescriptors_opened (h : popenDescriptors limit mode pipe t = some fds) :
    PopenOpened mode pipe t fds := by
  unfold popenDescriptors at h
  split at h
  · cases h
  rename_i opened rd wr hpipe
  split at h
  · cases h
  rename_i table inheritFd hdup
  cases h
  obtain ⟨hends, hlt, -⟩ := openPipeCloexec_opens hpipe
  have hchild := hends.opened _ (childEnd_mem_pipeEnds mode pipe rd wr)
  have hparent := hends.opened _ (parentEnd_mem_pipeEnds mode pipe rd wr)
  obtain ⟨hcopy, hinherit⟩ := dupCloexecIfOn_opens hchild hdup
  have hopens := hends.trans hcopy
  rcases hinherit with ⟨hoff, rfl⟩ | ⟨hon, copy, rfl⟩
  · refine ⟨hopens, hlt, hcopy.of_open hchild, hoff, childEnd_ne_parentEnd hlt mode,
      fun n hn => ?_⟩
    have hmem : n ∈ (pipeEnds pipe rd wr).map Prod.fst := by
      simpa [PopenFds.new, duplicateEnd] using hn
    rcases mem_pipeEnds_fst mode hmem with hn | hn
    · exact Or.inl hn
    · exact Or.inr (Or.inl hn)
  · -- the duplicate has a number that was free, unlike both ends
    have hfree : opened copy = none := hcopy.free _ (mem_duplicateEnd _ copy)
    refine ⟨hopens, hlt, hcopy.opened _ (mem_duplicateEnd _ copy), ?_, ?_, fun n hn => ?_⟩
    · show copy ≠ mode.target
      intro heq
      rw [heq, ← hon, hchild] at hfree
      cases hfree
    · show copy ≠ mode.parentEnd rd wr
      intro heq
      rw [heq, hparent] at hfree
      cases hfree
    · have hmem : n ∈ (pipeEnds pipe rd wr).map Prod.fst ∨ n = copy := by
        simpa [PopenFds.new, duplicateEnd] using hn
      rcases hmem with hmem | hn
      · rcases mem_pipeEnds_fst mode hmem with hn | hn
        · exact Or.inl hn
        · exact Or.inr (Or.inr (hn.trans hon))
      · exact Or.inr (Or.inl hn)

theorem mem_olderFds_not_target {pidFds : List Nat} {n : Nat} (h : n ∈ olderFds mode pidFds) :
    mode.isTarget n = false := by
  simpa using (List.mem_filter.1 h).2

/-- The redirected descriptors are the targets. -/
theorem isTarget_of_mem_childEnds {p : Nat × OpenFile} (h : p ∈ mode.childEnds pipe) :
    mode.isTarget p.1 = true ∧ p.2 = mode.childFile pipe := by
  cases mode <;> simp [PopenMode.childEnds] at h
  · simp [h, PopenMode.isTarget]
  · simp [h, PopenMode.isTarget]
  · rcases h with h | h <;> simp [h, PopenMode.isTarget]

theorem isTarget_iff_mem_childEnds {n : Nat} :
    n ∈ (mode.childEnds pipe).map Prod.fst ↔ mode.isTarget n = true := by
  cases mode <;> simp [PopenMode.childEnds, PopenMode.isTarget]

/-- An end is put on a standard descriptor, and its source is closed. -/
theorem runActions_redirect {file : OpenFile} {cloexec : Bool} {source target : Nat}
    (hopen : t source = some ⟨file, cloexec⟩) (hne : source ≠ target) (later : List FileAction) :
    runActions (.dup2 source target :: .close source :: later) t =
      runActions later ((t.set target (some ⟨file, false⟩)).set source none) := by
  rw [runActions_dup2 hopen hne, runActions_close]

/-- The table after the actions on this spawn's ends: the script's end on its targets,
and the source and the parent's end closed. -/
theorem runActions_endActions (h : PopenOpened mode pipe t fds) :
    ∃ middle, runActions (endActions mode fds.rd fds.wr fds.inheritFd) fds.table = some middle ∧
      ∀ n, middle n =
        if mode.isTarget n then some ⟨mode.childFile pipe, false⟩
        else if n = mode.parentEnd fds.rd fds.wr ∨ n = fds.source mode then none
        else fds.table n := by
  obtain ⟨-, hlt, hsource, htarget, hparent, -⟩ := h
  generalize hsrc : fds.source mode = src at hsource htarget hparent
  generalize hfile : mode.childFile pipe = file at hsource
  cases mode with
  | read =>
    have htarget : src ≠ 1 := htarget
    have hopen : fds.table.set fds.rd none src = some ⟨file, true⟩ :=
      (Table.set_ne _ hparent _).trans hsource
    refine ⟨((fds.table.set fds.rd none).set 1 (some ⟨file, false⟩)).set src none, ?_,
      fun n => ?_⟩
    · show runActions [.close fds.rd, .dup2 (fds.source .read) 1, .close (fds.source .read)] _ = _
      rw [hsrc, runActions_close, runActions_redirect hopen htarget]
      rfl
    · simp only [Table.set, PopenMode.isTarget, PopenMode.parentEnd]
      grind
  | write =>
    have htarget : src ≠ 0 := htarget
    refine ⟨((fds.table.set 0 (some ⟨file, false⟩)).set src none).set fds.wr none, ?_,
      fun n => ?_⟩
    · show runActions [.dup2 (fds.source .write) 0, .close (fds.source .write), .close fds.wr] _ = _
      rw [hsrc, runActions_redirect hsource htarget]
      rfl
    · simp only [Table.set, PopenMode.isTarget, PopenMode.parentEnd]
      grind
  | duplex =>
    have htarget : src ≠ 1 := htarget
    have hopen : fds.table.set fds.rd none src = some ⟨file, true⟩ :=
      (Table.set_ne _ hparent _).trans hsource
    have hone : ((fds.table.set fds.rd none).set 1 (some ⟨file, false⟩)).set src none 1 =
        some ⟨file, false⟩ := by
      rw [Table.set_ne _ (Ne.symm htarget)]
      exact Table.set_same _ _ _
    refine ⟨(((fds.table.set fds.rd none).set 1 (some ⟨file, false⟩)).set src none).set 0
      (some ⟨file, false⟩), ?_, fun n => ?_⟩
    · show runActions [.close fds.rd, .dup2 (fds.source .duplex) 1, .close (fds.source .duplex),
        .dup2 1 0] _ = _
      rw [hsrc, runActions_close, runActions_redirect hopen htarget,
        runActions_dup2 hone (by decide)]
      rfl
    · simp only [Table.set, PopenMode.isTarget, PopenMode.parentEnd]
      grind

/-- The child of `nft_popen` in any mode. -/
theorem popen_wired (parent : ParentFds)
    (h : popenDescriptors limit mode parent.nextPipe parent.table = some fds) :
    ∃ child, childTable (popenActions mode fds.rd fds.wr fds.inheritFd parent.pidFds) fds.table =
        some child ∧
      Wired parent [parent.nextPipe] (mode.childEnds parent.nextPipe) child := by
  have hopened := popenDescriptors_opened h
  obtain ⟨middle, hrun, hmiddle⟩ := runActions_endActions hopened
  refine ⟨_, childTable_closes hrun _, wired_of_closes parent ?_ hopened.opens ?_ ?_⟩
  · intro pipe hpipe
    exact Nat.le_of_eq (List.mem_singleton.1 hpipe).symm
  · intro p hp
    obtain ⟨htarget, hfile⟩ := isTarget_of_mem_childEnds hp
    refine ⟨?_, fun hclosed => ?_⟩
    · rw [hmiddle, if_pos htarget, hfile]
    · rw [mem_olderFds_not_target hclosed] at htarget
      cases htarget
  · intro n hn _ hopen
    rw [isTarget_iff_mem_childEnds] at hn
    rw [hmiddle, if_neg hn] at hopen ⊢
    split_ifs at hopen ⊢ with hown
    · exact absurd rfl hopen
    · refine ⟨fun hmem => ?_, rfl⟩
      rcases hopened.covered n hmem with hparent | hsource | htarget
      · exact hown (Or.inl hparent)
      · exact hown (Or.inr hsource)
      · apply hn
        rw [htarget]
        cases mode <;> rfl

end Script

/-! ## The child of `php_init` -/

/-- The descriptor that the server's standard input is copied from. -/
def PhpFds.childStdin (fds : PhpFds) : Nat := fds.dupStdin.getD fds.cacti2phpRead

/-- The descriptor that its standard output is copied from. -/
def PhpFds.childStdout (fds : PhpFds) : Nat := fds.dupStdout.getD fds.php2cactiWrite

/-- The entries that are opened for a server. -/
def PhpFds.new (fds : PhpFds) (pipe : Nat) : List (Nat × Descriptor OpenFile) :=
  pipeEnds pipe fds.cacti2phpRead fds.cacti2phpWrite ++
    (pipeEnds (pipe + 1) fds.php2cactiRead fds.php2cactiWrite ++
      duplicateEnd (.pipeEnd pipe false) fds.dupStdin)

/-- What `php_init` has opened.  The second pipe is above the first one, so that its
write end never sits on a standard descriptor and has no duplicate. -/
structure PhpOpened (pipe : Nat) (t : Table OpenFile) (fds : PhpFds) : Prop where
  opens : Opens t fds.table (fds.new pipe)
  noDupStdout : fds.dupStdout = none
  high : 3 ≤ fds.php2cactiWrite
  stdin : fds.table fds.childStdin = some ⟨.pipeEnd pipe false, true⟩
  stdin_ne : fds.childStdin ≠ 0
  stdout : fds.table fds.php2cactiWrite = some ⟨.pipeEnd (pipe + 1) true, true⟩
  dupStdin_gt : ∀ copy, fds.dupStdin = some copy → 3 < copy

/-- A descriptor that is closed unless it is a redirected one. -/
def unlessStd (fd : Nat) : List Nat := if fd = 0 ∨ fd = 1 then [] else [fd]

/-- The descriptors that the file actions close. -/
def PhpFds.closes (fds : PhpFds) : List Nat :=
  unlessStd fds.cacti2phpRead ++ unlessStd fds.cacti2phpWrite ++ unlessStd fds.php2cactiRead ++
    unlessStd fds.php2cactiWrite ++ (fds.dupStdin.toList ++ fds.dupStdout.toList)

section Server

variable {limit pipe n : Nat} {t : Table OpenFile} {fds : PhpFds}

theorem phpAddcloseUnlessStd_eq (fd : Nat) :
    phpAddcloseUnlessStd fd = (unlessStd fd).map .close := by
  unfold phpAddcloseUnlessStd unlessStd
  split_ifs
  · rfl
  · rfl

theorem mem_unlessStd {fd : Nat} : n ∈ unlessStd fd ↔ n = fd ∧ n ≠ 0 ∧ n ≠ 1 := by
  unfold unlessStd
  split_ifs with hstd
  · simp
    omega
  · simp
    omega

theorem phpActions_eq (fds : PhpFds) :
    phpActions fds =
      [.dup2 fds.childStdin 0, .dup2 fds.childStdout 1] ++ fds.closes.map .close := by
  simp only [phpActions, PhpFds.closes, PhpFds.childStdin, PhpFds.childStdout,
    phpAddcloseUnlessStd_eq, List.map_append, List.append_assoc]

/-- Two pipes take at least four numbers, and the last one is the highest. -/
theorem second_write_ge {opened opened' : Table OpenFile} {rd wr rd' wr' pipe' : Nat}
    (h : openPipeCloexec limit pipe t = some (opened, rd, wr))
    (h' : openPipeCloexec limit pipe' opened = some (opened', rd', wr')) : 3 ≤ wr' := by
  obtain ⟨-, hlt, hbusy⟩ := openPipeCloexec_opens h
  obtain ⟨hends, hlt', -⟩ := openPipeCloexec_opens h'
  have hfree : opened rd' = none := hends.free _ (read_mem_pipeEnds pipe' rd' wr')
  have habove : wr < rd' := by
    by_contra hle
    exact hbusy rd' (by omega) hfree
  omega

theorem phpDescriptors_opened (h : phpDescriptors limit pipe t = some fds) :
    PhpOpened pipe t fds := by
  unfold phpDescriptors at h
  split at h
  · cases h
  rename_i opened₁ requestRead requestWrite hrequest
  split at h
  · cases h
  rename_i opened₂ responseRead responseWrite hresponse
  split at h
  · cases h
  rename_i opened₃ dupStdin hstdin
  split at h
  · cases h
  rename_i opened₄ dupStdout hstdout
  cases h
  obtain ⟨hends, -, -⟩ := openPipeCloexec_opens hrequest
  obtain ⟨hends', -, hbusy'⟩ := openPipeCloexec_opens hresponse
  have hhigh : 3 ≤ responseWrite := second_write_ge hrequest hresponse
  have hread : opened₂ requestRead = some ⟨.pipeEnd pipe false, true⟩ :=
    hends'.of_open (hends.opened _ (read_mem_pipeEnds _ _ _))
  have hwrite : opened₂ responseWrite = some ⟨.pipeEnd (pipe + 1) true, true⟩ :=
    hends'.opened _ (write_mem_pipeEnds _ _ _)
  obtain ⟨hcopy, hinherit⟩ := dupCloexecIfOn_opens hread hstdin
  have hgt : ∀ copy, dupStdin = some copy → 3 < copy := by
    intro copy hdup
    rw [hdup] at hcopy
    by_contra hle
    exact hbusy' copy (by omega) (hcopy.free _ (mem_duplicateEnd _ copy))
  obtain ⟨hcopy', hnone | ⟨hone, -⟩⟩ := dupCloexecIfOn_opens (hcopy.of_open hwrite) hstdout
  · obtain ⟨-, rfl⟩ := hnone
    have htable : opened₄ = opened₃ := funext fun n => hcopy'.same n List.not_mem_nil
    subst htable
    refine ⟨hends.trans (hends'.trans hcopy), rfl, hhigh, ?_, ?_, hcopy.of_open hwrite, hgt⟩
    · rcases hinherit with ⟨-, rfl⟩ | ⟨-, copy, rfl⟩
      · exact hcopy.of_open hread
      · exact hcopy.opened _ (mem_duplicateEnd _ copy)
    · rcases hinherit with ⟨hoff, rfl⟩ | ⟨-, copy, rfl⟩
      · exact hoff
      · have hcopied := hgt copy rfl
        show copy ≠ 0
        omega
  · exact absurd hone (by omega)

/-- No redirected descriptor is closed again. -/
theorem PhpOpened.not_closed (h : PhpOpened pipe t fds) (hn : n = 0 ∨ n = 1) :
    n ∉ fds.closes := by
  intro hclosed
  simp only [PhpFds.closes, List.mem_append, mem_unlessStd, h.noDupStdout, Option.toList_none,
    List.not_mem_nil, or_false] at hclosed
  rcases hclosed with hends | hdup
  · omega
  · have hgt := h.dupStdin_gt n (Option.mem_toList.1 hdup)
    omega

/-- Every other new descriptor is closed. -/
theorem mem_closes_of_mem_new (hzero : n ≠ 0) (hone : n ≠ 1)
    (hnew : n ∈ (fds.new pipe).map Prod.fst) : n ∈ fds.closes := by
  have hfds : n = fds.cacti2phpRead ∨ n = fds.cacti2phpWrite ∨ n = fds.php2cactiRead ∨
      n = fds.php2cactiWrite ∨ fds.dupStdin = some n := by
    simpa [PhpFds.new, pipeEnds, duplicateEnd] using hnew
  simp only [PhpFds.closes, List.mem_append, mem_unlessStd, Option.mem_toList]
  tauto

/-- The child of `php_init`. -/
theorem php_wired (parent : ParentFds)
    (h : phpDescriptors limit parent.nextPipe parent.table = some fds) :
    ∃ child, childTable (phpActions fds) fds.table = some child ∧
      Wired parent [parent.nextPipe, parent.nextPipe + 1]
        [(0, .pipeEnd parent.nextPipe false), (1, .pipeEnd (parent.nextPipe + 1) true)] child := by
  have hopened := phpDescriptors_opened h
  have hout : fds.childStdout = fds.php2cactiWrite := by
    rw [PhpFds.childStdout, hopened.noDupStdout]
    rfl
  have hhigh := hopened.high
  have hwrite : fds.table.set 0 (some ⟨.pipeEnd parent.nextPipe false, false⟩) fds.php2cactiWrite =
      some ⟨.pipeEnd (parent.nextPipe + 1) true, true⟩ := by
    rw [Table.set_ne _ (by omega)]
    exact hopened.stdout
  have hrun : runActions [.dup2 fds.childStdin 0, .dup2 fds.childStdout 1] fds.table =
      some ((fds.table.set 0 (some ⟨.pipeEnd parent.nextPipe false, false⟩)).set 1
        (some ⟨.pipeEnd (parent.nextPipe + 1) true, false⟩)) := by
    rw [hout, runActions_dup2 hopened.stdin hopened.stdin_ne, runActions_dup2 hwrite (by omega)]
    rfl
  rw [phpActions_eq]
  refine ⟨_, childTable_closes hrun _, wired_of_closes parent ?_ hopened.opens ?_ ?_⟩
  · intro pipe hpipe
    simp only [List.mem_cons, List.not_mem_nil, or_false] at hpipe
    omega
  · intro p hp
    simp only [List.mem_cons, List.not_mem_nil, or_false] at hp
    rcases hp with rfl | rfl
    · exact ⟨rfl, hopened.not_closed (Or.inl rfl)⟩
    · exact ⟨rfl, hopened.not_closed (Or.inr rfl)⟩
  · intro n hn hkept _
    simp only [List.map_cons, List.map_nil, List.mem_cons, List.not_mem_nil, or_false,
      not_or] at hn
    refine ⟨fun hnew => hkept (mem_closes_of_mem_new hn.1 hn.2 hnew), ?_⟩
    rw [Table.set_ne _ hn.2, Table.set_ne _ hn.1]

end Server

/-- Whatever the daemon has open, a script server gets the read end of the request pipe as
descriptor 0 and the write end of the response pipe as descriptor 1, a script that is read
from gets the write end of its pipe as descriptor 1, and neither gets another descriptor
of its own pipes or of the registry's. -/
theorem children_wired (limit : Nat) (parent : ParentFds) :
    (∀ fds, phpDescriptors limit parent.nextPipe parent.table = some fds →
      ∃ child, childTable (phpActions fds) fds.table = some child ∧
        Wired parent [parent.nextPipe, parent.nextPipe + 1]
          [(0, .pipeEnd parent.nextPipe false), (1, .pipeEnd (parent.nextPipe + 1) true)] child) ∧
    ∀ fds, popenDescriptors limit .read parent.nextPipe parent.table = some fds →
      ∃ child, childTable
          (popenActions .read fds.rd fds.wr fds.inheritFd parent.pidFds) fds.table = some child ∧
        Wired parent [parent.nextPipe] [(1, .pipeEnd parent.nextPipe true)] child :=
  ⟨fun _ h => php_wired parent h, fun _ h => popen_wired parent h⟩

/-- Descriptors 0 and 1 are closed, and an older script's pipe is open. -/
private def closedStandard : ParentFds where
  table n :=
    if n = 2 then some ⟨.other 0, false⟩
    else if n = 3 then some ⟨.pipeEnd 0 false, true⟩
    else none
  pidList := [⟨3, 0⟩]
  nextPipe := 1
  numbered := by
    intro fd entry pipe write hentry hfile
    split_ifs at hentry with htwo hthree
    · cases hentry
      cases hfile
    · cases hentry
      cases hfile
      decide
  registered := by decide
  marked := by
    intro fd entry hentry hend
    split_ifs at hentry with htwo hthree
    · cases hentry
      exact hend.elim
    · cases hentry
      rfl

theorem children_wired_closedStandard :
    ∃ server script, phpDescriptors 16 1 closedStandard.table = some server ∧
      popenDescriptors 16 .read 1 closedStandard.table = some script ∧
      server.cacti2phpRead = 0 ∧ server.dupStdin = some 6 ∧ script.wr = 1 ∧
      script.inheritFd = some 4 ∧
      (∃ child, childTable (phpActions server) server.table = some child ∧
        Wired closedStandard [1, 2] [(0, .pipeEnd 1 false), (1, .pipeEnd 2 true)] child) ∧
      ∃ child, childTable (popenActions .read script.rd script.wr script.inheritFd [3])
          script.table = some child ∧
        Wired closedStandard [1] [(1, .pipeEnd 1 true)] child := by
  obtain ⟨hserver, hscript⟩ := children_wired 16 closedStandard
  exact ⟨_, _, rfl, rfl, rfl, rfl, rfl, rfl, hserver _ rfl, hscript _ rfl⟩

end Spine
