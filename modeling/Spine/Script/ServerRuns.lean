import Spine.Script.ServerStart

/-!
# Every call sequence keeps the slots' resources

* `cmdAttempts_goes` is the retry loop of `php_cmd` with the lock held: an attempt
  starts at most one server.  `phpCmdCall_goes` takes and releases the lock.
* `scanSlots_world` says that the scan of `php_get_process` changes nothing, and
  `recoverSlot_goes` is the recovery of one slot.
* `Allowed` is what the callers of `php_init` keep to: it is called on slots that
  own nothing.  The restarts inside `php_cmd` and `php_get_process` keep to it by
  themselves.
* `phpRun_goes` is the run lemma, and `phpServers_own_resources` the result.
  `phpServers_init_on_live_slot` is a run without `Allowed`.
-/

namespace Spine

open Base.Filing

variable {servers : Int} {w w' : PhpWorld}

/-! ## `php_cmd` -/

theorem usable_iff (w : PhpWorld) (slot : Nat) :
    w.usable slot = true ↔ w.state slot = .ready ∧ (∃ s, w.server slot = some s ∧ 1 < s.pid) ∧
      (w.desc (.read slot)).isSome ∧ (w.desc (.write slot)).isSome := by
  simp only [PhpWorld.usable, Bool.and_eq_true, decide_eq_true_eq, Option.any_eq_true, and_assoc]

theorem restartSlot_goes {slot : Nat} {reply : WaitReply} {env : PhpInitEnv} {ok : Bool}
    (hok : PhpOk w) (h : restartSlot servers slot reply env w = some (w', ok)) :
    Goes (slotCount servers slot) w w' := by
  obtain ⟨hclose, hempty⟩ := phpClose_goes servers slot (fun _ => reply) hok
  exact (hclose.trans (phpInit_goes hclose.ok hempty h)).mono (Nat.zero_add _).le

/-- A command is written to a usable slot whose lock is held. -/
theorem logWrite_goes {slot : Nat} (hok : PhpOk w) (hlocked : w.locked slot = true)
    (husable : w.usable slot = true) : Goes 0 w (w.logWrite slot) := by
  have hsame : SameOwners w (w.logWrite slot) := ⟨rfl, rfl, rfl, rfl, rfl, rfl, rfl, rfl⟩
  refine ⟨hsame.ok hok, hsame.kept, rfl, fun x hx => ?_, le_rfl⟩
  rcases List.mem_append.mp hx with hx | hx
  · exact .inl hx
  · obtain ⟨hready, hserver, hread, hwrite⟩ := (usable_iff w slot).mp husable
    rw [List.mem_singleton.mp hx]
    exact .inr ⟨hready, hserver, hread, hwrite, hlocked⟩

theorem cmdAttempts_goes {slot : Nat} (env : CmdEnv) (hone : slotCount servers slot ≤ 1)
    (left attempt : Nat) (hok : PhpOk w) (hlocked : w.locked slot = true)
    (h : cmdAttempts servers slot env left attempt w = some w') : Goes left w w' := by
  induction left generalizing attempt w with
  | zero =>
    cases h
    exact Goes.refl hok
  | succ left ih =>
    unfold cmdAttempts at h
    split_ifs at h with husable hwritten hread hlast
    · cases h
      exact (Goes.refl hok).mono (Nat.zero_le _)
    · cases h
      have hwrite := logWrite_goes hok hlocked (by simpa using husable)
      exact (hwrite.setState slot .ready).mono (Nat.zero_le _)
    · -- the result could not be read: one restart, and no further attempt
      have hwrite := logWrite_goes hok hlocked (by simpa using husable)
      obtain ⟨⟨m, ok⟩, hrestart, rfl⟩ := Option.map_eq_some_iff.mp h
      have hbusy := hwrite.setState slot .busy
      exact (hbusy.trans (restartSlot_goes hbusy.ok hrestart)).mono (by omega)
    · cases h
      have hwrite := logWrite_goes hok hlocked (by simpa using husable)
      exact (hwrite.trans (phpClose_goes servers slot _ hwrite.ok).1).mono (Nat.zero_le _)
    · -- the command could not be written: a restart, and then the attempts left
      have hwrite := logWrite_goes hok hlocked (by simpa using husable)
      obtain ⟨⟨m, ok⟩, hrestart, hrest⟩ := Option.bind_eq_some_iff.mp h
      have hgoes := hwrite.trans (restartSlot_goes hwrite.ok hrestart)
      dsimp only at hrest
      split_ifs at hrest
      · have hm : m.locked slot = true := hgoes.locked ▸ hlocked
        exact (hgoes.trans (ih (attempt + 1) hgoes.ok hm hrest)).mono (by omega)
      · cases hrest
        exact hgoes.mono (by omega)

/-- What is done under a lock that was free. -/
theorem Goes.underLock {n slot : Nat} (hfree : w.locked slot = false)
    (h : Goes n (w.lock slot) w') : Goes n w (w'.unlock slot) := by
  have hunlock : SameOwners w' (w'.unlock slot) := ⟨rfl, rfl, rfl, rfl, rfl, rfl, rfl, rfl⟩
  have hlock : SameOwners w (w.lock slot) := ⟨rfl, rfl, rfl, rfl, rfl, rfl, rfl, rfl⟩
  refine ⟨hunlock.ok h.ok, (hlock.kept.trans h.kept).trans hunlock.kept, ?_, h.writes, h.spawned⟩
  show Function.update w'.locked slot false = _
  rw [h.locked]
  show Function.update (Function.update w.locked slot true) slot false = _
  rw [Function.update_idem]
  exact Function.update_eq_self_iff.mpr hfree.symm

theorem lock_ok (hok : PhpOk w) (slot : Nat) : PhpOk (w.lock slot) :=
  (show SameOwners w (w.lock slot) from ⟨rfl, rfl, rfl, rfl, rfl, rfl, rfl, rfl⟩).ok hok

theorem phpCmdCall_goes {process : Int} {env : CmdEnv} (hok : PhpOk w)
    (hfree : ∀ i, w.locked i = false) (h : phpCmdCall servers process env w = some w') :
    Goes 3 w w' := by
  unfold phpCmdCall at h
  split_ifs at h with hrange
  · cases h
    exact (Goes.refl hok).mono (Nat.zero_le _)
  · have hone : slotCount servers process.toNat ≤ 1 := by
      refine slotCount_le_one ?_
      simp only [MAX_PHP_SERVERS, PHP_INIT] at hrange ⊢
      omega
    obtain ⟨m, hm, rfl⟩ := Option.map_eq_some_iff.mp h
    refine Goes.underLock (hfree _) (cmdAttempts_goes env hone 3 0 (lock_ok hok _) ?_ hm)
    exact Function.update_self ..

/-! ## `php_get_process` -/

theorem lock_unlock {slot : Nat} (hfree : w.locked slot = false) :
    (w.lock slot).unlock slot = w := by
  have hlocked : Function.update w.locked slot false = w.locked :=
    Function.update_eq_self_iff.mpr hfree.symm
  simp only [PhpWorld.unlock, PhpWorld.lock, Function.update_idem, hlocked]

theorem scanSlots_world (contended : Nat → Bool) (slots : List Nat) (scan : Scan)
    (hfree : ∀ i, w.locked i = false) : (scanSlots contended slots w scan).1 = w := by
  induction slots generalizing scan with
  | nil => rfl
  | cons slot slots ih =>
    unfold scanSlots
    split_ifs
    · exact ih _
    · exact lock_unlock (hfree slot)
    · rw [lock_unlock (hfree slot)]
      exact ih _

/-- A slot that the recovery does not close owns nothing. -/
theorem slotEmpty_of_not_owned {slot : Nat} (hok : PhpOk w)
    (h : ¬ ((w.server slot).any (fun s => decide (1 < s.pid)) || (w.desc (.read slot)).isSome ||
      (w.desc (.write slot)).isSome) = true) : SlotEmpty w slot := by
  simp only [Bool.or_eq_true, not_or, Option.isSome_iff_ne_none, ne_eq, not_not] at h
  refine ⟨?_, h.1.2, h.2⟩
  cases hs : w.server slot with
  | none => rfl
  | some s =>
    have hpid := hok.servers.pid slot s hs
    simp only [hs, Option.any_some, decide_eq_true_eq] at h
    exact absurd hpid h.1.1

theorem slotsEmpty_of_slotEmpty {slot : Nat} (hne : (slot : Int) ≠ PHP_INIT)
    (h : SlotEmpty w slot) : SlotsEmpty servers slot w := by
  intro slots hslots i hi
  rcases slotsOf_cases hslots with ⟨hinit, -⟩ | ⟨-, rfl⟩
  · exact absurd hinit hne
  · rw [List.mem_singleton.mp hi]
    exact h

theorem recoverSlot_goes {slot : Nat} {env : SelectEnv} {ok : Bool} (hok : PhpOk w)
    (hne : (slot : Int) ≠ PHP_INIT) (h : recoverSlot servers slot env w = some (w', ok)) :
    Goes 1 w w' := by
  have hone : slotCount servers slot ≤ 1 := slotCount_le_one hne
  unfold recoverSlot at h
  split at h
  · cases h
    exact (Goes.refl hok).mono (Nat.zero_le _)
  · dsimp only at h
    obtain ⟨⟨m, ok'⟩, hm, hpair⟩ := Option.map_eq_some_iff.mp h
    cases hpair
    split at hm
    · obtain ⟨hclose, hempty⟩ := phpClose_goes servers slot (fun _ => env.reply) hok
      exact (hclose.trans (phpInit_goes hclose.ok hempty hm)).mono (by omega)
    · rename_i howned
      have hempty : SlotsEmpty servers slot w :=
        slotsEmpty_of_slotEmpty hne (slotEmpty_of_not_owned hok howned)
      exact (phpInit_goes hok hempty hm).mono hone

theorem scanSlots_recovery {contended : Nat → Bool} {slots : List Nat} {scan : Scan} {slot : Nat}
    (h : (scanSlots contended slots w scan).2.recovery = some slot) :
    scan.recovery = some slot ∨ slot ∈ slots := by
  induction slots generalizing w scan with
  | nil => exact .inl h
  | cons c slots ih =>
    unfold scanSlots at h
    split_ifs at h
    · exact (ih h).imp_right (List.mem_cons_of_mem c)
    · exact .inl h
    · rcases ih h with hrec | hmem
      · cases hscan : scan.recovery with
        | none =>
          simp only [hscan, Option.none_or, Option.some.injEq] at hrec
          exact .inr (hrec ▸ List.mem_cons_self)
        | some d =>
          rw [hscan] at hrec
          exact .inl hrec
      · exact .inr (List.mem_cons_of_mem c hmem)

/-- Every candidate is one of the at most fifteen slots. -/
theorem candidate_ne_init {start count : Int} {n slot : Nat} (hcount : 0 < count)
    (hmax : count ≤ MAX_PHP_SERVERS)
    (h : slot ∈ (List.range n).map fun k : Nat => ((start + (k : Int)) % count).toNat) :
    (slot : Int) ≠ PHP_INIT := by
  obtain ⟨k, -, rfl⟩ := List.mem_map.mp h
  have hlow := Int.emod_nonneg (start + k) hcount.ne'
  have hhigh := Int.emod_lt_of_pos (start + k) hcount
  simp only [MAX_PHP_SERVERS, PHP_INIT] at hmax ⊢
  omega

theorem phpGetProcess_goes {env : SelectEnv} {slot : Option Nat} (hok : PhpOk w)
    (hfree : ∀ i, w.locked i = false) (h : phpGetProcess servers env w = some (w', slot)) :
    Goes 1 w w' := by
  unfold phpGetProcess at h
  by_cases hservers : servers ≤ 0
  · rw [if_pos hservers] at h
    cases h
    exact (Goes.refl hok).mono (Nat.zero_le _)
  · rw [if_neg hservers] at h
    dsimp only at h
    obtain ⟨u, hu⟩ : ∃ u, u = { w with cursor := (nextCursor (min servers MAX_PHP_SERVERS)
      w.cursor).2 } := ⟨_, rfl⟩
    have hsame : SameOwners w u := by
      rw [hu]
      exact ⟨rfl, rfl, rfl, rfl, rfl, rfl, rfl, rfl⟩
    have hfree' : ∀ i, u.locked i = false := by
      rw [hu]
      exact hfree
    have hgoes : Goes 0 w u := by
      refine ⟨hsame.ok hok, hsame.kept, ?_, ?_, hsame.spawned.le⟩
      · rw [hu]
      · rw [hu]
        exact fun _ => .inl
    rw [← hu, scanSlots_world _ _ _ hfree'] at h
    split at h
    · cases h
      exact hgoes.mono (Nat.zero_le _)
    · cases h
      exact hgoes.mono (Nat.zero_le _)
    · rename_i c hfound hrecovery
      split_ifs at h
      · cases h
        exact hgoes.mono (Nat.zero_le _)
      · obtain ⟨⟨m, ok⟩, hm, hpair⟩ := Option.map_eq_some_iff.mp h
        cases hpair
        have hc : (c : Int) ≠ PHP_INIT := by
          rcases scanSlots_recovery hrecovery with hnone | hmem
          · exact nomatch hnone
          · refine candidate_ne_init ?_ (min_le_right _ _) hmem
            simp only [MAX_PHP_SERVERS]
            omega
        have hrecover := recoverSlot_goes (lock_ok hgoes.ok c) hc hm
        exact hgoes.trans (hrecover.underLock (hfree' c))

/-! ## Sequences of calls -/

/-- `php_init` is called on slots that own nothing. -/
def CallAllowed (servers : Int) (w : PhpWorld) : PhpCall → Prop
  | .init process _ => SlotsEmpty servers process w
  | _ => True

def Allowed (servers : Int) (w : PhpWorld) : List PhpCall → Prop
  | [] => True
  | call :: calls =>
    CallAllowed servers w call ∧ ∀ w', phpCall servers w call = some w' → Allowed servers w' calls

/-- How many servers a call can start. -/
def PhpCall.starts (servers : Int) : PhpCall → Nat
  | .init process _ => slotCount servers process
  | .close _ _ => 0
  | .cmd _ _ => 3
  | .getProcess _ => 1

theorem phpCall_goes {call : PhpCall} (hok : PhpOk w) (hfree : ∀ i, w.locked i = false)
    (hallowed : CallAllowed servers w call) (h : phpCall servers w call = some w') :
    Goes (call.starts servers) w w' := by
  cases call with
  | init process env =>
    obtain ⟨⟨m, ok⟩, hm, rfl⟩ := Option.map_eq_some_iff.mp h
    exact phpInit_goes hok hallowed hm
  | close process replies =>
    cases h
    exact (phpClose_goes servers process replies hok).1
  | cmd process env => exact phpCmdCall_goes hok hfree h
  | getProcess env =>
    obtain ⟨⟨m, slot⟩, hm, rfl⟩ := Option.map_eq_some_iff.mp h
    exact phpGetProcess_goes hok hfree hm

/-- The state after any calls, and what each of them did. -/
theorem phpRun_goes {calls : List PhpCall} (hok : PhpOk w) (hfree : ∀ i, w.locked i = false)
    (hallowed : Allowed servers w calls) (h : phpRun servers w calls = some w') :
    (∃ n, Goes n w w') ∧ ∀ before call after u v, calls = before ++ call :: after →
      phpRun servers w before = some u → phpCall servers u call = some v →
        Goes (call.starts servers) u v := by
  induction calls generalizing w with
  | nil =>
    cases h
    exact ⟨⟨0, Goes.refl hok⟩, fun before call after u v he => by simp at he⟩
  | cons first calls ih =>
    obtain ⟨m, hm, hrest⟩ := Option.bind_eq_some_iff.mp h
    have hfirst := phpCall_goes hok hfree hallowed.1 hm
    have hfree' : ∀ i, m.locked i = false := by
      rw [hfirst.locked]
      exact hfree
    obtain ⟨⟨n, hgoes⟩, hcalls⟩ := ih hfirst.ok hfree' (hallowed.2 m hm) hrest
    refine ⟨⟨_, hfirst.trans hgoes⟩, fun before call after u v he hu hv => ?_⟩
    cases before with
    | nil =>
      cases he
      cases hu
      exact phpCall_goes hok hfree hallowed.1 hv
    | cons b before =>
      rw [List.cons_append, List.cons.injEq] at he
      obtain ⟨rfl, he⟩ := he
      obtain ⟨m', hm', hu⟩ := Option.bind_eq_some_iff.mp hu
      cases hm.symm.trans hm'
      exact hcalls before call after u v he hu hv

theorem PhpStart.ok (h : PhpStart w) : PhpOk w := by
  refine ⟨⟨?_, fun p d hd => ?_, h.stray⟩, ⟨?_, fun i s hs => ?_⟩, fun v => h.desc _⟩
  · rw [h.opened]
    exact Filed.nothing h.desc fun r => by cases r; exact h.closed
  · exact nomatch (h.desc p).symm.trans hd
  · rw [h.spawned]
    refine Filed.nothing h.server fun r => ?_
    cases r with
    | reaped => exact h.reaped
    | abandoned => exact h.abandoned
  · exact nomatch (h.server i).symm.trans hs

/-- Over any calls that start servers only on slots that own nothing, and with
every answer of the system: each descriptor that was opened stands in one field of
one slot or was closed, once and as itself, each server stands in one slot, was
reaped once or was abandoned once, each command went to a ready slot with its lock
held, and no lock is left.  A call loses nothing that a slot had, and `php_cmd`
starts at most three servers. -/
theorem phpServers_own_resources {calls : List PhpCall} (hstart : PhpStart w)
    (hallowed : Allowed servers w calls) (hrun : phpRun servers w calls = some w') :
    (∀ k < w'.opened, ∃! h, holds w'.desc Desc.serial w'.fdRecords h k) ∧
      (∀ v, w'.desc (.var v) = none) ∧ w'.closed.Nodup ∧ w'.stray = [] ∧
      (∀ k < w'.spawned, ∃! h, holds w'.server Server.serial w'.serverRecords h k) ∧
      (∀ r, (w'.serverRecords r).Nodup) ∧
      (∀ x ∈ w'.writes, x.Valid) ∧
      (∀ slot, w'.locked slot = false) ∧
      ∀ before call after u v, calls = before ++ call :: after →
        phpRun servers w before = some u → phpCall servers u call = some v →
          Kept u v ∧ ∀ process env, call = .cmd process env → v.spawned ≤ u.spawned + 3 := by
  obtain ⟨⟨n, hgoes⟩, hcalls⟩ := phpRun_goes hstart.ok hstart.locked hallowed hrun
  have hfds := hgoes.ok.fds.filed
  have hservers := hgoes.ok.servers.filed
  refine ⟨hfds.existsUnique, hgoes.ok.vars, hfds.once .closed, hgoes.ok.fds.stray,
    hservers.existsUnique, hservers.once, fun x hx => ?_, fun slot => ?_,
    fun before call after u v he hu hv => ?_⟩
  · refine (hgoes.writes x hx).resolve_left ?_
    rw [hstart.writes]
    exact List.not_mem_nil
  · rw [hgoes.locked]
    exact hstart.locked slot
  · have hcall := hcalls before call after u v he hu hv
    refine ⟨hcall.kept, ?_⟩
    rintro process env rfl
    exact hcall.spawned

/-! ## Two runs -/

private def noServers : PhpWorld where
  desc := fun _ => none
  server := fun _ => none
  state := fun _ => .busy
  cursor := 0
  locked := fun _ => false
  fds := fun _ => none
  opened := 0
  closed := []
  stray := []
  spawned := 0
  reaped := []
  abandoned := []
  writes := []

theorem noServers_start : PhpStart noServers :=
  ⟨fun _ => rfl, fun _ => rfl, fun _ => rfl, fun _ => rfl, rfl, rfl, rfl, rfl, rfl, rfl, rfl⟩

/-- A start where everything succeeds. -/
private def goodStart (toPhp fromPhp : Nat × Nat) (pid : Nat) : PhpInitEnv where
  strdup := true
  slot := fun _ =>
    { toPhp := some (toPhp.1, toPhp.2, true)
      fromPhp := some (fromPhp.1, fromPhp.2, true)
      fileActions := true
      attributes := true
      dupStdin := none
      dupStdout := none
      actions := true
      spawn := fun _ => .pid pid
      started := true }

/-- One server is started, does not take a command and is restarted with the
same descriptor numbers.  The second server answers, and it is closed at the end
while it is still running. -/
private def restartCalls : List PhpCall :=
  [.init PHP_INIT (goodStart (3, 4) (5, 6) 100),
    .cmd 0 ⟨fun attempt => attempt == 1, true, fun _ => .returned 100 0,
      fun _ => goodStart (3, 4) (5, 6) 101⟩,
    .getProcess ⟨fun _ => false, false, .returned 0 0, goodStart (3, 4) (5, 6) 102⟩,
    .close PHP_INIT fun _ => .returned 0 0]

theorem phpServers_own_resources_restart :
    ∃ w', phpRun 1 noServers restartCalls = some w' ∧ w'.opened = 8 ∧ w'.spawned = 2 ∧
      w'.reaped = [0] ∧ w'.abandoned = [1] ∧ w'.writes.length = 2 ∧
      ∀ k < w'.opened, ∃! h, holds w'.desc Desc.serial w'.fdRecords h k := by
  have hallowed : Allowed 1 noServers restartCalls :=
    ⟨fun _ _ _ _ => ⟨rfl, rfl, rfl⟩, fun _ _ => ⟨trivial, fun _ _ => ⟨trivial, fun _ _ =>
      ⟨trivial, fun _ _ => trivial⟩⟩⟩⟩
  obtain ⟨w', hrun, hw'⟩ : ∃ w', phpRun 1 noServers restartCalls = some w' ∧ w'.opened = 8 ∧
      w'.spawned = 2 ∧ w'.reaped = [0] ∧ w'.abandoned = [1] ∧ w'.writes.length = 2 :=
    ⟨_, rfl, rfl, rfl, rfl, rfl, rfl⟩
  exact ⟨w', hrun, hw'.1, hw'.2.1, hw'.2.2.1, hw'.2.2.2.1, hw'.2.2.2.2,
    (phpServers_own_resources noServers_start hallowed hrun).1⟩

/-- `php_init` on a slot that has a server: the first server and its two pipe
ends are in no slot any more, and nothing closed or reaped them. -/
theorem phpServers_init_on_live_slot :
    ∃ w', phpRun 1 noServers
        [.init 0 (goodStart (3, 4) (5, 6) 100), .init 0 (goodStart (3, 6) (7, 8) 101)] = some w' ∧
      w'.opened = 8 ∧ w'.spawned = 2 ∧
      (∀ h, ¬ holds w'.desc Desc.serial w'.fdRecords h 1) ∧
      ∀ h, ¬ holds w'.server Server.serial w'.serverRecords h 0 := by
  refine ⟨_, rfl, rfl, rfl, ?_, ?_⟩
  · rintro ((v | i | i) | r)
    · rintro ⟨d, hd, -⟩
      cases v <;> exact nomatch hd
    · rintro ⟨d, hd, hk⟩
      cases i with
      | zero =>
        cases hd
        exact nomatch hk
      | succ i => exact nomatch hd
    · rintro ⟨d, hd, hk⟩
      cases i with
      | zero =>
        cases hd
        exact nomatch hk
      | succ i => exact nomatch hd
    · cases r
      show (1 : Nat) ∉ [0, 3, 4, 7]
      decide
  · rintro (i | r)
    · rintro ⟨s, hs, hk⟩
      cases i with
      | zero =>
        cases hs
        exact nomatch hk
      | succ i => exact nomatch hs
    · cases r <;> exact List.not_mem_nil

end Spine
