import Spine.Base.Filing
import Spine.Script.Servers

/-!
# Where the descriptors and the servers are

A descriptor that was opened stands in one variable or field, or was closed once.
A server that was started stands in one slot, was reaped, or was abandoned.

* `FdsOk` and `ServersOk` say this of a state.  `FdsOk.openAt`, `FdsOk.closeAt`,
  `FdsOk.moveDesc`, `ServersOk.spawn` and `ServersOk.reapServer` are the ways in
  which it changes.
* `OnlyFds` is a change of the descriptors alone, and `Kept` says that what a
  slot had is still there or was given back.
* `Goes` is what a function leaves behind, and `phpClose_goes` says so of `php_close`.
-/

namespace Spine

open Base.Filing Base.Stages

variable {w w' w'' ref : PhpWorld}

/-! ## Descriptors -/

/-- Where descriptors end. -/
inductive FdRecord where
  | closed
  deriving DecidableEq

def PhpWorld.fdRecords (w : PhpWorld) : FdRecord → List Nat
  | .closed => w.closed

/-- Every descriptor is in one field, or closed. -/
structure FdsOk (w : PhpWorld) : Prop where
  filed : Filed w.desc Desc.serial w.fdRecords w.opened
  live : ∀ p d, w.desc p = some d → w.fds d.fd = some d.serial
  stray : w.stray = []

theorem FdsOk.congr (h : FdsOk w) (hdesc : w'.desc = w.desc) (hfds : w'.fds = w.fds)
    (hopened : w'.opened = w.opened) (hclosed : w'.closed = w.closed)
    (hstray : w'.stray = w.stray) : FdsOk w' := by
  have hrecords : w'.fdRecords = w.fdRecords := by
    funext r
    cases r
    exact hclosed
  refine ⟨?_, ?_, ?_⟩
  · rw [hdesc, hrecords, hopened]
    exact h.filed
  · rw [hdesc, hfds]
    exact h.live
  · rw [hstray]
    exact h.stray

theorem FdsOk.openAt (h : FdsOk w) {p : FdPlace} {n : Nat} (hp : w.desc p = none)
    (hn : w.fds n = none) : FdsOk (w.openAt p n) := by
  refine ⟨h.filed.issue hp rfl, fun q d hd => ?_, h.stray⟩
  show Function.update w.fds n (some w.opened) d.fd = _
  replace hd : Function.update w.desc p (some ⟨n, w.opened⟩) q = some d := hd
  by_cases hq : q = p
  · subst hq
    rw [Function.update_self] at hd
    cases hd
    exact Function.update_self ..
  · rw [Function.update_of_ne hq] at hd
    have hne : d.fd ≠ n := by
      rintro rfl
      exact nomatch hn.symm.trans (h.live q d hd)
    rw [Function.update_of_ne hne]
    exact h.live q d hd

theorem closeAt_of_none {p : FdPlace} (hp : w.desc p = none) : w.closeAt p = w := by
  unfold PhpWorld.closeAt
  rw [hp]

/-- The number of a descriptor that is written down is still that descriptor. -/
theorem FdsOk.closeAt_of_some (h : FdsOk w) {p : FdPlace} {d : Desc} (hp : w.desc p = some d) :
    w.closeAt p =
      { w with
        desc := Function.update w.desc p none
        fds := Function.update w.fds d.fd none
        closed := w.closed ++ [d.serial] } := by
  unfold PhpWorld.closeAt
  rw [hp]
  show (w.closeFd d).setDesc p none = _
  unfold PhpWorld.closeFd
  rw [if_pos (h.live p d hp)]
  rfl

theorem FdsOk.closeAt (h : FdsOk w) (p : FdPlace) : FdsOk (w.closeAt p) := by
  cases hp : w.desc p with
  | none =>
    rw [closeAt_of_none hp]
    exact h
  | some d =>
    rw [h.closeAt_of_some hp]
    refine ⟨?_, fun q e he => ?_, h.stray⟩
    · convert h.filed.file hp FdRecord.closed using 1
      funext r
      cases r
      rfl
    · show Function.update w.fds d.fd none e.fd = _
      replace he : Function.update w.desc p none q = some e := he
      by_cases hq : q = p
      · subst hq
        rw [Function.update_self] at he
        exact nomatch he
      · rw [Function.update_of_ne hq] at he
        have hne : e.fd ≠ d.fd := by
          intro hfd
          have hserial := h.live q e he
          rw [hfd, h.live p d hp] at hserial
          exact hq (h.filed.field_unique he hp (Option.some.inj hserial).symm)
        rw [Function.update_of_ne hne]
        exact h.live q e he

theorem closeAt_desc (w : PhpWorld) (p q : FdPlace) :
    (w.closeAt p).desc q = if q = p then none else w.desc q := by
  unfold PhpWorld.closeAt
  split
  · rename_i hp
    split_ifs with hq
    · rw [hq, hp]
    · rfl
  · rename_i d hp
    have hdesc : (w.closeFd d).desc = w.desc := by
      unfold PhpWorld.closeFd
      split <;> rfl
    show Function.update (w.closeFd d).desc p none q = _
    rw [hdesc, Function.update_apply]

theorem moveDesc_desc (w : PhpWorld) (p q r : FdPlace) :
    (w.moveDesc p q).desc r = if r = p then none else if r = q then w.desc p else w.desc r := by
  show Function.update (Function.update w.desc q (w.desc p)) p none r = _
  rw [Function.update_apply, Function.update_apply]

theorem FdsOk.moveDesc (h : FdsOk w) {p q : FdPlace} (hpq : p ≠ q) (hq : w.desc q = none) :
    FdsOk (w.moveDesc p q) := by
  refine ⟨h.filed.move hpq hq, fun r d hd => ?_, h.stray⟩
  rw [moveDesc_desc] at hd
  split_ifs at hd
  · exact h.live p d hd
  · exact h.live r d hd

/-! ## Servers -/

/-- Where servers end. -/
inductive ServerRecord where
  | reaped
  | abandoned
  deriving DecidableEq

def PhpWorld.serverRecords (w : PhpWorld) : ServerRecord → List Nat
  | .reaped => w.reaped
  | .abandoned => w.abandoned

/-- Every server is in one slot, or in one record. -/
structure ServersOk (w : PhpWorld) : Prop where
  filed : Filed w.server Server.serial w.serverRecords w.spawned
  pid : ∀ i s, w.server i = some s → 1 < s.pid

theorem ServersOk.congr (h : ServersOk w) (hserver : w'.server = w.server)
    (hspawned : w'.spawned = w.spawned) (hrecords : w'.serverRecords = w.serverRecords) :
    ServersOk w' := by
  refine ⟨?_, ?_⟩
  · rw [hserver, hrecords, hspawned]
    exact h.filed
  · rw [hserver]
    exact h.pid

theorem ServersOk.spawn (h : ServersOk w) {slot pid : Nat} (hempty : w.server slot = none)
    (hpid : 1 < pid) :
    ServersOk { w.setServer slot (some ⟨pid, w.spawned⟩) with spawned := w.spawned + 1 } := by
  refine ⟨h.filed.issue hempty rfl, fun i s hs => ?_⟩
  replace hs : Function.update w.server slot (some ⟨pid, w.spawned⟩) i = some s := hs
  by_cases hi : i = slot
  · subst hi
    rw [Function.update_self] at hs
    cases hs
    exact hpid
  · rw [Function.update_of_ne hi] at hs
    exact h.pid i s hs

/-- The server of a slot goes to one of the two records. -/
theorem ServersOk.reapServer_of_some (h : ServersOk w) {slot : Nat} {s : Server}
    (reply : WaitReply) (hs : w.server slot = some s) :
    ∃ r, (reapServer slot reply w).serverRecords =
      Function.update w.serverRecords r (w.serverRecords r ++ [s.serial]) := by
  unfold reapServer
  simp only [hs]
  rw [if_pos (h.pid slot s hs)]
  split
  · refine ⟨.reaped, ?_⟩
    funext r
    cases r <;> rfl
  · refine ⟨.abandoned, ?_⟩
    funext r
    cases r <;> rfl

theorem ServersOk.reapServer_server (h : ServersOk w) (slot : Nat) (reply : WaitReply) :
    (reapServer slot reply w).server = Function.update w.server slot none := by
  unfold reapServer
  cases hs : w.server slot with
  | none => exact (Function.update_eq_self_iff.mpr hs.symm).symm
  | some s =>
    show (if 1 < s.pid then _ else _ : PhpWorld).server = _
    rw [if_pos (h.pid slot s hs)]
    split <;> rfl

theorem reapServer_fields (slot : Nat) (reply : WaitReply) (w : PhpWorld) :
    (reapServer slot reply w).desc = w.desc ∧ (reapServer slot reply w).fds = w.fds ∧
      (reapServer slot reply w).opened = w.opened ∧ (reapServer slot reply w).closed = w.closed ∧
      (reapServer slot reply w).stray = w.stray ∧ (reapServer slot reply w).locked = w.locked ∧
      (reapServer slot reply w).writes = w.writes ∧
      (reapServer slot reply w).spawned = w.spawned := by
  unfold reapServer
  split
  · exact ⟨rfl, rfl, rfl, rfl, rfl, rfl, rfl, rfl⟩
  · split
    · split <;> exact ⟨rfl, rfl, rfl, rfl, rfl, rfl, rfl, rfl⟩
    · exact ⟨rfl, rfl, rfl, rfl, rfl, rfl, rfl, rfl⟩

theorem reapServer_of_none {slot : Nat} (reply : WaitReply) (hs : w.server slot = none) :
    reapServer slot reply w = w := by
  unfold reapServer
  rw [hs]

theorem ServersOk.reapServer (h : ServersOk w) (slot : Nat) (reply : WaitReply) :
    ServersOk (reapServer slot reply w) := by
  cases hs : w.server slot with
  | none =>
    rw [reapServer_of_none reply hs]
    exact h
  | some s =>
    obtain ⟨r, hr⟩ := h.reapServer_of_some reply hs
    refine ⟨?_, fun i e he => ?_⟩
    · obtain ⟨-, -, -, -, -, -, -, hspawned⟩ := reapServer_fields slot reply w
      rw [h.reapServer_server, hr, hspawned]
      exact h.filed.file hs r
    · rw [h.reapServer_server, Function.update_apply] at he
      split_ifs at he
      exact h.pid i e he

/-! ## What a function leaves behind -/

/-- Between the calls the variables of `php_init` are gone. -/
structure PhpOk (w : PhpWorld) : Prop where
  fds : FdsOk w
  servers : ServersOk w
  vars : ∀ v, w.desc (.var v) = none

/-- A change of the descriptors alone. -/
structure OnlyFds (w w' : PhpWorld) : Prop where
  server : w'.server = w.server
  spawned : w'.spawned = w.spawned
  records : w'.serverRecords = w.serverRecords
  locked : w'.locked = w.locked
  writes : w'.writes = w.writes
  closed : w.closed ⊆ w'.closed

theorem OnlyFds.refl (w : PhpWorld) : OnlyFds w w :=
  ⟨rfl, rfl, rfl, rfl, rfl, List.Subset.refl _⟩

theorem OnlyFds.trans (h : OnlyFds w w') (h' : OnlyFds w' w'') : OnlyFds w w'' :=
  ⟨h'.server.trans h.server, h'.spawned.trans h.spawned, h'.records.trans h.records,
    h'.locked.trans h.locked, h'.writes.trans h.writes, List.Subset.trans h.closed h'.closed⟩

theorem openAt_onlyFds (w : PhpWorld) (p : FdPlace) (n : Nat) : OnlyFds w (w.openAt p n) :=
  ⟨rfl, rfl, rfl, rfl, rfl, List.Subset.refl _⟩

theorem FdsOk.closeAt_onlyFds (h : FdsOk w) (p : FdPlace) : OnlyFds w (w.closeAt p) := by
  cases hp : w.desc p with
  | none =>
    rw [closeAt_of_none hp]
    exact OnlyFds.refl w
  | some d =>
    rw [h.closeAt_of_some hp]
    exact ⟨rfl, rfl, rfl, rfl, rfl, List.subset_append_left _ _⟩

theorem moveDesc_onlyFds (w : PhpWorld) (p q : FdPlace) : OnlyFds w (w.moveDesc p q) :=
  ⟨rfl, rfl, rfl, rfl, rfl, List.Subset.refl _⟩

/-- Nothing that was written down is lost: it is still there, or it was given
back. -/
structure Kept (w w' : PhpWorld) : Prop where
  desc : ∀ p d, w.desc p = some d → w'.desc p = some d ∨ d.serial ∈ w'.closed
  server : ∀ i s, w.server i = some s → w'.server i = some s ∨ ∃ r, s.serial ∈ w'.serverRecords r
  closed : w.closed ⊆ w'.closed
  records : ∀ r, w.serverRecords r ⊆ w'.serverRecords r

theorem Kept.refl (w : PhpWorld) : Kept w w :=
  ⟨fun _ _ => .inl, fun _ _ => .inl, List.Subset.refl _, fun _ => List.Subset.refl _⟩

theorem Kept.trans (h : Kept w w') (h' : Kept w' w'') : Kept w w'' := by
  refine ⟨fun p d hd => ?_, fun i s hs => ?_, List.Subset.trans h.closed h'.closed,
    fun r => List.Subset.trans (h.records r) (h'.records r)⟩
  · rcases h.desc p d hd with hd | hk
    · exact h'.desc p d hd
    · exact .inr (h'.closed hk)
  · rcases h.server i s hs with hs | ⟨r, hk⟩
    · exact h'.server i s hs
    · exact .inr ⟨r, h'.records r hk⟩

/-- The slot that a command may be written to. -/
structure CommandWrite.Valid (x : CommandWrite) : Prop where
  ready : x.state = .ready
  server : ∃ s, x.server = some s ∧ 1 < s.pid
  readFd : x.readFd.isSome
  writeFd : x.writeFd.isSome
  locked : x.locked

/-- From `w` to `w'` at most `n` servers are started. -/
structure Goes (n : Nat) (w w' : PhpWorld) : Prop where
  ok : PhpOk w'
  kept : Kept w w'
  locked : w'.locked = w.locked
  writes : ∀ x ∈ w'.writes, x ∈ w.writes ∨ x.Valid
  spawned : w'.spawned ≤ w.spawned + n

theorem Goes.refl (h : PhpOk w) : Goes 0 w w :=
  ⟨h, Kept.refl w, rfl, fun _ => .inl, le_rfl⟩

theorem Goes.trans {n m : Nat} (h : Goes n w w') (h' : Goes m w' w'') : Goes (n + m) w w'' := by
  refine ⟨h'.ok, h.kept.trans h'.kept, h'.locked.trans h.locked, fun x hx => ?_, ?_⟩
  · exact (h'.writes x hx).elim (h.writes x) .inr
  · have := h.spawned
    have := h'.spawned
    omega

theorem Goes.mono {n m : Nat} (h : Goes n w w') (hnm : n ≤ m) : Goes m w w' :=
  ⟨h.ok, h.kept, h.locked, h.writes, h.spawned.trans (by omega)⟩

/-- A change that neither the descriptors nor the servers see. -/
structure SameOwners (w w' : PhpWorld) : Prop where
  desc : w'.desc = w.desc
  fds : w'.fds = w.fds
  opened : w'.opened = w.opened
  closed : w'.closed = w.closed
  stray : w'.stray = w.stray
  server : w'.server = w.server
  spawned : w'.spawned = w.spawned
  records : w'.serverRecords = w.serverRecords

theorem SameOwners.ok (h : SameOwners w w') (hok : PhpOk w) : PhpOk w' := by
  refine ⟨hok.fds.congr h.desc h.fds h.opened h.closed h.stray,
    hok.servers.congr h.server h.spawned h.records, ?_⟩
  rw [h.desc]
  exact hok.vars

theorem SameOwners.kept (h : SameOwners w w') : Kept w w' := by
  refine ⟨?_, ?_, ?_, ?_⟩
  · rw [h.desc]
    exact fun _ _ => .inl
  · rw [h.server]
    exact fun _ _ => .inl
  · rw [h.closed]
    exact List.Subset.refl _
  · rw [h.records]
    exact fun _ => List.Subset.refl _

theorem setState_sameOwners (w : PhpWorld) (slot : Nat) (state : PhpState) :
    SameOwners w (w.setState slot state) :=
  ⟨rfl, rfl, rfl, rfl, rfl, rfl, rfl, rfl⟩

theorem Goes.setState {n : Nat} (h : Goes n w w') (slot : Nat) (state : PhpState) :
    Goes n w (w'.setState slot state) :=
  have hsame := setState_sameOwners w' slot state
  ⟨hsame.ok h.ok, h.kept.trans hsame.kept, h.locked, h.writes, h.spawned⟩

/-- The slot owns nothing. -/
structure SlotEmpty (w : PhpWorld) (slot : Nat) : Prop where
  server : w.server slot = none
  read : w.desc (.read slot) = none
  write : w.desc (.write slot) = none

/-! ## `php_close` -/

/-- One field of a slot is closed. -/
theorem PhpOk.closeAt (h : PhpOk w) (p : FdPlace) : Goes 0 w (w.closeAt p) := by
  have honly := h.fds.closeAt_onlyFds p
  refine ⟨⟨h.fds.closeAt p, h.servers.congr honly.server honly.spawned honly.records,
      fun v => ?_⟩, ⟨fun q d hd => ?_, ?_, honly.closed, ?_⟩, honly.locked, ?_,
      honly.spawned.le⟩
  · rw [closeAt_desc, h.vars v, ite_self]
  · by_cases hq : q = p
    · subst hq
      rw [h.fds.closeAt_of_some hd]
      exact .inr (List.mem_append_right _ (List.mem_singleton.mpr rfl))
    · rw [closeAt_desc, if_neg hq]
      exact .inl hd
  · rw [honly.server]
    exact fun _ _ => .inl
  · rw [honly.records]
    exact fun _ => List.Subset.refl _
  · rw [honly.writes]
    exact fun _ => .inl

theorem PhpOk.reapServer (h : PhpOk w) (slot : Nat) (reply : WaitReply) :
    Goes 0 w (reapServer slot reply w) := by
  obtain ⟨hdesc, hfds, hopened, hclosed, hstray, hlocked, hwrites, hspawned⟩ :=
    reapServer_fields slot reply w
  refine ⟨⟨h.fds.congr hdesc hfds hopened hclosed hstray, h.servers.reapServer slot reply, ?_⟩,
    ⟨?_, fun i s hs => ?_, ?_, fun r => ?_⟩, hlocked, ?_, hspawned.le⟩
  · rw [hdesc]
    exact h.vars
  · rw [hdesc]
    exact fun _ _ => .inl
  · by_cases hi : i = slot
    · subst hi
      obtain ⟨r, hr⟩ := h.servers.reapServer_of_some reply hs
      rw [hr]
      refine .inr ⟨r, ?_⟩
      rw [Function.update_self]
      exact List.mem_append_right _ (List.mem_singleton.mpr rfl)
    · rw [h.servers.reapServer_server, Function.update_of_ne hi]
      exact .inl hs
  · rw [hclosed]
    exact List.Subset.refl _
  · cases hs : w.server slot with
    | none =>
      rw [reapServer_of_none reply hs]
      exact List.Subset.refl _
    | some s =>
      obtain ⟨r', hr⟩ := h.servers.reapServer_of_some reply hs
      rw [hr, Function.update_apply]
      split_ifs with he
      · rw [he]
        exact List.subset_append_left _ _
      · exact List.Subset.refl _
  · rw [hwrites]
    exact fun _ => .inl

theorem closeSlot_goes (h : PhpOk w) (reply : WaitReply) (slot : Nat) :
    Goes 0 w (closeSlot reply w slot) := by
  have hwrite := h.closeAt (.write slot)
  have hreap := hwrite.ok.reapServer slot reply
  exact (hwrite.trans hreap).trans (hreap.ok.closeAt (.read slot))

/-- A slot that is empty stays empty when another one is closed. -/
theorem closeSlot_empty (h : PhpOk w) (reply : WaitReply) {slot i : Nat}
    (hi : i = slot ∨ SlotEmpty w i) : SlotEmpty (closeSlot reply w slot) i := by
  have hwrite := h.closeAt (.write slot)
  have hreap := hwrite.ok.reapServer slot reply
  have honly := hreap.ok.fds.closeAt_onlyFds (.read slot)
  have hdesc := (reapServer_fields slot reply (w.closeAt (.write slot))).1
  refine ⟨?_, ?_, ?_⟩
  · unfold closeSlot
    rw [honly.server, hwrite.ok.servers.reapServer_server, Function.update_apply,
      (h.fds.closeAt_onlyFds (.write slot)).server]
    split_ifs with he
    · rfl
    · exact (hi.resolve_left he).server
  · unfold closeSlot
    rw [closeAt_desc, hdesc, closeAt_desc, if_neg (show FdPlace.read i ≠ .write slot by nofun)]
    split_ifs with he
    · rfl
    · exact (hi.resolve_left fun h => he (h ▸ rfl)).read
  · unfold closeSlot
    rw [closeAt_desc, if_neg (show FdPlace.write i ≠ .read slot by nofun), hdesc, closeAt_desc]
    split_ifs with he
    · rfl
    · exact (hi.resolve_left fun h => he (h ▸ rfl)).write

theorem closeSlots_goes (replies : Nat → WaitReply) (slots : List Nat) (h : PhpOk w) :
    Goes 0 w (slots.foldl (fun w slot => closeSlot (replies slot) w slot) w) := by
  induction slots generalizing w with
  | nil => exact Goes.refl h
  | cons slot slots ih =>
    have hslot := closeSlot_goes h (replies slot) slot
    exact hslot.trans (ih hslot.ok)

theorem closeSlots_empty (replies : Nat → WaitReply) (slots : List Nat) (h : PhpOk w) {i : Nat}
    (hi : i ∈ slots ∨ SlotEmpty w i) :
    SlotEmpty (slots.foldl (fun w slot => closeSlot (replies slot) w slot) w) i := by
  induction slots generalizing w with
  | nil => exact hi.resolve_left List.not_mem_nil
  | cons slot slots ih =>
    have hslot := closeSlot_goes h (replies slot) slot
    refine ih hslot.ok ?_
    rcases hi with hi | hi
    · rcases List.mem_cons.mp hi with he | hi
      · exact .inr (closeSlot_empty h _ (.inl he))
      · exact .inl hi
    · exact .inr (closeSlot_empty h _ (.inr hi))

/-- What `php_init` may be called on: slots that own nothing. -/
def SlotsEmpty (servers process : Int) (w : PhpWorld) : Prop :=
  ∀ slots, slotsOf servers process = some slots → ∀ i ∈ slots, SlotEmpty w i

theorem phpClose_goes (servers process : Int) (replies : Nat → WaitReply) (h : PhpOk w) :
    Goes 0 w (phpClose servers process replies w) ∧
      SlotsEmpty servers process (phpClose servers process replies w) := by
  unfold phpClose SlotsEmpty
  cases hslots : slotsOf servers process with
  | none => exact ⟨Goes.refl h, nofun⟩
  | some slots =>
    refine ⟨closeSlots_goes replies slots h, fun slots' he i hi => ?_⟩
    cases he
    exact closeSlots_empty replies slots h (.inl hi)

end Spine
