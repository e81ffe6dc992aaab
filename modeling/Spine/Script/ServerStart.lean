import Spine.Script.ServerCustody

/-!
# `php_init` keeps track of what it opens

* `InBody ref filled` is the invariant of the loop body up to the spawn: of the
  state `ref` at its start only the descriptors change, and only the variables of
  `filled` hold one.  `Leaving ref` is what the cleanup is given.
* The stages: `openPipe_triple`, `dupBoth_triple` and `spawnServer_triple`, and
  `initBody_triple` for their chain.  A body that goes on has the slot take over
  the server and the two ends, which is `Started`.
* `initSlots_goes` is the loop with its cleanup, and `phpInit_goes` the function.
-/

namespace Spine

open Base.Stages

variable {w w' ref : PhpWorld}

/-! ## The invariant of the body -/

/-- Only the `filled` variables hold descriptors, and the fields are as before. -/
structure InBody (ref : PhpWorld) (filled : List PhpVar) (w : PhpWorld) : Prop where
  fds : FdsOk w
  only : OnlyFds ref w
  vars : ∀ v, v ∉ filled → w.desc (.var v) = none
  fields : ∀ p, (∀ v, p ≠ .var v) → w.desc p = ref.desc p

abbrev Leaving (ref : PhpWorld) : PhpWorld → Prop := InBody ref cleanupOrder

theorem mem_cleanupOrder (v : PhpVar) : v ∈ cleanupOrder := by
  cases v <;> decide

theorem InBody.start (h : PhpOk ref) : InBody ref [] ref :=
  ⟨h.fds, OnlyFds.refl ref, fun v _ => h.vars v, fun _ _ => rfl⟩

theorem InBody.mono {filled filled' : List PhpVar} (h : InBody ref filled w)
    (hsub : filled ⊆ filled') : InBody ref filled' w :=
  ⟨h.fds, h.only, fun v hv => h.vars v fun hv' => hv (hsub hv'), h.fields⟩

theorem InBody.leaving {filled : List PhpVar} (h : InBody ref filled w) : Leaving ref w :=
  h.mono fun v _ => mem_cleanupOrder v

theorem InBody.openAt {filled : List PhpVar} {v : PhpVar} {n : Nat} (h : InBody ref filled w)
    (hv : v ∉ filled) (hn : w.fds n = none) :
    InBody ref (v :: filled) (w.openAt (.var v) n) := by
  refine ⟨h.fds.openAt (h.vars v hv) hn, h.only.trans (openAt_onlyFds w _ n), fun u hu => ?_,
    fun p hp => ?_⟩
  · rw [List.mem_cons, not_or] at hu
    show Function.update w.desc (.var v) _ (.var u) = none
    rw [Function.update_of_ne fun he => hu.1 (FdPlace.var.inj he)]
    exact h.vars u hu.2
  · show Function.update w.desc (.var v) _ p = _
    rw [Function.update_of_ne (hp v)]
    exact h.fields p hp

theorem InBody.closeAt {filled filled' : List PhpVar} {v : PhpVar} (h : InBody ref filled w)
    (hfilled : ∀ u, u ∉ filled' → u = v ∨ u ∉ filled) :
    InBody ref filled' (w.closeAt (.var v)) := by
  refine ⟨h.fds.closeAt _, h.only.trans (h.fds.closeAt_onlyFds _), fun u hu => ?_, fun p hp => ?_⟩
  · rw [closeAt_desc]
    split_ifs with he
    · rfl
    · exact h.vars u ((hfilled u hu).resolve_left fun huv => he (huv ▸ rfl))
  · rw [closeAt_desc, if_neg (hp v)]
    exact h.fields p hp

theorem InBody.closeAt_leaving {v : PhpVar} (h : Leaving ref w) :
    Leaving ref (w.closeAt (.var v)) :=
  h.closeAt fun _ => .inr

/-- An empty slot is still empty in the body. -/
theorem InBody.slotEmpty {filled : List PhpVar} {slot : Nat} (h : InBody ref filled w)
    (hempty : SlotEmpty ref slot) : SlotEmpty w slot :=
  ⟨h.only.server ▸ hempty.server, (h.fields (.read slot) nofun).trans hempty.read,
    (h.fields (.write slot) nofun).trans hempty.write⟩

/-! ## The stages -/

theorem openPipe_triple {filled : List PhpVar} {r s : PhpVar} (answer : Option (Nat × Nat × Bool))
    (hr : r ∉ filled) (hs : s ∉ r :: filled) :
    Triple (InBody ref filled) (openPipe answer r s) (InBody ref (s :: r :: filled))
      (Leaving ref) := by
  have hopen : ∀ w rd wr, InBody ref filled w → w.fds rd = none ∧ w.fds wr = none ∧ rd ≠ wr →
      InBody ref (s :: r :: filled) ((w.openAt (.var r) rd).openAt (.var s) wr) := by
    rintro w rd wr h ⟨hrd, hwr, hne⟩
    refine (h.openAt hr hrd).openAt hs ?_
    show Function.update w.fds rd _ wr = none
    rw [Function.update_of_ne hne.symm]
    exact hwr
  refine ⟨fun w w' h hstage => ?_, fun w w' h hstage => ?_⟩
  · match answer with
    | none => exact nomatch hstage
    | some (rd, wr, cloexec) =>
      simp only [openPipe] at hstage
      split_ifs at hstage with hguard hcloexec
      · cases hstage
        exact hopen w rd wr h hguard
      · exact nomatch hstage
  · match answer with
    | none =>
      cases hstage
      exact h.leaving
    | some (rd, wr, cloexec) =>
      simp only [openPipe] at hstage
      split_ifs at hstage with hguard hcloexec
      · exact nomatch hstage
      · cases hstage
        exact (hopen w rd wr h hguard).leaving.closeAt_leaving.closeAt_leaving

/-- A copy that was not made, or not kept, leaves its variable empty. -/
theorem dupStd_inBody {filled : List PhpVar} {source copy : PhpVar} {std : Nat}
    {answer : Option (Nat × Bool)} {ok : Bool} (hcopy : copy ∉ filled) (h : InBody ref filled w)
    (hstage : dupStd source copy std answer w = some (w', ok)) :
    InBody ref (copy :: filled) w' := by
  have hmono : InBody ref (copy :: filled) w := h.mono (List.subset_cons_self copy filled)
  unfold dupStd at hstage
  split at hstage
  · match answer with
    | none =>
      cases hstage
      exact hmono
    | some (n, cloexec) =>
      simp only at hstage
      split_ifs at hstage with hn hcloexec
      · cases hstage
        exact h.openAt hcopy hn
      · cases hstage
        exact (h.openAt hcopy hn).closeAt fun _ => .inr
  · cases hstage
    exact hmono

theorem dupBoth_triple {filled : List PhpVar} (env : SlotInitEnv) (hin : .dupStdin ∉ filled)
    (hout : .dupStdout ∉ filled) :
    Triple (InBody ref filled) (dupBoth env) (InBody ref (.dupStdout :: .dupStdin :: filled))
      (Leaving ref) := by
  have hboth : ∀ w w' ok, InBody ref filled w → dupBoth env w = some (w', ok) →
      InBody ref (.dupStdout :: .dupStdin :: filled) w' := by
    intro w w' ok h hstage
    obtain ⟨⟨m, okIn⟩, hfirst, hrest⟩ := Option.bind_eq_some_iff.mp hstage
    obtain ⟨⟨m', okOut⟩, hsecond, hpair⟩ := Option.map_eq_some_iff.mp hrest
    cases hpair
    refine dupStd_inBody ?_ (dupStd_inBody hin h hfirst) hsecond
    rw [List.mem_cons, not_or]
    exact ⟨nofun, hout⟩
  exact ⟨fun w w' h hstage => hboth w w' true h hstage,
    fun w w' h hstage => (hboth w w' false h hstage).leaving⟩

/-! ## The spawn -/

/-- The slot is started, and the empty slots beside it stay empty. -/
structure Started (ref : PhpWorld) (slot : Nat) (w : PhpWorld) : Prop where
  goes : Goes 1 ref w
  others : ∀ i, i ≠ slot → SlotEmpty ref i → SlotEmpty w i

/-- The two ends of the parent go to the fields of the slot. -/
def takeEnds (slot : Nat) (w : PhpWorld) : PhpWorld :=
  (w.moveDesc (.var .c2pWrite) (.write slot)).moveDesc (.var .p2cRead) (.read slot)

/-- `recordServer` in an order that suits the proof: first the descriptors, then
the server. -/
theorem recordServer_eq (slot pid : Nat) (started : Bool) (w : PhpWorld) :
    ∃ t state, t = takeEnds slot ((w.closeAt (.var .c2pRead)).closeAt (.var .p2cWrite)) ∧
      recordServer slot pid started w =
        PhpWorld.setState { t.setServer slot (some ⟨pid, t.spawned⟩) with spawned := t.spawned + 1 }
          slot state :=
  ⟨_, _, rfl, rfl⟩

theorem takeEnds_fds {slot : Nat} (h : InBody ref [.c2pWrite, .p2cRead] w)
    (hempty : SlotEmpty ref slot) : FdsOk (takeEnds slot w) := by
  have hslot := h.slotEmpty hempty
  refine (h.fds.moveDesc (show FdPlace.var .c2pWrite ≠ .write slot by nofun) hslot.write).moveDesc
    (show FdPlace.var .p2cRead ≠ .read slot by nofun) ?_
  rw [moveDesc_desc, if_neg nofun, if_neg nofun]
  exact hslot.read

theorem takeEnds_vars {slot : Nat} (h : InBody ref [.c2pWrite, .p2cRead] w) (v : PhpVar) :
    (takeEnds slot w).desc (.var v) = none := by
  unfold takeEnds
  rw [moveDesc_desc _ _ _ (.var v), if_neg (show FdPlace.var v ≠ .read slot by nofun),
    moveDesc_desc _ _ _ (.var v), if_neg (show FdPlace.var v ≠ .write slot by nofun)]
  split_ifs with hread hwrite
  · rfl
  · rfl
  · refine h.vars v ?_
    simp only [List.mem_cons, List.not_mem_nil, or_false, not_or]
    exact ⟨fun he => hwrite (he ▸ rfl), fun he => hread (he ▸ rfl)⟩

theorem takeEnds_fields {slot : Nat} (h : InBody ref [.c2pWrite, .p2cRead] w) {p : FdPlace}
    (hvar : ∀ v, p ≠ .var v) (hread : p ≠ .read slot) (hwrite : p ≠ .write slot) :
    (takeEnds slot w).desc p = ref.desc p := by
  unfold takeEnds
  rw [moveDesc_desc, if_neg (hvar _), if_neg hread, moveDesc_desc, if_neg (hvar _), if_neg hwrite]
  exact h.fields p hvar

theorem recordServer_started {slot pid : Nat} (started : Bool) (hok : PhpOk ref)
    (hempty : SlotEmpty ref slot) (hpid : 1 < pid)
    (h : InBody ref [.p2cWrite, .p2cRead, .c2pWrite, .c2pRead] w) :
    Started ref slot (recordServer slot pid started w) := by
  obtain ⟨t, state, ht, heq⟩ := recordServer_eq slot pid started w
  have hends : InBody ref [.c2pWrite, .p2cRead]
      ((w.closeAt (.var .c2pRead)).closeAt (.var .p2cWrite)) := by
    have hfirst : InBody ref [.p2cWrite, .p2cRead, .c2pWrite] (w.closeAt (.var .c2pRead)) :=
      h.closeAt fun u => by cases u <;> simp
    exact hfirst.closeAt fun u => by cases u <;> simp
  have honly : OnlyFds ref t := by
    rw [ht]
    exact (hends.only.trans (moveDesc_onlyFds ..)).trans (moveDesc_onlyFds ..)
  have hfds : FdsOk t := ht ▸ takeEnds_fds hends hempty
  have hvars : ∀ v, t.desc (.var v) = none := ht ▸ takeEnds_vars hends
  have hfields : ∀ p, (∀ v, p ≠ .var v) → p ≠ .read slot → p ≠ .write slot →
      t.desc p = ref.desc p := ht ▸ fun _ => takeEnds_fields hends
  have hservers : ServersOk t := hok.servers.congr honly.server honly.spawned honly.records
  have hslot : t.server slot = none := by
    rw [honly.server]
    exact hempty.server
  have hspawned := hservers.spawn hslot hpid
  rw [heq]
  refine ⟨Goes.setState ⟨⟨?_, hspawned, hvars⟩,
    ⟨fun p d hd => ?_, fun i s hs => ?_, honly.closed, fun r => ?_⟩, honly.locked, ?_, ?_⟩
      slot state, fun i hi hi' => ⟨?_, ?_, ?_⟩⟩
  · exact hfds.congr rfl rfl rfl rfl rfl
  · refine .inl ((hfields p ?_ ?_ ?_).trans hd)
    · rintro v rfl
      exact nomatch (hok.vars v).symm.trans hd
    · rintro rfl
      exact nomatch hempty.read.symm.trans hd
    · rintro rfl
      exact nomatch hempty.write.symm.trans hd
  · have hi : i ≠ slot := by
      rintro rfl
      exact nomatch hempty.server.symm.trans hs
    refine .inl ?_
    show Function.update t.server slot _ i = _
    rw [Function.update_of_ne hi, honly.server]
    exact hs
  · show ref.serverRecords r ⊆ t.serverRecords r
    rw [honly.records]
    exact List.Subset.refl _
  · intro x hx
    rw [← honly.writes]
    exact .inl hx
  · show t.spawned + 1 ≤ _
    rw [honly.spawned]
  · show Function.update t.server slot _ i = none
    rw [Function.update_of_ne hi, honly.server]
    exact hi'.server
  · exact (hfields (.read i) nofun (fun he => hi (FdPlace.read.inj he)) nofun).trans hi'.read
  · exact (hfields (.write i) nofun nofun fun he => hi (FdPlace.write.inj he)).trans hi'.write

theorem spawnServer_triple {slot : Nat} (env : SlotInitEnv) (hok : PhpOk ref)
    (hempty : SlotEmpty ref slot) :
    Triple (InBody ref [.dupStdout, .dupStdin, .p2cWrite, .p2cRead, .c2pWrite, .c2pRead])
      (spawnServer slot env) (Started ref slot) (Leaving ref) := by
  have hdups : ∀ w, InBody ref [.dupStdout, .dupStdin, .p2cWrite, .p2cRead, .c2pWrite, .c2pRead] w →
      InBody ref [.p2cWrite, .p2cRead, .c2pWrite, .c2pRead] (closeDups w) := by
    intro w h
    have hfirst : InBody ref [.dupStdout, .p2cWrite, .p2cRead, .c2pWrite, .c2pRead]
        (w.closeAt (.var .dupStdin)) := h.closeAt fun u => by cases u <;> simp
    exact hfirst.closeAt fun u => by cases u <;> simp
  refine ⟨fun w w' h hstage => ?_, fun w w' h hstage => ?_⟩
  · unfold spawnServer at hstage
    cases hspawn : posixSpawnRetry env.spawn 3 0 with
    | none =>
      rw [hspawn] at hstage
      exact nomatch hstage
    | some pid =>
      simp only [hspawn] at hstage
      split_ifs at hstage with hpid
      cases hstage
      exact recordServer_started env.started hok hempty hpid (hdups w h)
  · unfold spawnServer at hstage
    cases hspawn : posixSpawnRetry env.spawn 3 0 with
    | none =>
      rw [hspawn] at hstage
      cases hstage
      exact (hdups w h).leaving
    | some pid =>
      simp only [hspawn] at hstage
      split_ifs at hstage
      exact nomatch hstage

theorem initBody_triple {slot : Nat} (env : SlotInitEnv) (hok : PhpOk ref)
    (hempty : SlotEmpty ref slot) :
    Triple (InBody ref []) (initBody slot env) (Started ref slot) (Leaving ref) := by
  refine (openPipe_triple env.toPhp List.not_mem_nil (by decide)).andThen ?_
  refine (openPipe_triple env.fromPhp (by decide) (by decide)).andThen ?_
  refine (Triple.check env.fileActions fun _ h => h.leaving).andThen ?_
  refine (Triple.check env.attributes fun _ h => h.leaving).andThen ?_
  refine (dupBoth_triple env (by decide) (by decide)).andThen ?_
  refine (Triple.check env.actions fun _ h => h.leaving).andThen ?_
  exact spawnServer_triple env hok hempty

/-! ## The cleanup -/

theorem closeVars_inBody (vars : List PhpVar) (h : InBody ref vars w) :
    InBody ref [] (vars.foldl (fun w v => w.closeAt (.var v)) w) := by
  induction vars generalizing w with
  | nil => exact h
  | cons v vars ih =>
    refine ih (h.closeAt fun u hu => ?_)
    rw [List.mem_cons, not_or]
    by_cases huv : u = v
    · exact .inl huv
    · exact .inr ⟨huv, hu⟩

/-- After the cleanup only closed descriptors are new. -/
theorem InBody.goes (h : InBody ref [] w) (hok : PhpOk ref) : Goes 0 ref w := by
  refine ⟨⟨h.fds, hok.servers.congr h.only.server h.only.spawned h.only.records,
    fun v => h.vars v List.not_mem_nil⟩, ⟨fun p d hd => ?_, ?_, h.only.closed, ?_⟩, h.only.locked,
    ?_, h.only.spawned.le⟩
  · refine .inl ((h.fields p ?_).trans hd)
    rintro v rfl
    exact nomatch (hok.vars v).symm.trans hd
  · rw [h.only.server]
    exact fun _ _ => .inl
  · rw [h.only.records]
    exact fun _ => List.Subset.refl _
  · rw [h.only.writes]
    exact fun _ => .inl

theorem resetSlot_eq {slot : Nat} (h : SlotEmpty w slot) :
    resetSlot slot w = w.setState slot .busy := by
  have hserver : Function.update w.server slot none = w.server :=
    Function.update_eq_self_iff.mpr h.server.symm
  have hread : Function.update w.desc (.read slot) none = w.desc :=
    Function.update_eq_self_iff.mpr h.read.symm
  have hwrite : Function.update w.desc (.write slot) none = w.desc :=
    Function.update_eq_self_iff.mpr h.write.symm
  simp only [resetSlot, PhpWorld.setServer, PhpWorld.setDesc, hserver, hread, hwrite]

/-- A body that leaves changes nothing but the state of the slot. -/
theorem Leaving.goes {slot : Nat} (h : Leaving ref w) (hok : PhpOk ref)
    (hempty : SlotEmpty ref slot) : Goes 0 ref (resetSlot slot (cleanup w)) := by
  have hclean : InBody ref [] (cleanup w) := closeVars_inBody cleanupOrder h
  rw [resetSlot_eq (hclean.slotEmpty hempty)]
  exact (hclean.goes hok).setState slot .busy

theorem cleanup_eq_self (h : PhpOk w) : cleanup w = w := by
  simp only [cleanup, cleanupOrder, List.foldl_cons, List.foldl_nil, closeAt_of_none (h.vars _)]

/-! ## The loop and the function -/

/-- How `php_init` ends, after the loop or after the slot where it failed. -/
def finishInit (w : PhpWorld) : Option Nat → PhpWorld
  | none => cleanup w
  | some slot => resetSlot slot (cleanup w)

theorem initSlots_goes (env : Nat → SlotInitEnv) {slots : List Nat} {failed : Option Nat}
    (hok : PhpOk w) (hnodup : slots.Nodup) (hempty : ∀ i ∈ slots, SlotEmpty w i)
    (h : initSlots env slots w = some (w', failed)) :
    Goes slots.length w (finishInit w' failed) := by
  induction slots generalizing w with
  | nil =>
    cases h
    rw [finishInit, cleanup_eq_self hok]
    exact Goes.refl hok
  | cons slot slots ih =>
    rw [List.nodup_cons] at hnodup
    have hslot := hempty slot List.mem_cons_self
    have hbody := initBody_triple (env slot) hok hslot
    obtain ⟨⟨m, ok⟩, hm, hrest⟩ := Option.bind_eq_some_iff.mp h
    cases ok with
    | true =>
      have hstarted := hbody.goesOn w m (InBody.start hok) hm
      have hgoes : Goes slots.length m (finishInit w' failed) := by
        refine ih hstarted.goes.ok hnodup.2 (fun i hi => ?_) hrest
        refine hstarted.others i ?_ (hempty i (List.mem_cons_of_mem slot hi))
        rintro rfl
        exact hnodup.1 hi
      exact (hstarted.goes.trans hgoes).mono (by rw [List.length_cons]; omega)
    | false =>
      cases hrest
      exact (Leaving.goes (hbody.leaves _ _ (InBody.start hok) hm) hok hslot).mono (Nat.zero_le _)

theorem slotsOf_cases {servers process : Int} {slots : List Nat}
    (h : slotsOf servers process = some slots) :
    process = PHP_INIT ∧ slots = List.range servers.toNat ∨
      process ≠ PHP_INIT ∧ slots = [process.toNat] := by
  unfold slotsOf at h
  split_ifs at h with hrange hinit
  · exact .inl ⟨hinit, (Option.some.inj h).symm⟩
  · exact .inr ⟨hinit, (Option.some.inj h).symm⟩

theorem slotsOf_nodup {servers process : Int} {slots : List Nat}
    (h : slotsOf servers process = some slots) : slots.Nodup := by
  rcases slotsOf_cases h with ⟨-, rfl⟩ | ⟨-, rfl⟩
  · exact List.nodup_range
  · exact List.nodup_singleton _

/-- How many servers a call can start. -/
def slotCount (servers process : Int) : Nat := ((slotsOf servers process).getD []).length

theorem slotCount_le_one {servers process : Int} (h : process ≠ PHP_INIT) :
    slotCount servers process ≤ 1 := by
  unfold slotCount
  cases hslots : slotsOf servers process with
  | none => exact Nat.zero_le 1
  | some slots =>
    rcases slotsOf_cases hslots with ⟨hinit, -⟩ | ⟨-, rfl⟩
    · exact absurd hinit h
    · exact le_rfl

theorem phpInit_goes {servers process : Int} {env : PhpInitEnv} {ok : Bool} (hok : PhpOk w)
    (hempty : SlotsEmpty servers process w)
    (h : phpInit servers process env w = some (w', ok)) :
    Goes (slotCount servers process) w w' := by
  unfold phpInit at h
  split_ifs at h with hstrdup
  · cases h
    exact (Goes.refl hok).mono (Nat.zero_le _)
  · unfold slotCount
    cases hslots : slotsOf servers process with
    | none =>
      rw [hslots] at h
      cases h
      exact Goes.refl hok
    | some slots =>
      rw [hslots] at h
      obtain ⟨⟨m, failed⟩, hm, hpair⟩ := Option.map_eq_some_iff.mp h
      have hgoes := initSlots_goes env.slot hok (slotsOf_nodup hslots) (hempty slots hslots) hm
      cases failed <;> cases hpair <;> exact hgoes

end Spine
