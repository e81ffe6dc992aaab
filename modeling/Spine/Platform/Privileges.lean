import Spine.Base.CString
import Spine.Base.Credentials
import Spine.Base.Stages

/-!
# Giving up root

Spine is installed setuid root so that it can open raw ICMP sockets.
`drop_privileges` of `platform/privileges.c` runs before any input is read and
gives root up, or ends the process.  The kernel's rules are those of
`Base.Process`.  A call can also fail for a reason outside of them.

* `dropRoot`, `privilegesDropped` and `dropPrivileges` are the functions of the
  source, in the build with libcap and in the one without.
* `dropRoot_ok` and `setIds_ok` say what the two ways of changing the ids leave.
* `privilegesDropped_iff` says that the check is exact with libcap: it answers
  `TRUE` just when no later sequence of calls comes back to root.
* `dropPrivileges_permanent` is what the function is for, and
  `dropPrivileges_returns_iff` says when a setuid start goes on at all.
-/

namespace Spine

open Base.CString Base.Process Base.Stages

/-! ## Model -/

/-- Whether Spine is built with libcap (`HAVE_LCAP`). -/
inductive PrivilegeBuild
  | lcap
  | plain
deriving DecidableEq

/-- The `die` calls of `platform/privileges.c`. -/
inductive DropFailure
  | keepCaps
  | setgroups
  | effectiveIds (uid gid : ℕ)
  | clearKeepCaps
  | realIds (uid gid : ℕ)
  | notConfined
  | setIds (uid gid : ℕ)
  | notDropped
deriving DecidableEq

/-- Which calls do not fail for a reason of their own.  `capText` and `capGet` are
`cap_from_text` and `cap_get_proc`, and `icmpShared` is the result of
`ping_icmp_open_shared`. -/
structure DropEnv where
  keepCaps : Bool
  setgroups : Bool
  setegid : Bool
  seteuid : Bool
  capText : Bool
  capset : Bool
  clearKeepCaps : Bool
  setregid : Bool
  setreuid : Bool
  capGet : Bool
  setgid : Bool
  setuid : Bool
  icmpShared : Bool

/-- A call that must succeed. -/
def mustCall (failure : DropFailure) (ok : Bool) (call : Call) (c : Credentials) :
    Except DropFailure Credentials :=
  match if ok then call.apply c else none with
  | some c' => .ok c'
  | none => .error failure

/-- `cap_set_proc` of the text `cap_net_raw=eip`. -/
def narrowCaps (env : DropEnv) (c : Credentials) : Option Credentials :=
  if env.capText && env.capset then
    (Call.capset {CAP_NET_RAW} {CAP_NET_RAW} {CAP_NET_RAW}).apply c
  else none

/-- The middle of `drop_root`.  Without the narrowed set, clearing the flag lets the
kernel empty the permitted set with the change of ids.  The result says whether
`CAP_NET_RAW` was kept. -/
def narrowOrEmpty (env : DropEnv) (c : Credentials) : Except DropFailure (Credentials × Bool) :=
  match narrowCaps env c with
  | some c' => .ok (c', true)
  | none =>
    (mustCall .clearKeepCaps env.clearKeepCaps (.keepCaps false) c).map fun c' => (c', false)

/-- `drop_root`.  The result says whether `CAP_NET_RAW` was kept. -/
def dropRoot (env : DropEnv) (uid gid : ℕ) (c : Credentials) :
    Except DropFailure (Credentials × Bool) := do
  let c ← mustCall .keepCaps env.keepCaps (.keepCaps true) c
  let c ← mustCall .setgroups env.setgroups (.setgroups []) c
  let c ← mustCall (.effectiveIds uid gid) env.setegid (.setegid gid) c
  let c ← mustCall (.effectiveIds uid gid) env.seteuid (.seteuid uid) c
  let r ← narrowOrEmpty env c
  let c ← mustCall (.realIds uid gid) env.setregid (.setregid gid gid) r.1
  let c ← mustCall (.realIds uid gid) env.setreuid (.setreuid uid uid) c
  return (c, r.2)

/-- The loop of `privileges_dropped` over the permitted capabilities. -/
def onlyNetRaw (permitted : Finset Capability) : Bool :=
  (List.finRange 64).all fun value => !(value ∈ permitted && value ≠ CAP_NET_RAW)

/-- `privileges_dropped`.  An attempt to come back to root that succeeds leaves its
effect behind. -/
def privilegesDropped (build : PrivilegeBuild) (capGet : Bool) (uid gid : ℕ)
    (c : Credentials) : Bool × Credentials :=
  if uid = 0 ∨ c.uid.real ≠ uid ∨ c.uid.effective ≠ uid ∨ c.gid.real ≠ gid ∨
      c.gid.effective ≠ gid then (false, c)
  else if build = .lcap ∧ (capGet && onlyNetRaw c.permitted) = false then (false, c)
  else match (Call.seteuid 0).apply c with
    | some c' => (false, c')
    | none =>
      if gid ≠ 0 then
        match (Call.setegid 0).apply c with
        | some c' => (false, c')
        | none => (true, c)
      else (true, c)

/-- What `drop_privileges` leaves: the credentials and `setuid_icmp_lost`. -/
structure Dropped where
  credentials : Credentials
  setuidIcmpLost : Bool

/-- The change of ids of a setuid start.  The second result is `icmp_ready`. -/
def changeIds (build : PrivilegeBuild) (env : DropEnv) (uid gid : ℕ) (c : Credentials) :
    Except DropFailure (Credentials × Bool) :=
  match build with
  | .lcap => dropRoot env uid gid c
  | .plain => do
    let c ← mustCall (.setIds uid gid) env.setgid (.setgid gid) c
    let c ← mustCall (.setIds uid gid) env.setuid (.setuid uid) c
    return (c, env.icmpShared)

/-- `drop_privileges`. -/
def dropPrivileges (build : PrivilegeBuild) (env : DropEnv) (c : Credentials) :
    Except DropFailure Dropped :=
  if c.uid.effective ≠ 0 ∨ c.uid.real = 0 then
    if build = .lcap ∧ c.uid.effective = 0 then do
      let r ← dropRoot env c.uid.real c.gid.real c
      if r.2 then return ⟨r.1, false⟩ else throw .notConfined
    else return ⟨c, false⟩
  else do
    let r ← changeIds build env c.uid.real c.gid.real c
    let checked := privilegesDropped build env.capGet c.uid.real c.gid.real r.1
    if checked.1 then return ⟨checked.2, !r.2⟩ else throw .notDropped

/-! ## The calls one by one -/

theorem mustCall_eq_ok {failure : DropFailure} {ok : Bool} {call : Call}
    {c c' : Credentials} :
    mustCall failure ok call c = .ok c' ↔ ok = true ∧ call.apply c = some c' := by
  cases ok with
  | false => simp [mustCall]
  | true =>
    cases hcall : call.apply c with
    | none => simp [mustCall, hcall]
    | some d => simp [mustCall, hcall]

/-- A chain of calls, taken apart at its first call. -/
theorem mustCall_bind_eq_ok {failure : DropFailure} {ok : Bool} {call : Call}
    {c : Credentials} {α : Type} {rest : Credentials → Except DropFailure α} {a : α} :
    (mustCall failure ok call c >>= rest) = .ok a ↔
      ok = true ∧ ∃ c', call.apply c = some c' ∧ rest c' = .ok a := by
  show (mustCall failure ok call c).bind rest = .ok a ↔ _
  rw [bind_eq_ok]
  simp only [mustCall_eq_ok]
  constructor
  · rintro ⟨c', ⟨hok, hcall⟩, hrest⟩
    exact ⟨hok, c', hcall, hrest⟩
  · rintro ⟨hok, c', hcall, hrest⟩
    exact ⟨c', ⟨hok, hcall⟩, hrest⟩

theorem onlyNetRaw_iff {permitted : Finset Capability} :
    onlyNetRaw permitted = true ↔ permitted ⊆ {CAP_NET_RAW} := by
  simp only [onlyNetRaw, List.all_eq_true, List.mem_finRange, true_implies, Bool.not_eq_true',
    Bool.and_eq_false_iff, decide_eq_false_iff_not, Finset.subset_iff, Finset.mem_singleton]
  constructor
  · intro h value hmem
    rcases h value with hnot | hnet
    · exact absurd hmem hnot
    · exact not_not.1 hnet
  · intro h value
    by_cases hmem : value ∈ permitted
    · exact Or.inr (not_not.2 (h hmem))
    · exact Or.inl hmem

/-- Coming back to root is refused just when no id and no capability allows it. -/
theorem seteuid_zero_eq_none {c : Credentials} :
    (Call.seteuid 0).apply c = none ↔ c.has CAP_SETUID = false ∧ c.uid.hasRoot = false := by
  rw [Call.seteuid, Call.apply, Option.map_eq_none_iff, Ids.setresid_root_eq_none]

theorem setegid_zero_eq_none {c : Credentials} :
    (Call.setegid 0).apply c = none ↔ c.has CAP_SETGID = false ∧ c.gid.hasRoot = false := by
  rw [Call.setegid, Call.apply, Option.map_eq_none_iff, Ids.setresid_root_eq_none]

/-- Only the effective group id changes. -/
theorem setegid_eq_some {c c' : Credentials} {gid : ℕ}
    (h : (Call.setegid gid).apply c = some c') :
    c' = { c with gid := { c.gid with effective := gid } } := by
  obtain ⟨new, hnew, rfl⟩ := Option.map_eq_some_iff.1 h
  unfold Ids.setresid at hnew
  split at hnew
  · cases hnew
    rfl
  · cases hnew

theorem seteuid_eq_some {c c' : Credentials} {uid : ℕ}
    (h : (Call.seteuid uid).apply c = some c') :
    c' = c.setUids { c.uid with effective := uid } := by
  obtain ⟨new, hnew, rfl⟩ := Option.map_eq_some_iff.1 h
  unfold Ids.setresid at hnew
  split at hnew
  · cases hnew
    rfl
  · cases hnew

theorem capset_eq_some {c c' : Credentials} {i p e : Finset Capability}
    (h : (Call.capset i p e).apply c = some c') :
    c'.permitted = p ∧ c'.effective = e ∧ c'.uid = c.uid ∧ c'.gid = c.gid ∧
      c'.groups = c.groups ∧ c'.keepCaps = c.keepCaps := by
  simp only [Call.apply] at h
  split at h
  · cases h
    exact ⟨rfl, rfl, rfl, rfl, rfl, rfl⟩
  · cases h

/-- The middle of `drop_root` leaves the ids and the groups.  Either the narrowed set is
in place and the flag is as before, or the flag is cleared. -/
theorem narrowOrEmpty_ok {env : DropEnv} {c c' : Credentials} {kept : Bool}
    (h : narrowOrEmpty env c = .ok (c', kept)) :
    c'.uid = c.uid ∧ c'.gid = c.gid ∧ c'.groups = c.groups ∧
      (kept = true ∧ c'.permitted = {CAP_NET_RAW} ∧ c'.effective = {CAP_NET_RAW} ∧
          c'.keepCaps = c.keepCaps ∨
        kept = false ∧ c'.keepCaps = false) := by
  unfold narrowOrEmpty at h
  split at h
  · rename_i d hd
    cases h
    unfold narrowCaps at hd
    split at hd
    · obtain ⟨hp, he, hu, hg, hgr, hk⟩ := capset_eq_some hd
      exact ⟨hu, hg, hgr, Or.inl ⟨rfl, hp, he, hk⟩⟩
    · cases hd
  · cases hclear : mustCall .clearKeepCaps env.clearKeepCaps (.keepCaps false) c with
    | error e =>
      rw [hclear] at h
      cases h
    | ok d =>
      rw [hclear] at h
      cases h
      obtain ⟨_, hd⟩ := mustCall_eq_ok.1 hclear
      cases hd
      exact ⟨rfl, rfl, rfl, Or.inr ⟨rfl, rfl⟩⟩

/-- What `drop_root` leaves.  Nothing but `CAP_NET_RAW` is left if that was kept, and also
if the process comes from a setuid start.  Where it was kept, it is effective at the end. -/
structure RootDropped (c : Credentials) (uid gid : ℕ) (c' : Credentials) (kept : Bool) :
    Prop where
  uids : c'.uid = ⟨uid, uid, uid⟩
  gids : c'.gid = ⟨gid, gid, gid⟩
  groups : c'.groups = []
  permitted : kept = true ∨ c.uid.saved = 0 ∧ uid ≠ 0 → c'.permitted ⊆ {CAP_NET_RAW}
  effective : kept = true → c'.effective = {CAP_NET_RAW}

theorem dropRoot_ok {env : DropEnv} {uid gid : ℕ} {c c' : Credentials} {kept : Bool}
    (h : dropRoot env uid gid c = .ok (c', kept)) : RootDropped c uid gid c' kept := by
  unfold dropRoot at h
  obtain ⟨_, c1, h1, h⟩ := mustCall_bind_eq_ok.1 h
  obtain ⟨_, c2, h2, h⟩ := mustCall_bind_eq_ok.1 h
  obtain ⟨_, c3, h3, h⟩ := mustCall_bind_eq_ok.1 h
  obtain ⟨_, c4, h4, h⟩ := mustCall_bind_eq_ok.1 h
  obtain ⟨⟨c5, kept'⟩, h5, h⟩ := bind_eq_ok.1 h
  obtain ⟨_, c6, h6, h⟩ := mustCall_bind_eq_ok.1 h
  obtain ⟨_, c7, h7, h⟩ := mustCall_bind_eq_ok.1 h
  cases h
  cases h1
  obtain ⟨hgroups, hstart, hflag⟩ : c2.groups = [] ∧ c2.uid = c.uid ∧ c2.keepCaps = true := by
    simp only [Call.apply] at h2
    split at h2
    · cases h2
      exact ⟨rfl, rfl, rfl⟩
    · cases h2
  rw [setegid_eq_some h3] at h4
  rw [seteuid_eq_some h4] at h5
  obtain ⟨huid, _, hgr, hcaps⟩ := narrowOrEmpty_ok h5
  obtain ⟨gids, hgids, rfl⟩ := Option.map_eq_some_iff.1 h6
  obtain ⟨uids, huids, rfl⟩ := Option.map_eq_some_iff.1 h7
  rw [Ids.setreid_eq_some hgids, Ids.setreid_eq_some huids]
  rcases hcaps with ⟨_, hp, he, hkeep⟩ | ⟨hkept, hkeep⟩
  · refine ⟨rfl, rfl, hgr.trans hgroups,
      fun _ => (Credentials.permittedAfter_subset _ _).trans hp.subset, fun _ => ?_⟩
    -- The effective id is already the new one, so only the flag to keep capabilities counts.
    simp [Credentials.effectiveAfter, Credentials.permittedAfter, huid, hkeep, hflag, hp, he]
  · refine ⟨rfl, rfl, hgr.trans hgroups, fun hsetuid => ?_,
      fun hyes => by cases hkept.symm.trans hyes⟩
    -- The saved id of root goes with this last call, and the kernel empties the set.
    obtain ⟨hsaved, hne⟩ := hsetuid.resolve_left (by rw [hkept]; exact Bool.false_ne_true)
    have hroot : c5.uid.hasRoot = true := by
      rw [huid]
      simp [Ids.hasRoot, Ids.may, hstart, hsaved]
    have hnew : Ids.hasRoot ⟨uid, uid, uid⟩ = false := by simp [Ids.hasRoot, Ids.may, hne]
    have hempty := Credentials.permittedAfter_of_losesRoot (c := { c5 with gid := gids })
      hroot hnew hkeep
    rw [Ids.setreid_eq_some hgids] at hempty
    exact hempty.subset.trans (Finset.empty_subset _)

/-! ## The check -/

theorem privilegesDropped_eq_true {build : PrivilegeBuild} {capGet : Bool} {uid gid : ℕ}
    {c : Credentials} :
    (privilegesDropped build capGet uid gid c).1 = true ↔
      (uid ≠ 0 ∧ c.uid.real = uid ∧ c.uid.effective = uid ∧ c.gid.real = gid ∧
        c.gid.effective = gid) ∧
      (build = .lcap → capGet = true ∧ c.permitted ⊆ {CAP_NET_RAW}) ∧
      (c.has CAP_SETUID = false ∧ c.uid.hasRoot = false) ∧
      (gid ≠ 0 → c.has CAP_SETGID = false ∧ c.gid.hasRoot = false) := by
  rw [← seteuid_zero_eq_none, ← setegid_zero_eq_none]
  unfold privilegesDropped
  split
  · rename_i hids
    simp only [Bool.false_eq_true, false_iff]
    rintro ⟨⟨h0, h1, h2, h3, h4⟩, _⟩
    simp only [h0, h1, h2, h3, h4, ne_eq, not_true_eq_false, or_self] at hids
  · rename_i hids
    simp only [not_or, not_not] at hids
    split
    · rename_i hcaps
      simp only [Bool.false_eq_true, false_iff]
      rintro ⟨_, hlcap, _⟩
      obtain ⟨hget, hsub⟩ := hlcap hcaps.1
      rw [hget, onlyNetRaw_iff.2 hsub] at hcaps
      exact Bool.false_ne_true hcaps.2.symm
    · rename_i hcaps
      have hlcap : build = .lcap → capGet = true ∧ c.permitted ⊆ {CAP_NET_RAW} := by
        intro hb
        have hand : (capGet && onlyNetRaw c.permitted) = true :=
          eq_true_of_ne_false fun hf => hcaps ⟨hb, hf⟩
        rw [Bool.and_eq_true, onlyNetRaw_iff] at hand
        exact hand
      cases hu : (Call.seteuid 0).apply c with
      | some c' => simp
      | none =>
        by_cases hg0 : gid = 0
        · simp only [hg0, ne_eq, not_true_eq_false, if_false, true_iff, false_implies, and_true]
          exact ⟨⟨hids.1, hids.2.1, hids.2.2.1, by rw [← hg0]; exact hids.2.2.2⟩, hlcap⟩
        · cases hg : (Call.setegid 0).apply c with
          | some c' => simp [hg0]
          | none =>
            simp only [hg0, ne_eq, not_false_eq_true, if_true, true_iff, implies_true, and_true]
            exact ⟨hids, hlcap⟩

/-- The check leaves the credentials alone when it answers `TRUE`. -/
theorem privilegesDropped_snd {build : PrivilegeBuild} {capGet : Bool} {uid gid : ℕ}
    {c : Credentials} (h : (privilegesDropped build capGet uid gid c).1 = true) :
    (privilegesDropped build capGet uid gid c).2 = c := by
  generalize hr : privilegesDropped build capGet uid gid c = r at h ⊢
  unfold privilegesDropped at hr
  split at hr
  · rw [← hr] at h
    cases h
  · split at hr
    · rw [← hr] at h
      cases h
    · split at hr
      · rw [← hr] at h
        cases h
      · split at hr
        · split at hr
          · rw [← hr] at h
            cases h
          · rw [← hr]
        · rw [← hr]

theorem setuid_notMem : CAP_SETUID ∉ ({CAP_NET_RAW} : Finset Capability) := by decide

theorem setgid_notMem : CAP_SETGID ∉ ({CAP_NET_RAW} : Finset Capability) := by decide

/-- With libcap the check is exact.  It answers `TRUE` just when every id is the invoking
user's and no sequence of calls, of whatever length, brings back a user id of root, a group
id of root the user does not have, or a capability beyond `CAP_NET_RAW`. -/
theorem privilegesDropped_iff (capGet : Bool) (uid gid : ℕ) (c : Credentials) :
    (privilegesDropped .lcap capGet uid gid c).1 = true ↔
      capGet = true ∧
      (uid ≠ 0 ∧ c.uid.real = uid ∧ c.uid.effective = uid ∧ c.gid.real = gid ∧
        c.gid.effective = gid) ∧
      ∀ calls, (later c calls).uid.hasRoot = false ∧
        (gid ≠ 0 → (later c calls).gid.hasRoot = false) ∧
        (later c calls).permitted ⊆ {CAP_NET_RAW} := by
  rw [privilegesDropped_eq_true]
  constructor
  · rintro ⟨hids, hlcap, ⟨_, huid⟩, hgid⟩
    obtain ⟨hget, hcaps⟩ := hlcap rfl
    refine ⟨hget, hids, fun calls => ?_⟩
    have hconf : Confined {0}ᶜ {n | gid ≠ 0 → n ≠ 0} c.groups {CAP_NET_RAW} c := by
      refine ⟨Ids.hasRoot_eq_false.1 huid, ?_, rfl, hcaps⟩
      by_cases hg0 : gid = 0
      · exact ⟨fun h => absurd hg0 h, fun h => absurd hg0 h, fun h => absurd hg0 h⟩
      · obtain ⟨hr, he, hs⟩ := Ids.hasRoot_eq_false.1 (hgid hg0).2
        exact ⟨fun _ => hr, fun _ => he, fun _ => hs⟩
    obtain ⟨hu, hg, _, hp⟩ := hconf.later setuid_notMem setgid_notMem calls
    refine ⟨Ids.hasRoot_eq_false.2 hu, fun hg0 => ?_, hp⟩
    exact Ids.hasRoot_eq_false.2 ⟨hg.real hg0, hg.effective hg0, hg.saved hg0⟩
  · rintro ⟨hget, hids, hlater⟩
    obtain ⟨huid, hgid, hcaps⟩ := hlater []
    refine ⟨hids, fun _ => ⟨hget, hcaps⟩, ⟨?_, huid⟩, fun hg0 => ⟨?_, hgid hg0⟩⟩
    · exact Credentials.has_eq_false fun hmem => setuid_notMem (hcaps hmem)
    · exact Credentials.has_eq_false fun hmem => setgid_notMem (hcaps hmem)

/-! ## The function -/

/-- The credentials that the kernel gives a setuid root program of an ordinary user.
`execve` resets the flag to keep capabilities. -/
structure SetuidRoot (c : Credentials) : Prop where
  real : c.uid.real ≠ 0
  effective : c.uid.effective = 0
  saved : c.uid.saved = 0
  keepCaps : c.keepCaps = false

theorem SetuidRoot.hasRoot {c : Credentials} (h : SetuidRoot c) : c.uid.hasRoot = true := by
  simp [Ids.hasRoot, Ids.may, h.effective]

/-- What is permitted after a setuid start. -/
def PrivilegeBuild.bound : PrivilegeBuild → Finset Capability
  | .lcap => {CAP_NET_RAW}
  | .plain => ∅

/-- The supplementary groups after a setuid start. -/
def PrivilegeBuild.groups (build : PrivilegeBuild) (c : Credentials) : List ℕ :=
  match build with
  | .lcap => []
  | .plain => c.groups

theorem setgid_eq_some {c c' : Credentials} {gid : ℕ}
    (h : (Call.setgid gid).apply c = some c') : ∃ ids, c' = { c with gid := ids } := by
  obtain ⟨ids, _, rfl⟩ := Option.map_eq_some_iff.1 h
  exact ⟨ids, rfl⟩

/-- Without libcap the ids change by `setgid` and `setuid`.  If root is out of reach
afterwards, every user id is the user's own and no capability is left. -/
theorem setIds_ok {env : DropEnv} {c c' : Credentials} {ready : Bool} (hstart : SetuidRoot c)
    (h : changeIds .plain env c.uid.real c.gid.real c = .ok (c', ready))
    (hroot : c'.uid.hasRoot = false) :
    c'.uid = ⟨c.uid.real, c.uid.real, c.uid.real⟩ ∧ c'.permitted = ∅ ∧
      c'.groups = c.groups := by
  obtain ⟨_, c1, h1, h⟩ := mustCall_bind_eq_ok.1 h
  obtain ⟨_, c2, h2, h⟩ := mustCall_bind_eq_ok.1 h
  cases h
  obtain ⟨gids, rfl⟩ := setgid_eq_some h1
  obtain ⟨uids, huids, rfl⟩ := Option.map_eq_some_iff.1 h2
  refine ⟨?_, Credentials.permittedAfter_of_losesRoot hstart.hasRoot hroot hstart.keepCaps,
    rfl⟩
  unfold Ids.setid at huids
  split at huids
  · cases huids
    rfl
  · split at huids
    · -- Without `CAP_SETUID` the saved id of root would have stayed.
      cases huids
      have hsaved := (Ids.hasRoot_eq_false.1 hroot).saved
      exact absurd hstart.saved hsaved
    · cases huids

/-- A setuid start that goes on has changed the ids and passed the check. -/
theorem dropPrivileges_setuid {build : PrivilegeBuild} {env : DropEnv} {c : Credentials}
    {r : Dropped} (hstart : SetuidRoot c) :
    dropPrivileges build env c = .ok r ↔
      ∃ ready, changeIds build env c.uid.real c.gid.real c = .ok (r.credentials, ready) ∧
        r.setuidIcmpLost = !ready ∧
        (privilegesDropped build env.capGet c.uid.real c.gid.real r.credentials).1 = true := by
  have hroot : ¬(c.uid.effective ≠ 0 ∨ c.uid.real = 0) := by
    rintro (he | hr)
    · exact he hstart.effective
    · exact hstart.real hr
  unfold dropPrivileges
  rw [if_neg hroot]
  show Except.bind _ _ = _ ↔ _
  rw [bind_eq_ok]
  constructor
  · rintro ⟨⟨c', ready⟩, hids, hcheck⟩
    simp only at hcheck
    split at hcheck
    · rename_i hdropped
      cases hcheck
      rw [privilegesDropped_snd hdropped]
      exact ⟨ready, hids, rfl, hdropped⟩
    · cases hcheck
  · rintro ⟨ready, hids, hlost, hdropped⟩
    refine ⟨(r.credentials, ready), hids, ?_⟩
    simp only [hdropped, if_true, privilegesDropped_snd hdropped]
    rw [← hlost]
    rfl

/-- A setuid start that goes on is confined. -/
theorem confined_of_dropPrivileges {build : PrivilegeBuild} {env : DropEnv} {c : Credentials}
    {r : Dropped} (hstart : SetuidRoot c) (h : dropPrivileges build env c = .ok r) :
    Confined {c.uid.real} {n | c.gid.real ≠ 0 → n ≠ 0} (build.groups c) build.bound
      r.credentials := by
  obtain ⟨ready, hids, _, hcheck⟩ := (dropPrivileges_setuid hstart).1 h
  obtain ⟨_, _, ⟨_, huid⟩, hgid⟩ := privilegesDropped_eq_true.1 hcheck
  have hgids : r.credentials.gid.Within {n | c.gid.real ≠ 0 → n ≠ 0} := by
    by_cases hg0 : c.gid.real = 0
    · exact ⟨fun h => absurd hg0 h, fun h => absurd hg0 h, fun h => absurd hg0 h⟩
    · obtain ⟨hr, he, hs⟩ := Ids.hasRoot_eq_false.1 (hgid hg0).2
      exact ⟨fun _ => hr, fun _ => he, fun _ => hs⟩
  cases build with
  | lcap =>
    have hd := dropRoot_ok hids
    exact ⟨Ids.within_singleton.2 hd.uids, hgids, hd.groups,
      hd.permitted (Or.inr ⟨hstart.saved, hstart.real⟩)⟩
  | plain =>
    obtain ⟨hu, hp, hgr⟩ := setIds_ok hstart hids huid
    exact ⟨Ids.within_singleton.2 hu, hgids, hgr, hp.subset⟩

/-! ## When a setuid start goes on -/

/-- No call fails for a reason of its own. -/
def DropEnv.allowed (icmpShared : Bool) : DropEnv :=
  ⟨true, true, true, true, true, true, true, true, true, true, true, true, icmpShared⟩

/-- What the two builds need of the kernel.  With libcap only `setgroups` asks for a
capability.  Without it the saved ids go only if a capability allows it. -/
def PrivilegeBuild.canDrop (build : PrivilegeBuild) (c : Credentials) : Prop :=
  match build with
  | .lcap => c.has CAP_SETGID = true
  | .plain => c.has CAP_SETUID = true ∧
      (c.gid.real ≠ 0 → c.has CAP_SETGID = true ∨ c.gid.saved ≠ 0)

/-- What raw ICMP needs after the start. -/
def PrivilegeBuild.keepsIcmp (build : PrivilegeBuild) (icmpShared : Bool) (c : Credentials) :
    Prop :=
  match build with
  | .lcap => CAP_NET_RAW ∈ c.permitted ∧ CAP_NET_RAW ∈ c.inheritable ∪ c.bounding
  | .plain => icmpShared = true

theorem setegid_real (c : Credentials) :
    (Call.setegid c.gid.real).apply c =
      some { c with gid := { c.gid with effective := c.gid.real } } := by
  simp [Call.setegid, Call.apply, Ids.setresid, Ids.may]

theorem seteuid_real (c : Credentials) :
    (Call.seteuid c.uid.real).apply c =
      some (c.setUids { c.uid with effective := c.uid.real }) := by
  simp [Call.seteuid, Call.apply, Ids.setresid, Ids.may]

theorem setreid_self (privileged : Bool) (i : Ids) :
    i.setreid privileged i.real i.real = some ⟨i.real, i.real, i.real⟩ := by
  simp [Ids.setreid, Ids.may]

theorem narrowOrEmpty_allowed (shared : Bool) (c : Credentials) :
    ∃ c', narrowOrEmpty (.allowed shared) c =
      .ok (c', c.mayCapset {CAP_NET_RAW} {CAP_NET_RAW} {CAP_NET_RAW}) := by
  unfold narrowOrEmpty narrowCaps
  simp only [DropEnv.allowed, Bool.and_self, if_true, Call.apply]
  split
  · rename_i c' hc
    split at hc
    · rename_i hmay
      rw [hmay]
      exact ⟨c', rfl⟩
    · cases hc
  · rename_i hc
    split at hc
    · cases hc
    · rename_i hmay
      rw [Bool.not_eq_true] at hmay
      rw [hmay]
      exact ⟨{ c with keepCaps := false }, rfl⟩

/-- The capabilities just before the set is narrowed are the permitted ones of the start,
with none of them effective. -/
theorem mayCapset_setUids {c : Credentials} (hne : c.uid.real ≠ 0)
    (he : c.uid.effective = 0) (hkeep : c.keepCaps = true) :
    (c.setUids { c.uid with effective := c.uid.real }).mayCapset {CAP_NET_RAW} {CAP_NET_RAW}
        {CAP_NET_RAW} = true ↔
      CAP_NET_RAW ∈ c.permitted ∧ CAP_NET_RAW ∈ c.inheritable ∪ c.bounding := by
  have hp : c.permittedAfter { c.uid with effective := c.uid.real } = c.permitted := by
    simp [Credentials.permittedAfter, hkeep]
  have hempty : c.effectiveAfter { c.uid with effective := c.uid.real } = ∅ := by
    simp [Credentials.effectiveAfter, he, hne]
  have hinh : (c.setUids { c.uid with effective := c.uid.real }).inheritable = c.inheritable :=
    rfl
  simp only [Credentials.mayCapset, Credentials.has, Credentials.setUids_effective, hempty,
    Credentials.setUids_permitted, hp, Credentials.setUids_bounding, hinh,
    Finset.singleton_subset_iff, Bool.and_eq_true, decide_eq_true_eq, Finset.notMem_empty,
    decide_false, Bool.false_or, Finset.mem_union, Finset.mem_singleton, and_true]
  constructor
  · rintro ⟨⟨_, hb⟩, hmem⟩
    exact ⟨hmem, hb⟩
  · rintro ⟨hmem, hb⟩
    exact ⟨⟨Or.inr hmem, hb⟩, hmem⟩

/-- `drop_root` on a kernel that refuses by its rules only. -/
theorem exists_dropRoot (shared : Bool) {c : Credentials} (hstart : SetuidRoot c)
    (hset : c.has CAP_SETGID = true) :
    ∃ c' kept, dropRoot (.allowed shared) c.uid.real c.gid.real c = .ok (c', kept) ∧
      (kept = true ↔ PrivilegeBuild.lcap.keepsIcmp shared c) := by
  set c2 : Credentials := { c with keepCaps := true, groups := [] } with hc2
  set c3 : Credentials := { c2 with gid := { c.gid with effective := c.gid.real } } with hc3
  have h2 : (Call.setgroups []).apply { c with keepCaps := true } = some c2 := by
    have : Credentials.has { c with keepCaps := true } CAP_SETGID = true := hset
    simp [Call.apply, this, hc2]
  obtain ⟨c5, h5⟩ := narrowOrEmpty_allowed shared
    (c3.setUids { c3.uid with effective := c3.uid.real })
  obtain ⟨hu5, hg5, _, _⟩ := narrowOrEmpty_ok h5
  have hg : c5.gid.real = c.gid.real := by rw [hg5]; rfl
  have hu : c5.uid.real = c.uid.real := by rw [hu5]; rfl
  set c6 : Credentials := { c5 with gid := ⟨c.gid.real, c.gid.real, c.gid.real⟩ } with hc6
  have h6 : (Call.setregid c.gid.real c.gid.real).apply c5 = some c6 := by
    rw [hc6, ← hg]
    simp only [Call.apply, setreid_self, Option.map_some]
  have h7 : (Call.setreuid c.uid.real c.uid.real).apply c6 =
      some (c6.setUids ⟨c.uid.real, c.uid.real, c.uid.real⟩) := by
    have hu6 : c6.uid.real = c.uid.real := hu
    rw [← hu6]
    simp only [Call.apply, setreid_self, Option.map_some]
  refine ⟨c6.setUids ⟨c.uid.real, c.uid.real, c.uid.real⟩, _, ?_,
    mayCapset_setUids (c := c3) hstart.real hstart.effective rfl⟩
  refine mustCall_bind_eq_ok.2 ⟨rfl, _, rfl, ?_⟩
  refine mustCall_bind_eq_ok.2 ⟨rfl, c2, h2, ?_⟩
  refine mustCall_bind_eq_ok.2 ⟨rfl, c3, setegid_real c2, ?_⟩
  refine mustCall_bind_eq_ok.2 ⟨rfl, _, seteuid_real c3, ?_⟩
  refine bind_eq_ok.2 ⟨_, h5, ?_⟩
  refine mustCall_bind_eq_ok.2 ⟨rfl, _, h6, ?_⟩
  exact mustCall_bind_eq_ok.2 ⟨rfl, _, h7, rfl⟩

/-- Without libcap the ids always change by the kernel's rules.  What the two calls leave
depends on the capabilities. -/
theorem changeIds_plain (shared : Bool) (c : Credentials) :
    ∃ gids uids, c.gid.setid (c.has CAP_SETGID) c.gid.real = some gids ∧
      c.uid.setid (c.has CAP_SETUID) c.uid.real = some uids ∧
      changeIds .plain (.allowed shared) c.uid.real c.gid.real c =
        .ok (Credentials.setUids { c with gid := gids } uids, shared) := by
  have hset : ∀ (p : Bool) (i : Ids), ∃ ids, i.setid p i.real = some ids := by
    intro p i
    cases p with
    | false => exact ⟨{ i with effective := i.real }, by simp [Ids.setid]⟩
    | true => exact ⟨⟨i.real, i.real, i.real⟩, by simp [Ids.setid]⟩
  obtain ⟨gids, hg⟩ := hset (c.has CAP_SETGID) c.gid
  obtain ⟨uids, hu⟩ := hset (c.has CAP_SETUID) c.uid
  refine ⟨gids, uids, hg, hu, ?_⟩
  refine mustCall_bind_eq_ok.2 ⟨rfl, { c with gid := gids }, ?_, ?_⟩
  · simp only [Call.apply, hg, Option.map_some]
  · refine mustCall_bind_eq_ok.2 ⟨rfl, Credentials.setUids { c with gid := gids } uids, ?_, rfl⟩
    have hu' : c.uid.setid (Credentials.has { c with gid := gids } CAP_SETUID) c.uid.real =
        some uids := hu
    simp only [Call.apply, hu', Option.map_some]

theorem setid_real_saved {privileged : Bool} {i ids : Ids}
    (h : i.setid privileged i.real = some ids) :
    ids.real = i.real ∧ ids.effective = i.real ∧
      ids.saved = if privileged then i.real else i.saved := by
  cases privileged with
  | false =>
    simp only [Ids.setid, Bool.false_eq_true, if_false, true_or, if_true] at h ⊢
    cases h
    exact ⟨rfl, rfl, rfl⟩
  | true =>
    simp only [Ids.setid, if_true] at h ⊢
    cases h
    exact ⟨rfl, rfl, rfl⟩

/-- A start that can drop its privileges goes on. -/
theorem exists_dropPrivileges (build : PrivilegeBuild) (shared : Bool) {c : Credentials}
    (hstart : SetuidRoot c) (hcan : build.canDrop c) :
    ∃ r, dropPrivileges build (.allowed shared) c = .ok r ∧
      (r.setuidIcmpLost = false ↔ build.keepsIcmp shared c) := by
  cases build with
  | lcap =>
    obtain ⟨c', kept, hdrop, hkept⟩ := exists_dropRoot shared hstart hcan
    have hd := dropRoot_ok hdrop
    have hcaps := hd.permitted (Or.inr ⟨hstart.saved, hstart.real⟩)
    refine ⟨⟨c', !kept⟩, (dropPrivileges_setuid hstart).2 ⟨kept, hdrop, rfl, ?_⟩, ?_⟩
    · rw [privilegesDropped_eq_true, hd.uids, hd.gids]
      refine ⟨⟨hstart.real, rfl, rfl, rfl, rfl⟩, fun _ => ⟨rfl, hcaps⟩, ⟨?_, ?_⟩, ?_⟩
      · exact Credentials.has_eq_false fun hmem => setuid_notMem (hcaps hmem)
      · simp [Ids.hasRoot, Ids.may, hstart.real]
      · intro hg0
        refine ⟨Credentials.has_eq_false fun hmem => setgid_notMem (hcaps hmem), ?_⟩
        simp [Ids.hasRoot, Ids.may, hg0]
    · rw [Bool.not_eq_false', hkept]
  | plain =>
    obtain ⟨huid, hgid⟩ := hcan
    obtain ⟨gids, uids, hg, hu, hids⟩ := changeIds_plain shared c
    obtain ⟨hgr, hge, hgs⟩ := setid_real_saved hg
    obtain ⟨hur, hue, hus⟩ := setid_real_saved hu
    rw [huid, if_pos rfl] at hus
    have hroot : uids.hasRoot = false := by
      simp [Ids.hasRoot, Ids.may, hur, hue, hus, hstart.real]
    have hempty : (Credentials.setUids { c with gid := gids } uids).permitted = ∅ :=
      Credentials.permittedAfter_of_losesRoot hstart.hasRoot hroot hstart.keepCaps
    have hno : ∀ cap, (Credentials.setUids { c with gid := gids } uids).has cap = false :=
      fun cap => Credentials.has_eq_false (by rw [hempty]; exact Finset.notMem_empty cap)
    refine ⟨⟨_, !shared⟩, (dropPrivileges_setuid hstart).2 ⟨shared, hids, rfl, ?_⟩, ?_⟩
    · rw [privilegesDropped_eq_true]
      refine ⟨⟨hstart.real, hur, hue, hgr, hge⟩, fun h => ?_, ⟨hno _, hroot⟩, ?_⟩
      · cases h
      · intro hg0
        refine ⟨hno _, ?_⟩
        have hsaved : gids.saved ≠ 0 := by
          rw [hgs]
          split
          · exact hg0
          · rename_i hset
            exact (hgid hg0).resolve_left hset
        simp [Ids.hasRoot, Ids.may, hgr, hge, hg0, hsaved]
    · rw [Bool.not_eq_false']
      rfl

/-- A start that cannot drop its privileges is ended. -/
theorem dropPrivileges_ne_ok (build : PrivilegeBuild) (shared : Bool) {c : Credentials}
    (hstart : SetuidRoot c) (hcannot : ¬build.canDrop c) (r : Dropped) :
    dropPrivileges build (.allowed shared) c ≠ .ok r := by
  intro h
  obtain ⟨ready, hids, _, hcheck⟩ := (dropPrivileges_setuid hstart).1 h
  obtain ⟨_, _, ⟨_, huid⟩, hgid⟩ := privilegesDropped_eq_true.1 hcheck
  apply hcannot
  cases build with
  | lcap =>
    obtain ⟨_, c1, h1, hids⟩ := mustCall_bind_eq_ok.1 hids
    obtain ⟨_, c2, h2, _⟩ := mustCall_bind_eq_ok.1 hids
    cases h1
    simp only [Call.apply] at h2
    split at h2
    · rename_i hset
      exact hset
    · cases h2
  | plain =>
    obtain ⟨gids, uids, hg, hu, heq⟩ := changeIds_plain shared c
    rw [hids] at heq
    have hcred : r.credentials = Credentials.setUids { c with gid := gids } uids :=
      (Prod.mk.inj (Except.ok.inj heq)).1
    rw [hcred] at huid hgid
    obtain ⟨_, _, hgs⟩ := setid_real_saved hg
    obtain ⟨_, _, hus⟩ := setid_real_saved hu
    refine ⟨?_, fun hg0 => ?_⟩
    · by_contra hnot
      rw [if_neg hnot] at hus
      exact (Ids.hasRoot_eq_false.1 huid).saved (hus.trans hstart.saved)
    · by_contra hnot
      rw [not_or, not_not] at hnot
      rw [if_neg hnot.1] at hgs
      exact (Ids.hasRoot_eq_false.1 (hgid hg0).2).saved (hgs.trans hnot.2)

/-- When a setuid start goes on.  If no call fails for a reason of its own, the start goes
on just when the capabilities allow the change of ids, and then it has raw ICMP just when
the capability or the shared socket could be kept.  Otherwise it is ended. -/
theorem dropPrivileges_returns_iff (build : PrivilegeBuild) (shared : Bool) {c : Credentials}
    (hstart : SetuidRoot c) :
    (build.canDrop c →
      ∃ r, dropPrivileges build (.allowed shared) c = .ok r ∧
        (r.setuidIcmpLost = false ↔ build.keepsIcmp shared c)) ∧
    (¬build.canDrop c →
      ∃ failure, dropPrivileges build (.allowed shared) c = .error failure) := by
  refine ⟨exists_dropPrivileges build shared hstart, fun hcannot => ?_⟩
  cases hrun : dropPrivileges build (.allowed shared) c with
  | error failure => exact ⟨failure, rfl⟩
  | ok r => exact absurd hrun (dropPrivileges_ne_ok build shared hstart hcannot r)

/-- A setuid root start of the user 1000 with every capability. -/
def setuidStart : Credentials where
  uid := ⟨1000, 0, 0⟩
  gid := ⟨1000, 1000, 1000⟩
  groups := [27]
  inheritable := ∅
  permitted := Finset.univ
  effective := Finset.univ
  bounding := Finset.univ
  keepCaps := false
  effective_subset := Finset.Subset.refl _

theorem setuidRoot_setuidStart : SetuidRoot setuidStart :=
  ⟨by decide, rfl, rfl, rfl⟩

theorem has_setuidStart (cap : Capability) : setuidStart.has cap = true :=
  decide_eq_true (Finset.mem_univ cap)

/-- Such a start goes on, and keeps raw ICMP, in the build with libcap. -/
theorem dropPrivileges_returns_setuidStart :
    SetuidRoot setuidStart ∧
      ∃ r, dropPrivileges .lcap (.allowed true) setuidStart = .ok r ∧
        r.setuidIcmpLost = false := by
  refine ⟨setuidRoot_setuidStart, ?_⟩
  obtain ⟨hgoes, _⟩ := dropPrivileges_returns_iff .lcap true setuidRoot_setuidStart
  obtain ⟨r, hr, hlost⟩ := hgoes (has_setuidStart CAP_SETGID)
  refine ⟨r, hr, hlost.2 ⟨Finset.mem_univ _, ?_⟩⟩
  exact Finset.mem_union_right _ (Finset.mem_univ _)

/-! ## Root stays out of reach -/

/-- Root is gone for good.  However the calls of `drop_privileges` come out, a setuid root
start that is not ended by it runs with the invoking user's ids only.  No later sequence of
calls brings back root, a group of root, a supplementary group or a capability. -/
theorem dropPrivileges_permanent {build : PrivilegeBuild} {env : DropEnv} {c : Credentials}
    {r : Dropped} (hstart : SetuidRoot c) (h : dropPrivileges build env c = .ok r)
    (calls : List Call) :
    (later r.credentials calls).uid = ⟨c.uid.real, c.uid.real, c.uid.real⟩ ∧
      (c.gid.real ≠ 0 → (later r.credentials calls).gid.hasRoot = false) ∧
      (later r.credentials calls).groups = build.groups c ∧
      (later r.credentials calls).permitted ⊆ build.bound := by
  have hu : CAP_SETUID ∉ build.bound := by cases build <;> decide
  have hg : CAP_SETGID ∉ build.bound := by cases build <;> decide
  obtain ⟨huid, hgid, hgroups, hcaps⟩ :=
    (confined_of_dropPrivileges hstart h).later hu hg calls
  refine ⟨Ids.within_singleton.1 huid, fun hg0 => ?_, hgroups, hcaps⟩
  exact Ids.hasRoot_eq_false.2 ⟨hgid.real hg0, hgid.effective hg0, hgid.saved hg0⟩

/-- The same start, in the build without libcap, can no longer become root. -/
theorem dropPrivileges_permanent_setuidStart :
    ∃ r, dropPrivileges .plain (.allowed true) setuidStart = .ok r ∧
      (later r.credentials [.seteuid 0, .setuid 0, .capset ∅ Finset.univ Finset.univ]).uid =
        ⟨1000, 1000, 1000⟩ := by
  obtain ⟨r, hr, _⟩ := exists_dropPrivileges .plain true setuidRoot_setuidStart
    ⟨has_setuidStart CAP_SETUID, fun _ => Or.inl (has_setuidStart CAP_SETGID)⟩
  exact ⟨r, hr, (dropPrivileges_permanent setuidRoot_setuidStart hr _).1⟩

end Spine
