import Mathlib.Data.Fintype.Card

/-!
# The credentials of a process

A process has a real, an effective and a saved user id, the same three group
ids, supplementary groups and sets of capabilities.  The kernel says which of
them a call may change.  This module has the rules of the calls and what no
sequence of calls can undo.

* `Ids` is one triple of ids, with the rules of `setid`, `setreid` and
  `setresid` for a caller with and without the capability.
* `Credentials` is the whole record.  Its last field states that an effective
  capability is a permitted one, so no other record can be built.  `setUids`
  has the effect of a change of user ids on the capabilities.
* `Call.apply` is one call, which is refused with no effect or takes effect, and
  `later` is a sequence of calls.
* `Confined` bounds the ids, the groups and the permitted capabilities.
  `Confined.later` keeps it over every sequence of calls when neither
  `CAP_SETUID` nor `CAP_SETGID` is within the bound.
-/

namespace Base.Process

/-! ## Ids -/

/-- The real, effective and saved id. -/
@[ext] structure Ids where
  real : ℕ
  effective : ℕ
  saved : ℕ
deriving DecidableEq

namespace Ids

/-- Every id lies in a set. -/
structure Within (S : Set ℕ) (i : Ids) : Prop where
  real : i.real ∈ S
  effective : i.effective ∈ S
  saved : i.saved ∈ S

/-- An id that a call leaves alone, or one of the present three. -/
def may (i : Ids) : Option ℕ → Bool
  | none => true
  | some n => i.real = n || i.effective = n || i.saved = n

/-- One of the ids is root's. -/
def hasRoot (i : Ids) : Bool := i.may (some 0)

/-- `setuid` and `setgid`.  With the capability all three ids change. -/
def setid (privileged : Bool) (n : ℕ) (i : Ids) : Option Ids :=
  if privileged then some ⟨n, n, n⟩
  else if n = i.real ∨ n = i.saved then some { i with effective := n }
  else none

/-- `setresuid` and `setresgid`.  An id of `none` stays. -/
def setresid (privileged : Bool) (r e s : Option ℕ) (i : Ids) : Option Ids :=
  if privileged || (i.may r && i.may e && i.may s) then
    some ⟨r.getD i.real, e.getD i.effective, s.getD i.saved⟩
  else none

/-- `setreuid` and `setregid` on both ids.  The saved id follows the effective
one. -/
def setreid (privileged : Bool) (r e : ℕ) (i : Ids) : Option Ids :=
  if privileged || ((r = i.real || r = i.effective) && i.may (some e)) then
    some ⟨r, e, e⟩
  else none

variable {S : Set ℕ} {i i' : Ids} {n r e : ℕ}

theorem hasRoot_eq_false : i.hasRoot = false ↔ i.Within {0}ᶜ := by
  constructor
  · intro h
    simp only [hasRoot, may, Bool.or_eq_false_iff, decide_eq_false_iff_not] at h
    exact ⟨h.1.1, h.1.2, h.2⟩
  · rintro ⟨hr, he, hs⟩
    simp only [Set.mem_compl_iff, Set.mem_singleton_iff] at hr he hs
    simp [hasRoot, may, hr, he, hs]

theorem within_singleton : i.Within {n} ↔ i = ⟨n, n, n⟩ := by
  constructor
  · rintro ⟨hr, he, hs⟩
    exact Ids.ext hr he hs
  · rintro rfl
    exact ⟨rfl, rfl, rfl⟩

theorem Within.of_may {o : Option ℕ} {old : ℕ} (h : i.Within S) (hold : old ∈ S)
    (hmay : i.may o = true) : o.getD old ∈ S := by
  cases o with
  | none => exact hold
  | some n =>
    simp only [may, Bool.or_eq_true, decide_eq_true_eq] at hmay
    rcases hmay with (rfl | rfl) | rfl
    · exact h.real
    · exact h.effective
    · exact h.saved

/-- An effective id of root is refused just when neither the capability nor one
of the ids allows it. -/
theorem setresid_root_eq_none {privileged : Bool} :
    i.setresid privileged none (some 0) none = none ↔
      privileged = false ∧ i.hasRoot = false := by
  simp only [setresid, hasRoot, may, Bool.true_and, Bool.and_true]
  split
  · rename_i h
    simp only [reduceCtorEq, false_iff]
    rintro ⟨hp, hr⟩
    rw [hp, hr] at h
    cases h
  · rename_i h
    simpa only [true_iff, Bool.not_eq_true, Bool.or_eq_false_iff] using h

/-- Without the capability no call brings in an id from outside. -/
theorem Within.setid (h : i.Within S) (hset : i.setid false n = some i') : i'.Within S := by
  simp only [Ids.setid, Bool.false_eq_true, if_false] at hset
  split at hset
  · rename_i hn
    cases hset
    refine ⟨h.real, ?_, h.saved⟩
    rcases hn with rfl | rfl
    · exact h.real
    · exact h.saved
  · cases hset

theorem Within.setresid {r e s : Option ℕ} (h : i.Within S)
    (hset : i.setresid false r e s = some i') : i'.Within S := by
  simp only [Ids.setresid, Bool.false_or] at hset
  split at hset
  · rename_i hmay
    simp only [Bool.and_eq_true] at hmay
    cases hset
    exact ⟨h.of_may h.real hmay.1.1, h.of_may h.effective hmay.1.2, h.of_may h.saved hmay.2⟩
  · cases hset

theorem setreid_eq_some {privileged : Bool} (h : i.setreid privileged r e = some i') :
    i' = ⟨r, e, e⟩ := by
  unfold setreid at h
  split at h
  · exact (Option.some.inj h).symm
  · cases h

theorem Within.setreid (h : i.Within S) (hset : i.setreid false r e = some i') :
    i'.Within S := by
  simp only [Ids.setreid, Bool.false_or] at hset
  split at hset
  · rename_i hmay
    simp only [Bool.and_eq_true, Bool.or_eq_true, decide_eq_true_eq] at hmay
    cases hset
    have he : e ∈ S := h.of_may (o := some e) h.real hmay.2
    refine ⟨?_, he, he⟩
    rcases hmay.1 with rfl | rfl
    · exact h.real
    · exact h.effective
  · cases hset

end Ids

/-! ## Capabilities -/

/-- The kernel keeps 64 bits of capabilities. -/
abbrev Capability := Fin 64

def CAP_SETGID : Capability := 6
def CAP_SETUID : Capability := 7
def CAP_SETPCAP : Capability := 8
def CAP_NET_RAW : Capability := 13

/-- The credentials of a process.  What is effective is permitted. -/
structure Credentials where
  uid : Ids
  gid : Ids
  groups : List ℕ
  inheritable : Finset Capability
  permitted : Finset Capability
  effective : Finset Capability
  bounding : Finset Capability
  keepCaps : Bool
  effective_subset : effective ⊆ permitted

namespace Credentials

variable {c c' : Credentials} {new : Ids}

/-- The process gives up its last user id of root. -/
def losesRoot (c : Credentials) (new : Ids) : Bool := c.uid.hasRoot && !new.hasRoot

/-- The permitted capabilities after a change of the user ids.  They go with
the last id of root, unless the process asked to keep them. -/
def permittedAfter (c : Credentials) (new : Ids) : Finset Capability :=
  if c.losesRoot new && !c.keepCaps then ∅ else c.permitted

/-- The effective capabilities after a change of the user ids.  They go when
the effective id leaves root, and the permitted ones become effective when it
returns. -/
def effectiveAfter (c : Credentials) (new : Ids) : Finset Capability :=
  if c.uid.effective ≠ 0 ∧ new.effective = 0 then c.permittedAfter new
  else if c.uid.effective = 0 ∧ new.effective ≠ 0 then ∅
  else c.effective ∩ c.permittedAfter new

theorem permittedAfter_subset (c : Credentials) (new : Ids) :
    c.permittedAfter new ⊆ c.permitted := by
  unfold permittedAfter
  split
  · exact Finset.empty_subset _
  · exact Finset.Subset.refl _

theorem effectiveAfter_subset (c : Credentials) (new : Ids) :
    c.effectiveAfter new ⊆ c.permittedAfter new := by
  unfold effectiveAfter
  split
  · exact Finset.Subset.refl _
  · split
    · exact Finset.empty_subset _
    · exact Finset.inter_subset_right

/-- New user ids, with their effect on the capabilities. -/
def setUids (c : Credentials) (new : Ids) : Credentials :=
  { c with
    uid := new
    permitted := c.permittedAfter new
    effective := c.effectiveAfter new
    effective_subset := c.effectiveAfter_subset new }

@[simp] theorem setUids_uid : (c.setUids new).uid = new := rfl
@[simp] theorem setUids_gid : (c.setUids new).gid = c.gid := rfl
@[simp] theorem setUids_groups : (c.setUids new).groups = c.groups := rfl
@[simp] theorem setUids_keepCaps : (c.setUids new).keepCaps = c.keepCaps := rfl
@[simp] theorem setUids_permitted : (c.setUids new).permitted = c.permittedAfter new := rfl
@[simp] theorem setUids_effective : (c.setUids new).effective = c.effectiveAfter new := rfl
@[simp] theorem setUids_bounding : (c.setUids new).bounding = c.bounding := rfl

theorem permittedAfter_of_losesRoot (hroot : c.uid.hasRoot = true) (hnew : new.hasRoot = false)
    (hkeep : c.keepCaps = false) : c.permittedAfter new = ∅ := by
  simp [permittedAfter, losesRoot, hroot, hnew, hkeep]

def has (c : Credentials) (cap : Capability) : Bool := cap ∈ c.effective

theorem has_eq_false {cap : Capability} (h : cap ∉ c.permitted) : c.has cap = false :=
  decide_eq_false fun hmem => h (c.effective_subset hmem)

/-- The rule of `capset`. -/
def mayCapset (c : Credentials) (inheritable permitted effective : Finset Capability) : Bool :=
  (c.has CAP_SETPCAP || inheritable ⊆ c.inheritable ∪ c.permitted) &&
    inheritable ⊆ c.inheritable ∪ c.bounding && permitted ⊆ c.permitted &&
    effective ⊆ permitted

end Credentials

/-! ## Calls -/

/-- A call that changes the credentials. -/
inductive Call
  | setuid (uid : ℕ)
  | setresuid (r e s : Option ℕ)
  | setreuid (r e : ℕ)
  | setgid (gid : ℕ)
  | setresgid (r e s : Option ℕ)
  | setregid (r e : ℕ)
  | setgroups (groups : List ℕ)
  | keepCaps (keep : Bool)
  | capset (inheritable permitted effective : Finset Capability)

/-- The library makes `seteuid` of `setresuid`. -/
def Call.seteuid (uid : ℕ) : Call := .setresuid none (some uid) none

def Call.setegid (gid : ℕ) : Call := .setresgid none (some gid) none

/-- The credentials after a call, or `none` if the kernel refuses it. -/
def Call.apply (c : Credentials) : Call → Option Credentials
  | .setuid uid => (c.uid.setid (c.has CAP_SETUID) uid).map c.setUids
  | .setresuid r e s => (c.uid.setresid (c.has CAP_SETUID) r e s).map c.setUids
  | .setreuid r e => (c.uid.setreid (c.has CAP_SETUID) r e).map c.setUids
  | .setgid gid => (c.gid.setid (c.has CAP_SETGID) gid).map fun new => { c with gid := new }
  | .setresgid r e s =>
      (c.gid.setresid (c.has CAP_SETGID) r e s).map fun new => { c with gid := new }
  | .setregid r e =>
      (c.gid.setreid (c.has CAP_SETGID) r e).map fun new => { c with gid := new }
  | .setgroups groups => if c.has CAP_SETGID then some { c with groups := groups } else none
  | .keepCaps keep => some { c with keepCaps := keep }
  | .capset inheritable permitted effective =>
      if h : c.mayCapset inheritable permitted effective = true then
        some { c with
          inheritable := inheritable
          permitted := permitted
          effective := effective
          effective_subset := by
            simp only [Credentials.mayCapset, Bool.and_eq_true, decide_eq_true_eq] at h
            exact h.2 }
      else none

/-- The calls of a process one after another.  A refused call changes
nothing. -/
def later (c : Credentials) (calls : List Call) : Credentials :=
  calls.foldl (fun c call => (call.apply c).getD c) c

/-! ## What stays out of reach -/

/-- Bounds on the user ids, the group ids and the permitted capabilities, and
fixed supplementary groups. -/
structure Confined (U G : Set ℕ) (groups : List ℕ) (P : Finset Capability)
    (c : Credentials) : Prop where
  uid : c.uid.Within U
  gid : c.gid.Within G
  groups : c.groups = groups
  permitted : c.permitted ⊆ P

variable {U G : Set ℕ} {groups : List ℕ} {P : Finset Capability} {c c' : Credentials}

theorem Confined.has_eq_false {cap : Capability} (h : Confined U G groups P c)
    (hcap : cap ∉ P) : c.has cap = false :=
  Credentials.has_eq_false fun hmem => hcap (h.permitted hmem)

theorem Confined.setUids {new : Ids} (h : Confined U G groups P c) (hnew : new.Within U) :
    Confined U G groups P (c.setUids new) :=
  ⟨hnew, h.gid, h.groups, (c.permittedAfter_subset new).trans h.permitted⟩

theorem Confined.setGids {new : Ids} (h : Confined U G groups P c) (hnew : new.Within G) :
    Confined U G groups P { c with gid := new } :=
  ⟨h.uid, hnew, h.groups, h.permitted⟩

/-- One call keeps the bounds when it needs a capability outside them to leave
them. -/
theorem Confined.apply {call : Call} (huid : CAP_SETUID ∉ P) (hgid : CAP_SETGID ∉ P)
    (h : Confined U G groups P c) (hcall : call.apply c = some c') :
    Confined U G groups P c' := by
  have hu := h.has_eq_false huid
  have hg := h.has_eq_false hgid
  cases call with
  | setuid uid =>
    obtain ⟨new, hnew, rfl⟩ := Option.map_eq_some_iff.1 hcall
    rw [hu] at hnew
    exact h.setUids (h.uid.setid hnew)
  | setresuid r e s =>
    obtain ⟨new, hnew, rfl⟩ := Option.map_eq_some_iff.1 hcall
    rw [hu] at hnew
    exact h.setUids (h.uid.setresid hnew)
  | setreuid r e =>
    obtain ⟨new, hnew, rfl⟩ := Option.map_eq_some_iff.1 hcall
    rw [hu] at hnew
    exact h.setUids (h.uid.setreid hnew)
  | setgid gid =>
    obtain ⟨new, hnew, rfl⟩ := Option.map_eq_some_iff.1 hcall
    rw [hg] at hnew
    exact h.setGids (h.gid.setid hnew)
  | setresgid r e s =>
    obtain ⟨new, hnew, rfl⟩ := Option.map_eq_some_iff.1 hcall
    rw [hg] at hnew
    exact h.setGids (h.gid.setresid hnew)
  | setregid r e =>
    obtain ⟨new, hnew, rfl⟩ := Option.map_eq_some_iff.1 hcall
    rw [hg] at hnew
    exact h.setGids (h.gid.setreid hnew)
  | setgroups new =>
    simp [Call.apply, hg] at hcall
  | keepCaps keep =>
    cases hcall
    exact ⟨h.uid, h.gid, h.groups, h.permitted⟩
  | capset inheritable permitted effective =>
    simp only [Call.apply] at hcall
    split at hcall
    · rename_i hmay
      simp only [Credentials.mayCapset, Bool.and_eq_true, decide_eq_true_eq] at hmay
      cases hcall
      exact ⟨h.uid, h.gid, h.groups, hmay.1.2.trans h.permitted⟩
    · cases hcall

/-- No sequence of calls leaves the bounds. -/
theorem Confined.later (huid : CAP_SETUID ∉ P) (hgid : CAP_SETGID ∉ P)
    (h : Confined U G groups P c) (calls : List Call) :
    Confined U G groups P (later c calls) := by
  induction calls generalizing c with
  | nil => exact h
  | cons call calls ih =>
    show Confined U G groups P (Base.Process.later ((call.apply c).getD c) calls)
    cases hcall : call.apply c with
    | none => exact ih h
    | some c' => exact ih (h.apply huid hgid hcall)

end Base.Process
