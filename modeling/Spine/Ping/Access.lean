import Spine.Ping.Echo
import Spine.Platform.Privileges

/-!
# Access to ICMP sockets

`checkAsRoot` of `platform/privileges.c` decides once, at the start, whether devices are
pinged with ICMP or with UDP instead.  A ping opens its socket much later.  The kernel decides
over that socket by the credentials that `drop_privileges` left.

* The decision.  `hasCaps` and `checkAsRoot` are the functions of the source, with the
  answers of the system as inputs.
* The kernel.  A datagram socket is for the groups of `net.ipv4.ping_group_range`, and a raw
  socket needs `CAP_NET_RAW`.  `AccessAnswers.Follow` and `EchoCall.Obeys` say that the answers
  at the start and those of a ping come from these rules.
* Both together.  `checkAsRoot_agrees` compares the decision with the sockets of a ping, for
  every start that `drop_privileges` lets through.
-/

namespace Spine

open Base.Attempts Base.CString Base.Process

/-! ## The decision -/

/-- What the system answers to `checkAsRoot`.  `netRaw` is what `cap_get_flag` reports, and
the probes are the two calls of `socket`. -/
structure AccessAnswers where
  capGet : Bool
  netRaw : Option Bool
  rawProbe : Bool
  datagramProbe : Bool

/-- `hasCaps`, with its lines for the log. -/
def hasCaps (build : PrivilegeBuild) (answers : AccessAnswers) : Bool × List Text :=
  match build with
  | .plain => (false, [])
  | .lcap =>
    if answers.capGet then
      match answers.netRaw with
      | none =>
        (false, [lit "ERROR: cap_get_flag for CAP_NET_RAW failed. " ++
          lit "Falling back to unprivileged ICMP where available."])
      | some held => (held, [])
    else (false, [lit "ERROR: cap_get_proc failed."])

/-- What `checkAsRoot` sets. -/
structure IcmpAccess where
  icmpAvail : Bool
  icmpUsesCaps : Bool
  log : List Text

def setuidWarning : Text :=
  lit "WARNING: Spine is setuid root but could not get raw ICMP access before dropping root, " ++
    lit "and net.ipv4.ping_group_range does not cover this user.  " ++
    lit "ICMP pings fall back to UDP; SNMP polling continues."

/-- `checkAsRoot`.  `shared` is `ping_icmp_shared_available`. -/
def checkAsRoot (build : PrivilegeBuild) (answers : AccessAnswers) (shared : Bool) (d : Dropped) :
    IcmpAccess :=
  let caps := hasCaps build answers
  if caps.1 then ⟨true, true, caps.2⟩
  else if shared then ⟨true, false, caps.2⟩
  else if d.credentials.uid.effective ≠ 0 then
    if answers.rawProbe || answers.datagramProbe then ⟨true, false, caps.2⟩
    else if d.setuidIcmpLost then ⟨false, false, caps.2 ++ [setuidWarning]⟩
    else ⟨false, false, caps.2⟩
  else ⟨true, false, caps.2⟩

/-- The shared sockets after `drop_privileges`.  Only a setuid start without libcap opens
them, and the one for IPv6 may fail by itself. -/
def sharedSockets (build : PrivilegeBuild) (env : DropEnv) (shared6 : Bool) (c : Credentials)
    (family : Family) : Bool :=
  if build = .plain ∧ c.uid.effective = 0 ∧ c.uid.real ≠ 0 then
    match family with
    | .inet => env.icmpShared
    | .inet6 => shared6
  else false

section SharedSockets

variable {build : PrivilegeBuild} {env : DropEnv} {shared6 : Bool} {c : Credentials}

/-- Any other start has no shared socket. -/
theorem sharedSockets_eq_false (h : build = .plain → c.uid.effective = 0 → c.uid.real = 0)
    (family : Family) : sharedSockets build env shared6 c family = false :=
  if_neg fun ⟨hbuild, heffective, hreal⟩ => hreal (h hbuild heffective)

theorem sharedSockets_of_setuidRoot (env : DropEnv) (shared6 : Bool) (h : SetuidRoot c) :
    sharedSockets .plain env shared6 c .inet = env.icmpShared ∧
      sharedSockets .plain env shared6 c .inet6 = shared6 :=
  have hsetuid := And.intro rfl ⟨h.effective, h.real⟩
  ⟨if_pos hsetuid, if_pos hsetuid⟩

end SharedSockets

/-! ## The rules of the kernel -/

/-- `net.ipv4.ping_group_range`. -/
structure PingGroups where
  low : Nat
  high : Nat
  deriving DecidableEq

/-- One of the groups of the process is in the range. -/
def PingGroups.allow (range : PingGroups) (c : Credentials) : Bool :=
  (c.gid.effective :: c.groups).any fun group => range.low ≤ group && group ≤ range.high

/-- The answers at the start come from the rules. -/
structure AccessAnswers.Follow (answers : AccessAnswers) (range : PingGroups) (c : Credentials) :
    Prop where
  netRaw : ∀ held, answers.netRaw = some held → held = c.has CAP_NET_RAW
  rawProbe : answers.rawProbe = c.has CAP_NET_RAW
  datagramProbe : answers.datagramProbe = range.allow c

/-- The sockets of a ping come from the rules. -/
structure EchoCall.Obeys (call : EchoCall) (range : PingGroups) (c : Credentials)
    (shared : Family → Bool) : Prop where
  datagram : call.datagramSocket.isSome = range.allow c
  sharedSocket : call.sharedSocket = shared call.family
  raw : ∀ fd ∈ call.rawSockets, fd.isSome = c.has CAP_NET_RAW
  tries : 5 ≤ call.rawSockets.length

/-- Every ping of a family gets a socket. -/
def SocketsOpen (range : PingGroups) (c : Credentials) (shared : Family → Bool) (family : Family) :
    Prop :=
  ∀ call : EchoCall, call.family = family → call.Obeys range c shared →
    ∃ socket, call.openSocket = some (some socket)

section Sockets

variable {range : PingGroups} {c : Credentials} {shared : Family → Bool} {family : Family}

theorem EchoCall.Obeys.openSocket_of_raw {call : EchoCall} (h : call.Obeys range c shared)
    (hraw : c.has CAP_NET_RAW = true) : ∃ socket, call.openSocket = some (some socket) := by
  unfold EchoCall.openSocket
  cases hdatagram : call.datagramSocket with
  | some fd => exact ⟨_, rfl⟩
  | none =>
    dsimp only
    split
    · exact ⟨_, rfl⟩
    · -- The first try of a raw socket succeeds.
      have htries := h.tries
      cases hsockets : call.rawSockets with
      | nil =>
        rw [hsockets] at htries
        exact absurd htries (by decide)
      | cons fd rest =>
        have hfd : fd.isSome = true := (h.raw fd (hsockets ▸ List.mem_cons_self)).trans hraw
        obtain ⟨n, rfl⟩ := Option.isSome_iff_exists.1 hfd
        exact ⟨.own n false, rfl⟩

/-- Where no rule gives a socket, five tries fail and the device counts as down. -/
theorem EchoCall.Obeys.pingEcho_down {call : EchoCall} (h : call.Obeys range c shared)
    (hdatagram : range.allow c = false) (hshared : shared call.family = false)
    (hraw : c.has CAP_NET_RAW = false) (print : ℚ → Text) :
    ∃ result, pingEcho print call = some result ∧ result.up = false := by
  have hnone : call.datagramSocket = none := by
    rw [← Option.not_isSome_iff_eq_none, h.datagram, hdatagram]
    exact Bool.false_ne_true
  have hclosed : call.openSocket = some none := by
    have hfds : ∀ fd ∈ call.rawSockets, fd = none := fun fd hfd => by
      rw [← Option.not_isSome_iff_eq_none, h.raw fd hfd, hraw]
      exact Bool.false_ne_true
    have hgaveUp : run (fun fd : Option Nat => some ((fd.map Verdict.done).getD .again)) 5
        call.rawSockets = some (none, 5) := by
      refine run_eq_gaveUp_iff.2 ⟨rfl, h.tries, fun fd hfd => ?_⟩
      rw [hfds fd (List.mem_of_mem_take hfd)]
      rfl
    rw [EchoCall.openSocket, hnone]
    dsimp only
    rw [h.sharedSocket, hshared, if_neg Bool.false_ne_true, hgaveUp]
    rfl
  exact ⟨_, by rw [pingEcho, hclosed], rfl⟩

/-- A call that gets what the rules give it. -/
def ruledCall (range : PingGroups) (c : Credentials) (shared : Family → Bool) (family : Family) :
    EchoCall where
  family := family
  hostname := lit "a"
  timeout := 1
  retries := 0
  id := (0, 0)
  seq := (0, 0)
  datagramSocket := if range.allow c then some 3 else none
  sharedSocket := shared family
  rawSockets := List.replicate 5 (if c.has CAP_NET_RAW then some 3 else none)
  address := none
  attempts := []

theorem ruledCall_obeys : (ruledCall range c shared family).Obeys range c shared where
  datagram := by
    show (if range.allow c then some 3 else none : Option Nat).isSome = range.allow c
    cases range.allow c <;> rfl
  sharedSocket := rfl
  raw := by
    intro fd hfd
    rw [List.eq_of_mem_replicate hfd]
    cases c.has CAP_NET_RAW <;> rfl
  tries := by simp [ruledCall]

theorem socketsOpen_iff :
    SocketsOpen range c shared family ↔
      range.allow c = true ∨ shared family = true ∨ c.has CAP_NET_RAW = true := by
  constructor
  · intro h
    by_contra hnone
    simp only [not_or, Bool.not_eq_true] at hnone
    obtain ⟨socket, hsocket⟩ := h (ruledCall range c shared family) rfl (ruledCall_obeys ..)
    simp [EchoCall.openSocket, ruledCall, hnone, run] at hsocket
  · rintro hsome call rfl hobeys
    by_cases hdatagram : range.allow c = true
    · have hfd : call.datagramSocket.isSome = true := hobeys.datagram.trans hdatagram
      obtain ⟨fd, hfd⟩ := Option.isSome_iff_exists.1 hfd
      exact ⟨.own fd true, by rw [EchoCall.openSocket, hfd]⟩
    · rcases hsome.resolve_left hdatagram with hshared | hraw
      · have hnone : call.datagramSocket = none := by
          rw [← Option.not_isSome_iff_eq_none, hobeys.datagram]
          exact hdatagram
        refine ⟨.shared, ?_⟩
        rw [EchoCall.openSocket, hnone]
        exact if_pos (hobeys.sharedSocket.trans hshared)
      · exact hobeys.openSocket_of_raw hraw

end Sockets

/-! ## The decision and the sockets -/

/-- What the kernel leaves of an `execve`: the saved user id is the effective one, and
capabilities are not kept. -/
structure Execed (c : Credentials) : Prop where
  saved : c.uid.saved = c.uid.effective
  keepCaps : c.keepCaps = false

/-- What a start that goes on leaves, by the ids that it began with. -/
theorem dropPrivileges_cases {build : PrivilegeBuild} {env : DropEnv} {c : Credentials}
    {d : Dropped} (hexec : Execed c) (h : dropPrivileges build env c = .ok d) :
    c.uid.effective ≠ 0 ∧ d.credentials = c ∨
      build = .plain ∧ c.uid.real = 0 ∧ c.uid.effective = 0 ∧ d.credentials = c ∨
      build = .lcap ∧ c.uid.real = 0 ∧ c.uid.effective = 0 ∧
        d.credentials.has CAP_NET_RAW = true ∨
      SetuidRoot c := by
  by_cases hsetuid : c.uid.effective ≠ 0 ∨ c.uid.real = 0
  · unfold dropPrivileges at h
    rw [if_pos hsetuid] at h
    by_cases heffective : c.uid.effective = 0
    · have hreal := hsetuid.resolve_left (not_not.2 heffective)
      right
      cases build with
      | plain =>
        rw [if_neg (by simp)] at h
        cases h
        exact Or.inl ⟨rfl, hreal, heffective, rfl⟩
      | lcap =>
        rw [if_pos ⟨rfl, heffective⟩] at h
        obtain ⟨⟨c', kept⟩, hroot, hkept⟩ := Base.Stages.bind_eq_ok.1 h
        cases kept with
        | false => cases hkept
        | true =>
          cases hkept
          refine Or.inr (Or.inl ⟨rfl, hreal, heffective, ?_⟩)
          simp [Credentials.has, (dropRoot_ok hroot).effective rfl]
    · rw [if_neg fun hroot => heffective hroot.2] at h
      cases h
      exact Or.inl ⟨heffective, rfl⟩
  · simp only [not_or, not_not] at hsetuid
    obtain ⟨heffective, hreal⟩ := hsetuid
    exact Or.inr (Or.inr (Or.inr
      ⟨hreal, heffective, hexec.saved.trans heffective, hexec.keepCaps⟩))

/-- `hasCaps` claims only what the process has. -/
theorem AccessAnswers.Follow.has_of_hasCaps {build : PrivilegeBuild} {range : PingGroups}
    {answers : AccessAnswers} {c : Credentials} (h : answers.Follow range c)
    (hheld : (hasCaps build answers).1 = true) : c.has CAP_NET_RAW = true := by
  unfold hasCaps at hheld
  split at hheld
  · cases hheld
  · split at hheld
    · split at hheld
      · cases hheld
      · rename_i held hnetRaw
        rw [← h.netRaw held hnetRaw]
        exact hheld
    · cases hheld

/-- The decision in terms of the credentials. -/
theorem checkAsRoot_icmpAvail_iff {build : PrivilegeBuild} {d : Dropped} {range : PingGroups}
    {answers : AccessAnswers} (h : answers.Follow range d.credentials) (shared : Bool) :
    (checkAsRoot build answers shared d).icmpAvail = true ↔
      range.allow d.credentials = true ∨ shared = true ∨
        d.credentials.has CAP_NET_RAW = true ∨ d.credentials.uid.effective = 0 := by
  unfold checkAsRoot
  dsimp only
  rw [h.rawProbe, h.datagramProbe]
  split
  · rename_i hheld
    simp [h.has_of_hasCaps hheld]
  · split
    · rename_i hshared
      simp [hshared]
    · rename_i hshared
      split
      · rename_i heffective
        split
        · rename_i hprobe
          rw [Bool.or_eq_true] at hprobe
          rcases hprobe with hraw | hdatagram
          · simp [hraw]
          · simp [hdatagram]
        · rename_i hprobe
          rw [Bool.or_eq_true, not_or] at hprobe
          split
          all_goals simp [hprobe, hshared, heffective]
      · rename_i heffective
        simp [not_not.1 heffective]

/-- A root that was never setuid and has no `CAP_NET_RAW`, such as that of a container. -/
structure BareRoot (build : PrivilegeBuild) (range : PingGroups) (c : Credentials) : Prop where
  build : build = .plain
  real : c.uid.real = 0
  effective : c.uid.effective = 0
  netRaw : c.has CAP_NET_RAW = false
  groups : range.allow c = false

/-- A setuid start without libcap, outside the group range, that got only one of its two
sockets. -/
structure HalfShared (build : PrivilegeBuild) (env : DropEnv) (shared6 : Bool) (range : PingGroups)
    (c : Credentials) (d : Dropped) : Prop where
  build : build = .plain
  real : c.uid.real ≠ 0
  effective : c.uid.effective = 0
  shared : env.icmpShared ≠ shared6
  groups : range.allow d.credentials = false

theorem halfShared_iff {env : DropEnv} {shared6 : Bool} {range : PingGroups} {c : Credentials}
    {d : Dropped} (h : SetuidRoot c) :
    HalfShared .plain env shared6 range c d ↔
      env.icmpShared ≠ shared6 ∧ range.allow d.credentials = false :=
  ⟨fun hhalf => ⟨hhalf.shared, hhalf.groups⟩,
    fun hsome => ⟨rfl, h.real, h.effective, hsome.1, hsome.2⟩⟩

/-- When `icmp_avail` says whether a ping gets a socket. -/
theorem icmpAvail_agrees_iff {build : PrivilegeBuild} {env : DropEnv} {c : Credentials}
    {d : Dropped} {range : PingGroups} {answers : AccessAnswers} (hexec : Execed c)
    (hdrop : dropPrivileges build env c = .ok d) (hanswers : answers.Follow range d.credentials)
    (shared6 : Bool) (family : Family) :
    ((checkAsRoot build answers (sharedSockets build env shared6 c .inet) d).icmpAvail = true ↔
        SocketsOpen range d.credentials (sharedSockets build env shared6 c) family) ↔
      ¬ (BareRoot build range c ∨
        family = .inet6 ∧ HalfShared build env shared6 range c d) := by
  rw [checkAsRoot_icmpAvail_iff hanswers, socketsOpen_iff]
  rcases dropPrivileges_cases hexec hdrop with ⟨heffective, hd⟩ | ⟨rfl, hreal, heffective, hd⟩ |
    ⟨rfl, hreal, heffective, hraw⟩ | hsetuid
  · have hshared : ∀ f, sharedSockets build env shared6 c f = false :=
      sharedSockets_eq_false fun _ h => absurd h heffective
    refine iff_of_true ?_ ?_
    · simp [hshared, hd, heffective]
    · rintro (hbare | ⟨-, hhalf⟩)
      · exact heffective hbare.effective
      · exact heffective hhalf.effective
  · have hshared : ∀ f, sharedSockets .plain env shared6 c f = false :=
      sharedSockets_eq_false fun _ _ => hreal
    rw [hd]
    constructor
    · rintro hagree (hbare | ⟨-, hhalf⟩)
      · have hopen := hagree.1 (Or.inr (Or.inr (Or.inr heffective)))
        simp [hshared, hbare.netRaw, hbare.groups] at hopen
      · exact hhalf.real hreal
    · intro hnone
      refine iff_of_true (Or.inr (Or.inr (Or.inr heffective))) ?_
      by_contra hclosed
      simp only [not_or, Bool.not_eq_true] at hclosed
      exact hnone (Or.inl ⟨rfl, hreal, heffective, hclosed.2.2, hclosed.1⟩)
  · refine iff_of_true (iff_of_true ?_ ?_) ?_
    · exact Or.inr (Or.inr (Or.inl hraw))
    · exact Or.inr (Or.inr hraw)
    · rintro (hbare | ⟨-, hhalf⟩)
      · cases hbare.build
      · cases hhalf.build
  · have hconfined := confined_of_dropPrivileges hsetuid hdrop
    have hnonzero : d.credentials.uid.effective ≠ 0 := by
      rw [show d.credentials.uid.effective = c.uid.real from hconfined.uid.effective]
      exact hsetuid.real
    have hbare : ¬ BareRoot build range c := fun h => hsetuid.real h.real
    cases build with
    | lcap =>
      have hshared : ∀ f, sharedSockets .lcap env shared6 c f = false :=
        sharedSockets_eq_false fun h => (by cases h)
      refine iff_of_true (by simp [hshared, hnonzero]) ?_
      rintro (h | ⟨-, hhalf⟩)
      · exact hbare h
      · cases hhalf.build
    | plain =>
      have hraw : d.credentials.has CAP_NET_RAW = false :=
        Credentials.has_eq_false fun hmem => Finset.notMem_empty _ (hconfined.permitted hmem)
      obtain ⟨hshared, hshared6⟩ := sharedSockets_of_setuidRoot env shared6 hsetuid
      cases family with
      | inet => simp [hshared, hnonzero, hbare]
      | inet6 =>
        rw [hshared, hshared6, hraw, halfShared_iff hsetuid]
        simp only [hbare, hnonzero, Bool.false_eq_true, false_or, or_false, true_and]
        cases range.allow d.credentials <;> cases env.icmpShared <;> cases shared6 <;> simp

/-- After every start that goes on, `icmp_avail` says whether a ping gets a socket, except for a
root without `CAP_NET_RAW` and, for IPv6, when only one of the shared sockets could be opened.
A ping without a socket counts its device as down. -/
theorem checkAsRoot_agrees {build : PrivilegeBuild} {env : DropEnv} {c : Credentials} {d : Dropped}
    {range : PingGroups} {answers : AccessAnswers} (hexec : Execed c)
    (hdrop : dropPrivileges build env c = .ok d) (hanswers : answers.Follow range d.credentials)
    (shared6 : Bool) (family : Family) :
    (((checkAsRoot build answers (sharedSockets build env shared6 c .inet) d).icmpAvail = true ↔
        SocketsOpen range d.credentials (sharedSockets build env shared6 c) family) ↔
      ¬ (BareRoot build range c ∨
        family = .inet6 ∧ HalfShared build env shared6 range c d)) ∧
      (SocketsOpen range d.credentials (sharedSockets build env shared6 c) family ∨
        ∀ call : EchoCall, call.family = family →
          call.Obeys range d.credentials (sharedSockets build env shared6 c) →
            ∀ print, ∃ result, pingEcho print call = some result ∧ result.up = false) := by
  refine ⟨icmpAvail_agrees_iff hexec hdrop hanswers shared6 family, ?_⟩
  rw [socketsOpen_iff, or_iff_not_imp_left]
  intro hclosed call hfamily hobeys print
  simp only [not_or, Bool.not_eq_true] at hclosed
  obtain ⟨hdatagram, hshared, hraw⟩ := hclosed
  rw [← hfamily] at hshared
  exact hobeys.pingEcho_down hdatagram hshared hraw print

/-- The root of a container that has no `CAP_NET_RAW`, only `CAP_SETUID`. -/
def containerRoot : Credentials where
  uid := ⟨0, 0, 0⟩
  gid := ⟨0, 0, 0⟩
  groups := []
  inheritable := ∅
  permitted := {CAP_SETUID}
  effective := {CAP_SETUID}
  bounding := {CAP_SETUID}
  keepCaps := false
  effective_subset := Finset.Subset.refl _

/-- With the range of groups that the kernel starts with, which is empty, `icmp_avail` is set and
no ping gets a socket. -/
theorem checkAsRoot_agrees_container :
    ∃ d, dropPrivileges .plain (DropEnv.allowed false) containerRoot = .ok d ∧
      (checkAsRoot .plain ⟨true, none, false, false⟩
        (sharedSockets .plain (DropEnv.allowed false) false containerRoot .inet) d).icmpAvail =
          true ∧
      ¬ SocketsOpen ⟨1, 0⟩ d.credentials
        (sharedSockets .plain (DropEnv.allowed false) false containerRoot) .inet := by
  have hdrop : dropPrivileges .plain (DropEnv.allowed false) containerRoot =
      .ok ⟨containerRoot, false⟩ := rfl
  have hfollow : AccessAnswers.Follow ⟨true, none, false, false⟩ ⟨1, 0⟩ containerRoot :=
    ⟨fun held h => (by cases h), by decide, by decide⟩
  have havail : (checkAsRoot .plain ⟨true, none, false, false⟩
      (sharedSockets .plain (DropEnv.allowed false) false containerRoot .inet)
        ⟨containerRoot, false⟩).icmpAvail = true := rfl
  refine ⟨⟨containerRoot, false⟩, hdrop, havail, fun hopen => ?_⟩
  have hagree := (checkAsRoot_agrees ⟨rfl, rfl⟩ hdrop hfollow false .inet).1.1
    (iff_of_true havail hopen)
  exact hagree (Or.inl ⟨rfl, rfl, rfl, by decide, by decide⟩)

end Spine
