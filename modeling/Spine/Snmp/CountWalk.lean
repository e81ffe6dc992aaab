import Spine.Base.Successor
import Spine.Snmp.Requests

/-!
# The walk of `snmp_count` against an agent

`snmp_count` of `snmp/requests.c` sends one `GETNEXT` after the other, each for
the object that the last reply brought.  Here the agent is a function of all
requests so far, so it can answer as it likes.

* The loop.  `countLoop` has a bound on the number of requests, and every bound
  above `INT_MAX` is enough (`countLoop_isSome`): each reply that lets the walk
  go on adds to the count, which stops at `INT_MAX`.  `Reaches` lists the states
  in which a request is sent.
* Bad replies.  `SnmpReply.spoils` says which replies make the count negative.
* Honest agents.  A `Mib` is a sorted table of objects.  The walk of an agent
  that answers from it counts the objects below the root.
-/

namespace Spine

open Base.CString Base.Successor

/-! ## The loop -/

/-- An agent: its reply to the last one of the requests so far. -/
abbrev SnmpAgent := List Oid → SnmpReply

/-- The loop of `snmp_count`, with a bound on the requests that are still to be
sent: the walk at its end and all requests. -/
def countLoop (root : Oid) (agent : SnmpAgent) : Nat → SnmpWalk → List Oid →
    Option (SnmpWalk × List Oid)
  | 0, _, _ => none
  | bound + 1, walk, sent =>
    let requests := sent ++ [walk.current]
    match snmpCountResponse root walk (agent requests) with
    | (walk, true) => countLoop root agent bound walk requests
    | (walk, false) => some (walk, requests)

/-- The walk before its first request. -/
def SnmpWalk.start (root : Oid) : SnmpWalk := ⟨root, 0, false⟩

/-- `snmp_count` with an agent: the count, the device and the requests.
`none` is a walk that is still going on after `bound` requests. -/
def snmpCountAgent (bound : Nat) (device : SnmpDevice) (root : Option Oid) (agent : SnmpAgent) :
    Option (Int × SnmpDevice × List Oid) :=
  if !device.session then some (-1, { device with ignoreHost := true }, [])
  else
    match root with
    | none => some (-1, device, [])
    | some root =>
      (countLoop root agent bound (.start root) []).map fun (walk, requests) =>
        if walk.failed then (-1, { device with ignoreHost := true }, requests)
        else (walk.count, device, requests)

/-- The replies of an agent to the requests after those in `sent`. -/
def agentReplies (agent : SnmpAgent) : List Oid → List Oid → List SnmpReply
  | _, [] => []
  | sent, request :: requests =>
    agent (sent ++ [request]) :: agentReplies agent (sent ++ [request]) requests

/-- The loop does with an agent what it does with the list of its replies. -/
theorem countLoop_eq_snmpCountLoop {root : Oid} {agent : SnmpAgent} {bound : Nat}
    {walk walk' : SnmpWalk} {sent requests : List Oid}
    (h : countLoop root agent bound walk sent = some (walk', requests)) :
    ∃ more, requests = sent ++ more ∧
      snmpCountLoop root walk (agentReplies agent sent more) = walk' := by
  induction bound generalizing walk sent with
  | zero => cases h
  | succ bound ih =>
    rw [countLoop] at h
    split at h
    · rename_i next hresponse
      obtain ⟨more, hrequests, hloop⟩ := ih h
      refine ⟨walk.current :: more, by simpa using hrequests, ?_⟩
      rw [agentReplies, snmpCountLoop, hresponse]
      exact hloop
    · rename_i next hresponse
      cases h
      refine ⟨[walk.current], rfl, ?_⟩
      rw [agentReplies, snmpCountLoop, hresponse]

/-- The walk is about to send its next request, after the requests in the
list. -/
inductive Reaches (root : Oid) (agent : SnmpAgent) : SnmpWalk → List Oid → Prop where
  | start : Reaches root agent (.start root) []
  | next {walk walk' : SnmpWalk} {sent : List Oid} : Reaches root agent walk sent →
      snmpCountResponse root walk (agent (sent ++ [walk.current])) = (walk', true) →
      Reaches root agent walk' (sent ++ [walk.current])

/-- What a variable does that lets the walk go on. -/
theorem snmpCountAdvance_eq_true {root : Oid} {walk walk' : SnmpWalk} {varBind : VarBind}
    (h : snmpCountAdvance root walk varBind = (walk', true)) :
    ∃ name printed, varBind = ⟨some name, .data printed⟩ ∧ name.length ≤ MAX_OID_LEN ∧
      root <+: name ∧ walk.current < name ∧ walk.count ≠ INT_MAX ∧
      walk' = { walk with current := name, count := walk.count + 1 } := by
  obtain ⟨name, value⟩ := varBind
  unfold snmpCountAdvance at h
  cases name with
  | none => cases h
  | some name =>
    dsimp only at h
    split_ifs at h with hlong hoff hfull hgreater
    · cases h
    · cases h
    · cases h
    · cases value with
      | data printed =>
        have hunder := List.prefix_iff_eq_take.2 (not_not.1 (not_or.1 hoff).2).symm
        exact ⟨name, printed, rfl, not_lt.1 hlong, hunder, hgreater, hfull,
          (Prod.mk.inj h).1.symm⟩
      | _ => cases h
    · cases value <;> cases h

/-- A response that lets the walk go on adds to the count. -/
theorem snmpCountVariables_count {root : Oid} {varBinds : List VarBind} {walk walk' : SnmpWalk}
    (hbound : walk.count ≤ INT_MAX) (h : snmpCountVariables root walk varBinds = (walk', true)) :
    walk'.count = walk.count + varBinds.length ∧ walk'.count ≤ INT_MAX := by
  induction varBinds generalizing walk with
  | nil =>
    cases h
    exact ⟨rfl, hbound⟩
  | cons varBind varBinds ih =>
    rw [snmpCountVariables] at h
    split at h
    · rename_i next hadvance
      obtain ⟨name, printed, -, -, -, -, hfull, rfl⟩ := snmpCountAdvance_eq_true hadvance
      have hnext : walk.count + 1 ≤ INT_MAX := by omega
      obtain ⟨hcount, hle⟩ := ih hnext h
      rw [List.length_cons, hcount]
      exact ⟨by dsimp only; omega, hcount ▸ hle⟩
    · cases h

theorem snmpCountResponse_count {root : Oid} {walk walk' : SnmpWalk} {reply : SnmpReply}
    (hbound : walk.count ≤ INT_MAX) (h : snmpCountResponse root walk reply = (walk', true)) :
    walk.count < walk'.count ∧ walk'.count ≤ INT_MAX := by
  unfold snmpCountResponse at h
  split at h
  · rename_i pdu _ _
    split_ifs at h with hname herror
    · cases h
    · cases h
    · obtain ⟨hcount, hle⟩ := snmpCountVariables_count hbound h
      have hsome : pdu.varBinds.length ≠ 0 := fun hzero =>
        herror (Or.inr (List.eq_nil_of_length_eq_zero hzero))
      exact ⟨by omega, hle⟩
  · cases h

/-- A bound that covers what is left to `INT_MAX` is enough, and no more
requests than that are sent. -/
theorem countLoop_isSome (root : Oid) (agent : SnmpAgent) {bound : Nat} (walk : SnmpWalk)
    (sent : List Oid) (hcount : walk.count ≤ INT_MAX) (hbound : INT_MAX - walk.count < bound) :
    ∃ walk' requests, countLoop root agent bound walk sent = some (walk', requests) ∧
      requests.length ≤ sent.length + (INT_MAX - walk.count) + 1 := by
  induction bound generalizing walk sent with
  | zero => omega
  | succ bound ih =>
    rw [countLoop]
    split
    · rename_i next hresponse
      obtain ⟨hlt, hle⟩ := snmpCountResponse_count hcount hresponse
      obtain ⟨walk', requests, hloop, hlength⟩ :=
        ih next (sent ++ [walk.current]) hle (by omega)
      refine ⟨walk', requests, hloop, ?_⟩
      rw [List.length_append, List.length_singleton] at hlength
      omega
    · refine ⟨_, _, rfl, ?_⟩
      rw [List.length_append, List.length_singleton]
      omega

/-- The requests of a walk that goes on are at most its count. -/
theorem Reaches.sent_le {root : Oid} {agent : SnmpAgent} {walk : SnmpWalk} {sent : List Oid}
    (h : Reaches root agent walk sent) : sent.length ≤ walk.count ∧ walk.count ≤ INT_MAX := by
  induction h with
  | start => exact ⟨le_rfl, Nat.zero_le _⟩
  | next _ hresponse ih =>
    obtain ⟨hlt, hle⟩ := snmpCountResponse_count ih.2 hresponse
    rw [List.length_append, List.length_singleton]
    exact ⟨by omega, hle⟩

/-- The loop passes through the states that it reaches. -/
theorem Reaches.countLoop_eq {root : Oid} {agent : SnmpAgent} {walk : SnmpWalk} {sent : List Oid}
    (h : Reaches root agent walk sent) (bound : Nat) :
    countLoop root agent (bound + sent.length) (.start root) [] =
      countLoop root agent bound walk sent := by
  induction h generalizing bound with
  | start => rfl
  | next _ hresponse ih =>
    rw [List.length_append, List.length_singleton, ← Nat.add_assoc, Nat.add_right_comm,
      ih (bound + 1), countLoop]
    rw [hresponse]

/-! ## Bad replies -/

/-- A variable without a name or with one that is too long, or data below the
root that does not come after the object before it. -/
def VarBind.spoils (root current : Oid) (varBind : VarBind) : Prop :=
  varBind.name = none ∨
    ∃ name, varBind.name = some name ∧
      (MAX_OID_LEN < name.length ∨
        root <+: name ∧ (∃ printed, varBind.value = .data printed) ∧ ¬ current < name)

/-- A reply that is a time-out, an error other than `noSuchName` or empty, or
that has a bad variable where the walk gets to it. -/
def SnmpReply.spoils (root : Oid) (walk : SnmpWalk) (reply : SnmpReply) : Prop :=
  reply.fails ∨
    ∃ front varBind rest walk', reply.status = .success ∧
      reply.response = some ⟨SNMP_ERR_NOERROR, front ++ varBind :: rest⟩ ∧
      snmpCountVariables root walk front = (walk', true) ∧ varBind.spoils root walk'.current

theorem snmpCountAdvance_of_spoils {root : Oid} {walk : SnmpWalk} {varBind : VarBind}
    (h : varBind.spoils root walk.current) :
    (snmpCountAdvance root walk varBind).1.failed = true ∧
      (snmpCountAdvance root walk varBind).2 = false := by
  unfold snmpCountAdvance
  rcases h with hnone | ⟨name, hname, hlong | ⟨hunder, ⟨printed, hdata⟩, hgreater⟩⟩
  · rw [hnone]
    exact ⟨rfl, rfl⟩
  · rw [hname]
    dsimp only
    rw [if_pos hlong]
    exact ⟨rfl, rfl⟩
  · rw [hname, hdata]
    dsimp only
    split_ifs with hlong hoff hfull
    · exact ⟨rfl, rfl⟩
    · rcases hoff with hshort | htake
      · exact absurd hunder.length_le (not_le.2 hshort)
      · exact absurd (List.prefix_iff_eq_take.1 hunder).symm htake
    · exact ⟨rfl, rfl⟩
    · exact ⟨rfl, rfl⟩

/-- The variables before the bad one, and then the bad one. -/
theorem snmpCountVariables_of_spoils {root : Oid} {front rest : List VarBind} {varBind : VarBind}
    {walk walk' : SnmpWalk} (hfront : snmpCountVariables root walk front = (walk', true))
    (h : varBind.spoils root walk'.current) :
    (snmpCountVariables root walk (front ++ varBind :: rest)).1.failed = true ∧
      (snmpCountVariables root walk (front ++ varBind :: rest)).2 = false := by
  induction front generalizing walk with
  | nil =>
    cases hfront
    obtain ⟨hfailed, hstops⟩ := snmpCountAdvance_of_spoils h
    rw [List.nil_append, snmpCountVariables]
    split
    · rename_i hadvance
      rw [hadvance] at hstops
      cases hstops
    · rename_i hadvance
      rw [hadvance] at hfailed
      exact ⟨hfailed, rfl⟩
  | cons first front ih =>
    rw [snmpCountVariables] at hfront
    rw [List.cons_append, snmpCountVariables]
    split at hfront
    · exact ih hfront
    · cases hfront

theorem snmpCountResponse_of_spoils {root : Oid} {walk : SnmpWalk} {reply : SnmpReply}
    (h : reply.spoils root walk) :
    (snmpCountResponse root walk reply).1.failed = true ∧
      (snmpCountResponse root walk reply).2 = false := by
  rcases h with hfails | ⟨front, varBind, rest, walk', hstatus, hresponse, hfront, hspoils⟩
  · rw [snmpCountResponse_of_fails hfails]
    exact ⟨rfl, rfl⟩
  · unfold snmpCountResponse
    rw [hstatus, hresponse]
    dsimp only
    rw [if_neg (by decide), if_neg (by simp)]
    exact snmpCountVariables_of_spoils hfront hspoils

/-- A bad reply where the walk gets to it ends the walk with a failure. -/
theorem countLoop_of_spoils {root : Oid} {agent : SnmpAgent} {walk : SnmpWalk} {sent : List Oid}
    (hreaches : Reaches root agent walk sent)
    (h : (agent (sent ++ [walk.current])).spoils root walk) {bound : Nat}
    (hbound : INT_MAX < bound) :
    ∃ walk' requests, countLoop root agent bound (.start root) [] = some (walk', requests) ∧
      walk'.failed = true := by
  obtain ⟨hsent, hcount⟩ := hreaches.sent_le
  obtain ⟨more, rfl⟩ : ∃ more, bound = more + 1 + sent.length :=
    ⟨bound - sent.length - 1, by omega⟩
  obtain ⟨hfailed, hstops⟩ := snmpCountResponse_of_spoils h
  rw [hreaches.countLoop_eq, countLoop]
  split
  · rename_i hresponse
    rw [hresponse] at hstops
    cases hstops
  · rename_i hresponse
    rw [hresponse] at hfailed
    exact ⟨_, _, rfl, hfailed⟩

/-! ## Honest agents -/

/-- The objects of an agent in their order. -/
structure Mib where
  oids : List Oid
  sorted : oids.Pairwise (· < ·)
  length_le : ∀ oid ∈ oids, oid.length ≤ MAX_OID_LEN

/-- The objects that have the root as a proper front part. -/
def Mib.below (mib : Mib) (root : Oid) : List Oid :=
  mib.oids.filter fun oid => decide (root <+: oid ∧ oid ≠ root)

/-- The end of a walk: `noSuchName` in the first version of the protocol, and
`endOfMibView` for the object that was asked in the later ones. -/
def SnmpReply.endsWalk (reply : SnmpReply) (request : Oid) : Prop :=
  reply.status = .success ∧
    ((∃ varBinds, reply.response = some ⟨SNMP_ERR_NOSUCHNAME, varBinds⟩) ∨
      ∃ text, reply.response = some ⟨SNMP_ERR_NOERROR, [⟨some request, .endOfMibView text⟩]⟩)

/-- The agent answers every request with the next object and its data. -/
structure AnswersFrom (mib : Mib) (agent : SnmpAgent) : Prop where
  next_object : ∀ (sent : List Oid) (request name : Oid), next mib.oids request = some name →
    (agent (sent ++ [request])).status = .success ∧
      ∃ printed, (agent (sent ++ [request])).response =
        some ⟨SNMP_ERR_NOERROR, [⟨some name, .data printed⟩]⟩
  no_object : ∀ (sent : List Oid) (request : Oid), next mib.oids request = none →
    (agent (sent ++ [request])).endsWalk request

/-- The agent of a table, in the first version of the protocol or a later one. -/
def Mib.agent (mib : Mib) (printed : Oid → Option Text) (ended : ExceptionText)
    (firstVersion : Bool) : SnmpAgent :=
  fun requests =>
    let request := requests.getLast?.getD []
    let pdu : SnmpPdu :=
      match next mib.oids request with
      | some name => ⟨SNMP_ERR_NOERROR, [⟨some name, .data (printed name)⟩]⟩
      | none =>
        if firstVersion then ⟨SNMP_ERR_NOSUCHNAME, [⟨some request, .data none⟩]⟩
        else ⟨SNMP_ERR_NOERROR, [⟨some request, .endOfMibView ended⟩]⟩
    ⟨.success, some pdu, false⟩

theorem Mib.answersFrom_agent (mib : Mib) (printed : Oid → Option Text) (ended : ExceptionText)
    (firstVersion : Bool) : AnswersFrom mib (mib.agent printed ended firstVersion) where
  next_object := by
    intro sent request name hnext
    unfold Mib.agent
    rw [List.getLast?_concat, Option.getD_some]
    dsimp only
    rw [hnext]
    exact ⟨rfl, printed name, rfl⟩
  no_object := by
    intro sent request hnext
    unfold Mib.agent
    rw [List.getLast?_concat, Option.getD_some]
    dsimp only
    rw [hnext]
    cases firstVersion with
    | true => exact ⟨rfl, Or.inl ⟨_, rfl⟩⟩
    | false => exact ⟨rfl, Or.inr ⟨ended, rfl⟩⟩

theorem not_lt_of_isPrefix {root oid : Oid} (h : root <+: oid) : ¬ oid < root :=
  List.not_lt.2 (List.IsPrefix.le h)

theorem lt_of_isPrefix_of_ne {root oid : Oid} (h : root <+: oid) (hne : oid ≠ root) :
    root < oid := by
  rcases lt_trichotomy root oid with hlt | heq | hgt
  · exact hlt
  · exact absurd heq.symm hne
  · exact absurd hgt (not_lt_of_isPrefix h)

theorem snmpCountResponse_of_endsWalk {root : Oid} {walk : SnmpWalk} {reply : SnmpReply}
    (h : reply.endsWalk walk.current) (hunder : root <+: walk.current)
    (hlength : walk.current.length ≤ MAX_OID_LEN) (hcount : walk.count ≠ INT_MAX) :
    snmpCountResponse root walk reply = (walk, false) := by
  obtain ⟨hstatus, ⟨varBinds, hresponse⟩ | ⟨text, hresponse⟩⟩ := h
  · unfold snmpCountResponse
    rw [hstatus, hresponse]
    rfl
  · have htake := (List.prefix_iff_eq_take.1 hunder).symm
    unfold snmpCountResponse
    rw [hstatus, hresponse]
    dsimp only
    rw [if_neg (by decide), if_neg (by simp), snmpCountVariables, snmpCountAdvance]
    dsimp only
    rw [if_neg (not_lt.2 hlength), if_neg (by simp [htake, hunder.length_le]), if_neg hcount]

section Honest

variable {mib : Mib} {agent : SnmpAgent} {root name : Oid} {walk : SnmpWalk} {sent : List Oid}

/-- The next object is below the root, so it is counted. -/
theorem snmpCountResponse_of_next (h : AnswersFrom mib agent)
    (hnext : next mib.oids walk.current = some name) (hlength : name.length ≤ MAX_OID_LEN)
    (hgreater : walk.current < name) (hunder : root <+: name) (hcount : walk.count ≠ INT_MAX) :
    snmpCountResponse root walk (agent (sent ++ [walk.current])) =
      ({ walk with current := name, count := walk.count + 1 }, true) := by
  obtain ⟨hstatus, printed, hresponse⟩ := h.next_object sent _ name hnext
  have htake := (List.prefix_iff_eq_take.1 hunder).symm
  unfold snmpCountResponse
  rw [hstatus, hresponse]
  dsimp only
  rw [if_neg (by decide), if_neg (by simp), snmpCountVariables, snmpCountAdvance]
  dsimp only
  rw [if_neg (not_lt.2 hlength), if_neg (by simp [htake, hunder.length_le]), if_neg hcount,
    if_pos hgreater]
  rfl

/-- The next object is not below the root, so the walk is at its end. -/
theorem snmpCountResponse_of_past (h : AnswersFrom mib agent)
    (hnext : next mib.oids walk.current = some name) (hlength : name.length ≤ MAX_OID_LEN)
    (hunder : ¬ root <+: name) :
    snmpCountResponse root walk (agent (sent ++ [walk.current])) = (walk, false) := by
  obtain ⟨hstatus, printed, hresponse⟩ := h.next_object sent _ name hnext
  have hoff : name.length < root.length ∨ name.take root.length ≠ root :=
    Or.inr fun htake => hunder (List.prefix_iff_eq_take.2 htake.symm)
  unfold snmpCountResponse
  rw [hstatus, hresponse]
  dsimp only
  rw [if_neg (by decide), if_neg (by simp), snmpCountVariables, snmpCountAdvance]
  dsimp only
  rw [if_neg (not_lt.2 hlength), if_pos hoff]

/-- What is left below the root after an object. -/
def Mib.left (mib : Mib) (root current : Oid) : List Oid :=
  (after mib.oids current).filter fun oid => decide (root <+: oid ∧ oid ≠ root)

theorem Mib.left_root (mib : Mib) (root : Oid) : mib.left root root = mib.below root := by
  unfold left below after
  rw [List.filter_filter]
  refine List.filter_congr fun oid _ => ?_
  by_cases hunder : root <+: oid ∧ oid ≠ root
  · simp [hunder, lt_of_isPrefix_of_ne hunder.1 hunder.2]
  · rw [decide_eq_false hunder, Bool.false_and]

/-- Past the objects below the root, none of them is left. -/
theorem Mib.left_eq_nil {rest : List Oid} (mib : Mib) (hunder : root <+: walk.current)
    (hafter : after mib.oids walk.current = name :: rest) (hpast : ¬ root <+: name) :
    mib.left root walk.current = [] := by
  unfold Mib.left
  rw [List.filter_eq_nil_iff]
  intro oid hoid hbelow
  have hname : name ∈ after mib.oids walk.current := hafter ▸ List.mem_cons_self
  have hfirst : ¬ oid < name := by
    have hsorted : (after mib.oids walk.current).Pairwise (· < ·) := mib.sorted.filter _
    rw [hafter] at hsorted hoid
    rcases List.mem_cons.1 hoid with rfl | hrest
    · exact lt_irrefl _
    · exact lt_asymm ((List.pairwise_cons.1 hsorted).1 oid hrest)
  have hroot : ¬ name < root := fun hlt =>
    not_lt_of_isPrefix hunder ((mem_after.1 hname).2.trans hlt)
  exact hpast (isPrefix_of_between (of_decide_eq_true hbelow).1 hroot hfirst)

/-- From a walk that stands at the root or below it, the loop counts what is
left. -/
theorem countLoop_of_answersFrom (h : AnswersFrom mib agent) {bound : Nat} (walk : SnmpWalk)
    (sent : List Oid) (hfailed : walk.failed = false) (hunder : root <+: walk.current)
    (hlength : walk.current.length ≤ MAX_OID_LEN)
    (hcount : walk.count + (mib.left root walk.current).length < INT_MAX)
    (hbound : (mib.left root walk.current).length < bound) :
    ∃ walk' requests, countLoop root agent bound walk sent = some (walk', requests) ∧
      walk'.failed = false ∧ walk'.count = walk.count + (mib.left root walk.current).length := by
  induction bound generalizing walk sent with
  | zero => omega
  | succ bound ih =>
    rw [countLoop]
    cases hafter : after mib.oids walk.current with
    | nil =>
      have hnext : next mib.oids walk.current = none := by rw [next_eq_head, hafter]; rfl
      have hleft : mib.left root walk.current = [] := by rw [Mib.left, hafter]; rfl
      rw [snmpCountResponse_of_endsWalk (h.no_object sent _ hnext) hunder hlength (by omega)]
      exact ⟨walk, _, rfl, hfailed, by rw [hleft]; rfl⟩
    | cons name rest =>
      have hnext : next mib.oids walk.current = some name := by rw [next_eq_head, hafter]; rfl
      obtain ⟨hmem, hgreater⟩ := mem_after.1 (hafter ▸ List.mem_cons_self : name ∈ after _ _)
      have hname := mib.length_le name hmem
      by_cases hpast : root <+: name
      · have hne : name ≠ root := by
          rintro rfl
          exact not_lt_of_isPrefix hunder hgreater
        have hleft : mib.left root walk.current = name :: mib.left root name := by
          rw [Mib.left, hafter, List.filter_cons_of_pos (by simp [hpast, hne]), Mib.left,
            after_of_cons mib.sorted hafter]
        rw [hleft, List.length_cons] at hcount hbound ⊢
        rw [snmpCountResponse_of_next h hnext hname hgreater hpast (by omega)]
        obtain ⟨walk', requests, hloop, hok, htotal⟩ :=
          ih ⟨name, walk.count + 1, walk.failed⟩ (sent ++ [walk.current]) hfailed hpast hname
            (by dsimp only; omega) (by dsimp only; omega)
        exact ⟨walk', requests, hloop, hok, by rw [htotal]; dsimp only; omega⟩
      · rw [snmpCountResponse_of_past h hnext hname hpast]
        exact ⟨walk, _, rfl, hfailed, by rw [mib.left_eq_nil hunder hafter hpast]; rfl⟩

end Honest

theorem snmpCountAgent_eq {bound : Nat} {device : SnmpDevice} {root : Oid} {agent : SnmpAgent}
    {walk : SnmpWalk} {requests : List Oid} (hsession : device.session = true)
    (h : countLoop root agent bound (.start root) [] = some (walk, requests)) :
    snmpCountAgent bound device (some root) agent =
      some (if walk.failed then ((-1 : Int), { device with ignoreHost := true }, requests)
        else ((walk.count : Int), device, requests)) := by
  unfold snmpCountAgent
  rw [if_neg (by simp [hsession])]
  dsimp only
  rw [h]
  rfl

/-- With an agent, `snmp_count` is the one on the list of its replies. -/
theorem snmpCountAgent_eq_snmpCount {bound : Nat} {device after : SnmpDevice} {root : Option Oid}
    {agent : SnmpAgent} {count : Int} {requests : List Oid}
    (h : snmpCountAgent bound device root agent = some (count, after, requests)) :
    snmpCount device root (agentReplies agent [] requests) = (count, after) := by
  unfold snmpCountAgent at h
  unfold snmpCount
  split at h
  · rename_i hsession
    cases h
    rw [if_pos hsession]
  · rename_i hsession
    rw [if_neg hsession]
    cases root with
    | none =>
      cases h
      rfl
    | some root =>
      dsimp only at h ⊢
      obtain ⟨⟨walk, sent⟩, hloop, hresult⟩ := Option.map_eq_some_iff.1 h
      obtain ⟨more, hmore, hwalk⟩ := countLoop_eq_snmpCountLoop hloop
      obtain rfl : sent = more := hmore
      dsimp only at hresult
      rw [SnmpWalk.start] at hwalk
      split at hresult
      · rename_i hfailed
        cases hresult
        rw [hwalk, if_pos hfailed]
      · rename_i hok
        cases hresult
        rw [hwalk, if_neg hok]

/-- What `snmp_count` does with an open session and a root that parses, for
every bound above `INT_MAX`.  It ends after finitely many requests.  With an
agent that answers from a table of objects, the count is the number of objects
that have the root as a proper front part.  With any agent, a bad reply where
the walk gets to it makes the count `-1`. -/
theorem snmpCountAgent_spec (device : SnmpDevice) (hsession : device.session = true) (root : Oid)
    (hroot : root.length ≤ MAX_OID_LEN) (agent : SnmpAgent) (bound : Nat)
    (hbound : INT_MAX < bound) :
    (∃ count after requests, snmpCountAgent bound device (some root) agent =
        some (count, after, requests) ∧ requests.length ≤ INT_MAX + 1) ∧
      (∀ mib : Mib, AnswersFrom mib agent → (mib.below root).length < INT_MAX →
        ∃ after requests, snmpCountAgent bound device (some root) agent =
          some (((mib.below root).length : Int), after, requests)) ∧
      ∀ walk sent, Reaches root agent walk sent →
        (agent (sent ++ [walk.current])).spoils root walk →
        ∃ after requests, snmpCountAgent bound device (some root) agent =
          some (-1, after, requests) := by
  refine ⟨?_, fun mib hmib hfew => ?_, fun walk sent hreaches hspoils => ?_⟩
  · obtain ⟨walk, requests, hloop, hlength⟩ :=
      countLoop_isSome root agent (.start root) [] (Nat.zero_le _) hbound
    have hfinite : requests.length ≤ INT_MAX + 1 := by simpa [SnmpWalk.start] using hlength
    rw [snmpCountAgent_eq hsession hloop]
    split
    · exact ⟨_, _, requests, rfl, hfinite⟩
    · exact ⟨_, _, requests, rfl, hfinite⟩
  · have hstart : (SnmpWalk.start root).count + (mib.left root root).length < INT_MAX := by
      rw [mib.left_root]
      simpa [SnmpWalk.start] using hfew
    have hleft : (mib.left root root).length < bound := by omega
    obtain ⟨walk, requests, hloop, hok, hcount⟩ :=
      countLoop_of_answersFrom hmib (.start root) [] rfl (List.prefix_refl root) hroot hstart hleft
    rw [snmpCountAgent_eq hsession hloop, hok]
    refine ⟨device, requests, ?_⟩
    have htotal : walk.count = (mib.below root).length := by
      rw [hcount]
      show 0 + (mib.left root root).length = _
      rw [Nat.zero_add, mib.left_root]
    simp [htotal]
  · obtain ⟨walk', requests, hloop, hfailed⟩ := countLoop_of_spoils hreaches hspoils hbound
    rw [snmpCountAgent_eq hsession hloop, hfailed]
    exact ⟨_, requests, rfl⟩

/-- A table of two rows, and the object after it. -/
private def twoRows : Mib where
  oids := [[1, 3, 1], [1, 3, 2], [1, 4]]
  sorted := by decide
  length_le := by decide

private def pastEnd : ExceptionText :=
  ⟨lit "No more variables left in this MIB View", by decide, by decide⟩

theorem snmpCountAgent_spec_two_rows :
    (twoRows.below [1, 3]).length = 2 ∧
      ∃ after requests, snmpCountAgent (INT_MAX + 1) ⟨true, false⟩ (some [1, 3])
        (twoRows.agent (fun _ => none) pastEnd false) = some (2, after, requests) :=
  ⟨by decide, (snmpCountAgent_spec ⟨true, false⟩ rfl [1, 3] (by decide) _ (INT_MAX + 1)
    (Nat.lt_succ_self _)).2.1 twoRows (twoRows.answersFrom_agent _ _ _) (by decide)⟩

end Spine
