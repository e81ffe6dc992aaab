import Spine.Poller.ItemTrace
import Spine.Snmp.Multi

/-!
# The groups of a collection

`collect_poll_items` gathers SNMP items in groups.  This module says what the
groups are, for every list of items and every answer of the agent, the scripts
and the library.

* The objects.  `snmpOids` lists the objects of the SNMP items before a
  position.
* The invariant.  `TraceInv` ties the calls and the open batch to the items
  that the loop has passed.  Every operation of the loop keeps it.
* The collection.  `Collected` is what a whole run leaves, and
  `collect_passes_each_once` proves it from the invariant.
* The variables.  When the answer of a call is one of `snmp_get_multi`, an item
  holds the variable that the agent returned for its own object.
-/

namespace Spine

open Base.CString

/-! ## The objects -/

/-- The object of an SNMP item. -/
def snmpOidAt (items : List Target) (p : Nat) : Option SnmpOid :=
  items[p]?.bind fun item =>
    if item.action = .snmp then some ⟨p, snprintfS 1024 item.arg1⟩ else none

/-- The objects of the SNMP items before a position, in order. -/
def snmpOids (items : List Target) (count : Nat) : List SnmpOid :=
  (List.range count).filterMap (snmpOidAt items)

theorem snmpOidAt_eq_some {items : List Target} {p : Nat} {oid : SnmpOid} :
    snmpOidAt items p = some oid ↔
      ∃ item, items[p]? = some item ∧ item.action = .snmp ∧
        oid = ⟨p, snprintfS 1024 item.arg1⟩ := by
  unfold snmpOidAt
  rw [Option.bind_eq_some_iff]
  refine exists_congr fun item => and_congr_right fun _ => ?_
  rw [Option.ite_none_right_eq_some, Option.some.injEq, eq_comm (a := oid)]

theorem snmpOids_succ (items : List Target) (count : Nat) :
    snmpOids items (count + 1) = snmpOids items count ++ (snmpOidAt items count).toList := by
  unfold snmpOids
  rw [List.range_succ, List.filterMap_append]
  cases h : snmpOidAt items count <;> simp [h]

theorem mem_snmpOids {items : List Target} {count : Nat} {oid : SnmpOid} :
    oid ∈ snmpOids items count ↔
      oid.position < count ∧ snmpOidAt items oid.position = some oid := by
  unfold snmpOids
  rw [List.mem_filterMap]
  constructor
  · rintro ⟨p, hp, hoid⟩
    obtain ⟨item, _, _, rfl⟩ := snmpOidAt_eq_some.1 hoid
    exact ⟨List.mem_range.1 hp, hoid⟩
  · intro h
    exact ⟨oid.position, List.mem_range.2 h.1, h.2⟩

/-- No two objects have the same position. -/
theorem snmpOids_nodup (items : List Target) (count : Nat) :
    ((snmpOids items count).map SnmpOid.position).Nodup := by
  induction count with
  | zero => exact List.nodup_nil
  | succ count ih =>
    rw [snmpOids_succ, List.map_append, List.nodup_append']
    refine ⟨ih, ?_, ?_⟩
    · cases snmpOidAt items count <;> simp
    · intro p hp hlast
      obtain ⟨oid, hoid, rfl⟩ := List.mem_map.1 hp
      obtain ⟨last, hmem, hposition⟩ := List.mem_map.1 hlast
      obtain ⟨item, _, _, rfl⟩ := snmpOidAt_eq_some.1 (Option.mem_toList.1 hmem)
      have hlt := (mem_snmpOids.1 hoid).1
      dsimp only at hposition
      omega

/-! ## The invariant -/

/-- Two items that one session serves. -/
structure SameSession (opener profile : SnmpProfile) : Prop where
  port : opener.port = profile.port
  version : opener.version = profile.version
  community : profile.version < 3 → opener.community = profile.community
  credentials : 3 ≤ profile.version →
    opener.username = profile.username ∧ opener.password = profile.password ∧
      opener.authProtocol = profile.authProtocol ∧
      opener.privPassphrase = profile.privPassphrase ∧
      opener.privProtocol = profile.privProtocol ∧ opener.context = profile.context ∧
      opener.engineId = profile.engineId

theorem sameSession_of_unchanged {opener profile : SnmpProfile}
    (h : snmpItemChanged opener profile = false) : SameSession opener profile := by
  unfold snmpItemChanged at h
  simp only [Bool.or_eq_false_iff, Bool.and_eq_false_iff, decide_eq_false_iff_not, not_not] at h
  obtain ⟨⟨⟨hport, hversion⟩, hcommunity⟩, hcredentials⟩ := h
  refine ⟨hport, hversion, fun hlow => hcommunity.resolve_left (not_not.2 hlow), fun hhigh => ?_⟩
  have hall := hcredentials.resolve_left (by omega)
  obtain ⟨⟨⟨⟨⟨⟨h1, h2⟩, h3⟩, h4⟩, h5⟩, h6⟩, h7⟩ := hall
  exact ⟨h1, h2, h3, h4, h5, h6, h7⟩

theorem snmpItemChanged_self (profile : SnmpProfile) : snmpItemChanged profile profile = false := by
  simp [snmpItemChanged]

/-- The session is the outcome of an opening for an SNMP item with this
profile. -/
def OpenedFor (env : ItemEnv) (items : List Target) (opener : Nat) (profile : SnmpProfile)
    (opening : Nat) (session : Bool) : Prop :=
  session = env.answers.openSession opening ∧
    ∃ item, items[opener]? = some item ∧ item.action = .snmp ∧ item.snmp = profile

/-- What a call promises: a group of the right size, and a session that was
opened for an item which it serves like the items of the group. -/
structure MultiCall.Good (env : ItemEnv) (items : List Target) (call : MultiCall) : Prop where
  nonempty : call.group ≠ []
  size : call.group.length ≤ env.maxOids
  session : ∃ profile, OpenedFor env items call.opener profile call.opening call.session ∧
    ∀ oid ∈ call.group, ∀ item, items[oid.position]? = some item → SameSession profile item.snmp

/-- Each item of the group of the call `k` holds the value of its own object. -/
def MultiCall.Stored (env : ItemEnv) (items final : List Target) (k : Nat) (call : MultiCall) :
    Prop :=
  ∀ (j : Nat) (oid : SnmpOid), call.group[j]? = some oid →
    ∀ item, items[oid.position]? = some item → final[oid.position]? =
      some { item with
        result := snmpResult env item call.ignored ((env.answers.multi k).result j) }

/-- The item at a position is not touched by the calls. -/
def Unpassed (calls : List MultiCall) (p : Nat) : Prop :=
  ∀ call ∈ calls, ∀ oid ∈ call.group, oid.position ≠ p

/-- The loop has passed `count` items.  The objects of the calls and of the
open batch are those of the SNMP items among them, and each item holds the
result of its own answer. -/
structure TraceInv (env : ItemEnv) (items : List Target) (count : Nat) (trace : ItemTrace) :
    Prop where
  passed : trace.calls.flatMap MultiCall.group ++ trace.loop.batch = snmpOids items count
  room : trace.loop.batch.length ≤ env.maxOids
  numbered : trace.calls.length = trace.loop.flushed
  idle : trace.loop.key = none → trace.loop.batch = []
  opened : ∀ profile, trace.loop.key = some profile →
    OpenedFor env items trace.opener profile (trace.loop.opened - 1) trace.loop.device.session
  same : ∀ profile, trace.loop.key = some profile → ∀ oid ∈ trace.loop.batch, ∀ item,
    items[oid.position]? = some item → snmpItemChanged profile item.snmp = false
  good : ∀ call ∈ trace.calls, call.Good env items
  stored : ∀ (k : Nat) (call : MultiCall), trace.calls[k]? = some call →
    call.Stored env items trace.loop.items k
  scripts : ∀ p < count, ∀ item, items[p]? = some item → item.isScript = true →
    ∃ text, scriptResult env p item = some text ∧
      trace.loop.items[p]? = some { item with result := text }
  rest : ∀ p, Unpassed trace.calls p →
    (∀ item, p < count → items[p]? = some item → item.isScript = false) →
      trace.loop.items[p]? = items[p]?

section Invariant

variable {env : ItemEnv} {items : List Target} {count : Nat} {trace : ItemTrace}

/-- An object of the calls or of the batch is an object of the items. -/
theorem TraceInv.mem_snmpOids_of_batch (h : TraceInv env items count trace) {oid : SnmpOid}
    (hoid : oid ∈ trace.loop.batch) : oid ∈ snmpOids items count := by
  rw [← h.passed]
  exact List.mem_append_right _ hoid

theorem TraceInv.mem_snmpOids_of_call (h : TraceInv env items count trace) {call : MultiCall}
    {oid : SnmpOid} (hcall : call ∈ trace.calls) (hoid : oid ∈ call.group) :
    oid ∈ snmpOids items count := by
  rw [← h.passed]
  exact List.mem_append_left _ (List.mem_flatMap.2 ⟨call, hcall, hoid⟩)

/-- The positions of the calls are not those of the batch. -/
theorem TraceInv.unpassed_of_batch (h : TraceInv env items count trace) {oid : SnmpOid}
    (hoid : oid ∈ trace.loop.batch) : Unpassed trace.calls oid.position := by
  intro call hcall other hother heq
  have hnodup := snmpOids_nodup items count
  rw [← h.passed, List.map_append, List.nodup_append'] at hnodup
  refine hnodup.2.2 (List.mem_map_of_mem (List.mem_flatMap.2 ⟨call, hcall, hother⟩)) ?_
  exact heq ▸ List.mem_map_of_mem hoid

theorem TraceInv.unpassed_of_le (h : TraceInv env items count trace) {p : Nat} (hp : count ≤ p) :
    Unpassed trace.calls p := by
  intro call hcall oid hoid heq
  have hlt := (mem_snmpOids.1 (h.mem_snmpOids_of_call hcall hoid)).1
  omega

/-- An object is never one of a script item. -/
theorem isScript_of_mem_snmpOids {oid : SnmpOid} (h : oid ∈ snmpOids items count) {item : Target}
    (hitem : items[oid.position]? = some item) : item.isScript = false := by
  obtain ⟨other, hother, haction, _⟩ := snmpOidAt_eq_some.1 (mem_snmpOids.1 h).2
  cases hother.symm.trans hitem
  unfold Target.isScript
  rw [haction]
  rfl

/-- Items that wait in the batch, and items to come, are as they were. -/
theorem TraceInv.item_of_batch (h : TraceInv env items count trace) {oid : SnmpOid}
    (hoid : oid ∈ trace.loop.batch) : trace.loop.items[oid.position]? = items[oid.position]? :=
  h.rest _ (h.unpassed_of_batch hoid) fun _ _ hitem =>
    isScript_of_mem_snmpOids (h.mem_snmpOids_of_batch hoid) hitem

theorem TraceInv.item_of_le (h : TraceInv env items count trace) {p : Nat} (hp : count ≤ p) :
    trace.loop.items[p]? = items[p]? :=
  h.rest p (h.unpassed_of_le hp) fun _ hlt => by omega

/-- The call of a flush is as promised. -/
theorem TraceInv.call_good (h : TraceInv env items count trace) (hne : trace.loop.batch ≠ []) :
    (trace.call env).Good env items := by
  obtain ⟨profile, hkey⟩ := Option.ne_none_iff_exists'.1 fun hkey => hne (h.idle hkey)
  refine ⟨hne, h.room, profile, h.opened profile hkey, fun oid hoid item hitem => ?_⟩
  exact sameSession_of_unchanged (h.same profile hkey oid hoid item hitem)

/-- The objects of a call stand at other positions than those of the batch. -/
theorem TraceInv.call_ne_batch (h : TraceInv env items count trace) {call : MultiCall}
    {oid : SnmpOid} (hcall : call ∈ trace.calls) (hoid : oid ∈ call.group) :
    ∀ other ∈ trace.loop.batch, other.position ≠ oid.position :=
  fun _ hother heq => h.unpassed_of_batch hother call hcall oid hoid heq.symm

theorem TraceInv.script_ne_batch (h : TraceInv env items count trace) {p : Nat} {item : Target}
    (hitem : items[p]? = some item) (hscript : item.isScript = true) :
    ∀ other ∈ trace.loop.batch, other.position ≠ p := by
  intro other hother heq
  have hsnmp := isScript_of_mem_snmpOids (h.mem_snmpOids_of_batch hother) (heq ▸ hitem)
  rw [hscript] at hsnmp
  cases hsnmp

theorem TraceInv.batch_nodup (h : TraceInv env items count trace) :
    (trace.loop.batch.map SnmpOid.position).Nodup := by
  have hnodup := snmpOids_nodup items count
  rw [← h.passed, List.map_append, List.nodup_append'] at hnodup
  exact hnodup.2.1

/-- A flush stores the values of its own group and keeps those before. -/
theorem TraceInv.flush_stored (h : TraceInv env items count trace) (k : Nat) (call : MultiCall)
    (hcall : (trace.calls ++ [trace.call env])[k]? = some call) :
    call.Stored env items (flushSnmpBatch env trace.loop).items k := by
  intro j oid hoid item hitem
  rcases Base.Batching.place_cases hcall with hbefore | ⟨hlast, rfl⟩
  · have hmem := List.mem_of_getElem? hbefore
    rw [flushSnmpBatch_of_notMem (h.call_ne_batch hmem (List.mem_of_getElem? hoid))]
    exact h.stored k call hbefore j oid hoid item hitem
  · rw [hlast, h.numbered]
    refine flushSnmpBatch_of_mem h.batch_nodup hoid ?_
    exact (h.item_of_batch (List.mem_of_getElem? hoid)).trans hitem

/-- A flush turns the batch into a call. -/
theorem TraceInv.flush (h : TraceInv env items count trace) :
    TraceInv env items count (traceFlush env trace) := by
  by_cases hne : trace.loop.batch = []
  · have hsame : traceFlush env trace = trace := by
      unfold traceFlush
      rw [flushSnmpBatch_of_nil hne, if_pos hne]
    rw [hsame]
    exact h
  have hcontrol := flushSnmpBatch_control env hne
  have hbatch : (flushSnmpBatch env trace.loop).batch = [] := hcontrol.batch
  have hkey : (flushSnmpBatch env trace.loop).key = trace.loop.key := hcontrol.key
  unfold traceFlush
  rw [if_neg hne]
  refine ⟨?_, ?_, ?_, fun _ => hbatch, ?_, ?_, ?_, h.flush_stored, ?_, ?_⟩
  · show (trace.calls ++ [trace.call env]).flatMap MultiCall.group ++
      (flushSnmpBatch env trace.loop).batch = snmpOids items count
    rw [hbatch, List.append_nil, List.flatMap_append, List.flatMap_singleton, ← h.passed]
    rfl
  · show (flushSnmpBatch env trace.loop).batch.length ≤ env.maxOids
    rw [hbatch]
    exact Nat.zero_le _
  · show (trace.calls ++ [trace.call env]).length = (flushSnmpBatch env trace.loop).flushed
    rw [hcontrol.flushed, List.length_append, h.numbered]
    rfl
  · intro profile hprofile
    have hsession := h.opened profile (hkey.symm.trans hprofile)
    show OpenedFor env items trace.opener profile ((flushSnmpBatch env trace.loop).opened - 1)
      (flushSnmpBatch env trace.loop).device.session
    rw [hcontrol.opened, hcontrol.device]
    exact hsession
  · intro profile _ oid hoid
    rw [show (flushSnmpBatch env trace.loop).batch = [] from hbatch] at hoid
    cases hoid
  · intro call hcall
    cases List.mem_append.1 hcall with
    | inl hold => exact h.good call hold
    | inr hnew =>
      rw [List.mem_singleton.1 hnew]
      exact h.call_good hne
  · intro p hp item hitem hscript
    obtain ⟨text, htext, hstored⟩ := h.scripts p hp item hitem hscript
    exact ⟨text, htext,
      (flushSnmpBatch_of_notMem (h.script_ne_batch hitem hscript)).trans hstored⟩
  · intro p hunpassed hscript
    refine (flushSnmpBatch_of_notMem fun oid hoid => ?_).trans (h.rest p ?_ hscript)
    · exact hunpassed _ (List.mem_append_right _ (List.mem_singleton_self _)) oid hoid
    · exact fun call hcall => hunpassed call (List.mem_append_left _ hcall)

/-- An opening needs an empty batch: the calls before it keep their session. -/
theorem TraceInv.openSession (h : TraceInv env items count trace) (hbatch : trace.loop.batch = [])
    {position : Nat} {item : Target} (hitem : items[position]? = some item)
    (haction : item.action = .snmp) :
    TraceInv env items count (traceOpen env trace position item.snmp) := by
  refine ⟨h.passed, h.room, h.numbered, fun _ => hbatch, ?_, ?_, h.good, h.stored, h.scripts,
    h.rest⟩
  · intro profile hprofile
    cases hprofile
    exact ⟨rfl, item, hitem, haction, rfl⟩
  · intro profile _ oid hoid
    rw [show (traceOpen env trace position item.snmp).loop.batch = [] from hbatch] at hoid
    cases hoid

theorem TraceInv.makeRoom (h : TraceInv env items count trace) :
    TraceInv env items count (traceRoom env trace) := by
  unfold traceRoom
  split
  · exact h.flush
  · exact h

/-- After `traceRoom` one more object fits. -/
theorem traceRoom_length (hmax : 1 ≤ env.maxOids) :
    (traceRoom env trace).loop.batch.length < env.maxOids := by
  unfold traceRoom
  split
  · rename_i hfull
    have hne : trace.loop.batch ≠ [] := by
      intro hnil
      rw [hnil, List.length_nil] at hfull
      omega
    show (flushSnmpBatch env trace.loop).batch.length < env.maxOids
    rw [(flushSnmpBatch_control env hne).batch]
    exact hmax
  · omega

theorem traceRoom_key : (traceRoom env trace).loop.key = trace.loop.key := by
  unfold traceRoom
  split
  · by_cases hne : trace.loop.batch = []
    · show (flushSnmpBatch env trace.loop).key = trace.loop.key
      rw [flushSnmpBatch_of_nil hne]
    · exact (flushSnmpBatch_control env hne).key
  · rfl

/-- The next item goes to the batch of a session that serves it. -/
theorem TraceInv.push (h : TraceInv env items count trace)
    (hroom : trace.loop.batch.length < env.maxOids) {item : Target} {profile : SnmpProfile}
    (hitem : items[count]? = some item) (haction : item.action = .snmp)
    (hkey : trace.loop.key = some profile) (hsame : snmpItemChanged profile item.snmp = false) :
    TraceInv env items (count + 1) (tracePush trace count item) := by
  have hoid : snmpOidAt items count = some ⟨count, snprintfS 1024 item.arg1⟩ :=
    snmpOidAt_eq_some.2 ⟨item, hitem, haction, rfl⟩
  refine ⟨?_, ?_, h.numbered, ?_, h.opened, ?_, h.good, h.stored, ?_, ?_⟩
  · show trace.calls.flatMap MultiCall.group ++
      (trace.loop.batch ++ [⟨count, snprintfS 1024 item.arg1⟩]) = snmpOids items (count + 1)
    rw [snmpOids_succ, hoid, ← h.passed, List.append_assoc]
    rfl
  · show (trace.loop.batch ++ [_]).length ≤ env.maxOids
    rw [List.length_append, List.length_singleton]
    omega
  · intro hnone
    cases hnone.symm.trans hkey
  · intro other hother oid hmem target htarget
    cases hother.symm.trans hkey
    cases List.mem_append.1 hmem with
    | inl hold => exact h.same profile hkey oid hold target htarget
    | inr hnew =>
      rw [List.mem_singleton.1 hnew] at htarget
      cases htarget.symm.trans hitem
      exact hsame
  · intro p hp target htarget hscript
    refine h.scripts p (lt_of_le_of_ne (by omega) fun heq => ?_) target htarget hscript
    rw [heq] at htarget
    cases htarget.symm.trans hitem
    unfold Target.isScript at hscript
    rw [haction] at hscript
    cases hscript
  · intro p hunpassed hscript
    exact h.rest p hunpassed fun target hp htarget => hscript target (by omega) htarget

/-- An item that is neither polled by SNMP nor by a script is passed over. -/
theorem TraceInv.skip (h : TraceInv env items count trace) (hoid : snmpOidAt items count = none)
    (hscript : ∀ item, items[count]? = some item → item.isScript = false) :
    TraceInv env items (count + 1) trace := by
  refine ⟨?_, h.room, h.numbered, h.idle, h.opened, h.same, h.good, h.stored, ?_, ?_⟩
  · rw [snmpOids_succ, hoid, ← h.passed]
    exact (List.append_nil _).symm
  · intro p hp item hitem hp_script
    refine h.scripts p (lt_of_le_of_ne (by omega) fun heq => ?_) item hitem hp_script
    rw [hscript item (heq ▸ hitem)] at hp_script
    cases hp_script
  · intro p hunpassed hnone
    exact h.rest p hunpassed fun item hp hitem => hnone item (by omega) hitem

/-- A script item gets its own text. -/
theorem TraceInv.script (h : TraceInv env items count trace) {item : Target}
    (hitem : items[count]? = some item) (hscript : item.isScript = true) {text : Text}
    (htext : scriptResult env count item = some text) (isError : Bool) :
    TraceInv env items (count + 1)
      { trace with loop := trace.loop.store count text isError } := by
  have hother : ∀ p, count ≠ p →
      (trace.loop.store count text isError).items[p]? = trace.loop.items[p]? :=
    fun p hp => (ItemLoop.store_getElem? _ _ _ p).trans (if_neg hp)
  have haction : snmpOidAt items count = none := by
    unfold snmpOidAt
    rw [hitem, Option.bind_some]
    refine if_neg fun hsnmp => ?_
    unfold Target.isScript at hscript
    rw [hsnmp] at hscript
    cases hscript
  refine ⟨?_, h.room, h.numbered, h.idle, h.opened, h.same, h.good, ?_, ?_, ?_⟩
  · rw [snmpOids_succ, haction, ← h.passed]
    exact (List.append_nil _).symm
  · intro k call hcall j oid hoid target htarget
    have hlt := (mem_snmpOids.1 (h.mem_snmpOids_of_call (List.mem_of_getElem? hcall)
      (List.mem_of_getElem? hoid))).1
    exact (hother _ (by omega)).trans (h.stored k call hcall j oid hoid target htarget)
  · intro p hp target htarget hp_script
    rcases eq_or_ne count p with rfl | hne
    · cases htarget.symm.trans hitem
      refine ⟨text, htext, ?_⟩
      show (trace.loop.store count text isError).items[count]? = _
      rw [ItemLoop.store_getElem?, if_pos rfl, h.item_of_le le_rfl, hitem, Option.map_some]
    · obtain ⟨own, hown, hstored⟩ := h.scripts p (by omega) target htarget hp_script
      exact ⟨own, hown, (hother p hne).trans hstored⟩
  · intro p hunpassed hnone
    rcases eq_or_ne count p with rfl | hne
    · rw [hnone item (by omega) hitem] at hscript
      cases hscript
    · exact (hother p hne).trans
        (h.rest p hunpassed fun target hp htarget => hnone target (by omega) htarget)

end Invariant

/-! ## The collection -/

section Run

variable {env : ItemEnv} {items : List Target} {trace next : ItemTrace} {position : Nat}

/-- A script item gets the text of its own answer, or the process ends. -/
theorem pollItem_of_script (env : ItemEnv) {loop : ItemLoop} {item : Target}
    (hitem : loop.items[position]? = some item) (hscript : item.isScript = true) :
    match scriptResult env position item with
    | none => pollItem env loop position = none
    | some text => ∃ isError, pollItem env loop position = some (loop.store position text isError)
    := by
  have hpoll : pollItem env loop position =
      pollScriptItem env loop position item (decide (item.action = .phpScriptServer)) := by
    unfold pollItem
    unfold Target.isScript at hscript
    rw [hitem]
    dsimp only
    cases haction : item.action with
    | script => rfl
    | phpScriptServer => rfl
    | snmp => rw [haction] at hscript; cases hscript
    | snmpCount => rw [haction] at hscript; cases hscript
    | scriptCount => rw [haction] at hscript; cases hscript
    | phpScriptServerCount => rw [haction] at hscript; cases hscript
    | unknown code => rw [haction] at hscript; simp at hscript
  rw [hpoll]
  unfold scriptResult pollScriptItem
  by_cases harg : item.arg1 = []
  · rw [if_pos harg, if_pos harg]
    exact ⟨_, rfl⟩
  rw [if_neg harg, if_neg harg]
  by_cases hserver : item.action = .phpScriptServer
  · rw [if_pos hserver, if_pos (decide_eq_true hserver)]
    exact ⟨_, rfl⟩
  rw [if_neg hserver, if_neg (by simpa using hserver)]
  cases execPoll env.cfg (env.answers.script position) item.arg1 with
  | died => rfl
  | returned buffer permits bytesRead => exact ⟨_, rfl⟩

theorem pollItem_of_other (env : ItemEnv) {loop : ItemLoop} {item : Target}
    (hitem : loop.items[position]? = some item) (hsnmp : item.action ≠ .snmp)
    (hscript : item.isScript = false) : pollItem env loop position = some loop := by
  unfold pollItem
  unfold Target.isScript at hscript
  rw [hitem]
  dsimp only
  cases haction : item.action with
  | snmp => exact absurd haction hsnmp
  | script => rw [haction] at hscript; cases hscript
  | phpScriptServer => rw [haction] at hscript; cases hscript
  | snmpCount => rfl
  | scriptCount => rfl
  | phpScriptServerCount => rfl
  | unknown code => rfl

/-- The loop has passed `position` items, or the last of them was an SNMP item
without a session, which ends the loop. -/
def Collecting (env : ItemEnv) (items : List Target) (position : Nat) (trace : ItemTrace) : Prop :=
  TraceInv env items position trace ∨
    ∃ count item, position = count + 1 ∧ items[count]? = some item ∧ item.action = .snmp ∧
      trace.loop.device.session = false ∧ trace.loop.device.ignoreHost = true ∧
      TraceInv env items count trace

/-- An SNMP item goes to the batch, unless there is no session. -/
theorem TraceInv.snmpItem (h : TraceInv env items position trace) (hmax : 1 ≤ env.maxOids)
    {item : Target} (hitem : items[position]? = some item) (haction : item.action = .snmp) :
    Collecting env items (position + 1) (traceSnmpItem env trace position item) := by
  have hopened : TraceInv env items position
      (if trace.loop.key.isNone then traceOpen env trace position item.snmp else trace) ∧
        (if trace.loop.key.isNone then traceOpen env trace position item.snmp
          else trace).loop.key.isSome = true := by
    split
    · rename_i hkey
      exact ⟨h.openSession (h.idle (Option.isNone_iff_eq_none.1 hkey)) hitem haction, rfl⟩
    · rename_i hkey
      exact ⟨h, by simpa [Option.isSome_iff_ne_none] using hkey⟩
  unfold traceSnmpItem
  dsimp only
  generalize (if trace.loop.key.isNone then traceOpen env trace position item.snmp else trace) =
    current at hopened ⊢
  obtain ⟨hinv, hkey⟩ := hopened
  obtain ⟨profile, hprofile⟩ := Option.isSome_iff_exists.1 hkey
  by_cases hsession : current.loop.device.session = true
  swap
  · rw [if_pos (by simpa using hsession)]
    refine Or.inr ⟨position, item, rfl, hitem, haction, by simpa using hsession, rfl, ?_⟩
    exact ⟨hinv.passed, hinv.room, hinv.numbered, hinv.idle, hinv.opened, hinv.same, hinv.good,
      hinv.stored, hinv.scripts, hinv.rest⟩
  rw [if_neg (by simp [hsession]), hprofile, Option.any_some]
  left
  by_cases hchanged : snmpItemChanged profile item.snmp = true
  · rw [if_pos hchanged]
    have hflushed : (traceFlush env current).loop.batch = [] := by
      show (flushSnmpBatch env current.loop).batch = []
      by_cases hne : current.loop.batch = []
      · rw [flushSnmpBatch_of_nil hne, hne]
      · exact (flushSnmpBatch_control env hne).batch
    refine (hinv.flush.openSession hflushed hitem haction).makeRoom.push (traceRoom_length hmax)
      hitem haction ?_ (snmpItemChanged_self item.snmp)
    exact traceRoom_key
  · rw [if_neg hchanged]
    exact hinv.makeRoom.push (traceRoom_length hmax) hitem haction
      (traceRoom_key.trans hprofile) (by simpa using hchanged)

/-- One turn of the loop. -/
theorem TraceInv.item (h : TraceInv env items position trace) (hmax : 1 ≤ env.maxOids)
    (hnext : traceItem env trace position = some next) :
    Collecting env items (position + 1) next := by
  unfold traceItem at hnext
  rw [h.item_of_le le_rfl] at hnext
  cases hitem : items[position]? with
  | none =>
    rw [hitem] at hnext
    cases hnext
    refine Or.inl (h.skip ?_ fun item hsome => by cases hitem.symm.trans hsome)
    unfold snmpOidAt
    rw [hitem]
    rfl
  | some item =>
    rw [hitem] at hnext
    dsimp only at hnext
    by_cases haction : item.action = .snmp
    · rw [if_pos haction] at hnext
      cases hnext
      exact h.snmpItem hmax hitem haction
    rw [if_neg haction] at hnext
    have hloop : trace.loop.items[position]? = some item := (h.item_of_le le_rfl).trans hitem
    left
    cases hscript : item.isScript with
    | true =>
      have hpoll := pollItem_of_script env hloop hscript
      cases htext : scriptResult env position item with
      | none =>
        rw [htext] at hpoll
        rw [hpoll] at hnext
        cases hnext
      | some text =>
        rw [htext] at hpoll
        obtain ⟨isError, hpoll⟩ := hpoll
        rw [hpoll] at hnext
        cases hnext
        exact h.script hitem hscript htext isError
    | false =>
      rw [pollItem_of_other env hloop haction hscript] at hnext
      cases hnext
      refine h.skip ?_ fun other hother => ?_
      · unfold snmpOidAt
        rw [hitem, Option.bind_some, if_neg haction]
      · cases hother.symm.trans hitem
        exact hscript

/-- The process ends only in `exec_poll`. -/
theorem TraceInv.item_none (h : TraceInv env items position trace)
    (hnext : traceItem env trace position = none) :
    ∃ item, items[position]? = some item ∧ item.action = .script ∧
      execPoll env.cfg (env.answers.script position) item.arg1 = .died := by
  unfold traceItem at hnext
  rw [h.item_of_le le_rfl] at hnext
  cases hitem : items[position]? with
  | none =>
    rw [hitem] at hnext
    cases hnext
  | some item =>
    have hloop : trace.loop.items[position]? = some item := (h.item_of_le le_rfl).trans hitem
    rw [hitem] at hnext
    dsimp only at hnext
    by_cases haction : item.action = .snmp
    · rw [if_pos haction] at hnext
      cases hnext
    rw [if_neg haction, Option.map_eq_none_iff] at hnext
    cases hscript : item.isScript with
    | false =>
      rw [pollItem_of_other env hloop haction hscript] at hnext
      cases hnext
    | true =>
      have hpoll := pollItem_of_script env hloop hscript
      refine ⟨item, rfl, ?_⟩
      cases htext : scriptResult env position item with
      | some text =>
        rw [htext] at hpoll
        obtain ⟨isError, hpoll⟩ := hpoll
        cases hnext.symm.trans hpoll
      | none =>
        unfold scriptResult at htext
        split_ifs at htext with harg hserver
        unfold Target.isScript at hscript
        refine ⟨by simpa [hserver] using hscript, ?_⟩
        split at htext
        · assumption
        · cases htext

/-- The whole loop, by induction on the items that are left. -/
theorem traceFrom_collecting (hmax : 1 ≤ env.maxOids) {left rows : Nat} {final : ItemTrace}
    (h : Collecting env items position trace)
    (hfinal : traceFrom env left position trace = some (final, rows)) :
    Collecting env items rows final ∧ rows ≤ position + left := by
  induction left generalizing position trace with
  | zero =>
    cases hfinal
    exact ⟨h, le_rfl⟩
  | succ left ih =>
    rw [traceFrom] at hfinal
    split at hfinal
    · cases hfinal
      exact ⟨h, by omega⟩
    · rename_i hignore
      obtain ⟨next, hnext, hrest⟩ := Option.bind_eq_some_iff.1 hfinal
      cases h with
      | inl hinv =>
        obtain ⟨hcollecting, hrows⟩ := ih (hinv.item hmax hnext) hrest
        exact ⟨hcollecting, by omega⟩
      | inr hended =>
        obtain ⟨_, _, _, _, _, _, hignored, _⟩ := hended
        exact absurd hignored hignore

theorem traceFrom_none (hmax : 1 ≤ env.maxOids) {left : Nat}
    (h : Collecting env items position trace)
    (hfinal : traceFrom env left position trace = none) :
    ∃ p item, items[p]? = some item ∧ item.action = .script ∧
      execPoll env.cfg (env.answers.script p) item.arg1 = .died := by
  induction left generalizing position trace with
  | zero => cases hfinal
  | succ left ih =>
    rw [traceFrom] at hfinal
    split at hfinal
    · cases hfinal
    · rename_i hignore
      cases h with
      | inr hended =>
        obtain ⟨_, _, _, _, _, _, hignored, _⟩ := hended
        exact absurd hignored hignore
      | inl hinv =>
        cases hnext : traceItem env trace position with
        | none => exact ⟨position, hinv.item_none hnext⟩
        | some next =>
          rw [hnext, Option.bind_some] at hfinal
          exact ih (hinv.item hmax hnext) hfinal

/-- The state before the first item. -/
theorem traceInv_start (env : ItemEnv) (device : SnmpDevice) (items : List Target) :
    TraceInv env items 0 ⟨.start device items, 0, []⟩ where
  passed := rfl
  room := Nat.zero_le _
  numbered := rfl
  idle _ := rfl
  opened := nofun
  same := nofun
  good := nofun
  stored := nofun
  scripts _ hp := absurd hp (Nat.not_lt_zero _)
  rest _ _ _ := rfl

end Run

/-- The item at a position is the object `j` of the call `k`, and of no other
call, and it holds the value of that object. -/
def PassedOnce (env : ItemEnv) (trace : ItemTrace) (p : Nat) (item : Target) : Prop :=
  ∃ (k j : Nat) (call : MultiCall),
    trace.calls[k]? = some call ∧ call.group[j]? = some ⟨p, snprintfS 1024 item.arg1⟩ ∧
      (∀ (k' j' : Nat) (call' : MultiCall) (oid : SnmpOid), trace.calls[k']? = some call' →
        call'.group[j']? = some oid → oid.position = p → k' = k ∧ j' = j) ∧
      trace.loop.items[p]? =
        some { item with
          result := snmpResult env item call.ignored ((env.answers.multi k).result j) }

/-- The item was reached without a session, and the loop ended there. -/
def ReachedWithoutSession (trace : ItemTrace) (rows p : Nat) (item : Target) : Prop :=
  p + 1 = rows ∧ trace.loop.device.session = false ∧ Unpassed trace.calls p ∧
    trace.loop.items[p]? = some item ∧ item.result = undefinedText

/-- What a collection of `rows` items leaves. -/
structure Collected (env : ItemEnv) (items : List Target) (trace : ItemTrace) (rows : Nat) :
    Prop where
  bound : rows ≤ items.length
  calls : ∀ call ∈ trace.calls, call.Good env items
  objects : ∀ call ∈ trace.calls, ∀ oid ∈ call.group,
    oid.position < rows ∧ snmpOidAt items oid.position = some oid
  snmp : ∀ p < rows, ∀ item, items[p]? = some item → item.action = .snmp →
    PassedOnce env trace p item ∨ ReachedWithoutSession trace rows p item
  scripts : ∀ p < rows, ∀ item, items[p]? = some item → item.isScript = true →
    ∃ text, scriptResult env p item = some text ∧
      trace.loop.items[p]? = some { item with result := text }
  others : ∀ (p : Nat) (item : Target), items[p]? = some item → item.action ≠ .snmp →
    item.isScript = false →
    trace.loop.items[p]? = some item
  rest : ∀ p, rows ≤ p → trace.loop.items[p]? = items[p]?

section Collected

variable {env : ItemEnv} {items : List Target} {trace : ItemTrace} {count : Nat}

/-- With an empty batch, every SNMP item so far was passed once. -/
theorem TraceInv.passedOnce (h : TraceInv env items count trace) (hbatch : trace.loop.batch = [])
    {p : Nat} (hp : p < count) {item : Target} (hitem : items[p]? = some item)
    (haction : item.action = .snmp) : PassedOnce env trace p item := by
  have hpassed := h.passed
  rw [hbatch, List.append_nil] at hpassed
  have hmem : (⟨p, snprintfS 1024 item.arg1⟩ : SnmpOid) ∈
      trace.calls.flatMap MultiCall.group := by
    rw [hpassed]
    exact mem_snmpOids.2 ⟨hp, snmpOidAt_eq_some.2 ⟨item, hitem, haction, rfl⟩⟩
  obtain ⟨call, hcall, hoid⟩ := List.mem_flatMap.1 hmem
  obtain ⟨k, hk⟩ := List.mem_iff_getElem?.1 hcall
  obtain ⟨j, hj⟩ := List.mem_iff_getElem?.1 hoid
  refine ⟨k, j, call, hk, hj, ?_, h.stored k call hk j _ hj item hitem⟩
  intro k' j' call' oid hk' hj' hposition
  have hnodup := snmpOids_nodup items count
  rw [← hpassed] at hnodup
  exact Base.Batching.place_unique hnodup hk' hj' hk hj hposition

theorem TraceInv.other (h : TraceInv env items count trace) {p : Nat} {item : Target}
    (hitem : items[p]? = some item) (hsnmp : item.action ≠ .snmp)
    (hscript : item.isScript = false) : trace.loop.items[p]? = some item := by
  refine (h.rest p ?_ fun other _ hother => ?_).trans hitem
  · intro call hcall oid hoid heq
    obtain ⟨other, hother, haction, _⟩ :=
      snmpOidAt_eq_some.1 (mem_snmpOids.1 (h.mem_snmpOids_of_call hcall hoid)).2
    rw [heq] at hother
    cases hother.symm.trans hitem
    exact hsnmp haction
  · cases hother.symm.trans hitem
    exact hscript

theorem TraceInv.objects (h : TraceInv env items count trace) {call : MultiCall} {oid : SnmpOid}
    (hcall : call ∈ trace.calls) (hoid : oid ∈ call.group) :
    oid.position < count ∧ snmpOidAt items oid.position = some oid :=
  mem_snmpOids.1 (h.mem_snmpOids_of_call hcall hoid)

theorem traceFlush_session : (traceFlush env trace).loop.device.session =
    trace.loop.device.session :=
  (flushSnmpBatch_sameOpening env).session

theorem traceFlush_batch : (traceFlush env trace).loop.batch = [] := by
  show (flushSnmpBatch env trace.loop).batch = []
  by_cases hne : trace.loop.batch = []
  · rw [flushSnmpBatch_of_nil hne, hne]
  · exact (flushSnmpBatch_control env hne).batch

/-- The last flush completes the collection. -/
theorem Collecting.collected {rows : Nat} (h : Collecting env items rows trace)
    (hbound : rows ≤ items.length) (hresults : ∀ item ∈ items, item.result = undefinedText) :
    Collected env items (traceFlush env trace) rows := by
  cases h with
  | inl hinv =>
    have hflush := hinv.flush
    exact ⟨hbound, hflush.good, fun _ hcall _ hoid => hflush.objects hcall hoid,
      fun p hp item hitem haction => Or.inl (hflush.passedOnce traceFlush_batch hp hitem haction),
      hflush.scripts, fun _ _ => hflush.other, fun _ => hflush.item_of_le⟩
  | inr hended =>
    obtain ⟨last, lastItem, rfl, hlast, hlastAction, hsession, _, hinv⟩ := hended
    have hflush := hinv.flush
    refine ⟨hbound, hflush.good, ?_, ?_, ?_, fun _ _ => hflush.other, ?_⟩
    · intro call hcall oid hoid
      obtain ⟨hlt, hoidAt⟩ := hflush.objects hcall hoid
      exact ⟨by omega, hoidAt⟩
    · intro p hp item hitem haction
      rcases eq_or_ne p last with rfl | hne
      · refine Or.inr ⟨rfl, traceFlush_session.trans hsession, hflush.unpassed_of_le le_rfl,
          (hflush.item_of_le le_rfl).trans hitem, hresults item (List.mem_of_getElem? hitem)⟩
      · exact Or.inl (hflush.passedOnce traceFlush_batch (by omega) hitem haction)
    · intro p hp item hitem hscript
      refine hflush.scripts p (lt_of_le_of_ne (by omega) fun heq => ?_) item hitem hscript
      rw [heq] at hitem
      cases hitem.symm.trans hlast
      unfold Target.isScript at hscript
      rw [hlastAction] at hscript
      cases hscript
    · intro p hp
      exact hflush.item_of_le (by omega)

/-- A collection that returns leaves what the invariant says. -/
theorem traceCollect_collected {device : SnmpDevice} {rows : Nat} (hmax : 1 ≤ env.maxOids)
    (hresults : ∀ item ∈ items, item.result = undefinedText)
    (h : traceCollect env device items = some (trace, rows)) :
    Collected env items trace rows := by
  obtain ⟨⟨final, count⟩, hrun, hfinal⟩ := Option.map_eq_some_iff.1 h
  cases hfinal
  obtain ⟨hcollecting, hrows⟩ :=
    traceFrom_collecting hmax (Or.inl (traceInv_start env device items)) hrun
  exact hcollecting.collected (by omega) hresults

end Collected

/-- A collection passes each of its SNMP items to `snmp_get_multi` once, in a
group of at most `maxOids` objects, on a session that was opened for an item
with the same credentials, and stores the value at the item's own place.  The
one exception is an item that finds no session, and it ends the loop.  The
history is one of `collect_poll_items`, which returns unless a script ends the
process. -/
theorem collect_passes_each_once (env : ItemEnv) (device : SnmpDevice) (items : List Target)
    (hmax : 1 ≤ env.maxOids) (hresults : ∀ item ∈ items, item.result = undefinedText) :
    (traceCollect env device items).map (fun r => (r.1.loop, r.2)) =
        collectPollItems env device items ∧
      match traceCollect env device items with
      | some (trace, rows) => Collected env items trace rows
      | none => ∃ p item, items[p]? = some item ∧ item.action = .script ∧
          execPoll env.cfg (env.answers.script p) item.arg1 = .died := by
  refine ⟨traceCollect_erase env device items, ?_⟩
  cases hrun : traceCollect env device items with
  | none =>
    exact traceFrom_none hmax (Or.inl (traceInv_start env device items))
      (Option.map_eq_none_iff.1 hrun)
  | some result => exact traceCollect_collected hmax hresults hrun

/-- Sessions always open, and the agent answers every object with its number
in the group. -/
private def countingEnv : ItemEnv where
  cfg := .plain
  answers := ⟨fun _ => true, fun _ => ⟨decimal, false⟩,
    fun _ => ⟨fun _ => false, fun _ => false, false, .failed, none⟩,
    fun _ => ⟨0, -1, fun _ => ⟨false, 0, false, false, .failed, false, []⟩⟩, fun _ text => text⟩
  maxOids := 2
  spikeKill := false

private def portItem (port : Int) : Target :=
  ⟨undefinedText, 1, .snmp, lit "router", lit "traffic", lit ".1.3.6.1.2.1.2.2.1.10.1", [],
    ⟨lit "public", 2, [], [], [], [], [], [], [], port, 500⟩⟩

private def portItems : List Target := [portItem 161, portItem 161, portItem 161, portItem 1161]

/-- Three items with one port and one with another make three groups. -/
theorem collect_passes_ports :
    ((traceCollect countingEnv ⟨false, false⟩ portItems).map fun r =>
        (r.1.calls.map fun call => call.group.map SnmpOid.position, r.2)) =
      some ([[0, 1], [2], [3]], 4) ∧
    match traceCollect countingEnv ⟨false, false⟩ portItems with
    | some (trace, rows) => Collected countingEnv portItems trace rows
    | none => ∃ p item, portItems[p]? = some item ∧ item.action = .script ∧
        execPoll countingEnv.cfg (countingEnv.answers.script p) item.arg1 = .died :=
  ⟨by decide, (collect_passes_each_once countingEnv ⟨false, false⟩ portItems (by decide)
    (List.forall_mem_cons.2 ⟨rfl, List.forall_mem_cons.2 ⟨rfl, List.forall_mem_cons.2
      ⟨rfl, List.forall_mem_singleton.2 rfl⟩⟩⟩)).2⟩

/-! ## The variables -/

/-- What a collection sees of a call of `snmp_get_multi`. -/
def MultiRun.answer (run : MultiRun) : MultiAnswer :=
  ⟨fun j => run.results[j]?.getD [], run.ignoreHost⟩

/-- An item that was passed holds the variable of its own object, at whatever
place of the last request the object stood. -/
theorem PassedOnce.own_variable {env : ItemEnv} {trace : ItemTrace} {p : Nat} {item : Target}
    (h : PassedOnce env trace p item) :
    ∃ (k j : Nat) (call : MultiCall),
      trace.calls[k]? = some call ∧ call.group[j]? = some ⟨p, snprintfS 1024 item.arg1⟩ ∧
        ∀ (created : Bool) (replies : Nat → MultiReply) (oids : List MultiOid) (run : MultiRun),
          env.answers.multi k = run.answer → MultiAligned created replies oids run →
          ∀ (a i : Nat) (request : List Nat) (varBinds : List VarBind),
            run.sent[a]? = some request → (replies a).kind request = .values varBinds →
            request[i]? = some j →
            trace.loop.items[p]? =
              some { item with
                result := snmpResult env item call.ignored (varBindResult varBinds[i]?) } := by
  obtain ⟨k, j, call, hcall, hoid, _, hstored⟩ := h
  refine ⟨k, j, call, hcall, hoid, ?_⟩
  intro created replies oids run hanswer haligned a i request varBinds hsent hkind hplace
  have hvalue := haligned.exchanged.values a request varBinds hsent hkind i j hplace
  rw [hstored, hanswer]
  show some { item with result := snmpResult env item call.ignored (run.results[j]?.getD []) } = _
  rw [hvalue, Option.getD_some]

end Spine
