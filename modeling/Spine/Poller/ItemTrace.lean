import Mathlib.Data.List.Nodup
import Spine.Poller.Items

/-!
# The history of a collection

Which items does `collect_poll_items` pass to `snmp_get_multi`, in which
groups, and on which session?  The loop itself keeps no record of that, so
this module runs it with a history: every call of `snmp_get_multi` is written
down with its group and with the session that it uses.

* The history.  `traceCollect` is `collectPollItems` with the list of calls,
  and `traceCollect_erase` drops the history again.
* Results.  `snmpResult` and `scriptResult` are the texts that an item gets,
  as functions of its own answer.
* Stores.  A flush writes the items of its batch, each with the value of its
  own object, and no other item.
-/

namespace Spine

open Base.CString

/-! ## The history -/

/-- One call of `snmp_get_multi`: the group, the item for which the session was
opened, the number of that opening, whether there is a session, and whether
the device is ignored after the call. -/
structure MultiCall where
  group : List SnmpOid
  opener : Nat
  opening : Nat
  session : Bool
  ignored : Bool
  deriving DecidableEq, Repr

/-- The state of the loop, the item of the last opening, and the calls. -/
structure ItemTrace where
  loop : ItemLoop
  opener : Nat
  calls : List MultiCall

/-- The call that a flush makes. -/
def ItemTrace.call (env : ItemEnv) (trace : ItemTrace) : MultiCall where
  group := trace.loop.batch
  opener := trace.opener
  opening := trace.loop.opened - 1
  session := trace.loop.device.session
  ignored := trace.loop.device.ignoreHost || (env.answers.multi trace.loop.flushed).ignoreHost

def traceFlush (env : ItemEnv) (trace : ItemTrace) : ItemTrace where
  loop := flushSnmpBatch env trace.loop
  opener := trace.opener
  calls := if trace.loop.batch = [] then trace.calls else trace.calls ++ [trace.call env]

def traceOpen (env : ItemEnv) (trace : ItemTrace) (position : Nat) (profile : SnmpProfile) :
    ItemTrace where
  loop := openSnmpItem env trace.loop profile
  opener := position
  calls := trace.calls

/-- A batch that is full is flushed. -/
def traceRoom (env : ItemEnv) (trace : ItemTrace) : ItemTrace :=
  if env.maxOids ≤ trace.loop.batch.length then traceFlush env trace else trace

/-- The item goes to the end of the batch. -/
def tracePush (trace : ItemTrace) (position : Nat) (item : Target) : ItemTrace :=
  { trace with
    loop.batch := trace.loop.batch ++ [⟨position, snprintfS 1024 item.arg1⟩] }

def traceSnmpItem (env : ItemEnv) (trace : ItemTrace) (position : Nat) (item : Target) :
    ItemTrace :=
  let trace := if trace.loop.key.isNone then traceOpen env trace position item.snmp else trace
  if !trace.loop.device.session then { trace with loop.device.ignoreHost := true }
  else if trace.loop.key.any (snmpItemChanged · item.snmp) then
    tracePush (traceRoom env (traceOpen env (traceFlush env trace) position item.snmp)) position
      item
  else tracePush (traceRoom env trace) position item

/-- Items that are not polled by SNMP make no call. -/
def traceItem (env : ItemEnv) (trace : ItemTrace) (position : Nat) : Option ItemTrace :=
  match trace.loop.items[position]? with
  | none => some trace
  | some item =>
    if item.action = .snmp then some (traceSnmpItem env trace position item)
    else (pollItem env trace.loop position).map fun loop => { trace with loop := loop }

def traceFrom (env : ItemEnv) : Nat → Nat → ItemTrace → Option (ItemTrace × Nat)
  | 0, position, trace => some (trace, position)
  | left + 1, position, trace =>
    if trace.loop.device.ignoreHost then some (trace, position)
    else (traceItem env trace position).bind (traceFrom env left (position + 1))

/-- `collectPollItems` with its history. -/
def traceCollect (env : ItemEnv) (device : SnmpDevice) (items : List Target) :
    Option (ItemTrace × Nat) :=
  (traceFrom env items.length 0 ⟨.start device items, 0, []⟩).map fun r =>
    (traceFlush env r.1, r.2)

section Erase

variable (env : ItemEnv) (trace : ItemTrace)

theorem tracePush_loop (position : Nat) (item : Target) :
    (tracePush (traceRoom env trace) position item).loop =
      addSnmpItem env trace.loop position item := by
  unfold tracePush traceRoom addSnmpItem
  dsimp only
  split <;> rfl

theorem traceSnmpItem_loop (position : Nat) (item : Target) :
    (traceSnmpItem env trace position item).loop = pollSnmpItem env trace.loop position item := by
  have hopen : (if trace.loop.key.isNone then traceOpen env trace position item.snmp
      else trace).loop =
        if trace.loop.key.isNone then openSnmpItem env trace.loop item.snmp else trace.loop := by
    split <;> rfl
  unfold traceSnmpItem pollSnmpItem
  dsimp only
  rw [← hopen]
  generalize (if trace.loop.key.isNone then traceOpen env trace position item.snmp else trace) =
    opened
  split
  · rfl
  · split
    · exact tracePush_loop env _ position item
    · exact tracePush_loop env _ position item

theorem traceItem_loop (position : Nat) :
    (traceItem env trace position).map ItemTrace.loop = pollItem env trace.loop position := by
  unfold traceItem
  split
  · rename_i hnone
    unfold pollItem
    rw [hnone]
    rfl
  · rename_i item hitem
    split
    · rename_i haction
      unfold pollItem
      rw [hitem]
      dsimp only
      rw [haction, Option.map_some, traceSnmpItem_loop]
    · rw [Option.map_map]
      exact Option.map_id'

theorem traceFrom_loop (left position : Nat) :
    (traceFrom env left position trace).map (fun r => (r.1.loop, r.2)) =
      collectFrom env left position trace.loop := by
  induction left generalizing position trace with
  | zero => rfl
  | succ left ih =>
    rw [traceFrom, collectFrom]
    split
    · rfl
    · rw [← traceItem_loop, Option.map_bind, Option.bind_map]
      congr 1
      funext next
      exact ih next (position + 1)

end Erase

/-- Without its history, the run is the one of `collect_poll_items`. -/
theorem traceCollect_erase (env : ItemEnv) (device : SnmpDevice) (items : List Target) :
    (traceCollect env device items).map (fun r => (r.1.loop, r.2)) =
      collectPollItems env device items := by
  unfold traceCollect collectPollItems
  rw [← traceFrom_loop env ⟨.start device items, 0, []⟩, Option.map_map, Option.map_map]
  rfl

/-! ## Results -/

/-- The text that an SNMP item gets for the value of its object. -/
def snmpResult (env : ItemEnv) (item : Target) (ignored : Bool) (raw : Text) : Text :=
  let text := if ignored then undefinedText else (normalizeItem raw true).1
  let text :=
    if item.outputRegex ≠ [] then
      snprintfS RESULTS_BUFFER (env.answers.regexReplace item.outputRegex text)
    else text
  killSpike env.spikeKill (snprintfS RESULTS_BUFFER text)

/-- The text that the answer of a script leaves. -/
def scriptText (env : ItemEnv) (answer : Text) : Text :=
  killSpike env.spikeKill (normalizeItem (snprintfS RESULTS_BUFFER answer) false).1

/-- The text that a script item gets.  `none` is the end of the process. -/
def scriptResult (env : ItemEnv) (position : Nat) (item : Target) : Option Text :=
  if item.arg1 = [] then some undefinedText
  else if item.action = .phpScriptServer then
    some (scriptText env (phpCmd (env.answers.php position)))
  else
    match execPoll env.cfg (env.answers.script position) item.arg1 with
    | .died => none
    | .returned buffer _ _ => some (scriptText env buffer.text)

/-- The item is polled by a script. -/
def Target.isScript (item : Target) : Bool :=
  decide (item.action = .script) || decide (item.action = .phpScriptServer)

section Stores

variable {env : ItemEnv} {loop : ItemLoop} {answer : MultiAnswer}

theorem ItemLoop.store_getElem? (position : Nat) (result : Text) (isError : Bool) (p : Nat) :
    (loop.store position result isError).items[p]? =
      if position = p then loop.items[p]?.map fun item => { item with result := result }
      else loop.items[p]? := by
  show (loop.items.modify position _)[p]? = _
  rw [List.getElem?_modify]
  split
  · rfl
  · exact Option.map_id'

/-- What a store leaves as it was. -/
structure ItemLoop.SameControl (loop next : ItemLoop) : Prop where
  device : next.device = loop.device
  key : next.key = loop.key
  batch : next.batch = loop.batch
  opened : next.opened = loop.opened
  flushed : next.flushed = loop.flushed

theorem ItemLoop.SameControl.refl (loop : ItemLoop) : loop.SameControl loop :=
  ⟨rfl, rfl, rfl, rfl, rfl⟩

theorem ItemLoop.SameControl.trans {second third : ItemLoop} (h : loop.SameControl second)
    (h' : second.SameControl third) : loop.SameControl third :=
  ⟨h'.device.trans h.device, h'.key.trans h.key, h'.batch.trans h.batch,
    h'.opened.trans h.opened, h'.flushed.trans h.flushed⟩

theorem ItemLoop.store_sameControl (position : Nat) (result : Text) (isError : Bool) :
    loop.SameControl (loop.store position result isError) :=
  ⟨rfl, rfl, rfl, rfl, rfl⟩

theorem storeSnmpResult_sameControl (entry : SnmpOid × Nat) :
    loop.SameControl (storeSnmpResult env answer loop entry) :=
  ItemLoop.store_sameControl _ _ _

/-- One turn of `store_snmp_results` writes one item. -/
theorem storeSnmpResult_of_ne {entry : SnmpOid × Nat} {p : Nat} (h : entry.1.position ≠ p) :
    (storeSnmpResult env answer loop entry).items[p]? = loop.items[p]? :=
  (ItemLoop.store_getElem? _ _ _ p).trans (if_neg h)

theorem storeSnmpResult_self {entry : SnmpOid × Nat} {item : Target}
    (h : loop.items[entry.1.position]? = some item) :
    (storeSnmpResult env answer loop entry).items[entry.1.position]? =
      some { item with
        result := snmpResult env item loop.device.ignoreHost (answer.result entry.2) } := by
  unfold storeSnmpResult snmpResult
  rw [h]
  dsimp only
  rw [ItemLoop.store_getElem?, if_pos rfl, h, Option.map_some, Option.map_some, Option.getD_some]
  cases loop.device.ignoreHost <;> rfl

variable (env loop answer) in
theorem foldl_storeSnmpResult_sameControl (entries : List (SnmpOid × Nat)) :
    loop.SameControl (entries.foldl (storeSnmpResult env answer) loop) := by
  induction entries generalizing loop with
  | nil => exact .refl loop
  | cons entry entries ih =>
    rw [List.foldl_cons]
    exact (storeSnmpResult_sameControl entry).trans (ih _)

/-- The turns for other objects leave an item. -/
theorem foldl_storeSnmpResult_of_notMem {entries : List (SnmpOid × Nat)} {p : Nat}
    (h : ∀ entry ∈ entries, entry.1.position ≠ p) :
    (entries.foldl (storeSnmpResult env answer) loop).items[p]? = loop.items[p]? := by
  induction entries generalizing loop with
  | nil => rfl
  | cons entry entries ih =>
    rw [List.forall_mem_cons] at h
    rw [List.foldl_cons, ih h.2, storeSnmpResult_of_ne h.1]

/-- The one turn for an object decides about its item. -/
theorem foldl_storeSnmpResult_of_mem {entries : List (SnmpOid × Nat)} {entry : SnmpOid × Nat}
    {item : Target} (hnodup : (entries.map (·.1.position)).Nodup) (hmem : entry ∈ entries)
    (h : loop.items[entry.1.position]? = some item) :
    (entries.foldl (storeSnmpResult env answer) loop).items[entry.1.position]? =
      some { item with
        result := snmpResult env item loop.device.ignoreHost (answer.result entry.2) } := by
  induction entries generalizing loop with
  | nil => cases hmem
  | cons first entries ih =>
    rw [List.map_cons, List.nodup_cons] at hnodup
    rw [List.foldl_cons]
    cases List.mem_cons.1 hmem with
    | inl hfirst =>
      subst hfirst
      rw [foldl_storeSnmpResult_of_notMem, storeSnmpResult_self h]
      intro other hother heq
      exact hnodup.1 (heq ▸ List.mem_map_of_mem hother)
    | inr hrest =>
      have hne : first.1.position ≠ entry.1.position := fun heq =>
        hnodup.1 (heq ▸ List.mem_map_of_mem (f := fun e : SnmpOid × Nat => e.1.position) hrest)
      rw [ih hnodup.2 hrest ((storeSnmpResult_of_ne hne).trans h),
        (storeSnmpResult_sameControl first).device]

/-- The state in which the results of a flush are stored. -/
def ItemLoop.answered (env : ItemEnv) (loop : ItemLoop) : ItemLoop :=
  { loop with
    device.ignoreHost := loop.device.ignoreHost || (env.answers.multi loop.flushed).ignoreHost
    flushed := loop.flushed + 1 }

theorem flushSnmpBatch_of_ne (h : loop.batch ≠ []) :
    flushSnmpBatch env loop =
      { loop.batch.zipIdx.foldl (storeSnmpResult env (env.answers.multi loop.flushed))
          (loop.answered env) with
        batch := [] } := by
  unfold flushSnmpBatch
  rw [if_neg h]
  rfl

theorem flushSnmpBatch_of_nil (h : loop.batch = []) : flushSnmpBatch env loop = loop := by
  unfold flushSnmpBatch
  rw [if_pos h]

/-- After a flush the batch is empty and the control state is the one of the
call. -/
theorem flushSnmpBatch_control (env : ItemEnv) (h : loop.batch ≠ []) :
    { loop.answered env with batch := [] }.SameControl (flushSnmpBatch env loop) := by
  have hfold := foldl_storeSnmpResult_sameControl env (loop.answered env)
    (env.answers.multi loop.flushed) loop.batch.zipIdx
  rw [flushSnmpBatch_of_ne h]
  exact ⟨hfold.device, hfold.key, rfl, hfold.opened, hfold.flushed⟩

/-- What a flush and an item without SNMP leave as it was. -/
structure ItemLoop.SameOpening (loop next : ItemLoop) : Prop where
  session : next.device.session = loop.device.session
  key : next.key = loop.key
  opened : next.opened = loop.opened

theorem flushSnmpBatch_sameOpening (env : ItemEnv) :
    loop.SameOpening (flushSnmpBatch env loop) := by
  by_cases hne : loop.batch = []
  · rw [flushSnmpBatch_of_nil hne]
    exact ⟨rfl, rfl, rfl⟩
  · have hcontrol := flushSnmpBatch_control env hne
    refine ⟨?_, hcontrol.key, hcontrol.opened⟩
    rw [hcontrol.device]
    rfl

theorem flushSnmpBatch_of_notMem {p : Nat} (h : ∀ oid ∈ loop.batch, oid.position ≠ p) :
    (flushSnmpBatch env loop).items[p]? = loop.items[p]? := by
  by_cases hne : loop.batch = []
  · rw [flushSnmpBatch_of_nil hne]
  · rw [flushSnmpBatch_of_ne hne]
    refine foldl_storeSnmpResult_of_notMem fun entry hentry => ?_
    exact h entry.1 (List.fst_mem_of_mem_zipIdx hentry)

theorem flushSnmpBatch_of_mem {j : Nat} {oid : SnmpOid} {item : Target}
    (hnodup : (loop.batch.map SnmpOid.position).Nodup) (hoid : loop.batch[j]? = some oid)
    (h : loop.items[oid.position]? = some item) :
    (flushSnmpBatch env loop).items[oid.position]? =
      some { item with
        result := snmpResult env item
          (loop.device.ignoreHost || (env.answers.multi loop.flushed).ignoreHost)
          ((env.answers.multi loop.flushed).result j) } := by
  have hne : loop.batch ≠ [] := fun hnil => by simp [hnil] at hoid
  rw [flushSnmpBatch_of_ne hne]
  have hentries : loop.batch.zipIdx.map (fun entry => entry.1.position) =
      loop.batch.map SnmpOid.position := by
    have hfst := congrArg (List.map SnmpOid.position) (List.zipIdx_map_fst 0 loop.batch)
    rwa [List.map_map] at hfst
  have hmem : (oid, j) ∈ loop.batch.zipIdx := List.mk_mem_zipIdx_iff_getElem?.2 hoid
  exact foldl_storeSnmpResult_of_mem (hentries ▸ hnodup) hmem h

end Stores

end Spine
