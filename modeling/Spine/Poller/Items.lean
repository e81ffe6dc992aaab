import Spine.Script.Protocol
import Spine.Snmp.Requests

/-!
# Collecting the items of a partition

`collect_poll_items` of `poller/items.c` polls the items of a partition in
order.  SNMP items gather in a batch, which is sent when it is full, when the
credentials change, and at the end.  A script item is polled at once.  The
loop stops at the first item that finds the device ignored.

The agent, the scripts and the script server are arguments.  `MultiAnswer` is
what one call of `snmp_get_multi` leaves: the result of each object of the
batch, and whether the device is ignored from then on.

Both paths end with the same step: when the counters of the device were
reset, a result that is one number is replaced by the mark of an unknown
value.  `collectPollItems_suppressed` carries that step through the whole
collection.
-/

namespace Spine

open Base.CString

/-! ## State and answers -/

/-- What one call of `snmp_get_multi` leaves. -/
structure MultiAnswer where
  result : Nat → Text
  ignoreHost : Bool

/-- The answers during a collection: each opening of a session and each batch
by its number, each script and script server call by the position of its item,
and the regular expressions. -/
structure ItemAnswers where
  openSession : Nat → Bool
  multi : Nat → MultiAnswer
  script : Nat → ScriptSystem
  php : Nat → PhpSystem
  regexReplace : Text → Text → Text

/-- `snmp_oids_t` before its request is sent. -/
structure SnmpOid where
  position : Nat
  oid : Text
  deriving DecidableEq, Repr

/-- The state of the loop.  The key of the batch is `none` until the first SNMP
item, and `errors` lists the items whose result was not valid. -/
structure ItemLoop where
  items : List Target
  device : SnmpDevice
  key : Option SnmpProfile
  batch : List SnmpOid
  opened : Nat
  flushed : Nat
  errors : List Int32

/-- What does not change during a collection. -/
structure ItemEnv where
  cfg : Config
  answers : ItemAnswers
  maxOids : Nat
  spikeKill : Bool

/-! ## Results -/

/-- A NaN takes the place of a number when the device was restarted.  A result
with a colon has several fields and stays. -/
def killSpike (spikeKill : Bool) (result : Text) : Text :=
  if !isUndefined result && spikeKill && !decide (58 ∈ result) then undefinedText else result

/-- The result of an item after `normalize_poll_result`, and whether the item
is recorded as an error. -/
def normalizeItem (result : Text) (snmp : Bool) : Text × Bool :=
  let (status, text) := normalizePollResult result snmp
  (if status = .invalid then undefinedText else text, decide (status ≠ .valid))

/-- Write the result of the item at a position, and record its error. -/
def ItemLoop.store (loop : ItemLoop) (position : Nat) (result : Text) (isError : Bool) : ItemLoop :=
  { loop with
    items := loop.items.modify position fun item => { item with result := result }
    errors :=
      if isError then loop.errors ++ (loop.items[position]?.map (·.localDataId)).toList
      else loop.errors }

/-- One turn of `store_snmp_results`, for the object with the number `j`. -/
def storeSnmpResult (env : ItemEnv) (answer : MultiAnswer) (loop : ItemLoop)
    (entry : SnmpOid × Nat) : ItemLoop :=
  let (text, isError) :=
    if loop.device.ignoreHost then (undefinedText, false)
    else normalizeItem (answer.result entry.2) true
  let regex := (loop.items[entry.1.position]?.map (·.outputRegex)).getD []
  let text :=
    if regex ≠ [] then snprintfS RESULTS_BUFFER (env.answers.regexReplace regex text) else text
  loop.store entry.1.position (killSpike env.spikeKill (snprintfS RESULTS_BUFFER text)) isError

/-- `flush_snmp_batch`. -/
def flushSnmpBatch (env : ItemEnv) (loop : ItemLoop) : ItemLoop :=
  if loop.batch = [] then loop
  else
    let answer := env.answers.multi loop.flushed
    let loop :=
      { loop with
        device.ignoreHost := loop.device.ignoreHost || answer.ignoreHost
        flushed := loop.flushed + 1 }
    { loop.batch.zipIdx.foldl (storeSnmpResult env answer) loop with batch := [] }

/-! ## One item -/

/-- `snmp_item_changed`. -/
def snmpItemChanged (key profile : SnmpProfile) : Bool :=
  decide (key.port ≠ profile.port) || decide (key.version ≠ profile.version) ||
    (decide (profile.version < 3) && decide (key.community ≠ profile.community)) ||
    (decide (2 < profile.version) &&
      (decide (key.username ≠ profile.username) || decide (key.password ≠ profile.password) ||
        decide (key.authProtocol ≠ profile.authProtocol) ||
        decide (key.privPassphrase ≠ profile.privPassphrase) ||
        decide (key.privProtocol ≠ profile.privProtocol) ||
        decide (key.context ≠ profile.context) || decide (key.engineId ≠ profile.engineId)))

/-- `open_snmp_item` and `remember_snmp_item`. -/
def openSnmpItem (env : ItemEnv) (loop : ItemLoop) (profile : SnmpProfile) : ItemLoop :=
  { loop with
    device.session := env.answers.openSession loop.opened
    opened := loop.opened + 1
    key := some profile }

/-- The part of `poll_snmp_item` that puts the item into the batch.  The array
of an object holds 1024 bytes. -/
def addSnmpItem (env : ItemEnv) (loop : ItemLoop) (position : Nat) (item : Target) : ItemLoop :=
  let loop := if env.maxOids ≤ loop.batch.length then flushSnmpBatch env loop else loop
  { loop with batch := loop.batch ++ [⟨position, snprintfS 1024 item.arg1⟩] }

/-- `poll_snmp_item`. -/
def pollSnmpItem (env : ItemEnv) (loop : ItemLoop) (position : Nat) (item : Target) : ItemLoop :=
  let loop := if loop.key.isNone then openSnmpItem env loop item.snmp else loop
  if !loop.device.session then { loop with device.ignoreHost := true }
  else if loop.key.any (snmpItemChanged · item.snmp) then
    addSnmpItem env (openSnmpItem env (flushSnmpBatch env loop) item.snmp) position item
  else addSnmpItem env loop position item

/-- The end of `poll_script_item`, with the answer of the script. -/
def storeScriptResult (env : ItemEnv) (loop : ItemLoop) (position : Nat) (answer : Text) :
    ItemLoop :=
  let (text, isError) := normalizeItem (snprintfS RESULTS_BUFFER answer) false
  loop.store position (killSpike env.spikeKill text) isError

/-- `poll_script_item`.  `none` is the end of the process in `exec_poll`. -/
def pollScriptItem (env : ItemEnv) (loop : ItemLoop) (position : Nat) (item : Target)
    (scriptServer : Bool) : Option ItemLoop :=
  if item.arg1 = [] then some (loop.store position undefinedText false)
  else if scriptServer then
    some (storeScriptResult env loop position (phpCmd (env.answers.php position)))
  else
    match execPoll env.cfg (env.answers.script position) item.arg1 with
    | .died => none
    | .returned buffer _ _ => some (storeScriptResult env loop position buffer.text)

/-- The body of the loop of `collect_poll_items`. -/
def pollItem (env : ItemEnv) (loop : ItemLoop) (position : Nat) : Option ItemLoop :=
  match loop.items[position]? with
  | none => some loop
  | some item =>
    match item.action with
    | .snmp => some (pollSnmpItem env loop position item)
    | .script => pollScriptItem env loop position item false
    | .phpScriptServer => pollScriptItem env loop position item true
    | _ => some loop

/-! ## The collection -/

/-- The loop over the items from a position on, and the number of rows that
were processed. -/
def collectFrom (env : ItemEnv) : Nat → Nat → ItemLoop → Option (ItemLoop × Nat)
  | 0, position, loop => some (loop, position)
  | left + 1, position, loop =>
    if loop.device.ignoreHost then some (loop, position)
    else (pollItem env loop position).bind (collectFrom env left (position + 1))

/-- The state before the first item. -/
def ItemLoop.start (device : SnmpDevice) (items : List Target) : ItemLoop :=
  ⟨items, device, none, [], 0, 0, []⟩

/-- `collect_poll_items`: the state at its end and the number of rows that were
processed. -/
def collectPollItems (env : ItemEnv) (device : SnmpDevice) (items : List Target) :
    Option (ItemLoop × Nat) :=
  (collectFrom env items.length 0 (.start device items)).map fun r =>
    (flushSnmpBatch env r.1, r.2)

/-! ## Suppressed results -/

/-- A result without a number that stands alone. -/
def Suppressed (result : Text) : Prop := result = undefinedText ∨ (58 : UInt8) ∈ result

theorem killSpike_suppressed (result : Text) : Suppressed (killSpike true result) := by
  unfold killSpike
  by_cases hundefined : isUndefined result = true
  · rw [if_neg (by simp [hundefined])]
    exact Or.inl (isUndefined_iff.1 hundefined)
  by_cases hcolon : (58 : UInt8) ∈ result
  · rw [if_neg (by simp [hcolon])]
    exact Or.inr hcolon
  · rw [if_pos (by simp [hundefined, hcolon])]
    exact Or.inl rfl

/-- Every result of the partition is suppressed. -/
def ItemLoop.Suppressed (loop : ItemLoop) : Prop :=
  ∀ item ∈ loop.items, Spine.Suppressed item.result

section Collection

variable {env : ItemEnv} {loop : ItemLoop}

theorem ItemLoop.Suppressed.store (h : loop.Suppressed) {result : Text}
    (hresult : Spine.Suppressed result) (position : Nat) (isError : Bool) :
    (loop.store position result isError).Suppressed := by
  intro item hitem
  obtain ⟨i, hi, rfl⟩ := List.mem_iff_getElem.1 hitem
  simp only [ItemLoop.store, List.getElem_modify]
  split
  · exact hresult
  · exact h _ (List.getElem_mem _)

variable (hspike : env.spikeKill = true)

include hspike

theorem storeSnmpResult_suppressed (answer : MultiAnswer) (entry : SnmpOid × Nat)
    (h : loop.Suppressed) : (storeSnmpResult env answer loop entry).Suppressed := by
  unfold storeSnmpResult
  rw [hspike]
  exact h.store (killSpike_suppressed _) _ _

theorem foldl_storeSnmpResult_suppressed (answer : MultiAnswer) (entries : List (SnmpOid × Nat))
    (h : loop.Suppressed) : (entries.foldl (storeSnmpResult env answer) loop).Suppressed := by
  induction entries generalizing loop with
  | nil => exact h
  | cons entry entries ih =>
    rw [List.foldl_cons]
    exact ih (storeSnmpResult_suppressed hspike answer entry h)

theorem flushSnmpBatch_suppressed (h : loop.Suppressed) : (flushSnmpBatch env loop).Suppressed := by
  unfold flushSnmpBatch
  split
  · exact h
  · exact foldl_storeSnmpResult_suppressed hspike _ _ h

theorem addSnmpItem_suppressed (position : Nat) (item : Target) (h : loop.Suppressed) :
    (addSnmpItem env loop position item).Suppressed := by
  unfold addSnmpItem
  dsimp only
  split
  · exact flushSnmpBatch_suppressed hspike h
  · exact h

theorem pollSnmpItem_suppressed (position : Nat) (item : Target) (h : loop.Suppressed) :
    (pollSnmpItem env loop position item).Suppressed := by
  have hopened :
      (if loop.key.isNone then openSnmpItem env loop item.snmp else loop).Suppressed := by
    split
    · exact h
    · exact h
  unfold pollSnmpItem
  dsimp only
  generalize (if loop.key.isNone then openSnmpItem env loop item.snmp else loop) = current
    at hopened ⊢
  split
  · exact hopened
  · split
    · apply addSnmpItem_suppressed hspike
      exact flushSnmpBatch_suppressed hspike hopened
    · exact addSnmpItem_suppressed hspike position item hopened

theorem storeScriptResult_suppressed (position : Nat) (answer : Text) (h : loop.Suppressed) :
    (storeScriptResult env loop position answer).Suppressed := by
  unfold storeScriptResult
  rw [hspike]
  exact h.store (killSpike_suppressed _) _ _

theorem pollScriptItem_suppressed {position : Nat} {item : Target} {scriptServer : Bool}
    {next : ItemLoop} (h : loop.Suppressed)
    (hnext : pollScriptItem env loop position item scriptServer = some next) :
    next.Suppressed := by
  unfold pollScriptItem at hnext
  split at hnext
  · cases hnext
    exact h.store (Or.inl rfl) _ _
  · split at hnext
    · cases hnext
      exact storeScriptResult_suppressed hspike position _ h
    · split at hnext
      · cases hnext
      · cases hnext
        exact storeScriptResult_suppressed hspike position _ h

/-- One item leaves every result suppressed. -/
theorem pollItem_suppressed {position : Nat} {next : ItemLoop} (h : loop.Suppressed)
    (hnext : pollItem env loop position = some next) : next.Suppressed := by
  unfold pollItem at hnext
  split at hnext
  · cases hnext
    exact h
  · split at hnext
    · cases hnext
      exact pollSnmpItem_suppressed hspike position _ h
    · exact pollScriptItem_suppressed hspike h hnext
    · exact pollScriptItem_suppressed hspike h hnext
    · cases hnext
      exact h

theorem collectFrom_suppressed {left position rows : Nat} {final : ItemLoop} (h : loop.Suppressed)
    (hfinal : collectFrom env left position loop = some (final, rows)) : final.Suppressed := by
  induction left generalizing position loop with
  | zero =>
    cases hfinal
    exact h
  | succ left ih =>
    rw [collectFrom] at hfinal
    split at hfinal
    · cases hfinal
      exact h
    · obtain ⟨next, hnext, hrest⟩ := Option.bind_eq_some_iff.1 hfinal
      exact ih (pollItem_suppressed hspike h hnext) hrest

/-- When the spike mark is set, the collection leaves no number that stands
alone. -/
theorem collectPollItems_suppressed {device : SnmpDevice} {items : List Target} {rows : Nat}
    {final : ItemLoop} (hitems : ∀ item ∈ items, item.result = undefinedText)
    (hfinal : collectPollItems env device items = some (final, rows)) : final.Suppressed := by
  obtain ⟨⟨last, processed⟩, hlast, hflush⟩ := Option.map_eq_some_iff.1 hfinal
  cases hflush
  apply flushSnmpBatch_suppressed hspike
  exact collectFrom_suppressed hspike (fun item hitem => Or.inl (hitems item hitem)) hlast

end Collection

end Spine
