import Spine.Base.Ledger
import Spine.Poller.ItemGroups
import Spine.Poller.ReindexPoll

/-!
# What `poll_host` acquires and releases

`poll_host` of `poller/poller.c` takes connections from the two pools, sends
three queries, and opens a session with the agent of the device and others for
its items.  `pollHost` is the log of what it acquires and releases on the way
to its return.  There are three groups.

* The device.  `load_poll_host` of `poller/poller.c`, with `host.c` and
  `availability.c`, opens the session of the device and says whether the
  device is ignored.
* The reindex rows and the items.  `poll_host_reindex` closes that session,
  unless the device is ignored.  `collect_poll_items` opens a session for each
  change of the credentials and closes the one before it.
* Sessions of the items.  `SessionInv` says that every session but the last is
  closed, and the loop keeps it.
-/

namespace Spine

open Base.CString Base.Ledger

/-! ## Resources -/

/-- The queries of `poll_host` that have a result. -/
inductive HostQuery where
  | device
  | reindex
  | items
  deriving DecidableEq, Repr

/-- What `poll_host` can hold.  The sessions of the items are numbered. -/
inductive HostResource where
  | connection (mode : DbMode) (entry : Nat)
  | result (query : HostQuery)
  | hostSession
  | itemSession (number : Nat)
  deriving DecidableEq, Repr

abbrev HostEvent := Event HostResource

/-- `snmp_host_init` with its answer. -/
def openSession (session : HostResource) (opened : Bool) : List HostEvent :=
  if opened then [.acquire session] else []

/-- `snmp_host_cleanup` of a session that is not `NULL`. -/
def closeSession (session : HostResource) (isOpen : Bool) : List HostEvent :=
  if isOpen then [.release session] else []

/-- A query whose result, if there is one, is freed. -/
def queryAndFree (query : HostQuery) (found : Bool) : List HostEvent :=
  if found then [.acquire (.result query), .release (.result query)] else []

/-! ## The device -/

/-- The `AVAIL_*` codes. -/
inductive AvailMethod where
  | none
  | snmpAndPing
  | snmp
  | ping
  | snmpOrPing
  | snmpGetSysDesc
  | snmpGetNext
  | stream
  | unknown (code : Int)
  deriving DecidableEq, Repr

/-- The row of a device as far as it is read here, and the answers to what is
done for it: whether a session opens, and whether the device answers to the
network and to SNMP. -/
structure HostRow where
  version : Int
  community : Text
  maxOids : Int
  method : AvailMethod
  opens : Bool
  network : Bool
  answersSnmp : Bool
  deriving DecidableEq, Repr

/-- `initialize_host_snmp`: whether there is a session afterwards. -/
def initializeHostSnmp (row : HostRow) : Bool :=
  (decide (1 ≤ row.version) && decide (row.version ≤ 2) && !row.community.isEmpty ||
    decide (row.version = 3)) && row.opens

/-- `ping_snmp`. -/
def pingSnmp (row : HostRow) (session : Bool) : Bool :=
  if !session then false
  else if row.community.isEmpty ∧ row.version ≠ 3 then true
  else row.answersSnmp

/-- `ping_snmp_availability`. -/
def pingSnmpAvailability (row : HostRow) (session pinged : Bool) : Bool :=
  if row.method = .snmpAndPing ∧ !pinged then false
  else if row.method = .snmpOrPing ∧ pinged then true
  else if row.community.isEmpty ∧ row.version < 3 then true
  else pingSnmp row session

/-- `ping_host`: whether the device is up. -/
def pingHost (row : HostRow) (session : Bool) : Bool :=
  match row.method with
  | .snmpAndPing => pingSnmpAvailability row session row.network
  | .snmpOrPing => pingSnmpAvailability row session row.network
  | .snmp => pingSnmpAvailability row session false
  | .snmpGetNext => pingSnmpAvailability row session false
  | .snmpGetSysDesc => pingSnmpAvailability row session false
  | .ping => row.network
  | .none => true
  | _ => false

/-- `refresh_host_availability`: whether the device is ignored afterwards.  The
requests for system information may fail, and they leave the device. -/
def refreshHostAvailability (row : HostRow) (session : Bool) : Bool :=
  if row.method = .snmp ∧ row.community.isEmpty ∧ row.version < 3 then false
  else if row.method = .stream then false
  else !pingHost row session

/-- The answer to the device query: no result, or the number of rows and the
row that `mysql_fetch_row` returns. -/
inductive HostAnswer where
  | failed
  | rows (count : Nat) (row : Option HostRow)
  deriving DecidableEq, Repr

/-- One call of `poll_host` with the answers that it gets: the entries of the
two pools, the rows of the three queries, and the answers to the items. -/
structure HostCall where
  env : ReindexEnv
  thread : Nat
  localEntry : Option Nat
  remoteEntry : Option Nat
  device : HostAnswer
  reindex : Option (List RowPoll)
  items : Option (List Target)
  answers : ItemAnswers

/-- What `load_poll_host` leaves of a device that is loaded. -/
structure LoadedHost where
  device : SnmpDevice
  maxOids : Int

/-- The bounds of `load_host_metadata`. -/
def boundMaxOids (maxOids : Int) : Int :=
  if maxOids = 0 ∨ 100 < maxOids then 5 else maxOids

/-- `load_poll_host`, with `none` for a device that failed or is missing.  The
result of a row that is `NULL` is not freed. -/
def loadPollHost (call : HostCall) : Option LoadedHost × List HostEvent :=
  if call.env.hostId = 0 then (some ⟨⟨false, false⟩, 1⟩, [])
  else
    match call.device with
    | .failed => (none, [])
    | .rows count row =>
      if count ≠ 1 then (none, queryAndFree .device true)
      else
        match row with
        | none => (some ⟨⟨false, true⟩, 0⟩, [.acquire (.result .device)])
        | some row =>
          let session := initializeHostSnmp row
          (some ⟨⟨session, refreshHostAvailability row session⟩, boundMaxOids row.maxOids⟩,
            queryAndFree .device true ++ openSession .hostSession session)

/-! ## Reindex rows and items -/

/-- `poll_host_reindex`. -/
def reindexEvents (call : HostCall) (device : SnmpDevice) : List HostEvent :=
  if device.ignoreHost ∨ call.env.hostId = 0 then []
  else
    let (loop, _) := reindexRows call.env call.thread (.start device) (call.reindex.getD [])
    queryAndFree .reindex call.reindex.isSome ++
      closeSession .hostSession loop.state.device.session

/-- The session that the device of the loop points to, if it is not `NULL`. -/
def currentSession (loop : ItemLoop) : HostResource :=
  if loop.opened = 0 then .hostSession else .itemSession (loop.opened - 1)

/-- `snmp_host_cleanup` of that session. -/
def closeCurrent (loop : ItemLoop) : List HostEvent :=
  closeSession (currentSession loop) loop.device.session

/-- `open_snmp_item`. -/
def openItemSession (env : ItemEnv) (loop : ItemLoop) : List HostEvent :=
  openSession (.itemSession loop.opened) (env.answers.openSession loop.opened)

/-- The part of `poll_snmp_item` after the first opening. -/
def changedItemEvents (env : ItemEnv) (loop : ItemLoop) (item : Target) : List HostEvent :=
  if !loop.device.session then []
  else if loop.key.any (snmpItemChanged · item.snmp) then
    let loop := flushSnmpBatch env loop
    closeCurrent loop ++ openItemSession env loop
  else []

/-- `poll_snmp_item`. -/
def snmpItemEvents (env : ItemEnv) (loop : ItemLoop) (item : Target) : List HostEvent :=
  if loop.key.isNone then
    openItemSession env loop ++ changedItemEvents env (openSnmpItem env loop item.snmp) item
  else changedItemEvents env loop item

/-- The body of the loop of `collect_poll_items`. -/
def itemEvents (env : ItemEnv) (loop : ItemLoop) (position : Nat) : List HostEvent :=
  match loop.items[position]? with
  | none => []
  | some item => if item.action = .snmp then snmpItemEvents env loop item else []

/-- The loop of `collect_poll_items`, along `collectFrom`. -/
def collectEvents (env : ItemEnv) : Nat → Nat → ItemLoop → List HostEvent
  | 0, _, _ => []
  | left + 1, position, loop =>
    if loop.device.ignoreHost then []
    else
      itemEvents env loop position ++
        ((pollItem env loop position).elim [] (collectEvents env left (position + 1)))

/-- `poll_host` from `select_poll_items` on.  `none` is the end of the process
in `exec_poll`.  Without rows the session stays as it is. -/
def pollHostItems (call : HostCall) (device : SnmpDevice) (maxOids : Int) (spikeKill : Bool) :
    Option (List HostEvent) :=
  match call.items with
  | none => some []
  | some [] => some (queryAndFree .items true)
  | some items =>
    let env : ItemEnv := ⟨call.env.cfg, call.answers,
      if maxOids ≤ 0 then 1 else maxOids.toNat, spikeKill⟩
    (collectPollItems env device items).map fun r =>
      queryAndFree .items true ++ collectEvents env items.length 0 (.start device items) ++
        closeCurrent r.1

/-- `poll_host` with a loaded device that is not only pinged. -/
def pollLoadedHost (call : HostCall) (host : LoadedHost) : Option (List HostEvent) :=
  let (loop, outcomes) := pollHostReindex call.env call.thread host.device call.reindex
  if .died ∈ outcomes then none
  else
    (pollHostItems call loop.state.device host.maxOids loop.spikeKill).map fun log =>
      reindexEvents call host.device ++ log

/-! ## `poll_host` -/

/-- The connections of a call, with `none` when one is missing. -/
def getConnections (call : HostCall) : Option (List HostResource) × List HostEvent :=
  match call.localEntry with
  | none => (none, [])
  | some entry =>
    let connection : HostResource := .connection .localDb entry
    if call.env.cfg.writesRemote then
      match call.remoteEntry with
      | none => (none, [.acquire connection, .release connection])
      | some remote =>
        let connections := [connection, .connection .remoteDb remote]
        (some connections, connections.map .acquire)
    else (some [connection], [.acquire connection])

/-- `release_poll_connections`. -/
def releasePollConnections (connections : List HostResource) : List HostEvent :=
  connections.map .release

/-- `poll_host` with its connections. -/
def pollConnectedHost (call : HostCall) : Option (List HostEvent) :=
  match loadPollHost call with
  | (none, log) => some log
  | (some host, log) =>
    if call.env.cfg.pingOnly then some (log ++ closeSession .hostSession host.device.session)
    else (pollLoadedHost call host).map (log ++ ·)

/-- `poll_host`.  `none` is the end of the process in `exec_poll`. -/
def pollHost (call : HostCall) : Option (List HostEvent) :=
  match getConnections call with
  | (none, log) => some log
  | (some connections, log) =>
    (pollConnectedHost call).map fun polled =>
      log ++ polled ++ releasePollConnections connections

/-! ## Sessions of the items -/

section Sessions

variable {env : ItemEnv} {loop next : ItemLoop} {log : List HostEvent}

/-- The log of a collection up to a state of the loop: the sessions before the
last one are released, and the last one is held as long as the device has it. -/
structure SessionInv (loop : ItemLoop) (log : List HostEvent) : Prop where
  key : loop.key = none ↔ loop.opened = 0
  fresh : loop.opened = 0 → loop.device.session = false
  past : ∀ n, n + 1 < loop.opened → ReleasedOnce (.itemSession n) log
  last : ∀ n, n + 1 = loop.opened →
    history (.itemSession n) log = openSession (.itemSession n) loop.device.session
  future : ∀ n, loop.opened ≤ n → history (.itemSession n) log = []
  items : ∀ e ∈ log, ∃ n, e.resource = .itemSession n

theorem SessionInv.congr (h : SessionInv loop log) (hsame : loop.SameOpening next) :
    SessionInv next log := by
  refine ⟨?_, ?_, ?_, ?_, ?_, h.items⟩
  · rw [hsame.key, hsame.opened]
    exact h.key
  · rw [hsame.opened, hsame.session]
    exact h.fresh
  · rw [hsame.opened]
    exact h.past
  · rw [hsame.opened, hsame.session]
    exact h.last
  · rw [hsame.opened]
    exact h.future

theorem history_openSession_of_ne {r session : HostResource} (hne : session ≠ r) (opened : Bool) :
    history r (openSession session opened) = [] := by
  cases opened with
  | false => rfl
  | true => exact history_cons_of_ne (e := .acquire session) hne []

theorem history_openSession_self (session : HostResource) (opened : Bool) :
    history session (openSession session opened) = openSession session opened := by
  cases opened with
  | false => rfl
  | true => exact history_cons_self (.acquire session) []

theorem history_closeSession_of_ne {r session : HostResource} (hne : session ≠ r) (isOpen : Bool) :
    history r (closeSession session isOpen) = [] := by
  cases isOpen with
  | false => rfl
  | true => exact history_cons_of_ne (e := .release session) hne []

theorem history_closeSession_self (session : HostResource) (isOpen : Bool) :
    history session (closeSession session isOpen) = closeSession session isOpen := by
  cases isOpen with
  | false => rfl
  | true => exact history_cons_self (.release session) []

theorem SessionInv.mem_closeCurrent (h : SessionInv loop log) {e : HostEvent}
    (he : e ∈ closeCurrent loop) : ∃ n, e.resource = .itemSession n := by
  unfold closeCurrent currentSession closeSession at he
  split at he
  · rename_i hopen
    have hpos : loop.opened ≠ 0 := fun hzero => by
      rw [h.fresh hzero] at hopen
      cases hopen
    rw [if_neg hpos, List.mem_singleton] at he
    exact ⟨loop.opened - 1, he ▸ rfl⟩
  · cases he

/-- Only the last session is closed. -/
theorem history_closeCurrent_of_ne {n : Nat} (hn : n + 1 ≠ loop.opened) :
    history (.itemSession n) (closeCurrent loop) = [] := by
  refine history_closeSession_of_ne ?_ _
  unfold currentSession
  split
  · exact HostResource.noConfusion
  · intro heq
    have hlast : loop.opened - 1 = n := HostResource.itemSession.inj heq
    omega

/-- Closing the session of the device releases all. -/
theorem SessionInv.closed (h : SessionInv loop log) (n : Nat) :
    ReleasedOnce (.itemSession n) (log ++ closeCurrent loop) := by
  by_cases hlast : n + 1 = loop.opened
  · have hcurrent : currentSession loop = .itemSession n := by
      unfold currentSession
      rw [if_neg (by omega), ← hlast, Nat.add_sub_cancel]
    unfold ReleasedOnce closeCurrent
    rw [hcurrent, history_append, h.last n hlast, history_closeSession_self]
    cases loop.device.session with
    | false => exact Or.inl rfl
    | true => exact Or.inr rfl
  · refine ReleasedOnce.append_nil ?_ (history_closeCurrent_of_ne hlast)
    by_cases hpast : n + 1 < loop.opened
    · exact h.past n hpast
    · exact releasedOnce_of_nil (h.future n (by omega))

/-- A session opens when all sessions before it are released. -/
theorem sessionInv_open (profile : SnmpProfile)
    (hpast : ∀ n, n < loop.opened → ReleasedOnce (.itemSession n) log)
    (hfuture : ∀ n, loop.opened ≤ n → history (.itemSession n) log = [])
    (hitems : ∀ e ∈ log, ∃ n, e.resource = .itemSession n) :
    SessionInv (openSnmpItem env loop profile) (log ++ openItemSession env loop) := by
  have hother : ∀ n, n ≠ loop.opened →
      history (.itemSession n) (openItemSession env loop) = [] := fun n hn =>
    history_openSession_of_ne (fun heq => hn (HostResource.itemSession.inj heq).symm) _
  refine ⟨?_, ?_, ?_, ?_, ?_, ?_⟩
  · exact iff_of_false (Option.some_ne_none profile) (Nat.succ_ne_zero loop.opened)
  · exact fun hzero => absurd hzero (Nat.succ_ne_zero loop.opened)
  · intro n hn
    have hlt : n < loop.opened := Nat.lt_of_succ_lt_succ hn
    exact (hpast n hlt).append_nil (hother n (Nat.ne_of_lt hlt))
  · intro n hn
    have heq : n = loop.opened := Nat.succ.inj hn
    rw [heq, history_append, hfuture _ (Nat.le_refl _)]
    exact history_openSession_self _ _
  · intro n hn
    have hlt : loop.opened < n := hn
    rw [history_append, hfuture n (Nat.le_of_lt hlt), hother n (Nat.ne_of_gt hlt)]
    rfl
  · intro e he
    rcases List.mem_append.1 he with hold | hnew
    · exact hitems e hold
    · unfold openItemSession openSession at hnew
      split at hnew
      · rw [List.mem_singleton] at hnew
        exact ⟨loop.opened, hnew ▸ rfl⟩
      · cases hnew

theorem SessionInv.first (h : SessionInv loop log) (env : ItemEnv) (profile : SnmpProfile)
    (hkey : loop.key = none) :
    SessionInv (openSnmpItem env loop profile) (log ++ openItemSession env loop) := by
  have hzero := h.key.1 hkey
  refine sessionInv_open profile (fun n hn => ?_) h.future h.items
  rw [hzero] at hn
  cases hn

theorem SessionInv.reopen (h : SessionInv loop log) (profile : SnmpProfile) :
    SessionInv (openSnmpItem env loop profile)
      (log ++ closeCurrent loop ++ openItemSession env loop) := by
  refine sessionInv_open profile (fun n _ => h.closed n) (fun n hn => ?_) fun e he => ?_
  · rw [history_append, h.future n hn, history_closeCurrent_of_ne (by omega)]
    rfl
  · rcases List.mem_append.1 he with hold | hnew
    · exact h.items e hold
    · exact h.mem_closeCurrent hnew

theorem addSnmpItem_sameOpening (position : Nat) (item : Target) :
    loop.SameOpening (addSnmpItem env loop position item) := by
  unfold addSnmpItem
  dsimp only
  split
  · have hflush : loop.SameOpening (flushSnmpBatch env loop) := flushSnmpBatch_sameOpening env
    exact ⟨hflush.session, hflush.key, hflush.opened⟩
  · exact ⟨rfl, rfl, rfl⟩

theorem SessionInv.changedItem (h : SessionInv loop log) (hkey : loop.key.isNone = false)
    (position : Nat) (item : Target) :
    SessionInv (pollSnmpItem env loop position item)
      (log ++ changedItemEvents env loop item) := by
  unfold pollSnmpItem changedItemEvents
  rw [hkey]
  dsimp only
  rw [if_neg Bool.false_ne_true]
  split
  · rw [List.append_nil]
    exact h.congr ⟨rfl, rfl, rfl⟩
  · split
    · have hflush := h.congr (flushSnmpBatch_sameOpening env)
      rw [← List.append_assoc]
      exact (hflush.reopen item.snmp).congr (addSnmpItem_sameOpening position item)
    · rw [List.append_nil]
      exact h.congr (addSnmpItem_sameOpening position item)

/-- The first SNMP item goes on like the others once its session is opened. -/
theorem pollSnmpItem_of_first (env : ItemEnv) (hkey : loop.key.isNone = true) (position : Nat)
    (item : Target) :
    pollSnmpItem env loop position item =
      pollSnmpItem env (openSnmpItem env loop item.snmp) position item := by
  have hopened : (openSnmpItem env loop item.snmp).key.isNone = false := rfl
  unfold pollSnmpItem
  rw [hkey, hopened]
  rfl

theorem SessionInv.snmpItem (h : SessionInv loop log) (position : Nat) (item : Target) :
    SessionInv (pollSnmpItem env loop position item) (log ++ snmpItemEvents env loop item) := by
  unfold snmpItemEvents
  cases hkey : loop.key.isNone with
  | false => exact h.changedItem hkey position item
  | true =>
    have hfirst := h.first env item.snmp (Option.isNone_iff_eq_none.1 hkey)
    rw [pollSnmpItem_of_first env hkey, if_pos rfl, ← List.append_assoc]
    exact hfirst.changedItem rfl position item

theorem SessionInv.item (h : SessionInv loop log) {position : Nat}
    (hpoll : pollItem env loop position = some next) :
    SessionInv next (log ++ itemEvents env loop position) := by
  unfold itemEvents
  cases hitem : loop.items[position]? with
  | none =>
    unfold pollItem at hpoll
    rw [hitem] at hpoll
    cases hpoll
    rwa [List.append_nil]
  | some item =>
    dsimp only
    by_cases hsnmp : item.action = .snmp
    · unfold pollItem at hpoll
      rw [hitem] at hpoll
      dsimp only at hpoll
      rw [hsnmp] at hpoll
      cases hpoll
      rw [if_pos hsnmp]
      exact h.snmpItem position item
    · rw [if_neg hsnmp, List.append_nil]
      cases hscript : item.isScript with
      | false =>
        rw [pollItem_of_other env hitem hsnmp hscript] at hpoll
        cases hpoll
        exact h
      | true =>
        have htext := pollItem_of_script env hitem hscript
        split at htext
        · rw [htext] at hpoll
          cases hpoll
        · obtain ⟨isError, hstored⟩ := htext
          rw [hstored] at hpoll
          cases hpoll
          exact h.congr ⟨rfl, rfl, rfl⟩

theorem SessionInv.collect {left position rows : Nat} (h : SessionInv loop log)
    (hcollect : collectFrom env left position loop = some (next, rows)) :
    SessionInv next (log ++ collectEvents env left position loop) := by
  induction left generalizing loop log position with
  | zero =>
    cases hcollect
    rw [collectEvents, List.append_nil]
    exact h
  | succ left ih =>
    rw [collectFrom] at hcollect
    rw [collectEvents]
    split at hcollect
    · rename_i hignored
      cases hcollect
      rw [if_pos hignored, List.append_nil]
      exact h
    · rename_i hpolled
      obtain ⟨after, hpoll, hrest⟩ := Option.bind_eq_some_iff.1 hcollect
      rw [if_neg hpolled, hpoll, ← List.append_assoc]
      exact ih (h.item hpoll) hrest

end Sessions

end Spine
