import Spine.Poller.PollHost

/-!
# When `poll_host` releases everything

The log of `poll_host` is put together from the logs of its parts.  For each
part there is a structure that says which resources it can touch and which of
them it releases.

* The items, from `select_poll_items` on, are `ItemsLog`.
* The device after it is loaded is `RestLog`.  The reindex rows close its
  session, or the cleanup after the items does.
* The whole log.  Two things can be left.  The result of the device query stays
  when its row cannot be fetched.  The session of a device that is ignored
  stays when there are no items.
-/

namespace Spine

open Base.CString Base.Ledger

/-! ## The parts of the log -/

section Parts

variable {call : HostCall} {host : LoadedHost} {device : SnmpDevice} {log : List HostEvent}

/-- There are no items, or their query failed. -/
def HostCall.noItems (call : HostCall) : Bool :=
  match call.items with
  | none => true
  | some items => items.isEmpty

/-- The log of a collection and of the cleanup after it. -/
structure CollectLog (device : SnmpDevice) (log : List HostEvent) : Prop where
  sessions : ∀ n, ReleasedOnce (.itemSession n) log
  host : history .hostSession log = closeSession .hostSession device.session
  others : ∀ r, r ≠ .hostSession → (∀ n, r ≠ .itemSession n) → history r log = []

/-- A device without a session gets those of its items. -/
theorem collectLog_of_polled {env : ItemEnv} {items : List Target} {r : ItemLoop × Nat}
    (hsession : device.session = false) (h : collectPollItems env device items = some r) :
    CollectLog device
      (collectEvents env items.length 0 (.start device items) ++ closeCurrent r.1) := by
  obtain ⟨⟨final, rows⟩, hcollect, rfl⟩ := Option.map_eq_some_iff.1 h
  have hstart : SessionInv (.start device items) [] :=
    ⟨iff_of_true rfl rfl, fun _ => hsession, fun n _ => releasedOnce_of_nil rfl,
      fun n hn => absurd hn (Nat.succ_ne_zero n), fun _ _ => rfl, fun e he => by cases he⟩
  have hfinal := (hstart.collect hcollect).congr (flushSnmpBatch_sameOpening env)
  rw [List.nil_append] at hfinal
  have hothers : ∀ q, (∀ n, q ≠ HostResource.itemSession n) → history q
      (collectEvents env items.length 0 (.start device items) ++
        closeCurrent (flushSnmpBatch env final)) = [] := by
    intro q hq
    refine history_eq_nil fun e he heq => ?_
    rcases List.mem_append.1 he with hcollected | hclosed
    · obtain ⟨n, hn⟩ := hfinal.items e hcollected
      exact hq n (heq.symm.trans hn)
    · obtain ⟨n, hn⟩ := hfinal.mem_closeCurrent hclosed
      exact hq n (heq.symm.trans hn)
  refine ⟨hfinal.closed, ?_, fun q _ hq => hothers q hq⟩
  rw [hsession]
  exact hothers _ fun _ => HostResource.noConfusion

/-- An ignored device is not polled, and its session is closed. -/
theorem collectLog_of_ignored {env : ItemEnv} {item : Target} {items : List Target}
    {r : ItemLoop × Nat} (hignore : device.ignoreHost = true)
    (h : collectPollItems env device (item :: items) = some r) :
    CollectLog device (collectEvents env (item :: items).length 0 (.start device (item :: items)) ++
      closeCurrent r.1) := by
  have hloop : (ItemLoop.start device (item :: items)).device.ignoreHost = true := hignore
  unfold collectPollItems at h
  rw [List.length_cons, collectFrom, if_pos hloop] at h
  cases h
  rw [List.length_cons, collectEvents, if_pos hloop]
  refine ⟨fun n => ?_, history_closeSession_self _ _, fun q hq _ => ?_⟩
  · exact releasedOnce_of_nil (history_closeSession_of_ne HostResource.noConfusion _)
  · exact history_closeSession_of_ne hq.symm _

/-- The log from `select_poll_items` on. -/
structure ItemsLog (call : HostCall) (device : SnmpDevice) (log : List HostEvent) : Prop where
  result : ReleasedOnce (.result .items) log
  sessions : ∀ n, ReleasedOnce (.itemSession n) log
  host : history .hostSession log =
    if call.noItems then [] else closeSession .hostSession device.session
  others : ∀ r, r ≠ .result .items → r ≠ .hostSession → (∀ n, r ≠ .itemSession n) →
    history r log = []

theorem history_queryAndFree_of_ne {query : HostQuery} {r : HostResource} (h : r ≠ .result query)
    (found : Bool) : history r (queryAndFree query found) = [] := by
  cases found with
  | false => rfl
  | true =>
    have hacquire : history r [.acquire (.result query), .release (.result query)] =
        history r [.release (.result query)] := history_cons_of_ne (e := .acquire _) h.symm _
    exact hacquire.trans (history_cons_of_ne (e := .release _) h.symm [])

theorem releasedOnce_queryAndFree (query : HostQuery) (found : Bool) :
    ReleasedOnce (.result query) (queryAndFree query found) := by
  cases found with
  | false => exact Or.inl rfl
  | true =>
    have hrelease := history_cons_self (.release (HostResource.result query)) []
    have hacquire := history_cons_self (.acquire (HostResource.result query))
      [.release (.result query)]
    exact Or.inr (hacquire.trans (congrArg _ hrelease))

/-- A collection after its query. -/
theorem itemsLog_of_collected (hitems : call.noItems = false) (h : CollectLog device log) :
    ItemsLog call device (queryAndFree .items true ++ log) := by
  refine ⟨?_, fun n => ?_, ?_, fun q hq hhost hsessions => ?_⟩
  · refine (releasedOnce_queryAndFree .items true).append_nil ?_
    exact h.others _ HostResource.noConfusion fun _ => HostResource.noConfusion
  · exact (h.sessions n).nil_append (history_queryAndFree_of_ne HostResource.noConfusion true)
  · rw [history_append, history_queryAndFree_of_ne HostResource.noConfusion, hitems]
    exact h.host
  · rw [history_append, history_queryAndFree_of_ne hq, h.others q hhost hsessions]
    rfl

theorem pollHostItems_log {maxOids : Int} {spikeKill : Bool}
    (hdevice : device.ignoreHost = true ∨ device.session = false)
    (h : pollHostItems call device maxOids spikeKill = some log) : ItemsLog call device log := by
  unfold pollHostItems at h
  cases hitems : call.items with
  | none =>
    have hnone : call.noItems = true := by
      unfold HostCall.noItems
      rw [hitems]
    rw [hitems] at h
    cases h
    refine ⟨Or.inl rfl, fun _ => Or.inl rfl, ?_, fun _ _ _ _ => rfl⟩
    rw [hnone]
    rfl
  | some items =>
    rw [hitems] at h
    cases items with
    | nil =>
      have hnone : call.noItems = true := by
        unfold HostCall.noItems
        rw [hitems]
        rfl
      cases h
      refine ⟨releasedOnce_queryAndFree .items true, fun _ => Or.inl rfl, ?_, fun q hq _ _ => ?_⟩
      · rw [hnone]
        rfl
      · exact history_queryAndFree_of_ne hq true
    | cons item items =>
      have hsome : call.noItems = false := by
        unfold HostCall.noItems
        rw [hitems]
        rfl
      obtain ⟨r, hcollect, rfl⟩ := Option.map_eq_some_iff.1 h
      rw [List.append_assoc]
      refine itemsLog_of_collected hsome ?_
      rcases hdevice with hignore | hsession
      · exact collectLog_of_ignored hignore hcollect
      · exact collectLog_of_polled hsession hcollect

/-- `poll_host_reindex` closes the session of a device that is not ignored. -/
theorem history_reindexEvents_host (hzero : call.env.hostId = 0 → device.session = false) :
    history .hostSession (reindexEvents call device) =
      if device.ignoreHost then [] else closeSession .hostSession device.session := by
  unfold reindexEvents
  cases hignore : device.ignoreHost with
  | true => rw [if_pos (Or.inl rfl)]; rfl
  | false =>
    by_cases hid : call.env.hostId = 0
    · rw [if_pos (Or.inr hid), hzero hid]
      rfl
    · rw [if_neg (not_or.2 ⟨Bool.false_ne_true, hid⟩), history_append,
        history_queryAndFree_of_ne HostResource.noConfusion, reindexRows_session]
      exact history_closeSession_self _ _

theorem releasedOnce_reindexEvents (call : HostCall) (device : SnmpDevice) :
    ReleasedOnce (.result .reindex) (reindexEvents call device) := by
  unfold reindexEvents
  split
  · exact Or.inl rfl
  · refine (releasedOnce_queryAndFree .reindex _).append_nil ?_
    exact history_closeSession_of_ne HostResource.noConfusion _

theorem history_reindexEvents_of_ne {r : HostResource} (hresult : r ≠ .result .reindex)
    (hhost : r ≠ .hostSession) : history r (reindexEvents call device) = [] := by
  unfold reindexEvents
  split
  · rfl
  · rw [history_append, history_queryAndFree_of_ne hresult,
      history_closeSession_of_ne hhost.symm]
    rfl

/-- After the reindex rows a device is ignored or has no session. -/
theorem pollHostReindex_device (env : ReindexEnv) (thread : Nat) (device : SnmpDevice)
    (result : Option (List RowPoll)) (hzero : env.hostId = 0 → device.session = false) :
    let after := (pollHostReindex env thread device result).1.state.device
    (device.ignoreHost = true → after = device) ∧
      (device.ignoreHost = false → after.session = false) := by
  unfold pollHostReindex
  refine ⟨fun hignore => ?_, fun hignore => ?_⟩
  · rw [if_pos (Or.inl hignore)]
    rfl
  · by_cases hid : env.hostId = 0
    · rw [if_pos (Or.inr hid)]
      exact hzero hid
    · rw [if_neg (not_or.2 ⟨by rw [hignore]; exact Bool.false_ne_true, hid⟩)]

/-- The session of a device that is ignored is left when there are no items. -/
def HostCall.leavesSession (call : HostCall) (device : SnmpDevice) : Bool :=
  !call.env.cfg.pingOnly && device.ignoreHost && call.noItems

/-- What `poll_host` does with a loaded device. -/
structure RestLog (call : HostCall) (device : SnmpDevice) (log : List HostEvent) : Prop where
  reindex : ReleasedOnce (.result .reindex) log
  items : ReleasedOnce (.result .items) log
  sessions : ∀ n, ReleasedOnce (.itemSession n) log
  host : history .hostSession log =
    if call.leavesSession device then [] else closeSession .hostSession device.session
  device : history (.result .device) log = []
  connections : ∀ mode entry, history (.connection mode entry) log = []

theorem restLog_of_pingOnly (hping : call.env.cfg.pingOnly = true) :
    RestLog call device (closeSession .hostSession device.session) := by
  have hleaves : call.leavesSession device = false := by
    unfold HostCall.leavesSession
    rw [hping]
    rfl
  have hothers : ∀ r, r ≠ .hostSession →
      history r (closeSession .hostSession device.session) = [] := fun r hr =>
    history_closeSession_of_ne hr.symm _
  refine ⟨Or.inl (hothers _ HostResource.noConfusion), Or.inl (hothers _ HostResource.noConfusion),
    fun n => Or.inl (hothers _ HostResource.noConfusion), ?_,
    hothers _ HostResource.noConfusion, fun _ _ => hothers _ HostResource.noConfusion⟩
  rw [hleaves]
  exact history_closeSession_self _ _

theorem pollLoadedHost_log (hping : call.env.cfg.pingOnly = false)
    (hzero : call.env.hostId = 0 → host.device.session = false)
    (h : pollLoadedHost call host = some log) : RestLog call host.device log := by
  unfold pollLoadedHost at h
  dsimp only at h
  split at h
  · cases h
  obtain ⟨polled, hpolled, rfl⟩ := Option.map_eq_some_iff.1 h
  obtain ⟨hkept, hclosed⟩ :=
    pollHostReindex_device call.env call.thread host.device call.reindex hzero
  have hdevice : (pollHostReindex call.env call.thread host.device
        call.reindex).1.state.device.ignoreHost = true ∨
      (pollHostReindex call.env call.thread host.device
        call.reindex).1.state.device.session = false := by
    cases hignore : host.device.ignoreHost with
    | true => exact Or.inl ((congrArg _ (hkept hignore)).trans hignore)
    | false => exact Or.inr (hclosed hignore)
  have hitems := pollHostItems_log hdevice hpolled
  refine ⟨?_, ?_, fun n => ?_, ?_, ?_, fun mode entry => ?_⟩
  · refine (releasedOnce_reindexEvents call host.device).append_nil ?_
    exact hitems.others _ (by decide) HostResource.noConfusion fun _ => HostResource.noConfusion
  · refine hitems.result.nil_append ?_
    exact history_reindexEvents_of_ne (by decide) HostResource.noConfusion
  · refine (hitems.sessions n).nil_append ?_
    exact history_reindexEvents_of_ne HostResource.noConfusion HostResource.noConfusion
  · -- The reindex rows close the session, or the items do, or nobody does.
    rw [history_append, history_reindexEvents_host hzero, hitems.host]
    unfold HostCall.leavesSession
    rw [hping]
    cases hignore : host.device.ignoreHost with
    | true =>
      rw [hkept hignore]
      cases call.noItems <;> rfl
    | false =>
      rw [hclosed hignore]
      cases call.noItems <;> exact List.append_nil _
  · rw [history_append, history_reindexEvents_of_ne (by decide) HostResource.noConfusion]
    exact hitems.others _ (by decide) HostResource.noConfusion fun _ => HostResource.noConfusion
  · rw [history_append, history_reindexEvents_of_ne HostResource.noConfusion
      HostResource.noConfusion]
    exact hitems.others _ HostResource.noConfusion HostResource.noConfusion
      fun _ => HostResource.noConfusion

/-- What `load_poll_host` leaves of a loaded device. -/
structure LoadLog (device : SnmpDevice) (log : List HostEvent) : Prop where
  host : history .hostSession log = openSession .hostSession device.session
  others : ∀ r, r ≠ .result .device → r ≠ .hostSession → history r log = []

/-- Only the result of the device and its session can be left. -/
theorem balanced_loaded_iff {rest : List HostEvent} (hload : LoadLog device log)
    (hrest : RestLog call device rest) :
    Balanced (log ++ rest) ↔
      ReleasedOnce (.result .device) log ∧
        (call.leavesSession device = true → device.session = false) := by
  have hresult : ReleasedOnce (.result .device) (log ++ rest) ↔
      ReleasedOnce (.result .device) log := by
    unfold ReleasedOnce
    rw [history_append, hrest.device, List.append_nil]
  have hsession : ReleasedOnce .hostSession (log ++ rest) ↔
      (call.leavesSession device = true → device.session = false) := by
    have hhistory := history_append HostResource.hostSession log rest
    rw [hload.host, hrest.host] at hhistory
    cases hleaves : call.leavesSession device with
    | false =>
      rw [hleaves] at hhistory
      refine iff_of_true ?_ fun h => absurd h Bool.false_ne_true
      cases hopen : device.session with
      | false =>
        rw [hopen] at hhistory
        exact Or.inl hhistory
      | true =>
        rw [hopen] at hhistory
        exact Or.inr hhistory
    | true =>
      rw [hleaves, if_pos rfl, List.append_nil] at hhistory
      cases hopen : device.session with
      | false =>
        rw [hopen] at hhistory
        exact iff_of_true (Or.inl hhistory) fun _ => rfl
      | true =>
        rw [hopen] at hhistory
        exact iff_of_false (not_releasedOnce hhistory) fun h => Bool.noConfusion (h rfl)
  rw [← hresult, ← hsession]
  refine ⟨fun h => ⟨h _, h _⟩, fun h r => ?_⟩
  have hothers : ∀ r, r ≠ .result .device → r ≠ .hostSession → ReleasedOnce r rest →
      ReleasedOnce r (log ++ rest) :=
    fun r hr hr' hreleased => hreleased.nil_append (hload.others r hr hr')
  match r with
  | .hostSession => exact h.2
  | .result .device => exact h.1
  | .result .reindex => exact hothers _ (by decide) HostResource.noConfusion hrest.reindex
  | .result .items => exact hothers _ (by decide) HostResource.noConfusion hrest.items
  | .itemSession n =>
    exact hothers _ HostResource.noConfusion HostResource.noConfusion (hrest.sessions n)
  | .connection mode entry =>
    exact hothers _ HostResource.noConfusion HostResource.noConfusion
      (Or.inl (hrest.connections mode entry))

theorem pollConnectedHost_loaded {loaded : List HostEvent}
    (hload : loadPollHost call = (some host, loaded))
    (hzero : call.env.hostId = 0 → host.device.session = false)
    (h : pollConnectedHost call = some log) :
    ∃ rest, log = loaded ++ rest ∧ RestLog call host.device rest := by
  unfold pollConnectedHost at h
  rw [hload] at h
  dsimp only at h
  split at h
  · rename_i hping
    cases h
    exact ⟨_, rfl, restLog_of_pingOnly hping⟩
  · rename_i hping
    obtain ⟨rest, hrest, rfl⟩ := Option.map_eq_some_iff.1 h
    exact ⟨rest, rfl, pollLoadedHost_log (Bool.eq_false_iff.2 hping) hzero hrest⟩

/-- The result of the device query is left: it has one row, and the row cannot
be fetched. -/
def HostCall.KeepsResult (call : HostCall) : Prop :=
  call.env.hostId ≠ 0 ∧ call.device = .rows 1 none

/-- The session of the device is left: it was opened, the device is ignored,
and there are no items. -/
def HostCall.KeepsSession (call : HostCall) : Prop :=
  call.env.hostId ≠ 0 ∧ call.env.cfg.pingOnly = false ∧ call.noItems = true ∧
    ∃ row, call.device = .rows 1 (some row) ∧ initializeHostSnmp row = true ∧
      refreshHostAvailability row true = true

theorem loadLog_nil : LoadLog ⟨false, false⟩ [] := ⟨rfl, fun _ _ _ => rfl⟩

theorem loadLog_of_row (device : SnmpDevice) :
    LoadLog device (queryAndFree .device true ++ openSession .hostSession device.session) := by
  refine ⟨?_, fun r hr hr' => ?_⟩
  · rw [history_append, history_queryAndFree_of_ne HostResource.noConfusion]
    exact history_openSession_self _ _
  · rw [history_append, history_queryAndFree_of_ne hr, history_openSession_of_ne hr'.symm]
    rfl

theorem releasedOnce_loaded_row (session : Bool) :
    ReleasedOnce (.result .device)
      (queryAndFree .device true ++ openSession .hostSession session) :=
  (releasedOnce_queryAndFree .device true).append_nil
    (history_openSession_of_ne HostResource.noConfusion _)

theorem leavesSession_iff :
    call.leavesSession device = true ↔
      call.env.cfg.pingOnly = false ∧ device.ignoreHost = true ∧ call.noItems = true := by
  unfold HostCall.leavesSession
  simp [and_assoc]

/-- A device that is not loaded leaves nothing. -/
theorem balanced_unloaded {loaded : List HostEvent} (hload : loadPollHost call = (none, loaded)) :
    Balanced loaded ∧ (∀ mode entry, history (.connection mode entry) loaded = []) ∧
      ¬ call.KeepsResult ∧ ¬ call.KeepsSession := by
  unfold loadPollHost at hload
  split at hload
  · cases hload
  split at hload
  · rename_i hfailed
    cases hload
    refine ⟨fun _ => Or.inl rfl, fun _ _ => rfl, ?_, ?_⟩
    · rintro ⟨_, hrow⟩
      rw [hfailed] at hrow
      cases hrow
    · rintro ⟨_, _, _, row, hrow, _⟩
      rw [hfailed] at hrow
      cases hrow
  · rename_i count row hrows
    split at hload
    · rename_i hcount
      cases hload
      refine ⟨fun r => ?_, fun _ _ => rfl, ?_, ?_⟩
      · by_cases hr : r = .result .device
        · rw [hr]
          exact releasedOnce_queryAndFree .device true
        · exact Or.inl (history_queryAndFree_of_ne hr true)
      · rintro ⟨_, hrow⟩
        rw [hrows] at hrow
        cases hrow
        exact hcount rfl
      · rintro ⟨_, _, _, row', hrow, _⟩
        rw [hrows] at hrow
        cases hrow
        exact hcount rfl
    · split at hload <;> cases hload

/-- The three ways to load a device: there is none, its row cannot be fetched, or
it has a row. -/
theorem loadPollHost_cases {loaded : List HostEvent}
    (hload : loadPollHost call = (some host, loaded)) :
    (call.env.hostId = 0 ∧ host.device = ⟨false, false⟩ ∧ loaded = []) ∨
      (call.env.hostId ≠ 0 ∧ call.device = .rows 1 none ∧ host.device = ⟨false, true⟩ ∧
        loaded = [.acquire (.result .device)]) ∨
      call.env.hostId ≠ 0 ∧ ∃ row, call.device = .rows 1 (some row) ∧
        host.device = ⟨initializeHostSnmp row,
          refreshHostAvailability row (initializeHostSnmp row)⟩ ∧
        loaded = queryAndFree .device true ++ openSession .hostSession host.device.session := by
  unfold loadPollHost at hload
  split at hload
  · rename_i hid
    cases hload
    exact Or.inl ⟨hid, rfl, rfl⟩
  rename_i hid
  refine Or.inr ?_
  split at hload
  · cases hload
  rename_i count row hdevice
  split at hload
  · cases hload
  rename_i hcount
  rw [not_not.1 hcount] at hdevice
  split at hload
  · cases hload
    exact Or.inl ⟨hid, hdevice, rfl, rfl⟩
  · rename_i row
    cases hload
    exact Or.inr ⟨hid, row, hdevice, rfl, rfl⟩

/-- The session of a device with a row. -/
theorem leavesSession_iff_of_row {row : HostRow} (hid : call.env.hostId ≠ 0)
    (hrow : call.device = .rows 1 (some row))
    (hdevice : device = ⟨initializeHostSnmp row,
      refreshHostAvailability row (initializeHostSnmp row)⟩) :
    (call.leavesSession device = true → device.session = false) ↔ ¬ call.KeepsSession := by
  rw [leavesSession_iff, hdevice]
  constructor
  · rintro h ⟨_, hping, hitems, row', hrow', hopened, hignored⟩
    rw [hrow] at hrow'
    cases hrow'
    rw [hopened] at h
    exact Bool.noConfusion (h ⟨hping, hignored, hitems⟩)
  · rintro h ⟨hping, hignored, hitems⟩
    by_contra hopen
    have hopened : initializeHostSnmp row = true := Bool.eq_true_of_not_eq_false hopen
    rw [hopened] at hignored
    exact h ⟨hid, hping, hitems, row, hrow, hopened, hignored⟩

/-- The device that is loaded, and what can be left of it. -/
theorem loadPollHost_loaded {loaded : List HostEvent}
    (hload : loadPollHost call = (some host, loaded)) :
    (call.env.hostId = 0 → host.device.session = false) ∧ LoadLog host.device loaded ∧
      (ReleasedOnce (.result .device) loaded ↔ ¬ call.KeepsResult) ∧
      ((call.leavesSession host.device = true → host.device.session = false) ↔
        ¬ call.KeepsSession) := by
  rcases loadPollHost_cases hload with ⟨hid, hdevice, rfl⟩ | ⟨hid, hrow, hdevice, rfl⟩ |
    ⟨hid, row, hrow, hdevice, rfl⟩
  · rw [hdevice]
    exact ⟨fun _ => rfl, loadLog_nil, iff_of_true (Or.inl rfl) fun h => h.1 hid,
      iff_of_true (fun _ => rfl) fun h => h.1 hid⟩
  · rw [hdevice]
    refine ⟨fun _ => rfl, ⟨rfl, fun r hr _ => ?_⟩, iff_of_false ?_ ?_,
      iff_of_true (fun _ => rfl) ?_⟩
    · exact history_cons_of_ne (e := .acquire _) hr.symm []
    · exact not_releasedOnce rfl
    · exact not_not.2 ⟨hid, hrow⟩
    · rintro ⟨_, _, _, row, hrow', _⟩
      rw [hrow] at hrow'
      cases hrow'
  · refine ⟨fun h => absurd h hid, loadLog_of_row _, iff_of_true (releasedOnce_loaded_row _) ?_,
      leavesSession_iff_of_row hid hrow hdevice⟩
    rintro ⟨_, hrow'⟩
    rw [hrow] at hrow'
    cases hrow'

/-- With connections, nothing else can be left. -/
theorem pollConnectedHost_balanced_iff (h : pollConnectedHost call = some log) :
    (∀ mode entry, history (.connection mode entry) log = []) ∧
      (Balanced log ↔ ¬ call.KeepsResult ∧ ¬ call.KeepsSession) := by
  cases hload : loadPollHost call with
  | mk result loaded =>
    cases result with
    | none =>
      have hlog : log = loaded := by
        unfold pollConnectedHost at h
        rw [hload] at h
        exact (Option.some.inj h).symm
      obtain ⟨hbalanced, hconnections, hresult, hsession⟩ := balanced_unloaded hload
      rw [hlog]
      exact ⟨hconnections, iff_of_true hbalanced ⟨hresult, hsession⟩⟩
    | some host =>
      obtain ⟨hzero, hlog, hresult, hsession⟩ := loadPollHost_loaded hload
      obtain ⟨rest, rfl, hrest⟩ := pollConnectedHost_loaded hload hzero h
      refine ⟨fun mode entry => ?_, ?_⟩
      · rw [history_append, hlog.others _ HostResource.noConfusion HostResource.noConfusion]
        exact hrest.connections mode entry
      · rw [balanced_loaded_iff hlog hrest, hresult, hsession]

/-- The call gets the connections that it needs. -/
def HostCall.hasConnections (call : HostCall) : Bool :=
  call.localEntry.isSome && (!call.env.cfg.writesRemote || call.remoteEntry.isSome)

end Parts

/-- `poll_host` releases everything, once, unless the row of the device cannot be
fetched, or the device is ignored with an open session and has no items. -/
theorem pollHost_balanced_iff (call : HostCall) (log : List HostEvent)
    (h : pollHost call = some log) :
    Balanced log ↔
      (call.hasConnections = true → ¬ call.KeepsResult ∧ ¬ call.KeepsSession) := by
  unfold HostCall.hasConnections
  unfold pollHost getConnections at h
  cases hentry : call.localEntry with
  | none =>
    rw [hentry] at h
    cases h
    exact iff_of_true (fun _ => Or.inl rfl) fun hfalse => by cases hfalse
  | some entry =>
    rw [hentry] at h
    dsimp only at h
    cases hremote : call.env.cfg.writesRemote with
    | false =>
      rw [hremote] at h
      obtain ⟨polled, hpolled, rfl⟩ := Option.map_eq_some_iff.1 h
      obtain ⟨hconnections, hiff⟩ := pollConnectedHost_balanced_iff hpolled
      have haround := balanced_around_iff [.connection .localDb entry] polled
        (List.nodup_singleton _) (List.forall_mem_singleton.2 (hconnections _ _))
      exact haround.trans (hiff.trans ⟨fun hboth _ => hboth, fun hboth => hboth rfl⟩)
    | true =>
      rw [hremote] at h
      cases hmain : call.remoteEntry with
      | none =>
        rw [hmain] at h
        cases h
        refine iff_of_true (fun r => ?_) fun hfalse => by cases hfalse
        exact (balanced_around_iff [.connection .localDb entry] []
          (List.nodup_singleton _) fun _ _ => rfl).2 (fun _ => Or.inl rfl) r
      | some remote =>
        rw [hmain] at h
        obtain ⟨polled, hpolled, rfl⟩ := Option.map_eq_some_iff.1 h
        obtain ⟨hconnections, hiff⟩ := pollConnectedHost_balanced_iff hpolled
        have haround := balanced_around_iff
          [.connection .localDb entry, .connection .remoteDb remote] polled (by simp)
          (by simp [hconnections])
        exact haround.trans (hiff.trans ⟨fun hboth _ => hboth, fun hboth => hboth rfl⟩)

/-- A device that is polled by SNMP.  Sessions always open. -/
private def switchCall (device : HostAnswer) (items : List Target) : HostCall where
  env := ⟨.plain, fun text => text, 5, 5, false⟩
  thread := 1
  localEntry := some 0
  remoteEntry := none
  device := device
  reindex := some []
  items := some items
  answers := ⟨fun _ => true, fun _ => ⟨fun _ => undefinedText, false⟩,
    fun _ => ⟨fun _ => false, fun _ => false, false, .failed, none⟩,
    fun _ => ⟨0, -1, fun _ => ⟨false, 0, false, false, .failed, false, []⟩⟩, fun _ text => text⟩

private def switchRow (answersSnmp : Bool) : HostRow :=
  ⟨2, lit "public", 10, .snmp, true, false, answersSnmp⟩

private def switchItem (port : Int) : Target :=
  ⟨undefinedText, 1, .snmp, lit "switch", lit "traffic", lit ".1.3.6.1.2.1.2.2.1.10.1", [],
    ⟨lit "public", 2, [], [], [], [], [], [], [], port, 500⟩⟩

/-- Two items with different ports. -/
private def portsCall : HostCall :=
  switchCall (.rows 1 (some (switchRow true))) [switchItem 161, switchItem 1161]

/-- Each of the two items has a session of its own. -/
private def portsLog : List HostEvent :=
  [.acquire (.connection .localDb 0), .acquire (.result .device), .release (.result .device),
    .acquire .hostSession, .acquire (.result .reindex), .release (.result .reindex),
    .release .hostSession, .acquire (.result .items), .release (.result .items),
    .acquire (.itemSession 0), .release (.itemSession 0), .acquire (.itemSession 1),
    .release (.itemSession 1), .release (.connection .localDb 0)]

theorem pollHost_balanced_ports : pollHost portsCall = some portsLog ∧ Balanced portsLog := by
  have hrun : pollHost portsCall = some portsLog := rfl
  refine ⟨hrun, (pollHost_balanced_iff portsCall portsLog hrun).2 fun _ => ⟨?_, ?_⟩⟩
  · rintro ⟨_, hrow⟩
    cases hrow
  · rintro ⟨_, _, hitems, _⟩
    cases hitems

/-- The result of a row that cannot be fetched stays, and so does the session of
a device that does not answer and has no items. -/
theorem pollHost_leaves :
    (∃ log, pollHost (switchCall (.rows 1 none) []) = some log ∧
      history (.result .device) log = [.acquire (.result .device)] ∧ ¬ Balanced log) ∧
    ∃ log, pollHost (switchCall (.rows 1 (some (switchRow false))) []) = some log ∧
      history .hostSession log = [.acquire .hostSession] ∧ ¬ Balanced log :=
  ⟨⟨_, rfl, rfl, fun h => not_releasedOnce rfl (h (.result .device))⟩,
    ⟨_, rfl, rfl, fun h => not_releasedOnce rfl (h .hostSession)⟩⟩

end Spine
