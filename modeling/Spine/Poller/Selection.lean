import Spine.Poller.Workers

/-!
# The items that the workers select

Every worker of a device runs the same item query with a LIMIT clause of its
own.  The window size comes from a count query that does not look at
`poller_id`, and with one worker it counts the due items even when the item
query selects all items.

The table is fixed here, so the database answers every count query in the
same way (`tableWorld`).  Then a device gets the workers that its record says
(`table_workers`), the windows of its workers are `Base.Window.windows`, and
`partition_cover_iff` says exactly when they cover the query without a LIMIT.
-/

namespace Spine

open Base.Window

/-! ## One table for the whole launch -/

/-- The database while the table does not change. -/
def tableWorld (table : List PollerItem) (clock : Nat → Nat) (starts : Nat → Bool) : World :=
  ⟨fun _ query => query.answer table, clock, starts⟩

/-- The rows that a worker selects.  A worker that dies selects nothing. -/
def workerRows (cfg : Config) (table : List PollerItem) (worker : PollerThread) :
    List PollerItem :=
  match pollerPrepareQueries cfg worker.hostId worker.hostThread worker.hostDataIds with
  | none => []
  | some queries => (selectPollItemsQuery cfg queries).rows table

/-- The rows of the due items query of a device without a LIMIT clause. -/
def dueRows (cfg : Config) (table : List PollerItem) (hostId : Int) : List PollerItem :=
  (pollerItemQuery cfg ⟨hostId, none, decide (cfg.activeProfiles ≠ 1)⟩).rows table

/-- The number of due items of a device, whoever polls them. -/
def dueCount (table : List PollerItem) (hostId : Int) : Nat :=
  table.countP fun row => decide (row.hostId = hostId) && row.due

section Selection

variable {cfg : Config} {table : List PollerItem} {hostId : Int}

/-- The total of a device counts every row that the item query selects. -/
theorem dueRows_length_le_total (cfg : Config) (table : List PollerItem) (hostId : Int) :
    (dueRows cfg table hostId).length ≤ (totalQuery cfg hostId).answer table := by
  show ((pollerItemQuery cfg ⟨hostId, none, _⟩).unlimited.rows table).length ≤ _
  rw [ItemQuery.unlimited_rows_length]
  refine List.countP_mono_left fun row _ hrow => ?_
  simp only [ItemQuery.selects, pollerItemQuery, Bool.and_eq_true] at hrow
  simp only [CountQuery.selects, totalQuery, Bool.and_eq_true]
  exact ⟨hrow.1.1, hrow.2⟩

/-- With several profiles the item query selects due items only. -/
theorem dueRows_length_le_dueCount (hprofiles : cfg.activeProfiles ≠ 1) (table : List PollerItem)
    (hostId : Int) : (dueRows cfg table hostId).length ≤ dueCount table hostId := by
  have htotal := dueRows_length_le_total cfg table hostId
  have heq : (totalQuery cfg hostId).answer table = dueCount table hostId := by
    rw [totalQuery, decide_eq_true hprofiles]
    rfl
  omega

theorem itemsQuery_one (cfg : Config) (table : List PollerItem) (hostId : Int) :
    (itemsQuery cfg hostId 1).answer table = dueCount table hostId := rfl

theorem itemsQuery_many {n : Nat} (hn : 1 < n) (cfg : Config) (table : List PollerItem)
    (hostId : Int) :
    (itemsQuery cfg hostId n).answer table = (totalQuery cfg hostId).answer table ⌈/⌉ n := by
  rw [itemsQuery, if_pos hn, CountQuery.answer, if_pos hn]
  rfl

/-- A worker with a window size reads its window, and one without reads all. -/
theorem workerRows_eq (hinterval : 0 < cfg.pollerInterval) {worker : PollerThread}
    (hthread : 1 ≤ worker.hostThread) :
    workerRows cfg table worker =
      if 0 < worker.hostDataIds then
        window worker.hostDataIds (worker.hostThread - 1) (dueRows cfg table worker.hostId)
      else dueRows cfg table worker.hostId := by
  unfold workerRows pollerPrepareQueries itemLimits
  by_cases hitems : 0 < worker.hostDataIds
  · rw [if_pos hitems, if_neg (by omega), if_pos hitems]
    show (selectPollItemsQuery cfg _).rows table = _
    rw [selectPollItemsQuery, if_neg (by omega)]
    rfl
  · rw [if_neg hitems, if_neg hitems]
    show (selectPollItemsQuery cfg _).rows table = _
    rw [selectPollItemsQuery, if_neg (by omega)]
    rfl

/-- The workers `1` to `n` of a device with a window size read `n` windows. -/
theorem flatMap_workerRows {L : List Launch} {device : PollerThread} {n : Nat}
    (hinterval : 0 < cfg.pollerInterval)
    (hthreads : L.map (fun l => l.worker.hostThread) = List.range' 1 n)
    (hworkers : ∀ l ∈ L, l.worker = { device with hostThread := l.worker.hostThread }) :
    L.flatMap (fun l => workerRows cfg table l.worker) =
      if 0 < device.hostDataIds then
        windows device.hostDataIds n (dueRows cfg table device.hostId)
      else (List.range n).flatMap fun _ => dueRows cfg table device.hostId := by
  have hrow : ∀ l ∈ L, workerRows cfg table l.worker =
      if 0 < device.hostDataIds then
        window device.hostDataIds (l.worker.hostThread - 1) (dueRows cfg table device.hostId)
      else dueRows cfg table device.hostId := by
    intro l hl
    have hmem : l.worker.hostThread ∈ List.range' 1 n :=
      hthreads ▸ List.mem_map_of_mem (f := fun l : Launch => l.worker.hostThread) hl
    rw [List.mem_range'_1] at hmem
    rw [workerRows_eq hinterval hmem.1, hworkers l hl]
  rw [List.flatMap_congr hrow]
  by_cases hitems : 0 < device.hostDataIds
  · simp only [if_pos hitems]
    rw [← List.flatMap_map (fun l : Launch => l.worker.hostThread)
      (fun i => window device.hostDataIds (i - 1) (dueRows cfg table device.hostId)), hthreads,
      List.range'_eq_map_range, List.flatMap_map]
    simp only [Nat.add_sub_cancel_left]
    rfl
  · simp only [if_neg hitems]
    rw [← List.flatMap_map (fun l : Launch => l.worker.hostThread)
      (fun _ => dueRows cfg table device.hostId), hthreads, List.range'_eq_map_range,
      List.flatMap_map]

end Selection

/-- While the table does not change, a device has the workers that its record
says, and the record follows from the table. -/
theorem table_workers {cfg : Config} (hping : cfg.pingOnly = false) (table : List PollerItem)
    (clock : Nat → Nat) (starts : Nat → Bool) (rows : List DeviceRow) {d : Nat} {hostId : Int}
    {requested : Nat} (hget : (deviceList cfg rows)[d]? = some (hostId, requested))
    (hd : d < (launchPollWorkers cfg (tableWorld table clock starts) rows).deviceCounter) :
    ∃ device : PollerThread,
      device.hostId = hostId ∧
      device.hostThreads = limitThreads requested (some ((totalQuery cfg hostId).answer table)) ∧
      device.hostDataIds = (itemsQuery cfg hostId device.hostThreads).answer table ∧
      ((launchPollWorkers cfg (tableWorld table clock starts) rows).launchesOf d).map
        (fun l => l.worker.hostThread) = List.range' 1 device.hostThreads ∧
      ∀ l ∈ (launchPollWorkers cfg (tableWorld table clock starts) rows).launchesOf d,
        l.worker = { device with hostThread := l.worker.hostThread } := by
  obtain ⟨device, k, _, _, hclosed, hplanned⟩ :=
    (launchPollWorkers_inv cfg (tableWorld table clock starts) rows).closed d hd
  obtain ⟨requested', total, hget', hhead, hlimit⟩ := hplanned.planned
  obtain ⟨rfl, rfl⟩ := Prod.mk.inj (Option.some.inj (hget.symm.trans hget'))
  have htotals : ∀ l ∈ (launchPollWorkers cfg (tableWorld table clock starts) rows).launchesOf d,
      l.total = some ((totalQuery cfg device.hostId).answer table) := by
    intro l hl
    obtain ⟨m, hm⟩ := hplanned.totals l hl
    rw [hping, if_neg (by decide)] at hm
    exact hm
  obtain ⟨first, hfirst, hfirstTotal⟩ := Option.map_eq_some_iff.1 hhead
  obtain rfl : total = some ((totalQuery cfg device.hostId).answer table) := by
    rw [← hfirstTotal]
    exact htotals first (List.mem_of_mem_head? hfirst)
  obtain ⟨m, hitems⟩ := hplanned.items
  refine ⟨device, rfl, hlimit, hitems, ?_, hplanned.workers⟩
  -- The one total is zero or not below the number that it gave.
  have hk : k = device.hostThreads := by
    refine hclosed.steady.2 fun l hl _ _ count hcount => ?_
    have hcount' := Option.some.inj (hcount.symm.trans (htotals l hl))
    rw [hlimit, hcount', limitThreads]
    split <;> omega
  rw [← hk]
  exact hclosed.threads

/-- The workers of a device together select every row of its due items query
once, exactly when the device asks for several threads, or several profiles
are active, or no item is due, or at least as many items of the device are due
as the query selects. -/
theorem partition_cover_iff (cfg : Config) (table : List PollerItem) (clock : Nat → Nat)
    (starts : Nat → Bool) (rows : List DeviceRow) (d : Nat) (hostId : Int) (requested : Nat)
    (hping : cfg.pingOnly = false) (hinterval : 0 < cfg.pollerInterval)
    (hget : (deviceList cfg rows)[d]? = some (hostId, requested))
    (hd : d < (launchPollWorkers cfg (tableWorld table clock starts) rows).deviceCounter) :
    (((launchPollWorkers cfg (tableWorld table clock starts) rows).launchesOf d).flatMap
        (fun l => workerRows cfg table l.worker)).Perm (dueRows cfg table hostId) ↔
      1 < requested ∨ cfg.activeProfiles ≠ 1 ∨ dueCount table hostId = 0 ∨
        (dueRows cfg table hostId).length ≤ dueCount table hostId := by
  obtain ⟨device, rfl, hthreads, hitems, hlaunches, hworkers⟩ :=
    table_workers hping table clock starts rows hget hd
  have hrequested : 1 ≤ requested :=
    deviceList_threads_pos cfg rows _ (List.mem_of_getElem? hget)
  have hpos : 1 ≤ device.hostThreads := hthreads ▸ limitThreads_pos hrequested _
  have hle : device.hostThreads ≤ requested := hthreads ▸ limitThreads_le hrequested _
  have htotal := dueRows_length_le_total cfg table device.hostId
  rw [flatMap_workerRows hinterval hlaunches hworkers]
  by_cases hmany : 1 < device.hostThreads
  · -- Several workers: their windows are cut from a total that covers the query.
    rw [itemsQuery_many hmany] at hitems
    refine iff_of_true ?_ (Or.inl (by omega))
    have hcover : (dueRows cfg table device.hostId).length ≤
        device.hostDataIds * device.hostThreads :=
      hitems ▸ length_le_ceilDiv_mul (by omega) htotal
    split
    · exact (windows_perm_iff _ _ _).2 hcover
    · rename_i hzero
      have hzero' : device.hostDataIds = 0 := by omega
      rw [hzero', Nat.zero_mul] at hcover
      exact (flatMap_const_perm_iff _ _).2
        (Or.inr (List.length_eq_zero_iff.1 (Nat.le_zero.1 hcover)))
  · -- One worker: its window has the size of the due count.
    have hone : device.hostThreads = 1 := by omega
    rw [hone, itemsQuery_one] at hitems
    rw [hone, hitems]
    split
    · rename_i hdue
      rw [windows_perm_iff, Nat.mul_one]
      constructor
      · intro h
        exact Or.inr (Or.inr (Or.inr h))
      · intro h
        rcases h with h | h | h | h
        · -- The total was one, so the query selects at most one row.
          rw [hone, limitThreads] at hthreads
          split at hthreads <;> omega
        · exact dueRows_length_le_dueCount h table device.hostId
        · omega
        · exact h
    · rename_i hdue
      exact iff_of_true ((flatMap_const_perm_iff 1 _).2 (Or.inl rfl))
        (Or.inr (Or.inr (Or.inl (by omega))))

/-- Two items of device 7, of which one is due. -/
private def oneOfTwoDue : List PollerItem :=
  [⟨1, [], 7, 1, 300, 0, 161⟩, ⟨2, [], 7, 1, 600, 300, 161⟩]

/-- Two workers share the two items. -/
theorem partition_cover_two_threads :
    (((launchPollWorkers Config.plain (tableWorld oneOfTwoDue (fun _ => 0) fun _ => true)
      [⟨some 7, some 2⟩]).launchesOf 0).flatMap
        (fun l => workerRows Config.plain oneOfTwoDue l.worker)).Perm
      (dueRows Config.plain oneOfTwoDue 7) :=
  (partition_cover_iff Config.plain oneOfTwoDue (fun _ => 0) (fun _ => true) [⟨some 7, some 2⟩] 0
    7 2 rfl (by decide) rfl (by decide)).2 (Or.inl (by decide))

/-- A single worker reads one of the two items that its query selects. -/
theorem partition_gap_one_thread :
    ¬ (((launchPollWorkers Config.plain (tableWorld oneOfTwoDue (fun _ => 0) fun _ => true)
      [⟨some 7, some 1⟩]).launchesOf 0).flatMap
        (fun l => workerRows Config.plain oneOfTwoDue l.worker)).Perm
      (dueRows Config.plain oneOfTwoDue 7) := by
  intro h
  exact absurd h.length_eq (by decide)

end Spine
