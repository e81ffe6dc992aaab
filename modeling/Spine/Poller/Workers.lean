import Spine.Base.Window
import Spine.Database.CactiQuery
import Spine.Poller.Completion

/-!
# Launching the workers

`launch_poll_workers` of `poller/workers.c` goes through the devices and
starts the workers of each one.  Before every worker it counts the items of
the device again, and the count may lower the number of workers.  The record
of the device keeps the number that was in force at its first worker.

* The loop.  `launchStep` is one round of it and `launchPollWorkers` is the
  whole function, with enough fuel for every device list
  (`launchPollWorkers_done`).  `World` holds the answers of the database, the
  clock and the thread starts; the database may answer the same count query
  differently at two moments.
* The invariant.  `Segment` describes the workers of the device in progress
  and `Closed` the workers of a device that is done.  `LaunchInv` puts them
  together, and `launchStep_inv` is the step lemma.
* The workers of a device.  `launch_workers_iff` says when a device gets as
  many workers as its record says.

`Launch.total` is history: the count that was read before the worker.
-/

namespace Spine

open Base.Window

/-! ## The loop -/

/-- The count queries of `count_partition_items`. -/
structure CountQuery where
  hostId : Int
  divisor : Nat
  dueOnly : Bool
  deriving DecidableEq, Repr

/-- The WHERE condition, which does not look at `poller_id`. -/
def CountQuery.selects (query : CountQuery) (row : PollerItem) : Bool :=
  decide (row.hostId = query.hostId) && (!query.dueOnly || row.due)

/-- The answer of the database while the table is `table`. -/
def CountQuery.answer (query : CountQuery) (table : List PollerItem) : Nat :=
  if 1 < query.divisor then table.countP query.selects ⌈/⌉ query.divisor
  else table.countP query.selects

/-- What the loop cannot decide: the answer to a count query and the time at
each moment, and whether each `start_poll_worker` succeeds. -/
structure World where
  count : Nat → CountQuery → Nat
  clock : Nat → Nat
  starts : Nat → Bool

/-- `poller_partition_t`.  A time of `none` is not set yet. -/
structure PollerPartition where
  threads : Nat
  items : Nat
  time : Option Nat

/-- The total of a device that limits the number of its workers. -/
def totalQuery (cfg : Config) (hostId : Int) : CountQuery :=
  ⟨hostId, 1, decide (cfg.activeProfiles ≠ 1)⟩

/-- The count that becomes the window size of a device with `threads`
workers.  With one worker it counts the due items, whatever the profiles. -/
def itemsQuery (cfg : Config) (hostId : Int) (threads : Nat) : CountQuery :=
  if 1 < threads then ⟨hostId, threads, decide (cfg.activeProfiles ≠ 1)⟩ else ⟨hostId, 1, true⟩

/-- The number of workers after a total has been read; `none` is a poller that
only pings. -/
def limitThreads (threads : Nat) : Option Nat → Nat
  | none => 1
  | some total => if total ≠ 0 ∧ total < threads then total else threads

/-- The result of `prepare_device_partition`, with the moment after it and the
total that it read. -/
structure Prepared where
  partition : PollerPartition
  moment : Nat
  total : Option Nat

/-- `prepare_device_partition`. -/
def prepareDevicePartition (cfg : Config) (world : World) (hostId : Int) (currentThread : Nat)
    (moment : Nat) (p : PollerPartition) : Prepared :=
  let total := if cfg.pingOnly then none else some (world.count moment (totalQuery cfg hostId))
  let threads := limitThreads p.threads total
  let moment := moment + 1
  let now := some (world.clock moment)
  if 1 < threads then
    if currentThread = 1 then
      ⟨⟨threads, world.count moment (itemsQuery cfg hostId threads), now⟩, moment + 1, total⟩
    else if p.time = none then ⟨⟨threads, p.items, now⟩, moment, total⟩
    else ⟨⟨threads, p.items, p.time⟩, moment, total⟩
  else
    ⟨⟨threads, world.count moment (itemsQuery cfg hostId threads), now⟩, moment + 1, total⟩

/-- A row of the device list, with columns that may be `NULL`. -/
structure DeviceRow where
  id : Option Int
  deviceThreads : Option Int
  deriving DecidableEq, Repr

/-- A started worker: its copy of the device record, and the total read before
it. -/
structure Launch where
  worker : PollerThread
  total : Option Nat
  deriving DecidableEq, Repr

/-- The variables of `launch_poll_workers`. -/
structure LaunchState where
  rows : List DeviceRow
  partition : PollerPartition
  currentThread : Nat
  hostId : Int
  changeHost : Bool
  canexit : Bool
  deviceCounter : Nat
  details : Nat → Option PollerThread
  exitFailure : Bool
  moment : Nat
  attempts : Nat
  launches : List Launch

/-- The device and the thread of a round.  `none` is the end of the device
list, or a row with a `NULL`. -/
def pickThread (s : LaunchState) : Option LaunchState :=
  if s.changeHost then
    match s.rows with
    | ⟨some id, some deviceThreads⟩ :: rows =>
      let threads := if deviceThreads < 1 then 1 else deviceThreads.toNat
      some { s with rows := rows, hostId := id, currentThread := 1,
                    partition := { s.partition with threads := threads } }
    | _ => none
  else
    some { s with currentThread := s.currentThread + 1 }

/-- The record that a device gets at its first worker. -/
def newDevice (deviceCounter : Nat) (hostId : Int) (p : PollerPartition) : PollerThread where
  deviceCounter := deviceCounter
  hostId := hostId
  hostThread := p.threads
  hostThreads := p.threads
  hostDataIds := p.items
  hostTime := p.time.getD 0
  threadsComplete := 0
  complete := false
  outputFailed := false
  pollFailed := false

/-- The record of the device in a round: a new one for its first worker, and
the one in `details` for the others. -/
def roundDevice (s : LaunchState) (p : PollerPartition) : PollerThread :=
  if s.currentThread = 1 then newDevice s.deviceCounter s.hostId p
  else (s.details s.deviceCounter).getD (newDevice s.deviceCounter s.hostId p)

/-- The part of a round after the device and the thread are known. -/
def launchThread (cfg : Config) (world : World) (s : LaunchState) : LaunchState :=
  let prepared := prepareDevicePartition cfg world s.hostId s.currentThread s.moment s.partition
  let changeHost := decide (prepared.partition.threads ≤ s.currentThread)
  let device := roundDevice s prepared.partition
  let s' := { s with
    partition := prepared.partition
    moment := prepared.moment
    changeHost := changeHost
    details := Function.update s.details s.deviceCounter (some device)
    attempts := s.attempts + 1 }
  if world.starts s.attempts then
    { s' with
      launches := s.launches ++ [⟨{ device with hostThread := s.currentThread }, prepared.total⟩]
      deviceCounter := if changeHost then s.deviceCounter + 1 else s.deviceCounter }
  else
    { s' with canexit := true, exitFailure := true }

/-- One round of the loop. -/
def launchStep (cfg : Config) (world : World) (s : LaunchState) : LaunchState :=
  match pickThread s with
  | none => { s with canexit := true, exitFailure := true }
  | some s => launchThread cfg world s

/-- Poller 1 polls device 0 when there is one. -/
def Config.pollsDevice0 (cfg : Config) : Bool := decide (cfg.pollerId = 1) && cfg.hasDevice0

/-- `num_rows` as `prepare_worker_storage` computes it. -/
def numRows (cfg : Config) (rows : List DeviceRow) : Nat :=
  rows.length + if cfg.pollsDevice0 then 1 else 0

/-- The variables before the loop. -/
def startLaunch (cfg : Config) (rows : List DeviceRow) : LaunchState where
  rows := rows
  partition := ⟨1, 0, none⟩
  currentThread := 0
  hostId := 0
  changeHost := !cfg.pollsDevice0
  canexit := false
  deviceCounter := 0
  details := fun _ => none
  exitFailure := false
  moment := 0
  attempts := 0
  launches := []

/-- The loop condition fails. -/
def LaunchState.done (n : Nat) (s : LaunchState) : Bool :=
  s.canexit || decide (n ≤ s.deviceCounter)

def launchLoop (cfg : Config) (world : World) (n : Nat) : Nat → LaunchState → LaunchState
  | 0, s => s
  | fuel + 1, s => if s.done n then s else launchLoop cfg world n fuel (launchStep cfg world s)

/-- The threads that the rows of the device list ask for. -/
def rowThreads (row : DeviceRow) : Nat := max 1 (row.deviceThreads.getD 1).toNat

/-- The rounds that a device list can take: one for each thread asked for, one
for device 0, and the one that finds the list at its end. -/
def launchFuel (rows : List DeviceRow) : Nat := (rows.map rowThreads).sum + 2

/-- `launch_poll_workers`. -/
def launchPollWorkers (cfg : Config) (world : World) (rows : List DeviceRow) : LaunchState :=
  launchLoop cfg world (numRows cfg rows) (launchFuel rows) (startLaunch cfg rows)

/-- The workers that were started for a device. -/
def LaunchState.launchesOf (s : LaunchState) (d : Nat) : List Launch :=
  s.launches.filter fun l => decide (l.worker.deviceCounter = d)

/-- The devices of a list with the threads they ask for, up to the first row
with a `NULL`. -/
def rowDevices : List DeviceRow → List (Int × Nat)
  | ⟨some id, some deviceThreads⟩ :: rows =>
    (id, if deviceThreads < 1 then 1 else deviceThreads.toNat) :: rowDevices rows
  | _ => []

/-- The devices in the order in which they are launched. -/
def deviceList (cfg : Config) (rows : List DeviceRow) : List (Int × Nat) :=
  (if cfg.pollsDevice0 then [(0, 1)] else []) ++ rowDevices rows

/-! ## The number of workers -/

section Threads

variable {n k t : Nat} {L : List Launch} {l : Launch}

theorem limitThreads_pos {threads : Nat} (h : 1 ≤ threads) (total : Option Nat) :
    1 ≤ limitThreads threads total := by
  unfold limitThreads
  split
  · exact le_rfl
  · split <;> omega

/-- A total keeps the number at `n` exactly when it was `n` and the total is
zero or not below `n`. -/
theorem limitThreads_some_eq_iff (h : t ≤ n) (total : Nat) :
    limitThreads t (some total) = n ↔ t = n ∧ (total = 0 ∨ n ≤ total) := by
  rw [limitThreads]
  split <;> omega

theorem limitThreads_some_le (t total : Nat) : limitThreads t (some total) ≤ t := by
  rw [limitThreads]
  split <;> omega

/-- The total that was read before a worker does not lower the number `n`. -/
def Steady (n : Nat) (l : Launch) : Prop :=
  ∀ total, l.total = some total → total = 0 ∨ n ≤ total

/-- The workers `1` to `k` of a device in progress.  Its record says `n`, and
the number in force is now `t`. -/
structure Segment (n k t : Nat) (L : List Launch) : Prop where
  threads : L.map (fun l => l.worker.hostThread) = List.range' 1 k
  lt : k < t
  le : t ≤ n
  steady : t = n ↔ ∀ l ∈ L, 2 ≤ l.worker.hostThread → Steady n l

/-- The workers `1` to `k` of a device that is done.  A total that was read
before worker `n` came too late to matter. -/
structure Closed (n k : Nat) (L : List Launch) : Prop where
  threads : L.map (fun l => l.worker.hostThread) = List.range' 1 k
  le : k ≤ n
  steady : k = n ↔
    ∀ l ∈ L, 2 ≤ l.worker.hostThread → l.worker.hostThread < n → Steady n l

theorem hostThread_le_of_mem (h : L.map (fun l => l.worker.hostThread) = List.range' 1 k)
    (hl : l ∈ L) : l.worker.hostThread ≤ k := by
  have hmem : l.worker.hostThread ∈ List.range' 1 k :=
    h ▸ List.mem_map_of_mem (f := fun l : Launch => l.worker.hostThread) hl
  rw [List.mem_range'_1] at hmem
  omega

/-- A device that still has workers to come has had one. -/
theorem Segment.ne_nil (h : Segment n k t L) (hk : 1 ≤ k) : L ≠ [] := by
  intro hnil
  have hlength := congrArg List.length h.threads
  rw [hnil, List.map_nil, List.length_range', List.length_nil] at hlength
  omega

/-- The first worker of a device decides its record. -/
theorem Segment.first (hl : l.worker.hostThread = 1) (hn : 1 < n) : Segment n 1 n [l] where
  threads := by simp [hl]
  lt := hn
  le := le_rfl
  steady := by
    refine ⟨fun _ m hm h2 => ?_, fun _ => rfl⟩
    rw [List.mem_singleton.1 hm, hl] at h2
    omega

theorem Closed.first (hl : l.worker.hostThread = 1) (hn : n = 1) : Closed n 1 [l] where
  threads := by simp [hl]
  le := hn.ge
  steady := by
    refine ⟨fun _ m hm h2 => ?_, fun _ => hn.symm⟩
    rw [List.mem_singleton.1 hm, hl] at h2
    omega

theorem threads_append (hL : L.map (fun l => l.worker.hostThread) = List.range' 1 k)
    (hl : l.worker.hostThread = k + 1) :
    (L ++ [l]).map (fun l => l.worker.hostThread) = List.range' 1 (k + 1) := by
  rw [List.map_append, hL, List.map_singleton, hl, List.range'_concat]
  simp [Nat.add_comm]

/-- Every total was steady up to worker `k`, and so is the next one. -/
theorem steady_append_iff {p : Launch → Prop} :
    (∀ m ∈ L ++ [l], 2 ≤ m.worker.hostThread → p m) ↔
      (∀ m ∈ L, 2 ≤ m.worker.hostThread → p m) ∧ (2 ≤ l.worker.hostThread → p l) := by
  simp [or_imp, forall_and]

/-- One more worker while more are to come. -/
theorem Segment.next (h : Segment n k t L) (hk : 1 ≤ k) {total : Nat}
    (hl : l.worker.hostThread = k + 1) (htotal : l.total = some total)
    (hlt : k + 1 < limitThreads t (some total)) :
    Segment n (k + 1) (limitThreads t (some total)) (L ++ [l]) where
  threads := threads_append h.threads hl
  lt := hlt
  le := (limitThreads_some_le t total).trans h.le
  steady := by
    rw [limitThreads_some_eq_iff h.le, h.steady, steady_append_iff]
    refine and_congr Iff.rfl ?_
    simp only [Steady, htotal, Option.some.injEq, forall_eq', hl]
    exact ⟨fun hsteady _ => hsteady, fun hsteady => hsteady (by omega)⟩

/-- The last worker of a device. -/
theorem Segment.close (h : Segment n k t L) (hk : 1 ≤ k) {total : Nat}
    (hl : l.worker.hostThread = k + 1) (htotal : l.total = some total)
    (hle : limitThreads t (some total) ≤ k + 1) : Closed n (k + 1) (L ++ [l]) := by
  have hlt := h.lt
  have htn := h.le
  refine ⟨threads_append h.threads hl, by omega, ?_⟩
  constructor
  · intro hkn m hm h2 hmn
    have hmL : m ∈ L := by
      rw [List.mem_append, List.mem_singleton] at hm
      cases hm with
      | inl hm => exact hm
      | inr hm => rw [hm, hl] at hmn; omega
    exact h.steady.1 (by omega) m hmL h2
  · intro hsteady
    by_contra hne
    -- With fewer workers than `n` no total came too late, so the number never fell.
    have hbelow : ∀ m ∈ L ++ [l], m.worker.hostThread < n := by
      intro m hm
      have := hostThread_le_of_mem (threads_append h.threads hl) hm
      omega
    have hall : ∀ m ∈ L ++ [l], 2 ≤ m.worker.hostThread → Steady n m :=
      fun m hm h2 => hsteady m hm h2 (hbelow m hm)
    rw [steady_append_iff] at hall
    have hlast := hall.2 (by omega) total htotal
    have hlimit := (limitThreads_some_eq_iff h.le total).2 ⟨h.steady.2 hall.1, hlast⟩
    omega

end Threads

/-! ## The invariant of the loop -/

/-- The record of a device and its workers come from the answers of the
database: the first total gave the number of workers, the second count gave
the window size, and every worker has a copy of the record. -/
structure Planned (cfg : Config) (world : World) (devices : List (Int × Nat)) (d : Nat)
    (device : PollerThread) (L : List Launch) : Prop where
  counter : device.deviceCounter = d
  fresh : FreshDevice device.hostThreads device
  planned : ∃ requested total, devices[d]? = some (device.hostId, requested) ∧
    L.head?.map Launch.total = some total ∧ device.hostThreads = limitThreads requested total
  items : ∃ m, device.hostDataIds = world.count m (itemsQuery cfg device.hostId device.hostThreads)
  workers : ∀ l ∈ L, l.worker = { device with hostThread := l.worker.hostThread }
  totals : ∀ l ∈ L, ∃ m, l.total =
    if cfg.pingOnly then none else some (world.count m (totalQuery cfg device.hostId))

/-- Where the loop is: between two devices, before the first worker of device
0, or within a device. -/
inductive LaunchPhase (cfg : Config) (world : World) (devices : List (Int × Nat))
    (s : LaunchState) : Prop where
  | between (taken : List (Int × Nat)) (hchange : s.changeHost = true)
      (hdevices : devices = taken ++ rowDevices s.rows) (hlen : taken.length = s.deviceCounter)
      (hnone : s.launchesOf s.deviceCounter = [])
  | first (taken : List (Int × Nat)) (hchange : s.changeHost = false)
      (hdevices : devices = taken ++ rowDevices s.rows) (hlen : taken.length = s.deviceCounter + 1)
      (hnone : s.launchesOf s.deviceCounter = []) (hthread : s.currentThread = 0)
      (hget : devices[s.deviceCounter]? = some (s.hostId, s.partition.threads))
  | within (taken : List (Int × Nat)) (hchange : s.changeHost = false)
      (hdevices : devices = taken ++ rowDevices s.rows) (hlen : taken.length = s.deviceCounter + 1)
      (device : PollerThread) (hdetails : s.details s.deviceCounter = some device)
      (hhost : s.hostId = device.hostId) (hthread : 1 ≤ s.currentThread)
      (hping : cfg.pingOnly = false)
      (hsegment : Segment device.hostThreads s.currentThread s.partition.threads
        (s.launchesOf s.deviceCounter))
      (hplanned : Planned cfg world devices s.deviceCounter device (s.launchesOf s.deviceCounter))

/-- Device `d` is done: its workers agree with its record as far as the
totals allowed. -/
def DeviceClosed (cfg : Config) (world : World) (devices : List (Int × Nat)) (s : LaunchState)
    (d : Nat) : Prop :=
  ∃ device k, s.details d = some device ∧ 1 ≤ device.hostThreads ∧
    Closed device.hostThreads k (s.launchesOf d) ∧
    Planned cfg world devices d device (s.launchesOf d)

/-- The devices before the counter are closed, the workers belong to the
devices up to the counter, and the loop is in one of its phases until it has
to stop. -/
structure LaunchInv (cfg : Config) (world : World) (devices : List (Int × Nat))
    (s : LaunchState) : Prop where
  closed : ∀ d < s.deviceCounter, DeviceClosed cfg world devices s d
  counters : ∀ l ∈ s.launches, l.worker.deviceCounter ≤ s.deviceCounter
  phase : s.canexit = false → LaunchPhase cfg world devices s

section Invariant

variable {cfg : Config} {world : World} {devices : List (Int × Nat)} {s : LaunchState}

theorem rowDevices_threads_pos (rows : List DeviceRow) :
    ∀ device ∈ rowDevices rows, 1 ≤ device.2 := by
  induction rows with
  | nil => simp [rowDevices]
  | cons row rows ih =>
    intro device hdevice
    rw [rowDevices.eq_def] at hdevice
    split at hdevice
    · rename_i hrow
      obtain ⟨_, rfl⟩ := List.cons.inj hrow
      rw [List.mem_cons] at hdevice
      cases hdevice with
      | inl h =>
        rw [h]
        dsimp only
        split <;> omega
      | inr h => exact ih device h
    · cases hdevice

/-- Every device asks for at least one thread. -/
theorem deviceList_threads_pos (cfg : Config) (rows : List DeviceRow) :
    ∀ device ∈ deviceList cfg rows, 1 ≤ device.2 := by
  intro device hdevice
  rw [deviceList, List.mem_append] at hdevice
  cases hdevice with
  | inl h =>
    split at h
    · rw [List.mem_singleton.1 h]
    · cases h
  | inr h => exact rowDevices_threads_pos rows device h

/-- What `prepare_device_partition` leaves in the partition. -/
theorem prepareDevicePartition_spec (cfg : Config) (world : World) (hostId : Int)
    (currentThread moment : Nat) (p : PollerPartition) :
    let prepared := prepareDevicePartition cfg world hostId currentThread moment p
    prepared.total =
        (if cfg.pingOnly then none else some (world.count moment (totalQuery cfg hostId))) ∧
      prepared.partition.threads = limitThreads p.threads prepared.total ∧
      (currentThread = 1 → prepared.partition.items =
        world.count (moment + 1) (itemsQuery cfg hostId prepared.partition.threads)) := by
  simp only [prepareDevicePartition]
  generalize (if cfg.pingOnly then none
    else some (world.count moment (totalQuery cfg hostId))) = total
  split
  · split
    · exact ⟨rfl, rfl, fun _ => rfl⟩
    · rename_i hthread
      split
      · exact ⟨rfl, rfl, fun h => absurd h hthread⟩
      · exact ⟨rfl, rfl, fun h => absurd h hthread⟩
  · exact ⟨rfl, rfl, fun _ => rfl⟩

theorem launchesOf_append (s : LaunchState) (l : Launch) (d : Nat) :
    (s.launches ++ [l]).filter (fun m => decide (m.worker.deviceCounter = d)) =
      s.launchesOf d ++ if l.worker.deviceCounter = d then [l] else [] := by
  rw [List.filter_append, LaunchState.launchesOf]
  congr 1
  by_cases h : l.worker.deviceCounter = d <;> simp [h]

/-- The record that a round works with belongs to the device in progress. -/
theorem roundDevice_of_one (h : s.currentThread = 1) (p : PollerPartition) :
    roundDevice s p = newDevice s.deviceCounter s.hostId p := by
  rw [roundDevice, if_pos h]

theorem roundDevice_of_details {device : PollerThread} (h : s.currentThread ≠ 1)
    (hdetails : s.details s.deviceCounter = some device) (p : PollerPartition) :
    roundDevice s p = device := by
  rw [roundDevice, if_neg h, hdetails, Option.getD_some]

/-- A device that is done stays as it is while its record and its workers do. -/
theorem DeviceClosed.congr {s' : LaunchState} {d : Nat} (h : DeviceClosed cfg world devices s d)
    (hdetails : s'.details d = s.details d) (hlaunches : s'.launchesOf d = s.launchesOf d) :
    DeviceClosed cfg world devices s' d := by
  unfold DeviceClosed
  rw [hdetails, hlaunches]
  exact h

/-- A round whose thread does not start stops the loop, and it changes the
record of the device in progress only. -/
theorem launchThread_refused (cfg : Config) (hstart : world.starts s.attempts = false) :
    (launchThread cfg world s).canexit = true ∧
      (launchThread cfg world s).deviceCounter = s.deviceCounter ∧
      (launchThread cfg world s).launches = s.launches ∧
      ∀ d, d ≠ s.deviceCounter → (launchThread cfg world s).details d = s.details d := by
  simp only [launchThread, hstart, Bool.false_eq_true, if_false, true_and]
  intro d hd
  exact Function.update_of_ne hd _ _

/-- A round whose thread starts adds one worker to the device in progress. -/
theorem launchThread_started (cfg : Config) (hstart : world.starts s.attempts = true) :
    let prepared := prepareDevicePartition cfg world s.hostId s.currentThread s.moment s.partition
    let device := roundDevice s prepared.partition
    let s' := launchThread cfg world s
    (s'.rows = s.rows ∧ s'.hostId = s.hostId ∧ s'.currentThread = s.currentThread ∧
      s'.partition = prepared.partition) ∧
    s'.changeHost = decide (prepared.partition.threads ≤ s.currentThread) ∧
    s'.details s.deviceCounter = some device ∧
    (∀ d, d ≠ s.deviceCounter → s'.details d = s.details d) ∧
    s'.launches =
      s.launches ++ [⟨{ device with hostThread := s.currentThread }, prepared.total⟩] ∧
    s'.deviceCounter =
      if prepared.partition.threads ≤ s.currentThread then s.deviceCounter + 1
      else s.deviceCounter := by
  simp only [launchThread, hstart, if_true, decide_eq_true_eq, true_and, and_true]
  refine ⟨Function.update_self _ _ _, ?_⟩
  intro d hd
  exact Function.update_of_ne hd _ _

theorem launchThread_refused_inv
    (hclosed : ∀ d < s.deviceCounter, DeviceClosed cfg world devices s d)
    (hcounters : ∀ l ∈ s.launches, l.worker.deviceCounter ≤ s.deviceCounter)
    (hstart : world.starts s.attempts = false) :
    LaunchInv cfg world devices (launchThread cfg world s) := by
  obtain ⟨hexit, hcounter, hlaunches, hdetails⟩ := launchThread_refused cfg hstart
  refine ⟨?_, ?_, fun h => ?_⟩
  · intro d hd
    rw [hcounter] at hd
    refine (hclosed d hd).congr (hdetails d (by omega)) ?_
    rw [LaunchState.launchesOf, hlaunches, ← LaunchState.launchesOf]
  · rw [hlaunches, hcounter]
    exact hcounters
  · rw [hexit] at h
    cases h

/-- A round whose thread starts keeps the invariant when its worker closes the
device or leaves it a segment. -/
theorem launchThread_started_inv {taken : List (Int × Nat)} {device : PollerThread}
    {prepared : Prepared} {l : Launch}
    (hclosed : ∀ d < s.deviceCounter, DeviceClosed cfg world devices s d)
    (hcounters : ∀ l ∈ s.launches, l.worker.deviceCounter ≤ s.deviceCounter)
    (hstart : world.starts s.attempts = true) (hone : 1 ≤ s.currentThread)
    (hdevices : devices = taken ++ rowDevices s.rows) (hlen : taken.length = s.deviceCounter + 1)
    (hprepared : prepareDevicePartition cfg world s.hostId s.currentThread s.moment s.partition =
      prepared)
    (hdevice : roundDevice s prepared.partition = device)
    (hl : l = ⟨{ device with hostThread := s.currentThread }, prepared.total⟩)
    (hhost : s.hostId = device.hostId) (hpos : 1 ≤ device.hostThreads)
    (hplanned : Planned cfg world devices s.deviceCounter device
      (s.launchesOf s.deviceCounter ++ [l]))
    (hclose : prepared.partition.threads ≤ s.currentThread →
      Closed device.hostThreads s.currentThread (s.launchesOf s.deviceCounter ++ [l]))
    (hsegment : s.currentThread < prepared.partition.threads → cfg.pingOnly = false ∧
      Segment device.hostThreads s.currentThread prepared.partition.threads
        (s.launchesOf s.deviceCounter ++ [l])) :
    LaunchInv cfg world devices (launchThread cfg world s) := by
  obtain ⟨⟨hrows, hhostId, hthread, hpartition⟩, hchange, hdetails, hothers, hlaunches, hcounter⟩ :=
    launchThread_started cfg hstart
  rw [hprepared] at hpartition hchange hdetails hlaunches hcounter
  rw [hdevice] at hdetails hlaunches
  rw [← hl] at hlaunches
  generalize launchThread cfg world s = s' at *
  have hlCounter : l.worker.deviceCounter = s.deviceCounter := by
    rw [hl]
    exact hplanned.counter
  have hother : ∀ d, d ≠ s.deviceCounter → s'.launchesOf d = s.launchesOf d := by
    intro d hd
    rw [LaunchState.launchesOf, hlaunches, launchesOf_append, if_neg (by omega), List.append_nil]
  have hsame : s'.launchesOf s.deviceCounter = s.launchesOf s.deviceCounter ++ [l] := by
    rw [LaunchState.launchesOf, hlaunches, launchesOf_append, if_pos hlCounter]
  have hold : ∀ d < s.deviceCounter, DeviceClosed cfg world devices s' d := fun d hd =>
    (hclosed d hd).congr (hothers d (by omega)) (hother d (by omega))
  have hcounters' : ∀ m ∈ s'.launches, m.worker.deviceCounter ≤ s.deviceCounter := by
    intro m hm
    rw [hlaunches, List.mem_append, List.mem_singleton] at hm
    cases hm with
    | inl hm => exact hcounters m hm
    | inr hm => rw [hm, hlCounter]
  by_cases hle : prepared.partition.threads ≤ s.currentThread
  · rw [if_pos hle] at hcounter
    rw [decide_eq_true hle] at hchange
    refine ⟨?_, ?_, fun _ => ?_⟩
    · intro d hd
      by_cases hdc : d = s.deviceCounter
      · subst hdc
        exact ⟨device, s.currentThread, hdetails, hpos, hsame ▸ hclose hle, hsame ▸ hplanned⟩
      · exact hold d (by omega)
    · intro m hm
      have := hcounters' m hm
      omega
    · refine .between taken hchange (by rw [hrows, hdevices]) (by rw [hlen, hcounter]) ?_
      rw [LaunchState.launchesOf, List.filter_eq_nil_iff]
      intro m hm
      have := hcounters' m hm
      simp only [decide_eq_true_eq]
      omega
  · rw [if_neg hle] at hcounter
    rw [decide_eq_false hle] at hchange
    obtain ⟨hping, hseg⟩ := hsegment (not_le.1 hle)
    refine ⟨by rw [hcounter]; exact hold, by rw [hcounter]; exact hcounters', fun _ => ?_⟩
    refine .within taken hchange (by rw [hrows, hdevices]) (by rw [hlen, hcounter]) device
      (by rw [hcounter, hdetails]) (by rw [hhostId, hhost]) (by rw [hthread]; exact hone) hping
      ?_ ?_
    · rw [hcounter, hsame, hthread, hpartition]
      exact hseg
    · rw [hcounter, hsame]
      exact hplanned

/-- The first worker of a device. -/
theorem launchThread_first_inv {taken : List (Int × Nat)}
    (hclosed : ∀ d < s.deviceCounter, DeviceClosed cfg world devices s d)
    (hcounters : ∀ l ∈ s.launches, l.worker.deviceCounter ≤ s.deviceCounter)
    (hdevices : devices = taken ++ rowDevices s.rows) (hlen : taken.length = s.deviceCounter + 1)
    (hnone : s.launchesOf s.deviceCounter = []) (hthread : s.currentThread = 1)
    (hget : devices[s.deviceCounter]? = some (s.hostId, s.partition.threads))
    (hpos : 1 ≤ s.partition.threads) : LaunchInv cfg world devices (launchThread cfg world s) := by
  cases hstart : world.starts s.attempts with
  | false => exact launchThread_refused_inv hclosed hcounters hstart
  | true =>
    obtain ⟨htotal, hthreads, hitems⟩ := prepareDevicePartition_spec cfg world s.hostId
      s.currentThread s.moment s.partition
    generalize hprepared : prepareDevicePartition cfg world s.hostId s.currentThread s.moment
      s.partition = prepared at htotal hthreads hitems
    have hdevice := roundDevice_of_one hthread prepared.partition
    have hpos' : 1 ≤ prepared.partition.threads := by
      rw [hthreads]
      exact limitThreads_pos hpos _
    refine launchThread_started_inv hclosed hcounters hstart (by omega) hdevices hlen hprepared
      hdevice rfl rfl hpos' ?_ ?_ ?_
    · rw [hnone, List.nil_append]
      refine ⟨rfl, ⟨rfl, rfl, rfl, rfl, rfl⟩, ?_, ⟨s.moment + 1, hitems hthread⟩, ?_, ?_⟩
      · exact ⟨s.partition.threads, prepared.total, hget, rfl, hthreads⟩
      · intro l hl
        rw [List.mem_singleton.1 hl]
      · intro l hl
        rw [List.mem_singleton.1 hl]
        exact ⟨s.moment, htotal⟩
    · intro hle
      rw [hnone, List.nil_append, hthread]
      exact Closed.first rfl (by show prepared.partition.threads = 1; omega)
    · intro hlt
      rw [hnone, List.nil_append, hthread]
      rw [hthread] at hlt
      refine ⟨?_, Segment.first rfl hlt⟩
      -- A poller that only pings would have one thread.
      cases hping : cfg.pingOnly with
      | false => rfl
      | true =>
        rw [htotal, hping, if_pos rfl] at hthreads
        rw [hthreads] at hlt
        exact absurd hlt (Nat.lt_irrefl 1)

/-- A further worker belongs to the plan of its device. -/
theorem Planned.append {d thread m : Nat} {device : PollerThread} {L : List Launch}
    {total : Option Nat} (h : Planned cfg world devices d device L) (hne : L ≠ [])
    (htotal : total = if cfg.pingOnly then none
      else some (world.count m (totalQuery cfg device.hostId))) :
    Planned cfg world devices d device
      (L ++ [⟨{ device with hostThread := thread }, total⟩]) := by
  refine ⟨h.counter, h.fresh, ?_, h.items, ?_, ?_⟩
  · obtain ⟨requested, first, hget, hhead, hlimit⟩ := h.planned
    refine ⟨requested, first, hget, ?_, hlimit⟩
    rw [List.head?_append_of_ne_nil _ hne, hhead]
  · intro l hl
    rw [List.mem_append, List.mem_singleton] at hl
    cases hl with
    | inl hl => exact h.workers l hl
    | inr hl => rw [hl]
  · intro l hl
    rw [List.mem_append, List.mem_singleton] at hl
    cases hl with
    | inl hl => exact h.totals l hl
    | inr hl =>
      rw [hl]
      exact ⟨m, htotal⟩

/-- A further worker of a device. -/
theorem launchThread_next_inv {taken : List (Int × Nat)} {device : PollerThread} {k : Nat}
    (hclosed : ∀ d < s.deviceCounter, DeviceClosed cfg world devices s d)
    (hcounters : ∀ l ∈ s.launches, l.worker.deviceCounter ≤ s.deviceCounter)
    (hdevices : devices = taken ++ rowDevices s.rows) (hlen : taken.length = s.deviceCounter + 1)
    (hdetails : s.details s.deviceCounter = some device) (hhost : s.hostId = device.hostId)
    (hk : 1 ≤ k) (hthread : s.currentThread = k + 1) (hping : cfg.pingOnly = false)
    (hsegment : Segment device.hostThreads k s.partition.threads (s.launchesOf s.deviceCounter))
    (hplanned : Planned cfg world devices s.deviceCounter device (s.launchesOf s.deviceCounter)) :
    LaunchInv cfg world devices (launchThread cfg world s) := by
  cases hstart : world.starts s.attempts with
  | false => exact launchThread_refused_inv hclosed hcounters hstart
  | true =>
    obtain ⟨htotal, hthreads, _⟩ := prepareDevicePartition_spec cfg world s.hostId
      s.currentThread s.moment s.partition
    generalize hprepared : prepareDevicePartition cfg world s.hostId s.currentThread s.moment
      s.partition = prepared at htotal hthreads
    have hdevice := roundDevice_of_details (by omega) hdetails prepared.partition
    have hread := htotal
    rw [hping, if_neg (by decide)] at htotal
    rw [htotal] at hthreads
    have hpos : 1 ≤ device.hostThreads := by
      have := hsegment.lt
      have := hsegment.le
      omega
    refine launchThread_started_inv hclosed hcounters hstart (by omega) hdevices hlen hprepared
      hdevice rfl hhost hpos ?_ ?_ ?_
    · exact hplanned.append (hsegment.ne_nil hk) (hhost ▸ hread)
    · intro hle
      rw [hthreads, hthread] at hle
      rw [hthread]
      exact hsegment.close hk rfl htotal hle
    · intro hlt
      rw [hthreads, hthread] at hlt
      rw [hthreads, hthread]
      exact ⟨hping, hsegment.next hk rfl htotal hlt⟩

/-- One round keeps the invariant. -/
theorem launchStep_inv (hthreads : ∀ device ∈ devices, 1 ≤ device.2)
    (h : LaunchInv cfg world devices s) (hexit : s.canexit = false) :
    LaunchInv cfg world devices (launchStep cfg world s) := by
  unfold launchStep
  cases hpick : pickThread s with
  | none => exact ⟨h.closed, h.counters, fun hfalse => absurd hfalse (by simp)⟩
  | some s₁ =>
    unfold pickThread at hpick
    cases h.phase hexit with
    | between taken hchange hdevices hlen hnone =>
      rw [hchange, if_pos rfl] at hpick
      split at hpick
      · rename_i id deviceThreads rows hrows
        rw [hrows, rowDevices] at hdevices
        have hget : devices[s.deviceCounter]? =
            some (id, if deviceThreads < 1 then 1 else deviceThreads.toNat) := by
          rw [hdevices, List.getElem?_append_right hlen.le, hlen, Nat.sub_self]
          rfl
        have htaken : devices = (taken ++
            [(id, if deviceThreads < 1 then 1 else deviceThreads.toNat)]) ++ rowDevices rows := by
          rw [hdevices, List.append_assoc]
          rfl
        obtain rfl := Option.some.inj hpick
        exact launchThread_first_inv h.closed h.counters htaken
          (by rw [List.length_append, hlen, List.length_singleton]) hnone rfl hget
          (hthreads _ (List.mem_of_getElem? hget))
      · cases hpick
    | first taken hchange hdevices hlen hnone hthread hget =>
      rw [hchange, if_neg (by decide)] at hpick
      obtain rfl := Option.some.inj hpick
      exact launchThread_first_inv h.closed h.counters hdevices hlen hnone
        (by show s.currentThread + 1 = 1; omega) hget (hthreads _ (List.mem_of_getElem? hget))
    | within taken hchange hdevices hlen device hdetails hhost hthread hping hsegment hplanned =>
      rw [hchange, if_neg (by decide)] at hpick
      obtain rfl := Option.some.inj hpick
      exact launchThread_next_inv h.closed h.counters hdevices hlen hdetails hhost hthread rfl
        hping hsegment hplanned

theorem startLaunch_inv (cfg : Config) (world : World) (rows : List DeviceRow) :
    LaunchInv cfg world (deviceList cfg rows) (startLaunch cfg rows) := by
  refine ⟨fun d hd => absurd hd (Nat.not_lt_zero d), fun l hl => absurd hl List.not_mem_nil, ?_⟩
  intro _
  cases hzero : cfg.pollsDevice0 with
  | false =>
    refine .between [] ?_ ?_ rfl rfl
    · simp [startLaunch, hzero]
    · simp [deviceList, hzero, startLaunch]
  | true =>
    refine .first [(0, 1)] ?_ ?_ rfl rfl rfl ?_
    · simp [startLaunch, hzero]
    · simp [deviceList, hzero, startLaunch]
    · simp [deviceList, hzero, startLaunch]

/-- The loop that goes on has not been stopped. -/
theorem LaunchState.canexit_of_not_done {n : Nat} (h : ¬ s.done n = true) :
    s.canexit = false := by
  unfold LaunchState.done at h
  rw [Bool.or_eq_true, not_or] at h
  exact Bool.eq_false_iff.2 h.1

/-- The invariant holds after any number of rounds. -/
theorem launchLoop_inv (hthreads : ∀ device ∈ devices, 1 ≤ device.2) (n fuel : Nat)
    (h : LaunchInv cfg world devices s) :
    LaunchInv cfg world devices (launchLoop cfg world n fuel s) := by
  induction fuel generalizing s with
  | zero => exact h
  | succ fuel ih =>
    unfold launchLoop
    split
    · exact h
    · rename_i hdone
      exact ih (launchStep_inv hthreads h (LaunchState.canexit_of_not_done hdone))

theorem launchPollWorkers_inv (cfg : Config) (world : World) (rows : List DeviceRow) :
    LaunchInv cfg world (deviceList cfg rows) (launchPollWorkers cfg world rows) :=
  launchLoop_inv (deviceList_threads_pos cfg rows) _ _ (startLaunch_inv cfg world rows)

end Invariant

/-! ## The loop ends -/

section Termination

variable {cfg : Config} {world : World} {devices : List (Int × Nat)} {s : LaunchState}

theorem limitThreads_le {threads : Nat} (h : 1 ≤ threads) (total : Option Nat) :
    limitThreads threads total ≤ threads := by
  cases total with
  | none => exact h
  | some total => exact limitThreads_some_le threads total

/-- The rounds that the loop can still take: the threads that the device in
progress may still get, and those that the other devices ask for. -/
def launchMeasure (s : LaunchState) : Nat :=
  (if s.changeHost then 0 else s.partition.threads - s.currentThread) +
    (s.rows.map rowThreads).sum

/-- A round that does not stop the loop leaves at most the threads after the
one that it started. -/
theorem launchThread_measure (hpos : 1 ≤ s.partition.threads) :
    (launchThread cfg world s).canexit = true ∨
      launchMeasure (launchThread cfg world s) ≤
        s.partition.threads - s.currentThread + (s.rows.map rowThreads).sum := by
  cases hstart : world.starts s.attempts with
  | false => exact Or.inl (launchThread_refused cfg hstart).1
  | true =>
    obtain ⟨⟨hrows, _, hthread, hpartition⟩, hchange, _⟩ := launchThread_started cfg hstart
    obtain ⟨_, hthreads, _⟩ := prepareDevicePartition_spec cfg world s.hostId
      s.currentThread s.moment s.partition
    have hle := limitThreads_le hpos (prepareDevicePartition cfg world s.hostId s.currentThread
      s.moment s.partition).total
    right
    unfold launchMeasure
    rw [hrows, hthread, hpartition, hthreads]
    split <;> omega

/-- Picking a thread uses up one of the rounds that are left. -/
theorem pickThread_measure {s₁ : LaunchState} (hpick : pickThread s = some s₁)
    (hlt : s.changeHost = false → s.currentThread < s.partition.threads) :
    1 ≤ s₁.partition.threads ∧
      s₁.partition.threads - s₁.currentThread + (s₁.rows.map rowThreads).sum <
        launchMeasure s := by
  unfold pickThread at hpick
  unfold launchMeasure
  cases hchange : s.changeHost with
  | true =>
    rw [hchange, if_pos rfl] at hpick
    split at hpick
    · rename_i hostId deviceThreads rows hrows
      obtain rfl := Option.some.inj hpick
      have hrow : rowThreads ⟨some hostId, some deviceThreads⟩ =
          if deviceThreads < 1 then 1 else deviceThreads.toNat := by
        show max 1 deviceThreads.toNat = _
        split <;> omega
      rw [hrows, List.map_cons, List.sum_cons, hrow, if_pos rfl]
      dsimp only
      split <;> omega
    · cases hpick
  | false =>
    have hlt' := hlt hchange
    rw [hchange, if_neg (by decide)] at hpick
    obtain rfl := Option.some.inj hpick
    rw [if_neg (by decide)]
    dsimp only
    omega

/-- A round stops the loop or uses up one of the rounds that are left. -/
theorem launchStep_measure (hthreads : ∀ device ∈ devices, 1 ≤ device.2)
    (h : LaunchInv cfg world devices s) (hexit : s.canexit = false) :
    (launchStep cfg world s).canexit = true ∨
      launchMeasure (launchStep cfg world s) < launchMeasure s := by
  have hlt : s.changeHost = false → s.currentThread < s.partition.threads := by
    intro hfalse
    cases h.phase hexit with
    | between _ hchange => rw [hchange] at hfalse; cases hfalse
    | first _ _ _ _ _ hthread hget =>
      rw [hthread]
      exact hthreads _ (List.mem_of_getElem? hget)
    | within _ _ _ _ _ _ _ _ _ hsegment _ => exact hsegment.lt
  unfold launchStep
  cases hpick : pickThread s with
  | none => exact Or.inl rfl
  | some s₁ =>
    obtain ⟨hpos, hless⟩ := pickThread_measure hpick hlt
    exact (launchThread_measure hpos).imp_right fun hle => lt_of_le_of_lt hle hless

theorem launchLoop_done (hthreads : ∀ device ∈ devices, 1 ≤ device.2) (n : Nat) {fuel : Nat}
    (h : LaunchInv cfg world devices s) (hfuel : s.canexit = true ∨ launchMeasure s < fuel) :
    (launchLoop cfg world n fuel s).done n = true := by
  induction fuel generalizing s with
  | zero =>
    have hexit : s.canexit = true := hfuel.resolve_right (Nat.not_lt_zero _)
    simp [launchLoop, LaunchState.done, hexit]
  | succ fuel ih =>
    unfold launchLoop
    split
    · rename_i hdone
      exact hdone
    · rename_i hdone
      have hexit := LaunchState.canexit_of_not_done hdone
      have hless := hfuel.resolve_left (by simp [hexit])
      refine ih (launchStep_inv hthreads h hexit) ?_
      exact (launchStep_measure hthreads h hexit).imp_right fun hlt => by omega

/-- The fuel is enough: the loop always comes to its end. -/
theorem launchPollWorkers_done (cfg : Config) (world : World) (rows : List DeviceRow) :
    (launchPollWorkers cfg world rows).done (numRows cfg rows) = true := by
  refine launchLoop_done (deviceList_threads_pos cfg rows) _ (startLaunch_inv cfg world rows)
    (Or.inr ?_)
  unfold launchMeasure launchFuel startLaunch
  dsimp only
  split <;> omega

end Termination

/-! ## The workers of a device -/

/-- The device has the workers `1` to `host_threads`, each once, and their
calls of `complete_poll_host` count up to `host_threads`. -/
structure WorkersComplete (cfg : Config) (s : LaunchState) (d : Nat) (device : PollerThread) :
    Prop where
  threads : (s.launchesOf d).map (fun l => l.worker.hostThread) =
    List.range' 1 device.hostThreads
  counted : ∀ calls exitFailure, calls.length = (s.launchesOf d).length →
    (passAll cfg ⟨device, exitFailure⟩ calls).device.threadsComplete = device.hostThreads

/-- The loop gets past every device, unless it is stopped. -/
theorem deviceCounter_of_not_canexit {cfg : Config} {world : World} {rows : List DeviceRow}
    (hexit : (launchPollWorkers cfg world rows).canexit = false) :
    numRows cfg rows ≤ (launchPollWorkers cfg world rows).deviceCounter := by
  have hdone := launchPollWorkers_done cfg world rows
  rw [LaunchState.done, hexit, Bool.false_or] at hdone
  exact of_decide_eq_true hdone

/-- A device whose launching was not stopped has its workers exactly when no
total that was read before one of the workers `2` to `n - 1` is a positive
number below `n`.  Here `n` is the number of threads that the device asks for,
or the first total when that is positive and smaller.  A launch that is never
stopped gets past every device. -/
theorem launch_workers_iff (cfg : Config) (world : World) (rows : List DeviceRow) (d : Nat)
    (hd : d < (launchPollWorkers cfg world rows).deviceCounter ∨
      (launchPollWorkers cfg world rows).canexit = false ∧ d < numRows cfg rows) :
    ∃ device requested total,
      (launchPollWorkers cfg world rows).details d = some device ∧
      (deviceList cfg rows)[d]? = some (device.hostId, requested) ∧
      ((launchPollWorkers cfg world rows).launchesOf d).head?.map Launch.total = some total ∧
      device.hostThreads = limitThreads requested total ∧
      (WorkersComplete cfg (launchPollWorkers cfg world rows) d device ↔
        ∀ l ∈ (launchPollWorkers cfg world rows).launchesOf d, 2 ≤ l.worker.hostThread →
          l.worker.hostThread < limitThreads requested total →
          Steady (limitThreads requested total) l) := by
  have hpast : d < (launchPollWorkers cfg world rows).deviceCounter :=
    hd.elim id fun h => h.2.trans_le (deviceCounter_of_not_canexit h.1)
  obtain ⟨device, k, hdetails, _, hclosed, hplanned⟩ :=
    (launchPollWorkers_inv cfg world rows).closed d hpast
  obtain ⟨requested, total, hget, hhead, hlimit⟩ := hplanned.planned
  refine ⟨device, requested, total, hdetails, hget, hhead, hlimit, ?_⟩
  have hlength : ((launchPollWorkers cfg world rows).launchesOf d).length = k := by
    have := congrArg List.length hclosed.threads
    rwa [List.length_map, List.length_range'] at this
  rw [← hlimit, ← hclosed.steady]
  constructor
  · intro h
    have := congrArg List.length h.threads
    rwa [List.length_map, List.length_range', hlength] at this
  · intro hk
    refine ⟨hk ▸ hclosed.threads, fun calls exitFailure hcalls => ?_⟩
    rw [passAll_threadsComplete, hcalls, hlength, ← hk]
    exact (congrArg (· + k) hplanned.fresh.2.1).trans (Nat.zero_add k)

/-- Every count is three, and every thread starts. -/
private def steadyWorld : World := ⟨fun _ _ => 3, fun _ => 0, fun _ => true⟩

/-- The device has three items at its first worker, and one item is left when
the second worker is prepared. -/
private def shrinkingWorld : World :=
  ⟨fun moment _ => if moment = 0 then 3 else 1, fun _ => 0, fun _ => true⟩

/-- One device that asks for three threads. -/
private def oneDevice : List DeviceRow := [⟨some 7, some 3⟩]

/-- With a steady count the device gets its three workers. -/
theorem launch_workers_steady : ∃ device,
    (launchPollWorkers Config.plain steadyWorld oneDevice).details 0 = some device ∧
    WorkersComplete Config.plain
      (launchPollWorkers Config.plain steadyWorld oneDevice) 0 device := by
  obtain ⟨device, requested, total, hdetails, hget, hhead, _, hiff⟩ :=
    launch_workers_iff Config.plain steadyWorld oneDevice 0 (Or.inr (by decide))
  refine ⟨device, hdetails, hiff.2 ?_⟩
  have htotals : ∀ l ∈ (launchPollWorkers Config.plain steadyWorld oneDevice).launchesOf 0,
      l.total = some 3 := by decide
  have hfirst : ((launchPollWorkers Config.plain steadyWorld oneDevice).launchesOf 0).head?.map
      Launch.total = some (some 3) := by decide
  have hrequested : (device.hostId, requested) = (7, 3) := Option.some.inj hget.symm
  obtain ⟨_, rfl⟩ := Prod.mk.inj hrequested
  obtain rfl : total = some 3 := Option.some.inj (hhead.symm.trans hfirst)
  intro l hl _ _ count hcount
  obtain rfl : count = 3 := Option.some.inj (hcount.symm.trans (htotals l hl))
  exact Or.inr (by decide)

/-- When the count falls after the first worker, the device gets two workers
and its record says three. -/
theorem launch_workers_shrinking : ∃ device,
    0 < (launchPollWorkers Config.plain shrinkingWorld oneDevice).deviceCounter ∧
    (launchPollWorkers Config.plain shrinkingWorld oneDevice).details 0 = some device ∧
    ¬ WorkersComplete Config.plain
      (launchPollWorkers Config.plain shrinkingWorld oneDevice) 0 device := by
  refine ⟨⟨0, 7, 3, 3, 1, 0, 0, false, false, false⟩, by decide, by decide, fun h => ?_⟩
  exact absurd h.threads (by decide)

end Spine
