import Spine.Script.ServerRuns

/-!
# `php_get_process` among other threads

`Spine.Script.Servers` has the call with slots that do not change during it.  Here the
other threads may lock, unlock and change the slots at any time in between.  The call reads
a slot only under its lock, so what it meets is one answer for each of its try-locks: the
slot is locked by another thread, or this is what the slot holds.

* `SelectAnswers` are these answers, and `selectServer` is the call.  It keeps the locks
  that it holds, and what it knew at each `php_init`.
* `scanServers_eq` reads the scan as three searches in the order of the slots.
* `selectServer_eq` is one call, and `selectResult_eq` is any number of consecutive ones.
-/

namespace Spine

/-! ## The call -/

/-- A slot as it is read under its lock. -/
structure SlotView where
  state : PhpState
  pid : Int
  readFd : Int
  writeFd : Int
  deriving DecidableEq, Repr

def SlotView.usable (view : SlotView) : Bool :=
  decide (view.state = .ready) && decide (1 < view.pid) && decide (0 ≤ view.readFd) &&
    decide (0 ≤ view.writeFd)

/-- There is something to close before a restart. -/
def SlotView.owned (view : SlotView) : Bool :=
  decide (1 < view.pid) || decide (0 ≤ view.readFd) || decide (0 ≤ view.writeFd)

/-- The answers to one call.  A try-lock gives nothing when another thread has the lock.
`scan` is for the scan, which tries each slot once, and `again` for the recovery.  The last
two are what `php_init` returns and the state it leaves. -/
structure SelectAnswers where
  allocated : Bool
  scan : Nat → Option SlotView
  again : Nat → Option SlotView
  init : Nat → Bool
  stateAfter : Nat → PhpState

/-- The locks of the selection. -/
inductive PhpLock where
  | cursor
  | slot (n : Nat)
  deriving DecidableEq, Repr

/-- A call of `php_init`: the slot, what was found in it, and the locks that are held. -/
structure InitCall where
  slot : Nat
  found : SlotView
  held : List PhpLock
  deriving DecidableEq, Repr

/-- The state of a call.  The cursor starts at 0 and is only increased and reset, so that
it is never negative. -/
structure Selection where
  cursor : Nat
  held : List PhpLock
  closes : List Nat
  inits : List InitCall

namespace Selection

/-- A thread calls `php_get_process`. -/
def start (cursor : Nat) : Selection := ⟨cursor, [], [], []⟩

def lock (s : Selection) (l : PhpLock) : Selection := { s with held := l :: s.held }

def unlock (s : Selection) (l : PhpLock) : Selection := { s with held := s.held.erase l }

def close (s : Selection) (slot : Nat) : Selection := { s with closes := s.closes ++ [slot] }

def init (s : Selection) (slot : Nat) (found : SlotView) : Selection :=
  { s with inits := s.inits ++ [⟨slot, found, s.held⟩] }

@[simp] theorem unlock_lock (s : Selection) (l : PhpLock) : (s.lock l).unlock l = s := by
  unfold lock unlock
  dsimp only
  rw [List.erase_cons_head]

end Selection

/-- `contended_candidate` and `recovery_candidate`. -/
structure Candidates where
  contended : Option Nat
  recovery : Option Nat

def scanServers (scan : Nat → Option SlotView) :
    List Nat → Selection → Candidates → Selection × Candidates × Option Nat
  | [], s, c => (s, c, none)
  | slot :: slots, s, c =>
    match scan slot with
    | none => scanServers scan slots s { c with contended := c.contended.or (some slot) }
    | some view =>
      if view.usable then ((s.lock (.slot slot)).unlock (.slot slot), c, some slot)
      else
        scanServers scan slots ((s.lock (.slot slot)).unlock (.slot slot))
          { c with recovery := c.recovery.or (some slot) }

/-- From the try-lock of the recovery on. -/
def recoverServer (env : SelectAnswers) (slot : Nat) (contended : Option Nat) (s : Selection) :
    Selection × Option Nat :=
  match env.again slot with
  | none => (s, contended)
  | some view =>
    let s := s.lock (.slot slot)
    if view.usable then (s.unlock (.slot slot), some slot)
    else
      let s := if view.owned then s.close slot else s
      let s := s.init slot view
      if env.init slot && decide (env.stateAfter slot = .ready) then
        (s.unlock (.slot slot), some slot)
      else (s.unlock (.slot slot), contended)

/-- The slots in the order of the scan. -/
def scanOrder (count start : Int) : List Nat :=
  (List.range count.toNat).map fun k : Nat => ((start + (k : Int)) % count).toNat

/-- The cursor under `LOCK_PHP`. -/
def takeCursor (count : Int) (s : Selection) : Selection × Int :=
  let s := s.lock .cursor
  let next := nextCursor count s.cursor
  (({ s with cursor := next.2.toNat } : Selection).unlock .cursor, next.1)

def serverCount (servers : Int) : Int := min servers MAX_PHP_SERVERS

def selectServer (servers : Int) (env : SelectAnswers) (s : Selection) : Selection × Option Nat :=
  if !env.allocated || decide (servers ≤ 0) then (s, none)
  else
    let count := serverCount servers
    let (s, start) := takeCursor count s
    match scanServers env.scan (scanOrder count start) s ⟨none, none⟩ with
    | (s, _, some slot) => (s, some slot)
    | (s, c, none) =>
      match c.recovery with
      | none => (s, c.contended)
      | some slot => recoverServer env slot c.contended s

/-! ## The scan -/

section Scan

variable {scan : Nat → Option SlotView} {count start : Int} {n : Nat}

/-- The slot is not locked when the scan tries it, and it is usable then. -/
def usableAt (scan : Nat → Option SlotView) (slot : Nat) : Bool := (scan slot).any SlotView.usable

/-- The scan is three searches: for a usable slot, for one that is locked and for one that
is not.  It leaves no lock behind. -/
theorem scanServers_eq (scan : Nat → Option SlotView) (slots : List Nat) (s : Selection)
    (c : Candidates) :
    ∃ c', scanServers scan slots s c = (s, c', slots.find? (usableAt scan)) ∧
      (slots.find? (usableAt scan) = none →
        c' = ⟨c.contended.or (slots.find? fun slot => (scan slot).isNone),
          c.recovery.or (slots.find? fun slot => (scan slot).isSome)⟩) := by
  induction slots generalizing c with
  | nil =>
    refine ⟨c, rfl, fun _ => ?_⟩
    rw [List.find?_nil, List.find?_nil, Option.or_none, Option.or_none]
  | cons slot slots ih =>
    unfold scanServers
    cases hslot : scan slot with
    | none =>
      obtain ⟨c', hscan, hc'⟩ := ih { c with contended := c.contended.or (some slot) }
      have hnot : ¬ usableAt scan slot = true := by simp [usableAt, hslot]
      rw [List.find?_cons_of_neg hnot]
      refine ⟨c', hscan, fun hnone => ?_⟩
      rw [hc' hnone, List.find?_cons_of_pos (by simp [hslot]),
        List.find?_cons_of_neg (by simp [hslot]), Option.or_assoc]
      rfl
    | some view =>
      dsimp only
      rw [Selection.unlock_lock]
      split_ifs with husable
      · have hfound : usableAt scan slot = true := by simp [usableAt, hslot, husable]
        rw [List.find?_cons_of_pos hfound]
        exact ⟨c, rfl, nofun⟩
      · obtain ⟨c', hscan, hc'⟩ := ih { c with recovery := c.recovery.or (some slot) }
        have hnot : ¬ usableAt scan slot = true := by simp [usableAt, hslot, husable]
        rw [List.find?_cons_of_neg hnot]
        refine ⟨c', hscan, fun hnone => ?_⟩
        rw [hc' hnone, List.find?_cons_of_neg (by simp [hslot]),
          List.find?_cons_of_pos (by simp [hslot]), Option.or_assoc]
        rfl

/-- The scan meets every slot, and no other number. -/
theorem mem_scanOrder (start : Int) (hcount : 0 < count) :
    n ∈ scanOrder count start ↔ (n : Int) < count := by
  unfold scanOrder
  rw [List.mem_map]
  constructor
  · rintro ⟨k, -, rfl⟩
    have hlow := Int.emod_nonneg (start + k) hcount.ne'
    have hhigh := Int.emod_lt_of_pos (start + k) hcount
    omega
  · intro hn
    have hlow := Int.emod_nonneg (n - start) hcount.ne'
    have hhigh := Int.emod_lt_of_pos (n - start) hcount
    refine ⟨((n - start) % count).toNat, List.mem_range.2 (by omega), ?_⟩
    have hslot : (start + (n - start) % count) % count = n := by
      rw [Int.add_emod_emod]
      rw [show start + (n - start) = (n : Int) by omega]
      exact Int.emod_eq_of_lt (by omega) hn
    rw [Int.toNat_of_nonneg hlow, hslot]
    exact Int.toNat_natCast n

theorem nextCursor_fst_range (hcount : 0 < count) (cursor : Nat) :
    0 ≤ (nextCursor count cursor).1 ∧ (nextCursor count cursor).1 < count := by
  unfold nextCursor
  dsimp only
  split_ifs
  · omega
  · omega

/-- The scan starts at the cursor. -/
theorem scanOrder_head (hstart : 0 ≤ start) (hlt : start < count) :
    ∃ rest, scanOrder count start = start.toNat :: rest := by
  obtain ⟨m, hm⟩ : ∃ m, count.toNat = m + 1 := ⟨count.toNat - 1, by omega⟩
  unfold scanOrder
  rw [hm, List.range_succ_eq_map, List.map_cons]
  refine ⟨_, congrArg (· :: _) ?_⟩
  rw [Nat.cast_zero, add_zero, Int.emod_eq_of_lt hstart hlt]

end Scan

/-! ## One call -/

/-- What one call guarantees. -/
structure Selects (servers : Int) (env : SelectAnswers) (after : Selection)
    (returned : Option Nat) : Prop where
  /-- The result is `-1` or one of the slots. -/
  inRange : ∀ slot, returned = some slot → (slot : Int) < serverCount servers
  /-- A slot that is usable and not locked when scanned is enough for a usable slot, and
  then nothing is restarted. -/
  prefersUsable : env.allocated = true →
    (∃ slot : Nat, (slot : Int) < serverCount servers ∧ usableAt env.scan slot = true) →
    ∃ slot, returned = some slot ∧ usableAt env.scan slot = true ∧ after.closes = [] ∧
      after.inits = []
  /-- At most one slot is restarted. -/
  initOnce : after.inits.length ≤ 1
  /-- A slot that is restarted was found unusable, by the scan and again under the lock
  that is held then. -/
  initUnusable : ∀ call ∈ after.inits, (call.slot : Int) < serverCount servers ∧
    (∃ view, env.scan call.slot = some view ∧ view.usable = false) ∧
    env.again call.slot = some call.found ∧ call.found.usable = false ∧
    PhpLock.slot call.slot ∈ call.held
  /-- The result is `-1` only if the scan found no slot locked. -/
  noneFree : env.allocated = true → returned = none →
    ∀ slot : Nat, (slot : Int) < serverCount servers → env.scan slot ≠ none
  noLock : after.held = []

section Call

variable {servers : Int} {env : SelectAnswers} {s : Selection} {slot : Nat}
  {contended : Option Nat}

/-- The ways through the recovery: no restart, or one under the lock. -/
theorem recoverServer_cases (env : SelectAnswers) (slot : Nat) (contended : Option Nat)
    (s : Selection) :
    ((recoverServer env slot contended s).2 = contended ∨
      (recoverServer env slot contended s).2 = some slot) ∧
    (recoverServer env slot contended s).1.held = s.held ∧
    ((recoverServer env slot contended s).1.inits = s.inits ∨
      ∃ view, env.again slot = some view ∧ view.usable = false ∧
        (recoverServer env slot contended s).1.inits =
          s.inits ++ [⟨slot, view, .slot slot :: s.held⟩]) := by
  unfold recoverServer
  cases hagain : env.again slot with
  | none => exact ⟨Or.inl rfl, rfl, Or.inl rfl⟩
  | some view =>
    dsimp only
    split_ifs with husable hstarted howned howned
    · exact ⟨Or.inr rfl, by rw [Selection.unlock_lock], Or.inl rfl⟩
    all_goals
      have hview : view.usable = false := by simpa using husable
    · exact ⟨Or.inr rfl, List.erase_cons_head .., Or.inr ⟨view, rfl, hview, rfl⟩⟩
    · exact ⟨Or.inr rfl, List.erase_cons_head .., Or.inr ⟨view, rfl, hview, rfl⟩⟩
    · exact ⟨Or.inl rfl, List.erase_cons_head .., Or.inr ⟨view, rfl, hview, rfl⟩⟩
    · exact ⟨Or.inl rfl, List.erase_cons_head .., Or.inr ⟨view, rfl, hview, rfl⟩⟩

/-- A call that returns a slot without a restart. -/
theorem selects_of_usable {after : Selection} (hrange : (slot : Int) < serverCount servers)
    (husable : usableAt env.scan slot = true) (hcloses : after.closes = [])
    (hinits : after.inits = []) (hheld : after.held = []) :
    Selects servers env after (some slot) := by
  refine ⟨?_, fun _ _ => ⟨slot, rfl, husable, hcloses, hinits⟩, ?_, ?_, nofun, hheld⟩
  · intro other hother
    cases hother
    exact hrange
  · rw [hinits]
    exact Nat.zero_le 1
  · rw [hinits]
    nofun

/-- A call that has slots to look at. -/
theorem selectServer_of_pos (hservers : 0 < servers) (hallocated : env.allocated = true)
    (cursor : Nat) :
    selectServer servers env (.start cursor) =
      match scanServers env.scan
        (scanOrder (serverCount servers) (nextCursor (serverCount servers) cursor).1)
        (.start (nextCursor (serverCount servers) cursor).2.toNat) ⟨none, none⟩ with
      | (s, _, some slot) => (s, some slot)
      | (s, c, none) =>
        match c.recovery with
        | none => (s, c.contended)
        | some slot => recoverServer env slot c.contended s := by
  unfold selectServer
  rw [if_neg (by simp [hallocated]; omega)]
  rfl

/-- A call, after the scan: the slot that was found, or what the two candidates are. -/
theorem selectServer_eq (hservers : 0 < servers) (hallocated : env.allocated = true)
    (cursor : Nat) :
    let order := scanOrder (serverCount servers) (nextCursor (serverCount servers) cursor).1
    let taken := Selection.start (nextCursor (serverCount servers) cursor).2.toNat
    let contended := order.find? fun slot => (env.scan slot).isNone
    selectServer servers env (.start cursor) =
      match order.find? (usableAt env.scan) with
      | some slot => (taken, some slot)
      | none =>
        match order.find? fun slot => (env.scan slot).isSome with
        | none => (taken, contended)
        | some slot => recoverServer env slot contended taken := by
  intro order taken contended
  rw [selectServer_of_pos hservers hallocated]
  obtain ⟨c, hscan, hc⟩ := scanServers_eq env.scan order taken ⟨none, none⟩
  rw [hscan]
  cases hfound : order.find? (usableAt env.scan) with
  | some slot => rfl
  | none =>
    rw [hc hfound]
    rfl

/-- A call after a scan that found no usable slot.  `returned` is the contended candidate
or the recovered slot, and at most the recovered slot was restarted. -/
theorem selects_of_not_found {after : Selection} {order : List Nat} {returned : Option Nat}
    (hmem : ∀ slot : Nat, slot ∈ order ↔ (slot : Int) < serverCount servers)
    (hnone : order.find? (usableAt env.scan) = none)
    (hreturned : returned = order.find? (fun slot => (env.scan slot).isNone) ∨
      ∃ slot ∈ order, returned = some slot)
    (hinits : after.inits = [] ∨ ∃ slot view, slot ∈ order ∧ (env.scan slot).isSome = true ∧
      env.again slot = some view ∧ view.usable = false ∧
      after.inits = [⟨slot, view, [.slot slot]⟩])
    (hheld : after.held = []) : Selects servers env after returned := by
  have hunusable : ∀ slot ∈ order, ¬ usableAt env.scan slot = true := List.find?_eq_none.1 hnone
  refine ⟨?_, ?_, ?_, ?_, ?_, hheld⟩
  · intro slot hslot
    refine (hmem slot).1 ?_
    rcases hreturned with hcontended | ⟨other, hother, hsome⟩
    · exact List.mem_of_find?_eq_some (hcontended.symm.trans hslot)
    · rw [hslot] at hsome
      cases hsome
      exact hother
  · rintro - ⟨slot, hrange, husable⟩
    exact absurd husable (hunusable slot ((hmem slot).2 hrange))
  · rcases hinits with hinits | ⟨slot, view, -, -, -, -, hinits⟩
    · rw [hinits]
      exact Nat.zero_le 1
    · rw [hinits]
      exact Nat.le_refl 1
  · rcases hinits with hinits | ⟨slot, view, hslot, hscanned, hagain, hview, hinits⟩
    · rw [hinits]
      nofun
    · rw [hinits]
      intro call hcall
      rw [List.mem_singleton.1 hcall]
      obtain ⟨seen, hseen⟩ := Option.isSome_iff_exists.1 hscanned
      have hnot := hunusable slot hslot
      rw [usableAt, hseen, Option.any_some] at hnot
      exact ⟨(hmem slot).1 hslot, ⟨seen, hseen, Bool.eq_false_iff.2 hnot⟩, hagain, hview,
        List.mem_singleton.2 rfl⟩
  · intro _ hminus slot hrange hlocked
    rcases hreturned with hcontended | ⟨other, -, hsome⟩
    · have hfree := List.find?_eq_none.1 (hcontended.symm.trans hminus) slot ((hmem slot).2 hrange)
      rw [hlocked] at hfree
      exact hfree rfl
    · rw [hminus] at hsome
      cases hsome

theorem serverCount_pos (h : 0 < servers) : 0 < serverCount servers := by
  simp only [serverCount, MAX_PHP_SERVERS]
  omega

/-- A call without slots returns at once. -/
theorem selects_of_no_slots (hnone : env.allocated = true → servers ≤ 0) (cursor : Nat) :
    Selects servers env (.start cursor) none := by
  have hempty : env.allocated = true → serverCount servers ≤ 0 := by
    intro hallocated
    have hservers := hnone hallocated
    simp only [serverCount, MAX_PHP_SERVERS]
    omega
  refine ⟨?_, ?_, Nat.zero_le 1, ?_, ?_, rfl⟩
  · intro slot hslot
    cases hslot
  · rintro hallocated ⟨slot, hrange, -⟩
    have hcount := hempty hallocated
    omega
  · intro call hcall
    cases hcall
  · intro hallocated _ slot hrange
    have hcount := hempty hallocated
    omega

theorem selectServer_selects (servers : Int) (env : SelectAnswers) (cursor : Nat) :
    Selects servers env (selectServer servers env (.start cursor)).1
      (selectServer servers env (.start cursor)).2 := by
  by_cases hskip : (!env.allocated || decide (servers ≤ 0)) = true
  · unfold selectServer
    rw [if_pos hskip]
    refine selects_of_no_slots (fun hallocated => ?_) cursor
    simpa [hallocated] using hskip
  · simp only [Bool.or_eq_true, Bool.not_eq_true', decide_eq_true_eq, not_or,
      Bool.not_eq_false, not_le] at hskip
    obtain ⟨hallocated, hservers⟩ := hskip
    rw [selectServer_eq hservers hallocated cursor]
    have hmem : ∀ slot : Nat, slot ∈ scanOrder (serverCount servers)
        (nextCursor (serverCount servers) cursor).1 ↔ (slot : Int) < serverCount servers :=
      fun slot => mem_scanOrder _ (serverCount_pos hservers)
    generalize scanOrder (serverCount servers) (nextCursor (serverCount servers) cursor).1 = order
      at hmem ⊢
    cases hfound : order.find? (usableAt env.scan) with
    | some slot =>
      have hslot := (hmem slot).1 (List.mem_of_find?_eq_some hfound)
      have husable : usableAt env.scan slot = true := List.find?_some hfound
      exact selects_of_usable hslot husable rfl rfl rfl
    | none =>
      dsimp only
      cases hrecovery : order.find? fun slot => (env.scan slot).isSome with
      | none => exact selects_of_not_found hmem hfound (Or.inl rfl) (Or.inl rfl) rfl
      | some slot =>
        have hslot : slot ∈ order := List.mem_of_find?_eq_some hrecovery
        have hscanned := List.find?_some hrecovery
        obtain ⟨hreturned, hheld, hinits⟩ := recoverServer_cases env slot
          (order.find? fun slot => (env.scan slot).isNone)
          (.start (nextCursor (serverCount servers) cursor).2.toNat)
        refine selects_of_not_found hmem hfound (hreturned.imp_right fun h => ⟨slot, hslot, h⟩)
          (hinits.imp_right ?_) hheld
        rintro ⟨view, hagain, hview, hcall⟩
        exact ⟨slot, view, hslot, hscanned, hagain, hview, hcall⟩

end Call

/-! ## Consecutive calls -/

/-- The cursor before the calls of a sequence. -/
def cursorAt (servers : Int) (envs : Nat → SelectAnswers) (cursor : Nat) : Nat → Nat
  | 0 => cursor
  | n + 1 => (selectServer servers (envs n) (.start (cursorAt servers envs cursor n))).1.cursor

/-- What the calls of a sequence return. -/
def selectResult (servers : Int) (envs : Nat → SelectAnswers) (cursor n : Nat) : Option Nat :=
  (selectServer servers (envs n) (.start (cursorAt servers envs cursor n))).2

/-- Every slot is usable and not locked. -/
def AllUsable (servers : Int) (env : SelectAnswers) : Prop :=
  env.allocated = true ∧
    ∀ slot : Nat, (slot : Int) < serverCount servers → usableAt env.scan slot = true

section Calls

variable {servers : Int} {env : SelectAnswers} {envs : Nat → SelectAnswers} {cursor k n : Nat}

/-- A call returns the slot of the cursor and moves the cursor behind it. -/
theorem selectServer_of_allUsable (hservers : 0 < servers) (husable : AllUsable servers env)
    (cursor : Nat) :
    selectServer servers env (.start cursor) =
      (.start ((nextCursor (serverCount servers) cursor).1.toNat + 1),
        some (nextCursor (serverCount servers) cursor).1.toNat) := by
  obtain ⟨hlow, hhigh⟩ := nextCursor_fst_range (serverCount_pos hservers) cursor
  obtain ⟨rest, hhead⟩ := scanOrder_head hlow hhigh
  have hfirst := husable.2 (nextCursor (serverCount servers) cursor).1.toNat (by omega)
  rw [selectServer_eq hservers husable.1 cursor, hhead, List.find?_cons_of_pos hfirst]
  dsimp only
  have hnext : (nextCursor (serverCount servers) cursor).2.toNat =
      (nextCursor (serverCount servers) cursor).1.toNat + 1 := by
    show ((nextCursor (serverCount servers) cursor).1 + 1).toNat = _
    omega
  rw [hnext]

/-- The slot of the cursor moves on by one, modulo the number of servers. -/
theorem nextCursor_succ {count first : Nat} (hlt : first < count) :
    (nextCursor count ((first + 1 : Nat) : Int)).1.toNat = (first + 1) % count := by
  unfold nextCursor
  dsimp only
  split_ifs with hwrap
  · have heq : first + 1 = count := by omega
    rw [heq, Nat.mod_self]
    rfl
  · rw [Nat.mod_eq_of_lt (by omega)]
    exact Int.toNat_natCast _

/-- The slot that a call starts at, after calls that all found it usable. -/
theorem cursorAt_eq (hservers : 0 < servers) (husable : ∀ n < k, AllUsable servers (envs n))
    (hn : n ≤ k) :
    (nextCursor (serverCount servers) (cursorAt servers envs cursor n)).1.toNat =
      ((nextCursor (serverCount servers) cursor).1.toNat + n) % (serverCount servers).toNat := by
  have hpos := serverCount_pos hservers
  induction n with
  | zero =>
    obtain ⟨hlow, hhigh⟩ := nextCursor_fst_range hpos cursor
    rw [Nat.add_zero, Nat.mod_eq_of_lt (by omega)]
    rfl
  | succ n ih =>
    obtain ⟨hlow, hhigh⟩ := nextCursor_fst_range hpos (cursorAt servers envs cursor n)
    have hcursor : cursorAt servers envs cursor (n + 1) =
        (nextCursor (serverCount servers) (cursorAt servers envs cursor n)).1.toNat + 1 := by
      show (selectServer servers (envs n) _).1.cursor = _
      rw [selectServer_of_allUsable hservers (husable n hn)]
      rfl
    have hcount : ((serverCount servers).toNat : Int) = serverCount servers := by omega
    have hlt : (nextCursor (serverCount servers) (cursorAt servers envs cursor n)).1.toNat <
        (serverCount servers).toNat := by omega
    have hsucc := nextCursor_succ hlt
    rw [hcount] at hsucc
    rw [hcursor, hsucc, ih (Nat.le_of_lt hn), Nat.mod_add_mod, Nat.add_assoc]

/-- Consecutive calls return consecutive slots. -/
theorem selectResult_eq (hservers : 0 < servers) (husable : ∀ n < k, AllUsable servers (envs n))
    (hn : n < k) :
    selectResult servers envs cursor n =
      some (((nextCursor (serverCount servers) cursor).1.toNat + n) %
        (serverCount servers).toNat) := by
  unfold selectResult
  rw [selectServer_of_allUsable hservers (husable n hn)]
  exact congrArg some (cursorAt_eq hservers husable (Nat.le_of_lt hn))

end Calls

/-- One call of `php_get_process` with every answer it can get, and any number of
consecutive calls that find every slot usable and not locked. -/
theorem phpGetProcess_selection (servers : Int) :
    (∀ env cursor, Selects servers env (selectServer servers env (.start cursor)).1
      (selectServer servers env (.start cursor)).2) ∧
    ∀ envs cursor k, 0 < servers → (∀ n < k, AllUsable servers (envs n)) →
      ∃ first : Nat, (first : Int) < serverCount servers ∧
        ∀ n < k, selectResult servers envs cursor n =
          some ((first + n) % (serverCount servers).toNat) := by
  refine ⟨selectServer_selects servers, fun envs cursor k hservers husable => ?_⟩
  obtain ⟨hlow, hhigh⟩ := nextCursor_fst_range (serverCount_pos hservers) cursor
  refine ⟨(nextCursor (serverCount servers) cursor).1.toNat, by omega, fun n hn => ?_⟩
  exact selectResult_eq hservers husable hn

/-- Every slot is usable, and no one else uses the servers. -/
private def idleServers : SelectAnswers where
  allocated := true
  scan _ := some ⟨.ready, 100, 5, 6⟩
  again _ := none
  init _ := false
  stateAfter _ := .busy

/-- The first slot has lost its server, and the other two are busy. -/
private def busyServers : SelectAnswers where
  allocated := true
  scan slot := if slot = 0 then some ⟨.busy, -1, -1, -1⟩ else none
  again _ := some ⟨.busy, -1, -1, -1⟩
  init _ := true
  stateAfter _ := .ready

theorem phpGetProcess_selection_three :
    (selectServer 3 busyServers (.start 7)).1.inits =
      [⟨0, ⟨.busy, -1, -1, -1⟩, [.slot 0]⟩] ∧
    Selects 3 busyServers (selectServer 3 busyServers (.start 7)).1 (some 0) ∧
    ∃ first : Nat, (first : Int) < serverCount 3 ∧
      ∀ n < 5, selectResult 3 (fun _ => idleServers) 2 n = some ((first + n) % 3) := by
  obtain ⟨hone, hcalls⟩ := phpGetProcess_selection 3
  refine ⟨by decide, hone busyServers 7, ?_⟩
  exact hcalls (fun _ => idleServers) 2 5 (by decide) fun _ _ => ⟨rfl, fun _ _ => rfl⟩

end Spine
