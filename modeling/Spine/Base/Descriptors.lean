import Mathlib.Data.List.Basic

/-!
# Descriptor tables and file actions

A process has a table of descriptors.  Each entry refers to an open file and has a
close-on-exec flag.  `posix_spawn` gives the child a copy of the table, runs a list of
file actions on the copy in their order, and closes what is marked when the new
program starts.

* `lowestFree`, `pipe`, `dup` and `setCloexec` are the calls of the parent.  New
  descriptors get the lowest numbers that are free, below a limit.
* `Opens` says which entries one table has more than another, whatever calls were made
  in between.
* `FileAction.run` is one action, and `childTable` is what the child starts with.
* `childTable_closes` is the rule for a list of closes at the end of the actions.

Files are of an arbitrary type, and nothing here knows what they are.
-/

namespace Base.Descriptors

variable {φ : Type*}

/-- An entry of a table. -/
structure Descriptor (φ : Type*) where
  file : φ
  cloexec : Bool
  deriving DecidableEq, Repr

/-- A table: the open descriptors. -/
abbrev Table (φ : Type*) := Nat → Option (Descriptor φ)

/-- The table with one entry replaced. -/
def Table.set (t : Table φ) (fd : Nat) (entry : Option (Descriptor φ)) : Table φ :=
  fun n => if n = fd then entry else t n

@[simp] theorem Table.set_same (t : Table φ) (fd : Nat) (entry : Option (Descriptor φ)) :
    t.set fd entry fd = entry :=
  if_pos rfl

@[simp] theorem Table.set_ne (t : Table φ) {fd n : Nat} (h : n ≠ fd)
    (entry : Option (Descriptor φ)) : t.set fd entry n = t n :=
  if_neg h

/-! ## The calls of the parent -/

/-- The lowest number below the limit that is not open. -/
def lowestFree (limit : Nat) (t : Table φ) : Option Nat :=
  (List.range limit).find? fun n => (t n).isNone

/-- `pipe`, with the two ends of the new pipe: the table and the two numbers. -/
def pipe (limit : Nat) (readEnd writeEnd : φ) (t : Table φ) : Option (Table φ × Nat × Nat) :=
  match lowestFree limit t with
  | none => none
  | some rd =>
    let opened := t.set rd (some ⟨readEnd, false⟩)
    match lowestFree limit opened with
    | none => none
    | some wr => some (opened.set wr (some ⟨writeEnd, false⟩), rd, wr)

/-- `dup`. -/
def dup (limit fd : Nat) (t : Table φ) : Option (Table φ × Nat) :=
  match t fd, lowestFree limit t with
  | some entry, some copy => some (t.set copy (some ⟨entry.file, false⟩), copy)
  | _, _ => none

/-- `fcntl` with `FD_CLOEXEC`. -/
def setCloexec (fd : Nat) (t : Table φ) : Table φ :=
  t.set fd ((t fd).map fun entry => ⟨entry.file, true⟩)

section Calls

variable {limit fd rd wr copy : Nat} {t t' : Table φ} {readEnd writeEnd file : φ}

theorem lowestFree_eq_some (h : lowestFree limit t = some fd) :
    t fd = none ∧ ∀ n < fd, t n ≠ none := by
  obtain ⟨hfree, before, after, hrange, hbefore⟩ := List.find?_eq_some_iff_append.1 h
  refine ⟨Option.isNone_iff_eq_none.1 hfree, fun n hn hnone => ?_⟩
  have hfd : fd = before.length := by
    have hget : (List.range limit)[before.length]? = some fd := by
      rw [hrange, List.getElem?_append_right (Nat.le_refl _), Nat.sub_self]
      rfl
    obtain ⟨hlt, hvalue⟩ := List.getElem?_eq_some_iff.1 hget
    rw [List.getElem_range] at hvalue
    exact hvalue.symm
  have hmem : n ∈ before := by
    have hget : (List.range limit)[n]? = some n := by
      have hlt : n < limit := by
        have hlength := congrArg List.length hrange
        rw [List.length_range, List.length_append, List.length_cons] at hlength
        omega
      rw [List.getElem?_range hlt]
    rw [hrange, List.getElem?_append_left (by omega)] at hget
    exact List.mem_of_getElem? hget
  have hbusy := hbefore n hmem
  rw [hnone] at hbusy
  cases hbusy

/-- The next number that is given out is higher. -/
theorem lowestFree_lt {entry : Descriptor φ} (h : lowestFree limit t = some rd)
    (hnext : lowestFree limit (t.set rd (some entry)) = some wr) : rd < wr := by
  obtain ⟨hfree, -⟩ := lowestFree_eq_some hnext
  obtain ⟨-, hbusy⟩ := lowestFree_eq_some h
  rcases Nat.lt_trichotomy wr rd with hlt | heq | hgt
  · rw [Table.set_ne t (Nat.ne_of_lt hlt)] at hfree
    exact absurd hfree (hbusy wr hlt)
  · rw [heq, Table.set_same] at hfree
    cases hfree
  · exact hgt

theorem pipe_eq_some (h : pipe limit readEnd writeEnd t = some (t', rd, wr)) :
    lowestFree limit t = some rd ∧
      lowestFree limit (t.set rd (some ⟨readEnd, false⟩)) = some wr ∧
      t' = (t.set rd (some ⟨readEnd, false⟩)).set wr (some ⟨writeEnd, false⟩) := by
  unfold pipe at h
  cases hread : lowestFree limit t with
  | none =>
    rw [hread] at h
    cases h
  | some rd' =>
    rw [hread] at h
    dsimp only at h
    cases hwrite : lowestFree limit (t.set rd' (some ⟨readEnd, false⟩)) with
    | none =>
      rw [hwrite] at h
      cases h
    | some wr' =>
      rw [hwrite] at h
      cases h
      exact ⟨rfl, hwrite, rfl⟩

theorem dup_eq_some (h : dup limit fd t = some (t', copy)) :
    ∃ entry, t fd = some entry ∧ lowestFree limit t = some copy ∧
      t' = t.set copy (some ⟨entry.file, false⟩) := by
  unfold dup at h
  cases hentry : t fd with
  | none =>
    rw [hentry] at h
    cases h
  | some entry =>
    cases hfree : lowestFree limit t with
    | none =>
      rw [hentry, hfree] at h
      cases h
    | some copy' =>
      rw [hentry, hfree] at h
      cases h
      exact ⟨entry, rfl, rfl, rfl⟩

theorem setCloexec_set_self (t : Table φ) (fd : Nat) (entry : Descriptor φ) :
    setCloexec fd (t.set fd (some entry)) = t.set fd (some ⟨entry.file, true⟩) := by
  unfold setCloexec
  funext n
  by_cases hn : n = fd
  · rw [hn, Table.set_same, Table.set_same, Table.set_same]
    rfl
  · rw [Table.set_ne _ hn, Table.set_ne _ hn, Table.set_ne _ hn]

theorem setCloexec_set_of_ne (t : Table φ) {fd n : Nat} (hne : fd ≠ n)
    (entry : Option (Descriptor φ)) :
    setCloexec fd (t.set n entry) = (setCloexec fd t).set n entry := by
  unfold setCloexec
  funext m
  rw [Table.set_ne t hne]
  by_cases hm : m = n
  · rw [hm, Table.set_same, Table.set_ne _ (Ne.symm hne), Table.set_same]
  · rw [Table.set_ne _ hm]
    by_cases hfd : m = fd
    · rw [hfd, Table.set_same, Table.set_same]
    · rw [Table.set_ne _ hfd, Table.set_ne _ hfd, Table.set_ne _ hm]

end Calls

/-! ## New entries -/

/-- The second table has the new entries where the first has none, and is the same
everywhere else. -/
structure Opens (t t' : Table φ) (new : List (Nat × Descriptor φ)) : Prop where
  free : ∀ p ∈ new, t p.1 = none
  opened : ∀ p ∈ new, t' p.1 = some p.2
  same : ∀ n, n ∉ new.map Prod.fst → t' n = t n

section Opens

variable {t t' t'' : Table φ} {new new' : List (Nat × Descriptor φ)} {n : Nat}

theorem opens_nil (t : Table φ) : Opens t t [] := ⟨nofun, nofun, fun _ _ => rfl⟩

theorem opens_set {fd : Nat} (hfree : t fd = none) (entry : Descriptor φ) :
    Opens t (t.set fd (some entry)) [(fd, entry)] := by
  refine ⟨fun p hp => ?_, fun p hp => ?_, fun n hn => ?_⟩
  · rw [List.mem_singleton.1 hp]
    exact hfree
  · rw [List.mem_singleton.1 hp]
    exact Table.set_same t fd _
  · exact Table.set_ne t (fun heq => hn (by simp [heq])) _

/-- What is open stays as it is. -/
theorem Opens.of_open (h : Opens t t' new) {entry : Descriptor φ} (hn : t n = some entry) :
    t' n = some entry := by
  rw [h.same n, hn]
  intro hmem
  obtain ⟨p, hp, rfl⟩ := List.mem_map.1 hmem
  rw [h.free p hp] at hn
  cases hn

theorem Opens.trans (h : Opens t t' new) (h' : Opens t' t'' new') :
    Opens t t'' (new ++ new') := by
  have hfree : ∀ p ∈ new', t p.1 = none := by
    intro p hp
    by_contra hopen
    obtain ⟨entry, hentry⟩ := Option.ne_none_iff_exists'.1 hopen
    have hbusy := h.of_open hentry
    rw [h'.free p hp] at hbusy
    cases hbusy
  refine ⟨fun p hp => ?_, fun p hp => ?_, fun n hn => ?_⟩
  · exact (List.mem_append.1 hp).elim (h.free p) (hfree p)
  · rcases List.mem_append.1 hp with hp | hp
    · exact h'.of_open (h.opened p hp)
    · exact h'.opened p hp
  · rw [List.map_append, List.mem_append, not_or] at hn
    rw [h'.same n hn.2, h.same n hn.1]

end Opens

/-! ## File actions -/

/-- An action of `posix_spawn` on the table of the child. -/
inductive FileAction where
  | close (fd : Nat)
  | dup2 (source target : Nat)
  deriving DecidableEq, Repr

/-- One action.  Closing a descriptor that is not open is no error.  A copy is not
marked, but a `dup2` of a descriptor onto itself does nothing. -/
def FileAction.run (action : FileAction) (t : Table φ) : Option (Table φ) :=
  match action with
  | .close fd => some (t.set fd none)
  | .dup2 source target =>
    match t source with
    | none => none
    | some entry =>
      if source = target then some t else some (t.set target (some ⟨entry.file, false⟩))

/-- The actions in their order. -/
def runActions : List FileAction → Table φ → Option (Table φ)
  | [], t => some t
  | action :: actions, t => (action.run t).bind (runActions actions)

/-- What is left when the new program starts. -/
def closeOnExec (t : Table φ) : Table φ := fun n => (t n).filter fun entry => !entry.cloexec

/-- The table that the child of `posix_spawn` starts with. -/
def childTable (actions : List FileAction) (t : Table φ) : Option (Table φ) :=
  (runActions actions t).map closeOnExec

section Actions

variable {t : Table φ} {actions : List FileAction}

theorem runActions_append (actions later : List FileAction) (t : Table φ) :
    runActions (actions ++ later) t = (runActions actions t).bind (runActions later) := by
  induction actions generalizing t with
  | nil => rfl
  | cons action actions ih =>
    show (action.run t).bind (runActions (actions ++ later)) =
      ((action.run t).bind (runActions actions)).bind (runActions later)
    cases action.run t with
    | none => rfl
    | some next => exact ih next

theorem runActions_close (fd : Nat) (actions : List FileAction) (t : Table φ) :
    runActions (.close fd :: actions) t = runActions actions (t.set fd none) := rfl

theorem runActions_dup2 {source target : Nat} {entry : Descriptor φ} (hopen : t source = some entry)
    (hne : source ≠ target) (actions : List FileAction) :
    runActions (.dup2 source target :: actions) t =
      runActions actions (t.set target (some ⟨entry.file, false⟩)) := by
  show (FileAction.run (.dup2 source target) t).bind _ = _
  rw [FileAction.run, hopen]
  dsimp only
  rw [if_neg hne]
  rfl

/-- A list of closes. -/
theorem runActions_closes (fds : List Nat) (t : Table φ) :
    runActions (fds.map .close) t = some fun n => if n ∈ fds then none else t n := by
  induction fds generalizing t with
  | nil =>
    refine congrArg some (funext fun n => ?_)
    rw [if_neg List.not_mem_nil]
  | cons fd fds ih =>
    rw [List.map_cons, runActions_close, ih]
    refine congrArg some (funext fun n => ?_)
    by_cases hfd : n = fd
    · rw [hfd, Table.set_same, if_pos List.mem_cons_self, ite_self]
    · rw [Table.set_ne t hfd]
      simp only [List.mem_cons, hfd, false_or]

theorem closeOnExec_unmarked {n : Nat} {file : φ} (h : t n = some ⟨file, false⟩) :
    closeOnExec t n = some ⟨file, false⟩ := by
  rw [closeOnExec, h]
  rfl

theorem closeOnExec_eq_some {n : Nat} {entry : Descriptor φ} (h : closeOnExec t n = some entry) :
    t n = some entry ∧ entry.cloexec = false := by
  obtain ⟨hentry, hunmarked⟩ := Option.filter_eq_some_iff.1 h
  exact ⟨hentry, by simpa using hunmarked⟩

/-- Actions that end with a list of closes: what the first part leaves, without the
closed descriptors and without the marked ones. -/
theorem childTable_closes {middle : Table φ} (h : runActions actions t = some middle)
    (fds : List Nat) :
    childTable (actions ++ fds.map .close) t =
      some (closeOnExec fun n => if n ∈ fds then none else middle n) := by
  rw [childTable, runActions_append, h, Option.bind_some, runActions_closes]
  rfl

end Actions

end Base.Descriptors
