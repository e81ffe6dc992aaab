import Mathlib.Data.List.Basic
import Mathlib.Data.Option.Basic

/-!
# Bounded attempts

A program tries something until it is settled, but only a given number of times.
What each attempt meets is an input, and an attempt that has not got all of its
answers yet leaves the run open.

* `run` makes the attempts and counts them.
* `run_eq_done_iff` and `run_eq_gaveUp_iff` say when a run is settled and when it
  gives up, by the attempts that were made.
* `Reached` says that an attempt is made, and `exists_run_eq_done_iff` that such an
  attempt settles the run.
* `run_isSome` says that a run ends.
* `run_map` says that attempts which are judged alike give the same run.
-/

namespace Base.Attempts

variable {α β γ : Type*}

/-- What one attempt comes to. -/
inductive Verdict (β : Type*) where
  | done (b : β)
  | again
  deriving DecidableEq, Repr

/-- The attempts, with a limit: what settled the run if anything did, and the number
of attempts that were made.  There is no result while an attempt lacks an answer. -/
def run (f : α → Option (Verdict β)) : ℕ → List α → Option (Option β × ℕ)
  | 0, _ => some (none, 0)
  | _ + 1, [] => none
  | limit + 1, a :: attempts =>
    match f a with
    | none => none
    | some (.done b) => some (some b, 1)
    | some .again => (run f limit attempts).map fun r => (r.1, r.2 + 1)

section Run

variable {f : α → Option (Verdict β)} {limit : ℕ} {attempts : List α} {a : α} {b : β} {n : ℕ}

theorem run_cons_done (h : f a = some (.done b)) :
    run f (limit + 1) (a :: attempts) = some (some b, 1) := by
  rw [run, h]

theorem run_cons_again (h : f a = some .again) :
    run f (limit + 1) (a :: attempts) = (run f limit attempts).map fun r => (r.1, r.2 + 1) := by
  rw [run, h]

/-- A result is that of the first attempt or that of the others. -/
theorem run_succ_eq_some {r : Option β × ℕ} (h : run f (limit + 1) attempts = some r) :
    ∃ a rest, attempts = a :: rest ∧
      ((∃ b, f a = some (.done b) ∧ r = (some b, 1)) ∨
        f a = some .again ∧ ∃ s, run f limit rest = some s ∧ r = (s.1, s.2 + 1)) := by
  cases attempts with
  | nil => cases h
  | cons a rest =>
    refine ⟨a, rest, rfl, ?_⟩
    cases hf : f a with
    | none =>
      rw [run, hf] at h
      cases h
    | some verdict =>
      cases verdict with
      | done b =>
        rw [run_cons_done hf] at h
        exact Or.inl ⟨b, rfl, (Option.some.inj h).symm⟩
      | again =>
        rw [run_cons_again hf] at h
        obtain ⟨s, hs, hr⟩ := Option.map_eq_some_iff.1 h
        exact Or.inr ⟨rfl, s, hs, hr.symm⟩

/-- A run is settled by the first attempt that does not ask for another one. -/
theorem run_eq_done_iff :
    run f limit attempts = some (some b, n) ↔
      ∃ lost a rest, attempts = lost ++ a :: rest ∧ lost.length < limit ∧
        (∀ x ∈ lost, f x = some .again) ∧ f a = some (.done b) ∧ n = lost.length + 1 := by
  induction limit generalizing attempts n with
  | zero =>
    constructor
    · intro h
      cases h
    · rintro ⟨lost, a, rest, -, hlength, -⟩
      exact absurd hlength (Nat.not_lt_zero _)
  | succ limit ih =>
    constructor
    · intro h
      obtain ⟨a, rest, rfl, ⟨b', hf, hr⟩ | ⟨hf, s, hs, hr⟩⟩ := run_succ_eq_some h
      · obtain ⟨rfl, rfl⟩ : b = b' ∧ n = 1 := by simpa using hr
        exact ⟨[], a, rest, rfl, Nat.succ_pos limit, List.forall_mem_nil _, hf, rfl⟩
      · obtain ⟨result, count⟩ := s
        obtain ⟨rfl, rfl⟩ : some b = result ∧ n = count + 1 := by simpa using hr
        obtain ⟨lost, a', rest', rfl, hlength, hlost, hdone, rfl⟩ := ih.1 hs
        refine ⟨a :: lost, a', rest', rfl, Nat.succ_lt_succ hlength, ?_, hdone, rfl⟩
        rintro x (_ | ⟨_, hx⟩)
        · exact hf
        · exact hlost x hx
    · rintro ⟨lost, a, rest, rfl, hlength, hlost, hdone, rfl⟩
      cases lost with
      | nil => exact run_cons_done hdone
      | cons x lost =>
        have hrest : run f limit (lost ++ a :: rest) = some (some b, lost.length + 1) :=
          ih.2 ⟨lost, a, rest, rfl, Nat.lt_of_succ_lt_succ hlength,
            fun y hy => hlost y (List.mem_cons_of_mem x hy), hdone, rfl⟩
        rw [List.cons_append, run_cons_again (hlost x List.mem_cons_self), hrest]
        rfl

/-- The attempt is made: it is within the limit, and those before it asked for more. -/
def Reached (f : α → Option (Verdict β)) (limit : ℕ) (attempts : List α) (a : α) : Prop :=
  ∃ lost rest, attempts = lost ++ a :: rest ∧ lost.length < limit ∧
    ∀ x ∈ lost, f x = some .again

/-- What settles a run is an attempt that is made. -/
theorem exists_run_eq_done_iff :
    (∃ n, run f limit attempts = some (some b, n)) ↔
      ∃ a, Reached f limit attempts a ∧ f a = some (.done b) := by
  constructor
  · rintro ⟨n, h⟩
    obtain ⟨lost, a, rest, hattempts, hlength, hlost, hdone, -⟩ := run_eq_done_iff.1 h
    exact ⟨a, ⟨lost, rest, hattempts, hlength, hlost⟩, hdone⟩
  · rintro ⟨a, ⟨lost, rest, hattempts, hlength, hlost⟩, hdone⟩
    exact ⟨_, run_eq_done_iff.2 ⟨lost, a, rest, hattempts, hlength, hlost, hdone, rfl⟩⟩

/-- Where every attempt has its answers, one that settles the run is reached if it is
within the limit. -/
theorem exists_reached_iff (hanswered : ∀ a ∈ attempts, (f a).isSome) :
    (∃ a b, Reached f limit attempts a ∧ f a = some (.done b)) ↔
      ∃ a ∈ attempts.take limit, ∃ b, f a = some (.done b) := by
  constructor
  · rintro ⟨a, b, ⟨lost, rest, rfl, hlength, -⟩, hdone⟩
    refine ⟨a, ?_, b, hdone⟩
    rw [List.take_append, List.mem_append]
    right
    obtain ⟨k, hk⟩ : ∃ k, limit - lost.length = k + 1 := ⟨limit - lost.length - 1, by omega⟩
    rw [hk]
    exact List.mem_cons_self
  · induction attempts generalizing limit with
    | nil =>
      rintro ⟨a, ha, -⟩
      rw [List.take_nil] at ha
      cases ha
    | cons x attempts ih =>
      rintro ⟨a, ha, b, hdone⟩
      cases limit with
      | zero => cases ha
      | succ limit =>
        obtain ⟨verdict, hverdict⟩ := Option.isSome_iff_exists.1 (hanswered x List.mem_cons_self)
        cases verdict with
        | done c => exact ⟨x, c, ⟨[], attempts, rfl, Nat.succ_pos limit, List.forall_mem_nil _⟩,
            hverdict⟩
        | again =>
          rcases List.mem_cons.1 ha with rfl | ha
          · rw [hverdict] at hdone
            cases hdone
          · obtain ⟨a', b', ⟨lost, rest, rfl, hlength, hlost⟩, hdone'⟩ :=
              ih (fun y hy => hanswered y (List.mem_cons_of_mem x hy)) ⟨a, ha, b, hdone⟩
            refine ⟨a', b', ⟨x :: lost, rest, rfl, Nat.succ_lt_succ hlength, ?_⟩, hdone'⟩
            rintro y (_ | ⟨_, hy⟩)
            · exact hverdict
            · exact hlost y hy

/-- A run gives up after as many attempts as it may make. -/
theorem run_eq_gaveUp_iff :
    run f limit attempts = some (none, n) ↔
      n = limit ∧ limit ≤ attempts.length ∧ ∀ x ∈ attempts.take limit, f x = some .again := by
  induction limit generalizing attempts n with
  | zero => simp [run, eq_comm]
  | succ limit ih =>
    constructor
    · intro h
      obtain ⟨a, rest, rfl, ⟨b', hf, hr⟩ | ⟨hf, s, hs, hr⟩⟩ := run_succ_eq_some h
      · cases hr
      · obtain ⟨result, count⟩ := s
        obtain ⟨rfl, rfl⟩ : none = result ∧ n = count + 1 := by simpa using hr
        obtain ⟨rfl, hlength, hrest⟩ := ih.1 hs
        refine ⟨rfl, Nat.succ_le_succ hlength, ?_⟩
        rintro x (_ | ⟨_, hx⟩)
        · exact hf
        · exact hrest x hx
    · rintro ⟨rfl, hlength, hagain⟩
      cases attempts with
      | nil => exact absurd hlength (Nat.not_succ_le_zero limit)
      | cons a rest =>
        have hrest : run f limit rest = some (none, limit) :=
          ih.2 ⟨rfl, Nat.le_of_succ_le_succ hlength,
            fun x hx => hagain x (List.mem_cons_of_mem a hx)⟩
        rw [run_cons_again (hagain a List.mem_cons_self), hrest]
        rfl

/-- A run ends if it has enough attempts and each of them has its answers. -/
theorem run_isSome (hlength : limit ≤ attempts.length)
    (hanswered : ∀ a ∈ attempts, (f a).isSome) : (run f limit attempts).isSome := by
  induction limit generalizing attempts with
  | zero => rfl
  | succ limit ih =>
    cases attempts with
    | nil => exact absurd hlength (Nat.not_succ_le_zero limit)
    | cons a rest =>
      obtain ⟨verdict, hverdict⟩ := Option.isSome_iff_exists.1 (hanswered a List.mem_cons_self)
      cases verdict with
      | done b =>
        rw [run_cons_done hverdict]
        rfl
      | again =>
        rw [run_cons_again hverdict, Option.isSome_map]
        exact ih (Nat.le_of_succ_le_succ hlength)
          fun x hx => hanswered x (List.mem_cons_of_mem a hx)

/-- The number of attempts is within the limit. -/
theorem run_count_le {r : Option β × ℕ} (h : run f limit attempts = some r) : r.2 ≤ limit := by
  obtain ⟨result, count⟩ := r
  cases result with
  | none => exact Nat.le_of_eq (run_eq_gaveUp_iff.1 h).1
  | some b =>
    obtain ⟨lost, _, _, _, hlength, _, _, hcount⟩ := run_eq_done_iff.1 h
    show count ≤ limit
    omega

/-- Attempts that are changed and judged as before give the same run. -/
theorem run_map {g : γ → α} {f' : γ → Option (Verdict β)} {changed : List γ}
    (h : ∀ c ∈ changed, f (g c) = f' c) :
    run f limit (changed.map g) = run f' limit changed := by
  induction limit generalizing changed with
  | zero => rfl
  | succ limit ih =>
    cases changed with
    | nil => rfl
    | cons c rest =>
      have hrest := ih fun x hx => h x (List.mem_cons_of_mem c hx)
      rw [List.map_cons, run, run, h c List.mem_cons_self, hrest]

end Run

end Base.Attempts
