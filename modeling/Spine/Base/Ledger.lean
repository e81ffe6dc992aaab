import Mathlib.Data.List.Basic

/-!
# Logs of resources

A program acquires resources and releases them.  Its log lists both in their
order.  Every acquisition is a resource of its own, so that one that comes
after a release has another name.

* `history` picks the entries of one resource.  It splits over appended logs,
  and the entries of the others do not matter.
* `Balanced` says that every resource that was acquired was released
  afterwards, once, and that nothing else was released.
* `Leaves` says the same of all but a list of resources, which are still held.
  `leaves_of_perm` reads it off a log that acquires first and releases then.
* `inTurn` is the log of resources that follow one another, and `balanced_inTurn`
  says that it is balanced.  `not_balanced_of_releases` is the other side: a
  resource that is released twice.
-/

namespace Base.Ledger

/-- An entry of a log. -/
inductive Event (ρ : Type*) where
  | acquire (r : ρ)
  | release (r : ρ)
  deriving DecidableEq, Repr

variable {ρ : Type*} [DecidableEq ρ] {r s : ρ} {log : List (Event ρ)}

omit [DecidableEq ρ] in
/-- The resource of an entry. -/
def Event.resource : Event ρ → ρ
  | .acquire r => r
  | .release r => r

/-- The entries of one resource. -/
def history (r : ρ) (log : List (Event ρ)) : List (Event ρ) :=
  log.filter fun e => decide (e.resource = r)

theorem history_append (r : ρ) (log log' : List (Event ρ)) :
    history r (log ++ log') = history r log ++ history r log' :=
  List.filter_append log log'

theorem history_cons_self (e : Event ρ) (log : List (Event ρ)) :
    history e.resource (e :: log) = e :: history e.resource log :=
  List.filter_cons_of_pos (by simp)

theorem history_cons_of_ne {e : Event ρ} (h : e.resource ≠ r) (log : List (Event ρ)) :
    history r (e :: log) = history r log :=
  List.filter_cons_of_neg (by simpa using h)

/-- A log without a resource has no history of it. -/
theorem history_eq_nil (h : ∀ e ∈ log, e.resource ≠ r) : history r log = [] :=
  List.filter_eq_nil_iff.2 fun e he => by simpa using h e he

/-- A resource that was not acquired, or was acquired and then released. -/
def ReleasedOnce (r : ρ) (log : List (Event ρ)) : Prop :=
  history r log = [] ∨ history r log = [.acquire r, .release r]

/-- No resource is left, and none is released twice. -/
def Balanced (log : List (Event ρ)) : Prop := ∀ r, ReleasedOnce r log

theorem releasedOnce_of_nil (h : history r log = []) : ReleasedOnce r log := Or.inl h

/-- A resource that is never released is not released once. -/
theorem not_releasedOnce (h : history r log = [.acquire r]) : ¬ ReleasedOnce r log := by
  rintro (hnil | hpair)
  · rw [h] at hnil
    cases hnil
  · rw [h] at hpair
    cases hpair

theorem ReleasedOnce.append_nil {log' : List (Event ρ)} (h : ReleasedOnce r log)
    (hnil : history r log' = []) : ReleasedOnce r (log ++ log') := by
  unfold ReleasedOnce
  rw [history_append, hnil, List.append_nil]
  exact h

theorem ReleasedOnce.nil_append {log' : List (Event ρ)} (h : ReleasedOnce r log')
    (hnil : history r log = []) : ReleasedOnce r (log ++ log') := by
  unfold ReleasedOnce
  rw [history_append, hnil, List.nil_append]
  exact h

/-! ## Resources around a log -/

section Around

variable {f : ρ → Event ρ} {held : List ρ}

theorem history_map_of_notMem (hf : ∀ r, (f r).resource = r) (hr : r ∉ held) :
    history r (held.map f) = [] := by
  refine history_eq_nil fun e he => ?_
  obtain ⟨q, hq, rfl⟩ := List.mem_map.1 he
  rw [hf q]
  exact fun heq => hr (heq ▸ hq)

theorem history_map (hf : ∀ r, (f r).resource = r) (hnodup : held.Nodup) (hr : r ∈ held) :
    history r (held.map f) = [f r] := by
  induction held with
  | nil => cases hr
  | cons s held ih =>
    obtain ⟨hs, hrest⟩ := List.nodup_cons.1 hnodup
    rw [List.map_cons]
    by_cases hsr : s = r
    · rw [hsr] at hs ⊢
      have hself := history_cons_self (f r) (held.map f)
      rw [hf r, history_map_of_notMem hf hs] at hself
      exact hself
    · rw [history_cons_of_ne (by rw [hf s]; exact hsr)]
      exact ih hrest ((List.mem_cons.1 hr).resolve_left (Ne.symm hsr))

/-- Resources that are held around a log are released once, and they do not
matter to the others. -/
theorem balanced_around_iff (held : List ρ) (log : List (Event ρ)) (hnodup : held.Nodup)
    (hheld : ∀ r ∈ held, history r log = []) :
    Balanced (held.map .acquire ++ log ++ held.map .release) ↔ Balanced log := by
  refine forall_congr' fun r => ?_
  unfold ReleasedOnce
  rw [history_append, history_append]
  by_cases hr : r ∈ held
  · rw [history_map (fun _ => rfl) hnodup hr, history_map (fun _ => rfl) hnodup hr, hheld r hr]
    exact iff_of_true (Or.inr rfl) (Or.inl rfl)
  · rw [history_map_of_notMem (fun _ => rfl) hr, history_map_of_notMem (fun _ => rfl) hr,
      List.nil_append, List.append_nil]

/-- The same, released in another order. -/
theorem balanced_around_of_perm {acquired released : List ρ} (hnodup : acquired.Nodup)
    (hperm : acquired.Perm released) (hheld : ∀ r ∈ acquired, history r log = [])
    (hlog : Balanced log) :
    Balanced (acquired.map .acquire ++ log ++ released.map .release) := by
  intro r
  have hsame : history r (released.map .release) = history r (acquired.map .release) := by
    by_cases hr : r ∈ acquired
    · rw [history_map (fun _ => rfl) hnodup hr,
        history_map (fun _ => rfl) (hperm.nodup_iff.1 hnodup) (hperm.mem_iff.1 hr)]
    · rw [history_map_of_notMem (fun _ => rfl) hr,
        history_map_of_notMem (fun _ => rfl) fun h => hr (hperm.mem_iff.2 h)]
  have haround := (balanced_around_iff acquired log hnodup hheld).2 hlog r
  unfold ReleasedOnce at haround ⊢
  rw [history_append] at haround ⊢
  rw [hsame]
  exact haround

end Around

/-! ## What is left -/

/-- The resources of the list are held, and every other one was released once if
it was acquired at all. -/
def Leaves (log : List (Event ρ)) (kept : List ρ) : Prop :=
  (∀ r ∈ kept, history r log = [.acquire r]) ∧ ∀ r ∉ kept, ReleasedOnce r log

theorem Leaves.balanced (h : Leaves log []) : Balanced log :=
  fun r => h.2 r List.not_mem_nil

/-- A log that acquires some resources and then releases all of them but the
kept ones, in any order. -/
theorem leaves_of_perm {acquired released kept : List ρ} (hnodup : acquired.Nodup)
    (hperm : acquired.Perm (released ++ kept)) :
    Leaves (acquired.map .acquire ++ released.map .release) kept := by
  have hsplit := List.nodup_append.1 (hperm.nodup_iff.1 hnodup)
  obtain ⟨hreleased, -, hdisjoint⟩ := hsplit
  have hmem : ∀ r, r ∈ acquired ↔ r ∈ released ∨ r ∈ kept := fun r => by
    rw [hperm.mem_iff, List.mem_append]
  constructor
  · intro r hr
    have hnot : r ∉ released := fun hrel => hdisjoint r hrel r hr rfl
    rw [history_append, history_map (fun _ => rfl) hnodup ((hmem r).2 (Or.inr hr)),
      history_map_of_notMem (fun _ => rfl) hnot]
    rfl
  · intro r hr
    unfold ReleasedOnce
    rw [history_append]
    by_cases hrel : r ∈ released
    · rw [history_map (fun _ => rfl) hnodup ((hmem r).2 (Or.inl hrel)),
        history_map (fun _ => rfl) hreleased hrel]
      exact Or.inr rfl
    · have hnot : r ∉ acquired := fun h => ((hmem r).1 h).elim hrel hr
      rw [history_map_of_notMem (fun _ => rfl) hnot, history_map_of_notMem (fun _ => rfl) hrel]
      exact Or.inl rfl

/-! ## One after the other -/

/-- Each resource is released before the next one is acquired. -/
def inTurn (rs : List ρ) : List (Event ρ) := rs.flatMap fun r => [.acquire r, .release r]

omit [DecidableEq ρ] in
theorem inTurn_concat (rs : List ρ) (r : ρ) :
    inTurn (rs ++ [r]) = inTurn rs ++ [.acquire r] ++ [.release r] := by
  unfold inTurn
  rw [List.flatMap_append, List.append_assoc]
  rfl

theorem history_inTurn_of_notMem {rs : List ρ} (h : r ∉ rs) : history r (inTurn rs) = [] := by
  refine history_eq_nil fun e he => ?_
  obtain ⟨s, hs, hmem⟩ := List.mem_flatMap.1 he
  have hresource : e.resource = s := by
    rcases List.mem_pair.1 hmem with rfl | rfl <;> rfl
  rw [hresource]
  exact fun heq => h (heq ▸ hs)

theorem balanced_inTurn {rs : List ρ} (h : rs.Nodup) : Balanced (inTurn rs) := by
  intro r
  induction rs with
  | nil => exact releasedOnce_of_nil rfl
  | cons s rs ih =>
    obtain ⟨hs, hrest⟩ := List.nodup_cons.1 h
    have hsplit : inTurn (s :: rs) = [.acquire s, .release s] ++ inTurn rs := rfl
    rw [hsplit]
    by_cases hr : s = r
    · refine ReleasedOnce.append_nil (Or.inr ?_) (history_inTurn_of_notMem (hr ▸ hs))
      rw [hr]
      simp [history, Event.resource]
    · refine (ih hrest).nil_append (history_eq_nil fun e he => ?_)
      rcases List.mem_pair.1 he with rfl | rfl <;> exact hr

theorem not_balanced_of_releases (h : 2 ≤ log.count (.release r)) : ¬ Balanced log := by
  intro hbalanced
  have hcount : (history r log).count (.release r) = log.count (.release r) :=
    List.count_filter (by simp [Event.resource])
  rw [← hcount] at h
  rcases hbalanced r with hnil | hpair
  · rw [hnil] at h
    exact absurd h (by simp)
  · rw [hpair] at h
    exact absurd h (by simp)

end Base.Ledger
