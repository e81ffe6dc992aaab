import Mathlib.Data.List.Perm.Basic

/-!
# A sweep that removes by swapping with the last cell

An array is swept in place.  Each cell is asked about once.  A cell whose
answer says that it is done is overwritten by the last cell, the array gets one
cell shorter, and the sweep looks at the same index again.  Any other cell is
left where it is, and the sweep goes on to the next index.

* `swapRemove_append` splits what one removal does at the index.
* `sweep_swept`: the sweep asks about every cell exactly once, one after the other,
  and what is left are the cells whose answer was not a removal.
* `sweep_perm`: no cell is lost or doubled by the swaps.
-/

namespace Base.SwapRemove

variable {κ β ρ : Type*}

/-- `cells[i] = cells[count - 1]; count--`. -/
def swapRemove (cells : List κ) (i : Nat) : List κ :=
  match cells.getLast? with
  | none => []
  | some last => (cells.set i last).dropLast

/-- What a sweep leaves: the cells, each question with its answer, and the rest
of what answers. -/
structure Sweep (κ β ρ : Type*) where
  cells : List κ
  verdicts : List (κ × β)
  rest : ρ

/-- The sweep from the index `i` on.  Each round either removes a cell or goes
on to the next, so the number of cells is enough rounds. -/
def sweepFrom (ask : κ → ρ → β × ρ) (gone : κ → β → Bool) :
    Nat → Nat → List κ → ρ → Sweep κ β ρ
  | 0, _, cells, r => ⟨cells, [], r⟩
  | rounds + 1, i, cells, r =>
    match cells[i]? with
    | none => ⟨cells, [], r⟩
    | some k =>
      let answer := ask k r
      let s :=
        if gone k answer.1 then sweepFrom ask gone rounds i (swapRemove cells i) answer.2
        else sweepFrom ask gone rounds (i + 1) cells answer.2
      { s with verdicts := (k, answer.1) :: s.verdicts }

def sweep (ask : κ → ρ → β × ρ) (gone : κ → β → Bool) (cells : List κ) (r : ρ) : Sweep κ β ρ :=
  sweepFrom ask gone cells.length 0 cells r

/-- The cells before the index stay, and those after it are only moved. -/
theorem swapRemove_append (pre : List κ) (k : κ) (post : List κ) :
    ∃ post', swapRemove (pre ++ k :: post) pre.length = pre ++ post' ∧ post'.Perm post := by
  rcases List.eq_nil_or_concat post with rfl | ⟨mid, last, rfl⟩
  · exact ⟨[], by simp [swapRemove], .refl _⟩
  · rw [List.concat_eq_append]
    refine ⟨last :: mid, ?_, (List.perm_append_singleton last mid).symm⟩
    have hcells : pre ++ k :: (mid ++ [last]) = (pre ++ k :: mid) ++ [last] := by simp
    have hset : ((pre ++ k :: mid) ++ [last]).set pre.length last
        = (pre ++ last :: mid) ++ [last] := by simp
    rw [hcells, swapRemove, List.getLast?_concat]
    show (((pre ++ k :: mid) ++ [last]).set pre.length last).dropLast = _
    rw [hset, List.dropLast_concat]

section Sweep

variable {ask : κ → ρ → β × ρ} {gone : κ → β → Bool}

/-- The cells that a list of verdicts leaves. -/
def stays (gone : κ → β → Bool) (verdicts : List (κ × β)) : List κ :=
  (verdicts.filter fun v => !gone v.1 v.2).map Prod.fst

/-- The cells that a list of verdicts removes. -/
def removes (gone : κ → β → Bool) (verdicts : List (κ × β)) : List κ :=
  (verdicts.filter fun v => gone v.1 v.2).map Prod.fst

theorem removes_append_stays (verdicts : List (κ × β)) :
    (removes gone verdicts ++ stays gone verdicts).Perm (verdicts.map Prod.fst) := by
  rw [removes, stays, ← List.map_append]
  exact (List.filter_append_perm _ _).map Prod.fst

/-- The questions are asked in their order, each of what the one before it left. -/
def AskedInTurn (ask : κ → ρ → β × ρ) : ρ → List (κ × β) → Prop
  | _, [] => True
  | r, v :: verdicts => v.2 = (ask v.1 r).1 ∧ AskedInTurn ask (ask v.1 r).2 verdicts

/-- What a sweep has done that starts behind the cells `pre` and asks `r` first. -/
structure Swept (ask : κ → ρ → β × ρ) (gone : κ → β → Bool) (pre post : List κ) (r : ρ)
    (s : Sweep κ β ρ) : Prop where
  asked : (s.verdicts.map Prod.fst).Perm post
  left : s.cells.Perm (pre ++ stays gone s.verdicts)
  answered : AskedInTurn ask r s.verdicts

theorem Swept.refl (pre : List κ) (r : ρ) : Swept ask gone pre [] r ⟨pre, [], r⟩ where
  asked := .refl _
  left := by simp [stays]
  answered := trivial

theorem Swept.remove {pre post post' : List κ} {k : κ} {r : ρ} {s : Sweep κ β ρ}
    (h : Swept ask gone pre post' (ask k r).2 s) (hpost : post'.Perm post)
    (hgone : gone k (ask k r).1 = true) :
    Swept ask gone pre (k :: post) r { s with verdicts := (k, (ask k r).1) :: s.verdicts } where
  asked := (h.asked.trans hpost).cons k
  left := by
    have hstays : stays gone ((k, (ask k r).1) :: s.verdicts) = stays gone s.verdicts := by
      simp [stays, hgone]
    rw [hstays]
    exact h.left
  answered := ⟨rfl, h.answered⟩

theorem Swept.keep {pre post : List κ} {k : κ} {r : ρ} {s : Sweep κ β ρ}
    (h : Swept ask gone (pre ++ [k]) post (ask k r).2 s) (hgone : gone k (ask k r).1 = false) :
    Swept ask gone pre (k :: post) r { s with verdicts := (k, (ask k r).1) :: s.verdicts } where
  asked := h.asked.cons k
  left := by
    have hstays : stays gone ((k, (ask k r).1) :: s.verdicts) = k :: stays gone s.verdicts := by
      simp [stays, hgone]
    rw [hstays, List.append_cons]
    exact h.left
  answered := ⟨rfl, h.answered⟩

theorem sweepFrom_swept (rounds : Nat) : ∀ (pre post : List κ) (r : ρ), post.length ≤ rounds →
    Swept ask gone pre post r (sweepFrom ask gone rounds pre.length (pre ++ post) r) := by
  induction rounds with
  | zero =>
    intro pre post r hlen
    rw [List.length_eq_zero_iff.mp (Nat.le_zero.mp hlen), List.append_nil]
    exact Swept.refl pre r
  | succ rounds ih =>
    intro pre post r hlen
    cases post with
    | nil =>
      have hnone : pre[pre.length]? = none := by simp
      rw [List.append_nil]
      simp only [sweepFrom, hnone]
      exact Swept.refl pre r
    | cons k post =>
      have hsome : (pre ++ k :: post)[pre.length]? = some k := by simp
      have hle : post.length ≤ rounds := Nat.le_of_succ_le_succ hlen
      simp only [sweepFrom, hsome]
      split
      · rename_i hgone
        obtain ⟨post', heq, hperm⟩ := swapRemove_append pre k post
        rw [heq]
        exact (ih pre post' _ (hperm.length_eq ▸ hle)).remove hperm hgone
      · rename_i hgone
        have hnext := ih (pre ++ [k]) post (ask k r).2 hle
        rw [List.length_append, List.append_assoc] at hnext
        exact hnext.keep (Bool.eq_false_iff.mpr hgone)

theorem sweep_swept (cells : List κ) (r : ρ) :
    Swept ask gone [] cells r (sweep ask gone cells r) :=
  sweepFrom_swept cells.length [] cells r (Nat.le_refl _)

/-- The cells that are left and the cells that are removed are the cells there
were. -/
theorem sweep_perm (cells : List κ) (r : ρ) :
    ((sweep ask gone cells r).cells ++ removes gone (sweep ask gone cells r).verdicts).Perm
      cells := by
  have h : Swept ask gone [] cells r (sweep ask gone cells r) := sweep_swept cells r
  refine (h.left.append_right _).trans (List.perm_append_comm.trans ?_)
  exact (removes_append_stays _).trans h.asked

end Sweep

end Base.SwapRemove
