import Mathlib.Data.List.Basic

/-!
# Threads over a shared state

A program of several threads is a step function.  Thread `i` with the local
state `t` takes a step on the shared state `s` under the label `a`, or it
cannot.  The label carries what the environment decides, such as the answer
of a server.  A trace is a list of pairs of a thread and a label, so the
traces are exactly the interleavings of the threads' steps.

* `stepAt` lets one thread of a configuration take a step, and `run` follows a
  whole trace.
* `stepAt_eq_some` is the inversion of one step, with the frame condition
  that the other threads stay as they are.  `forall_locals_of_frame` uses the
  frame condition for a property of every thread.
* `run_invariant` is the induction over a trace.  `StepsMeet` restricts a trace
  by a condition on each of its steps, and `run_invariant_of_steps` is the
  induction over such a trace.
-/

namespace Base.Interleaving

variable {ι α σ τ : Type*}

/-- The shared state and the local state of every thread. -/
structure Config (ι σ τ : Type*) where
  shared : σ
  locals : ι → τ

/-- What one thread does: its index, a label, the shared state and its local
state give the two new states. -/
abbrev Step (ι α σ τ : Type*) := ι → α → σ → τ → Option (σ × τ)

section Runs

variable [DecidableEq ι] (step : Step ι α σ τ)

/-- One thread of a configuration takes a step. -/
def stepAt (c : Config ι σ τ) (e : ι × α) : Option (Config ι σ τ) :=
  (step e.1 e.2 c.shared (c.locals e.1)).map fun r =>
    ⟨r.1, Function.update c.locals e.1 r.2⟩

/-- The threads take the steps of a trace in order. -/
def run (c : Config ι σ τ) : List (ι × α) → Option (Config ι σ τ)
  | [] => some c
  | e :: trace => (stepAt step c e).bind fun c' => run c' trace

variable {step}

theorem stepAt_eq_some {c c' : Config ι σ τ} {e : ι × α} (h : stepAt step c e = some c') :
    ∃ s t, step e.1 e.2 c.shared (c.locals e.1) = some (s, t) ∧ c'.shared = s ∧
      c'.locals e.1 = t ∧ ∀ j, j ≠ e.1 → c'.locals j = c.locals j := by
  obtain ⟨r, hr, rfl⟩ := Option.map_eq_some_iff.1 h
  exact ⟨r.1, r.2, hr, rfl, Function.update_self _ _ _,
    fun j hj => Function.update_of_ne hj _ _⟩

omit [DecidableEq ι] in
/-- What holds of every thread and of the new state of the one that moved
holds of every thread afterwards. -/
theorem forall_locals_of_frame {P : ι → τ → Prop} {c c' : Config ι σ τ} {i : ι}
    (hframe : ∀ j, j ≠ i → c'.locals j = c.locals j) (hi : P i (c'.locals i))
    (h : ∀ j, P j (c.locals j)) (j : ι) : P j (c'.locals j) := by
  by_cases hj : j = i
  · rw [hj]
    exact hi
  · rw [hframe j hj]
    exact h j

theorem run_cons_eq_some {c c' : Config ι σ τ} {e : ι × α} {trace : List (ι × α)}
    (h : run step c (e :: trace) = some c') :
    ∃ d, stepAt step c e = some d ∧ run step d trace = some c' :=
  Option.bind_eq_some_iff.1 h

variable (step) in
/-- Each step of a trace starts from a configuration that, with the label of
the step, meets a condition. -/
def StepsMeet (P : Config ι σ τ → ι × α → Prop) : Config ι σ τ → List (ι × α) → Prop
  | _, [] => True
  | c, e :: trace => P c e ∧ ∀ d, stepAt step c e = some d → StepsMeet P d trace

/-- What holds at the start and is kept by every step that meets the condition
holds after every trace of such steps. -/
theorem run_invariant_of_steps {Inv : Config ι σ τ → Prop} {P : Config ι σ τ → ι × α → Prop}
    (hstep : ∀ c e c', Inv c → P c e → stepAt step c e = some c' → Inv c')
    {c c' : Config ι σ τ} {trace : List (ι × α)} (hinit : Inv c)
    (hmeet : StepsMeet step P c trace) (hrun : run step c trace = some c') : Inv c' := by
  induction trace generalizing c with
  | nil => exact Option.some.inj hrun ▸ hinit
  | cons e trace ih =>
    obtain ⟨d, hd, hrest⟩ := run_cons_eq_some hrun
    exact ih (hstep c e d hinit hmeet.1 hd) (hmeet.2 d hd) hrest

/-- A condition that the labels of a trace meet in every configuration. -/
theorem stepsMeet_of_labels {P : Config ι σ τ → ι × α → Prop} {trace : List (ι × α)}
    (h : ∀ e ∈ trace, ∀ c, P c e) (c : Config ι σ τ) : StepsMeet step P c trace := by
  induction trace generalizing c with
  | nil => trivial
  | cons e trace ih =>
    refine ⟨h e List.mem_cons_self c, fun d _ => ?_⟩
    exact ih (fun e' he' => h e' (List.mem_cons_of_mem e he')) d

/-- What holds at the start and is kept by every step holds after every
trace. -/
theorem run_invariant {Inv : Config ι σ τ → Prop}
    (hstep : ∀ c e c', Inv c → stepAt step c e = some c' → Inv c')
    {c c' : Config ι σ τ} {trace : List (ι × α)} (hinit : Inv c)
    (hrun : run step c trace = some c') : Inv c' := by
  have hmeet : StepsMeet step (fun _ _ => True) c trace :=
    stepsMeet_of_labels (fun _ _ _ => trivial) c
  exact run_invariant_of_steps (fun c e d hinv _ => hstep c e d hinv) hinit hmeet hrun

end Runs

end Base.Interleaving
