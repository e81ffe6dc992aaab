import Mathlib.Data.Option.Basic

/-!
# Bodies with one exit

A body is a chain of stages.  Each stage changes the state and says whether the
body goes on or leaves for its one cleanup.  A stage has no result when the
answers it was given cannot occur.

* `andThen` is the chain of two stages.
* `Triple` is a rule for a stage: what holds before it, what holds after it when
  the body goes on, and what holds when the body leaves.  `Triple.andThen` is the
  rule for a chain.
* `bind_eq_ok` and `map_eq_ok` take a body apart that ends with an error instead of a
  cleanup.
-/

namespace Base.Stages

variable {σ : Type*}

abbrev Stage (σ : Type*) := σ → Option (σ × Bool)

/-- The second stage runs if the first one goes on. -/
def andThen (a b : Stage σ) : Stage σ := fun s =>
  (a s).bind fun r => if r.2 then b r.1 else some (r.1, false)

/-- A stage that only decides. -/
def check (ok : Bool) : Stage σ := fun s => some (s, ok)

/-- From `P` the stage goes on with `Q` or leaves with `R`. -/
structure Triple (P : σ → Prop) (a : Stage σ) (Q R : σ → Prop) : Prop where
  goesOn : ∀ s s', P s → a s = some (s', true) → Q s'
  leaves : ∀ s s', P s → a s = some (s', false) → R s'

variable {P Q R S : σ → Prop} {a b : Stage σ}

theorem Triple.andThen (ha : Triple P a Q R) (hb : Triple Q b S R) :
    Triple P (andThen a b) S R := by
  refine ⟨fun s s' hs h => ?_, fun s s' hs h => ?_⟩
  · obtain ⟨⟨m, ok⟩, hm, hnext⟩ := Option.bind_eq_some_iff.mp h
    cases ok with
    | true => exact hb.goesOn m s' (ha.goesOn s m hs hm) hnext
    | false => cases hnext
  · obtain ⟨⟨m, ok⟩, hm, hnext⟩ := Option.bind_eq_some_iff.mp h
    cases ok with
    | true => exact hb.leaves m s' (ha.goesOn s m hs hm) hnext
    | false =>
      cases hnext
      exact ha.leaves s m hs hm

theorem Triple.check (ok : Bool) (hR : ∀ s, P s → R s) : Triple P (check ok) P R := by
  refine ⟨fun s s' hs h => ?_, fun s s' hs h => ?_⟩
  · cases h
    exact hs
  · cases h
    exact hR s hs

theorem bind_eq_ok {ε α β : Type*} {x : Except ε α} {f : α → Except ε β} {b : β} :
    x.bind f = .ok b ↔ ∃ a, x = .ok a ∧ f a = .ok b := by
  cases x with
  | error e => simp [Except.bind]
  | ok a => simp [Except.bind]

theorem map_eq_ok {ε α β : Type*} {x : Except ε α} {f : α → β} {b : β} :
    x.map f = .ok b ↔ ∃ a, x = .ok a ∧ f a = b := by
  cases x with
  | error e => simp [Except.map]
  | ok a => simp [Except.map]

end Base.Stages
