import Spine.Base.Custody

/-!
# Numbered things in fields and records

Things are numbered as they are issued.  Each one stands in one field of a
state, or its number was filed in one of the state's records.

* `Filed` says this of the fields `f`, the records and the count `n`.
* `Filed.nothing` is the start.  `Filed.issue`, `Filed.file` and `Filed.move` are
  the three changes: a new thing in an empty field, a thing from its field to a
  record, and a thing from one field to another.
-/

namespace Base.Filing

open Base.Custody

variable {α ε ρ : Type*}

/-- A field or a record. -/
inductive Holder (α ρ : Type*) where
  | field (p : α)
  | record (r : ρ)

/-- Who holds the number `k`. -/
def holds (f : α → Option ε) (number : ε → Nat) (records : ρ → List Nat) :
    Holder α ρ → Nat → Prop
  | .field p, k => ∃ e, f p = some e ∧ number e = k
  | .record r, k => k ∈ records r

/-- Every number below `n` is in one field or was filed once in one record. -/
structure Filed (f : α → Option ε) (number : ε → Nat) (records : ρ → List Nat) (n : Nat) :
    Prop where
  exact : Exact (holds f number records) (· < n)
  once : ∀ r, (records r).Nodup

variable {f : α → Option ε} {number : ε → Nat} {records : ρ → List Nat} {n : Nat}

theorem Filed.existsUnique (h : Filed f number records n) (k : Nat) (hk : k < n) :
    ∃! p, holds f number records p k := by
  obtain ⟨p, hp⟩ := h.exact.held k hk
  exact ⟨p, hp, fun q hq => h.exact.unique q p k hq hp⟩

theorem Filed.number_lt (h : Filed f number records n) {p : α} {e : ε} (hp : f p = some e) :
    number e < n :=
  h.exact.issued_of_holds (.field p) _ ⟨e, hp, rfl⟩

theorem Filed.lt_of_mem (h : Filed f number records n) {r : ρ} {k : Nat} (hk : k ∈ records r) :
    k < n :=
  h.exact.issued_of_holds (.record r) k hk

theorem Filed.field_unique (h : Filed f number records n) {p q : α} {e e' : ε}
    (hp : f p = some e) (hq : f q = some e') (hnumber : number e = number e') : p = q :=
  Holder.field.inj
    (h.exact.unique (.field p) (.field q) (number e) ⟨e, hp, rfl⟩ ⟨e', hq, hnumber.symm⟩)

theorem Filed.notMem (h : Filed f number records n) {p : α} {e : ε} (hp : f p = some e) (r : ρ) :
    number e ∉ records r := fun hk =>
  nomatch h.exact.unique (.field p) (.record r) (number e) ⟨e, hp, rfl⟩ hk

theorem Filed.nothing (hf : ∀ p, f p = none) (hrecords : ∀ r, records r = []) :
    Filed f number records 0 := by
  have hno : ∀ h k, ¬ holds f number records h k := by
    rintro (p | r) k hk
    · obtain ⟨e, he, -⟩ := hk
      exact nomatch (hf p).symm.trans he
    · simp only [holds, hrecords r, List.not_mem_nil] at hk
  refine ⟨⟨fun k hk => absurd hk (Nat.not_lt_zero k), fun h k hk => absurd hk (hno h k),
    fun h h' k hk _ => absurd hk (hno h k)⟩, fun r => ?_⟩
  rw [hrecords r]
  exact List.nodup_nil

variable [DecidableEq α]

theorem Filed.issue (h : Filed f number records n) {p : α} {e : ε} (hp : f p = none)
    (he : number e = n) : Filed (Function.update f p (some e)) number records (n + 1) := by
  refine ⟨h.exact.pass (· = n) (.field p) ?_ ?_, h.once⟩
  · rintro (q | r) k
    · simp only [holds, Holder.field.injEq]
      by_cases hq : q = p
      · subst hq
        rw [Function.update_self, hp]
        constructor
        · rintro ⟨e', he', rfl⟩
          cases he'
          exact .inl ⟨he, rfl⟩
        · rintro (⟨rfl, -⟩ | ⟨-, e', he', -⟩)
          · exact ⟨e, rfl, he⟩
          · exact nomatch he'
      · rw [Function.update_of_ne hq]
        constructor
        · rintro ⟨e', he', rfl⟩
          exact .inr ⟨Nat.ne_of_lt (h.number_lt he'), e', he', rfl⟩
        · rintro (⟨-, hqp⟩ | ⟨-, hk⟩)
          · exact absurd hqp hq
          · exact hk
    · simp only [holds, reduceCtorEq, and_false, false_or]
      exact ⟨fun hk => ⟨Nat.ne_of_lt (h.lt_of_mem hk), hk⟩, And.right⟩
  · intro k
    omega

theorem Filed.file [DecidableEq ρ] (h : Filed f number records n) {p : α} {e : ε}
    (hp : f p = some e) (r : ρ) :
    Filed (Function.update f p none) number
      (Function.update records r (records r ++ [number e])) n := by
  refine ⟨h.exact.pass (· = number e) (.record r) ?_ ?_, ?_⟩
  · rintro (q | s) k
    · simp only [holds, reduceCtorEq, and_false, false_or]
      by_cases hq : q = p
      · subst hq
        rw [Function.update_self, hp]
        constructor
        · rintro ⟨_, he', -⟩
          exact nomatch he'
        · rintro ⟨hne, e', he', rfl⟩
          cases he'
          exact absurd rfl hne
      · rw [Function.update_of_ne hq]
        refine ⟨?_, And.right⟩
        rintro ⟨e', he', rfl⟩
        exact ⟨fun hk => hq (h.field_unique he' hp hk), e', he', rfl⟩
    · simp only [holds, Holder.record.injEq]
      by_cases hs : s = r
      · subst hs
        rw [Function.update_self, List.mem_append, List.mem_singleton]
        tauto
      · rw [Function.update_of_ne hs]
        constructor
        · intro hk
          exact .inr ⟨fun he => h.notMem hp s (he ▸ hk), hk⟩
        · rintro (⟨-, hsr⟩ | ⟨-, hk⟩)
          · exact absurd hsr hs
          · exact hk
  · intro k
    refine ⟨.inr, ?_⟩
    rintro (rfl | hk)
    · exact h.number_lt hp
    · exact hk
  · intro s
    by_cases hs : s = r
    · subst hs
      rw [Function.update_self]
      refine List.nodup_append.mpr ⟨h.once s, List.nodup_singleton _, ?_⟩
      rintro k hk l hl rfl
      exact h.notMem hp s (List.mem_singleton.mp hl ▸ hk)
    · rw [Function.update_of_ne hs]
      exact h.once s

theorem Filed.move (h : Filed f number records n) {p q : α} (hpq : p ≠ q) (hq : f q = none) :
    Filed (Function.update (Function.update f q (f p)) p none) number records n := by
  refine ⟨h.exact.pass (fun k => holds f number records (.field p) k) (.field q) ?_ ?_, h.once⟩
  · rintro (s | r) k
    · simp only [holds, Holder.field.injEq]
      by_cases hsp : s = p
      · subst hsp
        rw [Function.update_self]
        constructor
        · rintro ⟨_, he, -⟩
          exact nomatch he
        · rintro (⟨-, hsq⟩ | ⟨hno, hk⟩)
          · exact absurd hsq hpq
          · exact absurd hk hno
      · rw [Function.update_of_ne hsp]
        by_cases hsq : s = q
        · subst hsq
          rw [Function.update_self, hq]
          constructor
          · exact fun hk => .inl ⟨hk, rfl⟩
          · rintro (⟨hk, -⟩ | ⟨-, _, he, -⟩)
            · exact hk
            · exact nomatch he
        · rw [Function.update_of_ne hsq]
          constructor
          · rintro ⟨e, he, rfl⟩
            refine .inr ⟨?_, e, he, rfl⟩
            rintro ⟨e', he', hnumber⟩
            exact hsp (h.field_unique he he' hnumber.symm)
          · rintro (⟨-, hs⟩ | ⟨-, hk⟩)
            · exact absurd hs hsq
            · exact hk
    · simp only [holds, reduceCtorEq, and_false, false_or]
      refine ⟨fun hk => ⟨?_, hk⟩, And.right⟩
      rintro ⟨e, he, rfl⟩
      exact h.notMem he r hk
  · intro k
    refine ⟨.inr, ?_⟩
    rintro (⟨e, he, rfl⟩ | hk)
    · exact h.number_lt he
    · exact hk

end Base.Filing
