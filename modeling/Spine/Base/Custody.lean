import Mathlib.Data.List.Nodup

/-!
# Tokens that are held in exactly one place

A token is issued, passed from one holder to another, and perhaps retired.
`holds p k` says that the holder `p` holds the token `k`.  The holding is exact
when every issued token has one holder and nothing else is held.

* `Exact.pass`: any set of tokens goes to one holder.  Tokens that were not
  issued before are issued by it.
* `Exact.retire`: a set of tokens is taken out of use.
* `Exact.congr`: a step that changes no holding.
* `existsUnique_index`, `index_eq_of_token` and `mem_without`: a token of a list
  without duplicates stands at one index, and is not in what remains when its
  entry is taken out.
-/

namespace Base.Custody

variable {π κ : Type*}

/-- Every issued token has exactly one holder, and nothing else is held. -/
structure Exact (holds : π → κ → Prop) (issued : κ → Prop) : Prop where
  held : ∀ k, issued k → ∃ p, holds p k
  issued_of_holds : ∀ p k, holds p k → issued k
  unique : ∀ p q k, holds p k → holds q k → p = q

variable {holds holds' : π → κ → Prop} {issued issued' : κ → Prop}

theorem Exact.congr (h : Exact holds issued) (hholds : ∀ p k, holds' p k ↔ holds p k)
    (hissued : ∀ k, issued' k ↔ issued k) : Exact holds' issued' := by
  have hh : holds' = holds := funext fun p => funext fun k => propext (hholds p k)
  have hi : issued' = issued := funext fun k => propext (hissued k)
  rw [hh, hi]
  exact h

/-- The tokens of `moved` go to the holder `q`, and the others stay. -/
theorem Exact.pass (h : Exact holds issued) (moved : κ → Prop) (q : π)
    (hholds : ∀ p k, holds' p k ↔ (moved k ∧ p = q) ∨ (¬ moved k ∧ holds p k))
    (hissued : ∀ k, issued' k ↔ moved k ∨ issued k) : Exact holds' issued' := by
  refine ⟨fun k hk => ?_, fun p k hp => ?_, fun p r k hp hr => ?_⟩
  · by_cases hm : moved k
    · exact ⟨q, (hholds q k).mpr (.inl ⟨hm, rfl⟩)⟩
    · obtain ⟨p, hp⟩ := h.held k (((hissued k).mp hk).resolve_left hm)
      exact ⟨p, (hholds p k).mpr (.inr ⟨hm, hp⟩)⟩
  · rw [hissued]
    rcases (hholds p k).mp hp with ⟨hm, -⟩ | ⟨-, hp⟩
    · exact .inl hm
    · exact .inr (h.issued_of_holds p k hp)
  · rcases (hholds p k).mp hp with ⟨hm, rfl⟩ | ⟨hm, hp⟩
    · rcases (hholds r k).mp hr with ⟨-, rfl⟩ | ⟨hn, -⟩
      · rfl
      · exact absurd hm hn
    · rcases (hholds r k).mp hr with ⟨hn, -⟩ | ⟨-, hr⟩
      · exact absurd hn hm
      · exact h.unique p r k hp hr

/-- The tokens of `gone` are neither issued nor held any more. -/
theorem Exact.retire (h : Exact holds issued) (gone : κ → Prop)
    (hholds : ∀ p k, holds' p k ↔ ¬ gone k ∧ holds p k)
    (hissued : ∀ k, issued' k ↔ ¬ gone k ∧ issued k) : Exact holds' issued' := by
  refine ⟨fun k hk => ?_, fun p k hp => ?_, fun p q k hp hq => ?_⟩
  · obtain ⟨hg, hi⟩ := (hissued k).mp hk
    obtain ⟨p, hp⟩ := h.held k hi
    exact ⟨p, (hholds p k).mpr ⟨hg, hp⟩⟩
  · obtain ⟨hg, hp⟩ := (hholds p k).mp hp
    exact (hissued k).mpr ⟨hg, h.issued_of_holds p k hp⟩
  · exact h.unique p q k ((hholds p k).mp hp).2 ((hholds q k).mp hq).2

theorem existsUnique_index {l : List κ} {k : κ} (hn : l.Nodup) (hk : k ∈ l) :
    ∃! i : Nat, l[i]? = some k := by
  obtain ⟨i, hi⟩ := List.mem_iff_getElem?.mp hk
  refine ⟨i, hi, fun j hj => ?_⟩
  have hlt : j < l.length := (List.getElem?_eq_some_iff.mp hj).1
  exact (List.getElem?_inj hlt hn).mp (hj.trans hi.symm)

theorem index_eq_of_token {ε : Type*} {token : ε → κ} {l : List ε} {i j : Nat} {e e' : ε}
    (hn : (l.map token).Nodup) (hi : l[i]? = some e) (hj : l[j]? = some e')
    (htoken : token e = token e') : i = j := by
  have hi' : (l.map token)[i]? = some (token e) := by rw [List.getElem?_map, hi, Option.map_some]
  have hj' : (l.map token)[j]? = some (token e) := by
    rw [List.getElem?_map, hj, Option.map_some, htoken]
  exact (existsUnique_index hn (List.mem_of_getElem? hi')).unique hi' hj'

/-- An entry is taken out of a list whose entries carry different tokens. -/
theorem mem_without {ε : Type*} {token : ε → κ} {pre post : List ε} {e : ε}
    (hn : ((pre ++ e :: post).map token).Nodup) :
    ((pre ++ post).map token).Nodup ∧ ∀ k, k ∈ (pre ++ post).map token ↔
      k ≠ token e ∧ k ∈ (pre ++ e :: post).map token := by
  rw [List.map_append, List.map_cons] at hn
  obtain ⟨hnot, hrest⟩ := List.nodup_cons.mp (List.nodup_middle.mp hn)
  simp only [List.map_append, List.map_cons]
  refine ⟨hrest, fun k => ?_⟩
  simp only [List.mem_append, List.mem_cons] at hnot ⊢
  constructor
  · intro hk
    exact ⟨fun hke => hnot (hke ▸ hk), hk.imp_right .inr⟩
  · rintro ⟨hke, hk | hk | hk⟩
    · exact .inl hk
    · exact absurd hk hke
    · exact .inr hk

end Base.Custody
