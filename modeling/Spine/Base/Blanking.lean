import Mathlib.Data.List.Forall2

/-!
# Blanking matches in place

A pass goes through a list once and overwrites what matches at its position with
blanks.  It then moves on by one element, so it also looks at what it has
written.

* `Rule` is what a pass looks for: how many elements match at the front of a
  list.  A blank starts no match, and blanks in place of other elements create
  none.  These two facts make one pass enough.
* `pass` keeps the length and every element that it does not blank
  (`blanked_pass`), leaves nothing that matches (`clean_pass`), and does nothing
  to a list without matches (`pass_of_clean`).  So a second pass does nothing.
* `infix_pass`: what no match touches stays.
-/

namespace Base.Blanking

variable {α : Type*}

/-- Each element stays or becomes a blank. -/
def Blanked (blank : α) : List α → List α → Prop :=
  List.Forall₂ fun written read => written = blank ∨ written = read

theorem Blanked.trans {blank : α} {a b c : List α} (hab : Blanked blank a b)
    (hbc : Blanked blank b c) : Blanked blank a c := by
  induction hab generalizing c with
  | nil => exact hbc
  | cons hhead _ ih =>
    cases hbc with
    | cons hnext htail =>
      refine List.Forall₂.cons ?_ (ih htail)
      rcases hhead with hblank | hsame
      · exact Or.inl hblank
      · rcases hnext with hblank | hkept
        · exact Or.inl (hsame.trans hblank)
        · exact Or.inr (hsame.trans hkept)

/-- How many elements at the front of a list match. -/
structure Rule (α : Type*) where
  blank : α
  width : List α → Nat
  width_le : ∀ list, width list ≤ list.length
  width_blank : ∀ rest, width (blank :: rest) = 0
  width_of_blanked : ∀ {written read}, Blanked blank written read → width read = 0 →
    width written = 0

namespace Rule

variable (rule : Rule α)

/-- The list after the match at its front was overwritten. -/
def blankAt (list : List α) : List α :=
  List.replicate (rule.width list) rule.blank ++ list.drop (rule.width list)

/-- The pass over the next `n` elements. -/
def passFrom : Nat → List α → List α
  | 0, list => list
  | n + 1, list =>
    match rule.blankAt list with
    | [] => []
    | a :: rest => a :: passFrom n rest

/-- The pass over a whole list. -/
def pass (list : List α) : List α := rule.passFrom list.length list

/-- Nothing matches anywhere in the list. -/
def Clean (list : List α) : Prop := ∀ suffix, suffix <:+ list → rule.width suffix = 0

/-! ## One position -/

theorem blankAt_of_width_eq_zero {list : List α} (h : rule.width list = 0) :
    rule.blankAt list = list := by
  unfold blankAt
  rw [h]
  rfl

theorem blanked_refl (list : List α) : Blanked rule.blank list list := by
  unfold Blanked
  rw [List.forall₂_same]
  exact fun a _ => Or.inr rfl

theorem blanked_replicate {n : Nat} {list : List α} (h : list.length = n) :
    Blanked rule.blank (List.replicate n rule.blank) list := by
  subst h
  induction list with
  | nil => exact List.Forall₂.nil
  | cons a rest ih => exact List.Forall₂.cons (Or.inl rfl) ih

theorem blanked_blankAt (list : List α) : Blanked rule.blank (rule.blankAt list) list := by
  have hle := rule.width_le list
  have hfront : (list.take (rule.width list)).length = rule.width list := by
    rw [List.length_take]
    omega
  have happend : Blanked rule.blank (rule.blankAt list)
      (list.take (rule.width list) ++ list.drop (rule.width list)) :=
    List.rel_append (rule.blanked_replicate hfront) (rule.blanked_refl _)
  rwa [List.take_append_drop] at happend

/-- A match puts a blank at its position. -/
theorem head_blankAt {list rest : List α} {a : α} (h : rule.blankAt list = a :: rest)
    (hwidth : rule.width list ≠ 0) : a = rule.blank := by
  obtain ⟨n, hn⟩ := Nat.exists_eq_succ_of_ne_zero hwidth
  unfold blankAt at h
  rw [hn, List.replicate_succ, List.cons_append, List.cons.injEq] at h
  exact h.1.symm

/-! ## The pass -/

theorem blanked_passFrom (n : Nat) (list : List α) :
    Blanked rule.blank (rule.passFrom n list) list := by
  induction n generalizing list with
  | zero => exact rule.blanked_refl list
  | succ n ih =>
    have hat := rule.blanked_blankAt list
    unfold passFrom
    split
    · rename_i hnil
      rwa [hnil] at hat
    · rename_i a rest hcons
      rw [hcons] at hat
      exact Blanked.trans (List.Forall₂.cons (Or.inr rfl) (ih rest)) hat

/-- The pass only writes blanks. -/
theorem blanked_pass (list : List α) : Blanked rule.blank (rule.pass list) list :=
  rule.blanked_passFrom list.length list

theorem length_pass (list : List α) : (rule.pass list).length = list.length :=
  (rule.blanked_pass list).length_eq

theorem clean_passFrom {n : Nat} {list : List α} (h : list.length ≤ n) :
    rule.Clean (rule.passFrom n list) := by
  induction n generalizing list with
  | zero =>
    have hnil : list = [] := List.eq_nil_of_length_eq_zero (by omega)
    intro suffix hsuffix
    rw [hnil] at hsuffix
    rw [List.suffix_nil.1 hsuffix]
    exact Nat.le_zero.1 (rule.width_le [])
  | succ n ih =>
    have hat := rule.blanked_blankAt list
    unfold passFrom
    split
    · intro suffix hsuffix
      rw [List.suffix_nil.1 hsuffix]
      exact Nat.le_zero.1 (rule.width_le [])
    · rename_i a rest hcons
      have hlength : rest.length ≤ n := by
        have hsame := hat.length_eq
        rw [hcons, List.length_cons] at hsame
        omega
      intro suffix hsuffix
      rcases List.suffix_cons_iff.1 hsuffix with rfl | hrest
      · by_cases hwidth : rule.width list = 0
        · -- Nothing matched here, and what was written later creates no match.
          rw [rule.blankAt_of_width_eq_zero hwidth] at hcons
          rw [hcons] at hwidth
          exact rule.width_of_blanked
            (List.Forall₂.cons (Or.inr rfl) (rule.blanked_passFrom n rest)) hwidth
        · rw [rule.head_blankAt hcons hwidth]
          exact rule.width_blank _
      · exact ih hlength suffix hrest

/-- After the pass nothing matches. -/
theorem clean_pass (list : List α) : rule.Clean (rule.pass list) :=
  rule.clean_passFrom (Nat.le_refl _)

theorem passFrom_of_clean {n : Nat} {list : List α} (h : rule.Clean list) :
    rule.passFrom n list = list := by
  induction n generalizing list with
  | zero => rfl
  | succ n ih =>
    unfold passFrom
    rw [rule.blankAt_of_width_eq_zero (h list List.suffix_rfl)]
    cases list with
    | nil => rfl
    | cons a rest =>
      dsimp only
      rw [ih fun suffix hsuffix => h suffix (hsuffix.trans (List.suffix_cons a rest))]

theorem pass_of_clean {list : List α} (h : rule.Clean list) : rule.pass list = list :=
  rule.passFrom_of_clean h

theorem pass_pass (list : List α) : rule.pass (rule.pass list) = rule.pass list :=
  rule.pass_of_clean (rule.clean_pass list)

/-! ## What stays -/

theorem prefix_of_blanked {blank : α} {part written read : List α}
    (h : Blanked blank written read) (hpart : part <+: written) (hblank : blank ∉ part) :
    part <+: read := by
  induction part generalizing written read with
  | nil => exact List.nil_prefix
  | cons a part ih =>
    obtain ⟨after, rfl⟩ := hpart
    rw [List.mem_cons, not_or] at hblank
    cases h with
    | cons hhead htail =>
      rcases hhead with hwritten | rfl
      · exact absurd hwritten.symm hblank.1
      · rw [List.cons_prefix_cons]
        exact ⟨rfl, ih htail (List.prefix_append _ _) hblank.2⟩

/-- A part without blanks was there before. -/
theorem infix_of_blanked {blank : α} {part written read : List α}
    (h : Blanked blank written read) (hpart : part <:+: written) (hblank : blank ∉ part) :
    part <:+: read := by
  obtain ⟨before, after, rfl⟩ := hpart
  have hdrop := List.forall₂_drop before.length h
  rw [List.append_assoc, List.drop_left] at hdrop
  have hfront := prefix_of_blanked hdrop (List.prefix_append part after) hblank
  exact hfront.isInfix.trans (List.drop_suffix before.length read).isInfix

/-- A part in front stays if no position of it matches. -/
theorem prefix_passFrom {part : List α} {n : Nat} {list : List α} (hpart : part <+: list)
    (hfree : ∀ j < part.length, rule.width (list.drop j) = 0) :
    part <+: rule.passFrom n list := by
  induction part generalizing n list with
  | nil => exact List.nil_prefix
  | cons a part ih =>
    cases n with
    | zero => exact hpart
    | succ n =>
      obtain ⟨rest, rfl, hrest⟩ : ∃ rest, list = a :: rest ∧ part <+: rest := by
        obtain ⟨after, hafter⟩ := hpart
        exact ⟨part ++ after, hafter.symm, after, rfl⟩
      have hfront : rule.width (a :: rest) = 0 := hfree 0 (Nat.zero_lt_succ _)
      unfold passFrom
      rw [rule.blankAt_of_width_eq_zero hfront]
      dsimp only
      rw [List.cons_prefix_cons]
      refine ⟨rfl, ih hrest fun j hj => ?_⟩
      exact hfree (j + 1) (Nat.succ_lt_succ hj)

/-- A part that stands in no match and in which no match starts stays where it
is. -/
theorem infix_passFrom {part : List α} (hne : part ≠ [])
    (hfree : ∀ list, part <+: list → ∀ j < part.length, rule.width (list.drop j) = 0)
    (houtside : ∀ list k, k < rule.width list → ¬ part <+: list.drop k)
    {n : Nat} {list : List α} (h : part <:+: list) : part <:+: rule.passFrom n list := by
  induction n generalizing list with
  | zero => exact h
  | succ n ih =>
    cases list with
    | nil => exact absurd (List.infix_nil.1 h) hne
    | cons a rest =>
      rcases List.infix_cons_iff.1 h with hfront | hlater
      · exact (rule.prefix_passFrom hfront (hfree _ hfront)).isInfix
      · unfold passFrom
        obtain ⟨before, after, hrest⟩ := hlater
        have hle := rule.width_le (a :: rest)
        -- The match at the front ends before the part starts.
        have hends : rule.width (a :: rest) ≤ before.length + 1 := by
          by_contra hlong
          refine houtside (a :: rest) (before.length + 1) (by omega) ?_
          rw [List.drop_succ_cons, ← hrest, List.append_assoc, List.drop_left]
          exact List.prefix_append _ _
        have hkept : part <:+: (rule.blankAt (a :: rest)).tail := by
          unfold blankAt
          cases hwidth : rule.width (a :: rest) with
          | zero => exact ⟨before, after, hrest⟩
          | succ w =>
            rw [hwidth] at hends
            rw [List.replicate_succ, List.cons_append, List.tail_cons, List.drop_succ_cons, ← hrest,
              List.append_assoc, List.drop_append_of_le_length (by omega), ← List.append_assoc,
              ← List.append_assoc]
            exact List.infix_append _ _ _
        split
        · rename_i hnil
          rw [hnil] at hkept
          exact absurd (List.infix_nil.1 hkept) hne
        · rename_i b written hcons
          rw [hcons] at hkept
          exact (ih hkept).trans (List.suffix_cons _ _).isInfix

theorem infix_pass {part : List α} (hne : part ≠ [])
    (hfree : ∀ list, part <+: list → ∀ j < part.length, rule.width (list.drop j) = 0)
    (houtside : ∀ list k, k < rule.width list → ¬ part <+: list.drop k) {list : List α}
    (h : part <:+: list) : part <:+: rule.pass list :=
  rule.infix_passFrom hne hfree houtside h

end Rule

end Base.Blanking
