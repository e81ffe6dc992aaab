import Mathlib.Data.List.Basic
import Mathlib.Data.List.TakeWhile

/-!
# Texts split at separators

Ways to cut a list at the elements of a set.

* Runs: the elements of the set in front of a list, and the rest.
* Tokens: the non-empty pieces between separators, so that separators in a row
  count as one.  `nextToken` finds the first one and what follows it, as a
  scanner does, and `tokens_eq_of_nextToken` says that a scanner which goes on
  finds all of them.
* Lines: the pieces that a terminator ends.  The last one may lack its
  terminator, and an empty piece after the last terminator is no line.

Nothing here knows what the elements are.
-/

namespace Base.Splitting

variable {α : Type*}

/-! ## Runs -/

section Runs

variable {p : α → Bool} {run rest : List α}

/-- A run ends where the rest starts with another element. -/
theorem takeWhile_run (hrun : ∀ a ∈ run, p a = true) (hrest : ∀ a ∈ rest.head?, p a = false) :
    (run ++ rest).takeWhile p = run := by
  rw [List.takeWhile_append_of_pos hrun]
  cases rest with
  | nil => exact List.append_nil run
  | cons a rest => rw [List.takeWhile_cons_of_neg (by simp [hrest a rfl]), List.append_nil]

theorem dropWhile_run (hrun : ∀ a ∈ run, p a = true) (hrest : ∀ a ∈ rest.head?, p a = false) :
    (run ++ rest).dropWhile p = rest := by
  rw [List.dropWhile_append_of_pos hrun]
  cases rest with
  | nil => rfl
  | cons a rest => rw [List.dropWhile_cons_of_neg (by simp [hrest a rfl])]

end Runs

/-! ## Tokens -/

section Tokens

variable {p : α → Bool}

/-- The non-empty pieces between separators. -/
def tokens (p : α → Bool) (text : List α) : List (List α) :=
  (text.splitOnP p).filter fun piece => !piece.isEmpty

theorem tokens_nil : tokens p [] = [] := by
  simp [tokens]

/-- A separator cuts a text in two. -/
theorem tokens_append_cons (front : List α) {sep : α} (hsep : p sep = true) (rest : List α) :
    tokens p (front ++ sep :: rest) = tokens p front ++ tokens p rest := by
  unfold tokens
  rw [List.splitOnP_append_cons front rest hsep, List.filter_append]

theorem tokens_cons {sep : α} (hsep : p sep = true) (rest : List α) :
    tokens p (sep :: rest) = tokens p rest := by
  have hcut := tokens_append_cons [] hsep rest
  rwa [tokens_nil] at hcut

/-- A text without separators is one token. -/
theorem tokens_of_forall {token : List α} (hne : token ≠ []) (h : ∀ a ∈ token, p a = false) :
    tokens p token = [token] := by
  unfold tokens
  rw [List.splitOnP_eq_singleton h]
  simp [hne]

/-- Separators in front do not matter. -/
theorem tokens_dropWhile (text : List α) : tokens p (text.dropWhile p) = tokens p text := by
  induction text with
  | nil => rfl
  | cons a rest ih =>
    rw [List.dropWhile_cons]
    split
    · rename_i ha
      rw [ih, tokens_cons ha]
    · rfl

/-- The first token and what follows the separator after it. -/
def nextToken (p : α → Bool) (text : List α) : Option (List α × List α) :=
  match text.dropWhile p with
  | [] => none
  | a :: rest => some ((a :: rest).takeWhile (!p ·), ((a :: rest).dropWhile (!p ·)).tail)

/-- The scanner goes through the tokens in order. -/
theorem tokens_eq_of_nextToken (text : List α) :
    tokens p text =
      match nextToken p text with
      | none => []
      | some (token, rest) => token :: tokens p rest := by
  unfold nextToken
  rw [← tokens_dropWhile]
  cases hdrop : text.dropWhile p with
  | nil => exact tokens_nil
  | cons a rest =>
    dsimp only
    have ha : p a = false := by
      have hnot := List.head?_dropWhile_not p text
      rw [hdrop] at hnot
      simpa using hnot
    have hne : (a :: rest).takeWhile (!p ·) ≠ [] := by
      rw [List.takeWhile_cons_of_pos (by simp [ha])]
      exact List.cons_ne_nil _ _
    have htoken : ∀ b ∈ (a :: rest).takeWhile (!p ·), p b = false := fun b hb => by
      simpa using List.mem_takeWhile_imp hb
    conv_lhs => rw [← List.takeWhile_append_dropWhile (p := (!p ·)) (l := a :: rest)]
    cases hend : (a :: rest).dropWhile (!p ·) with
    | nil =>
      rw [List.append_nil, tokens_of_forall hne htoken, List.tail_nil, tokens_nil]
    | cons sep after =>
      -- What stopped the token is a separator.
      have hsep : p sep = true := by
        have hnot := List.head?_dropWhile_not (!p ·) (a :: rest)
        rw [hend] at hnot
        simpa using hnot
      rw [tokens_append_cons _ hsep, tokens_of_forall hne htoken]
      rfl

end Tokens

/-! ## Lines -/

section Lines

variable [BEq α] [LawfulBEq α] {sep : α}

/-- The pieces that a terminator ends, and what follows the last terminator if
there is something. -/
def lines (sep : α) (text : List α) : List (List α) :=
  let pieces := text.splitOn sep
  if pieces.getLast? == some [] then pieces.dropLast else pieces

theorem lines_nil : lines sep [] = ([] : List (List α)) := by
  simp [lines]

/-- A text without terminators is one line. -/
theorem lines_of_notMem {last : List α} (hne : last ≠ []) (h : sep ∉ last) :
    lines sep last = [last] := by
  unfold lines
  rw [List.splitOn_eq_singleton h]
  simp [hne]

/-- The first terminator ends the first line. -/
theorem lines_append_cons {front : List α} (h : sep ∉ front) (rest : List α) :
    lines sep (front ++ sep :: rest) = front :: lines sep rest := by
  unfold lines
  rw [List.splitOn_append_cons_self_of_not_mem h]
  have hne := List.splitOn_ne_nil sep rest
  obtain ⟨piece, pieces, hpieces⟩ := List.exists_cons_of_ne_nil hne
  dsimp only
  rw [hpieces, List.getLast?_cons_cons, List.dropLast_cons_of_ne_nil (List.cons_ne_nil _ _)]
  split <;> rfl

end Lines

end Base.Splitting
