import Spine.Internal.Types

/-!
# Statements and escaping

The part of `database/sql.c` that the writers share.

`dbEscape` models `db_escape`.  The client library's
`mysql_real_escape_string` is an argument of it, because its source is not
part of the program.  `EscapeBound` is the one documented fact about the
length of its output: no input byte becomes more than two bytes.

`Insert` is a statement on its way to `db_insert`.  What the server does with
it is an oracle, indexed by the position of the statement in the sequence of
statements sent.
-/

namespace Spine

open Base.CString

/-- `mysql_real_escape_string` emits at most two bytes for each input byte. -/
def EscapeBound (escape : Text → Text) : Prop :=
  ∀ text, (escape text).length ≤ 2 * text.length

/-- `db_escape`: the input is cut so that its escaped form fits `maxSize`
bytes with the terminator.  The result is read as a C string. -/
def dbEscape (escape : Text → Text) (maxSize : Nat) (input : Text) : Text :=
  if maxSize ≤ 1 then [] else cstr (escape (input.take ((maxSize - 1) / 2)))

/-- The result fits its buffer, and it is at most twice the input. -/
theorem dbEscape_length_le {escape : Text → Text} (hescape : EscapeBound escape)
    (maxSize : Nat) (input : Text) :
    (dbEscape escape maxSize input).length ≤ maxSize - 1 ∧
      (dbEscape escape maxSize input).length ≤ 2 * input.length := by
  rw [dbEscape]
  split
  · simp
  · have hcstr := cstr_length_le (escape (input.take ((maxSize - 1) / 2)))
    have hbound := hescape (input.take ((maxSize - 1) / 2))
    rw [List.length_take] at hbound
    have hleft := Nat.min_le_left ((maxSize - 1) / 2) input.length
    have hright := Nat.min_le_right ((maxSize - 1) / 2) input.length
    exact ⟨by omega, by omega⟩

/-- An input whose escaped form is sure to fit is escaped whole. -/
theorem dbEscape_eq (escape : Text → Text) {maxSize : Nat} {input : Text} (hsize : 1 < maxSize)
    (hfit : input.length ≤ (maxSize - 1) / 2) :
    dbEscape escape maxSize input = cstr (escape input) := by
  rw [dbEscape, if_neg (by omega), List.take_of_length_le hfit]

/-- A statement for `db_insert`, with the database it goes to. -/
structure Insert where
  mode : DbMode
  query : Text
  deriving DecidableEq, Repr

end Spine
