import Spine.Base.CString
import Spine.Base.Splitting

/-!
# Reading lines through a buffer

The part of `<stdio.h>` that reads lines, on a stream that is the list of the
bytes not yet read.

* `fgets` reads up to the size of its buffer and stops after a line feed.
  `stored` is the buffer afterwards: what was read, a NUL, and the bytes that were
  there before.
* `skipLine` reads up to and including the next line feed.
* `scanFields` is `sscanf` with two string conversions.  When the width is not less
  than the text, it assigns the first two tokens (`scanFields_eq`).
* `exists_firstLine` splits a stream into its first line and what ends it.  What
  `fgets` makes of that line is `fgetsBytes_of_lt` or `fgetsBytes_full`, by its
  length.
-/

namespace Base.Stdio

open Base.CString Base.Splitting

/-! ## The functions -/

/-- At most `n` bytes, up to and including a line feed, and what is left. -/
def fgetsBytes : Nat → List UInt8 → List UInt8 × List UInt8
  | 0, stream => ([], stream)
  | _ + 1, [] => ([], [])
  | n + 1, b :: stream =>
    if b = 10 then ([10], stream)
    else (b :: (fgetsBytes n stream).1, (fgetsBytes n stream).2)

/-- `fgets` with a buffer of the given size.  `none` is the end of the file. -/
def fgets (size : Nat) (stream : List UInt8) : Option (List UInt8 × List UInt8) :=
  match stream with
  | [] => none
  | b :: rest => some (fgetsBytes (size - 1) (b :: rest))

/-- A buffer after bytes and a NUL were stored in front. -/
def stored (buffer bytes : List UInt8) : List UInt8 :=
  bytes ++ 0 :: buffer.drop (bytes.length + 1)

/-- `getc` until a line feed or the end of the file. -/
def skipLine : List UInt8 → List UInt8
  | [] => []
  | b :: stream => if b = 10 then stream else skipLine stream

/-- The conversion `"%<width>s"` and what is left of the text. -/
def scanString (width : Nat) (text : Text) : Option (Text × Text) :=
  match text.dropWhile isSpace with
  | [] => none
  | b :: rest =>
    let token := ((b :: rest).takeWhile (!isSpace ·)).take width
    some (token, (b :: rest).drop token.length)

/-- What `sscanf` assigns for two conversions with the same width. -/
def scanFields (width : Nat) (text : Text) : List Text :=
  match scanString width text with
  | none => []
  | some (first, rest) =>
    match scanString width rest with
    | none => [first]
    | some (second, _) => [first, second]

/-! ## Lines -/

/-- A stream that is not at its end starts with a line.  What follows the line is
its line feed, or nothing when the line is the last one. -/
theorem exists_firstLine {stream : List UInt8} (hne : stream ≠ []) :
    ∃ line ending, (10 : UInt8) ∉ line ∧ (∀ b ∈ ending.head?, b = 10) ∧
      stream = line ++ ending ∧ lines 10 stream = line :: lines 10 ending.tail := by
  by_cases hmem : (10 : UInt8) ∈ stream
  · obtain ⟨line, rest, rfl, hline⟩ := List.eq_append_cons_of_mem hmem
    refine ⟨line, 10 :: rest, hline, fun b hb => (Option.some.inj hb).symm, rfl, ?_⟩
    exact lines_append_cons hline rest
  · refine ⟨stream, [], hmem, (fun b hb => nomatch hb), (List.append_nil _).symm, ?_⟩
    rw [lines_of_notMem hne hmem, List.tail_nil, lines_nil]

section Line

variable {line ending : List UInt8} (hline : (10 : UInt8) ∉ line)

include hline

/-- A line that fills the buffer is read without what follows. -/
theorem fgetsBytes_full : fgetsBytes line.length (line ++ ending) = (line, ending) := by
  induction line with
  | nil => rfl
  | cons b line ih =>
    rw [List.mem_cons, not_or] at hline
    rw [List.length_cons, List.cons_append, fgetsBytes, if_neg (Ne.symm hline.1), ih hline.2]

variable (hending : ∀ b ∈ ending.head?, b = 10)

include hending

/-- A line that fits is read with its line feed. -/
theorem fgetsBytes_of_lt {n : Nat} (h : line.length < n) :
    fgetsBytes n (line ++ ending) = (line ++ ending.take 1, ending.tail) := by
  induction line generalizing n with
  | nil =>
    obtain ⟨n, rfl⟩ := Nat.exists_eq_add_of_lt h
    cases ending with
    | nil => rfl
    | cons b rest =>
      cases hending b rfl
      rfl
  | cons b line ih =>
    rw [List.mem_cons, not_or] at hline
    rw [List.length_cons] at h
    cases n with
    | zero => omega
    | succ n =>
      rw [List.cons_append, fgetsBytes, if_neg (Ne.symm hline.1), ih hline.2 (by omega)]
      rfl

theorem skipLine_append : skipLine (line ++ ending) = ending.tail := by
  induction line with
  | nil =>
    cases ending with
    | nil => rfl
    | cons b rest => exact if_pos (hending b rfl)
  | cons b line ih =>
    rw [List.mem_cons, not_or] at hline
    rw [List.cons_append, skipLine, if_neg (Ne.symm hline.1), ih hline.2]

end Line

theorem fgetsBytes_length (n : Nat) (stream : List UInt8) :
    (fgetsBytes n stream).1.length ≤ n ∧
      (fgetsBytes n stream).1.length + (fgetsBytes n stream).2.length = stream.length := by
  induction n generalizing stream with
  | zero => exact ⟨Nat.le_refl _, Nat.zero_add _⟩
  | succ n ih =>
    cases stream with
    | nil => exact ⟨Nat.zero_le _, rfl⟩
    | cons b stream =>
      obtain ⟨hle, hsum⟩ := ih stream
      unfold fgetsBytes
      split
      · exact ⟨by simp, by simp; omega⟩
      · simp only [List.length_cons]
        exact ⟨by omega, by omega⟩

/-- `fgets` reads something, so the stream gets shorter. -/
theorem fgets_length_lt {size : Nat} (hsize : 1 < size) {stream bytes rest : List UInt8}
    (h : fgets size stream = some (bytes, rest)) : rest.length < stream.length := by
  cases stream with
  | nil => cases h
  | cons b stream =>
    obtain ⟨n, hn⟩ : ∃ n, size - 1 = n + 1 := Nat.exists_eq_succ_of_ne_zero (by omega)
    have hlength := (fgetsBytes_length n stream).2
    simp only [fgets, hn, fgetsBytes, Option.some.injEq] at h
    split at h
    · cases h
      exact Nat.lt_succ_self _
    · cases h
      rw [List.length_cons]
      omega

theorem skipLine_length_le (stream : List UInt8) : (skipLine stream).length ≤ stream.length := by
  induction stream with
  | nil => exact Nat.le_refl _
  | cons b stream ih =>
    unfold skipLine
    split
    · exact Nat.le_succ _
    · exact Nat.le_succ_of_le ih

/-! ## The buffer -/

/-- The string in the buffer is that of the bytes that were read. -/
theorem cstr_stored (buffer bytes : List UInt8) : cstr (stored buffer bytes) = cstr bytes := by
  unfold stored
  generalize buffer.drop (bytes.length + 1) = rest
  induction bytes with
  | nil => rfl
  | cons b bytes ih =>
    unfold cstr at ih ⊢
    rw [List.cons_append, List.takeWhile_cons, List.takeWhile_cons, ih]

theorem stored_length {buffer bytes : List UInt8} (h : bytes.length < buffer.length) :
    (stored buffer bytes).length = buffer.length := by
  unfold stored
  rw [List.length_append, List.length_cons, List.length_drop]
  omega

/-- A byte of the buffer that was not reached stays. -/
theorem getElem?_stored_of_lt {buffer bytes : List UInt8} {i : Nat} (h : bytes.length < i) :
    (stored buffer bytes)[i]? = buffer[i]? := by
  unfold stored
  obtain ⟨k, hk⟩ : ∃ k, i - bytes.length = k + 1 := Nat.exists_eq_succ_of_ne_zero (by omega)
  rw [List.getElem?_append_right (by omega), hk, List.getElem?_cons_succ, List.getElem?_drop]
  congr 1
  omega

theorem getElem?_stored_end (buffer bytes : List UInt8) :
    (stored buffer bytes)[bytes.length]? = some 0 := by
  unfold stored
  rw [List.getElem?_append_right (Nat.le_refl _), Nat.sub_self]
  rfl

theorem getElem?_stored_of_gt {buffer bytes : List UInt8} {i : Nat} (h : i < bytes.length) :
    (stored buffer bytes)[i]? = bytes[i]? := by
  unfold stored
  rw [List.getElem?_append_left h]

/-! ## Fields -/

theorem drop_length_takeWhile {α : Type*} (p : α → Bool) (text : List α) :
    text.drop (text.takeWhile p).length = text.dropWhile p := by
  conv_lhs =>
    arg 2
    rw [← List.takeWhile_append_dropWhile (p := p) (l := text)]
  rw [List.drop_left]

/-- A conversion whose width is not less than the text takes the first token. -/
theorem tokens_eq_of_scanString {width : Nat} {text : Text} (h : text.length ≤ width) :
    tokens isSpace text =
      match scanString width text with
      | none => []
      | some (token, rest) => token :: tokens isSpace rest := by
  have hlength := (List.dropWhile_sublist isSpace (l := text)).length_le
  rw [tokens_eq_of_nextToken]
  unfold nextToken scanString
  cases hdrop : text.dropWhile isSpace with
  | nil => rfl
  | cons b rest =>
    have htoken := (List.takeWhile_sublist (!isSpace ·) (l := b :: rest)).length_le
    rw [hdrop] at hlength
    dsimp only
    rw [List.take_of_length_le (by omega), drop_length_takeWhile]
    -- The token ends at a blank, which starts no token.
    cases hend : (b :: rest).dropWhile (!isSpace ·) with
    | nil => rfl
    | cons sep after =>
      have hsep : isSpace sep = true := by
        have hnot := List.head?_dropWhile_not (!isSpace ·) (b :: rest)
        rw [hend] at hnot
        simpa using hnot
      rw [List.tail_cons, tokens_cons hsep]

theorem scanString_length_le {width : Nat} {text token rest : Text}
    (h : scanString width text = some (token, rest)) : rest.length ≤ text.length := by
  have hlength := (List.dropWhile_sublist isSpace (l := text)).length_le
  unfold scanString at h
  cases hdrop : text.dropWhile isSpace with
  | nil =>
    rw [hdrop] at h
    cases h
  | cons b after =>
    rw [hdrop] at h hlength
    cases h
    rw [List.length_drop]
    omega

theorem scanFields_eq {width : Nat} {text : Text} (h : text.length ≤ width) :
    scanFields width text = (tokens isSpace text).take 2 := by
  unfold scanFields
  rw [tokens_eq_of_scanString h]
  cases hfirst : scanString width text with
  | none => rfl
  | some first =>
    dsimp only
    have hrest := scanString_length_le hfirst
    rw [tokens_eq_of_scanString (by omega : first.2.length ≤ width)]
    cases hsecond : scanString width first.2 with
    | none => rfl
    | some second => rfl

end Base.Stdio
