import Spine.Internal.Types

/-!
# Text helpers of the program

The functions of `app/buffer.c` and `config/text.c` that the pollers share.

* `spineSnprintf` is `spine_snprintf`, which ends the process when a formatted
  text does not fit.  `none` is the call of `die`.  `appendText` is the call that
  continues a text.
* `trim`, `charCount` and `stripAlpha` are the functions of the same names.
* `ResultBuffer` is a result buffer: an array of `RESULTS_BUFFER` bytes.  Its
  size is part of the type, so a write that leaves the array cannot be
  stated.
-/

namespace Spine

open Base.CString

/-- `spine_snprintf` with the formatted text already known. -/
def spineSnprintf (capacity : Nat) (text : Text) : Option Text :=
  if text.length < capacity then some text else none

theorem spineSnprintf_eq_none_iff {capacity : Nat} {text : Text} :
    spineSnprintf capacity text = none ↔ capacity ≤ text.length := by
  unfold spineSnprintf
  split
  · simp only [reduceCtorEq, false_iff]
    omega
  · simp only [true_iff]
    omega

/-- `spine_snprintf` to the end of a text in a buffer. -/
def appendText (capacity : Nat) (output piece : Text) : Option Text :=
  (spineSnprintf (capacity - output.length) piece).map (output ++ ·)

theorem spineSnprintf_of_lt {capacity : Nat} {text : Text} (h : text.length < capacity) :
    spineSnprintf capacity text = some text := if_pos h

theorem appendText_eq_some {capacity : Nat} {output piece whole : Text}
    (h : appendText capacity output piece = some whole) : whole = output ++ piece := by
  unfold appendText spineSnprintf at h
  by_cases hfits : piece.length < capacity - output.length
  · rw [if_pos hfits] at h
    cases h
    rfl
  · rw [if_neg hfits] at h
    cases h

theorem appendText_of_lt {capacity : Nat} {output piece : Text}
    (h : (output ++ piece).length < capacity) :
    appendText capacity output piece = some (output ++ piece) := by
  rw [List.length_append] at h
  rw [appendText, spineSnprintf_of_lt (by omega)]
  rfl

/-! ## Texts -/

/-- The characters that `trim` removes: blank, both quotes, backslash, tab,
line feed and carriage return. -/
def isTrimChar (b : UInt8) : Bool :=
  b == 32 || b == 34 || b == 39 || b == 92 || b == 9 || b == 10 || b == 13

/-- `trim`. -/
def trim (text : Text) : Text := strip isTrimChar text

/-- `char_count` for a character other than NUL. -/
def charCount (text : Text) (chr : UInt8) : Nat := text.count chr

/-- `strip_alpha`: the end up to the last digit goes, and the front up to a
digit or a minus sign goes. -/
def stripAlpha (text : Text) : Text :=
  (rstrip (fun b => !isDigit b) text).dropWhile fun b => !isDigit b && b != 45

theorem trim_undefinedText : trim undefinedText = undefinedText := by decide

/-! ## Result buffers -/

/-- An array of `RESULTS_BUFFER` bytes. -/
structure ResultBuffer where
  bytes : List UInt8
  length_eq : bytes.length = RESULTS_BUFFER

namespace ResultBuffer

/-- The buffer after `memset` with zero. -/
def zero : ResultBuffer := ⟨List.replicate RESULTS_BUFFER 0, List.length_replicate⟩

/-- Bytes written to the front of the buffer. -/
def write (buffer : ResultBuffer) (data : List UInt8) (h : data.length ≤ RESULTS_BUFFER) :
    ResultBuffer :=
  ⟨data ++ buffer.bytes.drop data.length, by
    rw [List.length_append, List.length_drop, buffer.length_eq]
    omega⟩

/-- The text of the buffer. -/
def text (buffer : ResultBuffer) : Text := cstr buffer.bytes

/-- The buffer holds a terminated text. -/
def Terminated (buffer : ResultBuffer) : Prop := (0 : UInt8) ∈ buffer.bytes

/-- `SET_UNDEFINED`. -/
def setUndefined (buffer : ResultBuffer) : ResultBuffer :=
  buffer.write [85, 0] (by decide)

theorem setUndefined_text (buffer : ResultBuffer) : buffer.setUndefined.text = undefinedText := by
  show cstr ([85] ++ 0 :: buffer.bytes.drop 2) = undefinedText
  rw [cstr_append_nul (by decide)]
  rfl

theorem setUndefined_terminated (buffer : ResultBuffer) : buffer.setUndefined.Terminated := by
  unfold Terminated setUndefined write
  simp

theorem write_nul_terminated (buffer : ResultBuffer) (data : List UInt8)
    (h : (data ++ [0]).length ≤ RESULTS_BUFFER) : (buffer.write (data ++ [0]) h).Terminated := by
  unfold Terminated write
  simp

/-- A terminated text is shorter than its buffer. -/
theorem Terminated.text_length_lt {buffer : ResultBuffer} (h : buffer.Terminated) :
    buffer.text.length < RESULTS_BUFFER := by
  have hle := cstr_length_le buffer.bytes
  rw [← buffer.length_eq]
  refine lt_of_le_of_ne hle fun heq => ?_
  -- A text as long as the buffer is the whole buffer, and it has no NUL.
  have hwhole : cstr buffer.bytes = buffer.bytes :=
    (List.takeWhile_sublist _).eq_of_length heq
  exact zero_notMem_cstr buffer.bytes (hwhole.symm ▸ h)

end ResultBuffer

end Spine
