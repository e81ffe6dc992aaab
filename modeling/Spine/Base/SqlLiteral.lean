import Spine.Base.CString

/-!
# String literals of SQL

The client library writes a text into a statement with backslash escapes, and
the server reads the literal back.  `escape` follows the documentation of
`mysql_real_escape_string` for a connection with backslash escapes and an
ASCII-compatible character set: seven bytes get a backslash, and every other
byte stays as it is.  `readLiteral` is the server's side, from the byte after
the opening quote to the closing one.

`readLiteral_escape` is the round trip, and `literalValue_escape` is its form
for a literal that stands alone.
-/

namespace Base.SqlLiteral

open Base.CString

/-- The byte that follows the backslash when a byte is escaped. -/
def escapeCode (b : UInt8) : Option UInt8 :=
  if b = 0 then some 48
  else if b = 10 then some 110
  else if b = 13 then some 114
  else if b = 26 then some 90
  else if b = 34 ∨ b = 39 ∨ b = 92 then some b
  else none

def escapeByte (b : UInt8) : Text :=
  match escapeCode b with
  | some code => [92, code]
  | none => [b]

/-- `mysql_real_escape_string`. -/
def escape (text : Text) : Text := text.flatMap escapeByte

/-- What a backslash and the byte after it denote.  The two wildcards keep
their backslash, and a byte without a meaning of its own stands for itself. -/
def escapedBytes (code : UInt8) : Text :=
  if code = 48 then [0]
  else if code = 98 then [8]
  else if code = 110 then [10]
  else if code = 114 then [13]
  else if code = 116 then [9]
  else if code = 90 then [26]
  else if code = 37 ∨ code = 95 then [92, code]
  else [code]

/-- Where the reader of a literal is: in the text, after a quote, or after a
backslash. -/
inductive ReadMode where
  | text
  | quote
  | backslash

/-- Read a literal from a mode on: the text that it denotes, and what follows
its closing quote.  Two quotes in a row stand for one. -/
def readLiteralFrom : ReadMode → Text → Option (Text × Text)
  | .text, [] => none
  | .text, b :: rest =>
    if b = 39 then readLiteralFrom .quote rest
    else if b = 92 then readLiteralFrom .backslash rest
    else (readLiteralFrom .text rest).map fun r => (b :: r.1, r.2)
  | .quote, [] => some ([], [])
  | .quote, b :: rest =>
    if b = 39 then (readLiteralFrom .text rest).map fun r => (39 :: r.1, r.2)
    else some ([], b :: rest)
  | .backslash, [] => none
  | .backslash, code :: rest =>
    (readLiteralFrom .text rest).map fun r => (escapedBytes code ++ r.1, r.2)

/-- Read a literal after its opening quote. -/
def readLiteral (text : Text) : Option (Text × Text) := readLiteralFrom .text text

/-- The text that a literal denotes, given the bytes between its quotes. -/
def literalValue (body : Text) : Option Text :=
  match readLiteral (body ++ [39]) with
  | some (text, []) => some text
  | _ => none

theorem escapeByte_length_le (b : UInt8) : (escapeByte b).length ≤ 2 := by
  rw [escapeByte]
  split <;> simp

/-- Each byte becomes at most two. -/
theorem escape_length_le (text : Text) : (escape text).length ≤ 2 * text.length := by
  induction text with
  | nil => simp [escape]
  | cons b text ih =>
    have hb := escapeByte_length_le b
    rw [escape, List.flatMap_cons, ← escape, List.length_append, List.length_cons]
    omega

/-- An escape is read back as the byte that it stands for. -/
theorem escapedBytes_of_escapeCode {b code : UInt8} (h : escapeCode b = some code) :
    escapedBytes code = [b] := by
  rw [escapeCode] at h
  split_ifs at h with h0 h10 h13 h26 hquote
  · cases h; subst h0; decide
  · cases h; subst h10; decide
  · cases h; subst h13; decide
  · cases h; subst h26; decide
  · cases h
    rcases hquote with rfl | rfl | rfl <;> decide

/-- A byte without an escape is neither a quote nor a backslash. -/
theorem ne_of_escapeCode_none {b : UInt8} (h : escapeCode b = none) :
    b ≠ 39 ∧ b ≠ 92 ∧ b ≠ 0 := by
  refine ⟨?_, ?_, ?_⟩ <;> rintro rfl <;> exact absurd h (by decide)

theorem readLiteral_escapeByte (b : UInt8) (rest : Text) :
    readLiteral (escapeByte b ++ rest) = (readLiteral rest).map fun r => (b :: r.1, r.2) := by
  unfold escapeByte
  cases hcode : escapeCode b with
  | some code =>
    show readLiteralFrom .text (92 :: code :: rest) = _
    rw [readLiteralFrom, if_neg (by decide), if_pos rfl, readLiteralFrom,
      escapedBytes_of_escapeCode hcode]
    rfl
  | none =>
    obtain ⟨hquote, hslash, _⟩ := ne_of_escapeCode_none hcode
    show readLiteralFrom .text (b :: rest) = _
    rw [readLiteralFrom, if_neg hquote, if_neg hslash]
    rfl

/-- An escaped text, its closing quote and a rest that does not begin with a
quote are read back as the text and the rest. -/
theorem readLiteral_escape (text rest : Text) (hrest : rest.head? ≠ some 39) :
    readLiteral (escape text ++ 39 :: rest) = some (text, rest) := by
  induction text with
  | nil =>
    show readLiteralFrom .text (39 :: rest) = _
    rw [readLiteralFrom, if_pos rfl]
    cases rest with
    | nil => rfl
    | cons b rest =>
      rw [readLiteralFrom, if_neg]
      intro hquote
      exact hrest (by rw [hquote]; rfl)
  | cons b text ih =>
    rw [escape, List.flatMap_cons, ← escape, List.append_assoc, readLiteral_escapeByte, ih]
    rfl

theorem literalValue_escape (text : Text) : literalValue (escape text) = some text := by
  rw [literalValue, readLiteral_escape text [] (by simp)]

/-- A text without a special byte is its own escaped form. -/
theorem escape_of_plain {text : Text} (h : ∀ b ∈ text, escapeCode b = none) :
    escape text = text := by
  induction text with
  | nil => rfl
  | cons b text ih =>
    have hb : escapeByte b = [b] := by
      unfold escapeByte
      rw [h b List.mem_cons_self]
    have htail : escape text = text := ih fun c hc => h c (List.mem_cons_of_mem b hc)
    show escapeByte b ++ escape text = b :: text
    rw [hb, htail, List.singleton_append]

/-- An escaped text has no NUL, so it is a C string. -/
theorem zero_notMem_escape (text : Text) : (0 : UInt8) ∉ escape text := by
  intro h
  obtain ⟨b, _, hb⟩ := List.mem_flatMap.1 h
  rw [escapeByte] at hb
  cases hcode : escapeCode b with
  | some code =>
    simp only [hcode, List.mem_cons, List.not_mem_nil, or_false] at hb
    have hbyte := escapedBytes_of_escapeCode hcode
    rcases hb with hb | hb
    · exact absurd hb (by decide)
    · subst hb
      rw [escapeCode] at hcode
      split_ifs at hcode with _ _ _ _ hquote
      all_goals simp at hcode
      rcases hquote with rfl | rfl | rfl <;> simp at hcode
  | none =>
    simp only [hcode, List.mem_singleton] at hb
    exact (ne_of_escapeCode_none hcode).2.2 hb.symm

theorem cstr_escape (text : Text) : cstr (escape text) = escape text :=
  cstr_eq_self (zero_notMem_escape text)

end Base.SqlLiteral
