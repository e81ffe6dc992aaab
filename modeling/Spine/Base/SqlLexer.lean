import Spine.Base.SqlLiteral

/-!
# Tokens of SQL

A lexer for the part of SQL that an INSERT of plain rows uses: words, numbers,
string literals, and a few bytes of punctuation.  It refuses everything else, so
that a comment, a quoted name or a second kind of string literal is not read as
something harmless.

* The lexer is a machine that reads one byte at a time.  `step` says what a byte
  does in a mode: it continues the token that is being read, or it ends that token
  and begins another one.
* Inside of a literal the lexer is `readLiteralFrom` of `Base.SqlLiteral`.
* One lemma for each kind of token says how a text that begins with it is read.
-/

namespace Base.SqlLexer

open Base.CString Base.SqlLiteral

/-! ## The machine -/

/-- A token of a statement. -/
inductive Token where
  | punctuation (b : UInt8)
  | word (text : Text)
  | number (text : Text)
  | string (text : Text)
  deriving DecidableEq, Repr

/-- `( ) , - =` -/
def isPunctuation (b : UInt8) : Bool := b == 40 || b == 41 || b == 44 || b == 45 || b == 61

/-- A letter or an underscore. -/
def isWordByte (b : UInt8) : Bool := (65 ≤ b && b ≤ 90) || (97 ≤ b && b ≤ 122) || b == 95

/-- A digit or the decimal point. -/
def isNumberByte (b : UInt8) : Bool := isDigit b || b == 46

/-- What is being read, and the bytes of it so far. -/
inductive Mode where
  | start
  | word (read : Text)
  | number (read : Text)
  | string (mode : ReadMode) (read : Text)

/-- The tokens at the end of the text.  A literal must be closed. -/
def Mode.token : Mode → Option (List Token)
  | .start => some []
  | .word read => some [.word read]
  | .number read => some [.number read]
  | .string .quote read => some [.string read]
  | .string _ _ => none

/-- The byte that begins a token, or a blank. -/
def beginToken (b : UInt8) : Option (List Token × Mode) :=
  if isSpace b then some ([], .start)
  else if isPunctuation b then some ([.punctuation b], .start)
  else if isNumberByte b then some ([], .number [b])
  else if isWordByte b then some ([], .word [b])
  else if b = 39 then some ([], .string .text [])
  else none

/-- The tokens that a byte completes, and the mode after it.  A word may not follow
a number at once. -/
def step : Mode → UInt8 → Option (List Token × Mode)
  | .start, b => beginToken b
  | .word read, b =>
    if isWordByte b || isDigit b then some ([], .word (read ++ [b]))
    else (beginToken b).map fun r => (.word read :: r.1, r.2)
  | .number read, b =>
    if isNumberByte b then some ([], .number (read ++ [b]))
    else if isWordByte b then none
    else (beginToken b).map fun r => (.number read :: r.1, r.2)
  | .string .text read, b =>
    if b = 39 then some ([], .string .quote read)
    else if b = 92 then some ([], .string .backslash read)
    else some ([], .string .text (read ++ [b]))
  | .string .backslash read, b => some ([], .string .text (read ++ escapedBytes b))
  | .string .quote read, b =>
    if b = 39 then some ([], .string .text (read ++ [39]))
    else (beginToken b).map fun r => (.string read :: r.1, r.2)

/-- The tokens of a text that is read from a mode on. -/
def lexFrom (mode : Mode) : Text → Option (List Token)
  | [] => mode.token
  | b :: rest => (step mode b).bind fun r => (lexFrom r.2 rest).map (r.1 ++ ·)

/-- The tokens of a text. -/
def lex (text : Text) : Option (List Token) := lexFrom .start text

theorem lexFrom_cons (mode : Mode) (b : UInt8) (rest : Text) :
    lexFrom mode (b :: rest) =
      (step mode b).bind fun r => (lexFrom r.2 rest).map (r.1 ++ ·) := rfl

/-! ## One token -/

section Tokens

variable {b : UInt8} {text rest : Text} {token : Token} {mode : Mode}

/-- A mode that the next byte ends gives its token, and the rest is read from the
start. -/
theorem lexFrom_of_ends (htoken : mode.token = some [token])
    (hstep : ∀ b, rest.head? = some b →
      step mode b = (beginToken b).map fun r => (token :: r.1, r.2)) :
    lexFrom mode rest = (lex rest).map (token :: ·) := by
  cases rest with
  | nil => exact htoken
  | cons b rest =>
    unfold lex
    rw [lexFrom_cons, lexFrom_cons, hstep b rfl, step]
    cases beginToken b with
    | none => rfl
    | some r =>
      simp only [Option.map_some, Option.bind_some, Option.map_map]
      rfl

/-- A byte that completes no token only changes the mode. -/
theorem lexFrom_of_continues {next : Mode} (h : step mode b = some ([], next)) (rest : Text) :
    lexFrom mode (b :: rest) = lexFrom next rest := by
  rw [lexFrom_cons, h, Option.bind_some]
  cases lexFrom next rest <;> rfl

theorem lex_space (hb : isSpace b = true) (rest : Text) : lex (b :: rest) = lex rest := by
  have hstep : step .start b = some ([], .start) := if_pos hb
  exact lexFrom_of_continues hstep rest

theorem lex_punctuation (hspace : isSpace b = false) (hb : isPunctuation b = true) (rest : Text) :
    lex (b :: rest) = (lex rest).map (.punctuation b :: ·) := by
  unfold lex
  rw [lexFrom_cons, step, beginToken, if_neg (by simp [hspace]), if_pos hb]
  rfl

theorem isPunctuation_of_isDigit (h : isDigit b = true) : isPunctuation b = false := by
  rw [isDigit_iff] at h
  unfold isPunctuation
  simp only [Bool.or_eq_false_iff, beq_eq_false_iff_ne]
  refine ⟨⟨⟨⟨?_, ?_⟩, ?_⟩, ?_⟩, ?_⟩ <;> rintro rfl <;> exact absurd h (by decide)

/-- The bytes of a number begin a number. -/
theorem beginToken_number (hb : isNumberByte b = true) :
    beginToken b = some ([], .number [b]) := by
  unfold isNumberByte at hb
  unfold beginToken
  rcases Bool.or_eq_true_iff.1 hb with hdigit | hpoint
  · rw [if_neg (by simp [isSpace_of_isDigit hdigit]),
      if_neg (by simp [isPunctuation_of_isDigit hdigit]), if_pos (by simp [isNumberByte, hdigit])]
  · rw [beq_iff_eq.1 hpoint]
    rfl

/-- A token of bytes of one kind is read up to the first byte of another kind. -/
theorem lexFrom_run {make : Text → Mode} {token : Text → Token} {p : UInt8 → Bool}
    (htoken : ∀ read, (make read).token = some [token read])
    (hcontinues : ∀ read b, p b = true → step (make read) b = some ([], make (read ++ [b])))
    (hends : ∀ read b, rest.head? = some b →
      step (make read) b = (beginToken b).map fun r => (token read :: r.1, r.2))
    (htext : ∀ b ∈ text, p b = true) (read : Text) :
    lexFrom (make read) (text ++ rest) = (lex rest).map (token (read ++ text) :: ·) := by
  induction text generalizing read with
  | nil =>
    rw [List.append_nil, List.nil_append]
    exact lexFrom_of_ends (htoken read) (hends read)
  | cons b text ih =>
    rw [List.cons_append, lexFrom_of_continues (hcontinues read b (htext b List.mem_cons_self)),
      ih (fun c hc => htext c (List.mem_cons_of_mem _ hc)), List.append_assoc]
    rfl

/-- A number is read up to the first byte that cannot belong to it. -/
theorem lex_number (hne : text ≠ []) (htext : ∀ b ∈ text, isNumberByte b = true)
    (hrest : ∀ b, rest.head? = some b → isNumberByte b = false ∧ isWordByte b = false) :
    lex (text ++ rest) = (lex rest).map (.number text :: ·) := by
  obtain ⟨b, text, rfl⟩ := List.exists_cons_of_ne_nil hne
  have hstep : step .start b = some ([], .number [b]) :=
    beginToken_number (htext b List.mem_cons_self)
  show lexFrom .start (b :: (text ++ rest)) = _
  have hcontinues : ∀ read c, isNumberByte c = true →
      step (.number read) c = some ([], .number (read ++ [c])) := fun _ _ hc => if_pos hc
  rw [lexFrom_of_continues hstep]
  refine lexFrom_run (fun _ => rfl) hcontinues (fun read c hc => ?_)
    (fun c hc => htext c (List.mem_cons_of_mem _ hc)) [b]
  obtain ⟨hnumber, hword⟩ := hrest c hc
  rw [step, if_neg (by simp [hnumber]), if_neg (by simp [hword])]

/-- A word is read up to the first byte that is neither of a word nor a digit. -/
theorem lex_word (hb : beginToken b = some ([], .word [b]))
    (htext : ∀ c ∈ text, (isWordByte c || isDigit c) = true)
    (hrest : ∀ c, rest.head? = some c → (isWordByte c || isDigit c) = false) :
    lex (b :: (text ++ rest)) = (lex rest).map (.word (b :: text) :: ·) := by
  have hstep : step .start b = some ([], .word [b]) := hb
  show lexFrom .start (b :: (text ++ rest)) = _
  have hcontinues : ∀ read c, (isWordByte c || isDigit c) = true →
      step (.word read) c = some ([], .word (read ++ [c])) := fun _ _ hc => if_pos hc
  rw [lexFrom_of_continues hstep]
  refine lexFrom_run (fun _ => rfl) hcontinues (fun read c hc => ?_) htext [b]
  rw [step, if_neg (by simp [hrest c hc])]

/-- A literal is read by the reader of literals. -/
theorem lexFrom_string (mode : ReadMode) (read text : Text) :
    lexFrom (.string mode read) text =
      (readLiteralFrom mode text).bind fun r => (lex r.2).map (.string (read ++ r.1) :: ·) := by
  induction text generalizing mode read with
  | nil =>
    cases mode with
    | text => rfl
    | quote =>
      show some [Token.string read] = some [Token.string (read ++ [])]
      rw [List.append_nil]
    | backslash => rfl
  | cons b rest ih =>
    cases mode with
    | text =>
      rw [readLiteralFrom]
      by_cases hquote : b = 39
      · have hstep : step (.string .text read) b = some ([], .string .quote read) := if_pos hquote
        rw [if_pos hquote, lexFrom_of_continues hstep, ih]
      · rw [if_neg hquote]
        by_cases hslash : b = 92
        · have hstep : step (.string .text read) b = some ([], .string .backslash read) :=
            (if_neg hquote).trans (if_pos hslash)
          rw [if_pos hslash, lexFrom_of_continues hstep, ih]
        · have hstep : step (.string .text read) b = some ([], .string .text (read ++ [b])) :=
            (if_neg hquote).trans (if_neg hslash)
          rw [if_neg hslash, lexFrom_of_continues hstep, ih, Option.bind_map]
          simp only [Function.comp_def, List.append_assoc, List.singleton_append]
    | backslash =>
      have hstep : step (.string .backslash read) b =
          some ([], .string .text (read ++ escapedBytes b)) := rfl
      rw [readLiteralFrom, lexFrom_of_continues hstep, ih, Option.bind_map]
      simp only [Function.comp_def, List.append_assoc]
    | quote =>
      rw [readLiteralFrom]
      by_cases hquote : b = 39
      · have hstep : step (.string .quote read) b = some ([], .string .text (read ++ [39])) :=
          if_pos hquote
        rw [if_pos hquote, lexFrom_of_continues hstep, ih, Option.bind_map]
        simp only [Function.comp_def, List.append_assoc, List.singleton_append]
      · rw [if_neg hquote, Option.bind_some, List.append_nil]
        refine lexFrom_of_ends rfl fun c hc => ?_
        obtain rfl : b = c := Option.some.inj hc
        exact if_neg hquote

/-- An escaped text between quotes is one literal, whatever its bytes are. -/
theorem lex_escape (text : Text) (hrest : rest.head? ≠ some 39) :
    lex (39 :: (escape text ++ 39 :: rest)) = (lex rest).map (.string text :: ·) := by
  have hopen : step .start 39 = some ([], .string .text []) := rfl
  have hread : readLiteralFrom .text (escape text ++ 39 :: rest) = some (text, rest) :=
    readLiteral_escape text rest hrest
  unfold lex
  rw [lexFrom_of_continues hopen, lexFrom_string, hread]
  rfl

/-- A blank ends every token but a literal, so a text before it is read on its own. -/
theorem lexFrom_append_space {tokens : List Token} (h : lexFrom mode text = some tokens)
    (rest : Text) : lexFrom mode (text ++ 32 :: rest) = (lex rest).map (tokens ++ ·) := by
  induction text generalizing mode tokens with
  | nil =>
    have hblank : step mode 32 = some (tokens, .start) := by
      cases mode with
      | start => cases h; rfl
      | word read => cases h; rfl
      | number read => cases h; rfl
      | string mode read =>
        cases mode with
        | quote => cases h; rfl
        | text => cases h
        | backslash => cases h
    rw [List.nil_append, lexFrom_cons, hblank]
    rfl
  | cons b text ih =>
    rw [List.cons_append, lexFrom_cons]
    rw [lexFrom_cons] at h
    obtain ⟨r, hstep, hrest⟩ := Option.bind_eq_some_iff.1 h
    obtain ⟨later, hlater, rfl⟩ := Option.map_eq_some_iff.1 hrest
    rw [hstep, Option.bind_some, ih hlater, Option.map_map]
    refine congrArg (Option.map · _) (funext fun more => ?_)
    exact (List.append_assoc _ _ _).symm

end Tokens

end Base.SqlLexer
