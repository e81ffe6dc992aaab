import Spine.Base.SqlLexer

/-!
# UPDATE statements

`UPDATE table SET column = value, … WHERE column = value`, where a value is a
string literal or a function of a number.  A statement is written with any number
of blanks after its commas, and it is read back from its tokens.

* `Update` is a statement and `Update.sql` its text.
* `readUpdate` reads a statement off its tokens and refuses everything else, so a
  value that would change the statement is seen.
* `parseUpdate_sql` says that the text of a statement is read back as that
  statement, whatever bytes its literals have, and that a call without a number is
  refused.
-/

namespace Base.SqlUpdate

open Base.CString Base.SqlLiteral Base.SqlLexer

/-! ## Statements -/

/-- What a column is set to. -/
inductive Value where
  | literal (text : Text)
  | call (function number : Text)
  deriving DecidableEq, Repr

/-- A call has its number. -/
def Value.complete : Value → Bool
  | .literal _ => true
  | .call _ number => !number.isEmpty

/-- A column and its value. -/
structure Assignment where
  column : Text
  value : Value
  deriving DecidableEq, Repr

/-- A statement, with the number of blanks before each assignment. -/
structure Update where
  table : Text
  sets : List (ℕ × Assignment)
  key : Assignment
  deriving DecidableEq, Repr

def Update.complete (u : Update) : Bool :=
  (u.sets.all fun s => s.2.value.complete) && u.key.value.complete

def Value.sql : Value → Text
  | .literal text => 39 :: (escape text ++ [39])
  | .call function number => function ++ 40 :: (number ++ [41])

def Assignment.sql (a : Assignment) : Text := a.column ++ 61 :: a.value.sql

/-- The assignments with a comma between two of them. -/
def setClause : List (ℕ × Assignment) → Text
  | [] => []
  | [(blanks, a)] => List.replicate blanks 32 ++ a.sql
  | (blanks, a) :: sets => List.replicate blanks 32 ++ (a.sql ++ 44 :: setClause sets)

def Update.sql (u : Update) : Text :=
  lit "UPDATE " ++ (u.table ++ (lit " SET " ++ (setClause u.sets ++ (lit " WHERE " ++ u.key.sql))))

/-- The assignments after the first one, each with its comma. -/
theorem setClause_cons (first : ℕ × Assignment) (sets : List (ℕ × Assignment)) :
    setClause (first :: sets) = List.replicate first.1 32 ++ (first.2.sql ++
      sets.flatMap fun s => 44 :: (List.replicate s.1 32 ++ s.2.sql)) := by
  induction sets generalizing first with
  | nil => rw [List.flatMap_nil, List.append_nil]; rfl
  | cons next sets ih =>
    rw [List.flatMap_cons, List.cons_append, List.append_assoc, ← ih]
    rfl

theorem setClause_append {sets : List (ℕ × Assignment)} (hne : sets ≠ [])
    (more : List (ℕ × Assignment)) :
    setClause (sets ++ more) = setClause sets ++
      more.flatMap fun s => 44 :: (List.replicate s.1 32 ++ s.2.sql) := by
  obtain ⟨first, sets, rfl⟩ := List.exists_cons_of_ne_nil hne
  rw [List.cons_append, setClause_cons, setClause_cons, List.flatMap_append]
  simp only [List.append_assoc]

/-! ## Reading -/

def Value.tokens : Value → List Token
  | .literal text => [.string text]
  | .call function number =>
      .word function :: .punctuation 40 ::
        ((if number = [] then [] else [.number number]) ++ [.punctuation 41])

def Assignment.tokens (a : Assignment) : List Token :=
  .word a.column :: .punctuation 61 :: a.value.tokens

def setTokens : List Assignment → List Token
  | [] => []
  | [a] => a.tokens
  | a :: sets => a.tokens ++ .punctuation 44 :: setTokens sets

/-- One assignment or more, and what follows. -/
def readSet : List Token → Option (List Assignment × List Token)
  | .word column :: .punctuation 61 :: .string text :: .punctuation 44 :: rest =>
      (readSet rest).map fun r => (⟨column, .literal text⟩ :: r.1, r.2)
  | .word column :: .punctuation 61 :: .word function :: .punctuation 40 :: .number number ::
      .punctuation 41 :: .punctuation 44 :: rest =>
      (readSet rest).map fun r => (⟨column, .call function number⟩ :: r.1, r.2)
  | .word column :: .punctuation 61 :: .string text :: rest =>
      some ([⟨column, .literal text⟩], rest)
  | .word column :: .punctuation 61 :: .word function :: .punctuation 40 :: .number number ::
      .punctuation 41 :: rest => some ([⟨column, .call function number⟩], rest)
  | _ => none

/-- A whole statement: its table, its assignments and its key. -/
def readUpdate : List Token → Option (Text × List Assignment × Assignment)
  | .word update :: .word table :: .word set :: rest =>
    match readSet rest with
    | some (sets, .word whereWord :: tail) =>
      match readSet tail with
      | some ([key], []) =>
        if update = lit "UPDATE" ∧ set = lit "SET" ∧ whereWord = lit "WHERE" then
          some (table, sets, key)
        else none
      | _ => none
    | _ => none
  | _ => none

/-- The statement that a text is, if it is exactly one. -/
def parseUpdate (text : Text) : Option (Text × List Assignment × Assignment) :=
  (lex text).bind readUpdate

section Reading

variable {a : Assignment} {rest : List Token}

theorem tokens_of_complete {column function number : Text}
    (h : (Value.call function number).complete = true) :
    Assignment.tokens ⟨column, .call function number⟩ =
      [.word column, .punctuation 61, .word function, .punctuation 40, .number number,
        .punctuation 41] := by
  have hne : number ≠ [] := by simpa [Value.complete] using h
  simp [Assignment.tokens, Value.tokens, hne]

/-- One assignment with another one after it. -/
theorem readSet_cons (ha : a.value.complete = true) (rest : List Token) :
    readSet (a.tokens ++ .punctuation 44 :: rest) =
      (readSet rest).map fun r => (a :: r.1, r.2) := by
  obtain ⟨column, value⟩ := a
  cases value with
  | literal text => rfl
  | call function number =>
    rw [tokens_of_complete ha]
    rfl

/-- A call without a number is not read. -/
theorem readSet_incomplete (ha : a.value.complete = false) (rest : List Token) :
    readSet (a.tokens ++ rest) = none := by
  obtain ⟨column, value⟩ := a
  cases value with
  | literal text => cases ha
  | call function number =>
    obtain rfl : number = [] := by simpa [Value.complete] using ha
    rfl

theorem readSet_last (ha : a.value.complete = true)
    (hrest : rest.head? ≠ some (.punctuation 44)) :
    readSet (a.tokens ++ rest) = some ([a], rest) := by
  obtain ⟨column, value⟩ := a
  cases value with
  | literal text =>
    show readSet (.word column :: .punctuation 61 :: .string text :: rest) = _
    unfold readSet
    split <;> simp_all
  | call function number =>
    rw [tokens_of_complete ha]
    show readSet (.word column :: .punctuation 61 :: .word function :: .punctuation 40 ::
      .number number :: .punctuation 41 :: rest) = _
    unfold readSet
    split <;> simp_all
    rename_i hno
    exact hno column function number rest rfl rfl rfl rfl

/-- The assignments are read when every call has its number. -/
theorem readSet_tokens {sets : List Assignment} (hne : sets ≠ [])
    (hrest : rest.head? ≠ some (.punctuation 44)) :
    readSet (setTokens sets ++ rest) =
      if sets.all fun a => a.value.complete then some (sets, rest) else none := by
  induction sets with
  | nil => exact absurd rfl hne
  | cons a sets ih =>
    cases sets with
    | nil =>
      cases ha : a.value.complete with
      | true => simpa [ha, setTokens] using readSet_last ha hrest
      | false => simpa [ha, setTokens] using readSet_incomplete ha rest
    | cons b sets =>
      show readSet ((a.tokens ++ .punctuation 44 :: setTokens (b :: sets)) ++ rest) = _
      rw [List.append_assoc, List.cons_append, List.all_cons]
      cases ha : a.value.complete with
      | true =>
        rw [readSet_cons ha, ih (List.cons_ne_nil b sets), Bool.true_and]
        split <;> rfl
      | false => exact readSet_incomplete ha _

end Reading

/-! ## The text of a statement -/

/-- A name that is read as one word. -/
def isName : Text → Bool
  | [] => false
  | b :: rest => isWordByte b && rest.all fun c => isWordByte c || isDigit c

/-- The parts of a value that are not escaped have their form.  A number may be
missing. -/
def Value.Valid : Value → Prop
  | .literal _ => True
  | .call function number => isName function = true ∧ number.all isNumberByte = true

/-- Both parts can be read back. -/
structure Assignment.Valid (a : Assignment) : Prop where
  column : isName a.column = true
  value : a.value.Valid

section Text

variable {text rest : Text}

/-- A letter begins a word. -/
theorem beginToken_word {b : UInt8} (hb : isWordByte b = true) :
    beginToken b = some ([], .word [b]) := by
  have hnot : isSpace b = false ∧ isPunctuation b = false ∧ isNumberByte b = false := by
    simp only [isWordByte, isSpace, isPunctuation, isNumberByte, isDigit, Bool.or_eq_true,
      Bool.and_eq_true, decide_eq_true_eq, beq_iff_eq, ← Bool.not_eq_true, UInt8.le_iff_toNat_le,
      ← UInt8.toNat_inj, UInt8.reduceToNat] at hb ⊢
    omega
  unfold beginToken
  rw [hnot.1, hnot.2.1, hnot.2.2, hb]
  rfl

theorem lex_name (hname : isName text = true)
    (hrest : ∀ c, rest.head? = some c → (isWordByte c || isDigit c) = false) :
    lex (text ++ rest) = (lex rest).map (.word text :: ·) := by
  cases text with
  | nil => cases hname
  | cons b tail =>
    obtain ⟨hb, htail⟩ := Bool.and_eq_true_iff.1 hname
    exact lex_word (beginToken_word hb) (List.all_eq_true.1 htail) hrest

theorem lex_blanks (blanks : ℕ) (rest : Text) :
    lex (List.replicate blanks 32 ++ rest) = lex rest := by
  induction blanks with
  | zero => rfl
  | succ blanks ih =>
    rw [List.replicate_succ, List.cons_append, lex_space rfl, ih]

theorem lex_value {value : Value} (hvalid : value.Valid) (hrest : rest.head? ≠ some 39) :
    lex (value.sql ++ rest) = (lex rest).map (value.tokens ++ ·) := by
  cases value with
  | literal text =>
    show lex (39 :: ((escape text ++ [39]) ++ rest)) = _
    rw [List.append_assoc, List.singleton_append, lex_escape text hrest]
    rfl
  | call function number =>
    obtain ⟨hfunction, hnumber⟩ := hvalid
    have hopen : ∀ c, (40 :: (number ++ 41 :: rest) : Text).head? = some c →
        (isWordByte c || isDigit c) = false := by
      intro c hc
      obtain rfl : 40 = c := Option.some.inj hc
      rfl
    have hclose : ∀ c, (41 :: rest : Text).head? = some c →
        isNumberByte c = false ∧ isWordByte c = false := by
      intro c hc
      obtain rfl : 41 = c := Option.some.inj hc
      exact ⟨rfl, rfl⟩
    have htext : (Value.call function number).sql ++ rest =
        function ++ 40 :: (number ++ 41 :: rest) := by
      simp [Value.sql]
    rw [htext, lex_name hfunction hopen, lex_punctuation rfl rfl, Value.tokens]
    by_cases hne : number = []
    · rw [hne, List.nil_append, lex_punctuation rfl rfl, if_pos rfl]
      simp only [Option.map_map]
      rfl
    · rw [lex_number hne (List.all_eq_true.1 hnumber) hclose, lex_punctuation rfl rfl, if_neg hne]
      simp only [Option.map_map]
      rfl

theorem lex_assignment {a : Assignment} (hvalid : a.Valid) (hrest : rest.head? ≠ some 39) :
    lex (a.sql ++ rest) = (lex rest).map (a.tokens ++ ·) := by
  have hequals : ∀ c, (61 :: (a.value.sql ++ rest) : Text).head? = some c →
      (isWordByte c || isDigit c) = false := by
    intro c hc
    obtain rfl : 61 = c := Option.some.inj hc
    rfl
  have htext : a.sql ++ rest = a.column ++ 61 :: (a.value.sql ++ rest) := by
    simp [Assignment.sql]
  rw [htext, lex_name hvalid.column hequals, lex_punctuation rfl rfl,
    lex_value hvalid.value hrest]
  simp only [Option.map_map]
  rfl

theorem lex_setClause {sets : List (ℕ × Assignment)} (hvalid : ∀ s ∈ sets, s.2.Valid)
    (hrest : rest.head? ≠ some 39) :
    lex (setClause sets ++ rest) = (lex rest).map (setTokens (sets.map Prod.snd) ++ ·) := by
  induction sets with
  | nil =>
    show lex rest = (lex rest).map fun tokens => tokens
    cases lex rest <;> rfl
  | cons s sets ih =>
    obtain ⟨blanks, a⟩ := s
    have ha := hvalid (blanks, a) List.mem_cons_self
    cases sets with
    | nil =>
      show lex ((List.replicate blanks 32 ++ a.sql) ++ rest) = _
      rw [List.append_assoc, lex_blanks, lex_assignment ha hrest]
      rfl
    | cons next sets =>
      have hnext := ih fun s hs => hvalid s (List.mem_cons_of_mem _ hs)
      show lex ((List.replicate blanks 32 ++ (a.sql ++ 44 :: setClause (next :: sets))) ++
        rest) = _
      rw [List.append_assoc, lex_blanks, List.append_assoc, List.cons_append,
        lex_assignment ha (by simp), lex_punctuation rfl rfl, hnext]
      simp only [Option.map_map]
      refine congrArg (Option.map · _) (funext fun tokens => ?_)
      simp [setTokens]

end Text

/-- A statement whose names and numbers have their form. -/
structure Update.Valid (u : Update) : Prop where
  table : isName u.table = true
  sets : ∀ s ∈ u.sets, s.2.Valid
  nonempty : u.sets ≠ []
  key : u.key.Valid

/-- A word, a blank and what follows it. -/
theorem lex_name_space {name : Text} (hname : isName name = true) (rest : Text) :
    lex (name ++ 32 :: rest) = (lex rest).map (.word name :: ·) := by
  rw [lex_name hname fun c hc => ?_, lex_space rfl]
  obtain rfl : 32 = c := Option.some.inj hc
  rfl

theorem lex_sql {u : Update} (hvalid : u.Valid) :
    lex u.sql = some (.word (lit "UPDATE") :: .word u.table :: .word (lit "SET") ::
      (setTokens (u.sets.map Prod.snd) ++ .word (lit "WHERE") :: u.key.tokens)) := by
  have htext : u.sql = lit "UPDATE" ++ 32 :: (u.table ++ 32 :: (lit "SET" ++ 32 ::
      (setClause u.sets ++ 32 :: (lit "WHERE" ++ 32 :: (u.key.sql ++ []))))) := by
    simp [Update.sql, lit]
  rw [htext, lex_name_space (show isName (lit "UPDATE") = true from rfl),
    lex_name_space hvalid.table, lex_name_space (show isName (lit "SET") = true from rfl),
    lex_setClause hvalid.sets (by simp), lex_space rfl,
    lex_name_space (show isName (lit "WHERE") = true from rfl), lex_assignment hvalid.key (by simp)]
  have hend : lex [] = some [] := rfl
  simp only [hend, Option.map_some, List.append_nil]

/-- The text of a statement is read as that statement, unless a call has no number. -/
theorem parseUpdate_sql {u : Update} (hvalid : u.Valid) :
    parseUpdate u.sql =
      if u.complete then some (u.table, u.sets.map Prod.snd, u.key) else none := by
  have hsets : u.sets.map Prod.snd ≠ [] := by
    simpa using hvalid.nonempty
  have hread := readSet_tokens hsets (show (Token.word (lit "WHERE") :: u.key.tokens).head? ≠
    some (.punctuation 44) by simp)
  have hkey := readSet_tokens (List.cons_ne_nil u.key [])
    (show ([] : List Token).head? ≠ some (.punctuation 44) by simp)
  rw [List.append_nil] at hkey
  rw [List.all_map] at hread
  rw [parseUpdate, lex_sql hvalid, Option.bind_some, readUpdate, hread]
  change readSet u.key.tokens = _ at hkey
  unfold Update.complete
  cases hcomplete : u.sets.all fun s => s.2.value.complete with
  | false =>
    rw [show (u.sets.all ((fun a => a.value.complete) ∘ Prod.snd)) = false from hcomplete]
    rfl
  | true =>
    rw [show (u.sets.all ((fun a => a.value.complete) ∘ Prod.snd)) = true from hcomplete]
    rw [if_pos rfl]
    dsimp only
    rw [hkey, List.all_cons, List.all_nil, Bool.and_true, Bool.true_and]
    cases u.key.value.complete <;> rfl

end Base.SqlUpdate
