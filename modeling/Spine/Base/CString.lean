import Mathlib.Data.List.Basic
import Mathlib.Data.List.TakeWhile
import Mathlib.Tactic.Linarith

/-!
# C strings as byte lists

A C string is modelled as the list of its bytes before the terminating NUL.
The buffer that holds it does not appear: what a bounded copy keeps of a text
is a function of the capacity and the text, and the capacity is an argument
of every operation that has one.

The module has five groups.

* Texts, literals and bounded copies.  `snprintfS` is what `snprintf` with
  the format `"%s"` leaves in a buffer, and `cstr` is the string that a raw
  buffer holds.
* Decimal output, with the length bound of a 32-bit number.
* Decimal input.  `atoll` skips white space, takes one sign and saturates at
  the bounds of a 64-bit signed integer.  What was printed is read back.
* The `<string.h>` functions that callers use: comparison without case, the
  first occurrence of a byte, the first token, substring search, and the two
  trims, which do nothing twice.
* Separated lists, built by appending one more entry at a time.

Nothing here knows which program uses the strings.
-/

namespace Base.CString

/-! ## Texts and bounded copies -/

/-- The bytes of a C string before its terminating NUL. -/
abbrev Text := List UInt8

/-- The text of an ASCII literal. -/
def lit (s : String) : Text := s.toList.map fun c => UInt8.ofNat c.toNat

theorem lit_append (s t : String) : lit (s ++ t) = lit s ++ lit t := by
  rw [lit, String.toList_append, List.map_append]
  rfl

/-- The length of a literal, which unifies with `String.ofList` of its
characters. -/
theorem length_lit (chars : List Char) : (lit (String.ofList chars)).length = chars.length := by
  rw [lit, String.toList_ofList, List.length_map]

/-- The string that a byte buffer holds: its bytes before the first NUL. -/
def cstr (buffer : List UInt8) : Text := buffer.takeWhile (· != 0)

/-- What `snprintf(buffer, capacity, "%s", text)` leaves in the buffer. -/
def snprintfS (capacity : Nat) (text : Text) : Text := text.take (capacity - 1)

theorem cstr_length_le (buffer : List UInt8) : (cstr buffer).length ≤ buffer.length :=
  (List.takeWhile_sublist _).length_le

theorem cstr_eq_self {text : Text} (h : (0 : UInt8) ∉ text) : cstr text = text := by
  rw [cstr, List.takeWhile_eq_self_iff]
  intro b hb
  have hne : b ≠ 0 := fun h0 => h (h0 ▸ hb)
  simpa using hne

/-- A NUL after a NUL-free text ends the string there. -/
theorem cstr_append_nul {text : Text} (h : (0 : UInt8) ∉ text) (rest : List UInt8) :
    cstr (text ++ 0 :: rest) = text := by
  induction text with
  | nil => rfl
  | cons b text ih =>
    have hb : b ≠ 0 := fun h0 => h (by simp [h0])
    have htail : (0 : UInt8) ∉ text := fun h0 => h (List.mem_cons_of_mem _ h0)
    have hbool : (b != 0) = true := by simpa using hb
    rw [cstr, List.cons_append, List.takeWhile_cons, if_pos hbool]
    exact congrArg (b :: ·) (ih htail)

theorem zero_notMem_cstr (buffer : List UInt8) : (0 : UInt8) ∉ cstr buffer := by
  intro h
  have := List.mem_takeWhile_imp h
  simp at this

/-- A text that fits is copied whole. -/
theorem snprintfS_eq_self {capacity : Nat} {text : Text} (h : text.length < capacity) :
    snprintfS capacity text = text :=
  List.take_of_length_le (by omega)

/-! ## Decimal output -/

/-- The decimal digits of a natural number, as `%u` and `%lu` print them. -/
def decimal (n : Nat) : Text := (Nat.toDigits 10 n).map fun c => UInt8.ofNat c.toNat

/-- A signed number as `%i` prints it. -/
def decimalInt (i : Int) : Text :=
  if i < 0 then lit "-" ++ decimal i.natAbs else decimal i.natAbs

theorem decimal_length_le {n k : Nat} (hk : 0 < k) (h : n < 10 ^ k) :
    (decimal n).length ≤ k := by
  rw [decimal, List.length_map]
  exact (Nat.length_toDigits_le_iff (by decide) hk).2 h

/-- A 32-bit number prints in at most eleven bytes, sign included. -/
theorem decimalInt_length_le (i : Int32) : (decimalInt i.toInt).length ≤ 11 := by
  have hlow := i.le_toInt
  have hhigh := i.toInt_lt
  have hdigits : (decimal i.toInt.natAbs).length ≤ 10 :=
    decimal_length_le (by decide) (by omega)
  rw [decimalInt]
  split
  · simp only [List.length_append]
    have hsign : (lit "-").length = 1 := length_lit _
    omega
  · omega

/-! ## Decimal input -/

/-- `isdigit` in the C locale. -/
def isDigit (b : UInt8) : Bool := 48 ≤ b && b ≤ 57

/-- `isspace` in the C locale. -/
def isSpace (b : UInt8) : Bool := b == 32 || (9 ≤ b && b ≤ 13)

/-- The number that a run of digits denotes, read on from `acc`. -/
def digitsFrom (acc : Nat) (digits : Text) : Nat :=
  digits.foldl (fun n b => 10 * n + (b.toNat - 48)) acc

/-- The number that a run of digits denotes. -/
def digitsValue (digits : Text) : Nat := digitsFrom 0 digits

/-- The number at the front of a text, after white space and one sign.  A
text without digits there denotes zero. -/
def strtol (text : Text) : Int :=
  match text.dropWhile isSpace with
  | 45 :: rest => -(digitsValue (rest.takeWhile isDigit) : Int)
  | 43 :: rest => digitsValue (rest.takeWhile isDigit)
  | rest => digitsValue (rest.takeWhile isDigit)

/-- The bounds of a 64-bit signed integer. -/
def llongMax : Int := 2 ^ 63 - 1

def llongMin : Int := -2 ^ 63

/-- `atoll`, which saturates. -/
def atoll (text : Text) : Int := max llongMin (min llongMax (strtol text))

/-- `atoi`: what `strtol` returns, as a 32-bit number. -/
def atoi (text : Text) : Int32 := Int32.ofInt (atoll text)

/-- A text without its sign. -/
def unsigned (text : Text) : Text :=
  match text with
  | 45 :: rest => rest
  | 43 :: rest => rest
  | rest => rest

/-- What `strtol` leaves unread.  A text without a number is left whole. -/
def strtolRest (text : Text) : Text :=
  let digits := unsigned (text.dropWhile isSpace)
  if digits.head?.any isDigit then digits.dropWhile isDigit else text

theorem decimal_ne_nil (n : Nat) : decimal n ≠ [] := by
  rw [decimal, Ne, List.map_eq_nil_iff]
  exact Nat.toDigits_ne_nil

theorem isDigit_iff {b : UInt8} : isDigit b = true ↔ 48 ≤ b.toNat ∧ b.toNat ≤ 57 := by
  rw [isDigit, Bool.and_eq_true, decide_eq_true_iff, decide_eq_true_iff, UInt8.le_iff_toNat_le,
    UInt8.le_iff_toNat_le]
  rfl

/-- A digit keeps its code as a byte. -/
theorem toNat_digit {n : Nat} {c : Char} (h : c ∈ Nat.toDigits 10 n) :
    (UInt8.ofNat c.toNat).toNat = c.toNat ∧ 48 ≤ c.toNat ∧ c.toNat ≤ 57 := by
  have hdigit := Nat.isDigit_of_mem_toDigits (by decide) (by decide) h
  rw [Char.isDigit_iff_toNat] at hdigit
  have hlow : '0'.toNat = 48 := rfl
  have hhigh : '9'.toNat = 57 := rfl
  rw [UInt8.toNat_ofNat']
  omega

theorem isDigit_of_mem_decimal {n : Nat} {b : UInt8} (h : b ∈ decimal n) : isDigit b = true := by
  rw [decimal, List.mem_map] at h
  obtain ⟨c, hc, rfl⟩ := h
  obtain ⟨hbyte, hlow, hhigh⟩ := toNat_digit hc
  rw [isDigit_iff, hbyte]
  exact ⟨hlow, hhigh⟩

/-- A signed number is printed with digits and a minus sign. -/
theorem notMem_decimalInt {b : UInt8} (hdigit : isDigit b = false) (hsign : b ≠ 45) (i : Int) :
    b ∉ decimalInt i := by
  have hdecimal : b ∉ decimal i.natAbs := by
    intro hmem
    rw [isDigit_of_mem_decimal hmem] at hdigit
    cases hdigit
  unfold decimalInt
  split
  · rw [List.mem_append, not_or]
    exact ⟨fun hmem => hsign (List.mem_singleton.1 hmem), hdecimal⟩
  · exact hdecimal

/-- Digits that were printed are read back. -/
theorem digitsValue_decimal (n : Nat) : digitsValue (decimal n) = n := by
  have hread : digitsValue (decimal n) = Nat.ofDigitChars 10 (Nat.toDigits 10 n) 0 := by
    rw [digitsValue, digitsFrom, decimal, List.foldl_map, Nat.ofDigitChars_eq_foldl]
    refine List.foldl_ext _ _ _ fun acc c hc => ?_
    rw [(toNat_digit hc).1]
    rfl
  rw [hread, Nat.ofDigitChars_ten_toDigits]

theorem digitsFrom_lt {digits : Text} (h : ∀ b ∈ digits, isDigit b = true) (acc : Nat) :
    digitsFrom acc digits < (acc + 1) * 10 ^ digits.length := by
  induction digits generalizing acc with
  | nil =>
    show acc < (acc + 1) * 1
    omega
  | cons b digits ih =>
    have hb := isDigit_iff.1 (h b List.mem_cons_self)
    have hrest := ih (fun c hc => h c (List.mem_cons_of_mem _ hc)) (10 * acc + (b.toNat - 48))
    have hstep : 10 * acc + (b.toNat - 48) + 1 ≤ (acc + 1) * 10 := by omega
    show digitsFrom (10 * acc + (b.toNat - 48)) digits < _
    calc digitsFrom (10 * acc + (b.toNat - 48)) digits
        < (10 * acc + (b.toNat - 48) + 1) * 10 ^ digits.length := hrest
      _ ≤ (acc + 1) * 10 * 10 ^ digits.length := Nat.mul_le_mul_right _ hstep
      _ = (acc + 1) * 10 ^ (digits.length + 1) := by
        rw [Nat.pow_succ, Nat.mul_assoc, Nat.mul_comm 10]

/-- Printing a number again takes no more digits than it had. -/
theorem decimal_digitsValue_length_le {digits : Text} (hne : digits ≠ [])
    (h : ∀ b ∈ digits, isDigit b = true) :
    (decimal (digitsValue digits)).length ≤ digits.length := by
  have hlt := digitsFrom_lt h 0
  rw [Nat.zero_add, Nat.one_mul] at hlt
  exact decimal_length_le (List.length_pos_of_ne_nil hne) hlt

theorem isSpace_of_isDigit {b : UInt8} (h : isDigit b = true) : isSpace b = false := by
  rw [isDigit_iff] at h
  rw [isSpace, Bool.or_eq_false_iff, beq_eq_false_iff_ne, Bool.and_eq_false_iff]
  refine ⟨fun hblank => ?_, Or.inr ?_⟩
  · rw [hblank] at h
    exact absurd h.1 (by decide)
  · rw [decide_eq_false_iff_not, UInt8.le_iff_toNat_le]
    have hbound : (13 : UInt8).toNat = 13 := rfl
    omega

/-- A text of digits only is one number. -/
theorem strtol_of_digits {text : Text} (hne : text ≠ []) (h : ∀ b ∈ text, isDigit b = true) :
    strtol text = digitsValue text := by
  cases text with
  | nil => exact absurd rfl hne
  | cons b rest =>
    have hb := h b List.mem_cons_self
    have hwhole : (b :: rest).takeWhile isDigit = b :: rest :=
      List.takeWhile_eq_self_iff.2 h
    unfold strtol
    rw [List.dropWhile_cons_of_neg (by simp [isSpace_of_isDigit hb])]
    split
    · rename_i heq
      cases heq
      exact absurd hb (by decide)
    · rename_i heq
      cases heq
      exact absurd hb (by decide)
    · rw [hwhole]

/-- After a text that starts with a digit, `strtol` leaves what follows its
digits. -/
theorem strtolRest_of_digit {b : UInt8} {rest : Text} (hb : isDigit b = true) :
    strtolRest (b :: rest) = (b :: rest).dropWhile isDigit := by
  have hspace : (b :: rest).dropWhile isSpace = b :: rest :=
    List.dropWhile_cons_of_neg (by simp [isSpace_of_isDigit hb])
  have hsign : unsigned (b :: rest) = b :: rest := by
    unfold unsigned
    split
    · rename_i heq
      cases heq
      exact absurd hb (by decide)
    · rename_i heq
      cases heq
      exact absurd hb (by decide)
    · rfl
  unfold strtolRest
  rw [hspace, hsign]
  exact if_pos hb

theorem strtol_decimal (n : Nat) : strtol (decimal n) = n := by
  rw [strtol_of_digits (decimal_ne_nil n) fun _ hb => isDigit_of_mem_decimal hb,
    digitsValue_decimal]

/-- A number that was printed is read back, up to the bound. -/
theorem atoll_decimal (n : Nat) : atoll (decimal n) = min (2 ^ 63 - 1) (n : Int) := by
  rw [atoll, strtol_decimal, llongMin, llongMax]
  omega

/-- White space in front of a number is skipped. -/
theorem strtol_cons_space {b : UInt8} (hb : isSpace b = true) (text : Text) :
    strtol (b :: text) = strtol text := by
  unfold strtol
  rw [List.dropWhile_cons_of_pos hb]

theorem strtol_decimalInt (i : Int) : strtol (decimalInt i) = i := by
  unfold decimalInt
  split
  · rename_i hneg
    have hdigits : (decimal i.natAbs).takeWhile isDigit = decimal i.natAbs :=
      List.takeWhile_eq_self_iff.2 fun _ hb => isDigit_of_mem_decimal hb
    show -(digitsValue ((decimal i.natAbs).takeWhile isDigit) : Int) = i
    rw [hdigits, digitsValue_decimal]
    omega
  · rw [strtol_decimal]
    omega

/-- A 32-bit number that was printed is read back. -/
theorem atoi_decimalInt (i : Int32) : atoi (decimalInt i.toInt) = i := by
  have hlow := i.le_toInt
  have hhigh := i.toInt_lt
  have hread : atoll (decimalInt i.toInt) = i.toInt := by
    rw [atoll, strtol_decimalInt, llongMin, llongMax]
    omega
  rw [atoi, hread, Int32.ofInt_toInt]

theorem atoi_cons_space {b : UInt8} (hb : isSpace b = true) (text : Text) :
    atoi (b :: text) = atoi text := by
  unfold atoi atoll
  rw [strtol_cons_space hb]

/-! ## Functions of `<string.h>` -/

/-- `tolower` in the C locale. -/
def toLower (b : UInt8) : UInt8 := if 65 ≤ b && b ≤ 90 then b + 32 else b

theorem toLower_of_isDigit {b : UInt8} (h : isDigit b = true) : toLower b = b := by
  rw [isDigit_iff] at h
  have hbound : (65 : UInt8).toNat = 65 := rfl
  refine if_neg fun hupper => ?_
  rw [Bool.and_eq_true, decide_eq_true_iff, UInt8.le_iff_toNat_le] at hupper
  omega

/-- `strcasecmp(a, b) == 0`. -/
def strcaseeq (a b : Text) : Bool := a.map toLower == b.map toLower

/-- `strchr`: what stands before the first occurrence of a byte, and what stands
after it.  `none` is `NULL`. -/
def strchr (text : Text) (b : UInt8) : Option (Text × Text) :=
  match text with
  | [] => none
  | c :: rest => if c = b then some ([], rest) else (strchr rest b).map fun r => (c :: r.1, r.2)

theorem strchr_eq_none {text : Text} {b : UInt8} (h : b ∉ text) : strchr text b = none := by
  induction text with
  | nil => rfl
  | cons c rest ih =>
    rw [List.mem_cons, not_or] at h
    rw [strchr, if_neg (Ne.symm h.1), ih h.2]
    rfl

theorem strchr_append {before : Text} {b : UInt8} (h : b ∉ before) (after : Text) :
    strchr (before ++ b :: after) b = some (before, after) := by
  induction before with
  | nil => exact if_pos rfl
  | cons c rest ih =>
    rw [List.mem_cons, not_or] at h
    rw [List.cons_append, strchr, if_neg (Ne.symm h.1), ih h.2]
    rfl

/-- The byte that `strchr` finds is the first one. -/
theorem strchr_eq_some {text before after : Text} {b : UInt8}
    (h : strchr text b = some (before, after)) : text = before ++ b :: after ∧ b ∉ before := by
  by_cases hmem : b ∈ text
  · obtain ⟨front, rest, rfl, hfront⟩ := List.eq_append_cons_of_mem hmem
    rw [strchr_append hfront, Option.some.injEq, Prod.mk.injEq] at h
    obtain ⟨rfl, rfl⟩ := h
    exact ⟨rfl, hfront⟩
  · rw [strchr_eq_none hmem] at h
    cases h

/-- `strstr(haystack, needle) != NULL`. -/
def strstr (haystack needle : Text) : Bool := haystack.tails.any needle.isPrefixOf

/-- What `strtok_r(buffer, delimiter, ..)` leaves in the buffer: the leading
delimiters stay in front, and the first delimiter after the token becomes a
NUL. -/
def strtokHead (delimiter : UInt8) (text : Text) : Text :=
  text.takeWhile (· == delimiter) ++
    (text.dropWhile (· == delimiter)).takeWhile (· != delimiter)

/-- Drop the bytes of a set from the end of a text. -/
def rstrip (p : UInt8 → Bool) (text : Text) : Text := (text.reverse.dropWhile p).reverse

/-- Drop the bytes of a set from both ends of a text. -/
def strip (p : UInt8 → Bool) (text : Text) : Text := (rstrip p text).dropWhile p

theorem head_dropWhile {p : UInt8 → Bool} {text : Text} {b : UInt8}
    (h : b ∈ (text.dropWhile p).head?) : p b = false := by
  have hnot := List.head?_dropWhile_not p text
  rw [Option.mem_def.1 h] at hnot
  simpa using hnot

theorem getLast_dropWhile {p : UInt8 → Bool} {text : Text} {b : UInt8}
    (h : b ∈ (text.dropWhile p).getLast?) : b ∈ text.getLast? := by
  obtain ⟨front, hfront⟩ := List.dropWhile_suffix (l := text) p
  rw [← hfront, List.getLast?_append, Option.mem_def.1 h]
  rfl

theorem getLast_rstrip {p : UInt8 → Bool} {text : Text} {b : UInt8}
    (h : b ∈ (rstrip p text).getLast?) : p b = false := by
  rw [rstrip, List.getLast?_reverse] at h
  exact head_dropWhile h

/-- A text without padding at its ends stays. -/
theorem strip_eq_self {p : UInt8 → Bool} {text : Text} (hhead : ∀ b ∈ text.head?, p b = false)
    (hlast : ∀ b ∈ text.getLast?, p b = false) : strip p text = text := by
  have hkeep : ∀ text : Text, (∀ b ∈ text.head?, p b = false) → text.dropWhile p = text := by
    intro text h
    cases text with
    | nil => rfl
    | cons b text => exact List.dropWhile_cons_of_neg (by simp [h b rfl])
  have hrstrip : rstrip p text = text := by
    rw [rstrip, hkeep text.reverse (by rwa [List.head?_reverse]), List.reverse_reverse]
  rw [strip, hrstrip, hkeep text hhead]

theorem strip_strip (p : UInt8 → Bool) (text : Text) : strip p (strip p text) = strip p text :=
  strip_eq_self (fun _ => head_dropWhile) fun _ h => getLast_rstrip (getLast_dropWhile h)

/-- Padding at the end goes. -/
theorem rstrip_append {p : UInt8 → Bool} {after : Text} (h : ∀ b ∈ after, p b = true)
    (text : Text) : rstrip p (text ++ after) = rstrip p text := by
  have hreverse : ∀ b ∈ after.reverse, p b = true := fun b hb => h b (List.mem_reverse.1 hb)
  rw [rstrip, rstrip, List.reverse_append, List.dropWhile_append_of_pos hreverse]

/-- Padding around a text goes with the padding of the text. -/
theorem strip_append {p : UInt8 → Bool} {before after : Text} (hbefore : ∀ b ∈ before, p b = true)
    (hafter : ∀ b ∈ after, p b = true) (text : Text) :
    strip p (before ++ text ++ after) = strip p text := by
  rw [strip, rstrip_append hafter, strip, rstrip, rstrip, List.reverse_append,
    List.dropWhile_append]
  split
  · -- The text is padding only, and so is what comes before it.
    rename_i hempty
    have hreverse : ∀ b ∈ before.reverse, p b = true := fun b hb =>
      hbefore b (List.mem_reverse.1 hb)
    rw [List.isEmpty_iff.1 hempty, List.dropWhile_eq_nil_iff.2 hreverse]
  · rw [List.reverse_append, List.reverse_reverse, List.dropWhile_append_of_pos hbefore]

theorem rstrip_length_le (p : UInt8 → Bool) (text : Text) :
    (rstrip p text).length ≤ text.length := by
  have hle := (List.dropWhile_sublist (l := text.reverse) p).length_le
  rw [List.length_reverse] at hle
  rw [rstrip, List.length_reverse]
  exact hle

/-! ## Separated lists -/

/-- One more entry goes after one more separator. -/
theorem intercalate_append_singleton (sep : Text) {entries : List Text} (hne : entries ≠ [])
    (entry : Text) :
    sep.intercalate (entries ++ [entry]) = sep.intercalate entries ++ sep ++ entry := by
  induction entries with
  | nil => exact absurd rfl hne
  | cons first rest ih =>
    rcases eq_or_ne rest [] with rfl | hrest
    · simp
    · rw [List.cons_append, List.intercalate_cons_of_ne_nil (by simp),
        List.intercalate_cons_of_ne_nil hrest, ih hrest]
      simp only [List.append_assoc]

/-- One more entry goes after one more separator, unless it is the first. -/
theorem intercalate_concat (sep : Text) (entries : List Text) (entry : Text) :
    sep.intercalate (entries ++ [entry]) =
      sep.intercalate entries ++ ((if entries = [] then [] else sep) ++ entry) := by
  by_cases hnil : entries = []
  · rw [hnil]
    simp
  · rw [intercalate_append_singleton sep hnil, if_neg hnil, List.append_assoc]

end Base.CString
