import Spine.Base.Splitting
import Spine.Poller.Result

/-!
# The forms of a result

What `classify_result` accepts, said without its scanners.

* Numbers.  `IsDecimal` is the grammar of `decimal_syntax`, and `IsNumber` says
  which kind `parse_decimal` gives a text.  `parseDecimal_eq_some_iff` is the
  equivalence.
* Octets.  `IsOctets` is a text of octets, and `bigEndian` is the number that
  they denote.  The scanner keeps 64 bits and a mark, and
  `parseOctets_of_isOctets` shows that the number is exact below `2 ^ 64`.
* `Classifies` lists the cases in the order of the source.  The call works on
  a copy, which `strip_alpha` cuts in place.
* Normalization does nothing the second time, and padding around the text
  changes nothing.
-/

namespace Spine

open Base.CString

/-! ## Numbers -/

/-- A text of digits, possibly empty. -/
def IsDigits (text : Text) : Prop := ∀ b ∈ text, isDigit b = true

/-- An optional sign. -/
def IsSign (text : Text) : Prop := text = [] ∨ text = [43] ∨ text = [45]

/-- An optional exponent with the power of ten that it denotes. -/
def IsExponent (text : Text) (power : Int) : Prop :=
  text = [] ∧ power = 0 ∨
    ∃ mark sign digits, (mark = 101 ∨ mark = 69) ∧ IsSign sign ∧ IsDigits digits ∧ digits ≠ [] ∧
      text = mark :: (sign ++ digits) ∧
      power = if sign = [45] then -(digitsValue digits : Int) else digitsValue digits

/-- The fraction of a number with its point, or nothing. -/
def fractionText (point : Bool) (fraction : Text) : Text := if point then 46 :: fraction else []

/-- The grammar of a decimal number: a sign, digits with at most one point
among them and at least one digit in all, and an exponent. -/
def IsDecimal (text : Text) (number : DecimalText) : Prop :=
  ∃ (sign whole fraction tail : Text) (point : Bool) (power : Int),
    IsSign sign ∧ IsDigits whole ∧ IsDigits fraction ∧ whole ++ fraction ≠ [] ∧
      (point = false → fraction = []) ∧ IsExponent tail power ∧
      text = sign ++ (whole ++ (fractionText point fraction ++ tail)) ∧
      number = ⟨decide (sign = [45]), whole ++ fraction, power - fraction.length,
        !point && tail.isEmpty⟩

/-- A plus sign or none, and digits that denote a number of 64 bits. -/
def IsCounter (text : Text) (value : Nat) : Prop :=
  ∃ digits, (text = digits ∨ text = 43 :: digits) ∧ IsDigits digits ∧ digits ≠ [] ∧
    value = digitsValue digits ∧ value < 2 ^ 64

/-- A minus sign, and digits that denote a signed number of 64 bits. -/
def IsSigned (text : Text) (value : Int) : Prop :=
  ∃ digits, text = 45 :: digits ∧ IsDigits digits ∧ digits ≠ [] ∧
    value = -(digitsValue digits : Int) ∧ -2 ^ 63 ≤ value

/-- The kind of a text that is a number. -/
inductive IsNumber (text : Text) : ResultKind → Prop where
  | counter (value : Nat) : IsCounter text value → IsNumber text (.counter value)
  | signed (value : Int) : IsSigned text value → IsNumber text (.signed value)
  | float (number : DecimalText) : (∀ value, ¬ IsCounter text value) →
      (∀ value, ¬ IsSigned text value) → IsDecimal text number → number.overflows = false →
      IsNumber text (.float number)

/-- What `decimal_syntax` does after the digits. -/
def decimalEnd (negative : Bool) (whole fraction rest : Text) (integral : Bool) :
    Option DecimalText :=
  if whole.length + fraction.length = 0 then none
  else
    match rest with
    | [] => some ⟨negative, whole ++ fraction, 0 - fraction.length, integral⟩
    | mark :: more =>
      if mark = 101 ∨ mark = 69 then
        if (dropSign more).takeWhile isDigit ≠ [] ∧ (dropSign more).dropWhile isDigit = [] then
          some ⟨negative, whole ++ fraction, strtol more - fraction.length, false⟩
        else none
      else none

theorem decimalSyntax_of_point {text more : Text}
    (h : (dropSign text).dropWhile isDigit = 46 :: more) :
    decimalSyntax text =
      decimalEnd (decide (text.head? = some 45)) ((dropSign text).takeWhile isDigit)
        (more.takeWhile isDigit) (more.dropWhile isDigit) false := by
  unfold decimalSyntax
  dsimp only
  rw [h]
  rfl

theorem decimalSyntax_of_no_point {text : Text}
    (h : ∀ more, (dropSign text).dropWhile isDigit ≠ 46 :: more) :
    decimalSyntax text =
      decimalEnd (decide (text.head? = some 45)) ((dropSign text).takeWhile isDigit) []
        ((dropSign text).dropWhile isDigit) true := by
  unfold decimalSyntax
  dsimp only
  split
  · rename_i more hmore
    exact absurd hmore (h more)
  · rfl

/-! ### Signs and runs of digits -/

/-- No sign stands at the front. -/
def NoSign (text : Text) : Prop := ∀ b ∈ text.head?, b ≠ 43 ∧ b ≠ 45

/-- No digit stands at the front. -/
def NoDigit (text : Text) : Prop := ∀ b ∈ text.head?, isDigit b = false

theorem dropSign_of_noSign {text : Text} (h : NoSign text) : dropSign text = text := by
  unfold dropSign
  split
  · exact absurd rfl (h 43 rfl).1
  · exact absurd rfl (h 45 rfl).2
  · rfl

theorem dropSign_append {sign rest : Text} (hsign : IsSign sign) (h : NoSign rest) :
    dropSign (sign ++ rest) = rest := by
  rcases hsign with rfl | rfl | rfl
  · exact dropSign_of_noSign h
  · rfl
  · rfl

/-- A text is its sign and what `dropSign` leaves. -/
theorem exists_sign (text : Text) :
    ∃ sign, IsSign sign ∧ text = sign ++ dropSign text ∧
      (text.head? = some 45 ↔ sign = [45]) := by
  unfold dropSign
  split
  · exact ⟨[43], Or.inr (Or.inl rfl), rfl, by simp⟩
  · exact ⟨[45], Or.inr (Or.inr rfl), rfl, by simp⟩
  · rename_i hminus
    refine ⟨[], Or.inl rfl, rfl, ?_⟩
    cases text with
    | nil => simp
    | cons b rest =>
      have hne : b ≠ 45 := fun hb => hminus rest (by rw [hb])
      simp [hne]

theorem head_sign_append {sign rest : Text} (hsign : IsSign sign) (h : NoSign rest) :
    decide ((sign ++ rest).head? = some 45) = decide (sign = [45]) := by
  rcases hsign with rfl | rfl | rfl
  · have hhead : rest.head? ≠ some 45 := fun hhead => (h 45 hhead).2 rfl
    simp [hhead]
  · simp
  · simp

theorem takeWhile_digits_append {digits rest : Text} (hdigits : IsDigits digits)
    (h : NoDigit rest) : (digits ++ rest).takeWhile isDigit = digits :=
  Base.Splitting.takeWhile_run hdigits h

theorem dropWhile_digits_append {digits rest : Text} (hdigits : IsDigits digits)
    (h : NoDigit rest) : (digits ++ rest).dropWhile isDigit = rest :=
  Base.Splitting.dropWhile_run hdigits h

theorem isDigits_takeWhile (text : Text) : IsDigits (text.takeWhile isDigit) :=
  fun _ hb => List.mem_takeWhile_imp hb

theorem noSign_of_isDigits {digits : Text} (h : IsDigits digits) : NoSign digits := by
  intro b hb
  have hdigit := h b (List.mem_of_mem_head? hb)
  constructor <;> rintro rfl <;> exact absurd hdigit (by decide)

theorem noDigit_nil : NoDigit [] := nofun

theorem noDigit_cons {b : UInt8} (h : isDigit b = false) (rest : Text) : NoDigit (b :: rest) := by
  intro c hc
  cases hc
  exact h

theorem noDigit_of_isExponent {tail : Text} {power : Int} (h : IsExponent tail power) :
    NoDigit tail := by
  rcases h with ⟨rfl, -⟩ | ⟨mark, sign, digits, hmark, -, -, -, rfl, -⟩
  · exact noDigit_nil
  · rcases hmark with rfl | rfl
    · exact noDigit_cons (by decide) _
    · exact noDigit_cons (by decide) _

theorem noDigit_fractionText {point : Bool} {fraction tail : Text} (h : NoDigit tail) :
    NoDigit (fractionText point fraction ++ tail) := by
  cases point with
  | true => exact noDigit_cons (by decide) _
  | false => exact h

/-- `strtol` on an optional sign and digits. -/
theorem strtol_sign_digits {sign digits : Text} (hsign : IsSign sign) (h : IsDigits digits)
    (hne : digits ≠ []) :
    strtol (sign ++ digits) =
      if sign = [45] then -(digitsValue digits : Int) else digitsValue digits := by
  have htake : digits.takeWhile isDigit = digits := List.takeWhile_eq_self_iff.2 h
  rcases hsign with rfl | rfl | rfl
  · exact strtol_of_digits hne h
  · show (digitsValue (digits.takeWhile isDigit) : Int) = _
    rw [htake, if_neg (by decide)]
  · show -(digitsValue (digits.takeWhile isDigit) : Int) = _
    rw [htake, if_pos rfl]

/-! ### The grammar -/

theorem decimalEnd_of_isExponent {negative integral : Bool} {whole fraction tail : Text}
    {power : Int} (hne : whole ++ fraction ≠ []) (h : IsExponent tail power) :
    decimalEnd negative whole fraction tail integral =
      some ⟨negative, whole ++ fraction, power - fraction.length, integral && tail.isEmpty⟩ := by
  have hlength : ¬ whole.length + fraction.length = 0 := by
    rw [← List.length_append]
    exact fun hzero => hne (List.eq_nil_of_length_eq_zero hzero)
  unfold decimalEnd
  rw [if_neg hlength]
  rcases h with ⟨rfl, rfl⟩ | ⟨mark, sign, digits, hmark, hsign, hdigits, hdne, rfl, rfl⟩
  · simp
  · have hdrop : dropSign (sign ++ digits) = digits :=
      dropSign_append hsign (noSign_of_isDigits hdigits)
    have htake : digits.takeWhile isDigit = digits := List.takeWhile_eq_self_iff.2 hdigits
    have hrest : digits.dropWhile isDigit = [] := List.dropWhile_eq_nil_iff.2 hdigits
    dsimp only
    rw [if_pos hmark, hdrop, htake, hrest, if_pos ⟨hdne, rfl⟩,
      strtol_sign_digits hsign hdigits hdne]
    simp

theorem isExponent_of_decimalEnd {negative integral : Bool} {whole fraction rest : Text}
    {number : DecimalText} (h : decimalEnd negative whole fraction rest integral = some number) :
    whole ++ fraction ≠ [] ∧ ∃ power, IsExponent rest power ∧
      number = ⟨negative, whole ++ fraction, power - fraction.length,
        integral && rest.isEmpty⟩ := by
  unfold decimalEnd at h
  split at h
  · cases h
  rename_i hlength
  have hne : whole ++ fraction ≠ [] := by
    intro hnil
    rw [← List.length_append, hnil] at hlength
    exact hlength rfl
  refine ⟨hne, ?_⟩
  cases rest with
  | nil => exact ⟨0, Or.inl ⟨rfl, rfl⟩, by simpa using (Option.some.inj h).symm⟩
  | cons mark more =>
    dsimp only at h
    split at h
    swap
    · cases h
    rename_i hmark
    split at h
    swap
    · cases h
    rename_i hexponent
    obtain ⟨sign, hsign, hmore, -⟩ := exists_sign more
    have hdigits : (dropSign more).takeWhile isDigit = dropSign more := by
      have hsplit := List.takeWhile_append_dropWhile (p := isDigit) (l := dropSign more)
      rwa [hexponent.2, List.append_nil] at hsplit
    have hall : IsDigits (dropSign more) := by
      rw [← hdigits]
      exact isDigits_takeWhile _
    have hdne : dropSign more ≠ [] := by
      rw [← hdigits]
      exact hexponent.1
    refine ⟨strtol more, Or.inr ⟨mark, sign, dropSign more, hmark, hsign, hall, hdne, ?_, ?_⟩, ?_⟩
    · rw [← hmore]
    · rw [← strtol_sign_digits hsign hall hdne, ← hmore]
    · simpa using (Option.some.inj h).symm

theorem isDecimal_of_decimalSyntax {text : Text} {number : DecimalText}
    (h : decimalSyntax text = some number) : IsDecimal text number := by
  obtain ⟨sign, hsign, htext, hhead⟩ := exists_sign text
  have hsplit := List.takeWhile_append_dropWhile (p := isDigit) (l := dropSign text)
  by_cases hpoint : ∃ more, (dropSign text).dropWhile isDigit = 46 :: more
  · obtain ⟨more, hmore⟩ := hpoint
    rw [decimalSyntax_of_point hmore] at h
    obtain ⟨hne, power, hexponent, hnumber⟩ := isExponent_of_decimalEnd h
    refine ⟨sign, _, _, _, true, power, hsign, isDigits_takeWhile _, isDigits_takeWhile more,
      hne, nofun, hexponent, ?_, ?_⟩
    · show text = sign ++ (_ ++ (46 :: more.takeWhile isDigit ++ more.dropWhile isDigit))
      rw [List.cons_append, List.takeWhile_append_dropWhile, ← hmore, hsplit]
      exact htext
    · rw [hnumber]
      simp [hhead]
  · push Not at hpoint
    rw [decimalSyntax_of_no_point hpoint] at h
    obtain ⟨hne, power, hexponent, hnumber⟩ := isExponent_of_decimalEnd h
    refine ⟨sign, _, [], _, false, power, hsign, isDigits_takeWhile _, nofun, hne, fun _ => rfl,
      hexponent, ?_, ?_⟩
    · show text = sign ++ (_ ++ ([] ++ _))
      rw [List.nil_append, hsplit]
      exact htext
    · rw [hnumber]
      simp [hhead]

/-- No sign follows the sign of a number. -/
theorem noSign_body {whole fraction tail : Text} {point : Bool} (hwhole : IsDigits whole)
    (hne : whole ++ fraction ≠ []) (hpoint : point = false → fraction = []) :
    NoSign (whole ++ (fractionText point fraction ++ tail)) := by
  cases whole with
  | cons b whole =>
    intro c hc
    cases hc
    exact noSign_of_isDigits hwhole b rfl
  | nil =>
    cases point with
    | true =>
      intro b hb
      cases hb
      decide
    | false => exact absurd (by rw [hpoint rfl]; rfl) hne

theorem decimalSyntax_of_isDecimal {text : Text} {number : DecimalText}
    (h : IsDecimal text number) : decimalSyntax text = some number := by
  obtain ⟨sign, whole, fraction, tail, point, power, hsign, hwhole, hfraction, hne, hpoint,
    hexponent, rfl, rfl⟩ := h
  have htail := noDigit_of_isExponent hexponent
  have hrest : NoDigit (fractionText point fraction ++ tail) := noDigit_fractionText htail
  have hbody : NoSign (whole ++ (fractionText point fraction ++ tail)) :=
    noSign_body hwhole hne hpoint
  have hdrop := dropSign_append hsign hbody
  have htakeWhole := takeWhile_digits_append hwhole hrest
  have hdropWhole := dropWhile_digits_append hwhole hrest
  have hnegative := head_sign_append hsign hbody
  cases point with
  | true =>
    have hmore : (dropSign (sign ++ (whole ++ (fractionText true fraction ++ tail)))).dropWhile
        isDigit = 46 :: (fraction ++ tail) := by
      rw [hdrop, hdropWhole]
      rfl
    rw [decimalSyntax_of_point hmore, hdrop, htakeWhole, takeWhile_digits_append hfraction htail,
      dropWhile_digits_append hfraction htail, decimalEnd_of_isExponent hne hexponent, hnegative]
    rfl
  | false =>
    have hnil := hpoint rfl
    subst hnil
    have hmore : ∀ more, (dropSign (sign ++ (whole ++ (fractionText false [] ++ tail)))).dropWhile
        isDigit ≠ 46 :: more := by
      intro more hmore
      rw [hdrop, hdropWhole] at hmore
      rcases hexponent with ⟨rfl, -⟩ | ⟨mark, _, _, hmark, -, -, -, rfl, -⟩
      · cases hmore
      · cases hmore
        exact absurd hmark (by decide)
    rw [decimalSyntax_of_no_point hmore, hdrop, htakeWhole, hdropWhole]
    show decimalEnd _ whole [] tail true = _
    rw [decimalEnd_of_isExponent hne hexponent, hnegative]
    rfl

/-- `decimal_syntax` accepts the grammar and nothing else. -/
theorem decimalSyntax_eq_some_iff {text : Text} {number : DecimalText} :
    decimalSyntax text = some number ↔ IsDecimal text number :=
  ⟨isDecimal_of_decimalSyntax, decimalSyntax_of_isDecimal⟩

/-! ### Integers -/

theorem isDecimal_integer {sign digits : Text} (hsign : IsSign sign) (h : IsDigits digits)
    (hne : digits ≠ []) : IsDecimal (sign ++ digits) ⟨decide (sign = [45]), digits, 0, true⟩ :=
  ⟨sign, digits, [], [], false, 0, hsign, h, nofun, by simpa using hne, fun _ => rfl,
    Or.inl ⟨rfl, rfl⟩, by simp [fractionText], by simp⟩

theorem IsDecimal.integer {text : Text} {number : DecimalText} (h : IsDecimal text number)
    (hintegral : number.integral = true) :
    ∃ sign, IsSign sign ∧ IsDigits number.digits ∧ number.digits ≠ [] ∧
      text = sign ++ number.digits ∧ number.negative = decide (sign = [45]) := by
  obtain ⟨sign, whole, fraction, tail, point, power, hsign, hwhole, -, hne, hpoint, -, rfl,
    rfl⟩ := h
  obtain ⟨hnone, htail⟩ := Bool.and_eq_true_iff.1 hintegral
  obtain rfl : point = false := by simpa using hnone
  obtain rfl : tail = [] := List.isEmpty_iff.1 htail
  obtain rfl := hpoint rfl
  rw [List.append_nil] at hne
  refine ⟨sign, hsign, ?_, ?_, ?_, rfl⟩
  · simpa using hwhole
  · simpa using hne
  · simp [fractionText]

theorem IsDecimal.isSigned {text : Text} {number : DecimalText} (h : IsDecimal text number)
    (hintegral : number.integral = true) (hnegative : number.negative = true)
    (hle : digitsValue number.digits ≤ 2 ^ 63) :
    IsSigned text (-(digitsValue number.digits : Int)) := by
  obtain ⟨sign, -, hdigits, hne, htext, hsign⟩ := h.integer hintegral
  obtain rfl : sign = [45] := of_decide_eq_true (hsign.symm.trans hnegative)
  exact ⟨number.digits, htext, hdigits, hne, rfl, by omega⟩

theorem IsDecimal.isCounter {text : Text} {number : DecimalText} (h : IsDecimal text number)
    (hintegral : number.integral = true) (hpositive : ¬ number.negative = true)
    (hlt : digitsValue number.digits < 2 ^ 64) : IsCounter text (digitsValue number.digits) := by
  obtain ⟨sign, hsign, hdigits, hne, htext, hnegative⟩ := h.integer hintegral
  refine ⟨number.digits, ?_, hdigits, hne, rfl, hlt⟩
  rcases hsign with rfl | rfl | rfl
  · exact Or.inl htext
  · exact Or.inr htext
  · exact absurd hnegative hpositive

theorem decimalSyntax_of_isCounter {text : Text} {value : Nat} (h : IsCounter text value) :
    ∃ number, decimalSyntax text = some number ∧ number.integral = true ∧
      number.negative = false ∧ digitsValue number.digits = value ∧ value < 2 ^ 64 := by
  obtain ⟨digits, htext, hdigits, hne, hvalue, hlt⟩ := h
  rcases htext with rfl | rfl
  · exact ⟨_, decimalSyntax_eq_some_iff.2 (isDecimal_integer (Or.inl rfl) hdigits hne), rfl, rfl,
      hvalue.symm, hlt⟩
  · exact ⟨_, decimalSyntax_eq_some_iff.2 (isDecimal_integer (Or.inr (Or.inl rfl)) hdigits hne),
      rfl, rfl, hvalue.symm, hlt⟩

theorem decimalSyntax_of_isSigned {text : Text} {value : Int} (h : IsSigned text value) :
    ∃ number, decimalSyntax text = some number ∧ number.integral = true ∧
      number.negative = true ∧ -(digitsValue number.digits : Int) = value ∧
      digitsValue number.digits ≤ 2 ^ 63 := by
  obtain ⟨digits, rfl, hdigits, hne, rfl, hle⟩ := h
  exact ⟨_, decimalSyntax_eq_some_iff.2 (isDecimal_integer (Or.inr (Or.inr rfl)) hdigits hne),
    rfl, rfl, rfl, by dsimp only; omega⟩

/-- `parse_decimal` gives a text its kind. -/
theorem parseDecimal_eq_some_iff {text : Text} {kind : ResultKind} :
    parseDecimal text = some kind ↔ IsNumber text kind := by
  constructor
  · intro h
    obtain ⟨number, hparsed, hcases⟩ := parseDecimal_cases h
    have hdecimal := decimalSyntax_eq_some_iff.1 hparsed
    rcases hcases with ⟨rfl, hint, hneg, hle⟩ | ⟨rfl, hint, hpos, hlt⟩ |
      ⟨rfl, hsigned, hcounter, hoverflow⟩
    · exact .signed _ (hdecimal.isSigned hint hneg hle)
    · exact .counter _ (hdecimal.isCounter hint hpos hlt)
    · refine .float number (fun value hvalue => ?_) (fun value hvalue => ?_) hdecimal
        (Bool.eq_false_of_not_eq_true hoverflow)
      · obtain ⟨other, hother, hint, hpos, rfl, hlt⟩ := decimalSyntax_of_isCounter hvalue
        cases hparsed.symm.trans hother
        exact hcounter ⟨hint, by simp [hpos], hlt⟩
      · obtain ⟨other, hother, hint, hneg, -, hle⟩ := decimalSyntax_of_isSigned hvalue
        cases hparsed.symm.trans hother
        exact hsigned ⟨hint, hneg, hle⟩
  · intro h
    unfold parseDecimal
    cases h with
    | counter value hvalue =>
      obtain ⟨number, hparsed, hint, hpos, rfl, hlt⟩ := decimalSyntax_of_isCounter hvalue
      rw [hparsed]
      dsimp only
      rw [if_neg (by simp [hpos]), if_pos ⟨hint, by simp [hpos], hlt⟩]
    | signed value hvalue =>
      obtain ⟨number, hparsed, hint, hneg, rfl, hle⟩ := decimalSyntax_of_isSigned hvalue
      rw [hparsed]
      dsimp only
      rw [if_pos ⟨hint, hneg, hle⟩]
    | float number hnoCounter hnoSigned hdecimal hfinite =>
      rw [decimalSyntax_eq_some_iff.2 hdecimal]
      dsimp only
      have hsigned : ¬ (number.integral ∧ number.negative ∧
          digitsValue number.digits ≤ 2 ^ 63) := by
        rintro ⟨hint, hneg, hle⟩
        exact hnoSigned _ (hdecimal.isSigned hint hneg hle)
      have hcounter : ¬ (number.integral ∧ ¬ number.negative ∧
          digitsValue number.digits < 2 ^ 64) := by
        rintro ⟨hint, hpos, hlt⟩
        exact hnoCounter _ (hdecimal.isCounter hint hpos hlt)
      rw [if_neg hsigned, if_neg hcounter, if_neg (by simp [hfinite])]

/-! ## Octets -/

/-- Octets of two hex digits, with one separator between two of them. -/
inductive IsOctets : Text → List Nat → Prop where
  | last {high low : UInt8} {h l : Nat} : hexDigit high = some h → hexDigit low = some l →
      IsOctets [high, low] [h * 16 + l]
  | cons {high low separator : UInt8} {h l : Nat} {rest : Text} {octets : List Nat} :
      hexDigit high = some h → hexDigit low = some l →
      separator = 32 ∨ separator = 58 ∨ separator = 45 → IsOctets rest octets →
      IsOctets (high :: low :: separator :: rest) ((h * 16 + l) :: octets)

/-- The number of octets that are read on from `number`. -/
def bigEndianFrom (number : Nat) (octets : List Nat) : Nat :=
  octets.foldl (fun number octet => number * 256 + octet) number

/-- The number that octets denote, the first of them the highest. -/
def bigEndian (octets : List Nat) : Nat := bigEndianFrom 0 octets

theorem le_bigEndianFrom (number : Nat) (octets : List Nat) :
    number ≤ bigEndianFrom number octets := by
  induction octets generalizing number with
  | nil => exact le_rfl
  | cons octet octets ih =>
    have hstep := ih (number * 256 + octet)
    show number ≤ bigEndianFrom (number * 256 + octet) octets
    omega

theorem hexDigit_lt {b : UInt8} {value : Nat} (h : hexDigit b = some value) : value < 16 := by
  unfold hexDigit at h
  simp only [UInt8.le_iff_toNat_le] at h
  split_ifs at h with hdigit hlower hupper
  · cases h
    have hbound : (57 : UInt8).toNat = 57 := rfl
    omega
  · cases h
    have hbound : (102 : UInt8).toNat = 102 := rfl
    omega
  · cases h
    have hbound : (70 : UInt8).toNat = 70 := rfl
    omega

/-- The mark of a lost bit stays. -/
theorem parseOctetsFrom_overflow {text : Text} {octets : List Nat} (h : IsOctets text octets)
    (number : Nat) : parseOctetsFrom number true text = .overflow := by
  induction h generalizing number with
  | last hhigh hlow =>
    unfold parseOctetsFrom
    rw [hhigh, hlow]
    rfl
  | cons hhigh hlow hseparator _ ih =>
    rw [parseOctetsFrom, hhigh, hlow]
    dsimp only
    rw [if_pos hseparator]
    exact ih _

/-- One octet shifts in exactly, or the mark is set. -/
theorem addOctet_of_lt {number high low : Nat} (h : number < 2 ^ 56) (hhigh : high < 16)
    (hlow : low < 16) :
    addOctet number false high low = (number * 256 + (high * 16 + low), false) := by
  unfold addOctet
  rw [Nat.mod_eq_of_lt (by omega), Bool.false_or, decide_eq_false (by omega)]

theorem addOctet_of_le {number high low : Nat} (h : 2 ^ 56 ≤ number) :
    (addOctet number false high low).2 = true := by
  unfold addOctet
  rw [Bool.false_or]
  exact decide_eq_true (by omega)

/-- From an exact number, the scanner gives the exact number of all octets, or
the mark when that number is too wide. -/
theorem parseOctetsFrom_of_isOctets {text : Text} {octets : List Nat} (h : IsOctets text octets)
    (number : Nat) :
    parseOctetsFrom number false text =
      if bigEndianFrom number octets < 2 ^ 64 then .value (bigEndianFrom number octets)
      else .overflow := by
  induction h generalizing number with
  | last hhigh hlow =>
    rename_i high low h l
    have hh := hexDigit_lt hhigh
    have hl := hexDigit_lt hlow
    rw [parseOctetsFrom, hhigh, hlow]
    show _ = if number * 256 + (h * 16 + l) < 2 ^ 64 then Octets.value _ else _
    dsimp only
    by_cases hfits : number < 2 ^ 56
    · rw [addOctet_of_lt hfits hh hl, if_neg Bool.false_ne_true, if_pos (by omega)]
      rfl
    · rw [addOctet_of_le (by omega), if_pos rfl, if_neg (by omega)]
  | cons hhigh hlow hseparator hrest ih =>
    rename_i high low separator h l rest octets
    have hh := hexDigit_lt hhigh
    have hl := hexDigit_lt hlow
    rw [parseOctetsFrom, hhigh, hlow]
    show _ = if bigEndianFrom (number * 256 + (h * 16 + l)) octets < 2 ^ 64 then
      Octets.value (bigEndianFrom (number * 256 + (h * 16 + l)) octets) else _
    dsimp only
    rw [if_pos hseparator]
    by_cases hfits : number < 2 ^ 56
    · rw [addOctet_of_lt hfits hh hl]
      exact ih _
    · -- A bit is lost here, and the octets that follow only add to the number.
      have hgrows := le_bigEndianFrom (number * 256 + (h * 16 + l)) octets
      rw [addOctet_of_le (by omega), if_neg (by omega)]
      exact parseOctetsFrom_overflow hrest _

theorem parseOctets_of_isOctets {text : Text} {octets : List Nat} (h : IsOctets text octets) :
    parseOctets text =
      if bigEndian octets < 2 ^ 64 then .value (bigEndian octets) else .overflow :=
  parseOctetsFrom_of_isOctets h 0

/-- The scanner refuses every other text. -/
theorem exists_isOctets {number : Nat} {overflow : Bool} {text : Text}
    (h : parseOctetsFrom number overflow text ≠ .none) : ∃ octets, IsOctets text octets := by
  fun_induction parseOctetsFrom number overflow text
  case case1 => exact ⟨_, .last (by assumption) (by assumption)⟩
  case case2 => exact ⟨_, .last (by assumption) (by assumption)⟩
  case case4 =>
    rename_i ih
    obtain ⟨octets, hoctets⟩ := ih h
    exact ⟨_, .cons (by assumption) (by assumption) (by assumption) hoctets⟩
  all_goals exact absurd rfl h

/-! ## Several fields -/

/-- Cacti's form of several fields: there is a delimiter, and there are no
blanks or one blank fewer than delimiters. -/
def IsMultipart (text : Text) : Prop :=
  (58 ∈ text ∨ 33 ∈ text) ∧
    (text.count 32 = 0 ∨ text.count 32 + 1 = text.count 58 + text.count 33)

theorem countP_delimiters (text : Text) :
    (text.countP fun b => b == 58 || b == 33) = text.count 58 + text.count 33 := by
  induction text with
  | nil => rfl
  | cons b text ih =>
    rw [List.countP_cons, List.count_cons, List.count_cons, ih]
    by_cases hcolon : b = 58
    · simp only [hcolon]
      simp
      omega
    · by_cases hmark : b = 33
      · simp [hmark]
        omega
      · simp [hcolon, hmark]

theorem multipartSyntax_iff {text : Text} : multipartSyntax text = true ↔ IsMultipart text := by
  have hmem : text.count 58 + text.count 33 ≠ 0 ↔ 58 ∈ text ∨ 33 ∈ text := by
    rw [← List.count_pos_iff, ← List.count_pos_iff]
    omega
  unfold multipartSyntax IsMultipart
  simp only [countP_delimiters, Bool.and_eq_true, Bool.or_eq_true, decide_eq_true_eq]
  rw [hmem]

/-! ## The classification -/

/-- What a stripped text is classified as.  The cases are tried in this order,
and each of them excludes the ones before it. -/
inductive Classifies (text : Text) : ClassifiedResult → Prop where
  | unfit : text = [] ∨ RESULTS_BUFFER ≤ text.length → Classifies text ⟨.unknown, lit "U"⟩
  | number (kind : ResultKind) : text ≠ [] → text.length < RESULTS_BUFFER →
      IsNumber text kind → Classifies text ⟨kind, text⟩
  | multipart : text ≠ [] → text.length < RESULTS_BUFFER → (∀ kind, ¬ IsNumber text kind) →
      IsMultipart text → Classifies text ⟨.multipart, text⟩
  | hexCounter (octets : List Nat) : text ≠ [] → text.length < RESULTS_BUFFER →
      (∀ kind, ¬ IsNumber text kind) → ¬ IsMultipart text → IsOctets text octets →
      bigEndian octets < 2 ^ 64 →
      Classifies text ⟨.hexCounter (bigEndian octets), decimal (bigEndian octets)⟩
  | wide (octets : List Nat) : text ≠ [] → text.length < RESULTS_BUFFER →
      (∀ kind, ¬ IsNumber text kind) → ¬ IsMultipart text → IsOctets text octets →
      2 ^ 64 ≤ bigEndian octets → Classifies text ⟨.unknown, lit "U"⟩
  | wrapped (kind : ResultKind) : text ≠ [] → text.length < RESULTS_BUFFER →
      (∀ kind, ¬ IsNumber text kind) → ¬ IsMultipart text → (∀ octets, ¬ IsOctets text octets) →
      IsNumber (stripAlpha text) kind → Classifies text ⟨kind, stripAlpha text⟩
  | other : text ≠ [] → text.length < RESULTS_BUFFER → (∀ kind, ¬ IsNumber text kind) →
      ¬ IsMultipart text → (∀ octets, ¬ IsOctets text octets) →
      (∀ kind, ¬ IsNumber (stripAlpha text) kind) → Classifies text ⟨.unknown, lit "U"⟩

theorem not_isNumber {text : Text} (h : parseDecimal text = none) (kind : ResultKind) :
    ¬ IsNumber text kind := by
  intro hnumber
  rw [parseDecimal_eq_some_iff.2 hnumber] at h
  cases h

theorem classifyResult_classifies (raw : Text) :
    Classifies (strip isTrimChar raw) (classifyResult raw) := by
  unfold classifyResult
  dsimp only
  generalize strip isTrimChar raw = text
  by_cases hunfit : text = [] ∨ RESULTS_BUFFER ≤ text.length
  · rw [if_pos hunfit]
    exact .unfit hunfit
  rw [if_neg hunfit]
  obtain ⟨hne, hlength⟩ := not_or.1 hunfit
  rw [not_le] at hlength
  cases hdecimal : parseDecimal text with
  | some kind => exact .number kind hne hlength (parseDecimal_eq_some_iff.1 hdecimal)
  | none =>
    have hnumber := not_isNumber hdecimal
    dsimp only
    by_cases hmultipart : multipartSyntax text = true
    · rw [if_pos hmultipart]
      exact .multipart hne hlength hnumber (multipartSyntax_iff.1 hmultipart)
    rw [if_neg hmultipart]
    have hfields : ¬ IsMultipart text := fun h => hmultipart (multipartSyntax_iff.2 h)
    by_cases hoctets : ∃ octets, IsOctets text octets
    · obtain ⟨octets, hoctets⟩ := hoctets
      rw [parseOctets_of_isOctets hoctets]
      by_cases hfits : bigEndian octets < 2 ^ 64
      · rw [if_pos hfits]
        exact .hexCounter octets hne hlength hnumber hfields hoctets hfits
      · rw [if_neg hfits]
        exact .wide octets hne hlength hnumber hfields hoctets (not_lt.1 hfits)
    · have hnone : parseOctets text = .none := by
        by_contra hsome
        exact hoctets (exists_isOctets hsome)
      have hnot : ∀ octets, ¬ IsOctets text octets := fun octets h => hoctets ⟨octets, h⟩
      rw [hnone]
      dsimp only
      cases hwrapped : parseDecimal (stripAlpha text) with
      | some kind =>
        exact .wrapped kind hne hlength hnumber hfields hnot (parseDecimal_eq_some_iff.1 hwrapped)
      | none => exact .other hne hlength hnumber hfields hnot (not_isNumber hwrapped)

/-- The memory of one call: the text that `raw` points to, and `*out`. -/
structure ClassifyCall where
  raw : Text
  out : ClassifiedResult
  deriving DecidableEq, Repr

/-- `classify_result` on its memory. -/
def classifyInto (call : ClassifyCall) : ClassifyCall :=
  let call := { call with out := .unknown }
  let start := strip isTrimChar call.raw
  if start = [] ∨ RESULTS_BUFFER ≤ start.length then call
  else
    let call := { call with out := ⟨.unknown, start⟩ }
    match parseDecimal call.out.text with
    | some kind => { call with out := ⟨kind, call.out.text⟩ }
    | none =>
      if multipartSyntax call.out.text then { call with out := ⟨.multipart, call.out.text⟩ }
      else
        match parseOctets call.out.text with
        | .value number => { call with out := ⟨.hexCounter number, decimal number⟩ }
        | .overflow => { call with out := .unknown }
        | .none =>
          -- `strip_alpha` cuts the copy after its last digit and returns a
          -- pointer into it; a number is then moved to the front.
          let call := { call with
            out := ⟨call.out.kind, rstrip (fun b => !isDigit b) call.out.text⟩ }
          let core := call.out.text.dropWhile fun b => !isDigit b && b != 45
          match parseDecimal core with
          | some kind => { call with out := ⟨kind, core⟩ }
          | none => { call with out := .unknown }

theorem classifyInto_eq (call : ClassifyCall) :
    classifyInto call = ⟨call.raw, classifyResult call.raw⟩ := by
  unfold classifyInto classifyResult
  dsimp only
  split
  · rfl
  cases hdecimal : parseDecimal (strip isTrimChar call.raw) with
  | some kind => rfl
  | none =>
    dsimp only
    split
    · rfl
    cases hoctets : parseOctets (strip isTrimChar call.raw) with
    | value number => rfl
    | overflow => rfl
    | none =>
      show (match parseDecimal (stripAlpha (strip isTrimChar call.raw)) with
        | some kind => _
        | none => _) = _
      dsimp only
      cases parseDecimal (stripAlpha (strip isTrimChar call.raw)) with
      | some kind => rfl
      | none => rfl

/-- The whole of `classify_result`: the text that `raw` points to stays, and
the result is what the stripped text is classified as. -/
theorem classifyInto_spec (call : ClassifyCall) :
    (classifyInto call).raw = call.raw ∧
      Classifies (strip isTrimChar call.raw) (classifyInto call).out := by
  rw [classifyInto_eq]
  exact ⟨rfl, classifyResult_classifies call.raw⟩

/-! ## Normalization -/

theorem IsNumber.ne_unknown {text : Text} {kind : ResultKind} (h : IsNumber text kind) :
    kind ≠ .unknown :=
  parseDecimal_ne_unknown (parseDecimal_eq_some_iff.2 h)

/-- An unknown result has the text `U`. -/
theorem Classifies.eq_unknown {text : Text} {out : ClassifiedResult} (h : Classifies text out)
    (hkind : out.kind = .unknown) : out = .unknown := by
  cases h with
  | unfit => rfl
  | number kind _ _ hnumber => exact absurd hkind hnumber.ne_unknown
  | multipart => cases hkind
  | hexCounter => cases hkind
  | wide => rfl
  | wrapped kind _ _ _ _ _ hnumber => exact absurd hkind hnumber.ne_unknown
  | other => rfl

/-- The text of a result is classified as itself, as a value or as unknown. -/
theorem classifyResult_text (raw : Text) :
    (classifyResult (classifyResult raw).text).text = (classifyResult raw).text ∧
      ((classifyResult (classifyResult raw).text).kind = .unknown ↔
        (classifyResult raw).kind = .unknown) := by
  by_cases hkind : (classifyResult raw).kind = .unknown
  · rw [(classifyResult_classifies raw).eq_unknown hkind]
    decide
  · have hself := classifyResult_selfClassified hkind
    exact ⟨hself.text_eq, iff_of_false hself.kind hkind⟩

/-- `normalize_poll_result` stores the text of the classification, and it is
valid exactly when the kind is known. -/
theorem normalizePollResult_eq (result : Text) (snmp : Bool) :
    (normalizePollResult result snmp).2 = (classifyResult result).text ∧
      ((normalizePollResult result snmp).1 = .valid ↔
        (classifyResult result).kind ≠ .unknown) := by
  unfold normalizePollResult
  by_cases hundefined : isUndefined result = true
  · rw [if_pos hundefined, isUndefined_iff.1 hundefined]
    exact ⟨by decide, iff_of_false nofun (by decide)⟩
  rw [if_neg hundefined]
  dsimp only
  by_cases hkind : (classifyResult result).kind ≠ .unknown
  · rw [if_pos hkind]
    exact ⟨snprintfS_eq_self (classifyResult_selfClassified hkind).length, iff_of_true rfl hkind⟩
  · rw [if_neg hkind, (classifyResult_classifies result).eq_unknown (not_not.1 hkind)]
    split
    · exact ⟨rfl, iff_of_false nofun (by decide)⟩
    · exact ⟨rfl, iff_of_false nofun (by decide)⟩

/-- Padding around a text does not change its classification. -/
theorem classifyResult_padded {before after : Text} (hbefore : ∀ b ∈ before, isTrimChar b = true)
    (hafter : ∀ b ∈ after, isTrimChar b = true) (text : Text) :
    classifyResult (before ++ text ++ after) = classifyResult text := by
  unfold classifyResult
  rw [strip_append hbefore hafter]

/-- Normalization the second time changes neither the text nor whether it is
valid, and neither does padding before or after the result. -/
theorem normalizePollResult_stable (result : Text) (snmp : Bool) :
    (normalizePollResult (normalizePollResult result snmp).2 snmp).2 =
        (normalizePollResult result snmp).2 ∧
      ((normalizePollResult (normalizePollResult result snmp).2 snmp).1 = .valid ↔
        (normalizePollResult result snmp).1 = .valid) ∧
      ∀ before after : Text, (∀ b ∈ before, isTrimChar b = true) →
        (∀ b ∈ after, isTrimChar b = true) →
        (normalizePollResult (before ++ result ++ after) snmp).2 =
            (normalizePollResult result snmp).2 ∧
          ((normalizePollResult (before ++ result ++ after) snmp).1 = .valid ↔
            (normalizePollResult result snmp).1 = .valid) := by
  obtain ⟨htext, hvalid⟩ := normalizePollResult_eq result snmp
  obtain ⟨hagain, hunknown⟩ := classifyResult_text result
  refine ⟨?_, ?_, fun before after hbefore hafter => ?_⟩
  · rw [(normalizePollResult_eq _ snmp).1, htext]
    exact hagain
  · rw [(normalizePollResult_eq _ snmp).2, htext, hvalid]
    exact not_congr hunknown
  · obtain ⟨hpadded, hpaddedValid⟩ := normalizePollResult_eq (before ++ result ++ after) snmp
    have hsame := classifyResult_padded hbefore hafter result
    rw [hpadded, hpaddedValid, hsame]
    exact ⟨htext.symm, hvalid.symm⟩

/-- A padded octet string is stored as its number, and so is the number. -/
theorem normalizePollResult_stable_octets :
    (normalizePollResult (lit " 0A\n") true).2 = lit "10" ∧
      (normalizePollResult (normalizePollResult (lit "0A") true).2 true).2 = lit "10" := by
  obtain ⟨hagain, -, hpadded⟩ := normalizePollResult_stable (lit "0A") true
  have hpad : lit " 0A\n" = lit " " ++ lit "0A" ++ lit "\n" := by decide
  have htext : (normalizePollResult (lit "0A") true).2 = lit "10" := by decide
  have hbefore := List.all_eq_true.mp (show (lit " ").all isTrimChar = true by decide)
  have hafter := List.all_eq_true.mp (show (lit "\n").all isTrimChar = true by decide)
  refine ⟨?_, hagain.trans htext⟩
  rw [hpad, (hpadded (lit " ") (lit "\n") hbefore hafter).1, htext]

end Spine
