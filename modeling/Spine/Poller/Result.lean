import Spine.App.Text

/-!
# What a poll returned

`classify_result` of `poller/result.c` decides what a script or an agent
returned and which text is stored for it.  `normalize_poll_result` of
`poller/poller.c` applies it to the result buffer of an item, and
`parse_uptime` of `poller/reindex.c` takes the counters out of it.

* Decimal numbers.  `decimalSyntax` reads a text by the grammar of a decimal
  number.  The value of `strtod` is not needed beyond one question, whether it
  is finite, and `DecimalText.overflows` answers that exactly: a decimal
  rounds to infinity from `2 ^ 1024 - 2 ^ 970` on.
* The other forms: several fields in one text, and a string of octets.
* The classification, in the order that the source tries the forms.
-/

namespace Spine

open Base.CString

/-! ## Decimal numbers -/

/-- A text of the decimal grammar: its sign, its digits before and after the
point in one run, the power of ten of the last digit, and whether it has
neither a point nor an exponent. -/
structure DecimalText where
  negative : Bool
  digits : Text
  scale : Int
  integral : Bool
  deriving DecidableEq, Repr

/-- One sign at the front goes. -/
def dropSign : Text → Text
  | 43 :: rest => rest
  | 45 :: rest => rest
  | text => text

/-- `decimal_syntax`. -/
def decimalSyntax (text : Text) : Option DecimalText :=
  let body := dropSign text
  let whole := body.takeWhile isDigit
  let (fraction, rest, integral) :=
    match body.dropWhile isDigit with
    | 46 :: more => (more.takeWhile isDigit, more.dropWhile isDigit, false)
    | more => ([], more, true)
  let number (exponent : Int) (integral : Bool) : DecimalText :=
    ⟨text.head? = some 45, whole ++ fraction, exponent - fraction.length, integral⟩
  if whole.length + fraction.length = 0 then none
  else
    match rest with
    | [] => some (number 0 integral)
    | mark :: more =>
      if mark = 101 ∨ mark = 69 then
        let exponent := (dropSign more).takeWhile isDigit
        if exponent ≠ [] ∧ (dropSign more).dropWhile isDigit = [] then
          some (number (strtol more) false)
        else none
      else none

/-- The least number that rounds to infinity as a double. -/
def doubleLimit : Nat := 2 ^ 1024 - 2 ^ 970

/-- `strtod` gives an infinity. -/
def DecimalText.overflows (number : DecimalText) : Bool :=
  if 0 ≤ number.scale then
    decide (doubleLimit ≤ digitsValue number.digits * 10 ^ number.scale.toNat)
  else
    decide (doubleLimit * 10 ^ (-number.scale).toNat ≤ digitsValue number.digits)

/-- `result_kind_t` with the member of the union that goes with it. -/
inductive ResultKind where
  | unknown
  | counter (value : Nat)
  | signed (value : Int)
  | float (value : DecimalText)
  | hexCounter (value : Nat)
  | multipart
  deriving DecidableEq, Repr

/-- `parse_decimal`.  An integer that is wider than 64 bits goes on as a
float. -/
def parseDecimal (text : Text) : Option ResultKind :=
  match decimalSyntax text with
  | none => none
  | some number =>
    let value := digitsValue number.digits
    if number.integral ∧ number.negative ∧ value ≤ 2 ^ 63 then some (.signed (-value))
    else if number.integral ∧ ¬ number.negative ∧ value < 2 ^ 64 then some (.counter value)
    else if number.overflows then none
    else some (.float number)

/-- The three kinds of a number, each with what the ones before it left. -/
theorem parseDecimal_cases {text : Text} {kind : ResultKind} (h : parseDecimal text = some kind) :
    ∃ number, decimalSyntax text = some number ∧
      ((kind = .signed (-digitsValue number.digits) ∧
          number.integral ∧ number.negative ∧ digitsValue number.digits ≤ 2 ^ 63) ∨
        (kind = .counter (digitsValue number.digits) ∧
          number.integral ∧ ¬ number.negative ∧ digitsValue number.digits < 2 ^ 64) ∨
        (kind = .float number ∧
          ¬ (number.integral ∧ number.negative ∧ digitsValue number.digits ≤ 2 ^ 63) ∧
          ¬ (number.integral ∧ ¬ number.negative ∧ digitsValue number.digits < 2 ^ 64) ∧
          ¬ number.overflows)) := by
  unfold parseDecimal at h
  cases hparsed : decimalSyntax text with
  | none =>
    rw [hparsed] at h
    cases h
  | some number =>
    rw [hparsed] at h
    dsimp only at h
    refine ⟨number, rfl, ?_⟩
    split_ifs at h with hsigned hcounter hoverflow
    · cases h
      exact Or.inl ⟨rfl, hsigned⟩
    · cases h
      exact Or.inr (Or.inl ⟨rfl, hcounter⟩)
    · cases h
      exact Or.inr (Or.inr ⟨rfl, hsigned, hcounter, hoverflow⟩)

/-! ## The other forms -/

/-- `multipart_syntax`: fields of the form `name:value`, one blank between two
of them. -/
def multipartSyntax (text : Text) : Bool :=
  let delimiters := text.countP fun b => b == 58 || b == 33
  let spaces := text.count 32
  decide (delimiters ≠ 0) && (decide (spaces = 0) || decide (spaces + 1 = delimiters))

/-- `hex_digit`. -/
def hexDigit (b : UInt8) : Option Nat :=
  if 48 ≤ b ∧ b ≤ 57 then some (b.toNat - 48)
  else if 97 ≤ b ∧ b ≤ 102 then some (b.toNat - 97 + 10)
  else if 65 ≤ b ∧ b ≤ 70 then some (b.toNat - 65 + 10)
  else none

/-- `octets_t`. -/
inductive Octets where
  | none
  | value (number : Nat)
  | overflow
  deriving DecidableEq, Repr

/-- The next octet shifted into a number of 64 bits, and whether bits were
lost so far. -/
def addOctet (number : Nat) (overflow : Bool) (high low : Nat) : Nat × Bool :=
  ((number * 256 + (high * 16 + low)) % 2 ^ 64, overflow || decide (2 ^ 56 - 1 < number))

/-- `parse_octets`, read on from the octets before. -/
def parseOctetsFrom (number : Nat) (overflow : Bool) : Text → Octets
  | [high, low] =>
    match hexDigit high, hexDigit low with
    | some h, some l =>
      let (number, overflow) := addOctet number overflow h l
      if overflow then .overflow else .value number
    | _, _ => .none
  | high :: low :: separator :: rest =>
    match hexDigit high, hexDigit low with
    | some h, some l =>
      if separator = 32 ∨ separator = 58 ∨ separator = 45 then
        let (number, overflow) := addOctet number overflow h l
        parseOctetsFrom number overflow rest
      else .none
    | _, _ => .none
  | _ => .none

/-- `parse_octets`. -/
def parseOctets (text : Text) : Octets := parseOctetsFrom 0 false text

/-! ## The classification -/

/-- `classified_result_t`. -/
structure ClassifiedResult where
  kind : ResultKind
  text : Text
  deriving DecidableEq, Repr

/-- What is stored for anything that no form fits. -/
def ClassifiedResult.unknown : ClassifiedResult := ⟨.unknown, undefinedText⟩

/-- `classify_result`.  The padding that it strips is the one of `trim`. -/
def classifyResult (raw : Text) : ClassifiedResult :=
  let text := strip isTrimChar raw
  if text = [] ∨ RESULTS_BUFFER ≤ text.length then .unknown
  else
    match parseDecimal text with
    | some kind => ⟨kind, text⟩
    | none =>
      if multipartSyntax text then ⟨.multipart, text⟩
      else
        match parseOctets text with
        | .value number => ⟨.hexCounter number, decimal number⟩
        | .overflow => .unknown
        | .none =>
          match parseDecimal (stripAlpha text) with
          | some kind => ⟨kind, stripAlpha text⟩
          | none => .unknown

/-- `enum poll_result_status`. -/
inductive PollResultStatus where
  | valid
  | undefined
  | invalid
  deriving DecidableEq, Repr

/-- `normalize_poll_result`: the status and the text that the result buffer
holds afterwards. -/
def normalizePollResult (result : Text) (snmp : Bool) : PollResultStatus × Text :=
  if isUndefined result then (.undefined, result)
  else
    let classified := classifyResult result
    if classified.kind ≠ .unknown then (.valid, snprintfS RESULTS_BUFFER classified.text)
    else if snmp && (strcaseeq result (lit "U") || strcaseeq result (lit "Nan")) then
      (.undefined, undefinedText)
    else (.invalid, undefinedText)

/-- `parse_uptime`. -/
def parseUptime (text : Text) : Option Nat :=
  match (classifyResult text).kind with
  | .counter ticks => some ticks
  | _ => none

/-- Neither the mark of an unknown value nor an empty text is an uptime. -/
theorem parseUptime_undefinedText : parseUptime undefinedText = none := by decide

theorem parseUptime_nil : parseUptime [] = none := by decide

/-- A counter has 64 bits. -/
theorem parseDecimal_counter_lt {text : Text} {ticks : Nat}
    (h : parseDecimal text = some (.counter ticks)) : ticks < 2 ^ 64 := by
  obtain ⟨number, -, ⟨hkind, -⟩ | ⟨hkind, -, -, hlt⟩ | ⟨hkind, -⟩⟩ := parseDecimal_cases h
  · cases hkind
  · cases hkind
    exact hlt
  · cases hkind

theorem parseUptime_lt {text : Text} {ticks : Nat} (h : parseUptime text = some ticks) :
    ticks < 2 ^ 64 := by
  unfold parseUptime at h
  split at h
  · rename_i counter hkind
    cases h
    unfold classifyResult at hkind
    dsimp only at hkind
    -- A counter is what one of the two looks for a number found.
    repeat' split at hkind
    all_goals cases hkind
    all_goals exact parseDecimal_counter_lt ‹_›
  · cases h

example : parseUptime (lit " 12345\n") = some 12345 := by decide

/-! ## Texts that are stored as they are -/

/-- A text of digits is a number. -/
theorem decimalSyntax_of_digits {text : Text} (hne : text ≠ [])
    (h : ∀ b ∈ text, isDigit b = true) : decimalSyntax text = some ⟨false, text, 0, true⟩ := by
  have hsign : dropSign text = text ∧ text.head? ≠ some 45 := by
    cases text with
    | nil => exact absurd rfl hne
    | cons b rest =>
      have hb := h b List.mem_cons_self
      constructor
      · unfold dropSign
        split
        · rename_i heq
          cases heq
          exact absurd hb (by decide)
        · rename_i heq
          cases heq
          exact absurd hb (by decide)
        · rfl
      · intro hhead
        cases hhead
        exact absurd hb (by decide)
  have htake : text.takeWhile isDigit = text := List.takeWhile_eq_self_iff.2 h
  have hdrop : text.dropWhile isDigit = [] := List.dropWhile_eq_nil_iff.2 h
  have hlength : text.length ≠ 0 := fun hzero => hne (List.eq_nil_of_length_eq_zero hzero)
  unfold decimalSyntax
  dsimp only
  rw [hsign.1, htake, hdrop]
  dsimp only
  rw [if_neg (by simpa using hlength)]
  simp [hsign.2]

theorem parseDecimal_decimal {n : Nat} (h : n < 2 ^ 64) :
    parseDecimal (decimal n) = some (.counter n) := by
  unfold parseDecimal
  rw [decimalSyntax_of_digits (decimal_ne_nil n) fun _ hb => isDigit_of_mem_decimal hb]
  dsimp only
  rw [digitsValue_decimal, if_neg (by simp), if_pos (by simpa using h)]

theorem parseDecimal_nil : parseDecimal [] = none := rfl

theorem parseOctetsFrom_lt {number value : Nat} {overflow : Bool} {text : Text}
    (h : parseOctetsFrom number overflow text = .value value) : value < 2 ^ 64 := by
  fun_induction parseOctetsFrom number overflow text
  case case2 =>
    rename_i hadd _
    cases h
    rw [← (Prod.mk.inj hadd).1]
    exact Nat.mod_lt _ (by decide)
  case case4 =>
    rename_i ih
    exact ih h
  all_goals cases h

/-- A text that is classified as itself. -/
structure SelfClassified (text : Text) : Prop where
  kind : (classifyResult text).kind ≠ .unknown
  text_eq : (classifyResult text).text = text
  length : text.length < RESULTS_BUFFER

/-- A number without padding is stored as it is. -/
theorem selfClassified_of_decimal {text : Text} {kind : ResultKind}
    (hstrip : strip isTrimChar text = text) (hlength : text.length < RESULTS_BUFFER)
    (h : parseDecimal text = some kind) (hkind : kind ≠ .unknown) : SelfClassified text := by
  have hne : text ≠ [] := fun hnil => by
    rw [hnil, parseDecimal_nil] at h
    cases h
  have hclassify : classifyResult text = ⟨kind, text⟩ := by
    unfold classifyResult
    dsimp only
    rw [hstrip, if_neg (by simpa [hne] using hlength), h]
  exact ⟨by rw [hclassify]; exact hkind, by rw [hclassify], hlength⟩

theorem parseDecimal_ne_unknown {text : Text} {kind : ResultKind}
    (h : parseDecimal text = some kind) : kind ≠ .unknown := by
  obtain ⟨number, -, ⟨rfl, -⟩ | ⟨rfl, -⟩ | ⟨rfl, -⟩⟩ := parseDecimal_cases h
  · exact ResultKind.noConfusion
  · exact ResultKind.noConfusion
  · exact ResultKind.noConfusion

/-- A digit or a minus sign is no padding. -/
theorem isTrimChar_of_isDigit {b : UInt8} (h : isDigit b = true) : isTrimChar b = false := by
  rw [isDigit_iff] at h
  unfold isTrimChar
  simp only [Bool.or_eq_false_iff, beq_eq_false_iff_ne]
  refine ⟨⟨⟨⟨⟨⟨?_, ?_⟩, ?_⟩, ?_⟩, ?_⟩, ?_⟩, ?_⟩ <;> rintro rfl <;> revert h <;> decide

/-- What `strip_alpha` leaves has no padding. -/
theorem strip_stripAlpha (text : Text) : strip isTrimChar (stripAlpha text) = stripAlpha text := by
  apply strip_eq_self
  · intro b hb
    have hfront := head_dropWhile hb
    rw [Bool.and_eq_false_iff] at hfront
    rcases hfront with hdigit | hminus
    · exact isTrimChar_of_isDigit (by simpa using hdigit)
    · have hb : b = 45 := by simpa using hminus
      rw [hb]
      decide
  · intro b hb
    have hend := getLast_rstrip (getLast_dropWhile hb)
    exact isTrimChar_of_isDigit (by simpa using hend)

theorem stripAlpha_length_le (text : Text) : (stripAlpha text).length ≤ text.length :=
  (List.dropWhile_sublist _).length_le.trans (rstrip_length_le _ _)

/-- The text of a classification is classified as itself. -/
theorem classifyResult_selfClassified {raw : Text} (h : (classifyResult raw).kind ≠ .unknown) :
    SelfClassified (classifyResult raw).text := by
  have hstrip := strip_strip isTrimChar raw
  unfold classifyResult at h ⊢
  dsimp only at h ⊢
  generalize strip isTrimChar raw = text at hstrip h ⊢
  by_cases hbad : text = [] ∨ RESULTS_BUFFER ≤ text.length
  · rw [if_pos hbad] at h
    exact absurd rfl h
  rw [if_neg hbad] at h ⊢
  rw [not_or, not_le] at hbad
  cases hdecimal : parseDecimal text with
  | some kind =>
    exact selfClassified_of_decimal hstrip hbad.2 hdecimal (parseDecimal_ne_unknown hdecimal)
  | none =>
    rw [hdecimal] at h
    dsimp only at h ⊢
    by_cases hmultipart : multipartSyntax text = true
    · rw [if_pos hmultipart]
      have hclassify : classifyResult text = ⟨.multipart, text⟩ := by
        unfold classifyResult
        dsimp only
        rw [hstrip, if_neg (by simpa [hbad.1] using hbad.2), hdecimal]
        dsimp only
        rw [if_pos hmultipart]
      exact ⟨by rw [hclassify]; exact nofun, by rw [hclassify], hbad.2⟩
    rw [if_neg hmultipart] at h ⊢
    cases hoctets : parseOctets text with
    | overflow =>
      rw [hoctets] at h
      exact absurd rfl h
    | value number =>
      have hlt := parseOctetsFrom_lt hoctets
      have hdigits := decimal_length_le (by decide : 0 < 20) (lt_trans hlt (by decide))
      refine selfClassified_of_decimal ?_ ?_ (parseDecimal_decimal hlt) nofun
      · exact strip_eq_self
          (fun b hb => isTrimChar_of_isDigit
            (isDigit_of_mem_decimal (List.mem_of_mem_head? hb)))
          (fun b hb => isTrimChar_of_isDigit
            (isDigit_of_mem_decimal (List.mem_of_mem_getLast? hb)))
      · show (decimal number).length < RESULTS_BUFFER
        simp only [RESULTS_BUFFER]
        omega
    | none =>
      rw [hoctets] at h
      dsimp only at h ⊢
      cases hwrapped : parseDecimal (stripAlpha text) with
      | none =>
        rw [hwrapped] at h
        exact absurd rfl h
      | some kind =>
        refine selfClassified_of_decimal (strip_stripAlpha text) ?_ hwrapped
          (parseDecimal_ne_unknown hwrapped)
        exact lt_of_le_of_lt (stripAlpha_length_le text) hbad.2

/-- A text that is stored as it is: the mark of an unknown value, or a text
that `normalize_poll_result` accepts and leaves. -/
def Whole (text : Text) : Prop :=
  text = undefinedText ∨ ∀ snmp, normalizePollResult text snmp = (.valid, text)

theorem SelfClassified.whole {text : Text} (h : SelfClassified text) : Whole text := by
  refine Or.inr fun snmp => ?_
  have hundefined : ¬ isUndefined text = true := by
    intro hundefined
    have hkind := h.kind
    rw [isUndefined_iff.1 hundefined] at hkind
    exact hkind (by decide)
  unfold normalizePollResult
  dsimp only
  rw [if_neg hundefined, if_pos h.kind, h.text_eq, snprintfS_eq_self h.length]

/-- Normalization is a fixed point on what it leaves. -/
theorem normalizePollResult_whole (result : Text) (snmp : Bool) :
    Whole (normalizePollResult result snmp).2 := by
  unfold normalizePollResult
  by_cases hundefined : isUndefined result = true
  · rw [if_pos hundefined]
    exact Or.inl (isUndefined_iff.1 hundefined)
  rw [if_neg hundefined]
  dsimp only
  by_cases hkind : (classifyResult result).kind ≠ .unknown
  · rw [if_pos hkind]
    have hself := classifyResult_selfClassified hkind
    show Whole (snprintfS RESULTS_BUFFER (classifyResult result).text)
    rw [snprintfS_eq_self hself.length]
    exact hself.whole
  · rw [if_neg hkind]
    split
    · exact Or.inl rfl
    · exact Or.inl rfl

theorem Whole.length_lt {text : Text} (h : Whole text) : text.length < RESULTS_BUFFER := by
  cases h with
  | inl hundefined =>
    rw [hundefined]
    decide
  | inr hvalid =>
    have htext := congrArg Prod.snd (hvalid false)
    unfold normalizePollResult at htext
    by_cases hundefined : isUndefined text = true
    · rw [isUndefined_iff.1 hundefined]
      decide
    rw [if_neg hundefined] at htext
    dsimp only at htext
    have hshort : ∀ other : Text, (snprintfS RESULTS_BUFFER other).length < RESULTS_BUFFER := by
      intro other
      unfold snprintfS
      rw [List.length_take]
      simp only [RESULTS_BUFFER]
      omega
    split at htext
    · rw [← htext]
      exact hshort _
    · split at htext
      · rw [← htext]
        decide
      · rw [← htext]
        decide

end Spine
