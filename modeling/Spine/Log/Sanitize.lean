import Spine.Base.Blanking
import Spine.Internal.Types

/-!
# Log messages without control characters

`spine_sanitize_log_message` of `log/sanitize.c` overwrites control bytes, the
encoding of U+0085 and those of U+2028 and U+2029 with blanks, in place.

* `controlRule` is what the loop looks for, as a rule of `Base.Blanking`, and
  `spineSanitizeLogMessage_eq_pass` says that the function is its pass.  That the
  length stays and that a second call does nothing follow from there.
* `spineSanitizeLogMessage_sound_iff`: the result is free of control characters
  exactly when the message has no encoding of a C1 control other than U+0085.
-/

namespace Spine

open Base.CString Base.Blanking

/-! ## The function -/

/-- `*p < 0x20 || *p == 0x7f`. -/
def isControl (b : UInt8) : Bool := decide (b < 0x20) || b == 0x7f

/-- The body of the loop at `p`.  The byte after the text is its NUL. -/
def sanitizeAt (p : Text) : Text :=
  if isControl (p.getD 0 0) then p.set 0 32
  else if p.getD 0 0 = 0xc2 ∧ p.getD 1 0 = 0x85 then (p.set 0 32).set 1 32
  else if p.getD 0 0 = 0xe2 ∧ p.getD 1 0 = 0x80 ∧ (p.getD 2 0 = 0xa8 ∨ p.getD 2 0 = 0xa9) then
    ((p.set 0 32).set 1 32).set 2 32
  else p

/-- The loop over the next `n` bytes. -/
def sanitizeFrom : Nat → Text → Text
  | 0, p => p
  | n + 1, p =>
    match sanitizeAt p with
    | [] => []
    | b :: rest => b :: sanitizeFrom n rest

/-- `spine_sanitize_log_message`. -/
def spineSanitizeLogMessage (message : Text) : Text := sanitizeFrom message.length message

/-! ## The rule -/

/-- How many bytes the body overwrites. -/
def controlWidth : Text → Nat
  | [] => 0
  | b :: rest =>
    if isControl b then 1
    else if b = 0xc2 ∧ rest.getD 0 0 = 0x85 then 2
    else if b = 0xe2 ∧ rest.getD 0 0 = 0x80 ∧ (rest.getD 1 0 = 0xa8 ∨ rest.getD 1 0 = 0xa9) then 3
    else 0

/-- What the function overwrites. -/
inductive IsMatch : Text → Prop where
  | control {b : UInt8} (h : isControl b = true) : IsMatch [b]
  | nextLine : IsMatch [0xc2, 0x85]
  | separator {b : UInt8} (h : b = 0xa8 ∨ b = 0xa9) : IsMatch [0xe2, 0x80, b]

/-- A text starts with a match, or its first byte starts none. -/
theorem controlWidth_cases (p : Text) :
    (∃ front rest, IsMatch front ∧ p = front ++ rest ∧ controlWidth p = front.length) ∨
      controlWidth p = 0 := by
  cases p with
  | nil => exact Or.inr rfl
  | cons b rest =>
    unfold controlWidth
    dsimp only
    by_cases hcontrol : isControl b = true
    · rw [if_pos hcontrol]
      exact Or.inl ⟨[b], rest, .control hcontrol, rfl, rfl⟩
    rw [if_neg hcontrol]
    by_cases hnext : b = 0xc2 ∧ rest.getD 0 0 = 0x85
    · rw [if_pos hnext]
      obtain ⟨rfl, hbyte⟩ := hnext
      cases rest with
      | nil => exact absurd hbyte (by decide)
      | cons c rest =>
        have hc : c = 0x85 := hbyte
        rw [hc]
        exact Or.inl ⟨_, rest, .nextLine, rfl, rfl⟩
    rw [if_neg hnext]
    split
    · rename_i hseparator
      obtain ⟨rfl, hbyte, hlast⟩ := hseparator
      match rest with
      | [] => exact absurd hbyte (by decide)
      | [c] => exact absurd (show (0 : UInt8) = 0xa8 ∨ (0 : UInt8) = 0xa9 from hlast) (by decide)
      | c :: d :: rest =>
        have hc : c = 0x80 := hbyte
        rw [hc]
        exact Or.inl ⟨_, rest, .separator hlast, rfl, rfl⟩
    · exact Or.inr rfl

/-- Every match is found. -/
theorem IsMatch.controlWidth_append {front : Text} (h : IsMatch front) (rest : Text) :
    controlWidth (front ++ rest) = front.length := by
  cases h with
  | control h => exact if_pos h
  | nextLine => rfl
  | separator h =>
    rcases h with rfl | rfl
    · rfl
    · rfl

theorem IsMatch.blank_notMem {front : Text} (h : IsMatch front) : (32 : UInt8) ∉ front := by
  cases h with
  | control h =>
    intro hmem
    rw [← List.mem_singleton.1 hmem] at h
    exact absurd h (by decide)
  | nextLine => decide
  | separator h =>
    rcases h with rfl | rfl
    · decide
    · decide

theorem IsMatch.ne_nil {front : Text} (h : IsMatch front) : front ≠ [] := by
  cases h <;> exact List.cons_ne_nil _ _

/-- A width of zero means that no match is in front. -/
theorem controlWidth_eq_zero_iff {p : Text} :
    controlWidth p = 0 ↔ ∀ front, IsMatch front → ¬ front <+: p := by
  constructor
  · rintro hzero front hmatch ⟨rest, rfl⟩
    rw [hmatch.controlWidth_append, List.length_eq_zero_iff] at hzero
    exact hmatch.ne_nil hzero
  · intro hnone
    rcases controlWidth_cases p with ⟨front, rest, hmatch, rfl, -⟩ | hzero
    · exact absurd (List.prefix_append front rest) (hnone front hmatch)
    · exact hzero

/-- What the loop looks for. -/
def controlRule : Rule UInt8 where
  blank := 32
  width := controlWidth
  width_le := by
    intro p
    rcases controlWidth_cases p with ⟨front, rest, -, rfl, hwidth⟩ | hzero
    · rw [hwidth, List.length_append]
      omega
    · omega
  width_blank := by
    intro rest
    rw [controlWidth_eq_zero_iff]
    rintro front hmatch ⟨after, hfront⟩
    -- A match has no blank, so it cannot start with one.
    obtain ⟨b, tail, rfl⟩ := List.exists_cons_of_ne_nil hmatch.ne_nil
    have hhead : b = 32 := (List.cons.inj hfront).1
    exact hmatch.blank_notMem (hhead ▸ List.mem_cons_self)
  width_of_blanked := by
    intro written read hblanked hzero
    rw [controlWidth_eq_zero_iff] at hzero ⊢
    intro front hmatch hfront
    exact hzero front hmatch (Rule.prefix_of_blanked hblanked hfront hmatch.blank_notMem)

theorem sanitizeAt_eq_blankAt (p : Text) : sanitizeAt p = controlRule.blankAt p := by
  show sanitizeAt p = List.replicate (controlWidth p) 32 ++ p.drop (controlWidth p)
  rcases controlWidth_cases p with ⟨front, rest, hmatch, rfl, hwidth⟩ | hzero
  · rw [hwidth, List.drop_left]
    cases hmatch with
    | control h => exact if_pos h
    | nextLine => rfl
    | separator h =>
      rcases h with rfl | rfl
      · rfl
      · rfl
  · rw [hzero]
    cases p with
    | nil => rfl
    | cons b rest =>
      unfold controlWidth at hzero
      dsimp only at hzero
      split at hzero
      · exact absurd hzero (by decide)
      rename_i hcontrol
      split at hzero
      · exact absurd hzero (by decide)
      rename_i hnext
      split at hzero
      · exact absurd hzero (by decide)
      rename_i hseparator
      exact (if_neg hcontrol).trans ((if_neg hnext).trans (if_neg hseparator))

theorem sanitizeFrom_eq_passFrom (n : Nat) (p : Text) :
    sanitizeFrom n p = controlRule.passFrom n p := by
  induction n generalizing p with
  | zero => rfl
  | succ n ih =>
    unfold sanitizeFrom Rule.passFrom
    rw [sanitizeAt_eq_blankAt]
    split
    · rename_i hnil
      rw [hnil]
    · rename_i b rest hcons
      rw [hcons, ih]

/-- The function is the pass of the rule. -/
theorem spineSanitizeLogMessage_eq_pass (message : Text) :
    spineSanitizeLogMessage message = controlRule.pass message :=
  sanitizeFrom_eq_passFrom message.length message

theorem spineSanitizeLogMessage_length (message : Text) :
    (spineSanitizeLogMessage message).length = message.length := by
  rw [spineSanitizeLogMessage_eq_pass, controlRule.length_pass]

/-- Nothing that the function overwrites is left. -/
theorem not_infix_spineSanitizeLogMessage (message : Text) {part : Text} (h : IsMatch part) :
    ¬ part <:+: spineSanitizeLogMessage message := by
  rintro ⟨before, after, hresult⟩
  have hclean := controlRule.clean_pass message
  rw [← spineSanitizeLogMessage_eq_pass, ← hresult, List.append_assoc] at hclean
  have hzero : controlWidth (part ++ after) = 0 := hclean _ (List.suffix_append _ _)
  exact controlWidth_eq_zero_iff.1 hzero part h (List.prefix_append _ _)

theorem isControl_spineSanitizeLogMessage {message : Text} {b : UInt8}
    (h : b ∈ spineSanitizeLogMessage message) : isControl b = false := by
  rw [← Bool.not_eq_true]
  intro hcontrol
  obtain ⟨before, after, hsplit⟩ := List.append_of_mem h
  refine not_infix_spineSanitizeLogMessage message (IsMatch.control hcontrol) ⟨before, after, ?_⟩
  rw [hsplit, List.append_assoc]
  rfl

/-- A sanitized message has no line feed. -/
theorem newline_notMem_spineSanitizeLogMessage (message : Text) :
    (10 : UInt8) ∉ spineSanitizeLogMessage message := fun h =>
  absurd (isControl_spineSanitizeLogMessage h) (by decide)

/-! ## Encoded controls -/

/-- A control character of the C1 set. -/
def IsC1 (c : Char) : Prop := 0x80 ≤ c.toNat ∧ c.toNat ≤ 0x9f

/-- `NEXT LINE`, the C1 control that the function knows. -/
def nel : Char := Char.ofNat 0x85

theorem utf8EncodeChar_of_isC1 {c : Char} (h : IsC1 c) :
    String.utf8EncodeChar c = [0xc2, UInt8.ofNat c.toNat] := by
  have hall : ∀ n < 0xa0, 0x80 ≤ n →
      String.utf8EncodeChar (Char.ofNat n) = [0xc2, UInt8.ofNat n] := by decide
  have hchar := hall c.toNat (by have := h.2; omega) h.1
  rwa [Char.ofNat_toNat] at hchar

section Kept

variable {x : UInt8}

/-- No match starts in an encoded C1 control other than U+0085. -/
theorem controlWidth_encodedC1 (hlow : 0x80 ≤ x.toNat) (hhigh : x.toNat ≤ 0x9f) (hne : x ≠ 0x85)
    (rest : Text) : controlWidth (0xc2 :: x :: rest) = 0 ∧ controlWidth (x :: rest) = 0 := by
  have hcontrol : isControl x = false := by
    rw [isControl, Bool.or_eq_false_iff, decide_eq_false_iff_not, beq_eq_false_iff_ne,
      UInt8.lt_iff_toNat_lt, ← UInt8.toNat_inj.ne]
    have hspace : (0x20 : UInt8).toNat = 32 := rfl
    have hdelete : (0x7f : UInt8).toNat = 127 := rfl
    omega
  have hfirst : x ≠ 0xc2 := by
    rintro rfl
    exact absurd hhigh (by decide)
  have hthird : x ≠ 0xe2 := by
    rintro rfl
    exact absurd hhigh (by decide)
  constructor
  · rw [controlWidth, if_neg (by decide), if_neg fun h => hne h.2,
      if_neg fun h => absurd h.1 (by decide)]
  · rw [controlWidth, if_neg (by rw [hcontrol]; decide), if_neg fun h => hfirst h.1,
      if_neg fun h => hthird h.1]

/-- An encoded C1 control other than U+0085 does not start inside a match. -/
theorem not_prefix_drop_of_lt_width (hne : x ≠ 0x85) {list : Text} {k : Nat}
    (hk : k < controlWidth list) : ¬ [0xc2, x] <+: list.drop k := by
  rcases controlWidth_cases list with ⟨front, rest, hmatch, rfl, hwidth⟩ | hzero
  · rw [hwidth] at hk
    rintro ⟨after, hafter⟩
    cases hmatch with
    | control h =>
      have hzero : k = 0 := Nat.lt_one_iff.1 hk
      rw [hzero] at hafter
      rw [← (List.cons.inj hafter).1] at h
      exact absurd h (by decide)
    | nextLine =>
      rcases k with _ | _ | k
      · exact hne (List.cons.inj (List.cons.inj hafter).2).1
      · exact absurd (List.cons.inj hafter).1 (by decide)
      · exact absurd hk (by simp)
    | separator h =>
      rcases k with _ | _ | _ | k
      · exact absurd (List.cons.inj hafter).1 (by decide)
      · exact absurd (List.cons.inj hafter).1 (by decide)
      · rcases h with rfl | rfl
        · exact absurd (List.cons.inj hafter).1 (by decide)
        · exact absurd (List.cons.inj hafter).1 (by decide)
      · exact absurd hk (by simp)
  · omega

/-- The function leaves every other C1 control where it is. -/
theorem encodedC1_stays (hlow : 0x80 ≤ x.toNat) (hhigh : x.toNat ≤ 0x9f) (hne : x ≠ 0x85)
    {message : Text} (h : [0xc2, x] <:+: message) :
    [0xc2, x] <:+: spineSanitizeLogMessage message := by
  rw [spineSanitizeLogMessage_eq_pass]
  refine controlRule.infix_pass (List.cons_ne_nil _ _) ?_
    (fun list k hk => not_prefix_drop_of_lt_width hne hk) h
  rintro list ⟨rest, rfl⟩ j hj
  obtain ⟨hfirst, hsecond⟩ := controlWidth_encodedC1 hlow hhigh hne rest
  rcases j with _ | _ | j
  · exact hfirst
  · exact hsecond
  · exact absurd hj (by simp)

end Kept

/-- A text without control characters: none of ASCII, no encoded C1 control, and
no encoded line or paragraph separator. -/
structure ControlFree (text : Text) : Prop where
  ascii : ∀ b ∈ text, ¬ b < 0x20 ∧ b ≠ 0x7f
  c1 : ∀ c : Char, IsC1 c → ¬ String.utf8EncodeChar c <:+: text
  lineSeparator : ¬ String.utf8EncodeChar (Char.ofNat 0x2028) <:+: text
  paragraphSeparator : ¬ String.utf8EncodeChar (Char.ofNat 0x2029) <:+: text

/-- The function keeps the length, a second call does nothing, and the result has
no control characters, if and only if the message has no encoded C1 control other
than U+0085. -/
theorem spineSanitizeLogMessage_sound_iff (message : Text) :
    ((spineSanitizeLogMessage message).length = message.length ∧
        spineSanitizeLogMessage (spineSanitizeLogMessage message) =
          spineSanitizeLogMessage message ∧
        ControlFree (spineSanitizeLogMessage message)) ↔
      ∀ c : Char, IsC1 c → c ≠ nel → ¬ String.utf8EncodeChar c <:+: message := by
  constructor
  · rintro ⟨-, -, hfree⟩ c hc hnel hmessage
    refine hfree.c1 c hc ?_
    have hbyte : (UInt8.ofNat c.toNat).toNat = c.toNat := by
      have hhigh := hc.2
      rw [UInt8.toNat_ofNat']
      omega
    rw [utf8EncodeChar_of_isC1 hc] at hmessage ⊢
    refine encodedC1_stays (by rw [hbyte]; exact hc.1) (by rw [hbyte]; exact hc.2) ?_ hmessage
    intro hsame
    rw [← UInt8.toNat_inj, hbyte] at hsame
    exact hnel (by rw [nel, ← Char.ofNat_toNat c, hsame]; rfl)
  · intro hmessage
    refine ⟨spineSanitizeLogMessage_length message, ?_, ?_, ?_, ?_, ?_⟩
    · simp only [spineSanitizeLogMessage_eq_pass, controlRule.pass_pass]
    · intro b hb
      have hcontrol := isControl_spineSanitizeLogMessage hb
      rw [isControl, Bool.or_eq_false_iff, decide_eq_false_iff_not, beq_eq_false_iff_ne] at hcontrol
      exact hcontrol
    · intro c hc hresult
      by_cases hnel : c = nel
      · rw [hnel] at hresult
        exact not_infix_spineSanitizeLogMessage message .nextLine hresult
      · -- The bytes of the control are no blanks, so the message had them.
        refine hmessage c hc hnel ?_
        have hblanked := controlRule.blanked_pass message
        rw [← spineSanitizeLogMessage_eq_pass] at hblanked
        refine Rule.infix_of_blanked hblanked hresult ?_
        rw [utf8EncodeChar_of_isC1 hc, List.mem_cons, List.mem_singleton, not_or]
        refine ⟨by decide, fun hblank => ?_⟩
        have hbyte := congrArg UInt8.toNat hblank
        rw [UInt8.toNat_ofNat'] at hbyte
        have hlow := hc.1
        have hhigh := hc.2
        have hspace : controlRule.blank.toNat = 32 := rfl
        omega
    · exact not_infix_spineSanitizeLogMessage message (.separator (Or.inl rfl))
    · exact not_infix_spineSanitizeLogMessage message (.separator (Or.inr rfl))

/-- A colour sequence that starts with U+009B. -/
private def csiMessage : Text := [0xc2, 0x9b] ++ lit "31m"

/-- The control sequence introducer stays. -/
theorem spineSanitizeLogMessage_keeps_csi :
    spineSanitizeLogMessage csiMessage = csiMessage ∧ IsC1 (Char.ofNat 0x9b) ∧
      String.utf8EncodeChar (Char.ofNat 0x9b) <:+: spineSanitizeLogMessage csiMessage :=
  ⟨by decide, by unfold IsC1; decide, [], lit "31m", by decide⟩

end Spine
