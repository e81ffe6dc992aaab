import Spine.Base.OnesComplement
import Spine.Ping.Replies

/-!
# The checksum of an echo request

`get_checksum` of `ping/address.c` adds the 16-bit words of a packet as they stand
in memory, so its result depends on the byte order of the machine, and so does
the field that it is stored in.  `ByteOrder` is a parameter of everything here.

* `getChecksum` is the function with its 32-bit accumulator and its two folds.
* `addWords_toNat` and `foldSum_toNat` relate the machine arithmetic to exact sums
  and to `Base.OnesComplement`: the accumulator does not overflow, and the low 16
  bits after the folds are the ones' complement sum.
* `words_storeWord`: a word stored in a zero field of even offset adds its value
  to the exact sum.
* `icmpPacket` is the packet that `ping_icmp` sends.
-/

namespace Spine

open Base

/-! ## The function -/

/-- The byte order of the machine. -/
inductive ByteOrder where
  | little
  | big
  deriving DecidableEq

/-- `memcpy` of two bytes into a `uint16_t`. -/
def ByteOrder.word : ByteOrder → UInt8 → UInt8 → UInt16
  | .little, b₀, b₁ => UInt16.ofNat (b₀.toNat + 256 * b₁.toNat)
  | .big, b₀, b₁ => UInt16.ofNat (256 * b₀.toNat + b₁.toNat)

/-- The bytes of a `uint16_t` in memory. -/
def ByteOrder.bytes : ByteOrder → UInt16 → Word
  | .little, w => (UInt8.ofNat (w.toNat % 256), UInt8.ofNat (w.toNat / 256))
  | .big, w => (UInt8.ofNat (w.toNat / 256), UInt8.ofNat (w.toNat % 256))

/-- The loop of `get_checksum` and the byte that is left over. -/
def addWords (order : ByteOrder) : UInt32 → List UInt8 → UInt32
  | sum, b₀ :: b₁ :: bytes => addWords order (sum + (order.word b₀ b₁).toUInt32) bytes
  | sum, [b] => sum + (order.word b 0).toUInt32
  | sum, [] => sum

/-- The two folds. -/
def foldSum (sum : UInt32) : UInt32 :=
  let sum := (sum >>> 16) + (sum &&& 0xffff)
  sum + (sum >>> 16)

/-- `get_checksum`. -/
def getChecksum (order : ByteOrder) (packet : List UInt8) : UInt16 :=
  (~~~ foldSum (addWords order 0 packet) &&& 0xffff).toUInt16

/-- A `uint16_t` stored at an offset. -/
def storeWord (order : ByteOrder) (packet : List UInt8) (offset : Nat) (w : UInt16) : List UInt8 :=
  (packet.set offset (order.bytes w).1).set (offset + 1) (order.bytes w).2

/-! ## Words -/

theorem ByteOrder.word_bytes (order : ByteOrder) (w : UInt16) :
    order.word (order.bytes w).1 (order.bytes w).2 = w := by
  have hlt := w.toNat_lt
  apply UInt16.toNat_inj.1
  cases order with
  | little =>
    show (UInt16.ofNat ((UInt8.ofNat (w.toNat % 256)).toNat +
      256 * (UInt8.ofNat (w.toNat / 256)).toNat)).toNat = _
    rw [UInt16.toNat_ofNat', UInt8.toNat_ofNat', UInt8.toNat_ofNat']
    omega
  | big =>
    show (UInt16.ofNat (256 * (UInt8.ofNat (w.toNat / 256)).toNat +
      (UInt8.ofNat (w.toNat % 256)).toNat)).toNat = _
    rw [UInt16.toNat_ofNat', UInt8.toNat_ofNat', UInt8.toNat_ofNat']
    omega

theorem ByteOrder.word_zero (order : ByteOrder) : order.word 0 0 = 0 := by
  cases order with
  | little => rfl
  | big => rfl

/-- The words of a packet, with a zero byte after an odd last one. -/
def words (order : ByteOrder) : List UInt8 → List Nat
  | b₀ :: b₁ :: bytes => (order.word b₀ b₁).toNat :: words order bytes
  | [b] => [(order.word b 0).toNat]
  | [] => []

theorem words_le (order : ByteOrder) (bytes : List UInt8) :
    ∀ word ∈ words order bytes, word ≤ OnesComplement.allOnes 16 := by
  have hword : ∀ w : UInt16, w.toNat ≤ OnesComplement.allOnes 16 := fun w =>
    Nat.le_of_lt_succ w.toNat_lt
  fun_induction words order bytes with
  | case1 b₀ b₁ bytes ih =>
    intro word hmem
    rcases List.mem_cons.1 hmem with rfl | hrest
    · exact hword _
    · exact ih word hrest
  | case2 b =>
    intro word hmem
    rw [List.mem_singleton.1 hmem]
    exact hword _
  | case3 =>
    intro word hmem
    exact absurd hmem List.not_mem_nil

/-- Two bytes add at most one full word. -/
theorem words_sum_le (order : ByteOrder) (bytes : List UInt8) :
    2 * (words order bytes).sum ≤ 65535 * (bytes.length + 1) := by
  fun_induction words order bytes with
  | case1 b₀ b₁ bytes ih =>
    have hword := (order.word b₀ b₁).toNat_lt
    rw [List.sum_cons, List.length_cons, List.length_cons]
    omega
  | case2 b =>
    have hword := (order.word b 0).toNat_lt
    rw [List.sum_singleton, List.length_singleton]
    omega
  | case3 =>
    rw [List.sum_nil]
    omega

/-- Words do not straddle an even offset. -/
theorem words_append (order : ByteOrder) {front : List UInt8} (heven : front.length % 2 = 0)
    (rest : List UInt8) : words order (front ++ rest) = words order front ++ words order rest := by
  fun_induction words order front with
  | case1 b₀ b₁ bytes ih =>
    rw [List.length_cons, List.length_cons] at heven
    show (order.word b₀ b₁).toNat :: words order (bytes ++ rest) = _
    rw [ih (by omega)]
    rfl
  | case2 b =>
    rw [List.length_singleton] at heven
    omega
  | case3 => rfl

/-! ## The accumulator -/

theorem addWords_toNat (order : ByteOrder) (start : UInt32) (bytes : List UInt8)
    (h : start.toNat + (words order bytes).sum < 2 ^ 32) :
    (addWords order start bytes).toNat = start.toNat + (words order bytes).sum := by
  fun_induction addWords order start bytes with
  | case1 start b₀ b₁ bytes ih =>
    unfold words at h ⊢
    rw [List.sum_cons] at h ⊢
    have hstep : (start + (order.word b₀ b₁).toUInt32).toNat =
        start.toNat + (order.word b₀ b₁).toNat := by
      rw [UInt32.toNat_add, UInt16.toNat_toUInt32]
      omega
    rw [hstep, Nat.add_assoc] at ih
    exact ih h
  | case2 start b =>
    unfold words at h ⊢
    rw [List.sum_singleton] at h ⊢
    rw [UInt32.toNat_add, UInt16.toNat_toUInt32]
    omega
  | case3 start =>
    unfold words
    rw [List.sum_nil, Nat.add_zero]

/-- A packet of at most 65535 bytes does not overflow the accumulator. -/
theorem words_sum_lt (order : ByteOrder) {packet : List UInt8} (h : packet.length ≤ 65535) :
    (words order packet).sum < 2 ^ 32 := by
  have hle := words_sum_le order packet
  omega

/-- The first fold. -/
theorem foldSum_first (sum : UInt32) :
    ((sum >>> 16) + (sum &&& 0xffff)).toNat = OnesComplement.fold 16 sum.toNat := by
  have hlt := sum.toNat_lt
  rw [UInt32.toNat_add, UInt32.toNat_shiftRight, UInt32.toNat_and, Nat.shiftRight_eq_div_pow]
  show (sum.toNat / 2 ^ 16 + (sum.toNat &&& 2 ^ 16 - 1)) % 2 ^ 32 = _
  rw [Nat.and_two_pow_sub_one_eq_mod]
  unfold OnesComplement.fold
  omega

/-- The second fold brings back the one carry that the first can leave. -/
theorem foldSum_second {sum : UInt32} (h : sum.toNat ≤ 131070) :
    (sum + (sum >>> 16)).toNat % 2 ^ 16 = OnesComplement.reduce 16 sum.toNat := by
  have hshift : (sum >>> 16).toNat = sum.toNat / 2 ^ 16 := by
    rw [UInt32.toNat_shiftRight, Nat.shiftRight_eq_div_pow]
    rfl
  have hones : OnesComplement.allOnes 16 = 65535 := rfl
  rw [UInt32.toNat_add, hshift]
  by_cases hfits : sum.toNat ≤ 65535
  · rw [OnesComplement.reduce_of_le (by omega)]
    omega
  · unfold OnesComplement.reduce
    rw [if_neg (by omega), hones]
    omega

/-- The low 16 bits after the two folds are the reduction of the whole sum. -/
theorem foldSum_toNat (sum : UInt32) :
    (foldSum sum).toNat % 2 ^ 16 = OnesComplement.reduce 16 sum.toNat := by
  have hlt := sum.toNat_lt
  have hfirst := foldSum_first sum
  have hsmall : ((sum >>> 16) + (sum &&& 0xffff)).toNat ≤ 131070 := by
    rw [hfirst]
    unfold OnesComplement.fold
    omega
  unfold foldSum
  dsimp only
  rw [foldSum_second hsmall, hfirst, OnesComplement.reduce_fold]

/-- The checksum is the complement of the ones' complement sum. -/
theorem getChecksum_toNat (order : ByteOrder) {packet : List UInt8}
    (h : packet.length ≤ 65535) :
    (getChecksum order packet).toNat =
      OnesComplement.allOnes 16 - OnesComplement.reduce 16 (words order packet).sum := by
  have hsum := addWords_toNat order 0 packet (by
    rw [UInt32.toNat_zero, Nat.zero_add]
    exact words_sum_lt order h)
  rw [UInt32.toNat_zero, Nat.zero_add] at hsum
  unfold getChecksum
  rw [← hsum, ← foldSum_toNat]
  generalize foldSum (addWords order 0 packet) = sum
  have hlt := sum.toNat_lt
  have hones : OnesComplement.allOnes 16 = 65535 := rfl
  rw [UInt32.toNat_toUInt16, UInt32.toNat_and, UInt32.toNat_not]
  show ((UInt32.size - 1 - sum.toNat) &&& 2 ^ 16 - 1) % 2 ^ 16 = _
  rw [Nat.and_two_pow_sub_one_eq_mod]
  have hsize : UInt32.size = 2 ^ 32 := rfl
  omega

/-! ## The stored checksum -/

theorem storeWord_append (order : ByteOrder) {front : List UInt8} {b₀ b₁ : UInt8}
    (rest : List UInt8) (w : UInt16) :
    storeWord order (front ++ b₀ :: b₁ :: rest) front.length w =
      front ++ (order.bytes w).1 :: (order.bytes w).2 :: rest := by
  unfold storeWord
  rw [List.set_append_right _ _ (Nat.le_refl _), Nat.sub_self,
    List.set_append_right _ _ (by omega), Nat.add_sub_cancel_left]
  rfl

theorem storeWord_length (order : ByteOrder) (packet : List UInt8) (offset : Nat) (w : UInt16) :
    (storeWord order packet offset w).length = packet.length := by
  unfold storeWord
  rw [List.length_set, List.length_set]

/-- A field of two zero bytes, with what is around it. -/
theorem exists_field {packet : List UInt8} {offset : Nat} (hinside : offset + 2 ≤ packet.length)
    (hzero : wordAt packet offset = (0, 0)) :
    ∃ front rest, packet = front ++ 0 :: 0 :: rest ∧ front.length = offset := by
  have hcons : ∀ i, i < packet.length → packet.drop i = byteAt packet i :: packet.drop (i + 1) := by
    intro i hi
    rw [List.drop_eq_getElem_cons hi, byteAt, List.getD_eq_getElem?_getD,
      List.getElem?_eq_getElem hi, Option.getD_some]
  obtain ⟨hfirst, hsecond⟩ := Prod.mk.inj hzero
  refine ⟨packet.take offset, packet.drop (offset + 2), ?_, ?_⟩
  · conv_lhs => rw [← List.take_append_drop offset packet, hcons offset (by omega),
      hcons (offset + 1) (by omega), hfirst, hsecond]
  · rw [List.length_take]
    omega

/-- A word in a zero field adds its value to the sum. -/
theorem words_storeWord (order : ByteOrder) {packet : List UInt8} {offset : Nat}
    (heven : offset % 2 = 0) (hinside : offset + 2 ≤ packet.length)
    (hzero : wordAt packet offset = (0, 0)) (w : UInt16) :
    (words order (storeWord order packet offset w)).sum =
      (words order packet).sum + w.toNat := by
  obtain ⟨front, rest, rfl, rfl⟩ := exists_field hinside hzero
  rw [storeWord_append, words_append order heven, words_append order heven]
  show (words order front ++ (order.word (order.bytes w).1 (order.bytes w).2).toNat ::
      words order rest).sum =
    (words order front ++ (order.word 0 0).toNat :: words order rest).sum + w.toNat
  rw [order.word_bytes, order.word_zero, UInt16.toNat_zero]
  simp only [List.sum_append, List.sum_cons]
  omega

theorem getChecksum_storeWord (order : ByteOrder) {packet : List UInt8}
    (hlength : packet.length ≤ 65535) {offset : Nat} (heven : offset % 2 = 0)
    (hinside : offset + 2 ≤ packet.length) (hzero : wordAt packet offset = (0, 0)) :
    getChecksum order (storeWord order packet offset (getChecksum order packet)) = 0 := by
  have hones : 0 < OnesComplement.allOnes 16 := by decide
  apply UInt16.toNat_inj.1
  rw [getChecksum_toNat order (by rw [storeWord_length]; exact hlength),
    words_storeWord order heven hinside hzero, getChecksum_toNat order hlength,
    OnesComplement.reduce_add_complement hones, Nat.sub_self]
  rfl

/-- For every packet of at most 65535 bytes the accumulator is the exact sum at
every point of the loop, the low 16 bits after the folds are the ones' complement
sum of the words, and the checksum stored in a zero field of even offset makes
the checksum zero. -/
theorem checksum_of_stored (order : ByteOrder) {packet : List UInt8}
    (hlength : packet.length ≤ 65535) :
    (∀ n, (addWords order 0 (packet.take n)).toNat = (words order (packet.take n)).sum) ∧
      (foldSum (addWords order 0 packet)).toNat % 2 ^ 16 =
        OnesComplement.sum 16 (words order packet) ∧
      ∀ offset, offset % 2 = 0 → offset + 2 ≤ packet.length → wordAt packet offset = (0, 0) →
        getChecksum order (storeWord order packet offset (getChecksum order packet)) = 0 := by
  have hexact : ∀ n, (addWords order 0 (packet.take n)).toNat =
      (words order (packet.take n)).sum := by
    intro n
    have hcut : (packet.take n).length ≤ 65535 := by
      rw [List.length_take]
      omega
    have hsum := words_sum_lt order hcut
    rw [addWords_toNat order 0 _ (by rw [UInt32.toNat_zero]; omega), UInt32.toNat_zero,
      Nat.zero_add]
  refine ⟨hexact, ?_, fun offset heven hinside hzero => ?_⟩
  · have hwhole := hexact packet.length
    rw [List.take_length] at hwhole
    rw [foldSum_toNat, hwhole, OnesComplement.sum_eq_reduce (by decide) (words_le order packet)]
  · exact getChecksum_storeWord order hlength heven hinside hzero

/-! ## The echo request -/

def ICMP_ECHO : UInt8 := 8

/-- `cacti_msg`, which is also the payload over IPv6. -/
def cactiMsg : List UInt8 := CString.lit "cacti-monitoring-system"

/-- The packet of `ping_icmp` before the checksum is stored. -/
def icmpPacketBlank (order : ByteOrder) (id seq : UInt16) : List UInt8 :=
  [ICMP_ECHO, 0, 0, 0, (order.bytes id).1, (order.bytes id).2, (order.bytes seq).1,
    (order.bytes seq).2] ++ cactiMsg

/-- The packet that `ping_icmp` sends. -/
def icmpPacket (order : ByteOrder) (id seq : UInt16) : List UInt8 :=
  storeWord order (icmpPacketBlank order id seq) 2
    (getChecksum order (icmpPacketBlank order id seq))

/-- The packet of `ping_icmp` has an odd length. -/
theorem checksum_of_stored_request :
    (icmpPacketBlank .little 7 1).length = 31 ∧
      getChecksum .little (icmpPacketBlank .little 7 1) ≠ 0 ∧
      getChecksum .little (icmpPacket .little 7 1) = 0 :=
  ⟨by decide, by decide,
    (checksum_of_stored .little (by decide)).2.2 2 (by decide) (by decide) (by decide)⟩

end Spine
