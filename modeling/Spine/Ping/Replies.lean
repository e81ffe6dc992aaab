import Spine.Base.CString

/-!
# Which datagram answers an echo request

The shared raw sockets deliver whatever the network sends.  A datagram of the
IPv4 socket starts with its IP header, and one of the IPv6 socket with the
ICMPv6 header.  The reader keeps the first `ICMP_SHARED_SNAPLEN` bytes.

* `spineIcmpClassifyReply` and `icmp6ReplyMatches` are the two checks of the
  code, byte by byte.
* `IsEchoReply4` and `IsEchoReply6` say what an echo reply is by its parts.
  `spineIcmpClassifyReply_eq_ok_iff` and `icmp6ReplyMatches_iff` relate the two.
* `IsEchoReply4.unique` and `IsEchoReply6.unique`: the bytes determine the id and
  the sequence number.
* `isEchoReply4_take_iff` and `isEchoReply6_take_iff`: the bytes that are not
  kept do not matter.
-/

namespace Spine

/-- Two bytes as they stand in memory.  The code copies and compares them without
looking at their order. -/
abbrev Word := UInt8 × UInt8

def SIZEOF_IP : Nat := 20

def ICMP_HDR_SIZE : Nat := 8

def SIZEOF_ICMP6_HDR : Nat := 8

def IPPROTO_ICMP : UInt8 := 1

def ICMP_ECHOREPLY : UInt8 := 0

def ICMP6_ECHO_REPLY : UInt8 := 129

def ICMP_SHARED_SNAPLEN : Nat := 128

def icmp6Payload : List UInt8 := Base.CString.lit "cacti-monitoring-system"

/-! ## The checks -/

def byteAt (bytes : List UInt8) (i : Nat) : UInt8 := bytes.getD i 0

/-- `memcpy` of a `uint16_t`. -/
def wordAt (bytes : List UInt8) (i : Nat) : Word := (byteAt bytes i, byteAt bytes (i + 1))

/-- The verdict on a datagram. -/
inductive IcmpReply where
  | tooShort
  | badHeader
  | notEcho
  | notOurs
  | ok
  deriving DecidableEq

/-- `ihl = (reply[0] & 0x0F) << 2`. -/
def headerLength (reply : List UInt8) : Nat := (byteAt reply 0 &&& 0x0F).toNat <<< 2

def spineIcmpClassifyReply (reply : List UInt8) (wantId wantSeq : Word) : IcmpReply :=
  let ihl := headerLength reply
  if reply.length < SIZEOF_IP then .tooShort
  else if byteAt reply 0 >>> 4 ≠ 4 ∨ byteAt reply 9 ≠ IPPROTO_ICMP ∨ ihl < SIZEOF_IP ∨
      reply.length < ihl + ICMP_HDR_SIZE then .badHeader
  else if byteAt reply ihl ≠ ICMP_ECHOREPLY ∨ byteAt reply (ihl + 1) ≠ 0 then .notEcho
  else if wordAt reply (ihl + 4) ≠ wantId ∨ wordAt reply (ihl + 6) ≠ wantSeq then .notOurs
  else .ok

def icmp6ReplyMatches (reply : List UInt8) (id seq : Word) (checkId : Bool) : Bool :=
  if reply.length < SIZEOF_ICMP6_HDR + icmp6Payload.length then false
  else if byteAt reply 0 ≠ ICMP6_ECHO_REPLY ∨ wordAt reply 6 ≠ seq then false
  else if checkId ∧ wordAt reply 4 ≠ id then false
  else (reply.drop SIZEOF_ICMP6_HDR).take icmp6Payload.length = icmp6Payload

/-! ## Echo replies by their parts -/

/-- An IPv4 header of an ICMP message, with its options. -/
structure IsHeader4 (header : List UInt8) : Prop where
  size : SIZEOF_IP ≤ header.length
  version : (byteAt header 0).toNat / 16 = 4
  length : header.length = (byteAt header 0).toNat % 16 * 4
  protocol : byteAt header 9 = IPPROTO_ICMP

def IsEchoReply4 (bytes : List UInt8) (id seq : Word) : Prop :=
  ∃ (header : List UInt8) (c₁ c₂ : UInt8) (body : List UInt8),
    bytes = header ++ ([ICMP_ECHOREPLY, 0, c₁, c₂, id.1, id.2, seq.1, seq.2] ++ body) ∧
      IsHeader4 header

def IsEchoReply6 (bytes : List UInt8) (id seq : Word) : Prop :=
  ∃ (code c₁ c₂ : UInt8) (rest : List UInt8),
    bytes = [ICMP6_ECHO_REPLY, code, c₁, c₂, id.1, id.2, seq.1, seq.2] ++ (icmp6Payload ++ rest)

theorem byteAt_append_left {pre post : List UInt8} {i : Nat} (h : i < pre.length) :
    byteAt (pre ++ post) i = byteAt pre i := by
  simp [byteAt, List.getElem?_append_left h]

theorem byteAt_append_right (pre post : List UInt8) (i : Nat) :
    byteAt (pre ++ post) (pre.length + i) = byteAt post i := by
  simp [byteAt, List.getElem?_append_right]

theorem byteAt_take {bytes : List UInt8} {n i : Nat} (h : i < n) :
    byteAt (bytes.take n) i = byteAt bytes i := by
  simp [byteAt, List.getElem?_take_of_lt h]

/-- The eight bytes at an index that are there. -/
theorem eq_take_eight_drop {bytes : List UInt8} {n : Nat} (h : n + 8 ≤ bytes.length) :
    bytes = bytes.take n ++ ([byteAt bytes n, byteAt bytes (n + 1), byteAt bytes (n + 2),
      byteAt bytes (n + 3), byteAt bytes (n + 4), byteAt bytes (n + 5), byteAt bytes (n + 6),
      byteAt bytes (n + 7)] ++ bytes.drop (n + 8)) := by
  conv_lhs => rw [← List.take_append_drop n bytes]
  congr 1
  have hcons : ∀ i, i < bytes.length → bytes.drop i = byteAt bytes i :: bytes.drop (i + 1) := by
    intro i hi
    rw [List.drop_eq_getElem_cons hi, byteAt, List.getD_eq_getElem?_getD,
      List.getElem?_eq_getElem hi, Option.getD_some]
  rw [hcons n (by omega), hcons (n + 1) (by omega), hcons (n + 2) (by omega),
    hcons (n + 3) (by omega), hcons (n + 4) (by omega), hcons (n + 5) (by omega),
    hcons (n + 6) (by omega), hcons (n + 7) (by omega)]
  rfl

theorem headerLength_eq (reply : List UInt8) :
    headerLength reply = (byteAt reply 0).toNat % 16 * 4 := by
  rw [headerLength, UInt8.toNat_and, Nat.shiftLeft_eq]
  show ((byteAt reply 0).toNat &&& 2 ^ 4 - 1) * 2 ^ 2 = _
  rw [Nat.and_two_pow_sub_one_eq_mod]
  rfl

theorem version_iff (b : UInt8) : b >>> 4 = 4 ↔ b.toNat / 16 = 4 := by
  rw [← UInt8.toNat_inj, UInt8.toNat_shiftRight, Nat.shiftRight_eq_div_pow]
  rfl

/-- A header ends where its length field says. -/
theorem IsHeader4.headerLength_append {header : List UInt8} (h : IsHeader4 header)
    (rest : List UInt8) : headerLength (header ++ rest) = header.length := by
  have hpos : 0 < header.length := Nat.lt_of_lt_of_le (by decide) h.size
  rw [headerLength_eq, byteAt_append_left hpos, ← h.length]

/-- What the first checks accept as a header. -/
theorem isHeader4_take {reply : List UInt8} (hversion : byteAt reply 0 >>> 4 = 4)
    (hprotocol : byteAt reply 9 = IPPROTO_ICMP) (hsize : SIZEOF_IP ≤ headerLength reply)
    (hlen : headerLength reply ≤ reply.length) : IsHeader4 (reply.take (headerLength reply)) := by
  have hlength : (reply.take (headerLength reply)).length = headerLength reply := by
    rw [List.length_take, Nat.min_eq_left hlen]
  have hlt : ∀ i, i < 20 → i < headerLength reply := fun i hi => Nat.lt_of_lt_of_le hi hsize
  refine ⟨hlength.symm ▸ hsize, ?_, ?_, ?_⟩
  · rw [byteAt_take (hlt 0 (by omega))]
    exact (version_iff _).mp hversion
  · rw [hlength, byteAt_take (hlt 0 (by omega))]
    exact headerLength_eq reply
  · rw [byteAt_take (hlt 9 (by omega))]
    exact hprotocol

theorem spineIcmpClassifyReply_eq_ok_iff {reply : List UInt8} {id seq : Word} :
    spineIcmpClassifyReply reply id seq = .ok ↔ IsEchoReply4 reply id seq := by
  unfold spineIcmpClassifyReply
  constructor
  · intro h
    dsimp only at h
    split at h
    · cases h
    split at h
    · cases h
    rename_i hheader
    split at h
    · cases h
    rename_i hecho
    split at h
    · cases h
    rename_i hours
    simp only [not_or, not_not, not_lt] at hheader hecho hours
    obtain ⟨hversion, hprotocol, hsize, hlen⟩ := hheader
    obtain ⟨rfl, rfl⟩ := hours
    have hbytes := eq_take_eight_drop hlen
    rw [hecho.1, hecho.2] at hbytes
    exact ⟨_, _, _, _, hbytes,
      isHeader4_take hversion hprotocol hsize (Nat.le_trans (Nat.le_add_right _ 8) hlen)⟩
  · rintro ⟨header, c₁, c₂, body, rfl, hheader⟩
    have hlt : ∀ i, i < 20 → i < header.length := fun i hi => Nat.lt_of_lt_of_le hi hheader.size
    have hlen : header.length + ICMP_HDR_SIZE ≤ (header ++ ([ICMP_ECHOREPLY, 0, c₁, c₂, id.1, id.2,
        seq.1, seq.2] ++ body)).length := by
      rw [List.length_append, List.length_append]
      exact Nat.add_le_add_left (Nat.le_add_right _ _) _
    dsimp only
    rw [hheader.headerLength_append, if_neg, if_neg, if_neg, if_neg]
    · simp only [wordAt, Nat.add_assoc, byteAt_append_right]
      rintro (h | h) <;> exact h rfl
    · rw [← Nat.add_zero header.length, Nat.add_assoc, byteAt_append_right, byteAt_append_right]
      rintro (h | h) <;> exact h rfl
    · rw [byteAt_append_left (hlt 0 (by omega)), byteAt_append_left (hlt 9 (by omega))]
      rintro (h | h | h | h)
      · exact h ((version_iff _).mpr hheader.version)
      · exact h hheader.protocol
      · exact absurd hheader.size (Nat.not_le_of_lt h)
      · exact absurd hlen (Nat.not_le_of_lt h)
    · have := hheader.size
      omega

theorem icmp6ReplyMatches_iff {reply : List UInt8} {id seq : Word} :
    icmp6ReplyMatches reply id seq true = true ↔ IsEchoReply6 reply id seq := by
  unfold icmp6ReplyMatches
  constructor
  · intro h
    split at h
    · cases h
    rename_i hlen
    split at h
    · cases h
    rename_i htype
    split at h
    · cases h
    rename_i hid
    simp only [not_or, not_not, true_and] at htype hid
    obtain ⟨htype, rfl⟩ := htype
    have hlen8 : 0 + 8 ≤ reply.length := by
      have := Nat.le_of_not_lt hlen
      exact Nat.le_trans (Nat.le_add_right _ _) this
    have hbytes := eq_take_eight_drop hlen8
    have hdrop : reply.drop (0 + 8) = icmp6Payload ++ (reply.drop 8).drop icmp6Payload.length := by
      conv_lhs => rw [← List.take_append_drop icmp6Payload.length (reply.drop (0 + 8))]
      rw [show (reply.drop (0 + 8)).take icmp6Payload.length = icmp6Payload from
        of_decide_eq_true h]
    rw [List.take_zero, List.nil_append, hdrop, htype] at hbytes
    exact ⟨_, _, _, _, hbytes.trans (by rw [← hid]; rfl)⟩
  · rintro ⟨code, c₁, c₂, rest, rfl⟩
    have hlen : ¬ ([ICMP6_ECHO_REPLY, code, c₁, c₂, id.1, id.2, seq.1, seq.2] ++
        (icmp6Payload ++ rest)).length < SIZEOF_ICMP6_HDR + icmp6Payload.length := by
      rw [List.length_append, List.length_append, Nat.not_lt]
      exact Nat.add_le_add_left (Nat.le_add_right _ _) _
    rw [if_neg hlen, if_neg (fun h => h.elim (fun h => h rfl) fun h => h rfl),
      if_neg (fun h => h.2 rfl)]
    refine decide_eq_true ?_
    show (icmp6Payload ++ rest).take icmp6Payload.length = icmp6Payload
    exact List.take_left

theorem IsEchoReply4.unique {bytes : List UInt8} {id seq id' seq' : Word}
    (h : IsEchoReply4 bytes id seq) (h' : IsEchoReply4 bytes id' seq') : id = id' ∧ seq = seq' := by
  obtain ⟨header, c₁, c₂, body, hbytes, hheader⟩ := h
  obtain ⟨header', c₁', c₂', body', hbytes', hheader'⟩ := h'
  have hlen : header.length = header'.length := by
    rw [← hheader.headerLength_append, ← hbytes, hbytes', hheader'.headerLength_append]
  have heq := List.append_inj_right (hbytes.symm.trans hbytes') hlen
  simp only [List.cons_append, List.cons.injEq, true_and] at heq
  obtain ⟨-, -, hid₁, hid₂, hseq₁, hseq₂, -⟩ := heq
  exact ⟨Prod.ext hid₁ hid₂, Prod.ext hseq₁ hseq₂⟩

theorem IsEchoReply6.unique {bytes : List UInt8} {id seq id' seq' : Word}
    (h : IsEchoReply6 bytes id seq) (h' : IsEchoReply6 bytes id' seq') : id = id' ∧ seq = seq' := by
  obtain ⟨code, c₁, c₂, rest, hbytes⟩ := h
  obtain ⟨code', c₁', c₂', rest', hbytes'⟩ := h'
  have heq := hbytes.symm.trans hbytes'
  simp only [List.cons_append, List.cons.injEq, true_and] at heq
  obtain ⟨-, -, -, hid₁, hid₂, hseq₁, hseq₂, -⟩ := heq
  exact ⟨Prod.ext hid₁ hid₂, Prod.ext hseq₁ hseq₂⟩

theorem not_isEchoReply4_nil (id seq : Word) : ¬ IsEchoReply4 [] id seq := by
  rintro ⟨header, c₁, c₂, body, h, -⟩
  have hlen := congrArg List.length h
  rw [List.length_append] at hlen
  simp at hlen

theorem not_isEchoReply6_nil (id seq : Word) : ¬ IsEchoReply6 [] id seq := by
  rintro ⟨code, c₁, c₂, rest, h⟩
  cases h

/-! ## The bytes that are kept -/

theorem take_append_keep {pre post : List UInt8} {n : Nat} (h : pre.length ≤ n) :
    (pre ++ post).take n = pre ++ post.take (n - pre.length) := by
  rw [List.take_append, List.take_of_length_le h]

theorem IsHeader4.length_le {header : List UInt8} (h : IsHeader4 header) : header.length ≤ 60 := by
  rw [h.length]
  omega

theorem isEchoReply4_take_iff {bytes : List UInt8} {id seq : Word} :
    IsEchoReply4 (bytes.take ICMP_SHARED_SNAPLEN) id seq ↔ IsEchoReply4 bytes id seq := by
  constructor
  · rintro ⟨header, c₁, c₂, body, hbytes, hheader⟩
    refine ⟨header, c₁, c₂, body ++ bytes.drop ICMP_SHARED_SNAPLEN, ?_, hheader⟩
    conv_lhs => rw [← List.take_append_drop ICMP_SHARED_SNAPLEN bytes, hbytes]
    simp only [List.append_assoc]
  · rintro ⟨header, c₁, c₂, body, rfl, hheader⟩
    refine ⟨header, c₁, c₂, body.take (ICMP_SHARED_SNAPLEN - header.length - 8), ?_, hheader⟩
    have hle := hheader.length_le
    have hsnap : ICMP_SHARED_SNAPLEN = 128 := rfl
    have height : 8 ≤ ICMP_SHARED_SNAPLEN - header.length := by omega
    rw [take_append_keep (by omega), take_append_keep height]
    rfl

theorem isEchoReply6_take_iff {bytes : List UInt8} {id seq : Word} :
    IsEchoReply6 (bytes.take ICMP_SHARED_SNAPLEN) id seq ↔ IsEchoReply6 bytes id seq := by
  constructor
  · rintro ⟨code, c₁, c₂, rest, hbytes⟩
    refine ⟨code, c₁, c₂, rest ++ bytes.drop ICMP_SHARED_SNAPLEN, ?_⟩
    conv_lhs => rw [← List.take_append_drop ICMP_SHARED_SNAPLEN bytes, hbytes]
    simp only [List.append_assoc]
  · rintro ⟨code, c₁, c₂, rest, rfl⟩
    refine ⟨code, c₁, c₂, rest.take (ICMP_SHARED_SNAPLEN - 8 - icmp6Payload.length), ?_⟩
    have hpayload : icmp6Payload.length ≤ ICMP_SHARED_SNAPLEN - 8 := by decide
    have hsnap : 8 ≤ ICMP_SHARED_SNAPLEN := by decide
    rw [take_append_keep hsnap]
    exact congrArg _ (take_append_keep hpayload)

end Spine
