import Spine.App.Text

/-!
# Host specifications

`split_host_spec` of `ping/address.c` splits `[transport:]host[:port]` into its
parts.  A colon ends the transport, separates the groups of an IPv6 address and
starts the port, so the same byte has three readings.

* The splitter.  `splitMethod` reads the transport, `splitAddress` the host and
  the text of the port, and `parsePort` the port.
* What is written is read back.  `TransportText` is a transport in any letter
  case and `HostText` a host with or without brackets.  Both carry what makes
  them unambiguous.  `splitHostSpec_roundtrip` reads every specification that is
  put together from them.
* The name that is kept.  `get_namebyhost` keeps an IPv6 name whole and any other
  name without its transport and its port, and a ping splits the kept name once
  more.  `pingAddress_hostMetadataHostname` says that it finds the same address.

`get_address_type`, `init_sockaddr` and `get_checksum` of the same file are left
out: they resolve an address and do not split it.
-/

namespace Spine

open Base.CString

/-! ## The splitter -/

/-- `methods[]`. -/
def methods : List Text := [lit "TCP", lit "UDP", lit "TCP6", lit "UDP6"]

/-- The entry of `methods[]` that a name spells. -/
def methodIndex (name : Text) : Option Nat := methods.findIdx? (strcaseeq name)

/-- The transport of a specification, counted from one, and what follows it.
Only the text before the first colon can be a transport. -/
def splitMethod (spec : Text) : Nat × Text :=
  match strchr spec 58 with
  | none => (0, spec)
  | some (name, rest) =>
    match methodIndex name with
    | some i => (i + 1, rest)
    | none => (0, spec)

/-- The host of a specification and the text of its port. -/
structure HostPart where
  ipv6 : Bool
  host : Text
  portText : Option Text
  deriving DecidableEq, Repr

/-- What stands between the brackets of a host, and what follows them. -/
def bracketed (host : Text) : Option (Text × Text) :=
  if host.head? = some 91 then strchr host.tail 93 else none

/-- What follows a closing bracket is a port only after a colon. -/
def portAfter (rest : Text) : Option Text :=
  if rest.head? = some 58 then some rest.tail else none

/-- The branches over the host. -/
def splitAddress (host : Text) : HostPart :=
  match bracketed host with
  | some (inside, rest) => ⟨true, inside, portAfter rest⟩
  | none =>
    if 1 < charCount host 58 ∨ host.head? = some 91 then ⟨true, host, none⟩
    else
      match strchr host 58 with
      | some (before, rest) => ⟨false, before, some rest⟩
      | none => ⟨false, host, none⟩

/-- The port that a text denotes, and zero for any other text.  `errno` is set
when the number is not a `long`. -/
def parsePort (portText : Text) : Nat :=
  if portText.head?.any isDigit then
    let value := strtol portText
    if value ≤ llongMax ∧ strtolRest portText = [] ∧ 0 < value ∧ value ≤ 65535 then value.toNat
    else 0
  else 0

/-- What `split_host_spec` reports. -/
structure SplitSpec where
  method : Nat
  address : Text
  port : Nat
  ipv6 : Bool
  deriving DecidableEq, Repr

/-- `split_host_spec`. -/
def splitHostSpec (spec : Text) (capacity : Nat) : SplitSpec :=
  let method := splitMethod spec
  let part := splitAddress method.2
  ⟨method.1, snprintfS capacity part.host, (part.portText.map parsePort).getD 0, part.ipv6⟩

/-- `ping_address`. -/
def pingAddress (hostname : Text) (capacity : Nat) : Text :=
  (splitHostSpec hostname capacity).address

/-! ## The parts -/

section Parts

variable {spec name host inside rest before portText : Text} {i : Nat}

theorem splitMethod_of_notMem (h : 58 ∉ spec) : splitMethod spec = (0, spec) := by
  rw [splitMethod, strchr_eq_none h]

theorem splitMethod_of_name (hname : 58 ∉ name) (hindex : methodIndex name = some i) :
    splitMethod (name ++ 58 :: rest) = (i + 1, rest) := by
  rw [splitMethod, strchr_append hname]
  simp only [hindex]

theorem bracketed_of_close (hinside : 93 ∉ inside) :
    bracketed (91 :: (inside ++ 93 :: rest)) = some (inside, rest) := by
  rw [bracketed, if_pos (by rfl)]
  exact strchr_append hinside rest

theorem bracketed_of_head (h : host.head? ≠ some 91) : bracketed host = none :=
  if_neg h

theorem splitAddress_of_bracketed (h : bracketed host = some (inside, rest)) :
    splitAddress host = ⟨true, inside, portAfter rest⟩ := by
  rw [splitAddress, h]

/-- Every colon of a host with two of them belongs to its address. -/
theorem splitAddress_of_colons (hcount : 2 ≤ charCount host 58) (h : bracketed host = none) :
    splitAddress host = ⟨true, host, none⟩ := by
  rw [splitAddress, h]
  exact if_pos (Or.inl hcount)

/-- A host that is not IPv6 is cut at its only colon. -/
theorem splitAddress_of_plain (hcount : charCount host 58 ≤ 1) (h : host.head? ≠ some 91) :
    splitAddress host =
      match strchr host 58 with
      | some (before, rest) => ⟨false, before, some rest⟩
      | none => ⟨false, host, none⟩ := by
  rw [splitAddress, bracketed_of_head h]
  refine if_neg ?_
  rintro (hmany | hhead)
  · omega
  · exact h hhead

theorem splitAddress_of_notMem (hcolon : 58 ∉ host) (h : host.head? ≠ some 91) :
    splitAddress host = ⟨false, host, none⟩ := by
  have hcount : charCount host 58 = 0 := List.count_eq_zero.2 hcolon
  rw [splitAddress_of_plain (by omega) h, strchr_eq_none hcolon]

theorem splitAddress_of_port (hcolon : 58 ∉ before) (h : before.head? ≠ some 91)
    (hport : 58 ∉ portText) :
    splitAddress (before ++ 58 :: portText) = ⟨false, before, some portText⟩ := by
  have hcount : charCount (before ++ 58 :: portText) 58 = 1 := by
    rw [charCount, List.count_append, List.count_cons_self, List.count_eq_zero.2 hcolon,
      List.count_eq_zero.2 hport]
  have hhead : (before ++ 58 :: portText).head? ≠ some 91 := by
    cases before with
    | nil => exact nofun
    | cons b rest => exact h
  rw [splitAddress_of_plain (by omega) hhead, strchr_append hcolon]

/-- A decimal number from 1 to 65535. -/
def IsPort (portText : Text) : Prop :=
  portText ≠ [] ∧ (∀ b ∈ portText, isDigit b = true) ∧
    1 ≤ digitsValue portText ∧ digitsValue portText ≤ 65535

theorem parsePort_of_isPort (h : IsPort portText) : parsePort portText = digitsValue portText := by
  obtain ⟨hne, hdigits, hlow, hhigh⟩ := h
  obtain ⟨b, rest, rfl⟩ := List.exists_cons_of_ne_nil hne
  have hb := hdigits b List.mem_cons_self
  have hvalue := strtol_of_digits hne hdigits
  have hrest : strtolRest (b :: rest) = [] := by
    rw [strtolRest_of_digit hb]
    exact List.dropWhile_eq_nil_iff.2 hdigits
  unfold parsePort
  rw [if_pos (by exact hb)]
  simp only [hvalue, hrest]
  rw [if_pos ⟨by rw [llongMax]; omega, trivial, by omega, by omega⟩]
  rfl

/-- Only a number in the range is reported. -/
theorem parsePort_of_not_isPort (h : ¬ IsPort portText) : parsePort portText = 0 := by
  unfold parsePort
  split
  · rename_i hhead
    refine if_neg ?_
    rintro ⟨-, hrest, hlow, hhigh⟩
    cases portText with
    | nil => cases hhead
    | cons b rest =>
      have hb : isDigit b = true := hhead
      rw [strtolRest_of_digit hb, List.dropWhile_eq_nil_iff] at hrest
      have hne : b :: rest ≠ [] := List.cons_ne_nil _ _
      rw [strtol_of_digits hne hrest] at hlow hhigh
      exact h ⟨hne, hrest, by omega, by omega⟩
  · rfl

theorem isPort_decimal {n : Nat} (hlow : 1 ≤ n) (hhigh : n ≤ 65535) : IsPort (decimal n) := by
  refine ⟨decimal_ne_nil n, fun _ hb => isDigit_of_mem_decimal hb, ?_, ?_⟩
  · rwa [digitsValue_decimal]
  · rwa [digitsValue_decimal]

end Parts

/-! ## What is written is read back -/

/-- The transports of `methods[]`. -/
inductive Transport where
  | tcp
  | udp
  | tcp6
  | udp6
  deriving DecidableEq, Repr

/-- The entry of `methods[]` for a transport. -/
def Transport.index : Transport → Nat
  | .tcp => 0
  | .udp => 1
  | .tcp6 => 2
  | .udp6 => 3

def Transport.name : Transport → Text
  | .tcp => lit "TCP"
  | .udp => lit "UDP"
  | .tcp6 => lit "TCP6"
  | .udp6 => lit "UDP6"

/-- A transport as a specification spells it, in any letter case. -/
structure TransportText where
  transport : Transport
  name : Text
  spells : strcaseeq name transport.name = true

/-- A host as a specification has it: without a colon and without an opening
bracket, or in brackets and without a closing one. -/
inductive HostText where
  | plain (host : Text) (noColon : 58 ∉ host) (noBracket : host.head? ≠ some 91)
  | bracket (host : Text) (noClose : 93 ∉ host)

namespace HostText

/-- The host itself. -/
def host : HostText → Text
  | plain host _ _ => host
  | bracket host _ => host

/-- The host as it is written. -/
def text : HostText → Text
  | plain host _ _ => host
  | bracket host _ => 91 :: (host ++ [93])

def ipv6 : HostText → Bool
  | plain _ _ _ => false
  | bracket _ _ => true

/-- The host is itself the name of a transport. -/
def namesTransport : HostText → Bool
  | plain host _ _ => (methodIndex host).isSome
  | bracket _ _ => false

end HostText

/-- `transport:`, or nothing. -/
def transportText : Option TransportText → Text
  | none => []
  | some t => t.name ++ [58]

/-- `:port`, or nothing. -/
def portSuffix : Option Text → Text
  | none => []
  | some portText => 58 :: portText

/-- `[transport:]host[:port]`. -/
def hostSpec (transport : Option TransportText) (host : Text) (port : Option Text) : Text :=
  transportText transport ++ (host ++ portSuffix port)

/-- The number that is reported for a transport. -/
def methodNumber : Option TransportText → Nat
  | none => 0
  | some t => t.transport.index + 1

/-- A specification without a transport does not start with the name of one and
a colon. -/
def NoTransportName (transport : Option TransportText) (spec : Text) : Prop :=
  transport = none → ∀ name rest, strchr spec 58 = some (name, rest) → methodIndex name = none

theorem TransportText.methodIndex_eq (t : TransportText) :
    methodIndex t.name = some t.transport.index := by
  have hspells : t.name.map toLower = t.transport.name.map toLower := beq_iff_eq.1 t.spells
  have hsame : strcaseeq t.name = strcaseeq t.transport.name := by
    funext other
    rw [strcaseeq, strcaseeq, hspells]
  rw [methodIndex, hsame]
  cases t.transport <;> decide

/-- A name without case has a colon exactly when it is written with one. -/
theorem TransportText.colon_notMem (t : TransportText) : 58 ∉ t.name := by
  intro hcolon
  have hspells : t.name.map toLower = t.transport.name.map toLower := beq_iff_eq.1 t.spells
  have hlower : (58 : UInt8) ∈ t.transport.name.map toLower := by
    rw [← hspells]
    exact List.mem_map.2 ⟨58, hcolon, by decide⟩
  cases ht : t.transport <;> rw [ht] at hlower <;> exact absurd hlower (by decide)

section RoundTrip

variable {transport : Option TransportText} {spec : Text}

/-- The transport is read off the front. -/
theorem splitMethod_transportText (h : NoTransportName transport spec) :
    splitMethod (transportText transport ++ spec) = (methodNumber transport, spec) := by
  cases transport with
  | some t =>
    rw [transportText, List.append_assoc]
    exact splitMethod_of_name t.colon_notMem t.methodIndex_eq
  | none =>
    rw [transportText, List.nil_append, methodNumber, splitMethod]
    cases hcolon : strchr spec 58 with
    | none => rfl
    | some split => simp only [h rfl split.1 split.2 hcolon]

/-- The host and the text of the port are read off the rest. -/
theorem splitAddress_hostText (host : HostText) {port : Option Text}
    (hport : ∀ portText ∈ port, 58 ∉ portText) :
    splitAddress (host.text ++ portSuffix port) = ⟨host.ipv6, host.host, port⟩ := by
  cases host with
  | plain host noColon noBracket =>
    cases port with
    | none =>
      rw [portSuffix, List.append_nil]
      exact splitAddress_of_notMem noColon noBracket
    | some portText => exact splitAddress_of_port noColon noBracket (hport _ rfl)
  | bracket host noClose =>
    have hbracketed : bracketed ((HostText.bracket host noClose).text ++ portSuffix port) =
        some (host, portSuffix port) := by
      rw [HostText.text, List.cons_append, List.append_assoc]
      exact bracketed_of_close noClose
    rw [splitAddress_of_bracketed hbracketed]
    cases port with
    | none => rfl
    | some portText => rfl

theorem methods_head : ∀ other ∈ methods,
    ¬ ((other.map toLower).head? = none ∨ (other.map toLower).head? = some 91) := by
  decide

/-- A bracketed host never starts with the name of a transport, and a plain one
only when it is that name and has a port. -/
theorem noTransportName_hostText (host : HostText) {port : Option Text}
    (h : transport = none → port ≠ none → host.namesTransport = false) :
    NoTransportName transport (host.text ++ portSuffix port) := by
  intro hnone name rest hcolon
  obtain ⟨hspec, hname⟩ := strchr_eq_some hcolon
  cases host with
  | plain host noColon noBracket =>
    cases port with
    | none =>
      rw [portSuffix, List.append_nil] at hcolon
      rw [HostText.text, strchr_eq_none noColon] at hcolon
      cases hcolon
    | some portText =>
      rw [portSuffix, HostText.text, strchr_append noColon, Option.some.injEq,
        Prod.mk.injEq] at hcolon
      rw [← hcolon.1]
      exact Option.not_isSome_iff_eq_none.1 (Bool.eq_false_iff.1 (h hnone (Option.some_ne_none _)))
  | bracket host noClose =>
    -- The name starts with the bracket, and no entry of `methods[]` does.
    have hhead : name = [] ∨ name.head? = some 91 := by
      cases name with
      | nil => exact Or.inl rfl
      | cons b tail =>
        rw [HostText.text, List.cons_append, List.cons_append, List.cons.injEq] at hspec
        exact Or.inr (congrArg some hspec.1.symm)
    have hfirst : (name.map toLower).head? = none ∨ (name.map toLower).head? = some 91 := by
      rcases hhead with rfl | hhead
      · exact Or.inl rfl
      · rw [List.head?_map, hhead]
        exact Or.inr (by decide)
    refine List.findIdx?_eq_none_iff.2 fun other hother => beq_eq_false_iff_ne.2 fun heq => ?_
    rw [heq] at hfirst
    exact methods_head other hother hfirst

/-- Every specification is read back: its transport, its host without brackets,
its port and whether it is IPv6.  A text that is no port is reported as zero, and
a bare host with two colons is an IPv6 address without a port. -/
theorem splitHostSpec_roundtrip (capacity : Nat) :
    (∀ (transport : Option TransportText) (host : HostText) (port : Option Text),
      host.host.length < capacity → (∀ portText ∈ port, 58 ∉ portText) →
      (transport = none → port ≠ none → host.namesTransport = false) →
      splitHostSpec (hostSpec transport host.text port) capacity =
        ⟨methodNumber transport, host.host, (port.map parsePort).getD 0, host.ipv6⟩) ∧
    (∀ port, 1 ≤ port → port ≤ 65535 → 58 ∉ decimal port ∧ parsePort (decimal port) = port) ∧
    (∀ portText, ¬ IsPort portText → parsePort portText = 0) ∧
    (∀ (transport : Option TransportText) (host : Text),
      2 ≤ charCount host 58 → ¬ (host.head? = some 91 ∧ 93 ∈ host) → host.length < capacity →
      NoTransportName transport host →
      splitHostSpec (transportText transport ++ host) capacity =
        ⟨methodNumber transport, host, 0, true⟩) := by
  refine ⟨?_, ?_, fun _ => parsePort_of_not_isPort, ?_⟩
  · intro transport host port hlength hport hname
    unfold splitHostSpec hostSpec
    rw [splitMethod_transportText (noTransportName_hostText host hname)]
    simp only [splitAddress_hostText host hport, snprintfS_eq_self hlength]
  · intro port hlow hhigh
    refine ⟨fun hcolon => absurd (isDigit_of_mem_decimal hcolon) (by decide), ?_⟩
    rw [parsePort_of_isPort (isPort_decimal hlow hhigh), digitsValue_decimal]
  · intro transport host hcount hbracket hlength hname
    have hnone : bracketed host = none := by
      by_cases hhead : host.head? = some 91
      · have hclose : 93 ∉ host := fun hmem => hbracket ⟨hhead, hmem⟩
        rw [bracketed, if_pos hhead]
        exact strchr_eq_none fun hmem => hclose (List.mem_of_mem_tail hmem)
      · exact bracketed_of_head hhead
    unfold splitHostSpec
    rw [splitMethod_transportText hname]
    simp only [splitAddress_of_colons hcount hnone, snprintfS_eq_self hlength]
    rfl

/-- A transport in mixed case, brackets and a port; and a bare IPv6 address. -/
theorem splitHostSpec_roundtrip_udp6 :
    splitHostSpec (lit "Udp6:[2001:db8::1]:161") 64 = ⟨4, lit "2001:db8::1", 161, true⟩ ∧
      splitHostSpec (lit "fe80::1") 64 = ⟨0, lit "fe80::1", 0, true⟩ := by
  obtain ⟨hspec, hport, -, hbare⟩ := splitHostSpec_roundtrip 64
  obtain ⟨hcolon, hvalue⟩ := hport 161 (by decide) (by decide)
  have hudp6 := hspec (some ⟨.udp6, lit "Udp6", by decide⟩)
    (.bracket (lit "2001:db8::1") (by decide)) (some (decimal 161)) (by decide)
    (by rintro _ ⟨⟩; exact hcolon) nofun
  rw [Option.map_some, hvalue] at hudp6
  refine ⟨hudp6, hbare none (lit "fe80::1") (by decide) (by decide) (by decide) ?_⟩
  rintro - name rest hname
  cases (Option.some.inj hname : (lit "fe80", lit ":1") = (name, rest))
  decide

end RoundTrip

/-! ## The name that is kept -/

/-- `name_t`. -/
structure NamePort where
  hostname : Text
  method : Nat
  port : Nat
  deriving DecidableEq, Repr

/-- `get_namebyhost`. -/
def getNamebyhost (hostname : Text) : NamePort :=
  let split := splitHostSpec hostname BUFSIZE
  ⟨snprintfS BUFSIZE (if split.ipv6 then hostname else split.address), split.method, split.port⟩

/-- The size of `host->hostname`. -/
def HOSTNAME_SIZE : Nat := 250

/-- The name that `host_metadata_connection` keeps for a device. -/
def hostMetadataHostname (hostname : Text) : Text :=
  snprintfS HOSTNAME_SIZE (getNamebyhost hostname).hostname

section Kept

variable {host hostname : Text}

/-- The host of a name that is not IPv6 has nothing left to split. -/
theorem splitAddress_not_ipv6 (h : (splitAddress host).ipv6 = false) :
    58 ∉ (splitAddress host).host ∧ (splitAddress host).host.head? ≠ some 91 ∧
      (splitAddress host).host <+: host := by
  unfold splitAddress at h ⊢
  split
  · rename_i heq
    rw [heq] at h
    cases h
  · rename_i heq
    rw [heq] at h
    dsimp only at h
    split
    · rename_i hcolons
      rw [if_pos hcolons] at h
      cases h
    · rename_i hcolons
      rw [not_or] at hcolons
      cases hcolon : strchr host 58 with
      | none =>
        refine ⟨fun hmem => ?_, hcolons.2, List.prefix_rfl⟩
        obtain ⟨before, rest, rfl, hbefore⟩ := List.eq_append_cons_of_mem hmem
        rw [strchr_append hbefore] at hcolon
        cases hcolon
      | some split =>
        obtain ⟨hhost, hbefore⟩ := strchr_eq_some hcolon
        refine ⟨hbefore, fun hhead => hcolons.2 ?_, ?_⟩
        · rw [hhost, List.head?_append, hhead]
          rfl
        · exact ⟨_, hhost.symm⟩

theorem splitMethod_suffix (spec : Text) : (splitMethod spec).2 <:+ spec := by
  unfold splitMethod
  cases hcolon : strchr spec 58 with
  | none => exact List.suffix_rfl
  | some split =>
    dsimp only
    split
    · rw [(strchr_eq_some hcolon).1]
      exact ⟨split.1 ++ [58], by rw [List.append_assoc]; rfl⟩
    · exact List.suffix_rfl

/-- A name without a colon and without an opening bracket is its own address. -/
theorem pingAddress_of_bare (hcolon : 58 ∉ host) (hhead : host.head? ≠ some 91) (capacity : Nat) :
    pingAddress host capacity = snprintfS capacity host := by
  unfold pingAddress splitHostSpec
  rw [splitMethod_of_notMem hcolon]
  simp only [splitAddress_of_notMem hcolon hhead]

/-- A ping finds the same address in the name that is kept for a device as in
the name that was configured. -/
theorem pingAddress_hostMetadataHostname (hostname : Text) (hlength : hostname.length < 250)
    (capacity : Nat) :
    pingAddress (hostMetadataHostname hostname) capacity = pingAddress hostname capacity := by
  have hfits : hostname.length < BUFSIZE := Nat.lt_trans hlength (by decide)
  unfold hostMetadataHostname getNamebyhost
  cases hipv6 : (splitHostSpec hostname BUFSIZE).ipv6 with
  | true =>
    simp only [hipv6, if_true]
    rw [snprintfS_eq_self hfits, snprintfS_eq_self (by exact hlength)]
  | false =>
    obtain ⟨hcolon, hhead, hprefix⟩ := splitAddress_not_ipv6 hipv6
    -- The address is a part of the name, so neither copy cuts it.
    have hshort : (splitAddress (splitMethod hostname).2).host.length < 250 :=
      Nat.lt_of_le_of_lt
        (Nat.le_trans hprefix.length_le (splitMethod_suffix hostname).length_le) hlength
    have haddress : (splitHostSpec hostname BUFSIZE).address =
        (splitAddress (splitMethod hostname).2).host :=
      snprintfS_eq_self (Nat.lt_trans hshort (by decide))
    simp only [hipv6, Bool.false_eq_true, if_false, haddress]
    rw [snprintfS_eq_self (Nat.lt_trans hshort (by decide)), snprintfS_eq_self (by exact hshort),
      pingAddress_of_bare hcolon hhead]
    rfl

/-- A transport and a port are stripped once, and nothing is left to strip. -/
theorem pingAddress_hostMetadataHostname_udp :
    pingAddress (hostMetadataHostname (lit "udp:router:161")) BUFSIZE = lit "router" :=
  (pingAddress_hostMetadataHostname (lit "udp:router:161") (by decide) BUFSIZE).trans (by decide)

end Kept

end Spine
