import Spine.Poller.Result

/-!
# SNMP requests

The two requests of `snmp/requests.c` that the reindex of a device makes, a
`GET` of one object and a count of the rows of a table.  The agent and the
client library are arguments.  An `SnmpExchange` is what they make of one
`GET`, and a list of `SnmpReply` is what they answer to the requests of a
walk.

There are four groups.

* Replies.  The library prints the exception values of a variable like data, each
  with an `ExceptionText`.
* `snmp_get_base`.  `snmpGetBase_delivered` and `snmpGetBase_leftover` say what
  a `GET` with data and one without data return.  An agent that answers with
  an error leaves the result empty, and the status is a success.
* `snmp_count`.  An agent that has no more replies is silent, so the next
  request of the walk times out.
* Failures.  `SnmpExchange.delivered` is the text of a `GET` that found data,
  and `WalkFails` says that a walk meets an error or a time-out.
  `snmpCount_of_walkFails` shows that such a walk has a negative count.
-/

namespace Spine

open Base.CString

/-! ## Replies -/

/-- `STAT_SUCCESS`, `STAT_ERROR`, `STAT_TIMEOUT` and `STAT_DESCRIP_ERROR`. -/
inductive SnmpStatus where
  | success
  | error
  | timeout
  | descripError
  deriving DecidableEq, Repr

abbrev Oid := List Nat

/-- What stands in a result for a text that the library printed. -/
def scalarText (printed : Text) : Text := snprintfS RESULTS_BUFFER (trim printed)

/-- The text that the library prints for an exception.  It is a sentence: it does not
read as a counter, and it is neither of the texts that mark an unknown value. -/
structure ExceptionText where
  printed : Text
  not_counter : parseUptime (scalarText printed) = none
  not_mark : scalarText printed ≠ undefinedText ∧
    strcaseeq (scalarText printed) (lit "No Such Instance") = false
  deriving DecidableEq, Repr

/-- The value of a variable: data, with the text that the library prints for
it if it can, or an exception. -/
inductive VarValue where
  | data (printed : Option Text)
  | noSuchObject (text : ExceptionText)
  | noSuchInstance (text : ExceptionText)
  | endOfMibView (text : ExceptionText)
  deriving DecidableEq, Repr

/-- `snprint_value`. -/
def VarValue.print : VarValue → Option Text
  | .data printed => printed
  | .noSuchObject text => some text.printed
  | .noSuchInstance text => some text.printed
  | .endOfMibView text => some text.printed

/-- `struct variable_list`. -/
structure VarBind where
  name : Option Oid
  value : VarValue
  deriving DecidableEq, Repr

/-- `struct snmp_pdu`. -/
structure SnmpPdu where
  errstat : Int
  varBinds : List VarBind
  deriving DecidableEq, Repr

def SNMP_ERR_NOERROR : Int := 0
def SNMP_ERR_NOSUCHNAME : Int := 2
def MAX_OID_LEN : Nat := 128

/-- The answer to one request, and whether the last error of the session is
`notInTimeWindow`. -/
structure SnmpReply where
  status : SnmpStatus
  response : Option SnmpPdu
  notInTimeWindow : Bool
  deriving DecidableEq, Repr

/-- One `GET`: whether the text of the object parses, whether the request and
its variable can be built, and the reply. -/
structure SnmpExchange where
  parses : Bool
  created : Bool
  added : Bool
  reply : SnmpReply
  deriving DecidableEq, Repr

/-- What the requests read and write of `host_t`. -/
structure SnmpDevice where
  session : Bool
  ignoreHost : Bool
  deriving DecidableEq, Repr

/-! ## One object -/

/-- `snmp_format_scalar` with `ascii` off. -/
def snmpFormatScalar (varBind : VarBind) : SnmpStatus × Text :=
  match varBind.name, varBind.value.print with
  | some _, some printed => (.success, scalarText printed)
  | _, _ => (.error, undefinedText)

/-- The objects of the system group whose absence is not an error. -/
def isSystemOid (textOid : Text) : Bool :=
  strstr textOid (lit ".1.3.6.1.2.1.1.1.0") || strstr textOid (lit ".1.3.6.1.2.1.1.3.0")

/-- `snmp_get_variable`. -/
def snmpGetVariable (textOid : Text) (varBind : VarBind) : SnmpStatus × Text :=
  match varBind.value with
  | .noSuchObject _ =>
    if isSystemOid textOid then snmpFormatScalar varBind else (.error, undefinedText)
  | .noSuchInstance _ => (.error, undefinedText)
  | .endOfMibView _ => (.error, undefinedText)
  | .data _ => snmpFormatScalar varBind

/-- `snmp_decode_session_error`, with the text of the output before. -/
def snmpDecodeSessionError (reply : SnmpReply) (output : Text) : SnmpStatus × Text :=
  if reply.status ≠ .error then (reply.status, output)
  else if reply.notInTimeWindow then (.success, undefinedText)
  else (reply.status, output)

/-- The variable of a response without an error. -/
def SnmpPdu.answer (pdu : SnmpPdu) : Option VarBind :=
  if pdu.errstat = SNMP_ERR_NOERROR then pdu.varBinds.head?.filter (·.name.isSome) else none

/-- `snmp_get_response` on an empty output. -/
def snmpGetResponse (textOid : Text) (reply : SnmpReply) : SnmpStatus × Text :=
  match reply.status with
  | .descripError => (.error, undefinedText)
  | .success =>
    match reply.response with
    | none => (.error, undefinedText)
    | some pdu =>
      match pdu.answer with
      | some varBind => snmpGetVariable textOid varBind
      | none => (.success, [])
  | status =>
    if reply.response.any fun pdu => !pdu.varBinds.isEmpty then (.error, undefinedText)
    else if status = .timeout then (status, [])
    else snmpDecodeSessionError reply []

/-- `snmp_request_parsed` on an open session. -/
def snmpRequestParsed (exchange : SnmpExchange) : SnmpReply :=
  if !exchange.created then ⟨.descripError, none, exchange.reply.notInTimeWindow⟩
  else if !exchange.added then ⟨.error, none, exchange.reply.notInTimeWindow⟩
  else exchange.reply

/-- `snmp_get_base`: the result and the device afterwards.  Without a session
the request is not sent, and its status is an error. -/
def snmpGetBase (device : SnmpDevice) (textOid : Text) (exchange : SnmpExchange)
    (shouldFail : Bool) : Text × SnmpDevice :=
  if device.ignoreHost then (undefinedText, device)
  else if !device.session then
    if shouldFail then (undefinedText, { device with ignoreHost := true }) else ([], device)
  else if !exchange.parses then (undefinedText, device)
  else
    let (status, output) := snmpGetResponse textOid (snmpRequestParsed exchange)
    if status ≠ .success ∧ shouldFail then (undefinedText, { device with ignoreHost := true })
    else (output, device)

/-- `snmp_get`. -/
def snmpGet (device : SnmpDevice) (textOid : Text) (exchange : SnmpExchange) :
    Text × SnmpDevice :=
  snmpGetBase device textOid exchange true

/-- The response to a request that was sent and answered. -/
def SnmpExchange.answered (exchange : SnmpExchange) : Option SnmpPdu :=
  if exchange.parses && exchange.created && exchange.added &&
      decide (exchange.reply.status = .success) then
    exchange.reply.response
  else none

/-- The text of the data that a `GET` found. -/
def SnmpExchange.delivered (exchange : SnmpExchange) : Option Text :=
  match exchange.answered.bind SnmpPdu.answer with
  | some ⟨_, .data (some printed)⟩ => some (scalarText printed)
  | _ => none

/-- What a `GET` without data leaves in its result. -/
def SnmpExchange.leftover (textOid : Text) (exchange : SnmpExchange) : Text :=
  match exchange.answered with
  | none => undefinedText
  | some pdu =>
    match pdu.answer with
    | none => []
    | some ⟨_, .noSuchObject text⟩ =>
      if isSystemOid textOid then scalarText text.printed else undefinedText
    | some _ => undefinedText

theorem SnmpPdu.answer_name {pdu : SnmpPdu} {varBind : VarBind}
    (h : pdu.answer = some varBind) : varBind.name.isSome := by
  unfold SnmpPdu.answer at h
  split at h
  · exact (Option.filter_eq_some_iff.1 h).2
  · cases h

section Get

variable {device : SnmpDevice} {textOid : Text} {exchange : SnmpExchange}

/-- A request that was not answered leaves the mark of an unknown value, or an
empty text with a status that is not a success. -/
theorem snmpGetResponse_of_no_response (textOid : Text) {reply : SnmpReply}
    (h : reply.status = .success → reply.response = none) :
    (snmpGetResponse textOid reply).2 = undefinedText ∨
      (snmpGetResponse textOid reply).2 = [] ∧
        (snmpGetResponse textOid reply).1 ≠ .success := by
  unfold snmpGetResponse snmpDecodeSessionError
  cases hstatus : reply.status with
  | success =>
    rw [h hstatus]
    exact Or.inl rfl
  | descripError => exact Or.inl rfl
  | timeout =>
    dsimp only
    split
    · exact Or.inl rfl
    · exact Or.inr ⟨rfl, nofun⟩
  | error =>
    dsimp only
    split
    · exact Or.inl rfl
    · rw [if_neg (by decide), if_neg (by simp)]
      split
      · exact Or.inl rfl
      · exact Or.inr ⟨rfl, nofun⟩

/-- The result of a variable, with its status. -/
theorem snmpGetVariable_eq {varBind : VarBind} (hname : varBind.name.isSome) :
    snmpGetVariable textOid varBind =
      match varBind.value with
      | .data (some printed) => (.success, scalarText printed)
      | .noSuchObject text =>
        if isSystemOid textOid then (.success, scalarText text.printed)
        else (.error, undefinedText)
      | _ => (.error, undefinedText) := by
  obtain ⟨name, hname⟩ := Option.isSome_iff_exists.1 hname
  unfold snmpGetVariable snmpFormatScalar
  rw [hname]
  cases hvalue : varBind.value with
  | data printed => cases printed <;> rfl
  | noSuchObject text => rfl
  | noSuchInstance text => rfl
  | endOfMibView text => rfl

theorem SnmpExchange.answered_eq_some {pdu : SnmpPdu} :
    exchange.answered = some pdu ↔
      exchange.parses = true ∧ exchange.created = true ∧ exchange.added = true ∧
        exchange.reply.status = .success ∧ exchange.reply.response = some pdu := by
  unfold SnmpExchange.answered
  rw [Option.ite_none_right_eq_some]
  simp only [Bool.and_eq_true, decide_eq_true_eq, and_assoc]

/-- A status other than a success never goes with a text of its own. -/
theorem snmpGetVariable_text {varBind : VarBind}
    (h : (snmpGetVariable textOid varBind).1 ≠ .success) :
    (snmpGetVariable textOid varBind).2 = undefinedText := by
  unfold snmpGetVariable snmpFormatScalar at *
  split at h
  · split_ifs at h ⊢
    · split at h
      · exact absurd rfl h
      · rfl
    · rfl
  · rfl
  · rfl
  · split at h
    · exact absurd rfl h
    · rfl

theorem snmpGetBase_of_answered {pdu : SnmpPdu} {shouldFail : Bool}
    (hsession : device.session = true) (hignore : device.ignoreHost = false)
    (h : exchange.answered = some pdu) :
    (snmpGetBase device textOid exchange shouldFail).1 =
      match pdu.answer with
      | some varBind => (snmpGetVariable textOid varBind).2
      | none => [] := by
  obtain ⟨hparses, hcreated, hadded, hstatus, hresponse⟩ := SnmpExchange.answered_eq_some.1 h
  unfold snmpGetBase snmpRequestParsed
  rw [if_neg (by simp [hignore]), if_neg (by simp [hsession]), if_neg (by simp [hparses]),
    if_neg (by simp [hcreated]), if_neg (by simp [hadded])]
  unfold snmpGetResponse
  rw [hstatus, hresponse]
  dsimp only
  cases pdu.answer with
  | none => rfl
  | some varBind =>
    dsimp only
    split
    · rename_i hfail
      exact (snmpGetVariable_text hfail.1).symm
    · rfl

theorem snmpRequestParsed_of_not_answered (hparses : exchange.parses = true)
    (h : exchange.answered = none) (hstatus : (snmpRequestParsed exchange).status = .success) :
    (snmpRequestParsed exchange).response = none := by
  unfold snmpRequestParsed at hstatus ⊢
  by_cases hcreated : exchange.created = true
  swap
  · rw [if_pos (by simp [hcreated])]
  by_cases hadded : exchange.added = true
  swap
  · rw [if_neg (by simp [hcreated]), if_pos (by simp [hadded])]
  · -- The request was sent, so the reply itself has no response.
    rw [if_neg (by simp [hcreated]), if_neg (by simp [hadded])] at hstatus ⊢
    cases hresponse : exchange.reply.response with
    | none => rfl
    | some pdu =>
      have hsome := SnmpExchange.answered_eq_some.2
        ⟨hparses, hcreated, hadded, hstatus, hresponse⟩
      rw [h] at hsome
      cases hsome

theorem snmpGetBase_of_not_answered {shouldFail : Bool}
    (hsession : device.session = true) (hignore : device.ignoreHost = false)
    (h : exchange.answered = none) :
    (snmpGetBase device textOid exchange shouldFail).1 = undefinedText ∨
      shouldFail = false ∧ (snmpGetBase device textOid exchange shouldFail).1 = [] := by
  unfold snmpGetBase
  rw [if_neg (by simp [hignore]), if_neg (by simp [hsession])]
  by_cases hparses : exchange.parses = true
  · rw [if_neg (by simp [hparses])]
    dsimp only
    cases snmpGetResponse_of_no_response textOid (snmpRequestParsed_of_not_answered hparses h) with
    | inl htext =>
      left
      split
      · rfl
      · exact htext
    | inr hempty =>
      cases shouldFail with
      | true => exact Or.inl (by rw [if_pos ⟨hempty.2, rfl⟩])
      | false => exact Or.inr ⟨rfl, by rw [if_neg (by simp)]; exact hempty.1⟩
  · rw [if_pos (by simp [hparses])]
    exact Or.inl rfl

/-- A `GET` that found data returns it. -/
theorem snmpGetBase_delivered {shouldFail : Bool} {text : Text} (hsession : device.session = true)
    (hignore : device.ignoreHost = false) (h : exchange.delivered = some text) :
    (snmpGetBase device textOid exchange shouldFail).1 = text := by
  unfold SnmpExchange.delivered at h
  cases hanswered : exchange.answered with
  | none => rw [hanswered] at h; cases h
  | some pdu =>
    rw [snmpGetBase_of_answered hsession hignore hanswered]
    rw [hanswered, Option.bind_some] at h
    cases hanswer : pdu.answer with
    | none => rw [hanswer] at h; cases h
    | some varBind =>
      dsimp only
      rw [snmpGetVariable_eq (SnmpPdu.answer_name hanswer)]
      rw [hanswer] at h
      obtain ⟨name, value⟩ := varBind
      split at h
      · rename_i heq
        cases heq
        exact Option.some.inj h
      · cases h

/-- A `GET` that found no data returns what it left over.  When a failure is
allowed, the result can also be empty. -/
theorem snmpGetBase_leftover (textOid : Text) (shouldFail : Bool) (hsession : device.session = true)
    (hignore : device.ignoreHost = false) (h : exchange.delivered = none) :
    (snmpGetBase device textOid exchange shouldFail).1 = exchange.leftover textOid ∨
      shouldFail = false ∧ (snmpGetBase device textOid exchange shouldFail).1 = [] := by
  unfold SnmpExchange.delivered at h
  unfold SnmpExchange.leftover
  cases hanswered : exchange.answered with
  | none => exact snmpGetBase_of_not_answered hsession hignore hanswered
  | some pdu =>
    left
    rw [snmpGetBase_of_answered hsession hignore hanswered]
    rw [hanswered, Option.bind_some] at h
    dsimp only
    cases hanswer : pdu.answer with
    | none => rfl
    | some varBind =>
      dsimp only
      rw [snmpGetVariable_eq (SnmpPdu.answer_name hanswer)]
      rw [hanswer] at h
      obtain ⟨name, value⟩ := varBind
      cases value with
      | data printed =>
        cases printed with
        | none => rfl
        | some printed => cases h
      | noSuchObject text => by_cases hsystem : isSystemOid textOid = true <;> simp [hsystem]
      | noSuchInstance text => rfl
      | endOfMibView text => rfl

/-- A `GET` keeps the session. -/
theorem snmpGetBase_session (textOid : Text) (exchange : SnmpExchange) (shouldFail : Bool) :
    (snmpGetBase device textOid exchange shouldFail).2.session = device.session := by
  unfold snmpGetBase
  dsimp only
  split_ifs <;> rfl

theorem snmpGetBase_of_ignored (textOid : Text) (exchange : SnmpExchange) (shouldFail : Bool)
    (h : device.ignoreHost = true) :
    snmpGetBase device textOid exchange shouldFail = (undefinedText, device) := by
  unfold snmpGetBase
  rw [if_pos h]

end Get

/-! ## A table -/

/-- `snmp_walk_t` without its root. -/
structure SnmpWalk where
  current : Oid
  count : Nat
  failed : Bool
  deriving DecidableEq, Repr

def SnmpWalk.fail (walk : SnmpWalk) : SnmpWalk := { walk with failed := true }

/-- `snmp_count_advance`: the walk afterwards, and whether it goes on. -/
def snmpCountAdvance (root : Oid) (walk : SnmpWalk) (varBind : VarBind) : SnmpWalk × Bool :=
  match varBind.name with
  | none => (walk.fail, false)
  | some name =>
    if MAX_OID_LEN < name.length then (walk.fail, false)
    else if name.length < root.length ∨ name.take root.length ≠ root then (walk, false)
    else if walk.count = INT_MAX then (walk.fail, false)
    else
      match varBind.value with
      | .data _ =>
        let walk := { walk with count := walk.count + 1 }
        if walk.current < name then ({ walk with current := name }, true) else (walk.fail, false)
      | _ => (walk, false)

/-- The loop over the variables of one response. -/
def snmpCountVariables (root : Oid) : SnmpWalk → List VarBind → SnmpWalk × Bool
  | walk, [] => (walk, true)
  | walk, varBind :: varBinds =>
    match snmpCountAdvance root walk varBind with
    | (walk, true) => snmpCountVariables root walk varBinds
    | (walk, false) => (walk, false)

/-- `snmp_count_response`. -/
def snmpCountResponse (root : Oid) (walk : SnmpWalk) (reply : SnmpReply) : SnmpWalk × Bool :=
  match reply.status, reply.response with
  | .success, some pdu =>
    if pdu.errstat = SNMP_ERR_NOSUCHNAME then (walk, false)
    else if pdu.errstat ≠ SNMP_ERR_NOERROR ∨ pdu.varBinds = [] then (walk.fail, false)
    else snmpCountVariables root walk pdu.varBinds
  | _, _ => (walk.fail, false)

/-- The loop of `snmp_count`.  After its last reply the agent is silent. -/
def snmpCountLoop (root : Oid) : SnmpWalk → List SnmpReply → SnmpWalk
  | walk, [] => walk.fail
  | walk, reply :: replies =>
    match snmpCountResponse root walk reply with
    | (walk, true) => snmpCountLoop root walk replies
    | (walk, false) => walk

/-- `snmp_count`: the count and the device afterwards.  `root` is the object
that the text parses to. -/
def snmpCount (device : SnmpDevice) (root : Option Oid) (replies : List SnmpReply) :
    Int × SnmpDevice :=
  if !device.session then (-1, { device with ignoreHost := true })
  else
    match root with
    | none => (-1, device)
    | some root =>
      let walk := snmpCountLoop root ⟨root, 0, false⟩ replies
      if walk.failed then (-1, { device with ignoreHost := true }) else (walk.count, device)

theorem snmpCount_session (device : SnmpDevice) (root : Option Oid) (replies : List SnmpReply) :
    (snmpCount device root replies).2.session = device.session := by
  unfold snmpCount
  split
  · rfl
  · split
    · rfl
    · dsimp only
      split <;> rfl

/-- A reply with an error or without data, or no reply at all.  The end of a
walk in the first version of the protocol is not one. -/
def SnmpReply.fails (reply : SnmpReply) : Prop :=
  reply.status ≠ .success ∨ reply.response = none ∨
    ∃ pdu, reply.response = some pdu ∧ pdu.errstat ≠ SNMP_ERR_NOSUCHNAME ∧
      (pdu.errstat ≠ SNMP_ERR_NOERROR ∨ pdu.varBinds = [])

/-- The walk after replies that all let it go on. -/
def walkThrough (root : Oid) : SnmpWalk → List SnmpReply → Option SnmpWalk
  | walk, [] => some walk
  | walk, reply :: replies =>
    match snmpCountResponse root walk reply with
    | (walk, true) => walkThrough root walk replies
    | (_, false) => none

/-- The walk reaches a reply that fails, or the end of the replies. -/
def WalkFails (root : Oid) (replies : List SnmpReply) : Prop :=
  ∃ before after, replies = before ++ after ∧
    (walkThrough root ⟨root, 0, false⟩ before).isSome ∧
    ∀ reply, after.head? = some reply → reply.fails

theorem snmpCountResponse_of_fails {root : Oid} {walk : SnmpWalk} {reply : SnmpReply}
    (h : reply.fails) : snmpCountResponse root walk reply = (walk.fail, false) := by
  unfold snmpCountResponse
  rcases h with h | h | h
  · split
    · exact absurd ‹reply.status = .success› h
    · rfl
  · rw [h]
    cases reply.status <;> rfl
  · obtain ⟨pdu, hresponse, hname, herror⟩ := h
    rw [hresponse]
    cases reply.status with
    | success =>
      dsimp only
      rw [if_neg hname, if_pos herror]
    | error => rfl
    | timeout => rfl
    | descripError => rfl

/-- The run through the replies before a failure, and then the failure. -/
theorem snmpCountLoop_of_walkThrough {root : Oid} {walk : SnmpWalk} {before after : List SnmpReply}
    (hbefore : (walkThrough root walk before).isSome)
    (hafter : ∀ reply, after.head? = some reply → reply.fails) :
    (snmpCountLoop root walk (before ++ after)).failed = true := by
  induction before generalizing walk with
  | nil =>
    cases after with
    | nil => rfl
    | cons reply rest =>
      rw [List.nil_append, snmpCountLoop, snmpCountResponse_of_fails (hafter reply rfl)]
      rfl
  | cons reply before ih =>
    rw [walkThrough] at hbefore
    rw [List.cons_append, snmpCountLoop]
    split at hbefore
    · exact ih hbefore
    · cases hbefore

/-- A walk that meets an error or a time-out has a negative count. -/
theorem snmpCount_of_walkFails {device : SnmpDevice} {root : Option Oid} {replies : List SnmpReply}
    (h : device.session = true → ∀ oid, root = some oid → WalkFails oid replies) :
    (snmpCount device root replies).1 = -1 := by
  unfold snmpCount
  cases hsession : device.session with
  | false => rfl
  | true =>
    rw [if_neg (by simp)]
    cases root with
    | none => rfl
    | some oid =>
      obtain ⟨before, after, rfl, hbefore, hafter⟩ := h hsession oid rfl
      dsimp only
      rw [if_pos (snmpCountLoop_of_walkThrough hbefore hafter)]

end Spine
