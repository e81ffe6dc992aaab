import Spine.Base.Ledger
import Spine.Snmp.Requests

/-!
# SNMP sessions

`snmp_host_init` of `snmp/session.c` turns the connection settings of a device into a
session of Net-SNMP.  For SNMPv3 it picks the security level, installs the protocols and
derives the keys from copies of the two passphrases.  What Net-SNMP, the heap and the
network answer is a parameter.

* `snmpHostInit` and the functions below it are those of the source.  A run keeps the
  session record, the lines it logs and a ledger of what it holds: the blocks on the heap,
  and the places in memory that hold a passphrase or a key.
* `Secured` is what a session that reaches `snmp_sess_open` is like.  `snmpHostInit_secured`
  says that every such session is secured as configured, and that a pair of settings that
  is only half there was reported.
* `snmpHostInit_wiped` says that on every way through the function each copy of a
  passphrase is cleared and then freed, once, and that a run which returns holds nothing.
-/

namespace Spine

open Base.CString Base.Ledger

/-! ## Model -/

/-- `snmp_connection_t`. -/
structure SnmpConnection where
  hostId : Int
  hostname : Text
  snmp : SnmpProfile

/-- `SNMP_SEC_LEVEL_NOAUTH` and the two above it. -/
inductive SecurityLevel
  | noAuth
  | authNoPriv
  | authPriv
  deriving DecidableEq, Repr

/-- `spine_snmpv3_protocol_is_set`.  Cacti stores `[None]` for no protocol. -/
def spineSnmpv3ProtocolIsSet (value : Text) : Bool := value ≠ [] && value ≠ lit "[None]"

/-- `spine_snmpv3_passphrase_is_set`. -/
def spineSnmpv3PassphraseIsSet (value : Text) : Bool := value ≠ []

/-- The first half of `spine_snmpv3_security_level`. -/
def SnmpProfile.authenticates (p : SnmpProfile) : Bool :=
  spineSnmpv3ProtocolIsSet p.authProtocol && spineSnmpv3PassphraseIsSet p.password

/-- Both privacy settings are there. -/
def SnmpProfile.namesPrivacy (p : SnmpProfile) : Bool :=
  spineSnmpv3ProtocolIsSet p.privProtocol && spineSnmpv3PassphraseIsSet p.privPassphrase

/-- `spine_snmpv3_security_level`. -/
def spineSnmpv3SecurityLevel (p : SnmpProfile) : SecurityLevel :=
  if p.authenticates && p.namesPrivacy then .authPriv
  else if p.authenticates then .authNoPriv
  else .noAuth

/-- What the process logs about a session, apart from its informational lines. -/
inductive SessionLine
  | timeout
  | version
  | authProtocolEmpty
  | privProtocolEmpty
  | privacyAlone
  | incompleteAuth
  | incompletePriv
  | authInvalid
  | authInstall
  | noPrivInstall
  | privInvalid
  | privInstall
  | authKey
  | privKey
  | problem
  deriving DecidableEq, Repr

/-- What a run takes from the heap. -/
inductive SnmpBlock
  | authCopy
  | privCopy
  | authProto
  | privProto
  | localname
  deriving DecidableEq, Repr

/-- What holds a passphrase or a key: the two copies, and the two arrays of the session. -/
inductive SnmpSecret
  | authCopy
  | privCopy
  | authKey
  | privKey
  deriving DecidableEq, Repr

/-- What a run holds. -/
inductive SnmpHeld
  | block (block : SnmpBlock)
  | secret (secret : SnmpSecret)
  deriving DecidableEq, Repr

/-- The calls that take memory. -/
inductive SnmpAlloc
  | localname
  | authCopy
  | privCopy
  | authProto
  | noPrivProto
  | privProto
  | defaultAuth
  | fallbackAuth
  | defaultPriv
  | fallbackPriv
  deriving DecidableEq, Repr

/-- `SNMP_VERSION_1` and its followers, with the security model of each. -/
inductive SnmpVersion
  | v1
  | v2c
  | v3
  deriving DecidableEq, Repr

/-- The fields of `struct snmp_session` that Spine fills in. -/
structure SnmpSession where
  version : SnmpVersion
  peername : Text
  retries : Int
  timeout : Int
  community : Option Text
  securityName : Option Text
  contextName : Option Text
  contextEngineId : Option Text
  securityLevel : Option SecurityLevel
  authProto : Option Oid
  authKey : Text
  privProto : Option Oid
  privKey : Text
  localname : Option Text

/-- What Net-SNMP answers, and which allocations succeed. -/
structure SnmpLibrary where
  usmLookupAuthType : Text → Int
  usmLookupPrivType : Text → Int
  scGetAuthOid : Int → Option Oid
  scGetPrivOid : Int → Option Oid
  generateKu : Oid → Text → Option Text
  defaultAuth : Option Oid
  defaultPriv : Option Oid
  fallbackAuth : Oid
  fallbackPriv : Oid
  usmNoPrivProtocol : Oid
  memory : SnmpAlloc → Bool
  sessOpen : SnmpSession → Bool

/-- The options that a session depends on.  `localname` is `SNMP_LOCALNAME` of the build. -/
structure SessionEnv where
  clientaddr : Text
  retries : Int
  localname : Bool
  logLevel : Int
  logsDevice : Bool

def POLLER_VERBOSITY_LOW : Int := 2

/-- The state of a run. -/
structure SessionRun where
  session : SnmpSession
  held : List (Event SnmpHeld)
  lines : List SessionLine

namespace SessionRun

variable (run : SessionRun)

def note (event : Event SnmpHeld) : SessionRun := { run with held := run.held ++ [event] }

def say (line : SessionLine) : SessionRun := { run with lines := run.lines ++ [line] }

/-- `SPINE_LOG_LOW`. -/
def sayLow (env : SessionEnv) (line : SessionLine) : SessionRun :=
  if POLLER_VERBOSITY_LOW ≤ env.logLevel then run.say line else run

/-- `strdup` of a passphrase. -/
def copy (block : SnmpBlock) (secret : SnmpSecret) : SessionRun :=
  (run.note (.acquire (.block block))).note (.acquire (.secret secret))

/-- `spine_clear_sensitive` over a copy, and `free`. -/
def wipe (block : SnmpBlock) (secret : SnmpSecret) : SessionRun :=
  (run.note (.release (.secret secret))).note (.release (.block block))

/-- `snmp_duplicate_objid` into `securityAuthProto`. -/
def setAuthProto (proto : Oid) : SessionRun :=
  { run.note (.acquire (.block .authProto)) with
    session := { run.session with authProto := some proto } }

def setPrivProto (proto : Oid) : SessionRun :=
  { run.note (.acquire (.block .privProto)) with
    session := { run.session with privProto := some proto } }

def setLevel (level : SecurityLevel) : SessionRun :=
  { run with session := { run.session with securityLevel := some level } }

def setAuthKey (key : Text) : SessionRun :=
  { run with session := { run.session with authKey := key } }

def setPrivKey (key : Text) : SessionRun :=
  { run with session := { run.session with privKey := key } }

end SessionRun

/-- The defaults of `snmp_set_security_keys` for a session without a protocol. -/
def defaultAuthProto (lib : SnmpLibrary) (run : SessionRun) : SessionRun :=
  if run.session.authProto.isSome then run
  else match lib.defaultAuth.filter fun _ => lib.memory .defaultAuth with
    | some proto => run.setAuthProto proto
    | none => if lib.memory .fallbackAuth then run.setAuthProto lib.fallbackAuth else run

def defaultPrivProto (lib : SnmpLibrary) (run : SessionRun) : SessionRun :=
  if run.session.privProto.isSome then run
  else match lib.defaultPriv.filter fun _ => lib.memory .defaultPriv with
    | some proto => run.setPrivProto proto
    | none => if lib.memory .fallbackPriv then run.setPrivProto lib.fallbackPriv else run

/-- The second half of `snmp_set_security_keys`, after the authentication key. -/
def derivePrivKey (lib : SnmpLibrary) (conn : SnmpConnection) (run : SessionRun) :
    Bool × SessionRun :=
  let run := defaultPrivProto lib run
  match run.session.authProto.bind (lib.generateKu · conn.snmp.privPassphrase) with
  | none => (false, (run.say .privKey).wipe .privCopy .privCopy)
  | some key => (true, (run.setPrivKey key).wipe .privCopy .privCopy)

/-- `snmp_set_security_keys`.  There is no result if the process dies. -/
def snmpSetSecurityKeys (lib : SnmpLibrary) (conn : SnmpConnection) (run : SessionRun) :
    Option Bool × SessionRun :=
  if !lib.memory .authCopy then (none, run)
  else
    let run := run.copy .authCopy .authCopy
    if !lib.memory .privCopy then (none, run.wipe .authCopy .authCopy)
    else
      let run := defaultAuthProto lib (run.copy .privCopy .privCopy)
      match run.session.authProto.bind (lib.generateKu · conn.snmp.password) with
      | none =>
          (some false, ((run.say .authKey).wipe .authCopy .authCopy).wipe .privCopy .privCopy)
      | some key =>
        let run := (run.setAuthKey key).wipe .authCopy .authCopy
        if run.session.securityLevel = some .authNoPriv then
          (some true, run.wipe .privCopy .privCopy)
        else (derivePrivKey lib conn run).map some id

/-- `snmp_install_auth_protocol`. -/
def snmpInstallAuthProtocol (lib : SnmpLibrary) (conn : SnmpConnection) (run : SessionRun) :
    Bool × SessionRun :=
  let type := lib.usmLookupAuthType conn.snmp.authProtocol
  if type ≤ 0 then (false, run.say .authInvalid)
  else match (lib.scGetAuthOid type).filter fun _ => lib.memory .authProto with
    | none => (false, run.say .authInstall)
    | some proto => (true, run.setAuthProto proto)

/-- The refusals of `snmp_set_security_protocols`. -/
def securityRefusal (p : SnmpProfile) : Option SessionLine :=
  if spineSnmpv3PassphraseIsSet p.password && p.authProtocol = [] then some .authProtocolEmpty
  else if spineSnmpv3PassphraseIsSet p.privPassphrase && p.privProtocol = [] then
    some .privProtocolEmpty
  else if spineSnmpv3SecurityLevel p = .noAuth && p.namesPrivacy then some .privacyAlone
  else none

/-- A pair of settings with one half only. -/
def halfSet (protocol passphrase : Text) : Bool :=
  spineSnmpv3ProtocolIsSet protocol != spineSnmpv3PassphraseIsSet passphrase

/-- The two warnings about a level below what the settings name. -/
def warnIncomplete (env : SessionEnv) (p : SnmpProfile) (run : SessionRun) : SessionRun :=
  let run := if halfSet p.authProtocol p.password then run.sayLow env .incompleteAuth else run
  if halfSet p.privProtocol p.privPassphrase then run.sayLow env .incompletePriv else run

/-- The end of `snmp_set_security_protocols`, once authentication is installed. -/
def installPrivacy (lib : SnmpLibrary) (conn : SnmpConnection) (run : SessionRun) :
    Option Bool × SessionRun :=
  let level := spineSnmpv3SecurityLevel conn.snmp
  let run := run.setLevel level
  if level ≠ .authPriv then
    if !lib.memory .noPrivProto then (some false, run.say .noPrivInstall)
    else
      let run := run.setPrivProto lib.usmNoPrivProtocol
      if level = .authNoPriv then snmpSetSecurityKeys lib conn run else (some true, run)
  else
    let type := lib.usmLookupPrivType conn.snmp.privProtocol
    if type < 0 then (some false, run.say .privInvalid)
    else match (lib.scGetPrivOid type).filter fun _ => lib.memory .privProto with
      | none => (some false, run.say .privInstall)
      | some proto => snmpSetSecurityKeys lib conn (run.setPrivProto proto)

/-- `snmp_set_security_protocols`. -/
def snmpSetSecurityProtocols (env : SessionEnv) (lib : SnmpLibrary) (conn : SnmpConnection)
    (run : SessionRun) : Option Bool × SessionRun :=
  match securityRefusal conn.snmp with
  | some line => (some false, run.say line)
  | none =>
    let run := warnIncomplete env conn.snmp run
    if spineSnmpv3ProtocolIsSet conn.snmp.authProtocol then
      let (installed, run) := snmpInstallAuthProtocol lib conn run
      if installed then installPrivacy lib conn run else (some false, run)
    else installPrivacy lib conn run

/-- `snmp_host_init_release`, where the copies are `NULL`. -/
def snmpHostInitRelease (run : SessionRun) : SessionRun :=
  let run := if run.session.localname.isSome then run.note (.release (.block .localname)) else run
  let run := if run.session.authProto.isSome then run.note (.release (.block .authProto)) else run
  let run := if run.session.privProto.isSome then run.note (.release (.block .privProto)) else run
  (run.note (.release (.secret .authKey))).note (.release (.secret .privKey))

/-- How `snmp_host_init` ends. -/
inductive SessionEnd
  | opened
  | refused
  | died
  deriving DecidableEq, Repr

/-- A call of `snmp_host_init`: its end, its ledger and its lines, and the session that it
handed to `snmp_sess_open`, if it came that far. -/
structure SessionCall where
  ends : SessionEnd
  held : List (Event SnmpHeld)
  lines : List SessionLine
  handed : Option SnmpSession

def SessionRun.finish (run : SessionRun) (ends : SessionEnd) (handed : Option SnmpSession) :
    SessionCall :=
  ⟨ends, run.held, run.lines, handed⟩

/-- Whether `localname` is set to a copy of `snmp_clientaddr`. -/
def bindsAddress (env : SessionEnv) (lib : SnmpLibrary) : Bool :=
  env.localname && 0 < env.clientaddr.length && env.clientaddr.length ≤ SMALL_BUFSIZE &&
    lib.memory .localname

/-- `snmp_sess_init` and `localname`. -/
def startSession (env : SessionEnv) (lib : SnmpLibrary) (version : SnmpVersion) : SessionRun where
  session :=
    { version, peername := [], retries := 0, timeout := 0, community := none,
      securityName := none, contextName := none, contextEngineId := none,
      securityLevel := none, authProto := none, authKey := [], privProto := none, privKey := [],
      localname := if bindsAddress env lib then some env.clientaddr else none }
  held := [.acquire (.secret .authKey), .acquire (.secret .privKey)] ++
    if bindsAddress env lib then [.acquire (.block .localname)] else []
  lines := []

/-- The version of the settings. -/
def snmpVersion (version : Int) : Option SnmpVersion :=
  if version = 2 then some .v2c
  else if version = 1 then some .v1
  else if version = 3 then some .v3
  else none

/-- A text that is passed on if it is not empty. -/
def nonempty (text : Text) : Option Text := if text = [] then none else some text

/-- The fields that do not depend on the security of the session. -/
def addressSession (env : SessionEnv) (conn : SnmpConnection) (run : SessionRun) : SessionRun :=
  let addressed := { run.session with
    peername := snprintfS BUFSIZE (conn.hostname ++ lit ":" ++ decimalInt conn.snmp.port)
    retries := env.retries
    timeout := conn.snmp.timeout * 1000 }
  if run.session.version = .v3 then
    { run with session := { addressed with
        securityName := some conn.snmp.username
        contextName := nonempty conn.snmp.context
        contextEngineId := nonempty conn.snmp.engineId } }
  else { run with session := { addressed with community := some conn.snmp.community } }

/-- `snmp_sess_open` and what follows it. -/
def openAndRelease (env : SessionEnv) (lib : SnmpLibrary) (run : SessionRun) : SessionCall :=
  let opened := lib.sessOpen run.session
  let said := if !opened && env.logsDevice then run.say .problem else run
  (snmpHostInitRelease said).finish (if opened then .opened else .refused) (some run.session)

/-- `snmp_host_init`. -/
def snmpHostInit (env : SessionEnv) (lib : SnmpLibrary) (conn : SnmpConnection) : SessionCall :=
  if conn.snmp.timeout ≤ 0 then ⟨.refused, [], [.timeout], none⟩
  else match snmpVersion conn.snmp.version with
    | none => (snmpHostInitRelease ((startSession env lib .v1).say .version)).finish .refused none
    | some version =>
      let run := addressSession env conn (startSession env lib version)
      if version = .v3 then
        match snmpSetSecurityProtocols env lib conn run with
        | (none, run) => run.finish .died none
        | (some false, run) => (snmpHostInitRelease run).finish .refused none
        | (some true, run) => openAndRelease env lib run
      else openAndRelease env lib run

/-! ## What a run holds -/

/-- The blocks of a session. -/
def SnmpSession.blocks (session : SnmpSession) : List SnmpHeld :=
  (if session.localname.isSome then [.block .localname] else []) ++
    (if session.authProto.isSome then [.block .authProto] else []) ++
    (if session.privProto.isSome then [.block .privProto] else [])

/-- The arrays for the keys. -/
def keyArrays : List SnmpHeld := [.secret .authKey, .secret .privKey]

/-- The copies of the passphrases. -/
def copyPlaces : List SnmpHeld :=
  [.block .authCopy, .block .privCopy, .secret .authCopy, .secret .privCopy]

/-- What a session holds before its release, in the order in which it was taken. -/
def SnmpSession.places (session : SnmpSession) : List SnmpHeld := keyArrays ++ session.blocks

/-- The life of the copy of the authentication passphrase. -/
def authLife : List (Event SnmpHeld) :=
  [.acquire (.block .authCopy), .acquire (.secret .authCopy), .release (.secret .authCopy),
    .release (.block .authCopy)]

/-- The lives of both copies, which overlap. -/
def copyLives : List (Event SnmpHeld) :=
  [.acquire (.block .authCopy), .acquire (.secret .authCopy), .acquire (.block .privCopy),
    .acquire (.secret .privCopy), .release (.secret .authCopy), .release (.block .authCopy),
    .release (.secret .privCopy), .release (.block .privCopy)]

/-- A run holds the places of its session, and its copies are gone. -/
structure SessionRun.Holds (run : SessionRun) (copies : List (Event SnmpHeld)) : Prop where
  held : run.held = run.session.places.map .acquire ++ copies
  copies : copies = [] ∨ copies = authLife ∨ copies = copyLives

section Holding

variable {env : SessionEnv} {lib : SnmpLibrary} {conn : SnmpConnection} {run : SessionRun}

theorem SessionRun.Holds.say {copies : List (Event SnmpHeld)} (h : run.Holds copies)
    (line : SessionLine) : (run.say line).Holds copies :=
  ⟨h.held, h.copies⟩

theorem holds_startSession (version : SnmpVersion) : (startSession env lib version).Holds [] := by
  refine ⟨?_, Or.inl rfl⟩
  cases hbound : bindsAddress env lib with
  | true => simp [startSession, SnmpSession.places, SnmpSession.blocks, keyArrays, hbound]
  | false => simp [startSession, SnmpSession.places, SnmpSession.blocks, keyArrays, hbound]

theorem addressSession_places :
    (addressSession env conn run).session.places = run.session.places := by
  unfold addressSession
  split <;> rfl

theorem SessionRun.Holds.address (h : run.Holds []) : (addressSession env conn run).Holds [] := by
  refine ⟨?_, Or.inl rfl⟩
  rw [addressSession_places, ← h.held]
  unfold addressSession
  split <;> rfl

theorem SessionRun.Holds.setAuthProto (h : run.Holds []) (hauth : run.session.authProto = none)
    (hpriv : run.session.privProto = none) (proto : Oid) : (run.setAuthProto proto).Holds [] := by
  refine ⟨?_, Or.inl rfl⟩
  show run.held ++ [_] = _
  rw [h.held]
  simp [SnmpSession.places, SnmpSession.blocks, SessionRun.setAuthProto, hauth, hpriv]

theorem SessionRun.Holds.setPrivProto (h : run.Holds []) (hpriv : run.session.privProto = none)
    (proto : Oid) : (run.setPrivProto proto).Holds [] := by
  refine ⟨?_, Or.inl rfl⟩
  show run.held ++ [_] = _
  rw [h.held]
  simp [SnmpSession.places, SnmpSession.blocks, SessionRun.setPrivProto, hpriv]
  rfl

end Holding

/-! ## The keys -/

/-- What `snmp_set_security_keys` does to a run with both protocols in place.  The copies of
the passphrases are gone on every way out, and the keys of a session that goes on are
derived from the passphrases under the protocol of the session. -/
structure KeysSet (lib : SnmpLibrary) (conn : SnmpConnection) (run : SessionRun) (auth : Oid)
    (result : Option Bool) (run' : SessionRun) : Prop where
  held : run'.held = run.held ∨ run'.held = run.held ++ authLife ∨
    run'.held = run.held ++ copyLives
  places : run'.session.places = run.session.places
  done : result = some true →
    run'.lines = run.lines ∧
      ∃ key, lib.generateKu auth conn.snmp.password = some key ∧
        (run.session.securityLevel = some .authNoPriv →
          run'.session = { run.session with authKey := key }) ∧
        (run.session.securityLevel ≠ some .authNoPriv →
          ∃ priv, lib.generateKu auth conn.snmp.privPassphrase = some priv ∧
            run'.session = { run.session with authKey := key, privKey := priv })

section Keys

variable {lib : SnmpLibrary} {conn : SnmpConnection} {run : SessionRun} {auth : Oid}

theorem defaultAuthProto_of_isSome (h : run.session.authProto.isSome) :
    defaultAuthProto lib run = run := if_pos h

theorem defaultPrivProto_of_isSome (h : run.session.privProto.isSome) :
    defaultPrivProto lib run = run := if_pos h

variable (lib conn) in
theorem derivePrivKey_held (hpriv : run.session.privProto.isSome) :
    (derivePrivKey lib conn run).2.held = (run.wipe .privCopy .privCopy).held ∧
      (derivePrivKey lib conn run).2.session.places = run.session.places := by
  unfold derivePrivKey
  rw [defaultPrivProto_of_isSome hpriv]
  dsimp only
  split
  · exact ⟨rfl, rfl⟩
  · exact ⟨rfl, rfl⟩

variable (lib conn) in
theorem derivePrivKey_done (hauth : run.session.authProto = some auth)
    (hpriv : run.session.privProto.isSome) (hdone : (derivePrivKey lib conn run).1 = true) :
    (derivePrivKey lib conn run).2.lines = run.lines ∧
      ∃ priv, lib.generateKu auth conn.snmp.privPassphrase = some priv ∧
        (derivePrivKey lib conn run).2.session = { run.session with privKey := priv } := by
  have hbind : (run.session.authProto.bind (lib.generateKu · conn.snmp.privPassphrase)) =
      lib.generateKu auth conn.snmp.privPassphrase := by rw [hauth]; rfl
  unfold derivePrivKey at hdone ⊢
  rw [defaultPrivProto_of_isSome hpriv] at hdone ⊢
  dsimp only at hdone ⊢
  rw [hbind] at hdone ⊢
  cases hkey : lib.generateKu auth conn.snmp.privPassphrase with
  | none =>
    rw [hkey] at hdone
    cases hdone
  | some key => exact ⟨rfl, key, rfl, rfl⟩

variable (lib conn) in
theorem keysSet (hauth : run.session.authProto = some auth)
    (hpriv : run.session.privProto.isSome) :
    KeysSet lib conn run auth (snmpSetSecurityKeys lib conn run).1
      (snmpSetSecurityKeys lib conn run).2 := by
  set both := (run.copy .authCopy .authCopy).copy .privCopy .privCopy with hboth
  have hauth' : both.session.authProto = some auth := hauth
  unfold snmpSetSecurityKeys
  cases hmem : lib.memory .authCopy with
  | false => exact ⟨Or.inl rfl, rfl, fun h => by cases h⟩
  | true =>
    cases hmem' : lib.memory .privCopy with
    | false =>
      refine ⟨Or.inr (Or.inl ?_), rfl, fun h => by cases h⟩
      simp [SessionRun.copy, SessionRun.wipe, SessionRun.note, authLife]
    | true =>
      simp only [Bool.not_true, Bool.false_eq_true, if_false]
      rw [← hboth, defaultAuthProto_of_isSome (by rw [hauth']; rfl), hauth', Option.bind_some]
      cases hkey : lib.generateKu auth conn.snmp.password with
      | none =>
        refine ⟨Or.inr (Or.inr ?_), rfl, fun h => by cases h⟩
        simp [hboth, SessionRun.copy, SessionRun.wipe, SessionRun.note, SessionRun.say, copyLives]
      | some key =>
        simp only
        split
        · rename_i hlevel
          refine ⟨Or.inr (Or.inr ?_), rfl, fun _ => ⟨rfl, key, hkey, fun _ => rfl, fun h => ?_⟩⟩
          · simp [hboth, SessionRun.copy, SessionRun.wipe, SessionRun.note, copyLives,
              SessionRun.setAuthKey]
          · exact absurd hlevel h
        · rename_i hlevel
          set keyed := (both.setAuthKey key).wipe .authCopy .authCopy with hkeyed
          have hpriv' : keyed.session.privProto.isSome := hpriv
          have hauth'' : keyed.session.authProto = some auth := hauth
          obtain ⟨hheld, hplaces⟩ := derivePrivKey_held lib conn hpriv'
          refine ⟨Or.inr (Or.inr (hheld.trans ?_)), hplaces, fun hdone => ?_⟩
          · simp [hkeyed, hboth, SessionRun.copy, SessionRun.wipe, SessionRun.note, copyLives,
              SessionRun.setAuthKey]
          · obtain ⟨hlines, priv, hkey', hsession⟩ :=
              derivePrivKey_done lib conn hauth'' hpriv' (Option.some.inj hdone)
            exact ⟨hlines, key, hkey, fun h => absurd h hlevel, fun _ => ⟨priv, hkey', hsession⟩⟩

end Keys

/-! ## The protocols -/

/-- A session that reaches `snmp_sess_open` under SNMPv3.  Its level is the one of the
settings, its protocols are those that Net-SNMP gives for the settings, never a default, and
its keys are derived from the passphrases under them.  A named authentication protocol is
installed even when its passphrase is missing.  A half set pair was reported. -/
structure Secured (env : SessionEnv) (lib : SnmpLibrary) (conn : SnmpConnection)
    (session : SnmpSession) (lines : List SessionLine) : Prop where
  level : session.securityLevel = some (spineSnmpv3SecurityLevel conn.snmp)
  named : spineSnmpv3ProtocolIsSet conn.snmp.authProtocol = true →
    ∃ auth, 0 < lib.usmLookupAuthType conn.snmp.authProtocol ∧
      lib.scGetAuthOid (lib.usmLookupAuthType conn.snmp.authProtocol) = some auth ∧
      session.authProto = some auth
  unnamed : spineSnmpv3ProtocolIsSet conn.snmp.authProtocol = false → session.authProto = none
  authenticated : conn.snmp.authenticates = true →
    ∃ auth, session.authProto = some auth ∧
      lib.generateKu auth conn.snmp.password = some session.authKey
  unauthenticated : conn.snmp.authenticates = false → session.authKey = []
  encrypted : conn.snmp.namesPrivacy = true →
    conn.snmp.authenticates = true ∧
    ∃ auth priv, session.authProto = some auth ∧
      0 ≤ lib.usmLookupPrivType conn.snmp.privProtocol ∧
      lib.scGetPrivOid (lib.usmLookupPrivType conn.snmp.privProtocol) = some priv ∧
      session.privProto = some priv ∧
      lib.generateKu auth conn.snmp.privPassphrase = some session.privKey
  unencrypted : conn.snmp.namesPrivacy = false →
    session.privProto = some lib.usmNoPrivProtocol ∧ session.privKey = []
  reported : POLLER_VERBOSITY_LOW ≤ env.logLevel →
    (halfSet conn.snmp.authProtocol conn.snmp.password = true → .incompleteAuth ∈ lines) ∧
    (halfSet conn.snmp.privProtocol conn.snmp.privPassphrase = true → .incompletePriv ∈ lines)

section Protocols

variable {env : SessionEnv} {lib : SnmpLibrary} {conn : SnmpConnection} {run : SessionRun}

theorem securityRefusal_eq_none {p : SnmpProfile} (h : securityRefusal p = none) :
    p.namesPrivacy = true → p.authenticates = true := by
  intro hpriv
  by_contra hauth
  rw [Bool.not_eq_true] at hauth
  have hlevel : spineSnmpv3SecurityLevel p = .noAuth := by
    simp [spineSnmpv3SecurityLevel, hauth]
  unfold securityRefusal at h
  split at h
  · cases h
  · split at h
    · cases h
    · simp [hlevel, hpriv] at h

theorem warnIncomplete_run (env : SessionEnv) (p : SnmpProfile) (run : SessionRun) :
    (warnIncomplete env p run).session = run.session ∧
      (warnIncomplete env p run).held = run.held := by
  unfold warnIncomplete SessionRun.sayLow
  split_ifs <;> exact ⟨rfl, rfl⟩

theorem warnIncomplete_lines (p : SnmpProfile) (hlow : POLLER_VERBOSITY_LOW ≤ env.logLevel) :
    (halfSet p.authProtocol p.password = true →
        .incompleteAuth ∈ (warnIncomplete env p run).lines) ∧
      (halfSet p.privProtocol p.privPassphrase = true →
        .incompletePriv ∈ (warnIncomplete env p run).lines) := by
  unfold warnIncomplete SessionRun.sayLow
  simp only [if_pos hlow]
  constructor
  · intro hauth
    rw [if_pos hauth]
    split_ifs <;> simp [SessionRun.say]
  · intro hpriv
    rw [if_pos hpriv]
    simp [SessionRun.say]

/-- `snmp_install_auth_protocol` changes nothing but the protocol. -/
theorem installAuth_done (hdone : (snmpInstallAuthProtocol lib conn run).1 = true) :
    ∃ auth, 0 < lib.usmLookupAuthType conn.snmp.authProtocol ∧
      lib.scGetAuthOid (lib.usmLookupAuthType conn.snmp.authProtocol) = some auth ∧
      (snmpInstallAuthProtocol lib conn run).2 = run.setAuthProto auth := by
  unfold snmpInstallAuthProtocol at hdone ⊢
  dsimp only at hdone ⊢
  split at hdone
  · cases hdone
  · rename_i htype
    split at hdone
    · cases hdone
    · rename_i auth hauth
      obtain ⟨hoid, _⟩ := Option.filter_eq_some_iff.1 hauth
      exact ⟨auth, by omega, hoid, by rw [if_neg htype]⟩

theorem installAuth_failed (hdone : (snmpInstallAuthProtocol lib conn run).1 = false) :
    (snmpInstallAuthProtocol lib conn run).2.session = run.session ∧
      (snmpInstallAuthProtocol lib conn run).2.held = run.held := by
  unfold snmpInstallAuthProtocol at hdone ⊢
  dsimp only at hdone ⊢
  split
  · exact ⟨rfl, rfl⟩
  · rename_i htype
    rw [if_neg htype] at hdone
    split
    · exact ⟨rfl, rfl⟩
    · rename_i auth hauth
      rw [hauth] at hdone
      cases hdone

theorem not_authenticates {p : SnmpProfile}
    (h : spineSnmpv3ProtocolIsSet p.authProtocol = false) : p.authenticates = false := by
  rw [SnmpProfile.authenticates, h, Bool.false_and]

theorem level_ne_noAuth {p : SnmpProfile} (h : spineSnmpv3SecurityLevel p ≠ .noAuth) :
    p.authenticates = true := by
  by_contra hauth
  rw [Bool.not_eq_true] at hauth
  exact h (by simp [spineSnmpv3SecurityLevel, hauth])

theorem level_eq_authPriv {p : SnmpProfile} :
    spineSnmpv3SecurityLevel p = .authPriv ↔ p.authenticates = true ∧ p.namesPrivacy = true := by
  unfold spineSnmpv3SecurityLevel
  cases p.authenticates <;> cases p.namesPrivacy <;> simp

theorem SessionRun.Holds.of_keysSet {auth : Oid} {result : Option Bool} {run' : SessionRun}
    (h : run.Holds []) (hkeys : KeysSet lib conn run auth result run') :
    ∃ copies, run'.Holds copies := by
  have hheld : run.held = run'.session.places.map .acquire := by
    rw [h.held, List.append_nil, hkeys.places]
  rcases hkeys.held with he | he | he
  · exact ⟨[], by rw [he, hheld, List.append_nil], Or.inl rfl⟩
  · exact ⟨authLife, by rw [he, hheld], Or.inr (Or.inl rfl)⟩
  · exact ⟨copyLives, by rw [he, hheld], Or.inr (Or.inr rfl)⟩

/-- Every way out of the end of `snmp_set_security_protocols` leaves the copies gone. -/
theorem installPrivacy_holds (h : run.Holds []) (hpriv : run.session.privProto = none)
    (hauth : conn.snmp.authenticates = true → run.session.authProto.isSome) :
    ∃ copies, (installPrivacy lib conn run).2.Holds copies := by
  unfold installPrivacy
  dsimp only
  generalize hlevel : spineSnmpv3SecurityLevel conn.snmp = level
  have hset : (run.setLevel level).Holds [] := ⟨h.held, h.copies⟩
  split
  · split
    · exact ⟨[], hset.say _⟩
    · have hproto := hset.setPrivProto hpriv lib.usmNoPrivProtocol
      split
      · rename_i hno
        obtain ⟨auth, ha⟩ := Option.isSome_iff_exists.1
          (hauth (level_ne_noAuth (by rw [hlevel, hno]; decide)))
        have ha' : ((run.setLevel level).setPrivProto lib.usmNoPrivProtocol).session.authProto =
            some auth := ha
        exact hproto.of_keysSet (keysSet lib conn ha' rfl)
      · exact ⟨[], hproto⟩
  · rename_i hfull
    obtain ⟨auth, ha⟩ := Option.isSome_iff_exists.1
      (hauth (level_ne_noAuth (by rw [hlevel, not_not.1 hfull]; decide)))
    split
    · exact ⟨[], hset.say _⟩
    · split
      · exact ⟨[], hset.say _⟩
      · rename_i proto _
        have ha' : ((run.setLevel level).setPrivProto proto).session.authProto = some auth := ha
        exact (hset.setPrivProto hpriv proto).of_keysSet (keysSet lib conn ha' rfl)

/-- What the end of `snmp_set_security_protocols` leaves of a session that goes on. -/
structure PrivacyInstalled (lib : SnmpLibrary) (conn : SnmpConnection) (run run' : SessionRun) :
    Prop where
  lines : run'.lines = run.lines
  level : run'.session.securityLevel = some (spineSnmpv3SecurityLevel conn.snmp)
  authProto : run'.session.authProto = run.session.authProto
  authKey : ∀ auth, conn.snmp.authenticates = true → run.session.authProto = some auth →
    lib.generateKu auth conn.snmp.password = some run'.session.authKey
  unauthenticated : conn.snmp.authenticates = false →
    run'.session.authKey = run.session.authKey
  encrypted : ∀ auth, spineSnmpv3SecurityLevel conn.snmp = .authPriv →
    run.session.authProto = some auth →
    ∃ priv, 0 ≤ lib.usmLookupPrivType conn.snmp.privProtocol ∧
      lib.scGetPrivOid (lib.usmLookupPrivType conn.snmp.privProtocol) = some priv ∧
      run'.session.privProto = some priv ∧
      lib.generateKu auth conn.snmp.privPassphrase = some run'.session.privKey
  unencrypted : spineSnmpv3SecurityLevel conn.snmp ≠ .authPriv →
    run'.session.privProto = some lib.usmNoPrivProtocol ∧
      run'.session.privKey = run.session.privKey

theorem installPrivacy_done
    (hauth : conn.snmp.authenticates = true → run.session.authProto.isSome)
    (hdone : (installPrivacy lib conn run).1 = some true) :
    PrivacyInstalled lib conn run (installPrivacy lib conn run).2 := by
  unfold installPrivacy at hdone ⊢
  dsimp only at hdone ⊢
  by_cases hfull : spineSnmpv3SecurityLevel conn.snmp = .authPriv
  · -- Encryption: the protocol is looked up and both keys are derived.
    have hyes := level_ne_noAuth (by rw [hfull]; decide)
    obtain ⟨auth, ha⟩ := Option.isSome_iff_exists.1 (hauth hyes)
    rw [if_neg (not_not.2 hfull)] at hdone ⊢
    split at hdone
    · cases hdone
    · rename_i htype
      rw [if_neg htype]
      split at hdone
      · cases hdone
      · rename_i priv hpriv
        obtain ⟨hoid, _⟩ := Option.filter_eq_some_iff.1 hpriv
        have ha' : ((run.setLevel (spineSnmpv3SecurityLevel conn.snmp)).setPrivProto
            priv).session.authProto = some auth := ha
        obtain ⟨hlines, key, hkey, _, hboth⟩ := (keysSet lib conn ha' rfl).done hdone
        obtain ⟨privKey, hpk, hsession⟩ := hboth (by
          show some (spineSnmpv3SecurityLevel conn.snmp) ≠ _
          rw [hfull]
          decide)
        have hsame : ∀ auth', run.session.authProto = some auth' → auth' = auth :=
          fun auth' ha' => Option.some.inj (ha'.symm.trans ha)
        refine ⟨hlines, by rw [hsession]; rfl, by rw [hsession]; rfl, ?_, ?_, ?_,
          fun h => absurd hfull h⟩
        · intro auth' _ ha'
          rw [hsame auth' ha', hsession]
          exact hkey
        · intro hno
          cases hyes.symm.trans hno
        · intro auth' _ ha'
          rw [hsame auth' ha', hsession]
          exact ⟨priv, by omega, hoid, rfl, hpk⟩
  · rw [if_pos hfull] at hdone ⊢
    split at hdone
    · cases hdone
    · rename_i hmem
      rw [if_neg hmem]
      split at hdone
      · -- Authentication alone: only its key is derived.
        rename_i hno
        rw [if_pos hno]
        have hyes := level_ne_noAuth (by rw [hno]; decide)
        obtain ⟨auth, ha⟩ := Option.isSome_iff_exists.1 (hauth hyes)
        have ha' : ((run.setLevel (spineSnmpv3SecurityLevel conn.snmp)).setPrivProto
            lib.usmNoPrivProtocol).session.authProto = some auth := ha
        obtain ⟨hlines, key, hkey, hone, _⟩ := (keysSet lib conn ha' rfl).done hdone
        have hsession := hone (congrArg some hno)
        refine ⟨hlines, by rw [hsession]; rfl, by rw [hsession]; rfl, ?_, ?_,
          fun _ h => absurd h hfull, ?_⟩
        · intro auth' _ ha'
          rw [Option.some.inj (ha'.symm.trans ha), hsession]
          exact hkey
        · intro hnot
          cases hyes.symm.trans hnot
        · intro _
          rw [hsession]
          exact ⟨rfl, rfl⟩
      · rename_i hno
        rw [if_neg hno]
        refine ⟨rfl, rfl, rfl, ?_, fun _ => rfl, fun _ h => absurd h hfull, fun _ => ⟨rfl, rfl⟩⟩
        intro _ hyes
        have hlevel : spineSnmpv3SecurityLevel conn.snmp = .authNoPriv := by
          have hnone : conn.snmp.namesPrivacy = false := by
            by_contra hp
            exact hfull (level_eq_authPriv.2 ⟨hyes, Bool.not_eq_false _ ▸ hp⟩)
          simp [spineSnmpv3SecurityLevel, hyes, hnone]
        exact absurd hlevel hno

/-- The ways through `snmp_set_security_protocols`: a refusal, or the warnings followed by
the end of the function, without or with a protocol for authentication. -/
theorem setProtocols_cases (env : SessionEnv) (lib : SnmpLibrary) (conn : SnmpConnection)
    (run : SessionRun) :
    (∃ run', snmpSetSecurityProtocols env lib conn run = (some false, run') ∧
      run'.session = run.session ∧ run'.held = run.held) ∨
    (securityRefusal conn.snmp = none ∧
      spineSnmpv3ProtocolIsSet conn.snmp.authProtocol = false ∧
      snmpSetSecurityProtocols env lib conn run =
        installPrivacy lib conn (warnIncomplete env conn.snmp run)) ∨
    (securityRefusal conn.snmp = none ∧
      spineSnmpv3ProtocolIsSet conn.snmp.authProtocol = true ∧
      ∃ auth, 0 < lib.usmLookupAuthType conn.snmp.authProtocol ∧
        lib.scGetAuthOid (lib.usmLookupAuthType conn.snmp.authProtocol) = some auth ∧
        snmpSetSecurityProtocols env lib conn run =
          installPrivacy lib conn ((warnIncomplete env conn.snmp run).setAuthProto auth)) := by
  unfold snmpSetSecurityProtocols
  cases hrefusal : securityRefusal conn.snmp with
  | some line => exact Or.inl ⟨run.say line, rfl, rfl, rfl⟩
  | none =>
    dsimp only
    cases hset : spineSnmpv3ProtocolIsSet conn.snmp.authProtocol with
    | false => exact Or.inr (Or.inl ⟨rfl, rfl, if_neg Bool.false_ne_true⟩)
    | true =>
      rw [if_pos rfl]
      cases hdone : (snmpInstallAuthProtocol lib conn (warnIncomplete env conn.snmp run)).1 with
      | false =>
        obtain ⟨hsession, hheld⟩ := installAuth_failed hdone
        obtain ⟨hsession', hheld'⟩ := warnIncomplete_run env conn.snmp run
        exact Or.inl ⟨_, if_neg Bool.false_ne_true, hsession.trans hsession', hheld.trans hheld'⟩
      | true =>
        obtain ⟨auth, htype, hoid, hrun⟩ := installAuth_done hdone
        refine Or.inr (Or.inr ⟨rfl, rfl, auth, htype, hoid, ?_⟩)
        rw [if_pos rfl, hrun]

/-- Every way out of `snmp_set_security_protocols` leaves the copies gone. -/
theorem setProtocols_holds (h : run.Holds []) (hauth : run.session.authProto = none)
    (hpriv : run.session.privProto = none) :
    ∃ copies, (snmpSetSecurityProtocols env lib conn run).2.Holds copies := by
  obtain ⟨hsession, hheld⟩ := warnIncomplete_run env conn.snmp run
  have hw : (warnIncomplete env conn.snmp run).Holds [] :=
    ⟨by rw [hheld, hsession]; exact h.held, Or.inl rfl⟩
  have hnone : (warnIncomplete env conn.snmp run).session.privProto = none := by
    rw [hsession]
    exact hpriv
  rcases setProtocols_cases env lib conn run with ⟨run', heq, hs, hh⟩ | ⟨_, hset, heq⟩ |
    ⟨_, _, auth, _, _, heq⟩
  · rw [heq]
    exact ⟨[], by rw [hs, hh]; exact h.held, Or.inl rfl⟩
  · rw [heq]
    refine installPrivacy_holds hw hnone fun hyes => ?_
    rw [not_authenticates hset] at hyes
    cases hyes
  · rw [heq]
    have hset := hw.setAuthProto (by rw [hsession]; exact hauth) hnone auth
    exact installPrivacy_holds hset hnone fun _ => rfl

/-- A session that passes `snmp_set_security_protocols` is secured as configured. -/
theorem setProtocols_secured (hauth : run.session.authProto = none)
    (hauthKey : run.session.authKey = []) (hkey : run.session.privKey = [])
    (hdone : (snmpSetSecurityProtocols env lib conn run).1 = some true) :
    Secured env lib conn (snmpSetSecurityProtocols env lib conn run).2.session
      (snmpSetSecurityProtocols env lib conn run).2.lines := by
  obtain ⟨hsession, _⟩ := warnIncomplete_run env conn.snmp run
  rcases setProtocols_cases env lib conn run with ⟨run', heq, _⟩ | ⟨hrefusal, hset, heq⟩ |
    ⟨hrefusal, hset, auth, htype, hoid, heq⟩
  · rw [heq] at hdone
    cases hdone
  · rw [heq] at hdone ⊢
    have hno := not_authenticates hset
    have hinst := installPrivacy_done (fun hyes => by rw [hno] at hyes; cases hyes) hdone
    have hnot : conn.snmp.namesPrivacy = false := by
      by_contra hp
      have := securityRefusal_eq_none hrefusal (Bool.not_eq_false _ ▸ hp)
      rw [hno] at this
      cases this
    have hlevel : spineSnmpv3SecurityLevel conn.snmp ≠ .authPriv := fun h => by
      rw [(level_eq_authPriv.1 h).1] at hno
      cases hno
    obtain ⟨hproto, hpk⟩ := hinst.unencrypted hlevel
    refine ⟨hinst.level, fun hyes => ?_, fun _ => ?_, fun hyes => ?_, fun _ => ?_, fun hp => ?_,
      fun _ => ⟨hproto, ?_⟩, fun hlow => ?_⟩
    · cases hset.symm.trans hyes
    · rw [hinst.authProto, hsession, hauth]
    · cases hno.symm.trans hyes
    · rw [hinst.unauthenticated hno, hsession, hauthKey]
    · rw [hnot] at hp
      cases hp
    · rw [hpk, hsession, hkey]
    · rw [hinst.lines]
      exact warnIncomplete_lines conn.snmp hlow
  · rw [heq] at hdone ⊢
    have hinst := installPrivacy_done (fun _ => rfl) hdone
    refine ⟨hinst.level, fun _ => ⟨auth, htype, hoid, hinst.authProto⟩, fun hnot => ?_,
      fun hyes => ⟨auth, hinst.authProto, hinst.authKey auth hyes rfl⟩, fun hno => ?_,
      fun hp => ?_, fun hp => ?_, fun hlow => ?_⟩
    · cases hset.symm.trans hnot
    · refine (hinst.unauthenticated hno).trans ?_
      show (warnIncomplete env conn.snmp run).session.authKey = []
      rw [hsession, hauthKey]
    · have hyes := securityRefusal_eq_none hrefusal hp
      obtain ⟨priv, hpt, hpo, hproto, hpk⟩ :=
        hinst.encrypted auth (level_eq_authPriv.2 ⟨hyes, hp⟩) rfl
      exact ⟨hyes, auth, priv, hinst.authProto, hpt, hpo, hproto, hpk⟩
    · have hlevel : spineSnmpv3SecurityLevel conn.snmp ≠ .authPriv := fun h => by
        rw [(level_eq_authPriv.1 h).2] at hp
        cases hp
      obtain ⟨hproto, hpk⟩ := hinst.unencrypted hlevel
      refine ⟨hproto, hpk.trans ?_⟩
      show (warnIncomplete env conn.snmp run).session.privKey = []
      rw [hsession, hkey]
    · rw [hinst.lines]
      exact warnIncomplete_lines conn.snmp hlow

end Protocols

/-! ## The call -/

section Call

variable {env : SessionEnv} {lib : SnmpLibrary} {conn : SnmpConnection} {run : SessionRun}

theorem Secured.mono {session : SnmpSession} {lines lines' : List SessionLine}
    (h : Secured env lib conn session lines) (hsub : lines ⊆ lines') :
    Secured env lib conn session lines' :=
  ⟨h.level, h.named, h.unnamed, h.authenticated, h.unauthenticated, h.encrypted, h.unencrypted,
    fun hlow => ⟨fun ha => hsub ((h.reported hlow).1 ha), fun hp => hsub ((h.reported hlow).2 hp)⟩⟩

theorem nodup_places (session : SnmpSession) : session.places.Nodup := by
  unfold SnmpSession.places SnmpSession.blocks
  split_ifs <;> decide

theorem release_held (run : SessionRun) :
    (snmpHostInitRelease run).held =
        run.held ++ (run.session.blocks ++ keyArrays).map .release ∧
      (snmpHostInitRelease run).lines = run.lines := by
  unfold snmpHostInitRelease SnmpSession.blocks
  dsimp only
  split_ifs <;> simp_all [SessionRun.note, keyArrays]

/-- The copies are not among the places of a session. -/
theorem notMem_copyPlaces {session : SnmpSession} {place : SnmpHeld}
    (h : place ∈ session.places) : place ∉ copyPlaces := by
  have hall : place ∈ keyArrays ++ [.block .localname, .block .authProto, .block .privProto] := by
    revert h
    unfold SnmpSession.places SnmpSession.blocks
    split_ifs <;> simp [keyArrays] <;> tauto
  have hdec : ∀ p ∈ keyArrays ++ [.block .localname, .block .authProto, .block .privProto],
      p ∉ copyPlaces := by decide
  exact hdec place hall

/-- The entries of one copy: of its block and of what it holds. -/
def copyHistory (block : SnmpBlock) (secret : SnmpSecret) (held : List (Event SnmpHeld)) :
    List (Event SnmpHeld) :=
  held.filter fun e => e.resource = .block block || e.resource = .secret secret

/-- A copy that was never made, or was made, cleared and then freed. -/
def Wiped (block : SnmpBlock) (secret : SnmpSecret) (held : List (Event SnmpHeld)) : Prop :=
  copyHistory block secret held = [] ∨
    copyHistory block secret held =
      [.acquire (.block block), .acquire (.secret secret), .release (.secret secret),
        .release (.block block)]

/-- Both copies of the passphrases are gone. -/
def CopiesWiped (held : List (Event SnmpHeld)) : Prop :=
  Wiped .authCopy .authCopy held ∧ Wiped .privCopy .privCopy held

theorem copyHistory_of_notMem {block : SnmpBlock} {secret : SnmpSecret}
    {held : List (Event SnmpHeld)} (hb : SnmpHeld.block block ∈ copyPlaces)
    (hs : SnmpHeld.secret secret ∈ copyPlaces) (h : ∀ e ∈ held, e.resource ∉ copyPlaces) :
    copyHistory block secret held = [] := by
  refine List.filter_eq_nil_iff.2 fun e he => ?_
  simp only [Bool.or_eq_true, decide_eq_true_eq, not_or]
  exact ⟨fun heq => h e he (heq ▸ hb), fun heq => h e he (heq ▸ hs)⟩

/-- What happens around the lives of the copies does not matter to them. -/
theorem copiesWiped_around {pre copies post : List (Event SnmpHeld)}
    (hpre : ∀ e ∈ pre, e.resource ∉ copyPlaces) (hpost : ∀ e ∈ post, e.resource ∉ copyPlaces)
    (hcopies : copies = [] ∨ copies = authLife ∨ copies = copyLives) :
    CopiesWiped (pre ++ copies ++ post) := by
  have hmid : CopiesWiped copies := by
    rcases hcopies with rfl | rfl | rfl <;> unfold CopiesWiped Wiped <;> decide
  have hsame : ∀ block secret, SnmpHeld.block block ∈ copyPlaces →
      SnmpHeld.secret secret ∈ copyPlaces →
      copyHistory block secret (pre ++ copies ++ post) = copyHistory block secret copies := by
    intro block secret hb hs
    show List.filter _ (pre ++ copies ++ post) = _
    rw [List.filter_append, List.filter_append]
    show copyHistory block secret pre ++ copyHistory block secret copies ++
      copyHistory block secret post = _
    rw [copyHistory_of_notMem hb hs hpre, copyHistory_of_notMem hb hs hpost, List.nil_append,
      List.append_nil]
  unfold CopiesWiped Wiped
  rw [hsame _ _ (by decide) (by decide), hsame _ _ (by decide) (by decide)]
  exact hmid

theorem resource_mem_copyPlaces {copies : List (Event SnmpHeld)}
    (hcopies : copies = [] ∨ copies = authLife ∨ copies = copyLives) {e : Event SnmpHeld}
    (he : e ∈ copies) : e.resource ∈ copyPlaces := by
  have hdec : ∀ e ∈ authLife ++ copyLives, e.resource ∈ copyPlaces := by decide
  rcases hcopies with rfl | rfl | rfl
  · cases he
  · exact hdec e (List.mem_append_left _ he)
  · exact hdec e (List.mem_append_right _ he)

theorem balanced_copies {copies : List (Event SnmpHeld)}
    (hcopies : copies = [] ∨ copies = authLife ∨ copies = copyLives) : Balanced copies := by
  intro place
  by_cases hp : place ∈ copyPlaces
  · have hdec : ∀ p ∈ copyPlaces, ReleasedOnce p ([] : List (Event SnmpHeld)) ∧
        ReleasedOnce p authLife ∧ ReleasedOnce p copyLives := by
      unfold ReleasedOnce
      decide
    rcases hcopies with rfl | rfl | rfl
    · exact (hdec place hp).1
    · exact (hdec place hp).2.1
    · exact (hdec place hp).2.2
  · exact releasedOnce_of_nil (history_eq_nil fun e he heq =>
      hp (heq ▸ resource_mem_copyPlaces hcopies he))

theorem SessionRun.Holds.copiesWiped {copies : List (Event SnmpHeld)} (h : run.Holds copies) :
    CopiesWiped run.held := by
  have hpre : ∀ e ∈ run.session.places.map Event.acquire, e.resource ∉ copyPlaces := by
    intro e he
    obtain ⟨place, hplace, rfl⟩ := List.mem_map.1 he
    exact notMem_copyPlaces hplace
  have hpost : ∀ e ∈ ([] : List (Event SnmpHeld)), e.resource ∉ copyPlaces := by
    intro e he
    cases he
  have hwiped := copiesWiped_around hpre hpost h.copies
  rw [List.append_nil, ← h.held] at hwiped
  exact hwiped

/-- A run that releases its session holds nothing afterwards. -/
theorem SessionRun.Holds.release {copies : List (Event SnmpHeld)} (h : run.Holds copies) :
    CopiesWiped (snmpHostInitRelease run).held ∧ Balanced (snmpHostInitRelease run).held := by
  rw [(release_held run).1, h.held]
  have hperm : run.session.places.Perm (run.session.blocks ++ keyArrays) := List.perm_append_comm
  have hout : ∀ place ∈ run.session.places, history place copies = [] := by
    intro place hplace
    exact history_eq_nil fun e he heq =>
      notMem_copyPlaces hplace (heq ▸ resource_mem_copyPlaces h.copies he)
  refine ⟨copiesWiped_around ?_ ?_ h.copies, ?_⟩
  · intro e he
    obtain ⟨place, hplace, rfl⟩ := List.mem_map.1 he
    exact notMem_copyPlaces hplace
  · intro e he
    obtain ⟨place, hplace, rfl⟩ := List.mem_map.1 he
    exact notMem_copyPlaces (hperm.mem_iff.2 hplace)
  · exact balanced_around_of_perm (nodup_places _) hperm hout (balanced_copies h.copies)

theorem openAndRelease_held {copies : List (Event SnmpHeld)} (h : run.Holds copies) :
    CopiesWiped (openAndRelease env lib run).held ∧ Balanced (openAndRelease env lib run).held := by
  unfold openAndRelease
  dsimp only
  split
  · exact (h.say .problem).release
  · exact h.release

/-- The session before its security is set up. -/
theorem addressSession_start (env : SessionEnv) (lib : SnmpLibrary) (conn : SnmpConnection)
    (version : SnmpVersion) :
    (addressSession env conn (startSession env lib version)).Holds [] ∧
      (addressSession env conn (startSession env lib version)).session.authProto = none ∧
      (addressSession env conn (startSession env lib version)).session.privProto = none ∧
      (addressSession env conn (startSession env lib version)).session.authKey = [] ∧
      (addressSession env conn (startSession env lib version)).session.privKey = [] := by
  refine ⟨(holds_startSession version).address, ?_⟩
  unfold addressSession
  split
  · exact ⟨rfl, rfl, rfl, rfl⟩
  · exact ⟨rfl, rfl, rfl, rfl⟩

/-- On every way through `snmp_host_init`, whatever Net-SNMP and the heap answer, each copy of
a passphrase is cleared and then freed, once.  Unless the process dies, every block that the
call took is freed once and the arrays of the keys are cleared once. -/
theorem snmpHostInit_wiped (env : SessionEnv) (lib : SnmpLibrary) (conn : SnmpConnection) :
    CopiesWiped (snmpHostInit env lib conn).held ∧
      ((snmpHostInit env lib conn).ends ≠ .died → Balanced (snmpHostInit env lib conn).held) := by
  unfold snmpHostInit
  split
  · exact ⟨⟨Or.inl rfl, Or.inl rfl⟩, fun _ place => Or.inl rfl⟩
  · split
    · obtain ⟨hwiped, hbalanced⟩ := ((holds_startSession .v1).say .version).release
      exact ⟨hwiped, fun _ => hbalanced⟩
    · rename_i version _
      obtain ⟨hstart, hauth, hpriv, _⟩ := addressSession_start env lib conn version
      dsimp only
      split
      · obtain ⟨copies, hholds⟩ := setProtocols_holds hstart hauth hpriv
        split
        · rename_i run heq
          rw [heq] at hholds
          exact ⟨hholds.copiesWiped, fun h => absurd rfl h⟩
        · rename_i run heq
          rw [heq] at hholds
          exact ⟨hholds.release.1, fun _ => hholds.release.2⟩
        · rename_i run heq
          rw [heq] at hholds
          obtain ⟨hwiped, hbalanced⟩ := openAndRelease_held hholds
          exact ⟨hwiped, fun _ => hbalanced⟩
      · obtain ⟨hwiped, hbalanced⟩ := openAndRelease_held hstart
        exact ⟨hwiped, fun _ => hbalanced⟩

/-- Every SNMPv3 session that is handed to `snmp_sess_open` is secured as the device is
configured.  A complete pair of privacy settings is never dropped, a default protocol is
never used, and a pair that is half set is reported. -/
theorem snmpHostInit_secured {env : SessionEnv} {lib : SnmpLibrary} {conn : SnmpConnection}
    {session : SnmpSession} (hversion : conn.snmp.version = 3)
    (hhanded : (snmpHostInit env lib conn).handed = some session) :
    Secured env lib conn session (snmpHostInit env lib conn).lines := by
  have hv : snmpVersion conn.snmp.version = some .v3 := by rw [hversion]; rfl
  unfold snmpHostInit at hhanded ⊢
  rw [hv] at hhanded ⊢
  split at hhanded
  · cases hhanded
  · rename_i htimeout
    rw [if_neg htimeout]
    obtain ⟨_, hauth, _, hauthKey, hkey⟩ := addressSession_start env lib conn .v3
    dsimp only at hhanded ⊢
    rw [if_pos rfl] at hhanded ⊢
    split at hhanded
    · cases hhanded
    · cases hhanded
    · rename_i run heq
      have hsecured := setProtocols_secured hauth hauthKey hkey (congrArg Prod.fst heq)
      rw [heq] at hsecured
      cases hhanded
      refine hsecured.mono ?_
      unfold openAndRelease
      dsimp only
      split
      · show run.lines ⊆ (snmpHostInitRelease (run.say .problem)).lines
        rw [(release_held _).2]
        exact List.subset_append_left _ _
      · show run.lines ⊆ (snmpHostInitRelease run).lines
        rw [(release_held _).2]
        exact List.Subset.refl _

end Call

/-- Net-SNMP with two protocols, and passphrases of eight characters at least. -/
private def twoProtocols : SnmpLibrary where
  usmLookupAuthType name := if name = lit "SHA" then 3 else -1
  usmLookupPrivType name := if name = lit "AES" then 4 else -1
  scGetAuthOid type := if type = 3 then some [1, 3, 6, 1, 6, 3, 10, 1, 1, 3] else none
  scGetPrivOid type := if type = 4 then some [1, 3, 6, 1, 6, 3, 10, 1, 2, 4] else none
  generateKu _ passphrase := if 8 ≤ passphrase.length then some passphrase.reverse else none
  defaultAuth := none
  defaultPriv := none
  fallbackAuth := [1, 3, 6, 1, 6, 3, 10, 1, 1, 2]
  fallbackPriv := [1, 3, 6, 1, 6, 3, 10, 1, 2, 2]
  usmNoPrivProtocol := [1, 3, 6, 1, 6, 3, 10, 1, 2, 1]
  memory _ := true
  sessOpen _ := true

/-- A device with complete settings for encryption. -/
private def encryptedDevice : SnmpConnection where
  hostId := 7
  hostname := lit "switch"
  snmp :=
    { community := [], version := 3, username := lit "cacti", password := lit "password1",
      authProtocol := lit "SHA", privPassphrase := lit "password2", privProtocol := lit "AES",
      context := [], engineId := [], port := 161, timeout := 500 }

/-- Its session is encrypted, with a key from its passphrase. -/
theorem snmpHostInit_secured_encrypted :
    ∃ session, (snmpHostInit ⟨[], 3, false, 1, false⟩ twoProtocols encryptedDevice).handed =
        some session ∧
      encryptedDevice.snmp.version = 3 ∧ session.securityLevel = some .authPriv ∧
      session.privKey = (lit "password2").reverse := by
  have hsome : (snmpHostInit ⟨[], 3, false, 1, false⟩ twoProtocols
      encryptedDevice).handed.isSome = true := by decide
  obtain ⟨session, hsession⟩ := Option.isSome_iff_exists.1 hsome
  have hsecured := snmpHostInit_secured rfl hsession
  obtain ⟨_, _, _, _, _, _, _, hkey⟩ := hsecured.encrypted (by decide)
  exact ⟨session, hsession, rfl, hsecured.level, (Option.some.inj hkey).symm⟩

end Spine
