import Spine.Base.CString

/-!
# Constants, configuration and shared records

The constants of `internal/constants.h`, the part of `config_t` of
`config/model.h` that the modelled functions read, and the records of
`internal/spine_types.h`.

The two sizes that `configure` can change, `RESULTS_BUFFER` and
`MAX_MYSQL_BUF_SIZE`, are fields of `BufferSizes`.  `RESULTS_BUFFER` below is
the default of the first one, and the modules whose results do not depend on
it use that constant.

A record keeps the fields that a modelled function reads or writes.  The
fixed-size character arrays of the source are texts; the capacity of an array
is applied where the source fills it.
-/

namespace Spine

open Base.CString

/-! ## Sizes -/

def SMALL_BUFSIZE : Nat := 256
def BUFSIZE : Nat := 1024
def DBL_BUFSIZE : Nat := 2048
def LRG_BUFSIZE : Nat := 8096
def BIG_BUFSIZE : Nat := 65535
def MEGA_BUFSIZE : Nat := 1024000
def HUGE_BUFSIZE : Nat := 2048000
def INT_MAX : Nat := 2 ^ 31 - 1
def FD_SETSIZE : Nat := 1024

/-- The default of `--with-results-buffer`. -/
def RESULTS_BUFFER : Nat := 2048

/-- The default of `--with-max-mysql-buffer`. -/
def MAX_MYSQL_BUF_SIZE : Nat := 131072

/-- The two buffer sizes that `configure` can change. -/
structure BufferSizes where
  resultsBuffer : Nat
  maxMysqlBufSize : Nat

def defaultSizes : BufferSizes := ⟨RESULTS_BUFFER, MAX_MYSQL_BUF_SIZE⟩

/-! ## The marker of an unknown value -/

/-- `SET_UNDEFINED`: the text that RRDtool reads as an unknown value. -/
def undefinedText : Text := lit "U"

/-- `IS_UNDEFINED`. -/
def isUndefined (text : Text) : Bool := text == undefinedText

theorem isUndefined_iff {text : Text} : isUndefined text = true ↔ text = undefinedText := by
  simp [isUndefined]

/-! ## Enumerations -/

/-- `LOCAL` and `REMOTE`: the database that a statement goes to. -/
inductive DbMode where
  | localDb
  | remoteDb
  deriving DecidableEq, Repr

/-- `REMOTE_ONLINE`, `REMOTE_OFFLINE` and `REMOTE_RECOVERY`. -/
inductive PollerMode where
  | online
  | offline
  | recovery
  deriving DecidableEq, Repr

/-- The `POLLER_ACTION_*` codes.  A code outside the list keeps its number. -/
inductive PollerAction where
  | snmp
  | script
  | phpScriptServer
  | snmpCount
  | scriptCount
  | phpScriptServerCount
  | unknown (code : Int)
  deriving DecidableEq, Repr

def PollerAction.ofCode : Int → PollerAction
  | 0 => .snmp
  | 1 => .script
  | 2 => .phpScriptServer
  | 10 => .snmpCount
  | 11 => .scriptCount
  | 12 => .phpScriptServerCount
  | code => .unknown code

/-! ## Configuration -/

/-- The fields of `config_t` that the modelled functions read. -/
structure Config where
  pollerId : Int
  pollerInterval : Int
  activeProfiles : Int
  mode : PollerMode
  hasDevice0 : Bool
  hasOutputRegex : Bool
  pingOnly : Bool
  totalSnmpPorts : Int
  boostEnabled : Bool
  boostRedirect : Bool
  scriptTimeout : Int
  spineLogLevel : Int

/-- Results and reindex commands of a remote poller that is online go to the
main database. -/
def Config.writesRemote (cfg : Config) : Bool :=
  decide (1 < cfg.pollerId) && decide (cfg.mode = .online)

/-- The database that `writesRemote` selects. -/
def Config.outputMode (cfg : Config) : DbMode :=
  if cfg.writesRemote then .remoteDb else .localDb

/-- The values of a plain installation: one poller, one profile, one SNMP port,
no boost and no device 0. -/
def Config.plain : Config where
  pollerId := 1
  pollerInterval := 300
  activeProfiles := 1
  mode := .online
  hasDevice0 := false
  hasOutputRegex := false
  pingOnly := false
  totalSnmpPorts := 1
  boostEnabled := false
  boostRedirect := false
  scriptTimeout := 20
  spineLogLevel := 0

/-! ## Records -/

/-- `snmp_profile_t`. -/
structure SnmpProfile where
  community : Text
  version : Int
  username : Text
  password : Text
  authProtocol : Text
  privPassphrase : Text
  privProtocol : Text
  context : Text
  engineId : Text
  port : Int
  timeout : Int
  deriving DecidableEq, Repr

/-- `target_t`: one poller item and its result. -/
structure Target where
  result : Text
  localDataId : Int32
  action : PollerAction
  hostname : Text
  rrdName : Text
  arg1 : Text
  outputRegex : Text
  snmp : SnmpProfile

/-- `poller_thread_t`: the record of a device in `details[]`, and the copy of
it that a worker starts with.  `hostTime` is the second of the poll. -/
structure PollerThread where
  deviceCounter : Nat
  hostId : Int
  hostThread : Nat
  hostThreads : Nat
  hostDataIds : Nat
  hostTime : Nat
  threadsComplete : Nat
  complete : Bool
  outputFailed : Bool
  pollFailed : Bool
  deriving DecidableEq, Repr

end Spine
