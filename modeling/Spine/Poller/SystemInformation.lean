import Spine.Database.RowText
import Spine.Poller.Availability

/-!
# The description that a device gives of itself

The system group of a device: its description, its object, its uptime, its contact,
its name and its location.  The texts come from the `host` table or from the device,
and they are escaped at once, so `host->system` holds what is later put between
quotes.

* The buffers.  `HostSystem` is what `host->system` holds, and `hostMetadataSystem`,
  `pollSystemField`, `pollSystemUptime` and `getSystemInformation` write it.
* The values.  `SystemValues` are the texts before they are escaped, and
  `SystemValues.stored` the buffers that hold them.
  `getSystemInformation_stored` says that the device's answers replace the values,
  one by one, and that no answer makes the poller give the device up.
* The check.  `refreshHost` is `refresh_host_availability` with the record that it
  changes.
-/

namespace Spine

open Base.CString

/-! ## The buffers -/

/-- `host->system`. -/
structure HostSystem where
  snmpSysDescr : Text
  snmpSysObjectID : Text
  snmpSysUpTimeInstance : Nat
  snmpSysContact : Text
  snmpSysName : Text
  snmpSysLocation : Text
  deriving DecidableEq, Repr

def SYS_DESCR_SIZE : Nat := 600
def SYS_OBJECT_ID_SIZE : Nat := 160
def SYS_CONTACT_SIZE : Nat := 300
def SYS_NAME_SIZE : Nat := 300
def SYS_LOCATION_SIZE : Nat := 600

/-- The columns 31 to 36 of the row of a device. -/
structure SystemColumns where
  upTimeInstance : Option Text
  descr : Option Text
  objectId : Option Text
  contact : Option Text
  name : Option Text
  location : Option Text
  deriving DecidableEq, Repr

/-- `atoll` of a column, which is stored without a sign. -/
def storedUptime (text : Text) : Nat := (atoll text % 2 ^ 64).toNat

/-- `host_metadata_system` on the empty buffers of `host_metadata_defaults`. -/
def hostMetadataSystem (escape : Text → Text) (row : SystemColumns) : HostSystem where
  snmpSysUpTimeInstance := (row.upTimeInstance.map storedUptime).getD 0
  snmpSysDescr := (row.descr.map (dbEscape escape SYS_DESCR_SIZE)).getD []
  snmpSysObjectID := (row.objectId.map (dbEscape escape SYS_OBJECT_ID_SIZE)).getD []
  snmpSysContact := (row.contact.map (dbEscape escape SYS_CONTACT_SIZE)).getD []
  snmpSysName := (row.name.map (dbEscape escape SYS_NAME_SIZE)).getD []
  snmpSysLocation := (row.location.map (dbEscape escape SYS_LOCATION_SIZE)).getD []

/-- The answers to the requests for the system group. -/
structure SystemAnswers where
  descr : SnmpExchange
  objectId : SnmpExchange
  sysUpTime : SnmpExchange
  engineTime : SnmpExchange
  contact : SnmpExchange
  name : SnmpExchange
  location : SnmpExchange
  deriving DecidableEq, Repr

/-- `snmp_get_allow_fail`. -/
def snmpGetAllowFail (device : SnmpDevice) (textOid : Text) (exchange : SnmpExchange) :
    Text × SnmpDevice :=
  snmpGetBase device textOid exchange false

/-- `poll_system_field`: the buffer and the device afterwards.  The result of a
request that failed is stored too. -/
def pollSystemField (escape : Text → Text) (device : SnmpDevice) (oid : Text)
    (exchange : SnmpExchange) (capacity : Nat) : Text × SnmpDevice :=
  let (result, device) := snmpGetAllowFail device oid exchange
  (dbEscape escape capacity result, device)

/-- `poll_system_uptime`. -/
def pollSystemUptime (device : SnmpDevice) (answers : SystemAnswers) (stored : Nat) :
    Nat × SnmpDevice :=
  let (result, device) := snmpGetAllowFail device sysUpTimeOid answers.sysUpTime
  match parseUptime result with
  | none => (stored, device)
  | some ticks =>
    let (result, device) := snmpGetAllowFail device engineTimeOid answers.engineTime
    match parseUptime result with
    | none => (ticks, device)
    | some seconds => (seconds * 100 % 2 ^ 64, device)

def sysDescrOid : Text := lit ".1.3.6.1.2.1.1.1.0"
def sysObjectIdOid : Text := lit ".1.3.6.1.2.1.1.2.0"
def sysContactOid : Text := lit ".1.3.6.1.2.1.1.4.0"
def sysNameOid : Text := lit ".1.3.6.1.2.1.1.5.0"
def sysLocationOid : Text := lit ".1.3.6.1.2.1.1.6.0"

/-- `get_system_information`. -/
def getSystemInformation (escape : Text → Text) (mibs system : Bool) (answers : SystemAnswers)
    (device : SnmpDevice) (host : HostSystem) : HostSystem × SnmpDevice :=
  if mibs || system then
    let (descr, device) := pollSystemField escape device sysDescrOid answers.descr SYS_DESCR_SIZE
    let (objectId, device) :=
      pollSystemField escape device sysObjectIdOid answers.objectId SYS_OBJECT_ID_SIZE
    let (uptime, device) := pollSystemUptime device answers host.snmpSysUpTimeInstance
    let (contact, device) :=
      pollSystemField escape device sysContactOid answers.contact SYS_CONTACT_SIZE
    let (name, device) := pollSystemField escape device sysNameOid answers.name SYS_NAME_SIZE
    let (location, device) :=
      pollSystemField escape device sysLocationOid answers.location SYS_LOCATION_SIZE
    (⟨descr, objectId, uptime, contact, name, location⟩, device)
  else
    let (uptime, device) := pollSystemUptime device answers host.snmpSysUpTimeInstance
    ({ host with snmpSysUpTimeInstance := uptime }, device)

/-! ## The values -/

/-- The system group before it is escaped. -/
structure SystemValues where
  descr : Text
  objectId : Text
  uptime : Nat
  contact : Text
  name : Text
  location : Text
  deriving DecidableEq, Repr

/-- The buffers that hold the values. -/
def SystemValues.stored (escape : Text → Text) (values : SystemValues) : HostSystem where
  snmpSysDescr := dbEscape escape SYS_DESCR_SIZE values.descr
  snmpSysObjectID := dbEscape escape SYS_OBJECT_ID_SIZE values.objectId
  snmpSysUpTimeInstance := values.uptime
  snmpSysContact := dbEscape escape SYS_CONTACT_SIZE values.contact
  snmpSysName := dbEscape escape SYS_NAME_SIZE values.name
  snmpSysLocation := dbEscape escape SYS_LOCATION_SIZE values.location

/-- The values of a row. -/
def SystemColumns.values (row : SystemColumns) : SystemValues where
  descr := row.descr.getD []
  objectId := row.objectId.getD []
  uptime := (row.upTimeInstance.map storedUptime).getD 0
  contact := row.contact.getD []
  name := row.name.getD []
  location := row.location.getD []

/-- The values that a device answers with. -/
def SystemAnswers.values (answers : SystemAnswers) (device : SnmpDevice) (uptime : Nat) :
    SystemValues where
  descr := (snmpGetAllowFail device sysDescrOid answers.descr).1
  objectId := (snmpGetAllowFail device sysObjectIdOid answers.objectId).1
  uptime := (pollSystemUptime device answers uptime).1
  contact := (snmpGetAllowFail device sysContactOid answers.contact).1
  name := (snmpGetAllowFail device sysNameOid answers.name).1
  location := (snmpGetAllowFail device sysLocationOid answers.location).1

section Values

variable {escape : Text → Text}

/-- A column that is NULL and one that is empty leave the same buffer. -/
theorem dbEscape_getD (hescape : escape [] = []) (capacity : Nat) (column : Option Text) :
    (column.map (dbEscape escape capacity)).getD [] =
      dbEscape escape capacity (column.getD []) := by
  cases column with
  | some text => rfl
  | none =>
    show [] = dbEscape escape capacity []
    unfold dbEscape
    rw [List.take_nil, hescape]
    split <;> rfl

theorem hostMetadataSystem_eq_stored (hescape : escape [] = []) (row : SystemColumns) :
    hostMetadataSystem escape row = row.values.stored escape := by
  unfold hostMetadataSystem SystemValues.stored
  simp only [dbEscape_getD hescape]
  rfl

/-- A request that may fail leaves the device as it is. -/
theorem snmpGetAllowFail_device (device : SnmpDevice) (oid : Text) (exchange : SnmpExchange) :
    (snmpGetAllowFail device oid exchange).2 = device :=
  snmpGetBase_device oid exchange

theorem pollSystemField_eq (device : SnmpDevice) (oid : Text) (exchange : SnmpExchange)
    (capacity : Nat) :
    pollSystemField escape device oid exchange capacity =
      (dbEscape escape capacity (snmpGetAllowFail device oid exchange).1, device) := by
  unfold pollSystemField
  dsimp only
  rw [snmpGetAllowFail_device]

theorem pollSystemUptime_device (device : SnmpDevice) (answers : SystemAnswers) (stored : Nat) :
    (pollSystemUptime device answers stored).2 = device := by
  unfold pollSystemUptime
  dsimp only
  rw [snmpGetAllowFail_device]
  split
  · rfl
  · rw [snmpGetAllowFail_device]
    split <;> rfl

/-- Without the full group only the uptime is replaced. -/
def SystemValues.polled (values : SystemValues) (full : Bool) (answers : SystemAnswers)
    (device : SnmpDevice) : SystemValues :=
  if full then answers.values device values.uptime
  else { values with uptime := (pollSystemUptime device answers values.uptime).1 }

/-- The buffers hold the answers, and the device is left as it is. -/
theorem getSystemInformation_stored (mibs system : Bool) (answers : SystemAnswers)
    (device : SnmpDevice) (values : SystemValues) :
    getSystemInformation escape mibs system answers device (values.stored escape) =
      ((values.polled (mibs || system) answers device).stored escape, device) := by
  have huptime : ∀ stored, pollSystemUptime device answers stored =
      ((pollSystemUptime device answers stored).1, device) := fun stored =>
    Prod.ext rfl (pollSystemUptime_device device answers stored)
  unfold getSystemInformation SystemValues.polled
  cases mibs || system with
  | true =>
    simp only [pollSystemField_eq]
    rw [huptime]
    rfl
  | false =>
    dsimp only
    rw [huptime]
    rfl

/-- The uptime that is kept has 64 bits. -/
theorem pollSystemUptime_lt {device : SnmpDevice} {answers : SystemAnswers} {stored : Nat}
    (h : stored < 2 ^ 64) : (pollSystemUptime device answers stored).1 < 2 ^ 64 := by
  unfold pollSystemUptime
  dsimp only
  split
  · exact h
  · rename_i ticks hticks
    split
    · exact parseUptime_lt hticks
    · exact Nat.mod_lt _ (by decide)

theorem storedUptime_lt (text : Text) : storedUptime text < 2 ^ 64 := by
  unfold storedUptime
  omega

theorem SystemColumns.values_uptime_lt (row : SystemColumns) : row.values.uptime < 2 ^ 64 := by
  obtain ⟨_ | text, _, _, _, _, _⟩ := row
  · show 0 < 2 ^ 64
    decide
  · exact storedUptime_lt text

end Values

/-! ## The check -/

/-- One call of `refresh_host_availability`: the settings, the row, the texts of the
check with its time, and the answers for the system group. -/
structure RefreshCall where
  env : AvailabilityEnv
  mibs : Bool
  row : HostRow
  session : Bool
  ping : Ping
  time : Nat
  hostThread : Nat
  answers : SystemAnswers

/-- The call of `update_host_status` that a check makes. -/
def RefreshCall.poll (call : RefreshCall) (status : HostStatus) : StatusPoll :=
  ⟨status, call.ping, call.row.method, call.time⟩

/-- `refresh_host_availability`: the record afterwards, and whether the system group
was read. -/
def refreshHost (escape : Text → Text) (call : RefreshCall) (host : MonitoredHost)
    (system : HostSystem) : (MonitoredHost × HostSystem) × Bool :=
  let up := (updateHostStatus call.env host (call.poll .up)).1
  if call.row.method = .snmp ∧ call.row.community.isEmpty ∧ call.row.version < 3 then
    ((up, system), false)
  else if call.row.method = .stream then ((up, system), false)
  else
    let alive := pingHost call.row call.session
    if call.hostThread ≠ 1 then ((host, system), false)
    else
      let host :=
        if alive then up else (updateHostStatus call.env host (call.poll .down)).1
      if !alive ∨ call.row.method = .ping ∨ call.row.method = .none ∨ !call.session ∨
          !call.mibs then
        ((host, system), false)
      else
        ((host, (getSystemInformation escape call.mibs true call.answers ⟨call.session, !alive⟩
          system).1), true)

/-- What a check leaves: the device or the device after one more poll, and the values
of before or those that the device answers with. -/
theorem refreshHost_cases (escape : Text → Text) (call : RefreshCall) (host : MonitoredHost)
    (values : SystemValues) :
    ∃ after read, refreshHost escape call host (values.stored escape) =
        ((after, (if read then call.answers.values ⟨true, false⟩ values.uptime else values).stored
          escape), read) ∧
      (after = host ∨ ∃ status, after = (updateHostStatus call.env host (call.poll status)).1) ∧
      (read = true → call.hostThread = 1 ∧ call.session = true ∧ call.mibs = true ∧
        pingHost call.row call.session = true) := by
  unfold refreshHost
  dsimp only
  split
  · exact ⟨_, false, rfl, Or.inr ⟨.up, rfl⟩, fun h => by cases h⟩
  split
  · exact ⟨_, false, rfl, Or.inr ⟨.up, rfl⟩, fun h => by cases h⟩
  split
  · exact ⟨_, false, rfl, Or.inl rfl, fun h => by cases h⟩
  rename_i hthread
  have hstatus : ∃ status, (if pingHost call.row call.session = true then
      (updateHostStatus call.env host (call.poll .up)).1
      else (updateHostStatus call.env host (call.poll .down)).1) =
        (updateHostStatus call.env host (call.poll status)).1 := by
    split
    · exact ⟨.up, rfl⟩
    · exact ⟨.down, rfl⟩
  split
  · exact ⟨_, false, rfl, Or.inr hstatus, fun h => by cases h⟩
  · rename_i hread
    simp only [not_or, Bool.not_eq_true, Bool.not_eq_false'] at hread
    obtain ⟨halive, -, -, hsession, hmibs⟩ := hread
    refine ⟨_, true, ?_, Or.inr hstatus, fun _ => ⟨not_not.1 hthread, hsession, hmibs, halive⟩⟩
    rw [getSystemInformation_stored, halive, hsession]
    simp [SystemValues.polled]

end Spine
