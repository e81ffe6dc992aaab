import Spine.Base.Ledger
import Spine.Base.Stages
import Spine.Config.File
import Spine.Database.Retries

/-!
# Connections and their sessions

`db_connect` of `database/connection.c` initialises a handle and connects it, and
`db_reconnect` of `database/sql.c` replaces a connection that was lost.  A statement is
then sent again on the same handle, so what holds of the handle and of the session has
to hold over the whole life of a pool entry: from `db_create_connection_pool` over any
number of statements to `db_close_connection_pool`.

* The session.  A session is the log of the statements that were run in it since it was
  opened; what the server makes of them is not modelled.
* The handle.  `dbConnect`, `dbReconnectOn` and `statementFrom` follow the handle through
  the calls of the client library, whose answers are inputs.
* The life.  `Kept` is the log of a handle that was closed as often as it was
  initialised, but for the last time; `SetUp` says how every session began.
-/

namespace Spine

open Base.CString Base.Ledger

/-! ## The statements of a session -/

/-- The statements that were run in a session since it was opened, each with whether it
succeeded. -/
abbrev SessionLog := List (Text × Bool)

/-- `modes[]` of `db_set_session_mode`. -/
def sessionModes : List Text :=
  [lit "NO_ZERO_DATE", lit "NO_ZERO_IN_DATE", lit "ONLY_FULL_GROUP_BY",
    lit "NO_AUTO_VALUE_ON_ZERO", lit "TRADITIONAL", lit "STRICT_ALL_TABLES",
    lit "STRICT_TRANS_TABLES"]

/-- The statement that takes a mode out. -/
def sessionModeQuery (mode : Text) : Text :=
  lit "SET SESSION sql_mode = (SELECT REPLACE(@@sql_mode,'" ++ mode ++ lit "', ''))"

/-- The statement that ends a thread of the server. -/
def killQuery (thread : Nat) : Text := lit "KILL " ++ decimal thread ++ lit ";"

/-- The log of the statements for the given modes, all of them accepted. -/
def acceptedModes (modes : List Text) : SessionLog :=
  modes.map fun mode => (sessionModeQuery mode, true)

/-- The session began with the seven statements, and the server took them all. -/
def Configured (session : SessionLog) : Prop := acceptedModes sessionModes <+: session

/-- The session began with some of the seven statements, and the server refused the next
one. -/
def ModeRefused (session : SessionLog) : Prop :=
  ∃ (k : Nat) (mode : Text), sessionModes[k]? = some mode ∧
    acceptedModes (sessionModes.take k) ++ [(sessionModeQuery mode, false)] <+: session

/-! ## Opening a connection -/

/-- What `db_connect` reads: the settings, and the options that the client library of
the build knows. -/
structure ConnectConfig where
  pollerId : Int
  database : DatabaseSettings
  remoteDatabase : DatabaseSettings
  hasRetryCount : Bool
  hasSslKey : Bool
  hasSslVerifyServerCert : Bool

/-- The options of `mysql_options`. -/
inductive ConnectOption where
  | readTimeout (seconds : Nat)
  | writeTimeout (seconds : Nat)
  | connectTimeout (seconds : Nat)
  | retryCount (tries : Nat)
  | sslVerifyServerCert (enforce : Bool)
  | sslKey (file : Text)
  | sslCa (file : Text)
  | sslCert (file : Text)
  deriving DecidableEq

/-- The description that `db_set_option` dies with. -/
def ConnectOption.description : ConnectOption → Text
  | .readTimeout _ => lit "read timeout"
  | .writeTimeout _ => lit "write timeout"
  | .connectTimeout _ => lit "general timeout"
  | .retryCount _ => lit "retry count"
  | .sslVerifyServerCert _ => lit "ssl disable"
  | .sslKey _ => lit "ssl key"
  | .sslCa _ => lit "ssl ca"
  | .sslCert _ => lit "ssl cert"

/-- `db_set_option` for one option after the other.  The error is the message of
`die`. -/
def dbSetOptions (accepts : ConnectOption → Bool) : List ConnectOption → Except Text Unit
  | [] => .ok ()
  | option :: rest =>
    if accepts option then dbSetOptions accepts rest
    else .error (lit "FATAL: MySQL options unable to set " ++ option.description ++ lit " option")

/-- The option for a file whose name is set. -/
def fileOption (option : Text → ConnectOption) (file : Text) : List ConnectOption :=
  if file = [] then [] else [option file]

/-- `db_set_ssl_options`. -/
def dbSetSslOptions (cfg : ConnectConfig) (type : DbMode) : List ConnectOption :=
  let sslEnabled := if type = .localDb then cfg.database.ssl else cfg.remoteDatabase.ssl
  let files := if type = .remoteDb then cfg.remoteDatabase else cfg.database
  (if cfg.hasSslVerifyServerCert ∧ sslEnabled = 0 then [.sslVerifyServerCert false] else []) ++
    fileOption .sslKey files.sslKey ++ fileOption .sslCa files.sslCa ++
    fileOption .sslCert files.sslCert

/-- The number of tries of `db_connect`. -/
def CONNECT_TRIES : Nat := 2

/-- The options that `db_connect` sets, in their order. -/
def connectOptions (cfg : ConnectConfig) (type : DbMode) : List ConnectOption :=
  [.readTimeout 30, .writeTimeout 30, .connectTimeout 5] ++
    (if cfg.hasRetryCount then [.retryCount CONNECT_TRIES] else []) ++
    (if cfg.hasSslKey then dbSetSslOptions cfg type else [])

/-- `db_address_t` without its storage. -/
structure DbAddress where
  hostname : Option Text
  socket : Option Text
  deriving DecidableEq

/-- `db_address_init`.  `stat` says whether the value names a file, and whether that is a
socket. -/
def dbAddressInit (stat : Text → Option Bool) (value : Text) (parseSocket : Bool) : DbAddress :=
  if parseSocket then
    match stat value with
    | some true => ⟨none, some value⟩
    | some false => ⟨some value, none⟩
    | none =>
      match strchr value 58 with
      | some (before, after) => ⟨some before, some after⟩
      | none => ⟨some value, none⟩
  else ⟨some value, none⟩

/-- The arguments of `mysql_real_connect`. -/
structure ConnectCall where
  address : DbAddress
  user : Text
  password : Text
  database : Text
  port : UInt32
  deriving DecidableEq

/-- The connection that `db_connect` asks for. -/
def connectCall (cfg : ConnectConfig) (type : DbMode) (stat : Text → Option Bool) :
    ConnectCall :=
  let localAddress := decide (cfg.pollerId ≤ 1) || decide (type = .localDb)
  let address := dbAddressInit stat
    (if localAddress then cfg.database.host else cfg.remoteDatabase.host) localAddress
  let login :=
    if 1 < cfg.pollerId then
      if type = .localDb then cfg.database else cfg.remoteDatabase
    else cfg.database
  ⟨address, login.user, login.password, login.database, login.port⟩

/-- The loop of `db_connect`.  An attempt gives the id of the server's thread or an
error; an unknown database, an unknown host and a refused login end the loop. -/
def connectFrom (attempts : Nat → Except Nat Nat) : Nat → Nat → Option Nat
  | 0, _ => none
  | tries + 1, attempt =>
    match attempts attempt with
    | .ok thread => some thread
    | .error error =>
      if error = 1049 ∨ error = 2005 ∨ error = 1045 then none
      else connectFrom attempts tries (attempt + 1)

theorem connectFrom_eq_some {attempts : Nat → Except Nat Nat} {tries attempt thread : Nat}
    (h : connectFrom attempts tries attempt = some thread) :
    ∃ k, attempts k = .ok thread := by
  induction tries generalizing attempt with
  | zero => cases h
  | succ tries ih =>
    unfold connectFrom at h
    split at h
    · rename_i answered
      cases h
      exact ⟨attempt, answered⟩
    · split_ifs at h
      exact ih h

/-! ## The handle -/

/-- A `MYSQL` handle: not initialised, initialised without a session, or with one.  The
library keeps the id of the last session's thread. -/
inductive Handle where
  | closed
  | idle (thread : Nat)
  | live (thread : Nat) (session : SessionLog)

/-- `mysql_thread_id`. -/
def Handle.thread : Handle → Nat
  | .closed => 0
  | .idle thread => thread
  | .live thread _ => thread

theorem Handle.idle_ne_closed (thread : Nat) : Handle.idle thread ≠ .closed :=
  fun h => by cases h

theorem Handle.live_ne_closed (thread : Nat) (session : SessionLog) :
    Handle.live thread session ≠ .closed := fun h => by cases h

/-- A handle and what was done with it: the calls of `mysql_init` that succeeded and
those of `mysql_close`, each for the initialisation that it ends, and the session of every
statement of a caller when it was sent. -/
structure DbConnection where
  handle : Handle
  inits : Nat
  events : List (Event Nat)
  initFailed : Bool
  sent : List SessionLog

/-- A handle before its first use. -/
def DbConnection.unused : DbConnection := ⟨.closed, 0, [], false, []⟩

/-- `mysql_init`. -/
def mysqlInit (succeeds : Bool) (conn : DbConnection) : DbConnection :=
  if succeeds then
    { conn with
      handle := .idle 0, inits := conn.inits + 1, events := conn.events ++ [.acquire conn.inits] }
  else { conn with handle := .closed, initFailed := true }

/-- `mysql_close`, and `db_disconnect` of a handle. -/
def mysqlClose (conn : DbConnection) : DbConnection :=
  { conn with handle := .closed, events := conn.events ++ [.release (conn.inits - 1)] }

/-- What the client library answers to `db_connect`. -/
structure ConnectEnv where
  strdup : Bool
  stat : Text → Option Bool
  init : Bool
  accepts : ConnectOption → Bool
  attempts : ConnectCall → Nat → Except Nat Nat

/-- `db_connect`. -/
def dbConnect (cfg : ConnectConfig) (type : DbMode) (env : ConnectEnv)
    (conn : DbConnection) : Except Text (Bool × DbConnection) :=
  if env.strdup then
    let started := mysqlInit env.init conn
    if env.init then
      (dbSetOptions env.accepts (connectOptions cfg type)).bind fun _ =>
        match connectFrom (env.attempts (connectCall cfg type env.stat)) CONNECT_TRIES 0 with
        | none => .ok (false, started)
        | some thread => .ok (true, { started with handle := .live thread [] })
    else .ok (false, started)
  else .error (lit "ERROR: Fatal malloc error: database address!")

/-- The answer to a statement whose error is not looked at.  A failure may end the
session. -/
inductive PlainAnswer where
  | ok
  | failed
  | lost
  deriving DecidableEq

/-- `mysql_query` for such a statement. -/
def plainQuery (answer : PlainAnswer) (query : Text) : Handle → Bool × Handle
  | .live thread session =>
    match answer with
    | .ok => (true, .live thread (session ++ [(query, true)]))
    | .failed => (false, .live thread (session ++ [(query, false)]))
    | .lost => (false, .idle thread)
  | handle => (false, handle)

/-- The loop of `db_set_session_mode`. -/
def setSessionModes (answers : Text → PlainAnswer) : List Text → Handle → Bool × Handle
  | [], handle => (true, handle)
  | mode :: rest, handle =>
    let query := sessionModeQuery mode
    let sent := plainQuery (answers query) query handle
    if sent.1 then setSessionModes answers rest sent.2 else sent

/-- The ways through the loop in a session: every statement is taken, one is refused, or
the session ends. -/
theorem setSessionModes_cases (answers : Text → PlainAnswer) (modes : List Text) (thread : Nat)
    (session : SessionLog) :
    setSessionModes answers modes (.live thread session) =
        (true, .live thread (session ++ acceptedModes modes)) ∨
      (∃ (k : Nat) (mode : Text), modes[k]? = some mode ∧
        setSessionModes answers modes (.live thread session) =
          (false, .live thread
            (session ++ (acceptedModes (modes.take k) ++ [(sessionModeQuery mode, false)])))) ∨
      setSessionModes answers modes (.live thread session) = (false, .idle thread) := by
  induction modes generalizing session with
  | nil => exact Or.inl (by rw [setSessionModes, acceptedModes, List.map_nil, List.append_nil])
  | cons mode modes ih =>
    unfold setSessionModes plainQuery
    dsimp only
    cases answers (sessionModeQuery mode) with
    | failed => exact Or.inr (Or.inl ⟨0, mode, rfl, rfl⟩)
    | lost => exact Or.inr (Or.inr rfl)
    | ok =>
      dsimp only
      rw [if_pos rfl]
      rcases ih (session ++ [(sessionModeQuery mode, true)]) with hall | ⟨k, other, hk, hrefused⟩ |
        hlost
      · rw [hall, List.append_assoc]
        exact Or.inl rfl
      · rw [hrefused, List.append_assoc]
        exact Or.inr (Or.inl ⟨k + 1, other, hk, rfl⟩)
      · exact Or.inr (Or.inr hlost)

/-- `db_set_session_mode`. -/
def dbSetSessionModeOn (answers : Text → PlainAnswer) (conn : DbConnection) :
    Bool × DbConnection :=
  let result := setSessionModes answers sessionModes conn.handle
  (result.1, { conn with handle := result.2 })

/-! ## Sending a statement -/

/-- The answer to `mysql_ping`: the server cannot be reached, the session is alive, or
the library has connected again. -/
inductive PingAnswer where
  | failed
  | alive
  | reconnected (thread : Nat)
  deriving DecidableEq

/-- `mysql_ping`: whether it succeeds, and the handle after it.  Only a handle with a
session can be alive. -/
def mysqlPing (answer : PingAnswer) : Handle → Bool × Handle
  | .closed => (false, .closed)
  | .idle thread =>
    match answer with
    | .reconnected other => (true, .live other [])
    | _ => (false, .idle thread)
  | .live thread session =>
    match answer with
    | .failed => (false, .idle thread)
    | .alive => (true, .live thread session)
    | .reconnected other => (true, .live other [])

/-- What `db_reconnect` meets. -/
structure ReconnectCall where
  ping : PingAnswer
  kill : PlainAnswer
  pingModes : Text → PlainAnswer
  connect : ConnectEnv
  connectModes : Text → PlainAnswer

/-- The end of `db_reconnect` in a new session. -/
def reconnectResult (result : Bool × DbConnection) : Int × DbConnection :=
  (if result.1 then 1 else -1, result.2)

/-- `db_reconnect`.  A thread of the server that a ping has replaced is killed. -/
def dbReconnectOn (cfg : ConnectConfig) (type : DbMode) (call : ReconnectCall)
    (conn : DbConnection) : Except Text (Int × DbConnection) :=
  let ping := mysqlPing call.ping conn.handle
  let pinged := { conn with handle := ping.2 }
  if ping.2.thread ≠ conn.handle.thread then
    let kill := plainQuery call.kill (killQuery conn.handle.thread) ping.2
    .ok (reconnectResult (dbSetSessionModeOn call.pingModes { pinged with handle := kill.2 }))
  else if ping.1 then .ok (0, pinged)
  else
    (dbConnect cfg type call.connect (mysqlClose pinged)).map fun result =>
      if result.1 ∧ 0 < result.2.handle.thread then
        reconnectResult (dbSetSessionModeOn call.connectModes result.2)
      else (-1, result.2)

/-- What one send of a statement meets: the error of `mysql_query` in a session and the one
that the library gives without a session, whether the session outlives an error that
reports it as lost, whether `errno` is `EINTR`, and what `db_reconnect` would meet. -/
structure SendEnv where
  error : Option Nat
  unconnected : Nat
  outlives : Bool
  interrupted : Bool
  reconnect : ReconnectCall

/-- `mysql_query` for a statement of a caller. -/
def mysqlQuery (env : SendEnv) (query : Text) (conn : DbConnection) :
    Option Nat × DbConnection :=
  match conn.handle with
  | .live thread session =>
    let ended := (env.error.any isLost) && !env.outlives
    (env.error,
      { conn with
        handle :=
          if ended then .idle thread
          else .live thread (session ++ [(query, env.error.isNone)])
        sent := conn.sent ++ [session] })
  | _ => (some env.unconnected, conn)

/-- `retry_disconnected_query`, with the count of this attempt. -/
def retryDisconnectedQueryOn (cfg : ConnectConfig) (type : DbMode) (send : SendEnv)
    (errorCount : Nat) (conn : DbConnection) :
    Except Text (Bool × DbConnection) :=
  if 30 < errorCount then .ok (false, conn)
  else if send.interrupted ∧ errorCount ≤ 3 then .ok (true, conn)
  else
    (dbReconnectOn cfg type send.reconnect conn).map fun result =>
      (decide (0 ≤ result.1), result.2)

/-- One turn of the loop of `db_insert` and `db_query`, with the count of the failed
attempts if this one fails.  It returns, or the statement is sent again. -/
def sendOn (cfg : ConnectConfig) (type : DbMode) (query : Text) (send : SendEnv)
    (errorCount : Nat) (conn : DbConnection) : Except Text (Option Bool × DbConnection) :=
  let sent := mysqlQuery send query conn
  match sent.1 with
  | none => .ok (some true, sent.2)
  | some error =>
    if isLost error then
      (retryDisconnectedQueryOn cfg type send errorCount sent.2).map fun retry =>
        (if retry.1 then none else some false, retry.2)
    else if isLocked error then .ok (if 30 < errorCount then some false else none, sent.2)
    else .ok (some false, sent.2)

/-- The loop of `db_insert` and `db_query` on a handle, after `errorCount` failed
attempts and with a bound on the attempts that are left. -/
def statementFrom (cfg : ConnectConfig) (type : DbMode) (query : Text)
    (sends : Nat → SendEnv) : Nat → Nat → DbConnection → Except Text (Bool × DbConnection)
  | 0, _, conn => .ok (false, conn)
  | left + 1, errorCount, conn =>
    (sendOn cfg type query (sends errorCount) (errorCount + 1) conn).bind fun turn =>
      match turn.1 with
      | some returned => .ok (returned, turn.2)
      | none => statementFrom cfg type query sends left (errorCount + 1) turn.2

/-- A statement of a caller, and what each of its sends meets. -/
structure DbStatement where
  query : Text
  sends : Nat → SendEnv

/-- The statements that are sent on a handle, one after the other.  Whether one succeeds
does not matter to the next one. -/
def statementsOn (cfg : ConnectConfig) (type : DbMode) :
    List DbStatement → DbConnection → Except Text DbConnection
  | [], conn => .ok conn
  | statement :: rest, conn =>
    (statementFrom cfg type statement.query statement.sends 31 0 conn).bind fun result =>
      statementsOn cfg type rest result.2

/-- The word for a pool in the messages of `db_create_connection_pool`. -/
def poolName : DbMode → Text
  | .localDb => lit "local"
  | .remoteDb => lit "remote"

/-- One turn of the loop of `db_create_connection_pool`. -/
def openPoolEntry (cfg : ConnectConfig) (type : DbMode) (env : ConnectEnv)
    (modes : Text → PlainAnswer) : Except Text DbConnection :=
  (dbConnect cfg type env .unused).bind fun result =>
    if result.1 then
      let session := dbSetSessionModeOn modes result.2
      if session.1 then .ok session.2
      else .error (lit "FATAL: Unable to configure the " ++ poolName type ++ lit " connection pool")
    else .error (lit "FATAL: Unable to create the " ++ poolName type ++ lit " connection pool")

/-- The life of an entry of a pool: `db_create_connection_pool`, the statements of the
workers that hold the entry, and `db_close_connection_pool`. -/
def poolEntryLife (cfg : ConnectConfig) (type : DbMode) (env : ConnectEnv)
    (modes : Text → PlainAnswer) (statements : List DbStatement) :
    Except Text DbConnection :=
  (openPoolEntry cfg type env modes).bind fun conn =>
    (statementsOn cfg type statements conn).map mysqlClose

section Runs

variable {cfg : ConnectConfig} {type : DbMode} {conn : DbConnection}
  {query : Text} {P : DbConnection → Prop} {Q : ReconnectCall → Prop}

/-- A turn sends the statement, and then it may reconnect. -/
theorem sendOn_cases {send : SendEnv} {errorCount : Nat} {turn : Option Bool × DbConnection}
    (h : sendOn cfg type query send errorCount conn = .ok turn) :
    turn.2 = (mysqlQuery send query conn).2 ∨
      ∃ result, dbReconnectOn cfg type send.reconnect (mysqlQuery send query conn).2 =
        .ok (result, turn.2) := by
  unfold sendOn at h
  dsimp only at h
  split at h
  · cases h
    exact Or.inl rfl
  · split_ifs at h
    · obtain ⟨retry, hretry, rfl⟩ := Base.Stages.map_eq_ok.1 h
      unfold retryDisconnectedQueryOn at hretry
      split_ifs at hretry
      · cases hretry
        exact Or.inl rfl
      · cases hretry
        exact Or.inl rfl
      · obtain ⟨result, hresult, rfl⟩ := Base.Stages.map_eq_ok.1 hretry
        exact Or.inr ⟨result.1, hresult⟩
    all_goals
      cases h
      exact Or.inl rfl

/-- What holds of a handle after every send and after every `db_reconnect`, if it held
before. -/
structure KeptBySends (cfg : ConnectConfig) (type : DbMode)
    (Q : ReconnectCall → Prop) (P : DbConnection → Prop) : Prop where
  query : ∀ send query conn, P conn → P (mysqlQuery send query conn).2
  reconnect : ∀ call conn result, Q call → P conn →
    dbReconnectOn cfg type call conn = .ok result → P result.2

theorem KeptBySends.sendOn {send : SendEnv} {errorCount : Nat}
    {turn : Option Bool × DbConnection} (hkept : KeptBySends cfg type Q P)
    (hQ : Q send.reconnect) (hP : P conn)
    (h : Spine.sendOn cfg type query send errorCount conn = .ok turn) : P turn.2 := by
  have hquery := hkept.query send query conn hP
  rcases sendOn_cases h with hsame | ⟨result, hreconnect⟩
  · rw [hsame]
    exact hquery
  · exact hkept.reconnect _ _ _ hQ hquery hreconnect

/-- The turns of one statement. -/
theorem KeptBySends.statementFrom {sends : Nat → SendEnv} {left errorCount : Nat}
    {result : Bool × DbConnection} (hkept : KeptBySends cfg type Q P)
    (hQ : ∀ k, Q (sends k).reconnect) (hP : P conn)
    (h : Spine.statementFrom cfg type query sends left errorCount conn = .ok result) :
    P result.2 := by
  induction left generalizing errorCount conn with
  | zero =>
    cases h
    exact hP
  | succ left ih =>
    obtain ⟨turn, hturn, hrest⟩ := Base.Stages.bind_eq_ok.1 h
    have hnext := hkept.sendOn (hQ errorCount) hP hturn
    split at hrest
    · cases hrest
      exact hnext
    · exact ih hnext hrest

/-- Any number of statements. -/
theorem KeptBySends.statementsOn {statements : List DbStatement} {after : DbConnection}
    (hkept : KeptBySends cfg type Q P)
    (hQ : ∀ statement ∈ statements, ∀ k, Q (statement.sends k).reconnect) (hP : P conn)
    (h : Spine.statementsOn cfg type statements conn = .ok after) : P after := by
  induction statements generalizing conn with
  | nil =>
    cases h
    exact hP
  | cons statement statements ih =>
    obtain ⟨result, hresult, hrest⟩ := Base.Stages.bind_eq_ok.1 h
    have hnext := hkept.statementFrom (hQ statement List.mem_cons_self) hP hresult
    exact ih (fun other hother => hQ other (List.mem_cons_of_mem statement hother)) hnext hrest

end Runs

/-! ## Every handle is closed once -/

section Custody

variable {cfg : ConnectConfig} {type : DbMode} {conn : DbConnection}

/-- A handle that was closed as often as it was initialised, but for the last time. -/
structure DbConnection.Kept (conn : DbConnection) : Prop where
  initialised : 0 < conn.inits
  opened : conn.handle ≠ .closed
  events : conn.events = inTurn (List.range (conn.inits - 1)) ++ [.acquire (conn.inits - 1)]

/-- A handle that `mysql_init` has failed on, so that nothing is left to close. -/
structure DbConnection.Spent (conn : DbConnection) : Prop where
  initialised : 0 < conn.inits
  events : conn.events = inTurn (List.range conn.inits)

/-- An initialisation that was ended twice. -/
def DbConnection.ClosedTwice (conn : DbConnection) : Prop :=
  ∃ init, 2 ≤ conn.events.count (.release init)

/-- What is known of a handle between two calls. -/
inductive DbConnection.Custody (conn : DbConnection) : Prop
  | kept (failed : conn.initFailed = false) (kept : conn.Kept)
  | spent (failed : conn.initFailed = true) (closed : conn.handle = .closed) (spent : conn.Spent)
  | twice (failed : conn.initFailed = true) (twice : conn.ClosedTwice)

/-- A call that neither initialises nor closes the handle. -/
theorem DbConnection.Custody.congr (h : conn.Custody) {handle : Handle}
    {sent : List SessionLog}
    (hclosed : handle = .closed ↔ conn.handle = .closed) :
    DbConnection.Custody { conn with handle := handle, sent := sent } := by
  cases h with
  | kept failed kept => exact .kept failed ⟨kept.initialised, mt hclosed.1 kept.opened, kept.events⟩
  | spent failed closed spent =>
    exact .spent failed (hclosed.2 closed) ⟨spent.initialised, spent.events⟩
  | twice failed twice => exact .twice failed twice

theorem plainQuery_closed_iff (answer : PlainAnswer) (query : Text) (handle : Handle) :
    (plainQuery answer query handle).2 = .closed ↔ handle = .closed := by
  cases handle with
  | live thread session =>
    refine iff_of_false ?_ (Handle.live_ne_closed thread session)
    cases answer with
    | lost => exact Handle.idle_ne_closed thread
    | _ => exact Handle.live_ne_closed _ _
  | _ => exact Iff.rfl

theorem setSessionModes_closed_iff (answers : Text → PlainAnswer) (modes : List Text)
    (handle : Handle) : (setSessionModes answers modes handle).2 = .closed ↔ handle = .closed := by
  induction modes generalizing handle with
  | nil => rfl
  | cons mode modes ih =>
    unfold setSessionModes
    dsimp only
    split
    · rw [ih]
      exact plainQuery_closed_iff _ _ handle
    · exact plainQuery_closed_iff _ _ handle

theorem mysqlPing_closed_iff (answer : PingAnswer) (handle : Handle) :
    (mysqlPing answer handle).2 = .closed ↔ handle = .closed := by
  cases handle with
  | closed => exact Iff.rfl
  | idle thread =>
    refine iff_of_false ?_ (Handle.idle_ne_closed thread)
    cases answer with
    | reconnected other => exact Handle.live_ne_closed _ _
    | _ => exact Handle.idle_ne_closed thread
  | live thread session =>
    refine iff_of_false ?_ (Handle.live_ne_closed thread session)
    cases answer with
    | failed => exact Handle.idle_ne_closed thread
    | _ => exact Handle.live_ne_closed _ _

theorem inTurn_range {inits : Nat} (h : 0 < inits) :
    inTurn (List.range inits) =
      inTurn (List.range (inits - 1)) ++ [.acquire (inits - 1)] ++ [.release (inits - 1)] := by
  obtain ⟨last, rfl⟩ := Nat.exists_eq_succ_of_ne_zero (Nat.ne_of_gt h)
  rw [Nat.succ_sub_one, List.range_succ, inTurn_concat]

/-- A handle that is closed has ended each initialisation, the one before a failed
`mysql_init` twice. -/
theorem mysqlClose_custody (h : conn.Custody) :
    (conn.initFailed = false ∧ (mysqlClose conn).Spent) ∨
      (conn.initFailed = true ∧ (mysqlClose conn).ClosedTwice) := by
  have hevents : (mysqlClose conn).events = conn.events ++ [.release (conn.inits - 1)] := rfl
  cases h with
  | kept failed kept =>
    refine Or.inl ⟨failed, kept.initialised, ?_⟩
    rw [hevents, kept.events]
    exact (inTurn_range kept.initialised).symm
  | spent failed closed spent =>
    refine Or.inr ⟨failed, conn.inits - 1, ?_⟩
    rw [hevents, spent.events, inTurn_range spent.initialised, List.count_append,
      List.count_append, List.count_singleton_self]
    omega
  | twice failed twice =>
    obtain ⟨init, hcount⟩ := twice
    refine Or.inr ⟨failed, init, ?_⟩
    rw [hevents, List.count_append]
    omega

/-- What `db_connect` does to a handle. -/
theorem dbConnect_cases {env : ConnectEnv} {result : Bool × DbConnection}
    (h : dbConnect cfg type env conn = .ok result) :
    result = (false, mysqlInit env.init conn) ∨
      env.init = true ∧ ∃ attempt thread,
        env.attempts (connectCall cfg type env.stat) attempt = .ok thread ∧
          result = (true, { mysqlInit true conn with handle := .live thread [] }) := by
  unfold dbConnect at h
  dsimp only at h
  split_ifs at h with hstrdup hinit
  · obtain ⟨-, -, hloop⟩ := Base.Stages.bind_eq_ok.1 h
    rw [hinit] at hloop
    split at hloop
    · cases hloop
      rw [hinit]
      exact Or.inl rfl
    · rename_i thread hthread
      cases hloop
      obtain ⟨attempt, hattempt⟩ := connectFrom_eq_some hthread
      exact Or.inr ⟨hinit, attempt, thread, hattempt, rfl⟩
  · cases h
    exact Or.inl rfl

/-- `mysql_init` on a handle that was just closed. -/
theorem mysqlInit_custody (h : conn.Custody) (succeeds : Bool) :
    (mysqlInit succeeds (mysqlClose conn)).Custody := by
  rcases mysqlClose_custody h with ⟨failed, spent⟩ | ⟨failed, twice⟩
  · cases succeeds with
    | true =>
      refine .kept failed ⟨Nat.succ_pos _, Handle.idle_ne_closed 0, ?_⟩
      show (mysqlClose conn).events ++ [.acquire conn.inits] = _
      rw [spent.events]
      rfl
    | false => exact .spent rfl rfl ⟨spent.initialised, spent.events⟩
  · obtain ⟨init, hcount⟩ := twice
    cases succeeds with
    | true =>
      refine .twice failed ⟨init, ?_⟩
      show 2 ≤ ((mysqlClose conn).events ++ [Event.acquire conn.inits]).count (.release init)
      rw [List.count_append]
      omega
    | false => exact .twice rfl ⟨init, hcount⟩

/-- `db_connect` on a handle that was just closed. -/
theorem dbConnect_custody {env : ConnectEnv} {result : Bool × DbConnection} (h : conn.Custody)
    (hconnect : dbConnect cfg type env (mysqlClose conn) = .ok result) :
    result.2.Custody := by
  rcases dbConnect_cases hconnect with rfl | ⟨hinit, attempt, thread, -, rfl⟩
  · exact mysqlInit_custody h env.init
  · exact (mysqlInit_custody h true).congr
      (iff_of_false (Handle.live_ne_closed _ _) (Handle.idle_ne_closed 0))

/-- No call of a statement loses track of the handle. -/
theorem keptBySends_custody :
    KeptBySends cfg type (fun _ => True) DbConnection.Custody where
  query := by
    intro send query conn h
    unfold mysqlQuery
    split
    · rename_i thread session hlive
      refine h.congr ?_
      rw [hlive]
      refine iff_of_false ?_ (Handle.live_ne_closed thread session)
      split
      · exact Handle.idle_ne_closed thread
      · exact Handle.live_ne_closed thread _
    · exact h
  reconnect := by
    intro call conn result _ h hresult
    have hping : DbConnection.Custody
        { conn with handle := (mysqlPing call.ping conn.handle).2 } :=
      h.congr (mysqlPing_closed_iff call.ping conn.handle)
    unfold dbReconnectOn at hresult
    dsimp only at hresult
    split_ifs at hresult
    · cases hresult
      exact hping.congr ((setSessionModes_closed_iff _ _ _).trans (plainQuery_closed_iff _ _ _))
    · cases hresult
      exact hping
    · obtain ⟨connected, hconnect, hend⟩ := Base.Stages.map_eq_ok.1 hresult
      have hcustody := dbConnect_custody hping hconnect
      split_ifs at hend
      · rw [← hend]
        exact hcustody.congr (setSessionModes_closed_iff _ _ _)
      · rw [← hend]
        exact hcustody

/-- An entry that `db_create_connection_pool` has opened. -/
theorem openPoolEntry_eq_ok {env : ConnectEnv} {modes : Text → PlainAnswer}
    (h : openPoolEntry cfg type env modes = .ok conn) :
    ∃ thread, conn = ⟨.live thread (acceptedModes sessionModes), 1, [.acquire 0], false, []⟩ := by
  obtain ⟨result, hconnect, hmodes⟩ := Base.Stages.bind_eq_ok.1 h
  rcases dbConnect_cases hconnect with rfl | ⟨hinit, attempt, thread, -, rfl⟩
  · cases hmodes
  · refine ⟨thread, ?_⟩
    dsimp only [dbSetSessionModeOn] at hmodes
    rw [if_pos rfl] at hmodes
    rcases setSessionModes_cases modes sessionModes thread [] with hall | ⟨k, mode, -, hset⟩ | hset
    · rw [hall] at hmodes
      cases hmodes
      rfl
    · rw [hset] at hmodes
      cases hmodes
    · rw [hset] at hmodes
      cases hmodes

/-- Over the whole life of a pool entry every initialisation of its handle is ended by one
`mysql_close`, exactly if `mysql_init` has not failed when a connection was replaced.
After such a failure a handle that is not initialised is closed again. -/
theorem poolEntryLife_closed_once {env : ConnectEnv} {modes : Text → PlainAnswer}
    {statements : List DbStatement} {after : DbConnection}
    (h : poolEntryLife cfg type env modes statements = .ok after) :
    (Balanced after.events ↔ after.initFailed = false) ∧
      (after.initFailed = true → after.ClosedTwice) := by
  obtain ⟨opened, hopen, hrest⟩ := Base.Stages.bind_eq_ok.1 h
  obtain ⟨last, hlast, rfl⟩ := Base.Stages.map_eq_ok.1 hrest
  obtain ⟨thread, rfl⟩ := openPoolEntry_eq_ok hopen
  have hstart : DbConnection.Custody
      ⟨.live thread (acceptedModes sessionModes), 1, [.acquire 0], false, []⟩ :=
    .kept rfl ⟨Nat.one_pos, Handle.live_ne_closed _ _, rfl⟩
  have hcustody := keptBySends_custody.statementsOn (fun _ _ _ => trivial) hstart hlast
  rcases mysqlClose_custody hcustody with ⟨failed, spent⟩ | ⟨failed, twice⟩
  · have hnot : (mysqlClose last).initFailed = false := failed
    refine ⟨iff_of_true ?_ hnot, fun hfailed => by cases hnot.symm.trans hfailed⟩
    rw [spent.events]
    exact balanced_inTurn List.nodup_range
  · have hfailed : (mysqlClose last).initFailed = true := failed
    obtain ⟨init, hcount⟩ := twice
    refine ⟨iff_of_false (not_balanced_of_releases hcount) ?_, fun _ => ⟨init, hcount⟩⟩
    rw [hfailed]
    decide

end Custody

/-- A library that answers every call. -/
private def answeringEnv (init : Bool) : ConnectEnv where
  strdup := true
  stat := fun _ => none
  init := init
  accepts := fun _ => true
  attempts := fun _ _ => .ok 7

/-- A statement whose connection is lost once.  The next connection may find no memory for
its handle, and its statements for the modes are answered as given. -/
private def lostStatement (init : Bool) (modes : Text → PlainAnswer) : DbStatement where
  query := lit "SELECT 1"
  sends
    | 0 => ⟨some 2013, 2006, false, false, ⟨.failed, .ok, modes, answeringEnv init, modes⟩⟩
    | _ => ⟨none, 2006, true, false, ⟨.alive, .ok, modes, answeringEnv true, modes⟩⟩

private def plainDatabase : DatabaseSettings where
  host := lit "localhost"
  user := lit "cacti"
  password := lit "cacti"
  database := lit "cacti"
  port := 3306
  ssl := 0
  sslKey := []
  sslCa := []
  sslCert := []

private def plainConnect : ConnectConfig where
  pollerId := 1
  database := plainDatabase
  remoteDatabase := plainDatabase
  hasRetryCount := true
  hasSslKey := true
  hasSslVerifyServerCert := true

/-- The memory for the next handle is missing, and the handle is closed twice. -/
theorem poolEntryLife_closed_twice :
    ∃ after, poolEntryLife plainConnect .localDb (answeringEnv true) (fun _ => .ok)
        [lostStatement false fun _ => .ok] = .ok after ∧
      ¬ Balanced after.events ∧ after.ClosedTwice := by
  have hlife : poolEntryLife plainConnect .localDb (answeringEnv true) (fun _ => .ok)
      [lostStatement false fun _ => .ok] =
        .ok ⟨.closed, 1, [.acquire 0, .release 0, .release 0], true,
          [acceptedModes sessionModes]⟩ := rfl
  obtain ⟨hiff, htwice⟩ := poolEntryLife_closed_once hlife
  exact ⟨_, hlife, fun hbalanced => (by cases hiff.1 hbalanced), htwice rfl⟩

/-! ## How every session begins -/

section Sessions

variable {cfg : ConnectConfig} {type : DbMode}

/-- The library does not connect again by itself, which Spine does not ask for, and the
server gives every session a positive number. -/
structure ReconnectCall.Documented (call : ReconnectCall) : Prop where
  ping : ∀ thread, call.ping ≠ .reconnected thread
  threads : ∀ target attempt thread, call.connect.attempts target attempt = .ok thread →
    0 < thread

/-- The session was configured when it was opened, or a statement for that was refused. -/
def SetUp (session : SessionLog) : Prop := Configured session ∨ ModeRefused session

theorem SetUp.append {session : SessionLog} (h : SetUp session) (later : SessionLog) :
    SetUp (session ++ later) := by
  cases h with
  | inl hconfigured => exact Or.inl (hconfigured.trans (List.prefix_append _ _))
  | inr hrefused =>
    obtain ⟨k, mode, hmode, hbegin⟩ := hrefused
    exact Or.inr ⟨k, mode, hmode, hbegin.trans (List.prefix_append _ _)⟩

/-- What `db_set_session_mode` leaves of a new session. -/
theorem setSessionModes_setUp {answers : Text → PlainAnswer} {thread other : Nat}
    {session : SessionLog}
    (h : (setSessionModes answers sessionModes (.live thread [])).2 = .live other session) :
    SetUp session := by
  rcases setSessionModes_cases answers sessionModes thread [] with hall | ⟨k, mode, hk, hrefused⟩ |
    hlost
  · rw [hall] at h
    cases h
    exact Or.inl List.prefix_rfl
  · rw [hrefused] at h
    cases h
    exact Or.inr ⟨k, mode, hk, List.prefix_rfl⟩
  · rw [hlost] at h
    cases h

/-- The session of the handle and those of the statements that were sent. -/
structure DbConnection.SessionsSetUp (conn : DbConnection) : Prop where
  live : ∀ thread session, conn.handle = .live thread session → SetUp session
  sent : ∀ session ∈ conn.sent, SetUp session

/-- A handle without a session keeps what was sent. -/
theorem DbConnection.SessionsSetUp.ofNotLive {conn after : DbConnection}
    (h : conn.SessionsSetUp) (hsent : after.sent = conn.sent)
    (hlive : ∀ thread session, after.handle ≠ .live thread session) : after.SessionsSetUp :=
  ⟨fun thread session heq => absurd heq (hlive thread session),
    fun session hmem => h.sent session (hsent ▸ hmem)⟩

theorem mysqlInit_sent (succeeds : Bool) (conn : DbConnection) :
    (mysqlInit succeeds conn).sent = conn.sent := by
  cases succeeds <;> rfl

theorem mysqlInit_not_live (succeeds : Bool) (conn : DbConnection) (thread : Nat)
    (session : SessionLog) : (mysqlInit succeeds conn).handle ≠ .live thread session := by
  cases succeeds <;> exact fun h => by cases h

/-- A ping that does not connect again leaves the session, or ends it. -/
theorem mysqlPing_cases {answer : PingAnswer} (h : ∀ thread, answer ≠ .reconnected thread)
    (handle : Handle) :
    (mysqlPing answer handle).2.thread = handle.thread ∧
      ((mysqlPing answer handle).2 = handle ∨
        ∀ thread session, (mysqlPing answer handle).2 ≠ .live thread session) := by
  cases answer with
  | reconnected thread => exact absurd rfl (h thread)
  | failed =>
    cases handle with
    | live thread session => exact ⟨rfl, Or.inr fun _ _ h => by cases h⟩
    | _ => exact ⟨rfl, Or.inl rfl⟩
  | alive => cases handle <;> exact ⟨rfl, Or.inl rfl⟩

theorem keptBySends_setUp :
    KeptBySends cfg type ReconnectCall.Documented DbConnection.SessionsSetUp where
  query := by
    intro send query conn h
    unfold mysqlQuery
    split
    · rename_i thread session hlive
      have hsession := h.live thread session hlive
      refine ⟨fun other later heq => ?_, fun other hmem => ?_⟩
      · dsimp only at heq
        split at heq
        · cases heq
        · cases heq
          exact hsession.append _
      · rcases List.mem_append.1 hmem with hbefore | hnow
        · exact h.sent other hbefore
        · rw [List.mem_singleton.1 hnow]
          exact hsession
    · exact h
  reconnect := by
    intro call conn result hcall h hresult
    obtain ⟨hthread, hping⟩ := mysqlPing_cases hcall.ping conn.handle
    have hpinged : DbConnection.SessionsSetUp
        { conn with handle := (mysqlPing call.ping conn.handle).2 } := by
      rcases hping with hsame | hnot
      · rw [hsame]
        exact h
      · exact h.ofNotLive rfl hnot
    unfold dbReconnectOn at hresult
    dsimp only at hresult
    rw [if_neg (not_not.2 hthread)] at hresult
    split_ifs at hresult
    · cases hresult
      exact hpinged
    · obtain ⟨connected, hconnect, rfl⟩ := Base.Stages.map_eq_ok.1 hresult
      rcases dbConnect_cases hconnect with rfl | ⟨-, attempt, thread, hattempt, rfl⟩
      · exact h.ofNotLive (mysqlInit_sent _ _) (mysqlInit_not_live _ _)
      · have hpos : 0 < thread := hcall.threads _ attempt thread hattempt
        rw [if_pos ⟨rfl, hpos⟩]
        exact ⟨fun other session heq => setSessionModes_setUp heq, h.sent⟩

/-- Whatever connections are lost and replaced, every statement that is sent in the life
of a pool entry is sent in a session that began with the seven statements of
`db_set_session_mode` in their order.  The server took them all, or it took those before
one that it refused. -/
theorem poolEntryLife_sessions {env : ConnectEnv} {modes : Text → PlainAnswer}
    {statements : List DbStatement} {after : DbConnection}
    (hcalls : ∀ statement ∈ statements, ∀ k, (statement.sends k).reconnect.Documented)
    (h : poolEntryLife cfg type env modes statements = .ok after) :
    ∀ session ∈ after.sent, Configured session ∨ ModeRefused session := by
  obtain ⟨opened, hopen, hrest⟩ := Base.Stages.bind_eq_ok.1 h
  obtain ⟨last, hlast, rfl⟩ := Base.Stages.map_eq_ok.1 hrest
  obtain ⟨thread, rfl⟩ := openPoolEntry_eq_ok hopen
  have hstart : DbConnection.SessionsSetUp
      ⟨.live thread (acceptedModes sessionModes), 1, [.acquire 0], false, []⟩ :=
    ⟨fun _ _ heq => by cases heq; exact Or.inl List.prefix_rfl, fun _ hmem => by cases hmem⟩
  exact (keptBySends_setUp.statementsOn hcalls hstart hlast).sent

/-- A server that refuses the statement for `TRADITIONAL`. -/
private def refusingModes (query : Text) : PlainAnswer :=
  if query = sessionModeQuery (lit "TRADITIONAL") then .failed else .ok

/-- A connection is lost and replaced, and a statement for the modes is refused in the new
session.  The lost statement fails, and the next one is sent in that session. -/
theorem poolEntryLife_sessions_refused :
    ∃ after first second, poolEntryLife plainConnect .localDb (answeringEnv true) (fun _ => .ok)
        [lostStatement true refusingModes, lostStatement true refusingModes] = .ok after ∧
      after.sent = [first, second] ∧ Configured first ∧ ¬ Configured second ∧
      ModeRefused second := by
  have hlife : ∃ after, poolEntryLife plainConnect .localDb (answeringEnv true) (fun _ => .ok)
      [lostStatement true refusingModes, lostStatement true refusingModes] = .ok after ∧
        after.sent = [acceptedModes sessionModes, acceptedModes (sessionModes.take 4) ++
          [(sessionModeQuery (lit "TRADITIONAL"), false)]] := ⟨_, rfl, rfl⟩
  obtain ⟨after, hlife, hsent⟩ := hlife
  have hnot : ¬ Configured (acceptedModes (sessionModes.take 4) ++
      [(sessionModeQuery (lit "TRADITIONAL"), false)]) := by
    unfold Configured
    decide
  have hcalls : ∀ statement ∈ [lostStatement true refusingModes, lostStatement true refusingModes],
      ∀ k, (statement.sends k).reconnect.Documented := by
    intro statement hstatement k
    obtain rfl : statement = lostStatement true refusingModes := by simpa using hstatement
    have hthread : ∀ target attempt thread,
        (answeringEnv true).attempts target attempt = .ok thread → 0 < thread := by
      intro target attempt thread hok
      cases hok
      decide
    cases k with
    | zero => exact ⟨fun _ hping => (by cases hping), hthread⟩
    | succ k => exact ⟨fun _ hping => (by cases hping), hthread⟩
  have hsessions := poolEntryLife_sessions hcalls hlife
  rw [hsent] at hsessions
  exact ⟨after, _, _, hlife, hsent, List.prefix_rfl, hnot,
    (hsessions _ (by simp)).resolve_left hnot⟩

end Sessions

end Spine
