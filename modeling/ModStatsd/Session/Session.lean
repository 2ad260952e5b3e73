import Mathlib.Data.Finset.Basic
import ModStatsd.Config.Directives
import ModStatsd.Metric.Metric

/-!
# A session of the module (`mod_statsd.c`)

The command and event handlers as functions on the module's globals.  A handler talks to the
client through the metric API and looks at no result but that of opening it, so the session keeps
the calls it makes as a trace.  `Client/` and `Metric/` say what such calls do, and `Lifecycle` that
they are the calls of clients which are opened, used and closed.

* `Session` — the globals, the registered callbacks and the trace;
* `statsdSessInit`, `statsdSessReinitEv`, `statsdExitEv`, ... — the handlers;
* `Session.step` — one command or event, delivered to what is registered for it.

Clock readings, `random(3)`, and what the core is asked for are part of the events.
-/

namespace ModStatsd

/-! ## Names of metrics -/

/-- `response` is the code `pr_response_get_last` gives, if any. -/
def getCmdMetric (cmd : CString) (response : Option CString) : CString :=
  let respCode :=
    -- for a QUIT the last response is not asked for
    if cmd.chars.map Char.toLower = "quit".toList then CString.lit "221"
    else response.getD (CString.lit "-")
  CString.format [CString.lit "command.", cmd, CString.lit ".", respCode]

def getConnMetric (name : Option CString) : CString :=
  match name with
  | none => CString.lit "connection"
  | some name => name.pstrcat (CString.lit ".connection")

inductive LogLevel
  | debug
  | info
  | notice
  | warning
  | err
  | crit
  | alert
  | emerg
  -- any other number
  | other
  deriving DecidableEq, Repr

def getLogLevelMetric (level : LogLevel) : CString :=
  let name := match level with
    | .debug => CString.lit "DEBUG"
    | .info => CString.lit "INFO"
    | .notice => CString.lit "NOTICE"
    | .warning => CString.lit "WARN"
    | .err => CString.lit "ERROR"
    | .crit => CString.lit "CRIT"
    | .alert => CString.lit "ALERT"
    | .emerg => CString.lit "EMERG"
    | .other => CString.lit "unknown"
  (CString.lit "log.").pstrcat name

def getSqlMetric (name : CString) : CString :=
  (CString.lit "sql.").pstrcat name

def getTimeoutMetric (name : CString) : CString :=
  (CString.lit "timeout.").pstrcat name

def getTlsMetric (name : CString) : CString :=
  (CString.lit "tls.").pstrcat name

/-! ## Globals -/

/-- A client that `statsd_statsd_open` returned, with its number among those of the session. -/
structure Client where
  id : Nat
  statsd : Statsd

/-- A call on a client. -/
inductive ClientOp
  | metric (m : MetricCall)
  | flush
  | close
  deriving DecidableEq, Repr

/-- A call that was made: after `should_sample` returned `TRUE` or in any case, and under which
StatsdSampling of the current `main_server`. -/
structure Emission where
  client : Client
  sampled : Bool
  configured : ℚ
  op : ClientOp

/-- The events the module registers for while a session lasts. -/
inductive EventName
  | exit
  | sessionReinit
  | systemlog
  | timeoutIdle
  | timeoutLogin
  | timeoutNoTransfer
  | timeoutSession
  | timeoutStalled
  | sftpSessionOpened
  | scpSessionOpened
  | sqlConnectionOpened
  | sqlConnectionClosed
  | sqlError
  | tlsCtrlHandshakeFailed
  | tlsDataHandshakeFailed
  deriving DecidableEq, Repr

/-- The filter of `StatsdExcludeFilter`: the pattern, and what the compiled regex matches. -/
structure ExcludeFilter where
  pattern : CString
  pre : CString → Bool

/-- The directives of a server; `StatsdExcludeFilter none` is a filter without a pattern. -/
structure ServerConf where
  engine : Option Bool
  server : Option ServerRec
  excludeFilter : Option (Option ExcludeFilter)
  sampling : Option ℚ

/-- The rate that is configured, or `STATSD_DEFAULT_SAMPLING`. -/
def ServerConf.rate (conf : ServerConf) : ℚ :=
  conf.sampling.getD 1

/-- The globals of the module, and the `main_server` of the core. -/
structure Session where
  mainServer : ServerConf
  engine : Bool
  excludeFilter : Option ExcludeFilter
  sampling : ℚ
  sessStartMs : UInt64
  statsd : Option Client
  sqlConnCount : UInt32
  -- events with one of our callbacks; registering one again changes nothing
  registered : Finset EventName
  opened : Nat
  trace : List Emission

namespace Session

/-- The globals before `statsd_sess_init` runs for the first time. -/
def initial (conf : ServerConf) : Session :=
  { mainServer := conf
    engine := false
    excludeFilter := none
    sampling := 1
    sessStartMs := 0
    statsd := none
    sqlConnCount := 0
    registered := ∅
    opened := 0
    trace := [] }

/-- The calls on `statsd`; with `NULL` every one of them returns `EINVAL`. -/
def emissions (s : Session) (sampled : Bool) (ops : List ClientOp) : List Emission :=
  match s.statsd with
  | some c => ops.map fun op =>
      { client := c, sampled := sampled, configured := s.mainServer.rate, op := op }
  | none => []

def perform (sampled : Bool) (ops : List ClientOp) (s : Session) : Session :=
  { s with trace := s.trace ++ s.emissions sampled ops }

/-- `if (statsd != NULL) { statsd_statsd_close(statsd); statsd = NULL; }` -/
def closeClient (s : Session) : Session :=
  { s.perform false [.close] with statsd := none }

def register (names : Finset EventName) (s : Session) : Session :=
  { s with registered := s.registered ∪ names }

end Session

namespace ClientOp

def counter (name : CString) (incr : Int64) (flags : Flags) : ClientOp :=
  .metric (.counter name incr flags)

def timer (name : CString) (ms : UInt64) (flags : Flags) : ClientOp :=
  .metric (.timer name ms flags)

def gauge (name : CString) (val : Int64) (flags : Flags) : ClientOp :=
  .metric (.gauge name val flags)

end ClientOp

/-! ## Command handlers -/

inductive CmdId
  | auth
  | pass
  | other
  deriving DecidableEq, Repr

/-- `cmd_rec`, with its `start_ms` note. -/
structure CmdRec where
  argv0 : CString
  args : List CString
  cmdId : CmdId
  startMs : Option UInt64

/-- What the handler of a command reads from elsewhere. -/
structure CmdEnv where
  nowMs : UInt64
  -- `random() / RAND_MAX`
  draw : ℚ
  response : Option CString
  protocol : CString
  modTls : Bool
  tlsCipher : Option CString
  tlsProtocol : Option CString

def shouldExclude (filter : Option ExcludeFilter) (cmd : CmdRec) : Bool :=
  match filter with
  | some f => f.pre cmd.argv0
  | none => false

def shouldSample (sampling draw : ℚ) : Bool :=
  -- `random()` is not asked if everything is sampled
  decide (sampling ≥ 1) || !decide (draw > sampling)

def logTlsAuthMetrics (cmd : CmdRec) (env : CmdEnv) : List ClientOp :=
  -- the `- startMs` below is a subtraction of `uint64_t`s
  let handshake := getTlsMetric (CString.lit "handshake.ctrl")
  let proto := getConnMetric (some (CString.lit "ftps"))
  [.counter handshake 1 0, .counter proto 1 0, .gauge proto 1 flGaugeAdjust] ++
    (cmd.startMs.map fun startMs => ClientOp.timer handshake (env.nowMs - startMs) 0).toList ++
    (env.tlsCipher.map fun cipher =>
      ClientOp.counter (getTlsMetric ((CString.lit "cipher.").pstrcat cipher)) 1 0).toList ++
    (env.tlsProtocol.map fun protocol =>
      ClientOp.counter (getTlsMetric ((CString.lit "protocol.").pstrcat protocol)) 1 0).toList

/-- One of the modes of mod_tls (vs GSSAPI et al). -/
def isTlsMode (mode : CString) : Bool :=
  decide (mode.chars.map Char.toLower ∈
    ["tls".toList, "tls-c".toList, "tls-p".toList, "ssl".toList])

/-- Does this command end a TLS handshake on the control connection? -/
def authsTls (cmd : CmdRec) (hadError : Bool) (env : CmdEnv) : Bool :=
  env.modTls && decide (cmd.cmdId = .auth) &&
    (match cmd.args with
    | [mode] => isTlsMode mode
    | _ => false) && !hadError

def logTlsMetrics (cmd : CmdRec) (hadError : Bool) (env : CmdEnv) : List ClientOp :=
  if authsTls cmd hadError env then logTlsAuthMetrics cmd env else []

/-- Does this command log in on a plain FTP connection, not FTPS or SFTP or anything else? -/
def logsInFtp (cmd : CmdRec) (hadError : Bool) (env : CmdEnv) : Bool :=
  decide (cmd.cmdId = .pass) && !hadError && decide (env.protocol = CString.lit "ftp")

def logFtpMetrics (cmd : CmdRec) (hadError : Bool) (env : CmdEnv) : List ClientOp :=
  let proto := getConnMetric (some (CString.lit "ftp"))
  if logsInFtp cmd hadError env then [.counter proto 1 0, .gauge proto 1 flGaugeAdjust] else []

/-- The calls for a command that is neither excluded nor skipped. -/
def cmdMetrics (cmd : CmdRec) (hadError : Bool) (env : CmdEnv) : List ClientOp :=
  let metric := getCmdMetric cmd.argv0 env.response
  [.counter metric 1 0] ++
    (cmd.startMs.map fun startMs => ClientOp.timer metric (env.nowMs - startMs) 0).toList ++
    logTlsMetrics cmd hadError env ++ logFtpMetrics cmd hadError env ++ [.flush]

def logCmdMetrics (cmd : CmdRec) (hadError : Bool) (env : CmdEnv) (s : Session) : Session :=
  if s.engine = false then s
  -- excluded, then skipped, commands are only traced
  else if shouldExclude s.excludeFilter cmd then s
  else if shouldSample s.sampling env.draw then
    s.perform true (cmdMetrics cmd hadError env)
  else s

/-! ## Event handlers -/

structure ExitEnv where
  nowMs : UInt64
  -- the `authenticated` parameter is there, and set
  authenticated : Bool
  protocol : CString

/-- `statsd_sql_conn_count * -1` is a product of `unsigned int`s, passed as an `int64_t`. -/
def sqlExitAdjustment (sqlConnCount : UInt32) : Int64 :=
  (sqlConnCount * (-1)).toUInt64.toInt64

def exitMetrics (env : ExitEnv) (s : Session) : List ClientOp :=
  let proto := getConnMetric (some env.protocol)
  -- neither the sampling nor the exclude filter is asked
  [.gauge (getConnMetric none) (-1) flGaugeAdjust] ++
    (if env.authenticated then
      [.gauge proto (-1) flGaugeAdjust, .timer proto (env.nowMs - s.sessStartMs) 0]
    else []) ++
    (if s.sqlConnCount > 0 then
      [.gauge (getConnMetric (some (CString.lit "sql"))) (sqlExitAdjustment s.sqlConnCount)
        flGaugeAdjust]
    else [])

def statsdExitEv (env : ExitEnv) (s : Session) : Session :=
  match s.statsd with
  | some _ => { (s.perform false (exitMetrics env s)).closeClient with sqlConnCount := 0 }
  | none => s

/-- The log level counters are not subject to the sampling frequency. -/
def statsdLogEv (level : LogLevel) : Session → Session :=
  Session.perform false [.counter (getLogLevelMetric level) 1 flIgnoreSampling]

def statsdShutdownEv (s : Session) : Session :=
  s.closeClient

/-- The counter and the gauge of a connection that was opened. -/
def openedMetrics (proto : CString) (flags : Flags) : List ClientOp :=
  [.counter (getConnMetric (some proto)) 1 flags,
    .gauge (getConnMetric (some proto)) 1 flGaugeAdjust, .flush]

/-- The counter of something that is counted whatever the sampling. -/
def countedMetrics (metric : CString) : List ClientOp :=
  [.counter metric 1 flIgnoreSampling, .flush]

def sqlClosedMetrics : List ClientOp :=
  [.gauge (getConnMetric (some (CString.lit "sql"))) (-1) flGaugeAdjust, .flush]

def statsdSqlDbConnClosedEv (s : Session) : Session :=
  let s' := s.perform false sqlClosedMetrics
  -- connections opened before we were listening are not counted
  if s'.sqlConnCount > 0 then { s' with sqlConnCount := s'.sqlConnCount - 1 } else s'

def statsdSqlDbConnOpenedEv (s : Session) : Session :=
  let s' := s.perform false (openedMetrics (CString.lit "sql") flIgnoreSampling)
  { s' with sqlConnCount := s'.sqlConnCount + 1 }

def statsdSqlDbErrorEv : Session → Session :=
  Session.perform false (countedMetrics (getSqlMetric (CString.lit "database.error")))

/-- The SFTP and the SCP session-opened handlers differ in the protocol's name only. -/
def ssh2SessOpened (proto : CString) (draw : ℚ) (s : Session) : Session :=
  if shouldSample s.sampling draw then s.perform true (openedMetrics proto 0) else s

def statsdSsh2SftpSessOpenedEv (draw : ℚ) : Session → Session :=
  ssh2SessOpened (CString.lit "sftp") draw

def statsdSsh2ScpSessOpenedEv (draw : ℚ) : Session → Session :=
  ssh2SessOpened (CString.lit "scp") draw

def incrTimeoutMetric (name : CString) : Session → Session :=
  Session.perform false (countedMetrics (getTimeoutMetric name))

def statsdTimeoutIdleEv : Session → Session :=
  incrTimeoutMetric (CString.lit "TimeoutIdle")

def statsdTimeoutLoginEv : Session → Session :=
  incrTimeoutMetric (CString.lit "TimeoutLogin")

def statsdTimeoutNoxferEv : Session → Session :=
  incrTimeoutMetric (CString.lit "TimeoutNoTransfer")

def statsdTimeoutSessionEv : Session → Session :=
  incrTimeoutMetric (CString.lit "TimeoutSession")

def statsdTimeoutStalledEv : Session → Session :=
  incrTimeoutMetric (CString.lit "TimeoutStalled")

def incrTlsHandshakeErrorMetric (name : CString) : Session → Session :=
  Session.perform false (countedMetrics (getTlsMetric name))

def statsdTlsCtrlHandshakeErrorEv : Session → Session :=
  incrTlsHandshakeErrorMetric (CString.lit "handshake.ctrl.error")

def statsdTlsDataHandshakeErrorEv : Session → Session :=
  incrTlsHandshakeErrorMetric (CString.lit "handshake.data.error")

/-! ## Initialization -/

/-- What the core and the system calls return to `statsd_sess_init`. -/
structure InitEnv where
  -- `pr_netaddr_get_addr`
  resolve : CString → Option CString
  socket : SocketEnv
  nowMs : UInt64
  modSftp : Bool
  modSql : Bool
  modTls : Bool

/-- `pr_netaddr_set_port2` takes an `unsigned short`. -/
def serverAddr (ipstr : CString) (port : Int32) : NetAddr :=
  { ipstr := ipstr
    port := port.toUInt32.toUInt16 }

def sessionEvents (env : InitEnv) : Finset EventName :=
  {.exit, .systemlog, .timeoutIdle, .timeoutLogin, .timeoutNoTransfer, .timeoutSession,
    .timeoutStalled} ∪
    (if env.modSftp then {.sftpSessionOpened, .scpSessionOpened} else ∅) ∪
    (if env.modSql then {.sqlConnectionOpened, .sqlConnectionClosed, .sqlError} else ∅) ∪
    (if env.modTls then {.tlsCtrlHandshakeFailed, .tlsDataHandshakeFailed} else ∅)

/-- `statsd_sess_init` once the client is open. -/
def startReporting (env : InitEnv) (statsd : Statsd) (s : Session) : Session :=
  let s' :=
    { s with
      statsd := some { id := s.opened, statsd := statsd }
      opened := s.opened + 1
      excludeFilter :=
        match s.mainServer.excludeFilter with
        | some (some filter) => some filter
        | _ => s.excludeFilter
      sampling := s.mainServer.sampling.getD s.sampling }
  let s'' := (s'.perform false [.gauge (getConnMetric none) 1 flGaugeAdjust, .flush]).register
    (sessionEvents env)
  -- a HOST command must not restart the clock of the session
  { s'' with sessStartMs := if s''.sessStartMs = 0 then env.nowMs else s''.sessStartMs }

def statsdSessInit (env : InitEnv) (s : Session) : Session :=
  -- HOST is listened to also where the engine is off
  let s' := { s.register {.sessionReinit} with engine := s.mainServer.engine.getD s.engine }
  if s'.engine = false then s'
  else
    match s'.mainServer.server with
    | none => { s' with engine := false }
    | some c =>
        match env.resolve c.host with
        | none => { s' with engine := false }
        | some ipstr =>
            -- the client is opened before StatsdSampling is read
            match statsdStatsdOpen env.socket (some (serverAddr ipstr c.port)) c.useTcp s'.sampling
                c.prefixLabel c.suffixLabel with
            | .error _ => { s' with engine := false, statsd := none }
            | .ok statsd => startReporting env statsd s'

/-- A HOST command changed the `main_server` pointer; reinitialize ourselves. -/
def statsdSessReinitEv (env : InitEnv) (s : Session) : Session :=
  let s' :=
    { s with
      -- the other callbacks stay registered
      registered := (s.registered.erase .exit).erase .sessionReinit
      engine := false
      excludeFilter := none
      sampling := 1 }
  -- the client is closed without a word about the connection
  statsdSessInit env s'.closeClient

/-! ## Delivery -/

inductive Event
  | command (cmd : CmdRec) (hadError : Bool) (env : CmdEnv)
  | exit (env : ExitEnv)
  -- a HOST command, which has changed `main_server` before the event is generated
  | reinit (conf : ServerConf) (env : InitEnv)
  | shutdown
  | log (level : LogLevel)
  | timeoutIdle
  | timeoutLogin
  | timeoutNoxfer
  | timeoutSession
  | timeoutStalled
  | sftpOpened (draw : ℚ)
  | scpOpened (draw : ℚ)
  | sqlOpened
  | sqlClosed
  | sqlError
  | tlsCtrlError
  | tlsDataError

namespace Event

/-- The event a session callback must be registered for; commands and `core.shutdown` reach the
module always. -/
def name? : Event → Option EventName
  | .command _ _ _ => none
  | .exit _ => some .exit
  | .reinit _ _ => some .sessionReinit
  | .shutdown => none
  | .log _ => some .systemlog
  | .timeoutIdle => some .timeoutIdle
  | .timeoutLogin => some .timeoutLogin
  | .timeoutNoxfer => some .timeoutNoTransfer
  | .timeoutSession => some .timeoutSession
  | .timeoutStalled => some .timeoutStalled
  | .sftpOpened _ => some .sftpSessionOpened
  | .scpOpened _ => some .scpSessionOpened
  | .sqlOpened => some .sqlConnectionOpened
  | .sqlClosed => some .sqlConnectionClosed
  | .sqlError => some .sqlError
  | .tlsCtrlError => some .tlsCtrlHandshakeFailed
  | .tlsDataError => some .tlsDataHandshakeFailed

def handle : Event → Session → Session
  | .command cmd hadError env => logCmdMetrics cmd hadError env
  | .exit env => statsdExitEv env
  | .reinit conf env => fun s => statsdSessReinitEv env { s with mainServer := conf }
  | .shutdown => statsdShutdownEv
  | .log level => statsdLogEv level
  | .timeoutIdle => statsdTimeoutIdleEv
  | .timeoutLogin => statsdTimeoutLoginEv
  | .timeoutNoxfer => statsdTimeoutNoxferEv
  | .timeoutSession => statsdTimeoutSessionEv
  | .timeoutStalled => statsdTimeoutStalledEv
  | .sftpOpened draw => statsdSsh2SftpSessOpenedEv draw
  | .scpOpened draw => statsdSsh2ScpSessOpenedEv draw
  | .sqlOpened => statsdSqlDbConnOpenedEv
  | .sqlClosed => statsdSqlDbConnClosedEv
  | .sqlError => statsdSqlDbErrorEv
  | .tlsCtrlError => statsdTlsCtrlHandshakeErrorEv
  | .tlsDataError => statsdTlsDataHandshakeErrorEv

/-- Is the event delivered to the module? -/
def Delivered (e : Event) (s : Session) : Prop :=
  ∀ name ∈ e.name?, name ∈ s.registered

instance (e : Event) (s : Session) : Decidable (e.Delivered s) :=
  match h : e.name? with
  | none => isTrue (by simp [Delivered, h])
  | some name => decidable_of_iff (name ∈ s.registered) (by simp [Delivered, h])

end Event

namespace Session

/-- A session that starts on `conf`. -/
def start (conf : ServerConf) (env : InitEnv) : Session :=
  statsdSessInit env (initial conf)

def step (s : Session) (e : Event) : Session :=
  if e.Delivered s then e.handle s else s

def run (es : List Event) (s : Session) : Session :=
  es.foldl step s

end Session

/-! ## A session on the loopback address -/

/-- A server with this StatsdSampling that reports to `127.0.0.1`. -/
def loopbackConf (sampling : Option ℚ) : ServerConf :=
  { engine := some true
    server := some
      { host := CString.lit "127.0.0.1"
        port := 8125
        useTcp := false
        prefixLabel := none
        suffixLabel := none }
    excludeFilter := none
    sampling := sampling }

def loopbackEnv : InitEnv :=
  { resolve := some
    socket := { socket := .ok 3, connect := .ok () }
    nowMs := 1000
    modSftp := true
    modSql := true
    modTls := true }

theorem start_loopback (sampling : Option ℚ) :
    (Session.start (loopbackConf sampling) loopbackEnv).statsd =
      some { id := 0, statsd := loopback false } := by
  have hport : (8125 : Int32).toUInt32.toUInt16 = 8125 := by decide
  have hopen := statsdStatsdOpen_loopback false
  simp [Session.start, statsdSessInit, loopbackConf, loopbackEnv, Session.initial, Session.register,
    serverAddr, startReporting, Session.perform, hport, hopen]

/-- A login over plain FTP, with its outcome and the draw of `should_sample`. -/
def passCommand (hadError : Bool) (draw : ℚ) : Event :=
  .command
    { argv0 := CString.lit "PASS"
      args := [CString.lit "secret"]
      cmdId := .pass
      startMs := none }
    hadError
    { nowMs := 2000
      draw := draw
      response := some (CString.lit "230")
      protocol := CString.lit "ftp"
      modTls := true
      tlsCipher := none
      tlsProtocol := none }

/-- A handshake that succeeds. -/
def authTlsCommand (draw : ℚ) : Event :=
  .command
    { argv0 := CString.lit "AUTH"
      args := [CString.lit "TLS"]
      cmdId := .auth
      startMs := none }
    false
    { nowMs := 2000
      draw := draw
      response := some (CString.lit "234")
      protocol := CString.lit "ftps"
      modTls := true
      tlsCipher := none
      tlsProtocol := none }

end ModStatsd
