import Mathlib.Data.Rat.Defs
import Mathlib.Tactic
import ModStatsd.Core.CString

/-!
# The statsd client (`statsd.c`)

`struct statsd` buffers metrics in a sub-pool of its own pool and hands the buffer to `sendto(2)`.
The model keeps what matters for the buffer:

* which pool a buffer was allocated from, and which pools have been destroyed, so that a send of
  freed memory is visible (`Sendto.live`);
* the length that is passed to `sendto` next to the text it is meant to describe;
* the send loop's `EINTR` retry with the handlers that `pr_signals_handle()` runs there, which may
  call back into the same client (`Call`, `Attempts`).

`NULL` arguments are excluded by the types (a `CString` is not `NULL`); `pr_trace_msg` is left out.
-/

namespace ModStatsd

abbrev Errno := Nat

def einval : Errno := 22

/-! ## Constants of `statsd.h` -/

def statsdMaxUdpPacketSize : Nat := 512

/-- The max length of a single metric is the same as the max packet size. -/
def statsdMaxMetricSize : Nat := statsdMaxUdpPacketSize

/-- A C `int` used as a bit set. -/
abbrev Flags := BitVec 32

def flSendNow : Flags := 0x0001#32

/-! ## Addresses, pools and buffers -/

/-- `pr_netaddr_t`: an IP address and a port in host order. -/
structure NetAddr where
  ipstr : CString
  port : UInt16
  deriving DecidableEq, Repr

inductive Pool
  -- the client's own pool
  | client
  -- the `k`-th sub-pool made for pending metrics
  | metrics (k : Nat)
  deriving DecidableEq, Repr

/-- A `char *` into pool memory. -/
structure Buf where
  text : CString
  pool : Pool
  deriving DecidableEq, Repr

/-- `struct statsd`. -/
structure Statsd where
  addr : Option NetAddr
  fd : Int
  useTcp : Bool
  sampling : ℚ
  prefixLabel : Option CString
  suffixLabel : Option CString
  metricsPool : Option Nat
  metricsBuf : Option Buf
  metricsBuflen : Nat
  deriving DecidableEq, Repr

/-! ## `sendto(2)` -/

/-- How a `sendto` that was not interrupted ends: the kernel took all of the buffer, only its first
`n` bytes, or nothing. -/
inductive Completion
  | sent
  | short (n : Nat)
  | failed (errno : Errno)
  deriving DecidableEq, Repr

inductive SendResult
  | eintr
  | completed (c : Completion)
  deriving DecidableEq, Repr

structure Sendto where
  fd : Int
  addr : Option NetAddr
  buf : Option Buf
  len : Nat
  -- was the memory behind `buf` still allocated?
  live : Bool
  result : SendResult
  deriving DecidableEq, Repr

namespace Sendto

/-- The `len` bytes the kernel is shown. -/
def bytes (s : Sendto) : List Cell :=
  match s.buf with
  | some buf => if s.live then buf.text.read s.len else List.replicate s.len Cell.heap
  | none => List.replicate s.len Cell.heap

/-- The bytes the kernel takes over. -/
def accepted (s : Sendto) : List Cell :=
  match s.result with
  | .completed .sent => s.bytes
  | .completed (.short n) => s.bytes.take n
  | .completed (.failed _) => []
  | .eintr => []

def isCompleted (s : Sendto) : Bool :=
  match s.result with
  | .completed _ => true
  | .eintr => false

def isSent (s : Sendto) : Bool :=
  match s.result with
  | .completed .sent => true
  | _ => false

def isFailed (s : Sendto) : Bool :=
  match s.result with
  | .completed (.failed _) => true
  | _ => false

@[simp] theorem length_bytes (s : Sendto) : s.bytes.length = s.len := by
  cases hb : s.buf with
  | none => simp [bytes, hb]
  | some buf =>
      by_cases hl : s.live
      · simp [bytes, hb, hl]
      · simp [bytes, hb, hl]

end Sendto

/-! ## The client together with what it has done so far -/

/-- A client, its pools and its history: every `sendto` call, oldest first, and every metric that
`statsd_statsd_write` accepted. -/
structure World where
  statsd : Statsd
  nextPool : Nat
  destroyed : List Nat
  closed : Bool
  sends : List Sendto
  accepted : List CString
  deriving DecidableEq, Repr

namespace World

def start (statsd : Statsd) : World :=
  { statsd := statsd
    nextPool := 0
    destroyed := []
    closed := false
    sends := []
    accepted := [] }

/-- Is the memory behind `buf` still allocated? -/
def live (w : World) (buf : Buf) : Bool :=
  match buf.pool with
  | .client => !w.closed
  | .metrics k => decide (k ∉ w.destroyed)

/-- `sendto(statsd->fd, buf, len, 0, ...)`, ending in `r`. -/
def call (w : World) (buf : Option Buf) (len : Nat) (r : SendResult) : Sendto :=
  { fd := w.statsd.fd
    addr := w.statsd.addr
    buf := buf
    len := len
    live := (buf.map w.live).getD true
    result := r }

def sendto (w : World) (buf : Option Buf) (len : Nat) (r : SendResult) : World :=
  { w with sends := w.sends ++ [w.call buf len r] }

/-- `statsd->metrics_pool = make_sub_pool(statsd->pool)`. -/
def makeMetricsPool (w : World) : World :=
  { w with
    nextPool := w.nextPool + 1
    statsd := { w.statsd with metricsPool := some w.nextPool } }

/-- Note that `statsd_statsd_write` accepted `metric`. -/
def accept (w : World) (metric : CString) : World :=
  { w with accepted := w.accepted ++ [metric] }

@[simp] theorem statsd_accept (w : World) (metric : CString) :
    (w.accept metric).statsd = w.statsd := rfl

/-- `statsd->metrics_buf = buf; statsd->metrics_buflen = len`. -/
def setBuf (w : World) (buf : Option Buf) (len : Nat) : World :=
  { w with statsd := { w.statsd with metricsBuf := buf, metricsBuflen := len } }

end World

/-! ## Opening -/

/-- What the system calls of `statsd_statsd_open` return. -/
structure SocketEnv where
  socket : Except Errno Int
  connect : Except Errno Unit

/-- The client `statsd_statsd_open` fills in. -/
def Statsd.fresh (addr : NetAddr) (fd : Int) (useTcp : Bool) (sampling : ℚ)
    (prefixLabel suffixLabel : Option CString) : Statsd :=
  { addr := some addr
    fd := fd
    useTcp := useTcp
    sampling := sampling
    prefixLabel := prefixLabel
    suffixLabel := suffixLabel
    metricsPool := none
    metricsBuf := none
    metricsBuflen := 0 }

def statsdStatsdOpen (env : SocketEnv) (addr : Option NetAddr) (useTcp : Bool) (sampling : ℚ)
    (prefixLabel suffixLabel : Option CString) : Except Errno Statsd :=
  match addr with
  | none => .error einval
  | some addr =>
      if sampling < 0 ∨ sampling > 1 then .error einval
      else
        match env.socket with
        | .error xerrno => .error xerrno
        | .ok fd =>
            -- only a TCP socket is connected; a failure to set TCP_NODELAY is only traced
            match useTcp, env.connect with
            | true, .error xerrno => .error xerrno
            | _, _ => .ok (Statsd.fresh addr fd useTcp sampling prefixLabel suffixLabel)

section Open

variable {env : SocketEnv} {addr : Option NetAddr} {useTcp : Bool} {sampling : ℚ}
  {prefixLabel suffixLabel : Option CString} {statsd : Statsd}

/-- A client that was opened has its arguments, and nothing pending. -/
theorem statsdStatsdOpen_ok
    (h : statsdStatsdOpen env addr useTcp sampling prefixLabel suffixLabel = .ok statsd) :
    ∃ a fd, addr = some a ∧ 0 ≤ sampling ∧ sampling ≤ 1 ∧
      statsd = Statsd.fresh a fd useTcp sampling prefixLabel suffixLabel := by
  cases addr with
  | none => simp [statsdStatsdOpen] at h
  | some a =>
      by_cases hs : sampling < 0 ∨ sampling > 1
      · simp [statsdStatsdOpen, hs] at h
      · have hrange : 0 ≤ sampling ∧ sampling ≤ 1 := by
          rw [not_or, not_lt, not_lt] at hs
          exact hs
        cases hsock : env.socket with
        | error e => simp [statsdStatsdOpen, hs, hsock] at h
        | ok fd =>
            -- on UDP the result of `connect` is not looked at
            cases htcp : useTcp <;> cases hconn : env.connect <;>
              simp [statsdStatsdOpen, hs, hsock, htcp, hconn] at h
            all_goals exact ⟨a, fd, rfl, hrange.1, hrange.2, h.symm⟩

theorem statsdStatsdOpen_fresh {a : NetAddr} {fd : Int} (h0 : 0 ≤ sampling) (h1 : sampling ≤ 1)
    (hsock : env.socket = .ok fd) (hconn : useTcp = true → env.connect = .ok ()) :
    statsdStatsdOpen env (some a) useTcp sampling prefixLabel suffixLabel =
      .ok (Statsd.fresh a fd useTcp sampling prefixLabel suffixLabel) := by
  have hs : ¬ (sampling < 0 ∨ sampling > 1) := by
    rw [not_or, not_lt, not_lt]
    exact ⟨h0, h1⟩
  cases htcp : useTcp with
  | false => simp [statsdStatsdOpen, hs, hsock]
  | true => simp [statsdStatsdOpen, hs, hsock, hconn htcp]

end Open

/-- A client of a server on the loopback address. -/
def loopback (useTcp : Bool) : Statsd :=
  Statsd.fresh { ipstr := CString.lit "127.0.0.1", port := 8125 } 3 useTcp 1 none none

theorem statsdStatsdOpen_loopback (useTcp : Bool) :
    statsdStatsdOpen { socket := .ok 3, connect := .ok () }
      (some { ipstr := CString.lit "127.0.0.1", port := 8125 }) useTcp 1 none none =
        .ok (loopback useTcp) :=
  statsdStatsdOpen_fresh (by norm_num) le_rfl rfl (fun _ => rfl)

/-! ## Writing and flushing, over a given way to send -/

/-- What `send_metrics(statsd, buf, len)` does to the world. -/
abbrev Send := Option Buf → Nat → World → World

/-- `send_metrics` around its `while (TRUE)` loop. -/
def sendMetrics (loop : Send) : Send := fun buf len w =>
  match w.statsd.addr with
  | some _ => loop buf len w
  -- no address, no loop
  | none => w

def clearMetrics (w : World) : World :=
  { w with
    -- `destroy_pool` frees every buffer allocated from the sub-pool
    destroyed := w.statsd.metricsPool.toList ++ w.destroyed
    statsd := { w.statsd with metricsPool := none, metricsBuf := none, metricsBuflen := 0 } }

def newline : CString := CString.lit "\n"

/-- The TCP branch: existing buffered metrics are not looked at, and the line is terminated.  The
text is allocated from the client's own pool, not from the new sub-pool. -/
def bufferTcp (metric : CString) (metricLen : Nat) (w : World) : World :=
  w.makeMetricsPool.setBuf
    (some { text := (metric.pstrndup metricLen).pstrcat newline, pool := .client })
    (metricLen + 1)

/-- The pair `send_metrics(statsd, ...); clear_metrics(statsd);` on the pending buffer. -/
def sendAndClear (send : Send) (w : World) : World :=
  clearMetrics (send w.statsd.metricsBuf w.statsd.metricsBuflen w)

/-- Would this metric put us over the max packet size? -/
def overflows (w : World) (metricLen : Nat) : Prop :=
  w.statsd.metricsBuf.isSome ∧ w.statsd.metricsBuflen + metricLen + 1 > statsdMaxUdpPacketSize

instance (w : World) (metricLen : Nat) : Decidable (overflows w metricLen) := by
  unfold overflows
  infer_instance

def flushOverflow (overflow : Send) (metricLen : Nat) (w : World) : World :=
  if overflows w metricLen then sendAndClear overflow w else w

/-- The UDP branch below the overflow check. -/
def bufferUdp (metric : CString) (metricLen : Nat) (w : World) : World :=
  match w.statsd.metricsBuf with
  | some buf =>
      -- the append copies all of `metric`; given a `NULL` pool, `pstrcat` returns `NULL`
      w.setBuf
        (w.statsd.metricsPool.map fun k =>
          { text := (buf.text.pstrcat newline).pstrcat metric, pool := .metrics k })
        (w.statsd.metricsBuflen + (metricLen + 1))
  | none =>
      w.makeMetricsPool.setBuf
        (some { text := metric.pstrndup metricLen, pool := .metrics w.nextPool }) metricLen

def bufferMetric (overflow : Send) (metric : CString) (metricLen : Nat) (w : World) : World :=
  if w.statsd.useTcp then bufferTcp metric metricLen w
  else bufferUdp metric metricLen (flushOverflow overflow metricLen w)

/-- Is `STATSD_STATSD_FL_SEND_NOW` set, once TCP has set it? -/
def sendsNow (useTcp : Bool) (flags : Flags) : Bool :=
  decide ((if useTcp then flags ||| flSendNow else flags) &&& flSendNow ≠ 0#32)

@[simp] theorem sendsNow_tcp (flags : Flags) : sendsNow true flags = true := by
  have hset : (flags ||| flSendNow) &&& flSendNow ≠ 0#32 := by
    -- bit 0 is set on the left
    intro h
    have hbit := congrArg (fun f => f.getLsbD 0) h
    simp [flSendNow] at hbit
  simpa [sendsNow] using hset

/-- `statsd_statsd_write` below its argument check. -/
def writeMetricBuf (overflow now : Send) (metric : CString) (metricLen : Nat) (flags : Flags)
    (w : World) : World :=
  -- a write that gets here returns 0: its first `metric_len` bytes are accepted
  let w' := bufferMetric overflow metric metricLen (w.accept (metric.pstrndup metricLen))
  if sendsNow w.statsd.useTcp flags then sendAndClear now w' else w'

def statsdStatsdWrite (overflow now : Send) (metric : CString) (metricLen : Nat) (flags : Flags)
    (w : World) : Except Errno World :=
  if metricLen = 0 then .error einval
  else .ok (writeMetricBuf overflow now metric metricLen flags w)

def statsdStatsdFlush (send : Send) (w : World) : World :=
  sendAndClear send w

/-- Flush any pending metrics, close the socket and destroy the client's pool. -/
def statsdStatsdClose (send : Send) (w : World) : World :=
  { statsdStatsdFlush send w with closed := true }

/-! ## The send loop and the calls it can be interrupted by -/

mutual

/-- A call of the client's API, with what the kernel does at each of its sends. -/
inductive Call
  | write (metric : CString) (metricLen : Nat) (flags : Flags) (overflow now : Attempts)
  | flush (send : Attempts)

/-- The successive `sendto` calls of one `send_metrics`: interrupted ones, each with the API calls
made by the handlers that `pr_signals_handle()` runs, and the one that completes. -/
inductive Attempts
  | done (c : Completion)
  | eintr (handled : List Call) (retry : Attempts)

end

mutual

/-- The `while (TRUE)` loop of `send_metrics`.  `buf` and `len` are its arguments: they are not
read again from the client after a handler has run. -/
def sendLoop : Attempts → Send
  | .done c, buf, len, w => w.sendto buf len (.completed c)
  | .eintr handled retry, buf, len, w =>
      -- `pr_signals_handle(); continue;`
      sendLoop retry buf len (runCalls handled (w.sendto buf len .eintr))

def runCalls : List Call → World → World
  | [], w => w
  | c :: cs, w => runCalls cs (c.run w)

def Call.run : Call → World → World
  | .write metric metricLen flags overflow now, w =>
      match statsdStatsdWrite (sendMetrics (sendLoop overflow)) (sendMetrics (sendLoop now))
          metric metricLen flags w with
      | .ok w' => w'
      -- `EINVAL` comes before anything is touched
      | .error _ => w
  | .flush send, w => statsdStatsdFlush (sendMetrics (sendLoop send)) w

end

namespace Attempts

/-- `send_metrics(statsd, buf, len)` when its `sendto` calls go as `o` says. -/
def send (o : Attempts) : Send :=
  sendMetrics (sendLoop o)

def completion : Attempts → Completion
  | .done c => c
  | .eintr _ retry => retry.completion

/-- Every API call a handler makes during these attempts, in order. -/
def handled : Attempts → List Call
  | .done _ => []
  | .eintr cs retry => cs ++ retry.handled

/-- No handler touches the client. -/
def Quiet (o : Attempts) : Prop :=
  o.handled = []

end Attempts

/-! ## What no call changes -/

/-- A client with nothing pending: its address, transport, sampling and labels. -/
def Statsd.config (s : Statsd) : Statsd :=
  { s with metricsPool := none, metricsBuf := none, metricsBuflen := 0 }

theorem Statsd.addr_config (s : Statsd) : s.config.addr = s.addr := rfl

theorem Statsd.useTcp_config (s : Statsd) : s.config.useTcp = s.useTcp := rfl

def Send.KeepsConfig (send : Send) : Prop :=
  ∀ buf len w, (send buf len w).statsd.config = w.statsd.config

theorem Send.KeepsConfig.sendAndClear {send : Send} (h : send.KeepsConfig) (w : World) :
    (sendAndClear send w).statsd.config = w.statsd.config :=
  h w.statsd.metricsBuf w.statsd.metricsBuflen w

theorem Send.KeepsConfig.sendMetrics {loop : Send} (h : loop.KeepsConfig) :
    (sendMetrics loop).KeepsConfig := by
  intro buf len w
  cases hw : w.statsd.addr with
  | none => simp [ModStatsd.sendMetrics, hw]
  | some a => simpa [ModStatsd.sendMetrics, hw] using h buf len w

theorem config_bufferUdp (metric : CString) (metricLen : Nat) (w : World) :
    (bufferUdp metric metricLen w).statsd.config = w.statsd.config := by
  cases hb : w.statsd.metricsBuf with
  | none => simp [bufferUdp, hb, World.setBuf, World.makeMetricsPool, Statsd.config]
  | some buf => simp [bufferUdp, hb, World.setBuf, Statsd.config]

theorem config_bufferMetric {overflow : Send} (h : overflow.KeepsConfig) (metric : CString)
    (metricLen : Nat) (w : World) :
    (bufferMetric overflow metric metricLen w).statsd.config = w.statsd.config := by
  cases htcp : w.statsd.useTcp with
  | true => simp [bufferMetric, htcp, bufferTcp, World.setBuf, World.makeMetricsPool, Statsd.config]
  | false =>
      by_cases hov : overflows w metricLen
      · simp [bufferMetric, htcp, config_bufferUdp, flushOverflow, hov, h.sendAndClear]
      · simp [bufferMetric, htcp, config_bufferUdp, flushOverflow, hov]

theorem config_writeMetricBuf {overflow now : Send} (ho : overflow.KeepsConfig)
    (hn : now.KeepsConfig) (metric : CString) (metricLen : Nat) (flags : Flags) (w : World) :
    (writeMetricBuf overflow now metric metricLen flags w).statsd.config = w.statsd.config := by
  have hbuf := config_bufferMetric ho metric metricLen (w.accept (metric.pstrndup metricLen))
  cases hnow : sendsNow w.statsd.useTcp flags with
  | false => simpa [writeMetricBuf, hnow] using hbuf
  | true => simpa [writeMetricBuf, hnow, hn.sendAndClear] using hbuf

mutual

theorem keepsConfig_sendLoop : ∀ (o : Attempts) (buf : Option Buf) (len : Nat) (w : World),
    (sendLoop o buf len w).statsd.config = w.statsd.config
  | .done _, buf, len, w => rfl
  | .eintr handled retry, buf, len, w => by
      have hretry := keepsConfig_sendLoop retry buf len
        (runCalls handled (w.sendto buf len .eintr))
      have hhandled := config_runCalls handled (w.sendto buf len .eintr)
      rw [sendLoop, hretry, hhandled]
      rfl

theorem config_runCalls : ∀ (cs : List Call) (w : World),
    (runCalls cs w).statsd.config = w.statsd.config
  | [], w => rfl
  | c :: cs, w => by
      rw [runCalls, config_runCalls cs (c.run w), config_run c w]

theorem config_run : ∀ (c : Call) (w : World), (c.run w).statsd.config = w.statsd.config
  | .write metric metricLen flags overflow now, w => by
      have ho : (sendMetrics (sendLoop overflow)).KeepsConfig :=
        Send.KeepsConfig.sendMetrics (keepsConfig_sendLoop overflow)
      have hn : (sendMetrics (sendLoop now)).KeepsConfig :=
        Send.KeepsConfig.sendMetrics (keepsConfig_sendLoop now)
      by_cases h0 : metricLen = 0
      · simp [Call.run, statsdStatsdWrite, h0]
      · simp [Call.run, statsdStatsdWrite, h0, config_writeMetricBuf ho hn]
  | .flush send, w => by
      have hs : (sendMetrics (sendLoop send)).KeepsConfig :=
        Send.KeepsConfig.sendMetrics (keepsConfig_sendLoop send)
      rw [Call.run, statsdStatsdFlush]
      exact hs.sendAndClear w

end

theorem Attempts.keepsConfig_send (o : Attempts) : o.send.KeepsConfig :=
  Send.KeepsConfig.sendMetrics (keepsConfig_sendLoop o)

end ModStatsd
