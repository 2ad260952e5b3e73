import ModStatsd.Metric.Wire
import ModStatsd.Session.Reports

/-!
# Timers — is the time that is reported the time that went by?

The response time of a command, the time of a handshake and that of a session are differences of two
readings of the wall clock, taken as `uint64_t`s and then cut to a year.  If the clock was set back
in between, the difference wraps around and comes out as the year: `timers_elapsed_iff`.
-/

namespace ModStatsd

open Lib

/-! ## The value that is printed -/

/-- What stands between the last colon of a line and the next bar.  A label may contain a colon, the
value may not. -/
def valueField (line : List Char) : List Char :=
  (((line.splitOn ':').getLast?.getD []).splitOn '|').headD []

theorem valueField_line (statsd : Statsd) (m : MetricCall) :
    valueField (m.line statsd).chars = m.valueText := by
  have hcolon : Structural ':' := structural_of_reserved (Or.inl rfl)
  have hbar := not_mem_valueText (structural_of_reserved (Or.inr (Or.inl rfl))) m
  have hrate : ':' ∉ (if m.Rated statsd then '|' :: '@' :: Decimal.fixed (m.sampling statsd)
      else []) := by
    split_ifs
    · simp [not_mem_fixed hcolon]
    · exact List.not_mem_nil
  have hrest : ':' ∉ m.valueText ++ '|' :: (m.type.text ++
      if m.Rated statsd then '|' :: '@' :: Decimal.fixed (m.sampling statsd) else []) := by
    have htype := not_mem_text (Or.inl rfl) m.type
    simp only [List.mem_append, List.mem_cons, not_or]
    exact ⟨not_mem_valueText hcolon m, by decide, htype, hrate⟩
  rw [m.chars_line, valueField, Lists.getLast?_splitOn _ hrest, Option.getD_some,
    List.splitOn_append_cons_self_of_not_mem hbar, List.headD_cons]

/-- The name of a metric, and the value in what is handed over for it. -/
def MetricCall.printed (statsd : Statsd) (m : MetricCall) : CString × List Char :=
  (m.name, valueField (m.handed statsd).1.chars)

/-! ## Two readings of the clock -/

/-- A timer, with the readings its value is taken from. -/
structure Timing where
  name : CString
  start : UInt64
  now : UInt64

namespace Timing

/-- The time that went by, at most a year; none if the clock went back. -/
def elapsed (t : Timing) : Nat :=
  if t.start ≤ t.now then min (t.now.toNat - t.start.toNat) statsdMaxTimeMs.toNat else 0

/-- The timer, as it ought to be reported. -/
def expected (t : Timing) : CString × List Char :=
  (t.name, Decimal.nat t.elapsed)

/-- The timer that is reported for the difference. -/
def call (t : Timing) : MetricCall :=
  .timer t.name (t.now - t.start) 0

theorem valueText_timer (name : CString) (ms : UInt64) (flags : Flags) :
    (MetricCall.timer name ms flags).valueText =
      Decimal.nat (min ms.toNat statsdMaxTimeMs.toNat) := by
  have hyear : statsdMaxTimeMs.toNat = 31536000000 := rfl
  have hvalue : (MetricCall.timer name ms flags).requested =
      ((min ms.toNat 31536000000 : Nat) : Int) := by
    simp [MetricCall.requested]
  rw [valueText_eq (m := .timer name ms flags) (fun h => h), hvalue, hyear, Decimal.int,
    if_neg (by omega), Int.natAbs_natCast]

/-- A difference that wraps around is never nothing. -/
theorem printed_eq_iff {t : Timing} {statsd : Statsd}
    (hfits : (t.call.line statsd).strlen ≤ MetricCall.maxLine) :
    t.call.printed statsd = t.expected ↔ t.start ≤ t.now := by
  have hyear : statsdMaxTimeMs.toNat = 31536000000 := rfl
  have hprinted : t.call.printed statsd =
      (t.name, Decimal.nat (min (t.now - t.start).toNat statsdMaxTimeMs.toNat)) := by
    rw [MetricCall.printed, MetricCall.handed, CString.pstrndup_of_le hfits, valueField_line, call,
      valueText_timer]
    rfl
  have hinj : t.call.printed statsd = t.expected ↔
      min (t.now - t.start).toNat statsdMaxTimeMs.toNat = t.elapsed := by
    rw [hprinted, expected, Prod.mk.injEq, and_iff_right rfl]
    constructor
    · intro htext
      have hparse := congrArg Decimal.parseNat htext
      rw [Decimal.parseNat_nat, Decimal.parseNat_nat] at hparse
      exact Option.some.inj hparse
    · intro hvalue
      rw [hvalue]
  rw [hinj, elapsed]
  by_cases hle : t.start ≤ t.now
  · rw [if_pos hle, UInt64.toNat_sub_of_le _ _ hle]
    exact iff_of_true rfl hle
  · rw [if_neg hle]
    refine iff_of_false ?_ hle
    have hlt : t.now.toNat < t.start.toNat := UInt64.lt_iff_toNat_lt.1 (UInt64.not_le.1 hle)
    have hbound : t.start.toNat < 2 ^ 64 := t.start.toNat_lt
    have hsub : (t.now - t.start).toNat = 2 ^ 64 - t.start.toNat + t.now.toNat := by
      rw [UInt64.toNat_sub]
      omega
    rw [hsub, hyear]
    omega

end Timing

/-! ## The timers of an event -/

/-- The timers a delivered event reports. -/
def Event.timings (s : Session) : Event → List Timing
  | .command cmd hadError env =>
      if Logged s cmd env then
        (cmd.startMs.map fun startMs =>
          { name := getCmdMetric cmd.argv0 env.response, start := startMs, now := env.nowMs }).toList ++
        if authsTls cmd hadError env then
          (cmd.startMs.map fun startMs =>
            { name := getTlsMetric (CString.lit "handshake.ctrl"), start := startMs,
              now := env.nowMs }).toList
        else []
      else []
  | .exit env =>
      if env.authenticated then
        [{ name := getConnMetric (some env.protocol), start := s.sessStartMs, now := env.nowMs }]
      else []
  | _ => []

def ClientOp.timer? : ClientOp → Option MetricCall
  | .metric (.timer name ms flags) => some (.timer name ms flags)
  | _ => none

/-- The timers among some calls. -/
def timers (ops : List ClientOp) : List MetricCall :=
  ops.filterMap ClientOp.timer?

section Timers

@[simp] theorem timers_append (ops ops' : List ClientOp) :
    timers (ops ++ ops') = timers ops ++ timers ops' :=
  List.filterMap_append

@[simp] theorem timers_nil : timers [] = [] := rfl

@[simp] theorem timers_counter (name : CString) (incr : Int64) (flags : Flags)
    (ops : List ClientOp) : timers (.counter name incr flags :: ops) = timers ops := rfl

@[simp] theorem timers_gauge (name : CString) (val : Int64) (flags : Flags) (ops : List ClientOp) :
    timers (.gauge name val flags :: ops) = timers ops := rfl

@[simp] theorem timers_flush (ops : List ClientOp) : timers (.flush :: ops) = timers ops := rfl

@[simp] theorem timers_close (ops : List ClientOp) : timers (.close :: ops) = timers ops := rfl

@[simp] theorem timers_optional_counter {α : Type} (n : α → CString) (incr : Int64) (flags : Flags)
    (o : Option α) : timers (o.map fun a => ClientOp.counter (n a) incr flags).toList = [] := by
  cases o with
  | none => rfl
  | some a => rfl

theorem timers_optional (o : Option UInt64) (name : CString) (now : UInt64) :
    timers (o.map fun start => ClientOp.timer name (now - start) 0#32).toList =
      (o.map fun start => ({ name := name, start := start, now := now } : Timing)).toList.map
        Timing.call := by
  cases o with
  | none => rfl
  | some start => rfl

theorem timers_cmdMetrics (cmd : CmdRec) (hadError : Bool) (env : CmdEnv) (s : Session)
    (h : Event.Logged s cmd env) :
    timers (cmdMetrics cmd hadError env) =
      ((Event.command cmd hadError env).timings s).map Timing.call := by
  have hftp : timers (logFtpMetrics cmd hadError env) = [] := by
    cases hlogin : logsInFtp cmd hadError env <;> simp [logFtpMetrics, hlogin]
  cases htls : authsTls cmd hadError env with
  | false =>
      simp [cmdMetrics, logTlsMetrics, htls, hftp, Event.timings, h, timers_optional]
  | true =>
      simp [cmdMetrics, logTlsMetrics, logTlsAuthMetrics, htls, hftp, Event.timings, h,
        timers_optional]

theorem timers_exitMetrics (env : ExitEnv) (s : Session) :
    timers (exitMetrics env s) = ((Event.exit env).timings s).map Timing.call := by
  have hsql : timers (if s.sqlConnCount > 0 then
      [.gauge (getConnMetric (some (CString.lit "sql"))) (sqlExitAdjustment s.sqlConnCount)
        flGaugeAdjust] else []) = [] := by
    split_ifs <;> rfl
  cases hauth : env.authenticated with
  | false => simp [exitMetrics, Event.timings, hauth, hsql]
  | true =>
      simp only [exitMetrics, Event.timings, hauth, hsql, timers_append, if_true, List.append_nil]
      rfl

theorem timers_reports (s : Session) (e : Event) (he : e.Steady) :
    timers (e.reports s) = (e.timings s).map Timing.call := by
  cases e with
  | command cmd hadError env =>
      by_cases h : Event.Logged s cmd env
      · simpa only [Event.reports, h, if_true] using timers_cmdMetrics cmd hadError env s h
      · simp [Event.reports, Event.timings, h]
  | sftpOpened draw =>
      cases h : shouldSample s.sampling draw <;> simp [Event.reports, Event.timings, h, openedMetrics]
  | scpOpened draw =>
      cases h : shouldSample s.sampling draw <;> simp [Event.reports, Event.timings, h, openedMetrics]
  | exit env => exact absurd he Bool.false_ne_true.symm
  | _ => rfl

end Timers

/-! ## The step -/

/-- The calls the event makes on the client. -/
def Session.made (s : Session) (e : Event) : List ClientOp :=
  ((s.step e).trace.drop s.trace.length).map Emission.op

theorem made_eq {s : Session} {e : Event} {ops : List ClientOp}
    (h : (s.step e).trace.map Emission.op = s.trace.map Emission.op ++ ops) : s.made e = ops := by
  have hlength : s.trace.length = (s.trace.map Emission.op).length := by rw [List.length_map]
  rw [Session.made, List.map_drop, h, hlength, List.drop_left]

/-- A HOST command reports no timer. -/
theorem timers_made_reinit {s : Session} {c : Client} (hc : s.statsd = some c) (conf : ServerConf)
    (env : InitEnv) (hstep : s.step (.reinit conf env) =
      statsdSessReinitEv env { s with mainServer := conf }) :
    timers (s.made (.reinit conf env)) = [] := by
  let t : Session := { s with mainServer := conf }
  have hreset : t.reset.trace.map Emission.op = s.trace.map Emission.op ++ [.close] :=
    Session.op_closeClient hc
  rcases statsdSessReinitEv_cases env t with hnone | ⟨statsd, _, hopened⟩
  · have hmade : s.made (.reinit conf env) = [.close] := by
      apply made_eq
      rw [hstep, hnone]
      exact hreset
    rw [hmade]
    rfl
  · have hmade : s.made (.reinit conf env) =
        [.close, .gauge (getConnMetric none) 1 flGaugeAdjust, .flush] := by
      apply made_eq
      have hreset' : t.reset.trace.map Emission.op ++
          [.gauge (getConnMetric none) 1 flGaugeAdjust, .flush] = s.trace.map Emission.op ++
            [.close, .gauge (getConnMetric none) 1 flGaugeAdjust, .flush] := by
        rw [hreset, List.append_assoc]
        rfl
      rw [hstep, hopened, Session.op_startReporting]
      exact hreset'
    rw [hmade]
    rfl

theorem timers_made {s : Session} {c : Client} (hc : s.statsd = some c) {e : Event}
    (hd : e.Delivered s) : timers (s.made e) = (e.timings s).map Timing.call := by
  rcases step_cases s e with he | ⟨hnot, _⟩ | ⟨env, rfl, _, hstep⟩ |
    ⟨conf, env, rfl, _, hstep⟩ | ⟨rfl, _, hstep⟩
  · have hmade : s.made e = e.reports s := by
      apply made_eq
      rw [step_steady he, if_pos hd]
      exact Session.op_perform hc e.sampled (e.reports s)
    rw [hmade, timers_reports s e he]
  · exact absurd hd hnot
  · have hmade : s.made (.exit env) = exitMetrics env s ++ [.close] := by
      have hopen : (s.perform false (exitMetrics env s)).statsd = some c := hc
      apply made_eq
      rw [hstep, statsdExitEv_some env hc, ← List.append_assoc, ← Session.op_perform hc false]
      exact Session.op_closeClient hopen
    rw [hmade, timers_append, timers_exitMetrics]
    simp
  · exact timers_made_reinit hc conf env hstep
  · have hmade : s.made .shutdown = [.close] := by
      apply made_eq
      rw [hstep]
      exact Session.op_closeClient hc
    rw [hmade]
    rfl

/-- The timers that an event reports are the times that went by, where they are handed over uncut, just
if the clock was not set back between any two readings they are taken from. -/
theorem timers_elapsed_iff {s : Session} {c : Client} (hc : s.statsd = some c) {e : Event}
    (hd : e.Delivered s)
    (hfits : ∀ t ∈ e.timings s, (t.call.line c.statsd).strlen ≤ MetricCall.maxLine) :
    (timers (s.made e)).map (MetricCall.printed c.statsd) = (e.timings s).map Timing.expected ↔
      ∀ t ∈ e.timings s, t.start ≤ t.now := by
  rw [timers_made hc hd, List.map_map, List.map_inj_left]
  exact forall₂_congr fun t ht => Timing.printed_eq_iff (hfits t ht)

/-- An exit, after a login over plain FTP. -/
def exitAt (nowMs : UInt64) : Event :=
  .exit { nowMs := nowMs, authenticated := true, protocol := CString.lit "ftp" }

/-- A session of two days. -/
theorem timers_elapsed_two_days :
    (timers ((Session.start (loopbackConf none) loopbackEnv).made (exitAt 172801000))).map
        (MetricCall.printed (loopback false)) =
      [(CString.lit "ftp.connection", "172800000".toList)] := by
  have hdelivered : (exitAt 172801000).Delivered (Session.start (loopbackConf none) loopbackEnv) := by
    decide +kernel
  have hfits : ∀ t ∈ (exitAt 172801000).timings (Session.start (loopbackConf none) loopbackEnv),
      (t.call.line (loopback false)).strlen ≤ MetricCall.maxLine := by
    decide +kernel
  have helapsed :=
    (timers_elapsed_iff (start_loopback none) hdelivered hfits).2 (by decide +kernel)
  exact helapsed.trans (by decide +kernel)

/-- With the clock set back by a millisecond, the session took a year instead of no time. -/
theorem clock_set_back_reports_a_year :
    (timers ((Session.start (loopbackConf none) loopbackEnv).made (exitAt 999))).map
        (MetricCall.printed (loopback false)) =
        [(CString.lit "ftp.connection", "31536000000".toList)] ∧
      ((exitAt 999).timings (Session.start (loopbackConf none) loopbackEnv)).map Timing.expected =
        [(CString.lit "ftp.connection", "0".toList)] := by
  decide +kernel

end ModStatsd
