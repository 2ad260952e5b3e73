import ModStatsd.Client.Refinement
import ModStatsd.Lib.Decimal

/-!
# The metric API (`metric.c`)

Counters, timers and gauges are formatted as one line of text and handed to `statsd_statsd_write`
together with the return value of `snprintf`.

* `formatMetric` — the text `snprintf` is asked for;
* `statsdMetricCounter`, `statsdMetricTimer`, `statsdMetricGauge` — the API;
* `MetricCall.run_eq` — every call of the API is one `statsd_statsd_write` of its line, cut to the
  buffer, under the length of the whole line.
-/

namespace ModStatsd

open Lib

/-! ## Constants of `metric.h` and `metric.c` -/

/-- Use this flag, for a gauge, for adjusting the existing gauge value. -/
def flGaugeAdjust : Flags := 0x0001#32

/-- The metric is not subject to the sampling frequency. -/
def flIgnoreSampling : Flags := 0x0002#32

/-- Don't allow timings longer than 1 year. -/
def statsdMaxTimeMs : UInt64 := 31536000000

def hasFlag (flags flag : Flags) : Bool :=
  decide (flags &&& flag ≠ 0#32)

/-! ## What `printf` writes -/

namespace CString

/-- The pieces a format writes, one after another. -/
def format (parts : List CString) : CString :=
  { chars := parts.flatMap chars
    noNul := by
      intro h
      rcases List.mem_flatMap.1 h with ⟨part, _, hmem⟩
      exact part.noNul hmem }

@[simp] theorem chars_format (parts : List CString) :
    (format parts).chars = parts.flatMap chars := rfl

/-- `%lld` -/
def lld (v : Int64) : CString :=
  { chars := Decimal.int v.toInt
    noNul := by
      intro h
      rcases Decimal.mem_int h with hminus | hdigit
      · exact absurd hminus (by decide)
      · exact absurd hdigit (by decide) }

/-- `%.2f` -/
def twoDecimals (q : ℚ) : CString :=
  { chars := Decimal.fixed q
    noNul := by
      intro h
      rcases Decimal.mem_fixed h with hminus | hpoint | hdigit
      · exact absurd hminus (by decide)
      · exact absurd hpoint (by decide)
      · exact absurd hdigit (by decide) }

/-- `%s` of a string that is only printed when it is not `NULL`. -/
def orEmpty (s : Option CString) : CString :=
  s.getD empty

end CString

/-! ## Formatting -/

/-- Watch out for any characters which might interfere with the statsd format. -/
def sanitizeChar (c : Char) : Char :=
  if c = ':' ∨ c = '|' ∨ c = '@' then '_' else c

theorem sanitizeChar_ne_nul {c : Char} (h : c ≠ nul) : sanitizeChar c ≠ nul := by
  by_cases hc : c = ':' ∨ c = '|' ∨ c = '@'
  · simp only [sanitizeChar, hc, if_true]
    decide
  · simpa [sanitizeChar, hc] using h

def sanitizeName (name : CString) : CString :=
  { chars := name.chars.map sanitizeChar
    noNul := by
      intro h
      rcases List.mem_map.1 h with ⟨c, hc, heq⟩
      have hne : c ≠ nul := fun hnul => name.noNul (hnul ▸ hc)
      exact sanitizeChar_ne_nul hne heq }

/-- The two formats of `write_metric`. -/
def formatMetric (statsd : Statsd) (metricType name valPrefix : CString) (val : Int64)
    (sampling : ℚ) : CString :=
  let parts := [CString.orEmpty statsd.prefixLabel, sanitizeName name,
    CString.orEmpty statsd.suffixLabel, CString.lit ":", valPrefix, CString.lld val,
    CString.lit "|", metricType]
  -- `"%s%s%s:%s%lld|%s"`, or the same with `"|@%.2f"`
  if sampling ≥ 1 then CString.format parts
  else CString.format (parts ++ [CString.lit "|@", CString.twoDecimals sampling])

/-- Counters and timers are sampled, unless the caller says otherwise. -/
def metricSampling (statsd : Statsd) (flags : Flags) : ℚ :=
  -- `statsd_statsd_get_sampling` is what the client was opened with
  if hasFlag flags flIgnoreSampling then 1 else statsd.sampling

def clampMs (ms : UInt64) : UInt64 :=
  if ms > statsdMaxTimeMs then statsdMaxTimeMs else ms

/-- The sign that is printed before a gauge value, and the value. -/
def gaugeField (val : Int64) (flags : Flags) : CString × Int64 :=
  if hasFlag flags flGaugeAdjust then
    (if val > 0 then CString.lit "+" else if val < 0 then CString.lit "-" else CString.empty, val)
  else
    -- if we are not adjusting an existing gauge value, a negative one makes no sense
    (CString.empty, if val < 0 then 0 else val)

/-! ## The API -/

section Api

variable (overflow now : Send)

/-- `metric_len` becomes what `snprintf` returns: the length of the line without truncation. -/
def writeMetric (metricType name valPrefix : CString) (val : Int64) (sampling : ℚ) (w : World) :
    Except Errno World :=
  -- the buffer has `STATSD_MAX_METRIC_SIZE` bytes, one of which is never offered
  let printed := CString.snprintf (statsdMaxMetricSize - 1)
    (formatMetric w.statsd metricType name valPrefix val sampling)
  statsdStatsdWrite overflow now printed.1 printed.2 0 w

def statsdMetricCounter (name : CString) (incr : Int64) (flags : Flags) (w : World) :
    Except Errno World :=
  writeMetric overflow now (CString.lit "c") name CString.empty incr
    (metricSampling w.statsd flags) w

def statsdMetricTimer (name : CString) (ms : UInt64) (flags : Flags) (w : World) :
    Except Errno World :=
  writeMetric overflow now (CString.lit "ms") name CString.empty (clampMs ms).toInt64
    (metricSampling w.statsd flags) w

/-- Unlike counters and timers, gauges are not subject to sampling frequency. -/
def statsdMetricGauge (name : CString) (val : Int64) (flags : Flags) (w : World) :
    Except Errno World :=
  writeMetric overflow now (CString.lit "g") name (gaugeField val flags).1 (gaugeField val flags).2
    1 w

end Api

/-- A call of the metric API. -/
inductive MetricCall
  | counter (name : CString) (incr : Int64) (flags : Flags)
  | timer (name : CString) (ms : UInt64) (flags : Flags)
  | gauge (name : CString) (val : Int64) (flags : Flags)
  deriving DecidableEq, Repr

namespace MetricCall

def run (overflow now : Send) : MetricCall → World → Except Errno World
  | .counter name incr flags => statsdMetricCounter overflow now name incr flags
  | .timer name ms flags => statsdMetricTimer overflow now name ms flags
  | .gauge name val flags => statsdMetricGauge overflow now name val flags

def name : MetricCall → CString
  | .counter name _ _ => name
  | .timer name _ _ => name
  | .gauge name _ _ => name

def metricType : MetricCall → CString
  | .counter _ _ _ => CString.lit "c"
  | .timer _ _ _ => CString.lit "ms"
  | .gauge _ _ _ => CString.lit "g"

/-- The sign before the value, and the value. -/
def field : MetricCall → CString × Int64
  | .counter _ incr _ => (CString.empty, incr)
  | .timer _ ms _ => (CString.empty, (clampMs ms).toInt64)
  | .gauge _ val flags => gaugeField val flags

def sampling (statsd : Statsd) : MetricCall → ℚ
  | .counter _ _ flags => metricSampling statsd flags
  | .timer _ _ flags => metricSampling statsd flags
  | .gauge _ _ _ => 1

/-- The line the call is formatted as. -/
def line (statsd : Statsd) (m : MetricCall) : CString :=
  formatMetric statsd m.metricType m.name m.field.1 m.field.2 (m.sampling statsd)

/-- The longest line that fits the buffer `snprintf` is given. -/
def maxLine : Nat :=
  statsdMaxMetricSize - 2

/-- What `statsd_statsd_write` is handed: the line as far as it fits, and its full length. -/
def handed (statsd : Statsd) (m : MetricCall) : CString × Nat :=
  ((m.line statsd).pstrndup maxLine, (m.line statsd).strlen)

theorem run_eq (overflow now : Send) (m : MetricCall) (w : World) :
    m.run overflow now w =
      statsdStatsdWrite overflow now (m.handed w.statsd).1 (m.handed w.statsd).2 0 w := by
  cases m with
  | counter name incr flags => rfl
  | timer name ms flags => rfl
  | gauge name val flags => rfl

theorem strlen_line_pos (statsd : Statsd) (m : MetricCall) : (m.line statsd).strlen ≠ 0 := by
  -- whatever the name, the separators are there
  have hmem : ':' ∈ (m.line statsd).chars := by
    by_cases hs : m.sampling statsd ≥ 1
    · simp [line, formatMetric, hs, CString.lit]
    · simp [line, formatMetric, hs, CString.lit]
  exact Nat.ne_of_gt (List.length_pos_of_mem hmem)

/-- The line depends on the client's labels and rate only. -/
theorem line_eq_of_config {s t : Statsd} (h : s.config = t.config) (m : MetricCall) :
    m.line s = m.line t := by
  have hpre : s.prefixLabel = t.prefixLabel := by
    simpa [Statsd.config] using congrArg Statsd.prefixLabel h
  have hsuf : s.suffixLabel = t.suffixLabel := by
    simpa [Statsd.config] using congrArg Statsd.suffixLabel h
  have hrate : s.sampling = t.sampling := by
    simpa [Statsd.config] using congrArg Statsd.sampling h
  have hsampling : m.sampling s = m.sampling t := by
    cases m with
    | counter name incr flags => simp [sampling, metricSampling, hrate]
    | timer name ms flags => simp [sampling, metricSampling, hrate]
    | gauge name val flags => rfl
  simp [line, formatMetric, hpre, hsuf, hsampling]

end MetricCall

/-! ## Runs of metric calls and flushes -/

/-- A metric call or a flush, with what happens at its sends. -/
inductive ApiCall
  | metric (m : MetricCall) (overflow now : Attempts)
  | flush (send : Attempts)

namespace ApiCall

def run : ApiCall → World → World
  | .metric m overflow now, w =>
      match m.run overflow.send now.send w with
      | .ok w' => w'
      -- no line is empty, so this does not happen: `strlen_line_pos`
      | .error _ => w
  | .flush send, w => statsdStatsdFlush send.send w

/-- The client call that it amounts to. -/
def call (statsd : Statsd) : ApiCall → Call
  | .metric m overflow now =>
      .write (m.handed statsd).1 (m.handed statsd).2 0 overflow now
  | .flush send => .flush send

theorem run_eq (c : ApiCall) (w : World) : c.run w = (c.call w.statsd).run w := by
  cases c with
  | metric m overflow now =>
      simp only [run, call, Call.run, MetricCall.run_eq]
      rfl
  | flush send => rfl

def attempts : ApiCall → List Attempts
  | .metric _ overflow now => [overflow, now]
  | .flush send => [send]

theorem attempts_call (statsd : Statsd) (c : ApiCall) : (c.call statsd).attempts = c.attempts := by
  cases c with
  | metric m overflow now => rfl
  | flush send => rfl

/-- The line it formats, if it is a metric call. -/
def line? (statsd : Statsd) : ApiCall → Option CString
  | .metric m _ _ => some (m.line statsd)
  | .flush _ => none

end ApiCall

def runApi (cs : List ApiCall) (w : World) : World :=
  cs.foldl (fun w c => c.run w) w

/-- All lines formatted by a run. -/
def formatted (statsd : Statsd) (cs : List ApiCall) : List CString :=
  cs.filterMap (ApiCall.line? statsd)

end ModStatsd
