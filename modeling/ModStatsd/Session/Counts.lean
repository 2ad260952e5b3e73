import ModStatsd.Metric.Wire
import ModStatsd.Session.Calls

/-!
# Counts — every counter counts its events

A dozen handlers bump counters under names they put together; what is in a name comes from the FTP
client in part.  Each kind of event has a counter of its own (`Event.counter?`), and whatever else a
command bumps, it is not one of these: at any time of any session, the increments of such a counter
are as many as the events of its kind that were reported, `counter_counts_events`.

Names are compared as they are printed.
-/

namespace ModStatsd

open Lib

/-! ## Increments -/

/-- What a call adds to the counter that is printed as `name`. -/
def ClientOp.increment (name : List Char) : ClientOp → Int
  | .metric (.counter n incr _) => if neutralName n = name then incr.toInt else 0
  | _ => 0

def counted (name : List Char) (ops : List ClientOp) : Int :=
  (ops.map (ClientOp.increment name)).sum

section Counted

variable (name : List Char)

@[simp] theorem counted_nil : counted name [] = 0 := rfl

@[simp] theorem counted_cons (op : ClientOp) (ops : List ClientOp) :
    counted name (op :: ops) = op.increment name + counted name ops := by
  simp [counted]

@[simp] theorem counted_append (ops ops' : List ClientOp) :
    counted name (ops ++ ops') = counted name ops + counted name ops' := by
  simp [counted]

@[simp] theorem increment_counter (n : CString) (flags : Flags) :
    (ClientOp.counter n 1 flags).increment name = if neutralName n = name then 1 else 0 := by
  have hone : (1 : Int64).toInt = 1 := by decide
  simp [ClientOp.counter, ClientOp.increment, hone]

@[simp] theorem increment_timer (n : CString) (ms : UInt64) (flags : Flags) :
    (ClientOp.timer n ms flags).increment name = 0 := rfl

@[simp] theorem increment_gauge (n : CString) (val : Int64) (flags : Flags) :
    (ClientOp.gauge n val flags).increment name = 0 := rfl

@[simp] theorem increment_flush : ClientOp.flush.increment name = 0 := rfl

@[simp] theorem increment_close : ClientOp.close.increment name = 0 := rfl

end Counted

/-! ## The counter of an event -/

namespace Event

/-- The counter that stands for events like this one. -/
def counter? : Event → Option CString
  | .command cmd _ env => some (getCmdMetric cmd.argv0 env.response)
  | .log level => some (getLogLevelMetric level)
  | .timeoutIdle => some (getTimeoutMetric (CString.lit "TimeoutIdle"))
  | .timeoutLogin => some (getTimeoutMetric (CString.lit "TimeoutLogin"))
  | .timeoutNoxfer => some (getTimeoutMetric (CString.lit "TimeoutNoTransfer"))
  | .timeoutSession => some (getTimeoutMetric (CString.lit "TimeoutSession"))
  | .timeoutStalled => some (getTimeoutMetric (CString.lit "TimeoutStalled"))
  | .sftpOpened _ => some (getConnMetric (some sftp))
  | .scpOpened _ => some (getConnMetric (some scp))
  | .sqlOpened => some (getConnMetric (some sql))
  | .sqlError => some (getSqlMetric (CString.lit "database.error"))
  | .tlsCtrlError => some (getTlsMetric (CString.lit "handshake.ctrl.error"))
  | .tlsDataError => some (getTlsMetric (CString.lit "handshake.data.error"))
  -- these are told to gauges
  | .sqlClosed => none
  | .exit _ => none
  | .reinit _ _ => none
  | .shutdown => none

/-- Does the handler get past the exclude filter and the sampling, where it asks them? -/
def passes (s : Session) : Event → Bool
  | .command cmd _ env => decide (Logged s cmd env)
  | .sftpOpened draw => shouldSample s.sampling draw
  | .scpOpened draw => shouldSample s.sampling draw
  | _ => true

/-- The counter that is printed as `name` stands for the event. -/
def CountedAs (name : List Char) (e : Event) : Prop :=
  e.counter?.map neutralName = some name

instance (name : List Char) (e : Event) : Decidable (e.CountedAs name) :=
  inferInstanceAs (Decidable (e.counter?.map neutralName = some name))

end Event

/-! ## What else a command counts -/

/-- The counters of handshakes, of logins, and of what TLS was negotiated. -/
def Incidental (name : List Char) : Prop :=
  name = "tls.handshake.ctrl".toList ∨ name = "ftps.connection".toList ∨
    name = "ftp.connection".toList ∨ "tls.cipher.".toList <+: name ∨
    "tls.protocol.".toList <+: name

instance (name : List Char) : Decidable (Incidental name) := by
  unfold Incidental
  infer_instance

theorem head?_incidental {name : List Char} (h : Incidental name) :
    name.head? = some 't' ∨ name.head? = some 'f' := by
  rcases h with rfl | rfl | rfl | ⟨rest, rfl⟩ | ⟨rest, rfl⟩
  · exact Or.inl rfl
  · exact Or.inr rfl
  · exact Or.inr rfl
  · exact Or.inl rfl
  · exact Or.inl rfl

/-- No event has an incidental counter for its own. -/
theorem not_incidental {name : List Char} {e : Event} (h : e.CountedAs name) :
    ¬ Incidental name := by
  have hname : e.counter?.map neutralName = some name := h
  cases e with
  | command cmd hadError env =>
      -- whatever the command was, its counter starts with a `c`
      have hcommand : neutralName (getCmdMetric cmd.argv0 env.response) = name :=
        Option.some.inj hname
      have hhead : name.head? = some 'c' := by
        rw [← hcommand]
        rfl
      intro hincidental
      rcases head?_incidental hincidental with htls | hftp
      · exact absurd (hhead.symm.trans htls) (by decide)
      · exact absurd (hhead.symm.trans hftp) (by decide)
  | log level =>
      rw [← Option.some.inj hname]
      cases level <;> decide
  | exit env => simp [Event.counter?] at hname
  | reinit conf env => simp [Event.counter?] at hname
  | shutdown => simp [Event.counter?] at hname
  | sqlClosed => simp [Event.counter?] at hname
  | _ =>
      rw [← Option.some.inj hname]
      decide

theorem counted_logTlsMetrics {name : List Char} (h : ¬ Incidental name) (cmd : CmdRec)
    (hadError : Bool) (env : CmdEnv) : counted name (logTlsMetrics cmd hadError env) = 0 := by
  have hhandshake : neutralName (getTlsMetric (CString.lit "handshake.ctrl")) ≠ name := by
    rintro rfl
    exact h (by decide)
  have hftps : neutralName (getConnMetric (some (CString.lit "ftps"))) ≠ name := by
    rintro rfl
    exact h (by decide)
  have hcipher : ∀ cipher,
      neutralName (getTlsMetric ((CString.lit "cipher.").pstrcat cipher)) ≠ name := by
    rintro cipher rfl
    exact h (Or.inr (Or.inr (Or.inr (Or.inl ⟨neutralName cipher, rfl⟩))))
  have hprotocol : ∀ protocol,
      neutralName (getTlsMetric ((CString.lit "protocol.").pstrcat protocol)) ≠ name := by
    rintro protocol rfl
    exact h (Or.inr (Or.inr (Or.inr (Or.inr ⟨neutralName protocol, rfl⟩))))
  cases hauth : authsTls cmd hadError env with
  | false => simp [logTlsMetrics, hauth]
  | true =>
      cases hstart : cmd.startMs <;> cases hc : env.tlsCipher <;> cases hp : env.tlsProtocol <;>
        simp [logTlsMetrics, hauth, logTlsAuthMetrics, hstart, hc, hp, hhandshake, hftps, hcipher,
          hprotocol]

theorem counted_logFtpMetrics {name : List Char} (h : ¬ Incidental name) (cmd : CmdRec)
    (hadError : Bool) (env : CmdEnv) : counted name (logFtpMetrics cmd hadError env) = 0 := by
  have hftp : neutralName (getConnMetric (some (CString.lit "ftp"))) ≠ name := by
    rintro rfl
    exact h (by decide)
  cases hlogin : logsInFtp cmd hadError env <;> simp [logFtpMetrics, hlogin, hftp]

/-! ## Events and their counters -/

theorem counted_exitMetrics (name : List Char) (env : ExitEnv) (s : Session) :
    counted name (exitMetrics env s) = 0 := by
  cases hauth : env.authenticated <;> by_cases hcount : s.sqlConnCount > 0 <;>
    simp [exitMetrics, hauth, hcount]

/-- An event that passes its gate is counted once, by its own counter. -/
theorem counted_calls {name : List Char} (h : ¬ Incidental name) (s : Session) (e : Event) :
    counted name (e.calls s) = if e.CountedAs name ∧ e.passes s = true then 1 else 0 := by
  have hopened : ∀ proto flags, counted name (openedMetrics proto flags) =
      if neutralName (getConnMetric (some proto)) = name then 1 else 0 := by
    intro proto flags
    simp [openedMetrics]
  have hevent : ∀ metric, counted name (countedMetrics metric) =
      if neutralName metric = name then 1 else 0 := by
    intro metric
    simp [countedMetrics]
  cases e with
  | command cmd hadError env =>
      have hmetrics : counted name (cmdMetrics cmd hadError env) =
          if neutralName (getCmdMetric cmd.argv0 env.response) = name then 1 else 0 := by
        cases hstart : cmd.startMs <;>
          simp [cmdMetrics, hstart, counted_logTlsMetrics h, counted_logFtpMetrics h]
      by_cases hlogged : Event.Logged s cmd env <;>
        simp [Event.calls, Event.reports, hlogged, hmetrics, Event.CountedAs, Event.counter?,
          Event.passes]
  | sftpOpened draw =>
      by_cases hsample : shouldSample s.sampling draw = true <;>
        simp [Event.calls, Event.reports, hsample, hopened, Event.CountedAs, Event.counter?,
          Event.passes, sftp]
  | scpOpened draw =>
      by_cases hsample : shouldSample s.sampling draw = true <;>
        simp [Event.calls, Event.reports, hsample, hopened, Event.CountedAs, Event.counter?,
          Event.passes, scp]
  | sqlOpened =>
      simp [Event.calls, Event.reports, hopened, Event.CountedAs, Event.counter?, Event.passes, sql]
  | exit env =>
      simp [Event.calls, counted_exitMetrics, Event.CountedAs, Event.counter?]
  | _ =>
      simp [Event.calls, Event.reports, hevent, sqlClosedMetrics, Event.CountedAs, Event.counter?,
        Event.passes]

/-! ## Sessions -/

/-- How many events of the run are reported to the `k`-th client under the counter `name`. -/
def Session.occurrences (name : List Char) (k : Nat) : List Event → Session → Int
  | [], _ => 0
  | e :: es, s =>
      (if (e.Delivered s ∧ s.Current k) ∧ e.CountedAs name ∧ e.passes s = true then 1 else 0) +
        Session.occurrences name k es (s.step e)

theorem counted_step {name : List Char} (h : ¬ Incidental name) (s : Session) (e : Event)
    (k : Nat) :
    counted name ((s.step e).calls k) = counted name (s.calls k) +
      if (e.Delivered s ∧ s.Current k) ∧ e.CountedAs name ∧ e.passes s = true then 1 else 0 := by
  have hopening : counted name (if e.Opens s ∧ k = s.opened then openingCalls else []) = 0 := by
    split <;> simp [openingCalls]
  rw [Session.calls_step, counted_append, counted_append, hopening, add_zero]
  by_cases hcalled : e.Delivered s ∧ s.Current k
  · simp only [hcalled, and_self, if_true, true_and, counted_calls h]
  · simp only [hcalled, if_false, false_and, counted_nil]

theorem counted_run {name : List Char} (h : ¬ Incidental name) (k : Nat) (es : List Event) :
    ∀ s : Session, counted name ((s.run es).calls k) =
      counted name (s.calls k) + s.occurrences name k es := by
  induction es with
  | nil =>
      intro s
      simp [Session.run, Session.occurrences]
  | cons e es ih =>
      intro s
      have hrun : s.run (e :: es) = (s.step e).run es := rfl
      rw [hrun, ih, counted_step h, Session.occurrences, add_assoc]

theorem counted_session {name : List Char} (h : ¬ Incidental name) (conf : ServerConf)
    (env : InitEnv) (es : List Event) (k : Nat) :
    counted name (((Session.start conf env).run es).calls k) =
      (Session.start conf env).occurrences name k es := by
  have hstart : counted name ((Session.start conf env).calls k) = 0 := by
    have hinitial : (Session.initial conf).calls k = [] := rfl
    rw [Session.start, Session.calls_init env (cleared_initial conf), hinitial, List.nil_append]
    split <;> simp [openingCalls]
  rw [counted_run h, hstart, zero_add]

/-- The counter of a kind of events is incremented once for each of them that is reported, whatever
else goes on in the session. -/
theorem counter_counts_events {name : List Char} {e : Event} (hname : e.CountedAs name)
    (conf : ServerConf) (env : InitEnv) (es : List Event) (k : Nat) :
    counted name (((Session.start conf env).run es).calls k) =
      (Session.start conf env).occurrences name k es :=
  counted_session (not_incidental hname) conf env es k

/-- Two idle timeouts, and one after the end. -/
theorem counter_counts_events_idle :
    counted "timeout.TimeoutIdle".toList
      (((Session.start (loopbackConf none) loopbackEnv).run
        [.timeoutIdle, passCommand false 0, .timeoutIdle, .shutdown, .timeoutIdle]).calls 0) = 2 := by
  have hname : Event.timeoutIdle.CountedAs "timeout.TimeoutIdle".toList := by decide
  rw [counter_counts_events hname]
  decide +kernel

end ModStatsd
