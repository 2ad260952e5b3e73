import ModStatsd.Session.Session

/-!
# Reports — what one event can do to a session

All events but exit, HOST and shutdown leave the module as it is: they make some calls on the
client and count SQL connections.  `step_steady` says this once, with the calls given by
`Event.reports`, and `step_cases` lists what the others do; the properties of whole sessions are
derived from the two.
-/

namespace ModStatsd

namespace Session

@[simp] theorem emissions_of_none {s : Session} (hnone : s.statsd = none) (sampled : Bool)
    (ops : List ClientOp) : s.emissions sampled ops = [] := by
  simp [emissions, hnone]

@[simp] theorem perform_nil (s : Session) (sampled : Bool) : s.perform sampled [] = s := by
  have hnone : s.emissions sampled [] = [] := by
    cases h : s.statsd <;> simp [emissions, h]
  simp [perform, hnone]

@[simp] theorem statsd_perform (s : Session) (sampled : Bool) (ops : List ClientOp) :
    (s.perform sampled ops).statsd = s.statsd := rfl

@[simp] theorem opened_perform (s : Session) (sampled : Bool) (ops : List ClientOp) :
    (s.perform sampled ops).opened = s.opened := rfl

@[simp] theorem registered_perform (s : Session) (sampled : Bool) (ops : List ClientOp) :
    (s.perform sampled ops).registered = s.registered := rfl

theorem trace_perform (s : Session) (sampled : Bool) (ops : List ClientOp) :
    (s.perform sampled ops).trace = s.trace ++ s.emissions sampled ops := rfl

/-- The calls of the session, on whichever client. -/
theorem op_perform {s : Session} {c : Client} (hc : s.statsd = some c) (sampled : Bool)
    (ops : List ClientOp) :
    (s.perform sampled ops).trace.map Emission.op = s.trace.map Emission.op ++ ops := by
  have hops : (s.emissions sampled ops).map Emission.op = ops := by
    simp [emissions, hc, Function.comp_def]
  rw [trace_perform, List.map_append, hops]

theorem op_closeClient {s : Session} {c : Client} (hc : s.statsd = some c) :
    s.closeClient.trace.map Emission.op = s.trace.map Emission.op ++ [.close] :=
  op_perform hc false [.close]

/-- A new client is told of the connection. -/
theorem op_startReporting (env : InitEnv) (statsd : Statsd) (s : Session) :
    (startReporting env statsd s).trace.map Emission.op =
      s.trace.map Emission.op ++ [.gauge (getConnMetric none) 1 flGaugeAdjust, .flush] := by
  let t : Session := { s with statsd := some { id := s.opened, statsd := statsd } }
  exact t.op_perform rfl false [.gauge (getConnMetric none) 1 flGaugeAdjust, .flush]

end Session

/-! ## Events that leave the module as it is -/

namespace Event

/-- Exit, a HOST command or a shutdown: the module may lose its client. -/
def mayClose : Event → Bool
  | .exit _ => true
  | .reinit _ _ => true
  | .shutdown => true
  | _ => false

/-- Any other event leaves the module as it is. -/
def Steady (e : Event) : Prop :=
  e.mayClose = false

instance (e : Event) : Decidable e.Steady :=
  inferInstanceAs (Decidable (e.mayClose = false))

/-- Does the handler ask `should_sample` before it reports anything? -/
def sampled : Event → Bool
  | .command _ _ _ => true
  | .sftpOpened _ => true
  | .scpOpened _ => true
  | _ => false

/-- Do the exclude filter and the sampling let this command through? -/
def Logged (s : Session) (cmd : CmdRec) (env : CmdEnv) : Prop :=
  s.engine = true ∧ shouldExclude s.excludeFilter cmd = false ∧
    shouldSample s.sampling env.draw = true

instance (s : Session) (cmd : CmdRec) (env : CmdEnv) : Decidable (Logged s cmd env) := by
  unfold Logged
  infer_instance

/-- The calls a delivered event makes. -/
def reports (s : Session) : Event → List ClientOp
  | .command cmd hadError env =>
      if Logged s cmd env then cmdMetrics cmd hadError env else []
  | .sftpOpened draw =>
      if shouldSample s.sampling draw then openedMetrics (CString.lit "sftp") 0 else []
  | .scpOpened draw =>
      if shouldSample s.sampling draw then openedMetrics (CString.lit "scp") 0 else []
  | .sqlOpened => openedMetrics (CString.lit "sql") flIgnoreSampling
  | .sqlClosed => sqlClosedMetrics
  | .sqlError => countedMetrics (getSqlMetric (CString.lit "database.error"))
  -- a log message waits for the next flush
  | .log level => [.counter (getLogLevelMetric level) 1 flIgnoreSampling]
  | .timeoutIdle => countedMetrics (getTimeoutMetric (CString.lit "TimeoutIdle"))
  | .timeoutLogin => countedMetrics (getTimeoutMetric (CString.lit "TimeoutLogin"))
  | .timeoutNoxfer => countedMetrics (getTimeoutMetric (CString.lit "TimeoutNoTransfer"))
  | .timeoutSession => countedMetrics (getTimeoutMetric (CString.lit "TimeoutSession"))
  | .timeoutStalled => countedMetrics (getTimeoutMetric (CString.lit "TimeoutStalled"))
  | .tlsCtrlError => countedMetrics (getTlsMetric (CString.lit "handshake.ctrl.error"))
  | .tlsDataError => countedMetrics (getTlsMetric (CString.lit "handshake.data.error"))
  -- these are not steady: see `step_cases`
  | .exit _ => []
  | .reinit _ _ => []
  | .shutdown => []

/-- The number of open SQL connections after a delivered event. -/
def sqlCount (n : UInt32) : Event → UInt32
  | .sqlOpened => n + 1
  | .sqlClosed => if n > 0 then n - 1 else n
  | _ => n

/-- What a delivered event with a steady handler does. -/
theorem handle_steady {e : Event} (he : e.Steady) (s : Session) :
    e.handle s =
      { s.perform e.sampled (e.reports s) with sqlConnCount := e.sqlCount s.sqlConnCount } := by
  have hssh : ∀ proto draw, ssh2SessOpened proto draw s =
      s.perform true (if shouldSample s.sampling draw then openedMetrics proto 0 else []) := by
    intro proto draw
    cases h : shouldSample s.sampling draw <;> simp [ssh2SessOpened, h]
  cases e with
  | command cmd hadError env =>
      -- the three early returns of `log_cmd_metrics` report nothing
      have hlog : logCmdMetrics cmd hadError env s =
          s.perform true (if Logged s cmd env then cmdMetrics cmd hadError env else []) := by
        cases hengine : s.engine <;> cases hfilter : shouldExclude s.excludeFilter cmd <;>
          cases hsample : shouldSample s.sampling env.draw <;>
          simp [logCmdMetrics, Logged, hengine, hfilter, hsample]
      exact hlog
  | exit env => exact absurd he Bool.false_ne_true.symm
  | reinit conf env => exact absurd he Bool.false_ne_true.symm
  | shutdown => exact absurd he Bool.false_ne_true.symm
  | sqlClosed =>
      by_cases hcount : s.sqlConnCount > 0
      · simp [handle, statsdSqlDbConnClosedEv, sampled, reports, sqlCount, Session.perform,
          Session.emissions, hcount]
      · simp [handle, statsdSqlDbConnClosedEv, sampled, reports, sqlCount, Session.perform,
          Session.emissions, hcount]
  | sftpOpened draw => exact hssh (CString.lit "sftp") draw
  | scpOpened draw => exact hssh (CString.lit "scp") draw
  | _ => rfl

end Event

/-- A steady event is reported and counted, and changes nothing else. -/
theorem step_steady {e : Event} (he : e.Steady) (s : Session) :
    s.step e =
      if e.Delivered s then
        { s.perform e.sampled (e.reports s) with sqlConnCount := e.sqlCount s.sqlConnCount }
      else s := by
  simp only [Session.step, Event.handle_steady he]

/-- What one event can do. -/
theorem step_cases (s : Session) (e : Event) :
    e.Steady ∨
      (¬ e.Delivered s ∧ s.step e = s) ∨
      (∃ env, e = .exit env ∧ e.Delivered s ∧ s.step e = statsdExitEv env s) ∨
      (∃ conf env, e = .reinit conf env ∧ e.Delivered s ∧
        s.step e = statsdSessReinitEv env { s with mainServer := conf }) ∨
      (e = .shutdown ∧ e.Delivered s ∧ s.step e = s.closeClient) := by
  by_cases hd : e.Delivered s
  · have hstep : s.step e = e.handle s := if_pos hd
    cases e with
    | exit env => exact Or.inr (Or.inr (Or.inl ⟨env, rfl, hd, hstep⟩))
    | reinit conf env => exact Or.inr (Or.inr (Or.inr (Or.inl ⟨conf, env, rfl, hd, hstep⟩)))
    | shutdown => exact Or.inr (Or.inr (Or.inr (Or.inr ⟨rfl, hd, hstep⟩)))
    | _ => exact Or.inl rfl
  · exact Or.inr (Or.inl ⟨hd, if_neg hd⟩)

/-- Everything but the trace and the SQL connection count. -/
def Session.SameModule (s t : Session) : Prop :=
  t = { s with trace := t.trace, sqlConnCount := t.sqlConnCount }

theorem Session.SameModule.refl (s : Session) : s.SameModule s := rfl

theorem sameModule_step {e : Event} (he : e.Steady) (s : Session) : s.SameModule (s.step e) := by
  by_cases hd : e.Delivered s
  · simp [Session.SameModule, step_steady he, hd, Session.perform]
  · simp [Session.SameModule, step_steady he, hd]

theorem Session.SameModule.trans {s t u : Session} (h : s.SameModule t) (h' : t.SameModule u) :
    s.SameModule u := by
  unfold Session.SameModule at *
  rw [h', h]

/-- Whether an event is delivered, and what it reports, depends on the module only. -/
theorem reports_of_sameModule {s t : Session} (h : s.SameModule t) (e : Event) :
    (e.Delivered t ↔ e.Delivered s) ∧ e.reports t = e.reports s := by
  rw [h]
  refine ⟨Iff.rfl, ?_⟩
  cases e with
  | _ => rfl

theorem sameModule_run {es : List Event} (hes : ∀ e ∈ es, e.Steady) :
    ∀ s : Session, s.SameModule (s.run es) := by
  induction es with
  | nil =>
      intro s
      rfl
  | cons e es ih =>
      intro s
      have hstep := sameModule_step (hes e (by simp)) s
      exact hstep.trans (ih (fun e' he' => hes e' (by simp [he'])) (s.step e))

/-! ## Runs without a bad event -/

/-- No event of the run is `bad` in the state it finds the session in. -/
def Session.Never (bad : Session → Event → Prop) : List Event → Session → Prop
  | [], _ => True
  | e :: es, s => ¬ bad s e ∧ Session.Never bad es (s.step e)

/-- What a step breaks by a bad event only, a run breaks by a bad event only. -/
theorem run_iff_never {bad : Session → Event → Prop} {inv good : Session → Prop}
    (hstep : ∀ s e, inv s → inv (s.step e) ∧ (good (s.step e) ↔ good s ∧ ¬ bad s e))
    (es : List Event) : ∀ s, inv s → (good (s.run es) ↔ good s ∧ s.Never bad es) := by
  induction es with
  | nil =>
      intro s _
      simp [Session.run, Session.Never]
  | cons e es ih =>
      intro s h
      rcases hstep s e h with ⟨hinv, hgood⟩
      have hrun : s.run (e :: es) = (s.step e).run es := rfl
      rw [hrun, ih _ hinv, hgood, Session.Never, and_assoc]

/-! ## Opening and closing -/

/-- What `statsd_statsd_open` returns at this rate, wherever it reports to. -/
def Statsd.OpenedAt (sampling : ℚ) (statsd : Statsd) : Prop :=
  ∃ env addr useTcp prefixLabel suffixLabel,
    statsdStatsdOpen env addr useTcp sampling prefixLabel suffixLabel = .ok statsd

theorem Statsd.OpenedAt.sampling_eq {sampling : ℚ} {statsd : Statsd}
    (h : statsd.OpenedAt sampling) : statsd.sampling = sampling := by
  rcases h with ⟨env, addr, useTcp, prefixLabel, suffixLabel, hopen⟩
  rcases statsdStatsdOpen_ok hopen with ⟨a, fd, _, _, _, rfl⟩
  rfl

/-- `statsd_sess_init` either leaves the module without a client, or opens one at the rate the
module had before it read StatsdSampling. -/
theorem statsdSessInit_cases (env : InitEnv) {s : Session} (hnone : s.statsd = none) :
    statsdSessInit env s = { s.register {.sessionReinit} with engine := false } ∨
      ∃ statsd : Statsd, statsd.OpenedAt s.sampling ∧
        statsdSessInit env s =
          startReporting env statsd { s.register {.sessionReinit} with engine := true } := by
  -- one case for each early return of `statsd_sess_init`
  cases hengine : s.mainServer.engine.getD s.engine with
  | false => exact Or.inl (by simp [statsdSessInit, hengine])
  | true =>
      cases hserver : s.mainServer.server with
      | none => exact Or.inl (by simp [statsdSessInit, hengine, hserver, Session.register])
      | some c =>
          cases hresolve : env.resolve c.host with
          | none =>
              exact Or.inl (by simp [statsdSessInit, hengine, hserver, hresolve, Session.register])
          | some ipstr =>
              cases hopen : statsdStatsdOpen env.socket (some (serverAddr ipstr c.port)) c.useTcp
                  s.sampling c.prefixLabel c.suffixLabel with
              | error e =>
                  refine Or.inl ?_
                  simp [statsdSessInit, hengine, hserver, hresolve, hopen, Session.register, hnone]
              | ok statsd =>
                  refine Or.inr ⟨statsd, ⟨_, _, _, _, _, hopen⟩, ?_⟩
                  simp [statsdSessInit, hengine, hserver, hresolve, hopen, Session.register]

@[simp] theorem statsd_closeClient (s : Session) : s.closeClient.statsd = none := rfl

theorem statsdExitEv_some (env : ExitEnv) {s : Session} {c : Client} (hc : s.statsd = some c) :
    statsdExitEv env s =
      { (s.perform false (exitMetrics env s)).closeClient with sqlConnCount := 0 } := by
  simp [statsdExitEv, hc]

@[simp] theorem statsd_startReporting (env : InitEnv) (statsd : Statsd) (s : Session) :
    (startReporting env statsd s).statsd = some { id := s.opened, statsd := statsd } := rfl

@[simp] theorem opened_startReporting (env : InitEnv) (statsd : Statsd) (s : Session) :
    (startReporting env statsd s).opened = s.opened + 1 := rfl

namespace Session

/-- What `statsd_sess_reinit_ev` leaves to `statsd_sess_init`. -/
def reset (s : Session) : Session :=
  closeClient
    { s with
      registered := (s.registered.erase .exit).erase .sessionReinit
      engine := false
      excludeFilter := none
      sampling := 1 }

end Session

/-- A HOST command leaves the module without a client, or opens one at the default rate. -/
theorem statsdSessReinitEv_cases (env : InitEnv) (s : Session) :
    statsdSessReinitEv env s = { s.reset.register {.sessionReinit} with engine := false } ∨
      ∃ statsd : Statsd, statsd.OpenedAt 1 ∧
        statsdSessReinitEv env s =
          startReporting env statsd { s.reset.register {.sessionReinit} with engine := true } :=
  statsdSessInit_cases env (s := s.reset) rfl

/-- The exit handler leaves no client open. -/
@[simp] theorem statsd_statsdExitEv (env : ExitEnv) (s : Session) :
    (statsdExitEv env s).statsd = none := by
  cases hc : s.statsd with
  | none => simp [statsdExitEv, hc]
  | some c => simp [statsdExitEv, hc]

/-- A session with a client is registered for its exit. -/
theorem exit_registered_startReporting (env : InitEnv) (statsd : Statsd) (s : Session) :
    EventName.exit ∈ (startReporting env statsd s).registered := by
  simp [startReporting, Session.register, sessionEvents]

end ModStatsd
