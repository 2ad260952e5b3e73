import ModStatsd.Lib.Ledger
import ModStatsd.Session.Gauges

/-!
# Connections — the connection gauge over HOST changes

Every client that is opened is told of the connection, and the exit handler takes it back.  The
module is a ledger with one account for each client (`ledger_run`), so the gauge is even on all of
them iff no client is given up without the exit handler: `connection_gauge_balance_iff`.
-/

namespace ModStatsd

open Lib

/-! ## The ledger of a session -/

/-- The connection gauge of each client. -/
def Session.ledger (s : Session) : Ledger Int :=
  { current := s.statsd.map Client.id
    opened := s.opened
    balance := fun k => s.balance k (getConnMetric none) }

theorem adjusted_connection_reports (s : Session) (e : Event) :
    adjusted (getConnMetric none) (e.reports s) = 0 := by
  cases e with
  | command cmd hadError env =>
      by_cases h : Event.Logged s cmd env
      · have htls : adjusted (getConnMetric none) (logTlsMetrics cmd hadError env) = 0 := by
          cases hauth : authsTls cmd hadError env <;>
            simp [logTlsMetrics, hauth, logTlsAuthMetrics]
        have hftp : adjusted (getConnMetric none) (logFtpMetrics cmd hadError env) = 0 := by
          cases hlogin : logsInFtp cmd hadError env <;> simp [logFtpMetrics, hlogin]
        simp [Event.reports, h, cmdMetrics, htls, hftp]
      · simp [Event.reports, h]
  | sftpOpened draw =>
      cases h : shouldSample s.sampling draw <;> simp [Event.reports, h, openedMetrics]
  | scpOpened draw =>
      cases h : shouldSample s.sampling draw <;> simp [Event.reports, h, openedMetrics]
  | sqlOpened => simp [Event.reports, openedMetrics]
  | sqlClosed => simp [Event.reports, sqlClosedMetrics]
  | _ => simp [Event.reports]

theorem adjusted_connection_exitMetrics (env : ExitEnv) (s : Session) :
    adjusted (getConnMetric none) (exitMetrics env s) = -1 := by
  have hminus : (-1 : Int64).toInt = -1 := by decide
  by_cases hauth : env.authenticated = true <;> by_cases hcount : s.sqlConnCount > 0 <;>
    simp [exitMetrics, hauth, hcount, hminus]

theorem Session.ledger_perform (s : Session) (sampled : Bool) {ops : List ClientOp}
    (h : adjusted (getConnMetric none) ops = 0) : (s.perform sampled ops).ledger = s.ledger := by
  simp [Session.ledger, balance_perform, h]

theorem ledger_steady {e : Event} (he : e.Steady) (s : Session) : (s.step e).ledger = s.ledger := by
  by_cases hd : e.Delivered s
  · calc
      (s.step e).ledger = (s.perform e.sampled (e.reports s)).ledger := by
        rw [step_steady he, if_pos hd]
        rfl
      _ = s.ledger := s.ledger_perform _ (adjusted_connection_reports s e)
  · rw [step_steady he, if_neg hd]

theorem ledger_closeClient (s : Session) :
    s.closeClient.ledger = s.ledger.step 1 .abandon := by
  calc
    s.closeClient.ledger = { (s.perform false [.close]).ledger with current := none } := rfl
    _ = { s.ledger with current := none } := by
      rw [s.ledger_perform false (by simp)]

theorem ledger_statsdExitEv (env : ExitEnv) (s : Session) :
    (statsdExitEv env s).ledger = s.ledger.step 1 .settle := by
  cases hc : s.statsd with
  | none => simp [statsdExitEv, hc, Session.ledger, Ledger.step]
  | some c =>
      have hbalance : (fun k => (statsdExitEv env s).balance k (getConnMetric none)) =
          Function.update (fun k => s.balance k (getConnMetric none)) c.id
            (s.balance c.id (getConnMetric none) - 1) := by
        funext k
        rw [balance_exit env hc, adjusted_connection_exitMetrics]
        by_cases hk : k = c.id
        · simp [hk, sub_eq_add_neg]
        · simp [Function.update_of_ne hk, Ne.symm hk]
      have hrest : (statsdExitEv env s).statsd = none ∧ (statsdExitEv env s).opened = s.opened := by
        simp [statsdExitEv_some env hc, Session.closeClient]
      simp [Session.ledger, Ledger.step, hc, hbalance, hrest]

theorem ledger_startReporting (env : InitEnv) (statsd : Statsd) (s : Session) :
    (startReporting env statsd s).ledger = s.ledger.step 1 .openAccount := by
  have hbalance : (fun k => (startReporting env statsd s).balance k (getConnMetric none)) =
      Function.update (fun k => s.balance k (getConnMetric none)) s.opened
        (s.balance s.opened (getConnMetric none) + 1) := by
    funext k
    have hone : (1 : Int64).toInt = 1 := by decide
    have hperform : (startReporting env statsd s).balance k (getConnMetric none) =
        (Session.perform false [.gauge (getConnMetric none) 1 flGaugeAdjust, .flush]
          { s with statsd := some { id := s.opened, statsd := statsd } }).balance k
          (getConnMetric none) := rfl
    have hbefore : Session.balance { s with statsd := some { id := s.opened, statsd := statsd } } k
        (getConnMetric none) = s.balance k (getConnMetric none) := rfl
    rw [hperform, balance_perform, hbefore]
    by_cases hk : k = s.opened
    · simp [Session.Current, hk, hone]
    · simp [Session.Current, Function.update_of_ne hk, Ne.symm hk]
  simp [Session.ledger, Ledger.step, hbalance]

/-- `statsd_sess_init` books the client it opens, if it opens one. -/
theorem ledger_statsdSessInit (env : InitEnv) {s : Session} (hnone : s.statsd = none) :
    (statsdSessInit env s).ledger =
      s.ledger.run 1 (if (statsdSessInit env s).statsd.isSome then [.openAccount] else []) := by
  rcases statsdSessInit_cases env hnone with hclosed | ⟨statsd, _, hopened⟩
  · have hstatsd : (statsdSessInit env s).statsd = none := by
      simpa [hclosed, Session.register] using hnone
    simp only [hstatsd]
    simp [hclosed]
    rfl
  · rw [hopened, ledger_startReporting]
    rfl

/-! ## Events as operations of the ledger -/

/-- What an event does to the ledger. -/
def Event.ledgerOps (s : Session) (e : Event) : List Ledger.Op :=
  if e.Delivered s then
    match e with
    | .exit _ => [.settle]
    | .reinit _ _ => .abandon :: if (s.step e).statsd.isSome then [.openAccount] else []
    | .shutdown => [.abandon]
    | _ => []
  else []

theorem ledgerOps_steady {e : Event} (he : e.Steady) (s : Session) : e.ledgerOps s = [] := by
  cases e with
  | exit env => exact absurd he Bool.false_ne_true.symm
  | reinit conf env => exact absurd he Bool.false_ne_true.symm
  | shutdown => exact absurd he Bool.false_ne_true.symm
  | _ => simp [Event.ledgerOps]

theorem ledger_reinit (conf : ServerConf) (env : InitEnv) (s : Session) :
    (statsdSessReinitEv env { s with mainServer := conf }).ledger =
      s.ledger.run 1 (.abandon ::
        if (statsdSessReinitEv env { s with mainServer := conf }).statsd.isSome then [.openAccount]
        else []) := by
  let t : Session := { s with mainServer := conf }
  have hclose : t.reset.ledger = s.ledger.step 1 .abandon := ledger_closeClient _
  have hinit := ledger_statsdSessInit env (s := t.reset) rfl
  rw [hclose] at hinit
  exact hinit

/-- The step lemma: the module does to its clients what the ledger does to its accounts. -/
theorem ledger_step (s : Session) (e : Event) :
    (s.step e).ledger = s.ledger.run 1 (e.ledgerOps s) := by
  rcases step_cases s e with he | ⟨hd, hstep⟩ | ⟨env, rfl, hd, hstep⟩ |
    ⟨conf, env, rfl, hd, hstep⟩ | ⟨rfl, hd, hstep⟩
  · rw [ledgerOps_steady he, ledger_steady he]
    rfl
  · simp [hstep, Event.ledgerOps, hd, Ledger.run]
  · simpa [Event.ledgerOps, hd, hstep, Ledger.run] using ledger_statsdExitEv env s
  · simpa [Event.ledgerOps, hd, hstep] using ledger_reinit conf env s
  · simpa [Event.ledgerOps, hd, hstep, Ledger.run] using ledger_closeClient s

/-- What a run of events does to the ledger. -/
def Session.ledgerRun : List Event → Session → List Ledger.Op
  | [], _ => []
  | e :: es, s => e.ledgerOps s ++ Session.ledgerRun es (s.step e)

/-- The refinement: a session is a run of the ledger. -/
theorem ledger_run (es : List Event) (s : Session) :
    (s.run es).ledger = s.ledger.run 1 (s.ledgerRun es) := by
  induction es generalizing s with
  | nil => rfl
  | cons e es ih =>
      have hrun : s.run (e :: es) = (s.step e).run es := rfl
      rw [hrun, ih, ledger_step, Session.ledgerRun, Ledger.run_append]

/-! ## Clients that are given up -/

/-- A client is open, and the event closes it without the exit handler. -/
def Event.Drops (s : Session) : Event → Prop
  | .reinit conf env => (Event.reinit conf env).Delivered s ∧ s.statsd.isSome = true
  | .shutdown => s.statsd.isSome = true
  | _ => False

theorem thrifty_ledgerOps (s : Session) (e : Event) :
    s.ledger.Thrifty 1 (e.ledgerOps s) ↔ ¬ e.Drops s := by
  have hcurrent : s.ledger.current.isSome = s.statsd.isSome := by simp [Session.ledger]
  by_cases hd : e.Delivered s
  · cases e with
    | exit env => simp [Event.ledgerOps, hd, Ledger.Thrifty, Ledger.Wastes, Event.Drops]
    | shutdown => simp [Event.ledgerOps, hd, Ledger.Thrifty, Ledger.Wastes, Event.Drops, hcurrent]
    | reinit conf env =>
        -- a client that is opened finds none: the old one is closed by then
        by_cases hsome : (s.step (.reinit conf env)).statsd.isSome = true <;>
          simp [Event.ledgerOps, hd, hsome, Ledger.Thrifty, Ledger.Wastes, Ledger.step, Event.Drops,
            hcurrent]
    | _ => simp [Event.ledgerOps, Ledger.Thrifty, Event.Drops]
  · have hkeeps : ¬ e.Drops s := by
      cases e with
      | shutdown => simp [Event.Delivered, Event.name?] at hd
      | _ => simp [Event.Drops, hd]
    simp [Event.ledgerOps, hd, Ledger.Thrifty, hkeeps]

theorem thrifty_ledgerRun (es : List Event) (s : Session) :
    s.ledger.Thrifty 1 (s.ledgerRun es) ↔ s.Never Event.Drops es := by
  induction es generalizing s with
  | nil => simp [Session.ledgerRun, Ledger.Thrifty, Session.Never]
  | cons e es ih =>
      rw [Session.ledgerRun, Ledger.thrifty_append, thrifty_ledgerOps, ← ledger_step, ih,
        Session.Never]

/-- The exit handler drops nothing. -/
theorem never_drops_exit (es : List Event) (exitEnv : ExitEnv) (s : Session) :
    s.Never Event.Drops (es ++ [.exit exitEnv]) ↔ s.Never Event.Drops es := by
  induction es generalizing s with
  | nil => simp [Session.Never, Event.Drops]
  | cons e es ih => simp [Session.Never, ih]

/-! ## Over a session -/

/-- A client that is open has the exit handler registered. -/
def Session.ExitRegistered (s : Session) : Prop :=
  s.statsd.isSome = true → EventName.exit ∈ s.registered

theorem exitRegistered_of_none {s : Session} (h : s.statsd = none) : s.ExitRegistered := by
  intro hsome
  simp [h] at hsome

theorem exitRegistered_statsdSessInit (env : InitEnv) {s : Session} (hnone : s.statsd = none) :
    (statsdSessInit env s).ExitRegistered := by
  rcases statsdSessInit_cases env hnone with hclosed | ⟨statsd, _, hopened⟩
  · refine exitRegistered_of_none ?_
    simpa [hclosed, Session.register] using hnone
  · intro _
    simpa [hopened] using exit_registered_startReporting env statsd _

theorem exitRegistered_step {s : Session} (h : s.ExitRegistered) (e : Event) :
    (s.step e).ExitRegistered := by
  rcases step_cases s e with he | ⟨_, hstep⟩ | ⟨env, rfl, _, hstep⟩ |
    ⟨conf, env, rfl, _, hstep⟩ | ⟨rfl, _, hstep⟩
  · rw [sameModule_step he s]
    exact h
  · simpa [hstep] using h
  · exact exitRegistered_of_none (by simp [hstep])
  · rw [hstep]
    exact exitRegistered_statsdSessInit env rfl
  · exact exitRegistered_of_none (by simp [hstep])

theorem exitRegistered_run {s : Session} (h : s.ExitRegistered) (es : List Event) :
    (s.run es).ExitRegistered := by
  induction es generalizing s with
  | nil => exact h
  | cons e es ih => exact ih (exitRegistered_step h e)

/-- A session starts with at most one account. -/
theorem ledger_start (conf : ServerConf) (env : InitEnv) :
    (Session.start conf env).ledger.WellFormed 1 ∧ (Session.start conf env).ledger.Even := by
  have hempty : (Session.initial conf).ledger = Ledger.empty := rfl
  have hstart := ledger_statsdSessInit env (s := Session.initial conf) rfl
  rw [hempty] at hstart
  -- the first account is opened on an empty ledger
  have hthrifty : (Ledger.empty : Ledger Int).Thrifty 1
      (if (statsdSessInit env (Session.initial conf)).statsd.isSome then [.openAccount] else []) := by
    split <;> simp [Ledger.Thrifty, Ledger.Wastes, Ledger.empty]
  have hwell := Ledger.wellFormed_empty (1 : Int)
  unfold Session.start
  rw [hstart]
  exact ⟨hwell.run _, (Ledger.even_run_iff one_ne_zero hwell _).2 ⟨Ledger.even_empty, hthrifty⟩⟩

/-- At the end of a session no client is open. -/
theorem statsd_step_exit {s : Session} (h : s.ExitRegistered) (exitEnv : ExitEnv) :
    (s.step (.exit exitEnv)).statsd = none := by
  by_cases hd : (Event.exit exitEnv).Delivered s
  · simp [Session.step, hd, Event.handle]
  · have hunregistered : EventName.exit ∉ s.registered := by
      simpa [Event.Delivered, Event.name?] using hd
    have hnone : s.statsd = none := by
      cases hc : s.statsd with
      | none => rfl
      | some c => exact absurd (h (by simp [hc])) hunregistered
    simpa [Session.step, hd] using hnone

/-- The connection gauge is back to zero on every client of the session, just if no HOST command and
no shutdown found a client that was open. -/
theorem connection_gauge_balance_iff (conf : ServerConf) (env : InitEnv) (es : List Event)
    (exitEnv : ExitEnv) :
    (∀ k < (((Session.start conf env).run es).step (.exit exitEnv)).opened,
      (((Session.start conf env).run es).step (.exit exitEnv)).balance k (getConnMetric none) = 0) ↔
    (Session.start conf env).Never Event.Drops es := by
  rcases ledger_start conf env with ⟨hwell, heven⟩
  have hregistered : ((Session.start conf env).run es).ExitRegistered :=
    exitRegistered_run (exitRegistered_statsdSessInit env rfl) es
  have hrun : (Session.start conf env).run (es ++ [.exit exitEnv]) =
      ((Session.start conf env).run es).step (.exit exitEnv) := by
    simp [Session.run]
  have hledger := ledger_run (es ++ [.exit exitEnv]) (Session.start conf env)
  have hclosed : (((Session.start conf env).run es).step (.exit exitEnv)).ledger.current = none := by
    simp [Session.ledger, statsd_step_exit hregistered exitEnv]
  rw [hrun] at hledger
  -- the gauge as accounts, the accounts as a run of the ledger, the run as the events
  calc
    (∀ k < (((Session.start conf env).run es).step (.exit exitEnv)).opened,
      (((Session.start conf env).run es).step (.exit exitEnv)).balance k (getConnMetric none) = 0) ↔
        (((Session.start conf env).run es).step (.exit exitEnv)).ledger.Even := by
      have hfinal : (((Session.start conf env).run es).step (.exit exitEnv)).ledger.WellFormed 1 := by
        rw [hledger]
        exact hwell.run _
      exact (Ledger.even_iff_settled hfinal hclosed).symm
    _ ↔ (Session.start conf env).ledger.Thrifty 1
          ((Session.start conf env).ledgerRun (es ++ [.exit exitEnv])) := by
      rw [hledger, Ledger.even_run_iff one_ne_zero hwell, and_iff_right heven]
    _ ↔ (Session.start conf env).Never Event.Drops (es ++ [.exit exitEnv]) := thrifty_ledgerRun _ _
    _ ↔ (Session.start conf env).Never Event.Drops es := never_drops_exit es exitEnv _

/-- A HOST command leaves the connection on the gauge of the first client. -/
theorem host_command_unbalances :
    (((Session.start (loopbackConf none) loopbackEnv).run
      [.reinit (loopbackConf none) loopbackEnv]).step
      (.exit { nowMs := 3000, authenticated := false, protocol := ftp })).balance 0
      (getConnMetric none) = 1 := by
  decide +kernel

end ModStatsd
