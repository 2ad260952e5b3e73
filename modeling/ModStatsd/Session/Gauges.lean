import ModStatsd.Session.Reports

/-!
# Gauges — do increments and decrements cancel?

A gauge that counts connections goes up by one when something opens and down when it closes.  The
balance of a gauge on a client is the sum of the adjustments made to it.

* `protocol_gauges_balance_iff` — the gauges of the four protocols, over a session of one client;
* `sql_gauge_balance_iff` — the gauge of SQL connections, some of which may be open at exit.
-/

namespace ModStatsd

/-! ## Adjustments -/

/-- What a call adds to the gauge `name`. -/
def ClientOp.adjustment (name : CString) : ClientOp → Int
  | .metric (.gauge n val flags) =>
      if n = name ∧ hasFlag flags flGaugeAdjust = true then val.toInt else 0
  | _ => 0

def adjusted (name : CString) (ops : List ClientOp) : Int :=
  (ops.map (ClientOp.adjustment name)).sum

/-- The sum of the adjustments of the gauge `name` on the `k`-th client. -/
def Session.balance (s : Session) (k : Nat) (name : CString) : Int :=
  (s.trace.map fun e => if e.client.id = k then e.op.adjustment name else 0).sum

/-- Is the `k`-th client the one that is open? -/
def Session.Current (s : Session) (k : Nat) : Prop :=
  s.statsd.map Client.id = some k

instance (s : Session) (k : Nat) : Decidable (s.Current k) :=
  inferInstanceAs (Decidable (s.statsd.map Client.id = some k))

section Adjusted

variable (name : CString)

@[simp] theorem adjusted_nil : adjusted name [] = 0 := rfl

@[simp] theorem adjusted_cons (op : ClientOp) (ops : List ClientOp) :
    adjusted name (op :: ops) = op.adjustment name + adjusted name ops := by
  simp [adjusted]

@[simp] theorem adjusted_append (ops ops' : List ClientOp) :
    adjusted name (ops ++ ops') = adjusted name ops + adjusted name ops' := by
  simp [adjusted]

@[simp] theorem adjustment_counter (n : CString) (incr : Int64) (flags : Flags) :
    (ClientOp.counter n incr flags).adjustment name = 0 := rfl

@[simp] theorem adjustment_timer (n : CString) (ms : UInt64) (flags : Flags) :
    (ClientOp.timer n ms flags).adjustment name = 0 := rfl

@[simp] theorem adjustment_flush : ClientOp.flush.adjustment name = 0 := rfl

@[simp] theorem adjustment_close : ClientOp.close.adjustment name = 0 := rfl

@[simp] theorem adjustment_gauge (n : CString) (val : Int64) :
    (ClientOp.gauge n val flGaugeAdjust).adjustment name = if n = name then val.toInt else 0 := by
  have hflag : hasFlag flGaugeAdjust flGaugeAdjust = true := by decide
  simp [ClientOp.gauge, ClientOp.adjustment, hflag]

end Adjusted

theorem balance_perform (s : Session) (sampled : Bool) (ops : List ClientOp) (k : Nat)
    (name : CString) :
    (s.perform sampled ops).balance k name =
      s.balance k name + if s.Current k then adjusted name ops else 0 := by
  cases hc : s.statsd with
  | none => simp [Session.balance, Session.perform, Session.emissions, Session.Current, hc]
  | some c =>
      by_cases hk : c.id = k
      · simp [Session.balance, Session.perform, Session.emissions, Session.Current, hc, hk,
          adjusted, Function.comp_def]
      · simp [Session.balance, Session.perform, Session.emissions, Session.Current, hc, hk,
          Function.comp_def]

/-- The protocol's name can be read off its gauge. -/
@[simp] theorem getConnMetric_inj {p q : CString} :
    getConnMetric (some p) = getConnMetric (some q) ↔ p = q := by
  constructor
  · intro h
    have hchars : p.chars ++ (CString.lit ".connection").chars =
        q.chars ++ (CString.lit ".connection").chars := congrArg CString.chars h
    exact CString.ext (List.append_cancel_right hchars)
  · rintro rfl
    rfl

@[simp] theorem getConnMetric_some_ne_none (p : CString) :
    getConnMetric (some p) ≠ getConnMetric none := by
  intro h
  have hlen : p.chars.length + 11 = 10 := by
    simpa [getConnMetric, CString.lit] using congrArg (fun s => s.chars.length) h
  omega

/-! ## What an event adds -/

def ftp : CString := CString.lit "ftp"

def ftps : CString := CString.lit "ftps"

def sftp : CString := CString.lit "sftp"

def scp : CString := CString.lit "scp"

def sql : CString := CString.lit "sql"

/-- The protocols whose connection gauge a delivered event increments. -/
def Event.increments (s : Session) : Event → List CString
  | .command cmd hadError env =>
      -- a command that is excluded or skipped increments nothing, whatever it does
      if Logged s cmd env then
        (if authsTls cmd hadError env then [ftps] else []) ++
          if logsInFtp cmd hadError env then [ftp] else []
      else []
  | .sftpOpened draw => if shouldSample s.sampling draw then [sftp] else []
  | .scpOpened draw => if shouldSample s.sampling draw then [scp] else []
  | .sqlOpened => [sql]
  | _ => []

/-- The protocols whose connection gauge it decrements. -/
def Event.decrements : Event → List CString
  | .sqlClosed => [sql]
  | _ => []

@[simp] theorem adjusted_optional_counter {α : Type} (name : CString) (n : α → CString)
    (incr : Int64) (flags : Flags) (o : Option α) :
    adjusted name (o.map fun a => ClientOp.counter (n a) incr flags).toList = 0 := by
  cases o with
  | none => rfl
  | some a => simp

@[simp] theorem adjusted_optional_timer {α : Type} (name n : CString) (ms : α → UInt64)
    (flags : Flags) (o : Option α) :
    adjusted name (o.map fun a => ClientOp.timer n (ms a) flags).toList = 0 := by
  cases o with
  | none => rfl
  | some a => simp

theorem adjusted_logTlsAuthMetrics (cmd : CmdRec) (env : CmdEnv) (p : CString) :
    adjusted (getConnMetric (some p)) (logTlsAuthMetrics cmd env) = [ftps].count p := by
  by_cases hp : CString.lit "ftps" = p
  · simp [logTlsAuthMetrics, hp, ftps]
  · simp [logTlsAuthMetrics, hp, ftps]

theorem adjusted_cmdMetrics (cmd : CmdRec) (hadError : Bool) (env : CmdEnv) (p : CString) :
    adjusted (getConnMetric (some p)) (cmdMetrics cmd hadError env) =
      ((if authsTls cmd hadError env then [ftps] else []) ++
        if logsInFtp cmd hadError env then [ftp] else []).count p := by
  have htls : adjusted (getConnMetric (some p)) (logTlsMetrics cmd hadError env) =
      (if authsTls cmd hadError env then [ftps] else []).count p := by
    cases h : authsTls cmd hadError env <;>
      simp [logTlsMetrics, h, adjusted_logTlsAuthMetrics]
  have hftp : adjusted (getConnMetric (some p)) (logFtpMetrics cmd hadError env) =
      (if logsInFtp cmd hadError env then [ftp] else []).count p := by
    cases h : logsInFtp cmd hadError env with
    | false => simp [logFtpMetrics, h]
    | true =>
        by_cases hp : CString.lit "ftp" = p
        · simp [logFtpMetrics, h, hp, ftp]
        · simp [logFtpMetrics, h, hp, ftp]
  simp [cmdMetrics, htls, hftp]

@[simp] theorem adjusted_countedMetrics (name metric : CString) :
    adjusted name (countedMetrics metric) = 0 := by
  simp [countedMetrics]

theorem adjusted_openedMetrics (proto : CString) (flags : Flags) (p : CString) :
    adjusted (getConnMetric (some p)) (openedMetrics proto flags) = [proto].count p := by
  by_cases hp : proto = p
  · simp [openedMetrics, hp]
  · simp [openedMetrics, hp]

theorem adjusted_sqlClosedMetrics (p : CString) :
    adjusted (getConnMetric (some p)) sqlClosedMetrics = -([sql].count p : Nat) := by
  by_cases hp : CString.lit "sql" = p
  · simp [sqlClosedMetrics, hp, sql]
  · simp [sqlClosedMetrics, hp, sql]

/-- Increments minus decrements is what the reports of an event amount to. -/
theorem adjusted_reports (s : Session) (e : Event) (p : CString) :
    adjusted (getConnMetric (some p)) (e.reports s) =
      (e.increments s).count p - e.decrements.count p := by
  cases e with
  | command cmd hadError env =>
      by_cases h : Event.Logged s cmd env
      · simp [Event.reports, Event.increments, Event.decrements, h, adjusted_cmdMetrics]
      · simp [Event.reports, Event.increments, Event.decrements, h]
  | sftpOpened draw =>
      cases h : shouldSample s.sampling draw <;>
        simp [Event.reports, Event.increments, Event.decrements, h, adjusted_openedMetrics, sftp]
  | scpOpened draw =>
      cases h : shouldSample s.sampling draw <;>
        simp [Event.reports, Event.increments, Event.decrements, h, adjusted_openedMetrics, scp]
  | sqlOpened =>
      simp [Event.reports, Event.increments, Event.decrements, adjusted_openedMetrics, sql]
  | sqlClosed => simp [Event.reports, Event.increments, Event.decrements, adjusted_sqlClosedMetrics]
  | _ => simp [Event.reports, Event.increments, Event.decrements]

namespace Event

/-- The protocols whose gauge the event increments, if it is delivered. -/
def opens (s : Session) (e : Event) : List CString :=
  if e.Delivered s then e.increments s else []

def closes (s : Session) (e : Event) : List CString :=
  if e.Delivered s then e.decrements else []

theorem increments_of_sameModule {s t : Session} (h : s.SameModule t) (e : Event) :
    e.opens t = e.opens s ∧ e.closes t = e.closes s := by
  rw [h]
  refine ⟨?_, rfl⟩
  cases e with
  | _ => rfl

end Event

theorem Event.mem_closes {s : Session} {e : Event} {p : CString} (h : p ∈ e.closes s) :
    p = sql := by
  by_cases hd : e.Delivered s
  · cases e with
    | sqlClosed => simpa [closes, hd, decrements] using h
    | _ => simp [closes, hd, decrements] at h
  · simp [closes, hd] at h

/-- The step lemma for balances. -/
theorem balance_step_steady {e : Event} (he : e.Steady) (s : Session) (k : Nat) (p : CString) :
    (s.step e).balance k (getConnMetric (some p)) = s.balance k (getConnMetric (some p)) +
      if s.Current k then ((e.opens s).count p : Int) - (e.closes s).count p else 0 := by
  by_cases hd : e.Delivered s
  · have hstep : (s.step e).balance k (getConnMetric (some p)) =
        (s.perform e.sampled (e.reports s)).balance k (getConnMetric (some p)) := by
      simp [step_steady he, hd, Session.balance]
    simp only [hstep, balance_perform, adjusted_reports, Event.opens, Event.closes, hd, if_true]
  · simp [step_steady he, hd, Event.opens, Event.closes]

theorem balance_run_steady {s : Session} {k : Nat} (hk : s.Current k) (p : CString)
    {es : List Event} : ∀ {t : Session}, s.SameModule t → (∀ e ∈ es, e.Steady) →
      (t.run es).balance k (getConnMetric (some p)) = t.balance k (getConnMetric (some p)) +
        (((es.flatMap (Event.opens s)).count p : Int) - (es.flatMap (Event.closes s)).count p) := by
  induction es with
  | nil =>
      intro t _ _
      simp [Session.run]
  | cons e es ih =>
      intro t hsame hes
      have he : e.Steady := hes e (by simp)
      have hcurrent : t.Current k := by
        rw [hsame]
        exact hk
      have hstep := balance_step_steady he t k p
      rcases Event.increments_of_sameModule hsame e with ⟨hopens, hcloses⟩
      rw [if_pos hcurrent, hopens, hcloses] at hstep
      have hrest := ih (hsame.trans (sameModule_step he t)) (fun e' he' => hes e' (by simp [he']))
      have hrun : t.run (e :: es) = (t.step e).run es := rfl
      rw [hrun, hrest, hstep]
      simp only [List.flatMap_cons, List.count_append]
      push_cast
      ring

/-! ## The exit handler -/

/-- What exit adds to the gauge of SQL connections. -/
def sqlExitAmount (n : UInt32) : Int :=
  if n > 0 then (sqlExitAdjustment n).toInt else 0

theorem adjusted_exitMetrics (env : ExitEnv) (s : Session) (p : CString) :
    adjusted (getConnMetric (some p)) (exitMetrics env s) =
      (if sql = p then sqlExitAmount s.sqlConnCount else 0) -
        if env.authenticated = true ∧ env.protocol = p then 1 else 0 := by
  have hminus : (-1 : Int64).toInt = -1 := by decide
  have hnone : getConnMetric none ≠ getConnMetric (some p) := (getConnMetric_some_ne_none p).symm
  -- the three parts of the handler: the connection itself, the SQL connections, the protocol
  have hsql : adjusted (getConnMetric (some p)) (if s.sqlConnCount > 0 then
      [.gauge (getConnMetric (some (CString.lit "sql"))) (sqlExitAdjustment s.sqlConnCount)
        flGaugeAdjust] else []) = if sql = p then sqlExitAmount s.sqlConnCount else 0 := by
    by_cases hcount : s.sqlConnCount > 0
    · simp [sqlExitAmount, hcount, sql]
    · simp [sqlExitAmount, hcount]
  have hproto : adjusted (getConnMetric (some p)) (if env.authenticated then
      [.gauge (getConnMetric (some env.protocol)) (-1) flGaugeAdjust,
        .timer (getConnMetric (some env.protocol)) (env.nowMs - s.sessStartMs) 0] else []) =
      -if env.authenticated = true ∧ env.protocol = p then 1 else 0 := by
    by_cases hauth : env.authenticated = true
    · by_cases hp : env.protocol = p <;> simp [hauth, hp, hminus]
    · simp [hauth]
  simp only [exitMetrics, adjusted_append, hsql, hproto, adjusted_cons, adjusted_nil,
    adjustment_gauge, hnone, if_false]
  ring

/-- The client is told the exit metrics, and closed. -/
theorem balance_exit (env : ExitEnv) {s : Session} {c : Client} (hc : s.statsd = some c) (k : Nat)
    (name : CString) :
    (statsdExitEv env s).balance k name =
      s.balance k name + if c.id = k then adjusted name (exitMetrics env s) else 0 := by
  have hclose : (statsdExitEv env s).balance k name =
      ((s.perform false (exitMetrics env s)).perform false [.close]).balance k name := by
    simp [statsdExitEv_some env hc, Session.closeClient, Session.balance]
  have hcurrent : s.Current k ↔ c.id = k := by simp [Session.Current, hc]
  rw [hclose, balance_perform, balance_perform]
  simp [hcurrent]

/-! ## A session of one client -/

/-- A session that starts with a client has just reported the connection. -/
theorem start_open {conf : ServerConf} {env : InitEnv} {c : Client}
    (hopen : (Session.start conf env).statsd = some c) :
    ∃ statsd : Statsd, c = { id := 0, statsd := statsd } ∧
      Session.start conf env = startReporting env statsd
        { (Session.initial conf).register {.sessionReinit} with engine := true } := by
  rcases statsdSessInit_cases env (s := Session.initial conf) rfl with hclosed | ⟨statsd, _, hstart⟩
  · have hnone : (Session.start conf env).statsd = none := congrArg Session.statsd hclosed
    simp [hnone] at hopen
  · have hsome : (Session.start conf env).statsd = some { id := 0, statsd := statsd } :=
      congrArg Session.statsd hstart
    exact ⟨statsd, by simpa [hsome] using hopen.symm, hstart⟩

/-- The gauge of a protocol after a session that keeps its client, and the exit. -/
theorem balance_session {conf : ServerConf} {env : InitEnv} {c : Client}
    (hopen : (Session.start conf env).statsd = some c) {es : List Event}
    (hes : ∀ e ∈ es, e.Steady) (exitEnv : ExitEnv) (p : CString) :
    (((Session.start conf env).run es).step (.exit exitEnv)).balance c.id
        (getConnMetric (some p)) =
      ((es.flatMap (Event.opens (Session.start conf env))).count p : Int) -
        (es.flatMap (Event.closes (Session.start conf env))).count p +
        ((if sql = p then sqlExitAmount ((Session.start conf env).run es).sqlConnCount else 0) -
          if exitEnv.authenticated = true ∧ exitEnv.protocol = p then 1 else 0) := by
  rcases start_open hopen with ⟨statsd, hc, hstart⟩
  have hsame := sameModule_run hes (Session.start conf env)
  have hstatsd : ((Session.start conf env).run es).statsd = some c := by
    rw [hsame]
    exact hopen
  -- the exit handler is registered from the start
  have hdelivered : (Event.exit exitEnv).Delivered ((Session.start conf env).run es) := by
    rw [hsame, hstart]
    simpa [Event.Delivered, Event.name?] using exit_registered_startReporting env statsd _
  have hzero : (Session.start conf env).balance c.id (getConnMetric (some p)) = 0 := by
    have hnone : getConnMetric none ≠ getConnMetric (some p) :=
      (getConnMetric_some_ne_none p).symm
    simp [hstart, startReporting, Session.balance, Session.register, Session.perform,
      Session.emissions, Session.initial, hc, hnone]
  have hexit : ((Session.start conf env).run es).step (.exit exitEnv) =
      statsdExitEv exitEnv ((Session.start conf env).run es) := by
    simp [Session.step, hdelivered, Event.handle]
  have hcurrent : (Session.start conf env).Current c.id := by simp [Session.Current, hopen]
  rw [hexit, balance_exit exitEnv hstatsd, adjusted_exitMetrics,
    balance_run_steady hcurrent p (Session.SameModule.refl _) hes, hzero]
  simp

/-- The openings that are counted are those of the protocol the session logs out of. -/
theorem protocol_gauges_balance_iff {conf : ServerConf} {env : InitEnv} {c : Client}
    (hopen : (Session.start conf env).statsd = some c) {es : List Event}
    (hes : ∀ e ∈ es, e.Steady) (exitEnv : ExitEnv) :
    (∀ p ∈ [ftp, ftps, sftp, scp],
      (((Session.start conf env).run es).step (.exit exitEnv)).balance c.id
        (getConnMetric (some p)) = 0) ↔
    ∀ p ∈ [ftp, ftps, sftp, scp],
      (es.flatMap (Event.opens (Session.start conf env))).count p =
        if exitEnv.authenticated = true ∧ exitEnv.protocol = p then 1 else 0 := by
  refine forall₂_congr fun p hp => ?_
  have hsql : sql ≠ p := by
    rintro rfl
    exact absurd hp (by decide)
  -- only SQL connections are ever closed before the exit
  have hcloses : (es.flatMap (Event.closes (Session.start conf env))).count p = 0 := by
    refine List.count_eq_zero.2 fun hmem => ?_
    rcases List.mem_flatMap.1 hmem with ⟨e, _, he⟩
    exact hsql (Event.mem_closes he).symm
  rw [balance_session hopen hes, hcloses, if_neg hsql]
  by_cases hlogout : exitEnv.authenticated = true ∧ exitEnv.protocol = p
  · simp only [hlogout, and_self, if_true]
    omega
  · simp only [hlogout, if_false]
    omega

/-- A login that is sampled comes down again. -/
theorem protocol_gauges_balance_sampled_login :
    [ftp, ftps, sftp, scp].map (fun p =>
      (((Session.start (loopbackConf none) loopbackEnv).run [passCommand false 0]).step
        (.exit { nowMs := 3000, authenticated := true, protocol := ftp })).balance 0
        (getConnMetric (some p))) = [0, 0, 0, 0] := by
  have hsteady : ∀ e ∈ [passCommand false 0], e.Steady := by decide
  have hbalance := (protocol_gauges_balance_iff (start_loopback none) hsteady
    { nowMs := 3000, authenticated := true, protocol := ftp }).2 (by decide +kernel)
  simpa using hbalance

/-- With StatsdSampling 50, a login that is skipped is logged out all the same.  With any
StatsdSampling, a handshake without a login is not. -/
theorem skipped_login_unbalances :
    (((Session.start (loopbackConf (some (1 / 2))) loopbackEnv).run [passCommand false 1]).step
      (.exit { nowMs := 3000, authenticated := true, protocol := ftp })).balance 0
      (getConnMetric (some ftp)) = -1 ∧
    (((Session.start (loopbackConf none) loopbackEnv).run [authTlsCommand 0]).step
      (.exit { nowMs := 3000, authenticated := false, protocol := ftps })).balance 0
      (getConnMetric (some ftps)) = 1 := by
  decide +kernel

/-! ## SQL connections -/

def Event.isSqlOpened : Event → Bool
  | .sqlOpened => true
  | _ => false

def Event.isSqlClosed : Event → Bool
  | .sqlClosed => true
  | _ => false

def sqlOpens (es : List Event) : Nat :=
  es.countP Event.isSqlOpened

def sqlCloses (es : List Event) : Nat :=
  es.countP Event.isSqlClosed

/-- No connection is closed before it is opened, and fewer than `2 ^ 31` are open at once. -/
def SqlOrdered (es : List Event) : Prop :=
  ∀ es' : List Event, es' <+: es →
    sqlCloses es' ≤ sqlOpens es' ∧ sqlOpens es' - sqlCloses es' < 2 ^ 31

instance (es : List Event) : Decidable (SqlOrdered es) :=
  decidable_of_iff (∀ es' ∈ es.inits,
    sqlCloses es' ≤ sqlOpens es' ∧ sqlOpens es' - sqlCloses es' < 2 ^ 31)
    (by simp [SqlOrdered, List.mem_inits])

theorem SqlOrdered.of_append {es es' : List Event} (h : SqlOrdered (es ++ es')) : SqlOrdered es :=
  fun _ hpre => h _ (hpre.trans (List.prefix_append es es'))

theorem toNat_sqlCount_opened {n : UInt32} (h : n.toNat < 2 ^ 31) :
    (Event.sqlCount n .sqlOpened).toNat = n.toNat + 1 := by
  have hone : (1 : UInt32).toNat = 1 := rfl
  have hadd : (n + 1).toNat = (n.toNat + (1 : UInt32).toNat) % 2 ^ 32 := UInt32.toNat_add n 1
  have hsum : (n + 1).toNat = n.toNat + 1 := by omega
  exact hsum

theorem toNat_sqlCount_closed (n : UInt32) :
    (Event.sqlCount n .sqlClosed).toNat = n.toNat - 1 := by
  by_cases hn : n > 0
  · have hsub : (n - 1).toNat = n.toNat - 1 := UInt32.toNat_sub_of_le n 1 hn
    simpa [Event.sqlCount, hn] using hsub
  · have hzero : n.toNat = 0 := Nat.eq_zero_of_not_pos hn
    simp [Event.sqlCount, hn, hzero]

theorem count_opens_sql {s : Session} (h : Event.sqlOpened.Delivered s) (e : Event) :
    (e.opens s).count sql = if e.isSqlOpened then 1 else 0 := by
  have hothers : sql ∉ [ftp, ftps, sftp, scp] := by decide
  simp only [List.mem_cons, List.not_mem_nil, or_false, not_or] at hothers
  rcases hothers with ⟨hftp, hftps, hsftp, hscp⟩
  by_cases hd : e.Delivered s
  · cases e with
    | sqlOpened => simp [Event.opens, h, Event.increments, Event.isSqlOpened]
    | command cmd hadError env =>
        have hnot : sql ∉ (Event.command cmd hadError env).increments s := by
          simp only [Event.increments]
          split_ifs <;> simp [hftp, hftps]
        simpa [Event.opens, hd, Event.isSqlOpened] using List.count_eq_zero.2 hnot
    | sftpOpened draw =>
        cases hdraw : shouldSample s.sampling draw <;>
          simp [Event.opens, hd, Event.increments, Event.isSqlOpened, hdraw, Ne.symm hsftp]
    | scpOpened draw =>
        cases hdraw : shouldSample s.sampling draw <;>
          simp [Event.opens, hd, Event.increments, Event.isSqlOpened, hdraw, Ne.symm hscp]
    | _ => simp [Event.opens, hd, Event.increments, Event.isSqlOpened]
  · have hne : e.isSqlOpened = false := by
      cases e with
      | sqlOpened => exact absurd h hd
      | _ => rfl
    simp [Event.opens, hd, hne]

theorem count_closes_sql {s : Session} (h : Event.sqlClosed.Delivered s) (e : Event) :
    (e.closes s).count sql = if e.isSqlClosed then 1 else 0 := by
  cases e with
  | sqlClosed => simp [Event.closes, h, Event.decrements, Event.isSqlClosed]
  | _ => simp [Event.closes, Event.decrements, Event.isSqlClosed]

section Sql

variable {conf : ServerConf} {env : InitEnv} {c : Client}

/-- With mod_sql there, its events are delivered. -/
theorem sql_delivered (hopen : (Session.start conf env).statsd = some c) (hsql : env.modSql = true) :
    Event.sqlOpened.Delivered (Session.start conf env) ∧
      Event.sqlClosed.Delivered (Session.start conf env) := by
  rcases start_open hopen with ⟨statsd, _, hstart⟩
  simp [hstart, Event.Delivered, Event.name?, startReporting, Session.register, sessionEvents, hsql]

/-- The module counts the connections that are open. -/
theorem sqlConnCount_run (hopen : (Session.start conf env).statsd = some c)
    (hsql : env.modSql = true) (es : List Event) :
    (∀ e ∈ es, e.Steady) → SqlOrdered es →
      ((Session.start conf env).run es).sqlConnCount.toNat + sqlCloses es = sqlOpens es := by
  -- from the right: an event is counted in the state its predecessors leave
  induction es using List.reverseRecOn with
  | nil =>
      intro _ _
      rcases start_open hopen with ⟨statsd, _, hstart⟩
      simp [Session.run, hstart, startReporting, Session.register, Session.perform,
        Session.initial, sqlOpens, sqlCloses]
  | append_singleton es e ih =>
      intro hes hordered
      have hsteady : ∀ e' ∈ es, e'.Steady := fun e' he' => hes e' (by simp [he'])
      have hcount := ih hsteady hordered.of_append
      have hsame := sameModule_run hsteady (Session.start conf env)
      have hdelivered : ∀ e' : Event, e'.Delivered ((Session.start conf env).run es) ↔
          e'.Delivered (Session.start conf env) := fun e' => (reports_of_sameModule hsame e').1
      rcases sql_delivered hopen hsql with ⟨hopened, hclosed⟩
      -- the order keeps the count from wrapping around
      rcases hordered _ (List.prefix_refl _) with ⟨hle, hlt⟩
      have hrun : (Session.start conf env).run (es ++ [e]) =
          ((Session.start conf env).run es).step e := by
        simp [Session.run]
      rw [hrun, step_steady (hes e (by simp))]
      cases e with
      | sqlOpened =>
          rw [if_pos ((hdelivered _).2 hopened)]
          simp only [sqlOpens, sqlCloses, List.countP_append, List.countP_singleton,
            Event.isSqlOpened, Event.isSqlClosed, if_true, Bool.false_eq_true, if_false] at *
          rw [toNat_sqlCount_opened (by omega)]
          omega
      | sqlClosed =>
          rw [if_pos ((hdelivered _).2 hclosed)]
          simp only [sqlOpens, sqlCloses, List.countP_append, List.countP_singleton,
            Event.isSqlOpened, Event.isSqlClosed, if_true, Bool.false_eq_true, if_false] at *
          rw [toNat_sqlCount_closed]
          omega
      | _ =>
          simpa [sqlOpens, sqlCloses, Event.isSqlOpened, Event.isSqlClosed, Event.sqlCount,
            apply_ite Session.sqlConnCount, Session.perform] using hcount

theorem count_sql (hopen : (Session.start conf env).statsd = some c) (hsql : env.modSql = true)
    (es : List Event) :
    (es.flatMap (Event.opens (Session.start conf env))).count sql = sqlOpens es ∧
      (es.flatMap (Event.closes (Session.start conf env))).count sql = sqlCloses es := by
  rcases sql_delivered hopen hsql with ⟨hopened, hclosed⟩
  induction es with
  | nil => exact ⟨rfl, rfl⟩
  | cons e es ih =>
      rcases ih with ⟨hopens, hcloses⟩
      have hhead : (e.opens (Session.start conf env)).count sql = (if e.isSqlOpened then 1 else 0) ∧
          (e.closes (Session.start conf env)).count sql = if e.isSqlClosed then 1 else 0 := by
        refine ⟨?_, ?_⟩
        · exact count_opens_sql hopened e
        · exact count_closes_sql hclosed e
      simp only [List.flatMap_cons, List.count_append, hhead, hopens, hcloses, sqlOpens, sqlCloses,
        List.countP_cons]
      exact ⟨Nat.add_comm _ _, Nat.add_comm _ _⟩

end Sql

/-- The product wraps around in 32 bits, and is widened without a sign. -/
theorem toInt_sqlExitAdjustment {n : UInt32} (h : n > 0) :
    (sqlExitAdjustment n).toInt = 2 ^ 32 - n.toNat := by
  have hpos : 0 < n.toNat := h
  have hlt : n.toNat < 2 ^ 32 := n.toNat_lt
  have hminus : (-1 : UInt32).toNat = 2 ^ 32 - 1 := by decide
  -- `n * (2 ^ 32 - 1)` is `-n` modulo `2 ^ 32`
  have hnat : (n * (-1)).toUInt64.toNat = 2 ^ 32 - n.toNat := by
    rw [UInt32.toNat_toUInt64, UInt32.toNat_mul, hminus]
    omega
  -- in 64 bits that is a positive number
  have hsmall : 2 * (n * (-1)).toUInt64.toNat < 2 ^ 64 := by omega
  have hint : (sqlExitAdjustment n).toInt = (n * (-1)).toUInt64.toNat :=
    BitVec.toInt_eq_toNat_of_lt hsmall
  rw [hint, hnat]
  omega

/-- Connections that are open at exit are not compensated for. -/
theorem sql_gauge_balance_iff {conf : ServerConf} {env : InitEnv} {c : Client}
    (hopen : (Session.start conf env).statsd = some c) (hsql : env.modSql = true) {es : List Event}
    (hes : ∀ e ∈ es, e.Steady) (hordered : SqlOrdered es) (exitEnv : ExitEnv) :
    (((Session.start conf env).run es).step (.exit exitEnv)).balance c.id
        (getConnMetric (some sql)) = 0 ↔
      sqlOpens es = sqlCloses es ∧
        ¬ (exitEnv.authenticated = true ∧ exitEnv.protocol = sql) := by
  have hcount := sqlConnCount_run hopen hsql es hes hordered
  rcases count_sql hopen hsql es with ⟨hopens, hcloses⟩
  rcases hordered es (List.prefix_refl es) with ⟨hle, hlt⟩
  rw [balance_session hopen hes, if_pos rfl, hopens, hcloses]
  by_cases hn : ((Session.start conf env).run es).sqlConnCount > 0
  · -- the sum is `2 ^ 32`, or one less
    have hpos : 0 < ((Session.start conf env).run es).sqlConnCount.toNat := hn
    have hamount : sqlExitAmount ((Session.start conf env).run es).sqlConnCount =
        2 ^ 32 - ((Session.start conf env).run es).sqlConnCount.toNat := by
      simp [sqlExitAmount, hn, toInt_sqlExitAdjustment hn]
    rw [hamount]
    split <;> omega
  · have hzero : ((Session.start conf env).run es).sqlConnCount.toNat = 0 :=
      Nat.eq_zero_of_not_pos hn
    have hamount : sqlExitAmount ((Session.start conf env).run es).sqlConnCount = 0 := by
      simp [sqlExitAmount, hn]
    rw [hamount]
    have hequal : sqlOpens es = sqlCloses es := by omega
    by_cases hlogout : exitEnv.authenticated = true ∧ exitEnv.protocol = sql
    · simp [hlogout, hequal]
    · simp [hlogout, hequal]

/-- A connection that is opened and closed leaves nothing to compensate. -/
theorem sql_gauge_balance_closed :
    (((Session.start (loopbackConf none) loopbackEnv).run [.sqlOpened, .sqlClosed]).step
      (.exit { nowMs := 3000, authenticated := true, protocol := ftp })).balance 0
      (getConnMetric (some sql)) = 0 :=
  (sql_gauge_balance_iff (start_loopback none) rfl (by decide) (by decide) _).2 (by decide)

/-- For one connection that is open, exit adds `2 ^ 32 - 1` where it should subtract one. -/
theorem open_connection_unbalances :
    (((Session.start (loopbackConf none) loopbackEnv).run [.sqlOpened]).step
      (.exit { nowMs := 3000, authenticated := true, protocol := ftp })).balance 0
      (getConnMetric (some sql)) = 2 ^ 32 := by
  decide +kernel

end ModStatsd
