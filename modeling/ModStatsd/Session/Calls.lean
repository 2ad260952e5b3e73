import ModStatsd.Session.Coherence

/-!
# Calls — what an event adds to the calls of a client

`calls_step` says once and for all clients what one event does: it calls the client that is open, it
may close it, and it may open the next one.  What holds of all calls of a session is read off from it
(`forall_calls_run`), and so is how many there are of a kind (`Counts`).

The calls themselves are of few kinds: handlers count by one, adjust by one, and time
(`routine_calls`).
-/

namespace ModStatsd

open Lib

/-! ## One event -/

/-- The first calls on a client. -/
def openingCalls : List ClientOp :=
  [.gauge (getConnMetric none) 1 flGaugeAdjust, .flush]

namespace Event

/-- The calls of a delivered event on the client that is open before it. -/
def calls (s : Session) : Event → List ClientOp
  | .exit env => exitMetrics env s ++ [.close]
  | .reinit _ _ => [.close]
  | .shutdown => [.close]
  | e => e.reports s

theorem calls_of_steady {e : Event} (he : e.Steady) (s : Session) : e.calls s = e.reports s := by
  cases e with
  | exit env => exact absurd he Bool.false_ne_true.symm
  | reinit conf env => exact absurd he Bool.false_ne_true.symm
  | shutdown => exact absurd he Bool.false_ne_true.symm
  | _ => rfl

/-- Does the event have `statsd_sess_init` open a client? -/
def Opens (s : Session) : Event → Prop
  | .reinit conf env =>
      (Event.reinit conf env).Delivered s ∧ (clientFor conf env).isSome = true
  | _ => False

instance (s : Session) (e : Event) : Decidable (e.Opens s) := by
  cases e <;> unfold Opens <;> infer_instance

end Event

namespace Session

theorem calls_closeClient (s : Session) (k : Nat) :
    s.closeClient.calls k = s.calls k ++ if s.Current k then [.close] else [] :=
  s.calls_perform false [.close] k

/-- A client that is opened gets the next number. -/
theorem calls_init (env : InitEnv) {s : Session} (h : s.Cleared) (k : Nat) :
    (statsdSessInit env s).calls k = s.calls k ++
      if (clientFor s.mainServer env).isSome = true ∧ k = s.opened then openingCalls else [] := by
  rw [statsdSessInit_cleared env h]
  cases clientFor s.mainServer env with
  | none => simp [calls, register]
  | some statsd =>
      let t : Session := { s with statsd := some { id := s.opened, statsd := statsd } }
      have hcalls := t.calls_perform false openingCalls k
      have hiff : t.Current k ↔ k = s.opened := by
        simp [Current, t, eq_comm]
      calc
        (startReporting env statsd { s.register {.sessionReinit} with engine := true }).calls k
            = (t.perform false openingCalls).calls k := rfl
        _ = s.calls k ++ if t.Current k then openingCalls else [] := hcalls
        _ = _ := by simp [hiff]

theorem calls_reinit (conf : ServerConf) (env : InitEnv) (s : Session) (k : Nat) :
    (statsdSessReinitEv env { s with mainServer := conf }).calls k =
      s.calls k ++ (if s.Current k then [.close] else []) ++
        if (clientFor conf env).isSome = true ∧ k = s.opened then openingCalls else [] := by
  let t : Session := { s with mainServer := conf }
  have hinit := calls_init env (cleared_reset t) k
  have hclose : t.reset.calls k = s.calls k ++ if s.Current k then [.close] else [] :=
    calls_closeClient _ k
  rw [hclose] at hinit
  exact hinit

/-- The inversion lemma: what an event adds to the calls on the `k`-th client. -/
theorem calls_step (s : Session) (e : Event) (k : Nat) :
    (s.step e).calls k =
      s.calls k ++ (if e.Delivered s ∧ s.Current k then e.calls s else []) ++
        if e.Opens s ∧ k = s.opened then openingCalls else [] := by
  have hopens : e.mayClose = false → ¬ e.Opens s := by
    intro he
    cases e with
    | reinit conf env => exact absurd he Bool.false_ne_true.symm
    | _ => exact id
  rcases step_cases s e with hsteady | ⟨hd, hstep⟩ | ⟨env, rfl, hd, hstep⟩ |
    ⟨conf, env, rfl, hd, hstep⟩ | ⟨rfl, hd, hstep⟩
  · have hnot := hopens hsteady
    have hopening : (if e.Opens s ∧ k = s.opened then openingCalls else []) = [] :=
      if_neg fun hboth => hnot hboth.1
    rw [hopening, List.append_nil, step_steady hsteady, Event.calls_of_steady hsteady]
    by_cases hd : e.Delivered s
    · simp only [hd, if_true, true_and]
      exact s.calls_perform e.sampled (e.reports s) k
    · simp [hd]
  · have hnot : ¬ e.Opens s := by
      cases e with
      | reinit conf env => exact fun hboth => hd hboth.1
      | _ => exact id
    simp [hstep, hd, hnot]
  · have hnot : ¬ (Event.exit env).Opens s := id
    rw [hstep]
    cases hc : s.statsd with
    | none => simp [statsdExitEv, hc, hnot, Current]
    | some c =>
        have hcalls := (s.perform false (exitMetrics env s)).calls_closeClient k
        have hcurrent : (s.perform false (exitMetrics env s)).Current k ↔ s.Current k := Iff.rfl
        have hexit : (statsdExitEv env s).calls k =
            (s.perform false (exitMetrics env s)).closeClient.calls k := by
          rw [statsdExitEv_some env hc]
          rfl
        rw [hexit, hcalls, s.calls_perform]
        by_cases hk : s.Current k
        · simp [hcurrent, hk, hd, hnot, Event.calls]
        · simp [hcurrent, hk, hnot]
  · have hreinit := calls_reinit conf env s k
    rw [hstep, hreinit]
    simp [Event.calls, Event.Opens, hd]
  · have hnot : ¬ Event.shutdown.Opens s := id
    rw [hstep, calls_closeClient]
    simp [Event.calls, hd, hnot]

/-- A client that is open after an event was open before, and the event left it alone, or the event
has opened it. -/
theorem statsd_step_cases {s : Session} {e : Event} {c : Client} (hc : (s.step e).statsd = some c) :
    (s.statsd = some c ∧ ¬ e.Opens s ∧ (e.Delivered s → e.Steady)) ∨
      (c.id = s.opened ∧ e.Opens s) := by
  rcases step_cases s e with hsteady | ⟨hd, hstep⟩ | ⟨env, rfl, _, hstep⟩ |
    ⟨conf, env, rfl, hd, hstep⟩ | ⟨rfl, _, hstep⟩
  · have hopens : ¬ e.Opens s := by
      cases e with
      | reinit conf env => exact absurd hsteady Bool.false_ne_true.symm
      | _ => exact id
    have hsame : (s.step e).statsd = s.statsd := by rw [sameModule_step hsteady s]
    exact Or.inl ⟨hsame.symm.trans hc, hopens, fun _ => hsteady⟩
  · have hopens : ¬ e.Opens s := by
      cases e with
      | reinit conf env => exact fun hboth => hd hboth.1
      | _ => exact id
    exact Or.inl ⟨hstep ▸ hc, hopens, fun hdelivered => absurd hdelivered hd⟩
  · rw [hstep, statsd_statsdExitEv] at hc
    exact absurd hc (Option.some_ne_none c).symm
  · rw [hstep] at hc
    have hinit : statsdSessReinitEv env { s with mainServer := conf } =
        statsdSessInit env ({ s with mainServer := conf } : Session).reset := rfl
    rw [hinit, statsdSessInit_cleared env (cleared_reset _)] at hc
    have hserver : ({ s with mainServer := conf } : Session).reset.mainServer = conf := rfl
    rw [hserver] at hc
    cases hclient : clientFor conf env with
    | none => simp [hclient, register, (cleared_reset _).statsd] at hc
    | some statsd =>
        rw [hclient] at hc
        have hid : c.id = s.opened := by
          rw [← Option.some.inj hc]
          rfl
        exact Or.inr ⟨hid, hd, by simp [hclient]⟩
  · rw [hstep] at hc
    exact absurd hc (Option.some_ne_none c).symm

/-! ## Runs -/

/-- What holds of all calls of the events holds of all calls of a session. -/
theorem forall_calls_run {P : ClientOp → Prop} (hopening : ∀ op ∈ openingCalls, P op)
    (conf : ServerConf) (env : InitEnv) {es : List Event}
    (hcalls : ∀ e ∈ es, ∀ s, ∀ op ∈ Event.calls s e, P op) (k : Nat) :
    ∀ op ∈ ((start conf env).run es).calls k, P op := by
  have hstart : ∀ op ∈ (start conf env).calls k, P op := by
    intro op hop
    rw [start, calls_init env (cleared_initial conf)] at hop
    rcases List.mem_append.1 hop with hnone | hnew
    · simp [calls, initial] at hnone
    · exact hopening op (List.mem_ite_nil_right.1 hnew).2
  have hrun : ∀ s : Session, (∀ op ∈ s.calls k, P op) → ∀ op ∈ (s.run es).calls k, P op := by
    induction es with
    | nil => exact fun s h => h
    | cons e es ih =>
        intro s h
        refine ih (fun d hd => hcalls d (List.mem_cons_of_mem e hd)) (s.step e) ?_
        intro op hop
        rw [calls_step, List.mem_append, List.mem_append] at hop
        rcases hop with (hold | hevent) | hnew
        · exact h op hold
        · exact hcalls e List.mem_cons_self s op (List.mem_ite_nil_right.1 hevent).2
        · exact hopening op (List.mem_ite_nil_right.1 hnew).2
  exact hrun _ hstart

end Session

/-! ## What is called for -/

/-- The names that an event is reported under. -/
def Event.names : Event → List CString
  | .command cmd _ env =>
      [getCmdMetric cmd.argv0 env.response, getTlsMetric (CString.lit "handshake.ctrl"),
        getConnMetric (some (CString.lit "ftps")), getConnMetric (some (CString.lit "ftp"))] ++
      env.tlsCipher.toList.map (fun cipher =>
        getTlsMetric ((CString.lit "cipher.").pstrcat cipher)) ++
      env.tlsProtocol.toList.map fun protocol =>
        getTlsMetric ((CString.lit "protocol.").pstrcat protocol)
  | .exit env =>
      [getConnMetric none, getConnMetric (some env.protocol),
        getConnMetric (some (CString.lit "sql"))]
  | .reinit _ _ => []
  | .shutdown => []
  | .log level => [getLogLevelMetric level]
  | .timeoutIdle => [getTimeoutMetric (CString.lit "TimeoutIdle")]
  | .timeoutLogin => [getTimeoutMetric (CString.lit "TimeoutLogin")]
  | .timeoutNoxfer => [getTimeoutMetric (CString.lit "TimeoutNoTransfer")]
  | .timeoutSession => [getTimeoutMetric (CString.lit "TimeoutSession")]
  | .timeoutStalled => [getTimeoutMetric (CString.lit "TimeoutStalled")]
  | .sftpOpened _ => [getConnMetric (some (CString.lit "sftp"))]
  | .scpOpened _ => [getConnMetric (some (CString.lit "scp"))]
  | .sqlOpened => [getConnMetric (some (CString.lit "sql"))]
  | .sqlClosed => [getConnMetric (some (CString.lit "sql"))]
  | .sqlError => [getSqlMetric (CString.lit "database.error")]
  | .tlsCtrlError => [getTlsMetric (CString.lit "handshake.ctrl.error")]
  | .tlsDataError => [getTlsMetric (CString.lit "handshake.data.error")]

/-- What a handler may call for. -/
inductive ClientOp.Routine (names : List CString) : ClientOp → Prop where
  | count {name : CString} (flags : Flags) :
      name ∈ names → Routine names (.counter name 1 flags)
  | time {name : CString} (ms : UInt64) : name ∈ names → Routine names (.timer name ms 0)
  | up {name : CString} : name ∈ names → Routine names (.gauge name 1 flGaugeAdjust)
  | down {name : CString} : name ∈ names → Routine names (.gauge name (-1) flGaugeAdjust)
  -- SQL connections that are open at the exit are taken back together
  | settle {name : CString} {count : UInt32} :
      name ∈ names → count > 0 →
        Routine names (.gauge name (sqlExitAdjustment count) flGaugeAdjust)
  | flush : Routine names .flush
  | close : Routine names .close

namespace Event

theorem routine_command (cmd : CmdRec) (hadError : Bool) (env : CmdEnv) :
    ∀ op ∈ cmdMetrics cmd hadError env,
      op.Routine (Event.command cmd hadError env).names := by
  have hcmd : getCmdMetric cmd.argv0 env.response ∈ (command cmd hadError env).names := by
    simp [names]
  have hhandshake : getTlsMetric (CString.lit "handshake.ctrl") ∈
      (command cmd hadError env).names := by
    simp [names]
  have hftps : getConnMetric (some (CString.lit "ftps")) ∈ (command cmd hadError env).names := by
    simp [names]
  have hftp : getConnMetric (some (CString.lit "ftp")) ∈ (command cmd hadError env).names := by
    simp [names]
  have htls : ∀ op ∈ logTlsMetrics cmd hadError env, op.Routine (command cmd hadError env).names := by
    intro op hop
    simp only [logTlsMetrics, List.mem_ite_nil_right, logTlsAuthMetrics, List.mem_append,
      List.mem_cons, List.not_mem_nil, or_false, Option.mem_toList, Option.map_eq_some_iff] at hop
    rcases hop.2 with (((rfl | rfl | rfl) | ⟨startMs, _, rfl⟩) | ⟨cipher, hcipher, rfl⟩) |
      ⟨protocol, hprotocol, rfl⟩
    · exact .count 0 hhandshake
    · exact .count 0 hftps
    · exact .up hftps
    · exact .time _ hhandshake
    · exact .count 0 (by simp [names, hcipher])
    · exact .count 0 (by simp [names, hprotocol])
  have hlogin : ∀ op ∈ logFtpMetrics cmd hadError env,
      op.Routine (command cmd hadError env).names := by
    intro op hop
    simp only [logFtpMetrics, List.mem_ite_nil_right, List.mem_cons, List.not_mem_nil,
      or_false] at hop
    rcases hop.2 with rfl | rfl
    · exact .count 0 hftp
    · exact .up hftp
  intro op hop
  simp only [cmdMetrics, List.mem_append, List.mem_singleton, Option.mem_toList,
    Option.map_eq_some_iff] at hop
  rcases hop with (((rfl | ⟨startMs, _, rfl⟩) | hmem) | hmem) | rfl
  · exact .count 0 hcmd
  · exact .time _ hcmd
  · exact htls op hmem
  · exact hlogin op hmem
  · exact .flush

theorem routine_exit (env : ExitEnv) (s : Session) :
    ∀ op ∈ exitMetrics env s, op.Routine (Event.exit env).names := by
  intro op hop
  simp only [exitMetrics, List.mem_append, List.mem_ite_nil_right, List.mem_cons, List.not_mem_nil,
    or_false] at hop
  rcases hop with (rfl | ⟨_, rfl | rfl⟩) | ⟨hcount, rfl⟩
  · exact .down (by simp [names])
  · exact .down (by simp [names])
  · exact .time _ (by simp [names])
  · exact .settle (by simp [names]) hcount

/-- Handlers count by one, adjust by one, and time. -/
theorem routine_calls (s : Session) (e : Event) : ∀ op ∈ e.calls s, op.Routine e.names := by
  have hopened : ∀ proto flags, ∀ op ∈ openedMetrics proto flags,
      op.Routine [getConnMetric (some proto)] := by
    intro proto flags op hop
    simp only [openedMetrics, List.mem_cons, List.not_mem_nil, or_false] at hop
    rcases hop with rfl | rfl | rfl
    · exact .count flags List.mem_cons_self
    · exact .up List.mem_cons_self
    · exact .flush
  have hcounted : ∀ metric, ∀ op ∈ countedMetrics metric, op.Routine [metric] := by
    intro metric op hop
    simp only [countedMetrics, List.mem_cons, List.not_mem_nil, or_false] at hop
    rcases hop with rfl | rfl
    · exact .count flIgnoreSampling List.mem_cons_self
    · exact .flush
  cases e with
  | command cmd hadError env =>
      exact fun op hop => routine_command cmd hadError env op (List.mem_ite_nil_right.1 hop).2
  | exit env =>
      intro op hop
      rcases List.mem_append.1 hop with hmetric | hclose
      · exact routine_exit env s op hmetric
      · rw [List.mem_singleton.1 hclose]
        exact .close
  | reinit conf env =>
      intro op hop
      rw [List.mem_singleton.1 hop]
      exact .close
  | shutdown =>
      intro op hop
      rw [List.mem_singleton.1 hop]
      exact .close
  | log level =>
      intro op hop
      rw [List.mem_singleton.1 hop]
      exact .count flIgnoreSampling List.mem_cons_self
  | sftpOpened draw => exact fun op hop => hopened _ _ op (List.mem_ite_nil_right.1 hop).2
  | scpOpened draw => exact fun op hop => hopened _ _ op (List.mem_ite_nil_right.1 hop).2
  | sqlOpened => exact hopened _ _
  | sqlClosed =>
      intro op hop
      rcases List.mem_cons.1 hop with rfl | hflush
      · exact .down List.mem_cons_self
      · rw [List.mem_singleton.1 hflush]
        exact .flush
  | _ => exact hcounted _

end Event

/-! ## A session that has ended -/

/-- Calls whose sends the kernel takes at once. -/
def madeWell (ops : List ClientOp) : List MadeCall :=
  ops.map fun op => { op := op, overflow := .done .sent, now := .done .sent }

@[simp] theorem op_madeWell (ops : List ClientOp) : (madeWell ops).map MadeCall.op = ops := by
  rw [madeWell, List.map_map]
  exact List.map_id ops

theorem mem_madeWell {ops : List ClientOp} {x : MadeCall} (hx : x ∈ madeWell ops) :
    x.Undisturbed ∧ x.overflow.completion = .sent ∧ x.now.completion = .sent := by
  rcases List.mem_map.1 hx with ⟨op, _, rfl⟩
  have hdone : (Attempts.done .sent).Quiet ∧ (Attempts.done .sent).Whole := ⟨rfl, fun n => nofun⟩
  exact ⟨⟨hdone, hdone⟩, rfl, rfl⟩

/-- A login over plain FTP, and the end of the session. -/
def loginAndExit : List Event :=
  [passCommand false 0,
    .exit
      { nowMs := 5000
        authenticated := true
        protocol := CString.lit "ftp" }]

theorem knows_loginAndExit : ((Session.start (loopbackConf none) loopbackEnv).run loginAndExit).Knows
    { id := 0, statsd := loopback false } := by
  have hused : ∃ x ∈ ((Session.start (loopbackConf none) loopbackEnv).run loginAndExit).trace,
      x.client.id = 0 ∧ x.client.statsd = loopback false := by decide +kernel
  rcases hused with ⟨x, hx, hid, hstatsd⟩
  exact Or.inr ⟨x, hx, by rw [← hid, ← hstatsd]⟩

theorem statsd_loginAndExit :
    ((Session.start (loopbackConf none) loopbackEnv).run loginAndExit).statsd = none := by
  have hnone : ((Session.start (loopbackConf none) loopbackEnv).run loginAndExit).statsd.isNone =
      true := by decide +kernel
  exact Option.isNone_iff_eq_none.1 hnone

end ModStatsd
