import ModStatsd.Session.Calls

/-!
# Waiting — what may sit in the buffer between two events

A client buffers its metrics, and a process that dies takes its buffer along.  Every handler flushes
what it has written, but for the one of the log messages.  So whenever an event has been handled, the
lines that still wait to be sent are counters of log messages and nothing else:
`only_log_lines_wait`.

* `ClientOp.batch` — what a call does to the lines that wait;
* `Synced.runMade` — the client agrees with it.
-/

namespace ModStatsd

open Lib

/-! ## Lines that wait -/

/-- What a call does to the lines that wait. -/
def ClientOp.batch (statsd : Statsd) (b : Batching CString) : ClientOp → Batching CString
  | .metric m => b.push fits statsd.useTcp (m.line statsd)
  | .flush => b.flush
  | .close => b.flush

/-- The buffer is made up of these lines. -/
structure World.Pending (w : World) (ms : List CString) : Prop where
  text : w.statsd.metricsBuf.map (fun buf => buf.text.chars) =
    if ms = [] then none else some (frameText w.statsd.useTcp ms)
  len : w.statsd.metricsBuflen = if ms = [] then 0 else (frameText w.statsd.useTcp ms).length

theorem Refines.pending {w : World} {b : Batching CString} (h : Refines w b) : w.Pending b.pending := by
  by_cases hp : b.pending = []
  · have hidle := h.idle hp
    exact ⟨by simp [hp, hidle.ptr], by simp [hp, hidle.len]⟩
  · rcases h.holds hp with ⟨k, buf, hholds⟩
    exact ⟨by simp [hp, hholds.ptr, hholds.text], by simp [hp, hholds.len]⟩

section Made

variable {statsd : Statsd}

/-- The lines fit, and no handler disturbs the sends. -/
structure MadeCall.Smooth (statsd : Statsd) (x : MadeCall) : Prop where
  fits : ∀ line ∈ x.op.line? statsd, line.strlen ≤ MetricCall.maxLine
  overflow : x.overflow.Quiet
  now : x.now.Quiet

theorem Synced.made {w : World} {b : Batching CString} (h : Synced w b)
    (hconfig : w.statsd.config = statsd.config) {x : MadeCall} (hx : x.op ≠ .close)
    (hsmooth : x.Smooth statsd) :
    Synced (x.run w) (x.op.batch statsd b) ∧ (x.run w).statsd.config = statsd.config := by
  have htcp : w.statsd.useTcp = statsd.useTcp := by
    simpa [Statsd.useTcp_config] using congrArg Statsd.useTcp hconfig
  rcases x with ⟨op, overflow, now⟩
  cases op with
  | close => exact absurd rfl hx
  | flush =>
      have hquiet : (ApiCall.flush now).Quiet := by
        simpa [ApiCall.Quiet, ApiCall.attempts] using hsmooth.now
      have hfits : (ApiCall.flush now).Fits w.statsd := by simp [ApiCall.Fits, ApiCall.line?]
      have hrun := h.run (hfits.plain hquiet)
      have hkept := config_run ((ApiCall.flush now).call w.statsd) w
      rw [← ApiCall.run_eq] at hrun hkept
      exact ⟨hrun, hkept.trans hconfig⟩
  | metric m =>
      have hsame : m.line w.statsd = m.line statsd := MetricCall.line_eq_of_config hconfig m
      have hshort : (m.line w.statsd).strlen ≤ MetricCall.maxLine :=
        hsame ▸ hsmooth.fits (m.line statsd) rfl
      have hquiet : (ApiCall.metric m overflow now).Quiet := by
        simpa [ApiCall.Quiet, ApiCall.attempts] using ⟨hsmooth.overflow, hsmooth.now⟩
      have hfits : (ApiCall.metric m overflow now).Fits w.statsd := by
        simpa [ApiCall.Fits, ApiCall.line?] using hshort
      have hrun := h.run (hfits.plain hquiet)
      have hkept := config_run ((ApiCall.metric m overflow now).call w.statsd) w
      have hbatch : Call.abstract w.statsd.useTcp b ((ApiCall.metric m overflow now).call w.statsd) =
          ClientOp.batch statsd b (.metric m) := by
        have hnow : sendsNow statsd.useTcp 0 = statsd.useTcp := by
          cases statsd.useTcp <;> rfl
        simp only [ApiCall.call, MetricCall.handed, Call.abstract, ClientOp.batch, htcp, hsame, hnow,
          CString.pstrndup_of_le (hsame ▸ hshort)]
      rw [← ApiCall.run_eq] at hrun hkept
      exact ⟨hbatch ▸ hrun, hkept.trans hconfig⟩

/-- The client agrees with the batches of its calls. -/
theorem Synced.runMade {xs : List MadeCall} :
    ∀ {w : World} {b : Batching CString}, Synced w b → w.statsd.config = statsd.config →
      ClientOp.close ∉ xs.map MadeCall.op → (∀ x ∈ xs, x.Smooth statsd) →
      Synced (runMade xs w) ((xs.map MadeCall.op).foldl (ClientOp.batch statsd) b) ∧
        (runMade xs w).statsd.config = statsd.config := by
  induction xs with
  | nil =>
      intro w b h hconfig _ _
      exact ⟨h, hconfig⟩
  | cons x xs ih =>
      intro w b h hconfig hclose hsmooth
      have hx : x.op ≠ .close := fun hop => hclose (by simp [hop])
      have hxs : ClientOp.close ∉ xs.map MadeCall.op := fun hmem => hclose (by simp [hmem])
      rcases h.made hconfig hx (hsmooth x (by simp)) with ⟨hstep, hkept⟩
      exact ih hstep hkept hxs fun y hy => hsmooth y (by simp [hy])

end Made

/-! ## What a handler leaves unflushed -/

/-- The counter of a log message. -/
def logCounter (level : LogLevel) : ClientOp :=
  .counter (getLogLevelMetric level) 1 flIgnoreSampling

/-- Behind the last flush there are the counters of some log messages. -/
def FlushedTo (levels : List LogLevel) (ops : List ClientOp) : Prop :=
  ∃ flushed, ops = flushed ++ .flush :: levels.map logCounter

/-- The line of a log message. -/
def logLine (statsd : Statsd) (level : LogLevel) : CString :=
  (MetricCall.counter (getLogLevelMetric level) 1 flIgnoreSampling).line statsd

/-- When log messages are counted, no other lines join the batch. -/
theorem pending_logCounters (statsd : Statsd) {b : Batching CString} (hb : b.pending = [])
    (levels : List LogLevel) :
    ∃ kept, kept <:+ levels ∧
      ((levels.map logCounter).foldl (ClientOp.batch statsd) b).pending = kept.map (logLine statsd) := by
  induction levels using List.reverseRecOn with
  | nil => exact ⟨[], List.suffix_rfl, hb⟩
  | append_singleton levels level ih =>
      rcases ih with ⟨kept, hkept, hpending⟩
      have hpush := Batching.pending_push_suffix fits statsd.useTcp
        ((levels.map logCounter).foldl (ClientOp.batch statsd) b) (logLine statsd level)
      have hlines : kept.map (logLine statsd) ++ [logLine statsd level] =
          (kept ++ [level]).map (logLine statsd) := by simp
      rw [hpending, hlines] at hpush
      rcases List.suffix_map_iff.1 hpush with ⟨kept', hkept', heq⟩
      refine ⟨kept', hkept'.trans ?_, ?_⟩
      · rcases hkept with ⟨before, rfl⟩
        exact ⟨before, by simp⟩
      · rw [List.map_append, List.foldl_append]
        exact heq

theorem FlushedTo.log {levels : List LogLevel} {ops : List ClientOp} (h : FlushedTo levels ops)
    (level : LogLevel) : FlushedTo (levels ++ [level]) (ops ++ [logCounter level]) := by
  rcases h with ⟨flushed, rfl⟩
  exact ⟨flushed, by simp⟩

theorem flushedTo_flush (ops : List ClientOp) : FlushedTo [] (ops ++ [.flush]) :=
  ⟨ops, rfl⟩

/-- A handler counts a log message, or does nothing, or flushes in the end. -/
theorem reports_cases (s : Session) (e : Event) :
    (∃ level, e = .log level ∧ e.reports s = [logCounter level]) ∨ e.reports s = [] ∨
      ∃ ops, e.reports s = ops ++ [.flush] := by
  cases e with
  | log level => exact Or.inl ⟨level, rfl, rfl⟩
  | exit env => exact Or.inr (Or.inl rfl)
  | reinit conf env => exact Or.inr (Or.inl rfl)
  | shutdown => exact Or.inr (Or.inl rfl)
  | command cmd hadError env =>
      by_cases hlogged : Event.Logged s cmd env
      · exact Or.inr (Or.inr ⟨_, if_pos hlogged⟩)
      · exact Or.inr (Or.inl (if_neg hlogged))
  | sftpOpened draw =>
      by_cases hsample : shouldSample s.sampling draw = true
      · exact Or.inr (Or.inr ⟨[_, _], if_pos hsample⟩)
      · exact Or.inr (Or.inl (if_neg hsample))
  | scpOpened draw =>
      by_cases hsample : shouldSample s.sampling draw = true
      · exact Or.inr (Or.inr ⟨[_, _], if_pos hsample⟩)
      · exact Or.inr (Or.inl (if_neg hsample))
  | sqlOpened => exact Or.inr (Or.inr ⟨[_, _], rfl⟩)
  | _ => exact Or.inr (Or.inr ⟨[_], rfl⟩)

/-! ## Sessions -/

/-- Behind the last flush of the client there are the counters of some log messages of the run. -/
def Session.Waits (s : Session) (es : List Event) : Prop :=
  ∀ c, s.statsd = some c →
    ∃ levels, (levels.map Event.log).Sublist es ∧ FlushedTo levels (s.calls c.id)

theorem waits_step {s : Session} {es : List Event} (h : s.Waits es) (horderly : s.Orderly)
    (e : Event) : (s.step e).Waits (es ++ [e]) := by
  intro c hc
  rcases Session.statsd_step_cases hc with ⟨hopen, hopens, hsteady⟩ | ⟨hid, hopens⟩
  · rcases h c hopen with ⟨levels, hlevels, hflushed⟩
    have hcurrent : s.Current c.id := (Session.current_iff hopen c.id).2 rfl
    have hkept : (levels.map Event.log).Sublist (es ++ [e]) := hlevels.trans (es.sublist_append_left [e])
    have hcalls : (s.step e).calls c.id =
        s.calls c.id ++ if e.Delivered s then e.reports s else [] := by
      rw [Session.calls_step]
      by_cases hd : e.Delivered s
      · simp [hopens, hd, hcurrent, Event.calls_of_steady (hsteady hd)]
      · simp [hopens, hd]
    rw [hcalls]
    by_cases hd : e.Delivered s
    · rw [if_pos hd]
      rcases reports_cases s e with ⟨level, rfl, hlog⟩ | hnone | ⟨ops, hflush⟩
      · rw [hlog]
        refine ⟨levels ++ [level], ?_, hflushed.log level⟩
        rw [List.map_append]
        exact hlevels.append (List.Sublist.refl _)
      · rw [hnone, List.append_nil]
        exact ⟨levels, hkept, hflushed⟩
      · rw [hflush, ← List.append_assoc]
        exact ⟨[], List.nil_sublist _, flushedTo_flush _⟩
    · rw [if_neg hd, List.append_nil]
      exact ⟨levels, hkept, hflushed⟩
  · -- the client is new, and its first gauge has been flushed
    have hcurrent : ¬ s.Current s.opened := by
      intro hcurrent
      rcases Option.map_eq_some_iff.1 hcurrent with ⟨d, hd, hdid⟩
      exact absurd hdid (Nat.ne_of_lt (horderly.numbered d (Or.inl hd)))
    have hcalls : (s.step e).calls c.id = openingCalls := by
      rw [hid, Session.calls_step, horderly.calls_opened]
      simp [hcurrent, hopens]
    rw [hcalls]
    exact ⟨[], List.nil_sublist _, flushedTo_flush [.gauge (getConnMetric none) 1 flGaugeAdjust]⟩

theorem waits_run (conf : ServerConf) (env : InitEnv) (es : List Event) :
    ((Session.start conf env).run es).Waits es := by
  induction es using List.reverseRecOn with
  | nil =>
      intro c hc
      have hopens : (clientFor conf env).isSome = true ∧ c.id = 0 := by
        have hstart : (statsdSessInit env (Session.initial conf)).statsd = some c := hc
        rw [statsdSessInit_cleared env (cleared_initial conf)] at hstart
        have hserver : (Session.initial conf).mainServer = conf := rfl
        rw [hserver] at hstart
        cases hclient : clientFor conf env with
        | none => simp [hclient, Session.register, Session.initial] at hstart
        | some statsd =>
            rw [hclient] at hstart
            exact ⟨rfl, by rw [← Option.some.inj hstart]; rfl⟩
      have hcalls : (Session.start conf env).calls c.id = openingCalls := by
        rw [Session.start, Session.calls_init env (cleared_initial conf)]
        exact if_pos hopens
      rw [Session.run, List.foldl_nil, hcalls]
      exact ⟨[], List.nil_sublist _, flushedTo_flush [.gauge (getConnMetric none) 1 flGaugeAdjust]⟩
  | append_singleton es e ih =>
      rw [run_concat]
      exact waits_step ih (orderly_run (orderly_start conf env) es) e

section Open

variable (conf : ServerConf) (env : InitEnv) (es : List Event) {c : Client}
  (hopen : ((Session.start conf env).run es).statsd = some c) {made : List MadeCall}
  (hmade : made.map MadeCall.op = ((Session.start conf env).run es).calls c.id)
  (hsmooth : ∀ x ∈ made, x.Smooth c.statsd)
include hopen hmade hsmooth

/-- A client that is open agrees with the batches of its calls. -/
theorem synced_open :
    Synced (runMade made (World.start c.statsd))
        ((made.map MadeCall.op).foldl (ClientOp.batch c.statsd) Batching.empty) ∧
      (runMade made (World.start c.statsd)).statsd.config = c.statsd.config := by
  have horderly := orderly_run (orderly_start conf env) es
  rcases horderly.genuine c (Or.inl hopen) with ⟨rate, _, _, _, _, _, hstatsd⟩
  have hclose : ClientOp.close ∉ made.map MadeCall.op := by
    rw [hmade]
    exact horderly.inUse c hopen
  exact (synced_start hstatsd).runMade rfl hclose hsmooth

/-- In its last batch there are the lines of log messages of the run, if any. -/
theorem pending_open :
    ∃ levels, (levels.map Event.log).Sublist es ∧ (c.statsd.useTcp = true → levels = []) ∧
      ((made.map MadeCall.op).foldl (ClientOp.batch c.statsd) Batching.empty).pending =
        levels.map (logLine c.statsd) := by
  rcases waits_run conf env es c hopen with ⟨levels, hlevels, flushed, hcalls⟩
  rcases synced_open conf env es hopen hmade hsmooth with ⟨hsynced, hkept⟩
  let before := (flushed.foldl (ClientOp.batch c.statsd) Batching.empty).flush
  have hbatch : (made.map MadeCall.op).foldl (ClientOp.batch c.statsd) Batching.empty =
      (levels.map logCounter).foldl (ClientOp.batch c.statsd) before := by
    rw [hmade, hcalls, List.foldl_append, List.foldl_cons]
    rfl
  rw [hbatch] at hsynced ⊢
  rcases pending_logCounters c.statsd (Batching.pending_flush _) levels with
    ⟨kept, hsuffix, hpending⟩
  have hidle : c.statsd.useTcp = true → kept = [] := by
    intro htcp
    have hsame : (runMade made (World.start c.statsd)).statsd.useTcp = c.statsd.useTcp := by
      simpa [Statsd.useTcp_config] using congrArg Statsd.useTcp hkept
    exact List.map_eq_nil_iff.1 (hpending.symm.trans (hsynced.tcpIdle (hsame.trans htcp)))
  exact ⟨kept, (hsuffix.sublist.map Event.log).trans hlevels, hidle, hpending⟩

/-- As long as a client is open, what waits in its buffer are counters of log messages, and on TCP not
even these. -/
theorem only_log_lines_wait :
    ∃ levels, (levels.map Event.log).Sublist es ∧ (c.statsd.useTcp = true → levels = []) ∧
      (runMade made (World.start c.statsd)).Pending (levels.map (logLine c.statsd)) := by
  rcases pending_open conf env es hopen hmade hsmooth with ⟨levels, hlevels, hidle, hpending⟩
  have hsynced := (synced_open conf env es hopen hmade hsmooth).1
  exact ⟨levels, hlevels, hidle, hpending ▸ hsynced.refines.pending⟩

end Open

/-- A notice, a login over plain FTP, and a warning. -/
def warningAfterLogin : List Event :=
  [.log .notice, passCommand false 0, .log .warning]

theorem statsd_warningAfterLogin :
    ((Session.start (loopbackConf none) loopbackEnv).run warningAfterLogin).statsd =
      some { id := 0, statsd := loopback false } := by
  have hfields : ((Session.start (loopbackConf none) loopbackEnv).run warningAfterLogin).statsd.map
      (fun c => (c.id, c.statsd)) = some (0, loopback false) := by decide +kernel
  rcases Option.map_eq_some_iff.1 hfields with ⟨⟨id, statsd⟩, hsome, heq⟩
  rcases Prod.mk.inj heq with ⟨rfl, rfl⟩
  exact hsome

/-- Whatever the notice has come to, it does not wait any more. -/
theorem only_log_lines_wait_warning :
    let made := madeWell
      (((Session.start (loopbackConf none) loopbackEnv).run warningAfterLogin).calls 0)
    ∃ levels, (levels.map Event.log).Sublist warningAfterLogin ∧
      ((loopback false).useTcp = true → levels = []) ∧
        (runMade made (World.start (loopback false))).Pending
          (levels.map (logLine (loopback false))) := by
  intro made
  have hfits : ∀ op ∈
      ((Session.start (loopbackConf none) loopbackEnv).run warningAfterLogin).calls 0,
      ∀ line ∈ op.line? (loopback false), line.strlen ≤ MetricCall.maxLine := by decide +kernel
  refine only_log_lines_wait (loopbackConf none) loopbackEnv warningAfterLogin
    statsd_warningAfterLogin (op_madeWell _) ?_
  intro x hx
  have hop : x.op ∈
      ((Session.start (loopbackConf none) loopbackEnv).run warningAfterLogin).calls 0 := by
    rw [← op_madeWell
      (((Session.start (loopbackConf none) loopbackEnv).run warningAfterLogin).calls 0)]
    exact List.mem_map_of_mem hx
  have hwell := (mem_madeWell hx).1
  exact ⟨hfits x.op hop, hwell.overflow.1, hwell.now.1⟩

end ModStatsd
