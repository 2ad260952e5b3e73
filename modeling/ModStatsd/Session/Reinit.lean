import ModStatsd.Client.Pending
import ModStatsd.Session.Lifecycle

/-!
# Reinit — is a session after a HOST command like a new one?

`statsd_sess_reinit_ev` unregisters two of the callbacks and resets some of the globals, and
`statsd_sess_init` returns early in four places.  What is left over does not show: from the last HOST
command on, a session reports what one that was started on that server would report, but for the
count of SQL connections and the start of the session (`reinit_starts_afresh`).

* `Alike` — two sessions that differ in their history and the numbers of their clients;
* `clientFor` — the client that `statsd_sess_init` opens, if it gets that far;
* `sessStartMs_run` — the clock reading that is kept as the start of the session.
-/

namespace ModStatsd

/-! ## Sessions that report the same -/

/-- What a server sees of a call: the client it is made on, whichever number it has, and the call. -/
def Emission.seen (x : Emission) : Statsd × ClientOp :=
  (x.client.statsd, x.op)

/-- Is it a HOST command? -/
def Event.isReinit : Event → Bool
  | .reinit _ _ => true
  | _ => false

/-- Sessions that agree in what the handlers read, and have reported the same since their traces were
`before` and `before'`. -/
structure Session.Alike (before before' : List Emission) (s t : Session) : Prop where
  mainServer : s.mainServer = t.mainServer
  engine : s.engine = t.engine
  excludeFilter : s.excludeFilter = t.excludeFilter
  sampling : s.sampling = t.sampling
  sessStartMs : s.sessStartMs = t.sessStartMs
  client : s.statsd.map Client.statsd = t.statsd.map Client.statsd
  sqlConnCount : s.sqlConnCount = t.sqlConnCount
  registered : s.registered = t.registered
  reported : ∃ new new', s.trace = before ++ new ∧ t.trace = before' ++ new' ∧
    new.map Emission.seen = new'.map Emission.seen

section Alike

variable {before before' : List Emission} {s t : Session}

theorem seen_emissions (h : s.statsd.map Client.statsd = t.statsd.map Client.statsd)
    (sampled : Bool) (ops : List ClientOp) :
    (s.emissions sampled ops).map Emission.seen = (t.emissions sampled ops).map Emission.seen := by
  cases hs : s.statsd with
  | none =>
      have ht : t.statsd = none := by simpa [hs] using h.symm
      simp [Session.emissions, hs, ht]
  | some c =>
      rcases Option.map_eq_some_iff.1 (h.symm.trans (by rw [hs]; rfl)) with ⟨d, ht, hd⟩
      simp [Session.emissions, hs, ht, Emission.seen, hd, Function.comp_def]

theorem Session.Alike.perform (h : s.Alike before before' t) (sampled : Bool)
    (ops : List ClientOp) : (s.perform sampled ops).Alike before before' (t.perform sampled ops) := by
  rcases h.reported with ⟨new, new', hnew, hnew', hseen⟩
  refine ⟨h.mainServer, h.engine, h.excludeFilter, h.sampling, h.sessStartMs, h.client,
    h.sqlConnCount, h.registered, ?_⟩
  refine ⟨new ++ s.emissions sampled ops, new' ++ t.emissions sampled ops, ?_, ?_, ?_⟩
  · rw [Session.trace_perform, hnew, List.append_assoc]
  · rw [Session.trace_perform, hnew', List.append_assoc]
  · rw [List.map_append, List.map_append, hseen, seen_emissions h.client]

theorem Session.Alike.closeClient (h : s.Alike before before' t) :
    s.closeClient.Alike before before' t.closeClient :=
  { h.perform false [.close] with client := rfl }

theorem Session.Alike.delivered (h : s.Alike before before' t) (e : Event) :
    e.Delivered s ↔ e.Delivered t := by
  rw [Event.Delivered, Event.Delivered, h.registered]

theorem Session.Alike.reports (h : s.Alike before before' t) (e : Event) :
    e.reports s = e.reports t := by
  cases e with
  | command cmd hadError env =>
      have hlogged : Event.Logged s cmd env ↔ Event.Logged t cmd env := by
        rw [Event.Logged, Event.Logged, h.engine, h.excludeFilter, h.sampling]
      simp only [Event.reports, hlogged]
  | sftpOpened draw => simp only [Event.reports, h.sampling]
  | scpOpened draw => simp only [Event.reports, h.sampling]
  | _ => rfl

theorem Session.Alike.exit (h : s.Alike before before' t) (env : ExitEnv) :
    (statsdExitEv env s).Alike before before' (statsdExitEv env t) := by
  have hmetrics : exitMetrics env s = exitMetrics env t := by
    rw [exitMetrics, exitMetrics, h.sessStartMs, h.sqlConnCount]
  cases hs : s.statsd with
  | none =>
      have ht : t.statsd = none := by simpa [hs] using h.client.symm
      simpa [statsdExitEv, hs, ht] using h
  | some c =>
      rcases Option.map_eq_some_iff.1 (h.client.symm.trans (by rw [hs]; rfl)) with ⟨d, ht, _⟩
      rw [statsdExitEv_some env hs, statsdExitEv_some env ht, hmetrics]
      exact { (h.perform false (exitMetrics env t)).closeClient with sqlConnCount := rfl }

/-- The step lemma: any event but a HOST command keeps the sessions alike. -/
theorem Session.Alike.step (h : s.Alike before before' t) {e : Event} (he : e.isReinit = false) :
    (s.step e).Alike before before' (t.step e) := by
  by_cases hd : e.Delivered s
  · have hd' : e.Delivered t := (h.delivered e).1 hd
    rcases step_cases s e with hsteady | ⟨hnot, _⟩ | ⟨env, rfl, _, _⟩ | ⟨conf, env, rfl, _, _⟩ |
      ⟨rfl, _, _⟩
    · rw [step_steady hsteady, step_steady hsteady, if_pos hd, if_pos hd', h.reports e]
      exact { h.perform e.sampled (e.reports t) with sqlConnCount := by rw [h.sqlConnCount] }
    · exact absurd hd hnot
    · rw [Session.step, Session.step, if_pos hd, if_pos hd']
      exact h.exit env
    · exact absurd he (by simp [Event.isReinit])
    · rw [Session.step, Session.step, if_pos hd, if_pos hd']
      exact h.closeClient
  · have hd' : ¬ e.Delivered t := fun hbad => hd ((h.delivered e).2 hbad)
    rw [Session.step, Session.step, if_neg hd, if_neg hd']
    exact h

theorem Session.Alike.run {es : List Event} (hes : ∀ e ∈ es, e.isReinit = false) :
    ∀ {s t : Session}, s.Alike before before' t → (s.run es).Alike before before' (t.run es) := by
  induction es with
  | nil =>
      intro s t h
      exact h
  | cons e es ih =>
      intro s t h
      exact ih (fun e' he' => hes e' (by simp [he'])) (h.step (hes e (by simp)))

end Alike

/-- What is reported by some events. -/
def Session.reported (s : Session) (es : List Event) : List (Statsd × ClientOp) :=
  ((s.run es).trace.drop s.trace.length).map Emission.seen

theorem Session.Alike.reported_eq {s t : Session} (h : s.Alike s.trace t.trace t) {es : List Event}
    (hes : ∀ e ∈ es, e.isReinit = false) : s.reported es = t.reported es := by
  rcases (h.run hes).reported with ⟨new, new', hnew, hnew', hseen⟩
  rw [Session.reported, Session.reported, hnew, hnew', List.drop_left, List.drop_left, hseen]

/-! ## Without a client -/

/-- Without a client nothing is reported, whatever is still registered. -/
theorem silent_step {s : Session} (hnone : s.statsd = none) {e : Event} (he : e.isReinit = false) :
    (s.step e).statsd = none ∧ (s.step e).trace = s.trace := by
  rcases step_cases s e with hsteady | ⟨_, hstep⟩ | ⟨env, rfl, _, hstep⟩ |
    ⟨conf, env, rfl, _, hstep⟩ | ⟨rfl, _, hstep⟩
  · rw [step_steady hsteady]
    split
    · exact ⟨hnone, by simp [Session.trace_perform, hnone]⟩
    · exact ⟨hnone, rfl⟩
  · rw [hstep]
    exact ⟨hnone, rfl⟩
  · rw [hstep]
    exact ⟨statsd_statsdExitEv env s, by simp [statsdExitEv, hnone]⟩
  · exact absurd he (by simp [Event.isReinit])
  · rw [hstep]
    exact ⟨rfl, by simp [Session.closeClient, Session.trace_perform, hnone]⟩

theorem silent_run {es : List Event} (hes : ∀ e ∈ es, e.isReinit = false) :
    ∀ {s : Session}, s.statsd = none → (s.run es).trace = s.trace := by
  induction es with
  | nil =>
      intro s _
      rfl
  | cons e es ih =>
      intro s hnone
      rcases silent_step hnone (hes e (by simp)) with ⟨hnone', htrace⟩
      exact (ih (fun e' he' => hes e' (by simp [he'])) hnone').trans htrace

theorem reported_of_none {s : Session} (hnone : s.statsd = none) {es : List Event}
    (hes : ∀ e ∈ es, e.isReinit = false) : s.reported es = [] := by
  rw [Session.reported, silent_run hes hnone, List.drop_length, List.map_nil]

/-! ## What initialization leaves behind -/

/-- The client that is opened for a server, by a module at the default rate. -/
def clientFor (conf : ServerConf) (env : InitEnv) : Option Statsd :=
  if conf.engine.getD false = false then none
  else
    conf.server.bind fun c => (env.resolve c.host).bind fun ipstr =>
      (statsdStatsdOpen env.socket (some (serverAddr ipstr c.port)) c.useTcp 1 c.prefixLabel
        c.suffixLabel).toOption

/-- The globals are as at the start of the process, or as `statsd_sess_reinit_ev` resets them. -/
structure Session.Cleared (s : Session) : Prop where
  engine : s.engine = false
  excludeFilter : s.excludeFilter = none
  sampling : s.sampling = 1
  statsd : s.statsd = none

theorem cleared_initial (conf : ServerConf) : (Session.initial conf).Cleared :=
  ⟨rfl, rfl, rfl, rfl⟩

theorem cleared_reset (s : Session) : s.reset.Cleared :=
  ⟨rfl, rfl, rfl, rfl⟩

theorem statsdSessInit_cleared (env : InitEnv) {s : Session} (h : s.Cleared) :
    statsdSessInit env s =
      match clientFor s.mainServer env with
      | none => { s.register {.sessionReinit} with engine := false }
      | some statsd => startReporting env statsd { s.register {.sessionReinit} with engine := true } := by
  cases hengine : s.mainServer.engine.getD false with
  | false => simp [statsdSessInit, clientFor, h.engine, hengine]
  | true =>
      cases hserver : s.mainServer.server with
      | none => simp [statsdSessInit, clientFor, h.engine, hengine, hserver, Session.register]
      | some c =>
          cases hresolve : env.resolve c.host with
          | none =>
              simp [statsdSessInit, clientFor, h.engine, hengine, hserver, hresolve, Session.register]
          | some ipstr =>
              cases hopen : statsdStatsdOpen env.socket (some (serverAddr ipstr c.port)) c.useTcp 1
                  c.prefixLabel c.suffixLabel with
              | error e =>
                  simp [statsdSessInit, clientFor, h.engine, h.sampling, h.statsd, hengine, hserver,
                    hresolve, hopen, Session.register, Except.toOption]
              | ok statsd =>
                  simp [statsdSessInit, clientFor, h.engine, h.sampling, hengine, hserver,
                    hresolve, hopen, Session.register, Except.toOption]

/-! ## Callbacks -/

/-- Modules are loaded before the session starts, and stay. -/
def InitEnv.SameModules (env env' : InitEnv) : Prop :=
  env.modSftp = env'.modSftp ∧ env.modSql = env'.modSql ∧ env.modTls = env'.modTls

def Event.SameModules (env : InitEnv) : Event → Prop
  | .reinit _ env' => env'.SameModules env
  | _ => True

/-- HOST is listened to, and nothing that is not listened to with a client. -/
structure Session.Listens (env : InitEnv) (s : Session) : Prop where
  reinit : EventName.sessionReinit ∈ s.registered
  others : s.registered ⊆ {.sessionReinit} ∪ sessionEvents env

section Listens

variable {env env' : InitEnv} {s : Session}

theorem sessionEvents_congr (h : env'.SameModules env) : sessionEvents env' = sessionEvents env := by
  rcases h with ⟨hsftp, hsql, htls⟩
  rw [sessionEvents, sessionEvents, hsftp, hsql, htls]

theorem registered_init (h : s.Cleared) :
    (statsdSessInit env s).registered = s.registered ∪ {.sessionReinit} ∪
      if (clientFor s.mainServer env).isSome then sessionEvents env else ∅ := by
  rw [statsdSessInit_cleared env h]
  cases clientFor s.mainServer env with
  | none => simp [Session.register]
  | some statsd => simp [startReporting, Session.register]

theorem listens_init (hmodules : env'.SameModules env) (h : s.Cleared)
    (hothers : s.registered ⊆ {.sessionReinit} ∪ sessionEvents env) :
    (statsdSessInit env' s).Listens env := by
  have hevents := sessionEvents_congr hmodules
  refine ⟨?_, ?_⟩
  · rw [registered_init h]
    simp
  · rw [registered_init h]
    refine Finset.union_subset (Finset.union_subset hothers Finset.subset_union_left) ?_
    split
    · rw [hevents]
      exact Finset.subset_union_right
    · exact Finset.empty_subset _

theorem listens_start (hmodules : env'.SameModules env) (conf : ServerConf) :
    (Session.start conf env').Listens env :=
  listens_init hmodules (cleared_initial conf) (Finset.empty_subset _)

theorem Session.Listens.reset (h : s.Listens env) :
    s.reset.registered ⊆ {.sessionReinit} ∪ sessionEvents env :=
  ((Finset.erase_subset _ _).trans (Finset.erase_subset _ _)).trans h.others

theorem Session.Listens.step (h : s.Listens env) {e : Event} (he : e.SameModules env) :
    (s.step e).Listens env := by
  rcases step_cases s e with hsteady | ⟨_, hstep⟩ | ⟨env, rfl, _, hstep⟩ |
    ⟨conf, env', rfl, _, hstep⟩ | ⟨rfl, _, hstep⟩
  · have hregistered : (s.step e).registered = s.registered := by
      rw [sameModule_step hsteady s]
    exact ⟨by rw [hregistered]; exact h.reinit, by rw [hregistered]; exact h.others⟩
  · rw [hstep]
    exact h
  · have hregistered : (statsdExitEv env s).registered = s.registered := by
      cases hc : s.statsd with
      | none => simp [statsdExitEv, hc]
      | some c => simp [statsdExitEv_some env hc, Session.closeClient]
    rw [hstep]
    exact ⟨by rw [hregistered]; exact h.reinit, by rw [hregistered]; exact h.others⟩
  · rw [hstep]
    have hothers : ({ s with mainServer := conf } : Session).reset.registered ⊆
        {.sessionReinit} ∪ sessionEvents env := h.reset
    exact listens_init he (cleared_reset _) hothers
  · rw [hstep]
    exact ⟨h.reinit, h.others⟩

theorem Session.Listens.run {es : List Event} (hes : ∀ e ∈ es, e.SameModules env) :
    ∀ {s : Session}, s.Listens env → (s.run es).Listens env := by
  induction es with
  | nil =>
      intro s h
      exact h
  | cons e es ih =>
      intro s h
      exact ih (fun e' he' => hes e' (by simp [he'])) (h.step (hes e (by simp)))

end Listens

/-! ## The start of the session -/

/-- The clock reading that is kept: zero is taken for none. -/
def firstNonzero (readings : List UInt64) : UInt64 :=
  (readings.find? (· ≠ 0)).getD 0

theorem firstNonzero_append (xs ys : List UInt64) :
    firstNonzero (firstNonzero xs :: ys) = firstNonzero (xs ++ ys) := by
  cases hfirst : xs.find? (· ≠ 0) with
  | none =>
      have hzero : firstNonzero xs = 0 := by rw [firstNonzero, hfirst, Option.getD_none]
      rw [hzero, firstNonzero, firstNonzero, List.find?_append, hfirst, Option.none_or]
      rfl
  | some n =>
      have hn : firstNonzero xs = n := by rw [firstNonzero, hfirst, Option.getD_some]
      have hne : n ≠ 0 := by simpa using List.find?_some hfirst
      rw [hn, firstNonzero, firstNonzero, List.find?_append, hfirst]
      simp [hne]

/-- The first reading is kept, unless it is zero and there is another one later. -/
theorem firstNonzero_eq_head_iff {first : UInt64} {readings : List UInt64}
    (h : readings.head? = some first) :
    firstNonzero readings = first ↔ first ≠ 0 ∨ ∀ ms ∈ readings, ms = 0 := by
  rcases List.head?_eq_some_iff.1 h with ⟨rest, rfl⟩
  by_cases hzero : first = 0
  · subst hzero
    have hnone : ((0 :: rest).find? (· ≠ 0)).getD 0 = 0 ↔ ∀ ms ∈ 0 :: rest, ms = 0 := by
      cases hfind : (0 :: rest).find? (· ≠ 0) with
      | none =>
          have hall : ∀ ms ∈ 0 :: rest, ms = 0 := by simpa using List.find?_eq_none.1 hfind
          exact iff_of_true rfl hall
      | some n =>
          have hne : n ≠ 0 := by simpa using List.find?_some hfind
          exact iff_of_false hne fun hall => hne (hall n (List.mem_of_find?_eq_some hfind))
    rw [firstNonzero, hnone, or_iff_right (not_not.2 rfl)]
  · have hfirst : firstNonzero (first :: rest) = first := by simp [firstNonzero, hzero]
    exact iff_of_true hfirst (Or.inl hzero)

/-- The reading at which the event has `statsd_sess_init` open a client, if it does. -/
def Event.opening (s : Session) : Event → List UInt64
  | .reinit conf env =>
      if (Event.reinit conf env).Delivered s ∧ (clientFor conf env).isSome then [env.nowMs] else []
  | _ => []

/-- The readings at which clients are opened in a run. -/
def Session.openings : List Event → Session → List UInt64
  | [], _ => []
  | e :: es, s => e.opening s ++ Session.openings es (s.step e)

/-- The readings at which clients are opened in a session, the first one included. -/
def openingsOf (conf : ServerConf) (env : InitEnv) (es : List Event) : List UInt64 :=
  (if (clientFor conf env).isSome then [env.nowMs] else []) ++
    (Session.start conf env).openings es

theorem sessStartMs_init (env : InitEnv) {s : Session} (h : s.Cleared) :
    (statsdSessInit env s).sessStartMs =
      firstNonzero (s.sessStartMs ::
        if (clientFor s.mainServer env).isSome then [env.nowMs] else []) := by
  rw [statsdSessInit_cleared env h]
  cases clientFor s.mainServer env with
  | none => by_cases hzero : s.sessStartMs = 0 <;> simp [firstNonzero, hzero, Session.register]
  | some statsd =>
      by_cases hzero : s.sessStartMs = 0
      · by_cases hnow : env.nowMs = 0 <;>
          simp [firstNonzero, hzero, hnow, startReporting, Session.register, Session.perform]
      · simp [firstNonzero, hzero, startReporting, Session.register, Session.perform]

theorem sessStartMs_step (s : Session) (e : Event) :
    (s.step e).sessStartMs = firstNonzero (s.sessStartMs :: e.opening s) := by
  have hkept : s.sessStartMs = firstNonzero [s.sessStartMs] := by
    by_cases hzero : s.sessStartMs = 0 <;> simp [firstNonzero, hzero]
  rcases step_cases s e with hsteady | ⟨hnot, hstep⟩ | ⟨env, rfl, _, hstep⟩ |
    ⟨conf, env, rfl, hd, hstep⟩ | ⟨rfl, _, hstep⟩
  · have hnone : e.opening s = [] := by
      cases e with
      | reinit conf env => exact absurd hsteady Bool.false_ne_true.symm
      | _ => rfl
    rw [hnone, ← hkept, sameModule_step hsteady s]
  · have hnone : e.opening s = [] := by
      cases e with
      | reinit conf env => simp [Event.opening, hnot]
      | _ => rfl
    rw [hnone, ← hkept, hstep]
  · have hsame : (statsdExitEv env s).sessStartMs = s.sessStartMs := by
      cases hc : s.statsd with
      | none => simp [statsdExitEv, hc]
      | some c => simp [statsdExitEv_some env hc, Session.closeClient, Session.perform]
    rw [hstep, hsame]
    exact hkept
  · have hopening : (Event.reinit conf env).opening s =
        if (clientFor conf env).isSome then [env.nowMs] else [] := by
      simp [Event.opening, hd]
    rw [hstep, hopening]
    exact sessStartMs_init env (cleared_reset { s with mainServer := conf })
  · rw [hstep]
    exact hkept

theorem sessStartMs_run (es : List Event) :
    ∀ s : Session, (s.run es).sessStartMs = firstNonzero (s.sessStartMs :: s.openings es) := by
  induction es with
  | nil =>
      intro s
      by_cases hzero : s.sessStartMs = 0 <;> simp [firstNonzero, Session.openings, Session.run, hzero]
  | cons e es ih =>
      intro s
      have hrun : s.run (e :: es) = (s.step e).run es := rfl
      rw [hrun, ih, sessStartMs_step, firstNonzero_append]
      rfl

/-- The start of a session is the first reading, but zero, at which a client was opened. -/
theorem sessStartMs_session (conf : ServerConf) (env : InitEnv) (es : List Event) :
    ((Session.start conf env).run es).sessStartMs = firstNonzero (openingsOf conf env es) := by
  have hinit : (Session.start conf env).sessStartMs =
      firstNonzero (0 :: if (clientFor conf env).isSome then [env.nowMs] else []) :=
    sessStartMs_init env (cleared_initial conf)
  rw [sessStartMs_run, hinit, firstNonzero_append]
  rfl

/-! ## After a HOST command -/

/-- `u`, which a HOST command has led to from `s`, goes on like a session started on `conf`. -/
structure Session.AsStarted (conf : ServerConf) (env : InitEnv) (s u : Session) : Prop where
  engine : u.engine = (Session.start conf env).engine
  excludeFilter : u.excludeFilter = (Session.start conf env).excludeFilter
  sampling : u.sampling = (Session.start conf env).sampling
  -- address, transport, rate and labels are those of the client
  client : u.statsd.map Client.statsd = (Session.start conf env).statsd.map Client.statsd
  -- whatever happened during its first calls, nothing is pending
  idle : ∀ c, u.statsd = some c → ∀ xs : List MadeCall, xs.map MadeCall.op = u.calls c.id →
    (runMade xs (World.start c.statsd)).Idle
  sqlConnCount : u.sqlConnCount = s.sqlConnCount
  reported : ∀ es : List Event, (∀ e ∈ es, e.isReinit = false) →
    u.reported es =
      Session.reported
        { Session.start conf env with
          sqlConnCount := u.sqlConnCount, sessStartMs := u.sessStartMs } es
  silent : clientFor conf env = none → ∀ es : List Event, (∀ e ∈ es, e.isReinit = false) →
    u.reported es = []

/-- A flush leaves nothing pending, whatever happened before it or happens during it. -/
theorem idle_of_flush_last {xs : List MadeCall} {ops : List ClientOp}
    (h : xs.map MadeCall.op = ops ++ [.flush]) (w : World) : (runMade xs w).Idle := by
  rcases List.map_eq_append_iff.1 h with ⟨ys, zs, rfl, _, hlast⟩
  rcases zs with _ | ⟨x, _ | ⟨y, rest⟩⟩
  · simp at hlast
  · rcases x with ⟨op, overflow, now⟩
    have hop : op = .flush := by simpa using hlast
    subst hop
    rw [runMade, List.foldl_append]
    exact idle_sendAndClear now.send _
  · simp at hlast

theorem calls_startReporting {s : Session} (h : s.Orderly) (env : InitEnv) (statsd : Statsd) :
    (startReporting env statsd s).calls s.opened =
      [.gauge (getConnMetric none) 1 flGaugeAdjust, .flush] := by
  let t : Session := { s with statsd := some { id := s.opened, statsd := statsd } }
  have hcalls := t.calls_perform false [.gauge (getConnMetric none) 1 flGaugeAdjust, .flush] s.opened
  have hcurrent : t.Current s.opened := rfl
  have hbefore : t.calls s.opened = [] := h.calls_opened
  rw [if_pos hcurrent, hbefore, List.nil_append] at hcalls
  exact hcalls

/-- From two cleared states, the same server leads to the same globals. -/
theorem init_agrees (env : InitEnv) {s t : Session} (hs : s.Cleared) (ht : t.Cleared)
    (hserver : s.mainServer = t.mainServer) :
    (statsdSessInit env s).mainServer = (statsdSessInit env t).mainServer ∧
      (statsdSessInit env s).engine = (statsdSessInit env t).engine ∧
      (statsdSessInit env s).excludeFilter = (statsdSessInit env t).excludeFilter ∧
      (statsdSessInit env s).sampling = (statsdSessInit env t).sampling ∧
      (statsdSessInit env s).statsd.map Client.statsd =
        (statsdSessInit env t).statsd.map Client.statsd := by
  rw [statsdSessInit_cleared env hs, statsdSessInit_cleared env ht, hserver]
  cases clientFor t.mainServer env with
  | none =>
      simp [Session.register, hserver, hs.excludeFilter, ht.excludeFilter, hs.sampling, ht.sampling,
        hs.statsd, ht.statsd]
  | some statsd =>
      simp [startReporting, Session.register, Session.perform, hserver, hs.excludeFilter,
        ht.excludeFilter, hs.sampling, ht.sampling]

/-- Two sessions that are initialized for one server, when HOST was listened to in the first, report
the same, if they agree in the count and in the start. -/
theorem alike_init (env : InitEnv) {s t : Session} (hs : s.Cleared) (ht : t.Cleared)
    (hserver : s.mainServer = t.mainServer) (hopens : (clientFor t.mainServer env).isSome)
    (hs' : s.registered ⊆ {.sessionReinit} ∪ sessionEvents env)
    (ht' : t.registered ⊆ {.sessionReinit} ∪ sessionEvents env) (count : UInt32) (start : UInt64) :
    Session.Alike (statsdSessInit env s).trace (statsdSessInit env t).trace
      { statsdSessInit env s with sqlConnCount := count, sessStartMs := start }
      { statsdSessInit env t with sqlConnCount := count, sessStartMs := start } := by
  rcases init_agrees env hs ht hserver with ⟨hmain, hengine, hfilter, hsampling, hclient⟩
  have hall : ∀ {u : Session}, u.Cleared → (clientFor u.mainServer env).isSome →
      u.registered ⊆ {.sessionReinit} ∪ sessionEvents env →
      (statsdSessInit env u).registered = {.sessionReinit} ∪ sessionEvents env := by
    intro u hu hopens hothers
    rw [registered_init hu, if_pos hopens, Finset.union_assoc]
    exact Finset.union_eq_right.2 hothers
  exact
    { mainServer := hmain
      engine := hengine
      excludeFilter := hfilter
      sampling := hsampling
      sessStartMs := rfl
      client := hclient
      sqlConnCount := rfl
      registered := (hall hs (hserver ▸ hopens) hs').trans (hall ht hopens ht').symm
      reported := ⟨[], [], by simp, by simp, rfl⟩ }

/-- Initialization flushes the gauge of the new client, and opens no other. -/
theorem idle_init (env : InitEnv) {s : Session} (h : s.Cleared) (horderly : s.Orderly) {c : Client}
    (hc : (statsdSessInit env s).statsd = some c) {xs : List MadeCall}
    (hxs : xs.map MadeCall.op = (statsdSessInit env s).calls c.id) (w : World) :
    (runMade xs w).Idle := by
  rw [statsdSessInit_cleared env h] at hc hxs
  cases hclient : clientFor s.mainServer env with
  | none =>
      rw [hclient] at hc
      simp [Session.register, h.statsd] at hc
  | some statsd =>
      rw [hclient] at hc hxs
      have hid : c.id = s.opened := by
        rw [← Option.some.inj hc]
        rfl
      let u : Session := { s.register {.sessionReinit} with engine := true }
      have hu : u.Orderly := horderly.congr rfl rfl rfl
      have hcalls : (startReporting env statsd u).calls u.opened =
          [.gauge (getConnMetric none) 1 flGaugeAdjust] ++ [.flush] :=
        calls_startReporting hu env statsd
      rw [hid] at hxs
      exact idle_of_flush_last (hxs.trans hcalls) w

theorem statsd_init_of_none {env : InitEnv} {s : Session} (h : s.Cleared)
    (hnone : clientFor s.mainServer env = none) : (statsdSessInit env s).statsd = none := by
  rw [statsdSessInit_cleared env h, hnone]
  exact h.statsd

theorem sqlConnCount_init (env : InitEnv) {s : Session} (h : s.Cleared) :
    (statsdSessInit env s).sqlConnCount = s.sqlConnCount := by
  rw [statsdSessInit_cleared env h]
  cases clientFor s.mainServer env with
  | none => rfl
  | some statsd => rfl

/-- What was cleared is initialized as at the start. -/
theorem asStarted_init (env : InitEnv) {s : Session} (h : s.Cleared) (horderly : s.Orderly)
    (hothers : s.registered ⊆ {.sessionReinit} ∪ sessionEvents env) :
    s.AsStarted s.mainServer env (statsdSessInit env s) := by
  have hinitial : (Session.initial s.mainServer).Cleared := cleared_initial s.mainServer
  rcases init_agrees env h hinitial rfl with ⟨_, hengine, hfilter, hsampling, hclient⟩
  refine ⟨hengine, hfilter, hsampling, hclient, ?_, sqlConnCount_init env h, ?_, ?_⟩
  · intro c hc xs hxs
    exact idle_init env h horderly hc hxs _
  · intro es hes
    cases hopens : clientFor s.mainServer env with
    | none =>
        let started : Session :=
          { Session.start s.mainServer env with
            sqlConnCount := (statsdSessInit env s).sqlConnCount
            sessStartMs := (statsdSessInit env s).sessStartMs }
        have hstarted : started.statsd = none := statsd_init_of_none hinitial hopens
        rw [reported_of_none (statsd_init_of_none h hopens) hes]
        exact (reported_of_none hstarted hes).symm
    | some statsd =>
        have hsome : (clientFor (Session.initial s.mainServer).mainServer env).isSome := by
          rw [Session.initial, hopens, Option.isSome_some]
        have halike := alike_init env h hinitial rfl hsome hothers (Finset.empty_subset _)
          (statsdSessInit env s).sqlConnCount (statsdSessInit env s).sessStartMs
        exact halike.reported_eq hes
  · intro hnone es hes
    exact reported_of_none (statsd_init_of_none h hnone) hes

/-- After a HOST command a session goes on like one that was started on that server, with its own
count of SQL connections and its own start.  That is the time of the first opening just if the clock
did not read zero then, or not anything else later. -/
theorem reinit_starts_afresh (conf₀ : ServerConf) (env₀ : InitEnv) {before : List Event}
    (conf : ServerConf) (env : InitEnv) (hmodules₀ : env₀.SameModules env)
    (hmodules : ∀ e ∈ before, e.SameModules env) :
    ((Session.start conf₀ env₀).run before).AsStarted conf env
        (((Session.start conf₀ env₀).run before).step (.reinit conf env)) ∧
      (((Session.start conf₀ env₀).run before).step (.reinit conf env)).sessStartMs =
        firstNonzero (openingsOf conf₀ env₀ (before ++ [.reinit conf env])) ∧
      ∀ first ∈ (openingsOf conf₀ env₀ (before ++ [.reinit conf env])).head?,
        (((Session.start conf₀ env₀).run before).step (.reinit conf env)).sessStartMs = first ↔
          first ≠ 0 ∨ ∀ ms ∈ openingsOf conf₀ env₀ (before ++ [.reinit conf env]), ms = 0 := by
  let s := (Session.start conf₀ env₀).run before
  let t : Session := { s with mainServer := conf }
  have hlistens : s.Listens env := (listens_start hmodules₀ conf₀).run hmodules
  have horderly : t.reset.Orderly := by
    have hs : s.Orderly := orderly_run (orderly_start conf₀ env₀) before
    have ht : t.Orderly := hs.congr rfl rfl rfl
    exact ht.reset
  have hstep : s.step (.reinit conf env) = statsdSessInit env t.reset := by
    have hdelivered : (Event.reinit conf env).Delivered s := by
      rintro _ ⟨⟩
      exact hlistens.reinit
    rw [Session.step, if_pos hdelivered]
    rfl
  have hstart : (s.step (.reinit conf env)).sessStartMs =
      firstNonzero (openingsOf conf₀ env₀ (before ++ [.reinit conf env])) := by
    have hrun : s.step (.reinit conf env) =
        (Session.start conf₀ env₀).run (before ++ [.reinit conf env]) := by
      simp [Session.run, s]
    rw [hrun, sessStartMs_session]
  refine ⟨?_, hstart, ?_⟩
  · have hinit := asStarted_init env (cleared_reset t) horderly hlistens.reset
    rw [hstep]
    exact { hinit with }
  · intro first hfirst
    rw [hstart]
    exact firstNonzero_eq_head_iff hfirst

/-- From a server that samples half of its metrics, with a SQL connection open, to one that takes
them all. -/
theorem reinit_starts_afresh_sampled :
    let s := (Session.start (loopbackConf (some (1 / 2))) loopbackEnv).run [.sqlOpened]
    let u := s.step (.reinit (loopbackConf none) loopbackEnv)
    s.AsStarted (loopbackConf none) loopbackEnv u ∧ u.sqlConnCount = 1 ∧ u.sessStartMs = 1000 := by
  have hmodules : ∀ e ∈ [Event.sqlOpened], e.SameModules loopbackEnv := by
    simp [Event.SameModules]
  have hafresh := reinit_starts_afresh (loopbackConf (some (1 / 2))) loopbackEnv
    (loopbackConf none) loopbackEnv ⟨rfl, rfl, rfl⟩ hmodules
  refine ⟨hafresh.1, ?_, ?_⟩
  · rw [hafresh.1.sqlConnCount]
    decide +kernel
  · have hfirst : (1000 : UInt64) ∈ (openingsOf (loopbackConf (some (1 / 2))) loopbackEnv
        ([.sqlOpened] ++ [.reinit (loopbackConf none) loopbackEnv])).head? := by
      decide +kernel
    exact (hafresh.2.2 1000 hfirst).2 (Or.inl (by decide))

/-- A session that was started when the clock read zero is taken for one that was not. -/
theorem start_at_zero_is_forgotten :
    openingsOf (loopbackConf none) { loopbackEnv with nowMs := 0 }
        [.reinit (loopbackConf none) loopbackEnv] = [0, 1000] ∧
      ((Session.start (loopbackConf none) { loopbackEnv with nowMs := 0 }).run
        [.reinit (loopbackConf none) loopbackEnv]).sessStartMs = 1000 := by
  decide +kernel

end ModStatsd
