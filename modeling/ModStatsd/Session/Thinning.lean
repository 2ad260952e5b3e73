import ModStatsd.Session.Coherence

/-!
# Thinning — a stricter configuration reports a part of the same

`StatsdExcludeFilter` and `StatsdSampling` are there to send less.  Two sessions with the same events
and the same draws are compared, one of which visits servers that exclude more and sample less: what
it reports is what the other one reports, with some calls left out (`stricter_reports_less`).  In
particular neither directive changes a client, the gauge of connections, or the order of anything.

* `Session.Thinner` — the simulation, for clients of which no more is seen than `view` shows.
-/

namespace ModStatsd

/-! ## What one can see -/

/-- The call, by one who sees of a client what `view` shows. -/
def Emission.viewed {β : Type} (view : Client → β) (x : Emission) : β × ClientOp :=
  (view x.client, x.op)

section Thinner

variable {β : Type} (view : Client → β)

/-- No more is let through on `conf` than on `conf'`, and the clients that are opened look the same. -/
structure ThinnedServer (conf conf' : ServerConf) (env env' : InitEnv) : Prop where
  client : ∀ id, (clientFor conf env).map (fun statsd => view { id := id, statsd := statsd }) =
    (clientFor conf' env').map fun statsd => view { id := id, statsd := statsd }
  filter : ∀ cmd, shouldExclude conf'.filter cmd = true → shouldExclude conf.filter cmd = true
  rate : conf.rate ≤ conf'.rate
  nowMs : env.nowMs = env'.nowMs
  modules : env.SameModules env'

/-- The same event, of which a HOST command may lead to a server that lets less through. -/
inductive Event.Thinned : Event → Event → Prop
  | same (e : Event) (h : e.isReinit = false) : Thinned e e
  | reinit {conf conf' : ServerConf} {env env' : InitEnv} (h : ThinnedServer view conf conf' env env') :
      Thinned (.reinit conf env) (.reinit conf' env')

theorem shouldSample_mono {rate rate' draw : ℚ} (hle : rate ≤ rate')
    (h : shouldSample rate draw = true) : shouldSample rate' draw = true := by
  rw [shouldSample_iff] at h ⊢
  intro hlt
  exact (h (hle.trans_lt hlt)).trans hle

/-! ## Sessions in step -/

/-- The sessions agree in all that is not thinned, and `s` has reported a part of what `t` has. -/
structure Session.Thinner (s t : Session) : Prop where
  engine : s.engine = t.engine
  excludeFilter : ∀ cmd, shouldExclude t.excludeFilter cmd = true →
    shouldExclude s.excludeFilter cmd = true
  sampling : s.sampling ≤ t.sampling
  sessStartMs : s.sessStartMs = t.sessStartMs
  client : s.statsd.map view = t.statsd.map view
  sqlConnCount : s.sqlConnCount = t.sqlConnCount
  registered : s.registered = t.registered
  opened : s.opened = t.opened
  reported : (s.trace.map (Emission.viewed view)).Sublist (t.trace.map (Emission.viewed view))

variable {view} {s t : Session}

theorem viewed_emissions (h : s.statsd.map view = t.statsd.map view) (sampled : Bool)
    {ops ops' : List ClientOp} (hops : ops.Sublist ops') :
    ((s.emissions sampled ops).map (Emission.viewed view)).Sublist
      ((t.emissions sampled ops').map (Emission.viewed view)) := by
  cases hs : s.statsd with
  | none =>
      have ht : t.statsd = none := by simpa [hs] using h.symm
      simp [hs, ht]
  | some c =>
      rcases Option.map_eq_some_iff.1 (h.symm.trans (by rw [hs]; rfl)) with ⟨d, ht, hview⟩
      simpa [Session.emissions, hs, ht, Emission.viewed, hview, Function.comp_def] using
        hops.map fun op => (view c, op)

theorem Session.Thinner.perform (h : s.Thinner view t) (sampled : Bool) {ops ops' : List ClientOp}
    (hops : ops.Sublist ops') : (s.perform sampled ops).Thinner view (t.perform sampled ops') := by
  have htrace : ((s.perform sampled ops).trace.map (Emission.viewed view)).Sublist
      ((t.perform sampled ops').trace.map (Emission.viewed view)) := by
    rw [Session.trace_perform, Session.trace_perform, List.map_append, List.map_append]
    exact h.reported.append (viewed_emissions h.client sampled hops)
  exact { h with reported := htrace }

theorem Session.Thinner.closeClient (h : s.Thinner view t) :
    s.closeClient.Thinner view t.closeClient := by
  have hclosed : (s.perform false [.close]).Thinner view (t.perform false [.close]) :=
    h.perform false (List.Sublist.refl _)
  exact { hclosed with client := rfl }

theorem Session.Thinner.delivered (h : s.Thinner view t) (e : Event) :
    e.Delivered s ↔ e.Delivered t := by
  rw [Event.Delivered, Event.Delivered, h.registered]

theorem Session.Thinner.logged (h : s.Thinner view t) {cmd : CmdRec} {env : CmdEnv}
    (hlogged : Event.Logged s cmd env) : Event.Logged t cmd env := by
  rcases hlogged with ⟨hengine, hfilter, hsample⟩
  refine ⟨h.engine ▸ hengine, ?_, shouldSample_mono h.sampling hsample⟩
  by_contra hexcluded
  have hboth := h.excludeFilter cmd (by simpa using hexcluded)
  exact Bool.false_ne_true (hfilter.symm.trans hboth)

/-- What is gated is left out by the stricter session first. -/
theorem sublist_gated {p q : Prop} [Decidable p] [Decidable q] (h : p → q) (ops : List ClientOp) :
    (if p then ops else []).Sublist (if q then ops else []) := by
  by_cases hp : p
  · rw [if_pos hp, if_pos (h hp)]
  · rw [if_neg hp]
    exact List.nil_sublist _

theorem Session.Thinner.reports (h : s.Thinner view t) (e : Event) :
    (e.reports s).Sublist (e.reports t) := by
  cases e with
  | command cmd hadError env => exact sublist_gated h.logged _
  | sftpOpened draw => exact sublist_gated (shouldSample_mono h.sampling) _
  | scpOpened draw => exact sublist_gated (shouldSample_mono h.sampling) _
  | _ => exact List.Sublist.refl _

theorem Session.Thinner.exit (h : s.Thinner view t) (env : ExitEnv) :
    (statsdExitEv env s).Thinner view (statsdExitEv env t) := by
  have hmetrics : exitMetrics env s = exitMetrics env t := by
    rw [exitMetrics, exitMetrics, h.sessStartMs, h.sqlConnCount]
  cases hs : s.statsd with
  | none =>
      have ht : t.statsd = none := by simpa [hs] using h.client.symm
      simpa [statsdExitEv, hs, ht] using h
  | some c =>
      rcases Option.map_eq_some_iff.1 (h.client.symm.trans (by rw [hs]; rfl)) with ⟨d, ht, _⟩
      rw [statsdExitEv_some env hs, statsdExitEv_some env ht, hmetrics]
      exact { (h.perform false (List.Sublist.refl _)).closeClient with sqlConnCount := rfl }

theorem Session.Thinner.startReporting (h : s.Thinner view t) (hs : s.Cleared) (ht : t.Cleared)
    {env env' : InitEnv} (hserver : ThinnedServer view s.mainServer t.mainServer env env')
    {statsd statsd' : Statsd}
    (hview : view { id := s.opened, statsd := statsd } = view { id := s.opened, statsd := statsd' }) :
    (startReporting env statsd { s.register {.sessionReinit} with engine := true }).Thinner view
      (startReporting env' statsd' { t.register {.sessionReinit} with engine := true }) := by
  let s' : Session := { s with statsd := some { id := s.opened, statsd := statsd } }
  let t' : Session := { t with statsd := some { id := t.opened, statsd := statsd' } }
  have hclient : s'.statsd.map view = t'.statsd.map view := by
    simp [s', t', ← h.opened, hview]
  have hopened : s'.Thinner view t' := { h with client := hclient }
  have hreported := (hopened.perform false
    (List.Sublist.refl [.gauge (getConnMetric none) 1 flGaugeAdjust, .flush])).reported
  rcases startReporting_directives env statsd
    (s := { s.register {.sessionReinit} with engine := true }) hs.excludeFilter hs.sampling with
    ⟨hfilter, hrate⟩
  rcases startReporting_directives env' statsd'
    (s := { t.register {.sessionReinit} with engine := true }) ht.excludeFilter ht.sampling with
    ⟨hfilter', hrate'⟩
  refine
    { engine := rfl
      excludeFilter := ?_
      sampling := ?_
      sessStartMs := ?_
      client := hclient
      sqlConnCount := h.sqlConnCount
      registered := ?_
      opened := congrArg (· + 1) h.opened
      reported := hreported }
  · rw [hfilter, hfilter']
    exact hserver.filter
  · rw [hrate, hrate']
    exact hserver.rate
  · have hstart : (if s.sessStartMs = 0 then env.nowMs else s.sessStartMs) =
        if t.sessStartMs = 0 then env'.nowMs else t.sessStartMs := by
      rw [h.sessStartMs, hserver.nowMs]
    exact hstart
  · simp only [ModStatsd.startReporting, Session.register, Session.perform, h.registered,
      sessionEvents_congr hserver.modules]

/-- Both sessions open clients that look the same, if any. -/
theorem Session.Thinner.init (h : s.Thinner view t) (hs : s.Cleared) (ht : t.Cleared)
    {env env' : InitEnv} (hserver : ThinnedServer view s.mainServer t.mainServer env env') :
    (statsdSessInit env s).Thinner view (statsdSessInit env' t) := by
  have hopens := hserver.client s.opened
  rw [statsdSessInit_cleared env hs, statsdSessInit_cleared env' ht]
  cases hclient : clientFor s.mainServer env with
  | none =>
      have hclient' : clientFor t.mainServer env' = none := by simpa [hclient] using hopens.symm
      have hregistered : s.registered ∪ {.sessionReinit} = t.registered ∪ {.sessionReinit} := by
        rw [h.registered]
      rw [hclient']
      exact { h with engine := rfl, registered := hregistered }
  | some statsd =>
      rcases Option.map_eq_some_iff.1 (hopens.symm.trans (by rw [hclient]; rfl)) with
        ⟨statsd', hclient', hview⟩
      rw [hclient']
      exact h.startReporting hs ht hserver hview.symm

theorem Session.Thinner.reset (h : s.Thinner view t) : s.reset.Thinner view t.reset := by
  let s' : Session :=
    { s with
      registered := (s.registered.erase .exit).erase .sessionReinit
      engine := false
      excludeFilter := none
      sampling := 1 }
  let t' : Session :=
    { t with
      registered := (t.registered.erase .exit).erase .sessionReinit
      engine := false
      excludeFilter := none
      sampling := 1 }
  have hregistered : s'.registered = t'.registered := by simp only [s', t', h.registered]
  have hset : s'.Thinner view t' :=
    { h with
      engine := rfl
      excludeFilter := fun _ => id
      sampling := le_refl _
      registered := hregistered }
  exact hset.closeClient

/-- HOST is listened to in both sessions or in none. -/
theorem Session.Thinner.reinit (h : s.Thinner view t) {conf conf' : ServerConf} {env env' : InitEnv}
    (hserver : ThinnedServer view conf conf' env env') :
    (s.step (.reinit conf env)).Thinner view (t.step (.reinit conf' env')) := by
  by_cases hd : EventName.sessionReinit ∈ s.registered
  · have hd' : EventName.sessionReinit ∈ t.registered := h.registered ▸ hd
    have hpointer : ({ s with mainServer := conf } : Session).Thinner view
        { t with mainServer := conf' } := { h with }
    have hstep : s.step (.reinit conf env) = statsdSessReinitEv env { s with mainServer := conf } :=
      if_pos (by simpa [Event.Delivered, Event.name?] using hd)
    have hstep' : t.step (.reinit conf' env') =
        statsdSessReinitEv env' { t with mainServer := conf' } :=
      if_pos (by simpa [Event.Delivered, Event.name?] using hd')
    rw [hstep, hstep']
    exact hpointer.reset.init (cleared_reset _) (cleared_reset _) hserver
  · have hd' : EventName.sessionReinit ∉ t.registered := h.registered ▸ hd
    have hstep : s.step (.reinit conf env) = s :=
      if_neg (by simpa [Event.Delivered, Event.name?] using hd)
    have hstep' : t.step (.reinit conf' env') = t :=
      if_neg (by simpa [Event.Delivered, Event.name?] using hd')
    rw [hstep, hstep']
    exact h

/-- The step lemma. -/
theorem Session.Thinner.step (h : s.Thinner view t) {e e' : Event} (he : e.Thinned view e') :
    (s.step e).Thinner view (t.step e') := by
  cases he with
  | reinit hserver => exact h.reinit hserver
  | same e hsame =>
      by_cases hd : e.Delivered s
      · have hd' : e.Delivered t := (h.delivered e).1 hd
        rcases step_cases s e with hsteady | ⟨hnot, _⟩ | ⟨env, rfl, _, _⟩ |
          ⟨conf, env, rfl, _, _⟩ | ⟨rfl, _, _⟩
        · have hperform := h.perform e.sampled (h.reports e)
          rw [step_steady hsteady, step_steady hsteady, if_pos hd, if_pos hd']
          exact { hperform with sqlConnCount := by rw [h.sqlConnCount] }
        · exact absurd hd hnot
        · rw [Session.step, Session.step, if_pos hd, if_pos hd']
          exact h.exit env
        · exact absurd hsame (by simp [Event.isReinit])
        · rw [Session.step, Session.step, if_pos hd, if_pos hd']
          exact h.closeClient
      · have hd' : ¬ e.Delivered t := fun hbad => hd ((h.delivered e).2 hbad)
        rw [Session.step, Session.step, if_neg hd, if_neg hd']
        exact h

theorem Session.Thinner.run {es es' : List Event} (hes : List.Forall₂ (Event.Thinned view) es es') :
    ∀ {s t : Session}, s.Thinner view t → (s.run es).Thinner view (t.run es') := by
  induction hes with
  | nil =>
      intro s t h
      exact h
  | cons he _ ih =>
      intro s t h
      exact ih (h.step he)

theorem thinner_session {conf conf' : ServerConf} {env env' : InitEnv}
    (hserver : ThinnedServer view conf conf' env env') {es es' : List Event}
    (hes : List.Forall₂ (Event.Thinned view) es es') :
    ((Session.start conf env).run es).Thinner view ((Session.start conf' env').run es') := by
  have hinitial : (Session.initial conf).Thinner view (Session.initial conf') :=
    { engine := rfl
      excludeFilter := fun _ => id
      sampling := le_refl _
      sessStartMs := rfl
      client := rfl
      sqlConnCount := rfl
      registered := rfl
      opened := rfl
      reported := List.Sublist.refl _ }
  have hstart : (Session.start conf env).Thinner view (Session.start conf' env') :=
    hinitial.init (cleared_initial conf) (cleared_initial conf') hserver
  exact hstart.run hes

end Thinner

/-! ## Stricter configurations -/

/-- The same statsd server, of which no more is let through. -/
structure ServerConf.Stricter (conf conf' : ServerConf) : Prop where
  engine : conf.engine = conf'.engine
  server : conf.server = conf'.server
  filter : ∀ cmd, shouldExclude conf'.filter cmd = true → shouldExclude conf.filter cmd = true
  rate : conf.rate ≤ conf'.rate

/-- The same event, of which a HOST command may lead to a stricter configuration. -/
inductive Event.Stricter : Event → Event → Prop
  | same (e : Event) (h : e.isReinit = false) : Stricter e e
  | reinit {conf conf' : ServerConf} (env : InitEnv) (h : conf.Stricter conf') :
      Stricter (.reinit conf env) (.reinit conf' env)

theorem ServerConf.Stricter.thinned {conf conf' : ServerConf} (h : conf.Stricter conf')
    (env : InitEnv) : ThinnedServer id conf conf' env env := by
  have hclient : clientFor conf env = clientFor conf' env := by
    rw [clientFor, clientFor, h.engine, h.server]
  exact ⟨fun _ => by rw [hclient], h.filter, h.rate, rfl, ⟨rfl, rfl, rfl⟩⟩

theorem Event.Stricter.thinned {e e' : Event} (h : e.Stricter e') : e.Thinned id e' := by
  cases h with
  | same e hsame => exact .same e hsame
  | reinit env hconf => exact .reinit (hconf.thinned env)

/-- The call as the client sees it, whatever led to it. -/
def Emission.made (x : Emission) : Client × ClientOp :=
  (x.client, x.op)

/-- On stricter servers the same events lead to the same calls on the same clients in the same order,
but for those that are left out. -/
theorem stricter_reports_less {conf conf' : ServerConf} (hconf : conf.Stricter conf')
    (env : InitEnv) {es es' : List Event} (hes : List.Forall₂ Event.Stricter es es') :
    (((Session.start conf env).run es).trace.map Emission.made).Sublist
      (((Session.start conf' env).run es').trace.map Emission.made) :=
  (thinner_session (hconf.thinned env) (hes.imp fun _ _ => Event.Stricter.thinned)).reported

/-- At half the rate a login is skipped, and the shutdown is not. -/
theorem stricter_reports_less_half :
    (((Session.start (loopbackConf (some (1 / 2))) loopbackEnv).run
        [passCommand false (3 / 4), .shutdown]).trace.map Emission.made).Sublist
      (((Session.start (loopbackConf none) loopbackEnv).run
        [passCommand false (3 / 4), .shutdown]).trace.map Emission.made) := by
  have hconf : (loopbackConf (some (1 / 2))).Stricter (loopbackConf none) :=
    { engine := rfl
      server := rfl
      filter := fun _ => id
      rate := by norm_num [loopbackConf, ServerConf.rate] }
  exact stricter_reports_less hconf loopbackEnv
    (.cons (.same _ rfl) (.cons (.same _ rfl) .nil))

end ModStatsd
