import ModStatsd.Session.Reinit

/-!
# Coherence — does the module follow the server it is on?

The globals are set from the directives of the current `main_server` in `statsd_sess_init`, are used
by a dozen handlers, and outlive a HOST command unless it resets them.  Whenever the module has a
client, client and globals are those of the current server:

* `Session.Coherent` — the invariant, and `coherent_run`;
* `reports_to_main_server` — every call an event makes is on the client of the current server, under
  its rate, but for the close of the client before;
* `command_reported_iff` — which commands are reported, by the directives of that server alone.
-/

namespace ModStatsd

/-- An invariant of the steps is one of the runs. -/
theorem Session.run_induction {P : Session → Prop} (hstep : ∀ s e, P s → P (s.step e))
    (es : List Event) : ∀ s : Session, P s → P (s.run es) := by
  induction es with
  | nil =>
      intro s h
      exact h
  | cons e es ih =>
      intro s h
      exact ih (s.step e) (hstep s e h)

theorem run_concat (s : Session) (es : List Event) (e : Event) :
    s.run (es ++ [e]) = (s.run es).step e := by
  simp [Session.run]

/-! ## The invariant -/

/-- The filter that is configured, if it is not `none`. -/
def ServerConf.filter (conf : ServerConf) : Option ExcludeFilter :=
  match conf.excludeFilter with
  | some (some filter) => some filter
  | _ => none

/-- Client and globals are those of the current server, whenever there is a client. -/
structure Session.Coherent (s : Session) : Prop where
  client : ∀ c, s.statsd = some c → ∃ env, clientFor s.mainServer env = some c.statsd
  engine : s.statsd.isSome = true → s.engine = true
  excludeFilter : s.statsd.isSome = true → s.excludeFilter = s.mainServer.filter
  sampling : s.statsd.isSome = true → s.sampling = s.mainServer.rate

theorem coherent_of_none {s : Session} (hnone : s.statsd = none) : s.Coherent := by
  refine ⟨fun c hc => ?_, fun hsome => ?_, fun hsome => ?_, fun hsome => ?_⟩
  · simp [hnone] at hc
  · simp [hnone] at hsome
  · simp [hnone] at hsome
  · simp [hnone] at hsome

/-- The directives of the server replace the defaults. -/
theorem startReporting_directives (env : InitEnv) (statsd : Statsd) {s : Session}
    (hfilter : s.excludeFilter = none) (hsampling : s.sampling = 1) :
    (startReporting env statsd s).excludeFilter = s.mainServer.filter ∧
      (startReporting env statsd s).sampling = s.mainServer.rate := by
  constructor
  · rcases hdirective : s.mainServer.excludeFilter with _ | (_ | filter) <;>
      simp [startReporting, Session.register, Session.perform, ServerConf.filter, hfilter, hdirective]
  · simp only [startReporting, Session.register, Session.perform, ServerConf.rate, hsampling]

theorem coherent_init (env : InitEnv) {s : Session} (h : s.Cleared) :
    (statsdSessInit env s).Coherent := by
  rw [statsdSessInit_cleared env h]
  cases hclient : clientFor s.mainServer env with
  | none => exact coherent_of_none h.statsd
  | some statsd =>
      rcases startReporting_directives env statsd
        (s := { s.register {.sessionReinit} with engine := true }) h.excludeFilter h.sampling with
        ⟨hfilter, hrate⟩
      refine ⟨fun c hc => ?_, fun _ => rfl, fun _ => hfilter, fun _ => hrate⟩
      have hstatsd : c.statsd = statsd := by
        rw [statsd_startReporting, Option.some.injEq] at hc
        rw [← hc]
      exact ⟨env, hstatsd ▸ hclient⟩

theorem coherent_step (s : Session) (e : Event) (h : s.Coherent) : (s.step e).Coherent := by
  rcases step_cases s e with hsteady | ⟨_, hstep⟩ | ⟨env, rfl, _, hstep⟩ |
    ⟨conf, env, rfl, _, hstep⟩ | ⟨rfl, _, hstep⟩
  · rw [sameModule_step hsteady s]
    exact ⟨h.client, h.engine, h.excludeFilter, h.sampling⟩
  · rw [hstep]
    exact h
  · rw [hstep]
    exact coherent_of_none (statsd_statsdExitEv env s)
  · rw [hstep]
    exact coherent_init env (cleared_reset _)
  · rw [hstep]
    exact coherent_of_none rfl

theorem coherent_run (conf : ServerConf) (env : InitEnv) (es : List Event) :
    ((Session.start conf env).run es).Coherent :=
  Session.run_induction coherent_step es _ (coherent_init env (cleared_initial conf))

/-! ## Where the calls of an event go -/

/-- The call is made on a client of this server, under its rate. -/
structure Emission.For (conf : ServerConf) (x : Emission) : Prop where
  client : ∃ env, clientFor conf env = some x.client.statsd
  configured : x.configured = conf.rate

/-- The call closes the client of `s`. -/
def Emission.Closes (s : Session) (x : Emission) : Prop :=
  s.statsd = some x.client ∧ x.op = .close

theorem Session.Coherent.emissions_for {s : Session} (h : s.Coherent) (sampled : Bool)
    (ops : List ClientOp) : ∀ x ∈ s.emissions sampled ops, x.For s.mainServer := by
  intro x hx
  cases hc : s.statsd with
  | none => simp [Session.emissions, hc] at hx
  | some c =>
      rcases List.mem_map.1 (by simpa only [Session.emissions, hc] using hx) with ⟨op, _, rfl⟩
      exact ⟨h.client c hc, rfl⟩

theorem closes_emissions (s : Session) (sampled : Bool) :
    ∀ x ∈ s.emissions sampled [.close], x.Closes s := by
  intro x hx
  cases hc : s.statsd with
  | none => simp [Session.emissions, hc] at hx
  | some c =>
      rcases List.mem_map.1 (by simpa only [Session.emissions, hc] using hx) with ⟨op, hop, rfl⟩
      exact ⟨hc, List.mem_singleton.1 hop⟩

theorem mainServer_init (env : InitEnv) {s : Session} (h : s.Cleared) :
    (statsdSessInit env s).mainServer = s.mainServer := by
  rw [statsdSessInit_cleared env h]
  cases clientFor s.mainServer env with
  | none => rfl
  | some statsd => rfl

/-- What initialization reports goes to the client it opens. -/
theorem trace_init (env : InitEnv) {s : Session} (h : s.Cleared) :
    ∃ new, (statsdSessInit env s).trace = s.trace ++ new ∧
      ∀ x ∈ new, x.For s.mainServer := by
  rw [statsdSessInit_cleared env h]
  cases hclient : clientFor s.mainServer env with
  | none => exact ⟨[], by simp [Session.register], by simp⟩
  | some statsd =>
      refine ⟨_, rfl, ?_⟩
      intro x hx
      rcases List.mem_map.1 hx with ⟨op, _, rfl⟩
      exact ⟨⟨env, hclient⟩, rfl⟩

/-- The step lemma: an event closes the client there was, or calls that of the server there is. -/
theorem trace_step (s : Session) (e : Event) (h : s.Coherent) :
    ∃ new, (s.step e).trace = s.trace ++ new ∧
      ∀ x ∈ new, x.Closes s ∨ x.For (s.step e).mainServer := by
  rcases step_cases s e with hsteady | ⟨_, hstep⟩ | ⟨env, rfl, _, hstep⟩ |
    ⟨conf, env, rfl, _, hstep⟩ | ⟨rfl, _, hstep⟩
  · by_cases hd : e.Delivered s
    · rw [step_steady hsteady, if_pos hd]
      exact ⟨_, rfl, fun x hx => Or.inr (h.emissions_for _ _ x hx)⟩
    · rw [step_steady hsteady, if_neg hd]
      exact ⟨[], by simp, by simp⟩
  · rw [hstep]
    exact ⟨[], by simp, by simp⟩
  · rw [hstep]
    cases hc : s.statsd with
    | none => exact ⟨[], by simp [statsdExitEv, hc], by simp⟩
    | some c =>
        rw [statsdExitEv_some env hc]
        refine ⟨_, List.append_assoc _ _ _, ?_⟩
        intro x hx
        rcases List.mem_append.1 hx with hmetric | hclose
        · exact Or.inr (h.emissions_for _ _ x hmetric)
        · exact Or.inl (closes_emissions s false x hclose)
  · -- the old client is closed, then the new server takes over
    let t : Session := { s with mainServer := conf }
    have hserver : (s.step (.reinit conf env)).mainServer = conf := by
      rw [hstep]
      exact mainServer_init env (cleared_reset t)
    rcases trace_init env (cleared_reset t) with ⟨new, hnew, hfor⟩
    refine ⟨t.emissions false [.close] ++ new, ?_, ?_⟩
    · rw [hstep, ← List.append_assoc]
      exact hnew
    · intro x hx
      rcases List.mem_append.1 hx with hclose | hmetric
      · exact Or.inl (closes_emissions t false x hclose)
      · rw [hserver]
        exact Or.inr (hfor x hmetric)
  · rw [hstep]
    exact ⟨_, rfl, fun x hx => Or.inl (closes_emissions s false x hx)⟩

/-- In any session an event makes calls for the server it leaves as the current one, and beside them
at most closes the client there was before. -/
theorem reports_to_main_server (conf : ServerConf) (env : InitEnv) (es : List Event) (e : Event) :
    ∃ new, ((Session.start conf env).run (es ++ [e])).trace =
        ((Session.start conf env).run es).trace ++ new ∧
      ∀ x ∈ new, x.Closes ((Session.start conf env).run es) ∨
        x.For ((Session.start conf env).run (es ++ [e])).mainServer := by
  rw [run_concat]
  exact trace_step _ e (coherent_run conf env es)

/-! ## Every client of a session -/

/-- A client is opened at the default rate, whatever is configured. -/
theorem clientFor_opened {conf : ServerConf} {env : InitEnv} {statsd : Statsd}
    (h : clientFor conf env = some statsd) : statsd.OpenedAt 1 := by
  by_cases hengine : conf.engine.getD false = false
  · simp [clientFor, hengine] at h
  · rw [clientFor, if_neg hengine] at h
    rcases Option.bind_eq_some_iff.1 h with ⟨c, _, hresolved⟩
    rcases Option.bind_eq_some_iff.1 hresolved with ⟨ipstr, _, hopened⟩
    rcases hopen : statsdStatsdOpen env.socket (some (serverAddr ipstr c.port)) c.useTcp 1
        c.prefixLabel c.suffixLabel with _ | opened
    · simp [hopen, Except.toOption] at hopened
    · have hsame : opened = statsd := by simpa [hopen, Except.toOption] using hopened
      exact ⟨_, _, _, _, _, hsame ▸ hopen⟩

/-- Every client of a session, open or not, was opened for some server. -/
theorem known_clientFor (conf : ServerConf) (env : InitEnv) (es : List Event) :
    ∀ c, ((Session.start conf env).run es).Knows c →
      ∃ conf' env', clientFor conf' env' = some c.statsd := by
  let P : Session → Prop := fun s => s.Coherent ∧ ∀ x ∈ s.trace, ∃ conf' env',
    clientFor conf' env' = some x.client.statsd
  have hstart : P (Session.start conf env) := by
    refine ⟨coherent_init env (cleared_initial conf), ?_⟩
    rcases trace_init env (cleared_initial conf) with ⟨new, hnew, hfor⟩
    intro x hx
    have hmem : x ∈ (Session.initial conf).trace ++ new := hnew ▸ hx
    rcases (hfor x (by simpa [Session.initial] using hmem)).client with ⟨env', henv⟩
    exact ⟨_, env', henv⟩
  have hstep : ∀ s e, P s → P (s.step e) := by
    rintro s e ⟨hcoherent, htrace⟩
    refine ⟨coherent_step s e hcoherent, ?_⟩
    rcases trace_step s e hcoherent with ⟨new, hnew, hwhere⟩
    intro x hx
    rcases List.mem_append.1 (hnew ▸ hx) with hold | hadded
    · exact htrace x hold
    · rcases hwhere x hadded with hcloses | hfor
      · rcases hcoherent.client x.client hcloses.1 with ⟨env', henv⟩
        exact ⟨_, env', henv⟩
      · rcases hfor.client with ⟨env', henv⟩
        exact ⟨_, env', henv⟩
  rcases Session.run_induction hstep es _ hstart with ⟨hcoherent, htrace⟩
  rintro c (hopen | ⟨x, hx, rfl⟩)
  · rcases hcoherent.client c hopen with ⟨env', henv⟩
    exact ⟨_, env', henv⟩
  · exact htrace x hx

/-! ## Which commands are reported -/

theorem shouldSample_iff (sampling draw : ℚ) :
    shouldSample sampling draw = true ↔ (sampling < 1 → draw ≤ sampling) := by
  by_cases h : sampling ≥ 1
  · simp [shouldSample, h]
  · simp [shouldSample, h, not_le.1 h]

theorem shouldExclude_iff (filter : Option ExcludeFilter) (cmd : CmdRec) :
    shouldExclude filter cmd = false ↔ ∀ f, filter = some f → f.pre cmd.argv0 = false := by
  cases filter with
  | none => simp [shouldExclude]
  | some f => simp [shouldExclude]

/-- The directives of the server let the command through, at this draw. -/
structure ServerConf.Lets (conf : ServerConf) (cmd : CmdRec) (env : CmdEnv) : Prop where
  notExcluded : ∀ filter, conf.filter = some filter → filter.pre cmd.argv0 = false
  drawn : conf.rate < 1 → env.draw ≤ conf.rate

instance (conf : ServerConf) (cmd : CmdRec) (env : CmdEnv) : Decidable (conf.Lets cmd env) :=
  decidable_of_iff
    (shouldExclude conf.filter cmd = false ∧ shouldSample conf.rate env.draw = true) (by
      rw [shouldExclude_iff, shouldSample_iff]
      exact ⟨fun h => ⟨h.1, h.2⟩, fun h => ⟨h.notExcluded, h.drawn⟩⟩)

theorem Session.Coherent.logged_iff {s : Session} (h : s.Coherent) (hsome : s.statsd.isSome = true)
    (cmd : CmdRec) (env : CmdEnv) : Event.Logged s cmd env ↔ s.mainServer.Lets cmd env := by
  rw [Event.Logged, shouldSample_iff, shouldExclude_iff, h.excludeFilter hsome, h.sampling hsome]
  constructor
  · rintro ⟨_, hfilter, hdraw⟩
    exact ⟨hfilter, hdraw⟩
  · rintro ⟨hfilter, hdraw⟩
    exact ⟨h.engine hsome, hfilter, hdraw⟩

theorem perform_of_none {s : Session} (hnone : s.statsd = none) (sampled : Bool)
    (ops : List ClientOp) : s.perform sampled ops = s := by
  rw [Session.perform, Session.emissions_of_none hnone, List.append_nil]

theorem Session.Coherent.step_command {s : Session} (h : s.Coherent) (cmd : CmdRec)
    (hadError : Bool) (env : CmdEnv) :
    s.step (.command cmd hadError env) =
      if s.statsd.isSome = true ∧ s.mainServer.Lets cmd env then
        s.perform true (cmdMetrics cmd hadError env)
      else s := by
  have hsteady : (Event.command cmd hadError env).Steady := rfl
  have hdelivered : (Event.command cmd hadError env).Delivered s := by
    simp [Event.Delivered, Event.name?]
  have hstep : s.step (.command cmd hadError env) =
      s.perform true (if Event.Logged s cmd env then cmdMetrics cmd hadError env else []) := by
    rw [step_steady hsteady, if_pos hdelivered]
    rfl
  rw [hstep]
  by_cases hsome : s.statsd.isSome = true
  · by_cases hlets : s.mainServer.Lets cmd env
    · rw [if_pos ((h.logged_iff hsome cmd env).2 hlets), if_pos ⟨hsome, hlets⟩]
    · have hnot : ¬ Event.Logged s cmd env := fun hlogged =>
        hlets ((h.logged_iff hsome cmd env).1 hlogged)
      rw [if_neg hnot, if_neg fun hboth => hlets hboth.2, Session.perform_nil]
  · -- without a client nothing is called, whatever the other globals say
    have hnone : s.statsd = none := by simpa using hsome
    rw [perform_of_none hnone, if_neg fun hboth => hsome hboth.1]

/-- Wherever a session has been, a command is reported iff there is a client and the directives of
the current server let it through; it is then reported in full. -/
theorem command_reported_iff (conf : ServerConf) (env : InitEnv) (es : List Event) (cmd : CmdRec)
    (hadError : Bool) (cmdEnv : CmdEnv) :
    (Session.start conf env).run (es ++ [.command cmd hadError cmdEnv]) =
      if ((Session.start conf env).run es).statsd.isSome = true ∧
          ((Session.start conf env).run es).mainServer.Lets cmd cmdEnv then
        ((Session.start conf env).run es).perform true (cmdMetrics cmd hadError cmdEnv)
      else (Session.start conf env).run es := by
  rw [run_concat]
  exact (coherent_run conf env es).step_command cmd hadError cmdEnv

end ModStatsd
