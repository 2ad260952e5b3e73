import ModStatsd.Session.Reports

/-!
# Sampling — does a line say the rate it was sampled at?

The client is opened before StatsdSampling is read, so it formats every line at a rate of one, while
the handlers ask `should_sample` for the rate that is configured.  A line agrees with the sampling
iff none was asked for: `lines_agree_iff`.
-/

namespace ModStatsd

/-! ## The rate on a line -/

namespace MetricCall

/-- The line the call is formatted as without a rate. -/
def bareLine (statsd : Statsd) (m : MetricCall) : CString :=
  m.line { statsd with sampling := 1 }

/-- A counter or a timer, which one sample stands for several of. -/
def IsCount : MetricCall → Prop
  | .counter _ _ _ => True
  | .timer _ _ _ => True
  | .gauge _ _ _ => False

end MetricCall

/-- The suffix that says that a metric was sampled at `rate`. -/
def rateSuffix (rate : ℚ) : CString :=
  CString.format [CString.lit "|@", CString.twoDecimals rate]

namespace Emission

/-- A counter or timer that was made because `should_sample` returned `TRUE` at a rate below one. -/
def Sampled (x : Emission) (m : MetricCall) : Prop :=
  x.sampled = true ∧ x.configured < 1 ∧ m.IsCount

/-- A line that was sampled carries the rate, and any other line carries none. -/
def Agrees (x : Emission) : Prop :=
  ∀ m : MetricCall, x.op = .metric m →
    (x.Sampled m → m.line x.client.statsd =
      (m.bareLine x.client.statsd).pstrcat (rateSuffix x.configured)) ∧
    (¬ x.Sampled m → m.line x.client.statsd = m.bareLine x.client.statsd)

theorem rateSuffix_ne (line : CString) (rate : ℚ) : line ≠ line.pstrcat (rateSuffix rate) := by
  intro h
  have hlen : line.chars.length = (line.pstrcat (rateSuffix rate)).chars.length :=
    congrArg (fun s => s.chars.length) h
  simp [rateSuffix, CString.lit] at hlen

/-- A client that was opened at a rate of one never writes a rate. -/
theorem agrees_iff {x : Emission} (hone : x.client.statsd.sampling = 1) :
    x.Agrees ↔ ∀ m : MetricCall, x.op = .metric m → ¬ x.Sampled m := by
  -- whatever is asked for, what is written is the bare line
  have hbare : ∀ m : MetricCall, m.line x.client.statsd = m.bareLine x.client.statsd := by
    intro m
    rw [MetricCall.bareLine, ← hone]
  constructor
  · intro hagrees m hop hsampled
    have hline := (hagrees m hop).1 hsampled
    rw [hbare m] at hline
    exact rateSuffix_ne _ _ hline
  · intro hnone m hop
    exact ⟨fun hsampled => absurd hsampled (hnone m hop), fun _ => hbare m⟩

end Emission

/-- Every line of the session so far agrees with the sampling. -/
def Session.LinesAgree (s : Session) : Prop :=
  ∀ x ∈ s.trace, x.Agrees

theorem linesAgree_append {s t : Session} {new : List Emission} (h : t.trace = s.trace ++ new) :
    t.LinesAgree ↔ s.LinesAgree ∧ ∀ x ∈ new, x.Agrees := by
  unfold Session.LinesAgree
  rw [h, List.forall_mem_append]

/-! ## What the handlers emit -/

def ClientOp.IsCount : ClientOp → Prop
  | .metric m => m.IsCount
  | .flush => False
  | .close => False

/-- The client was opened at a rate of one, and the handlers sample at the rate of the server. -/
structure Session.SamplesLate (s : Session) : Prop where
  client : ∀ c, s.statsd = some c → c.statsd.sampling = 1
  rate : ∀ c, s.statsd = some c → s.sampling = s.mainServer.rate

theorem samplesLate_of_none {s : Session} (hnone : s.statsd = none) : s.SamplesLate := by
  refine ⟨fun c hc => ?_, fun c hc => ?_⟩
  · simp [hnone] at hc
  · simp [hnone] at hc

theorem agrees_emissions_iff {s : Session} (h : s.SamplesLate) (sampled : Bool)
    (ops : List ClientOp) :
    (∀ x ∈ s.emissions sampled ops, x.Agrees) ↔
      ¬ (s.statsd.isSome = true ∧ s.sampling < 1 ∧ sampled = true ∧ ∃ op ∈ ops, op.IsCount) := by
  cases hc : s.statsd with
  | none => simp [Session.emissions, hc]
  | some c =>
      have hrate := h.rate c hc
      have hagrees : ∀ op : ClientOp, Emission.Agrees
          { client := c, sampled := sampled, configured := s.mainServer.rate, op := op } ↔
            ¬ (s.sampling < 1 ∧ sampled = true ∧ op.IsCount) := by
        intro op
        rw [Emission.agrees_iff (h.client c hc)]
        cases op with
        | metric m =>
            simp only [Emission.Sampled, ClientOp.IsCount, ClientOp.metric.injEq, forall_eq', hrate]
            tauto
        | flush => simp [ClientOp.IsCount]
        | close => simp [ClientOp.IsCount]
      simp only [Session.emissions, hc, List.mem_map, forall_exists_index, and_imp,
        forall_apply_eq_imp_iff₂, hagrees, Option.isSome_some, true_and]
      constructor
      · rintro hall ⟨hlt, hsampled, op, hop, hcount⟩
        exact hall op hop ⟨hlt, hsampled, hcount⟩
      · rintro hnone op hop ⟨hlt, hsampled, hcount⟩
        exact hnone ⟨hlt, hsampled, op, hop, hcount⟩

/-- Calls that are made in any case are free of rates, as they should be. -/
theorem agrees_emissions_of_unsampled {s : Session} (h : s.SamplesLate) (ops : List ClientOp) :
    ∀ x ∈ s.emissions false ops, x.Agrees := by
  rw [agrees_emissions_iff h]
  simp

namespace Event

/-- Does the gate of a sampled event let it through? -/
def gate (s : Session) : Event → Bool
  | .command cmd _ env => decide (Logged s cmd env)
  | .sftpOpened draw => shouldSample s.sampling draw
  | .scpOpened draw => shouldSample s.sampling draw
  -- nothing else is sampled
  | _ => false

/-- The event is one of those that are sampled, and its handler lets it through. -/
def PassesGate (s : Session) (e : Event) : Prop :=
  e.gate s = true

instance (s : Session) (e : Event) : Decidable (e.PassesGate s) :=
  inferInstanceAs (Decidable (e.gate s = true))

/-- Every event that is sampled is counted. -/
theorem passesGate_iff (s : Session) (e : Event) :
    e.PassesGate s ↔ e.sampled = true ∧ ∃ op ∈ e.reports s, op.IsCount := by
  have hcounter : ∀ name incr flags, (ClientOp.counter name incr flags).IsCount :=
    fun _ _ _ => trivial
  cases e with
  | command cmd hadError env =>
      by_cases h : Logged s cmd env
      · -- every command that is logged is counted first
        have hmem : ClientOp.counter (getCmdMetric cmd.argv0 env.response) 1 0 ∈
            cmdMetrics cmd hadError env := by
          simp [cmdMetrics]
        simpa [PassesGate, gate, sampled, reports, h] using ⟨_, hmem, hcounter _ _ _⟩
      · simp [PassesGate, gate, reports, h]
  | sftpOpened draw =>
      cases h : shouldSample s.sampling draw <;>
        simp [PassesGate, gate, sampled, reports, h, hcounter, openedMetrics]
  | scpOpened draw =>
      cases h : shouldSample s.sampling draw <;>
        simp [PassesGate, gate, sampled, reports, h, hcounter, openedMetrics]
  | _ => simp [PassesGate, gate, sampled]

/-- The module has a client and thins out what it reports, and this event is reported. -/
def ReportsThinned (s : Session) (e : Event) : Prop :=
  e.Delivered s ∧ s.statsd.isSome = true ∧ s.sampling < 1 ∧ e.PassesGate s

instance (s : Session) (e : Event) : Decidable (e.ReportsThinned s) :=
  inferInstanceAs (Decidable
    (e.Delivered s ∧ s.statsd.isSome = true ∧ s.sampling < 1 ∧ e.PassesGate s))

theorem not_reportsThinned_of_not_sampled (s : Session) (e : Event) (h : e.sampled = false) :
    ¬ e.ReportsThinned s := by
  rintro ⟨_, _, _, hpasses⟩
  have hsampled := ((passesGate_iff s e).1 hpasses).1
  exact Bool.false_ne_true (h.symm.trans hsampled)

end Event

/-! ## One event -/

theorem samplesLate_sameModule {s t : Session} (h : s.SameModule t) (hs : s.SamplesLate) :
    t.SamplesLate := by
  rw [h]
  exact ⟨hs.client, hs.rate⟩

theorem agrees_step_steady {s : Session} (h : s.SamplesLate) {e : Event} (he : e.Steady) :
    (s.step e).LinesAgree ↔ s.LinesAgree ∧ ¬ e.ReportsThinned s := by
  by_cases hd : e.Delivered s
  · have htrace : (s.step e).trace = s.trace ++ s.emissions e.sampled (e.reports s) := by
      rw [step_steady he, if_pos hd]
      rfl
    simp only [linesAgree_append htrace, agrees_emissions_iff h, Event.ReportsThinned,
      Event.passesGate_iff, hd, true_and]
  · simp [step_steady he, hd, Event.ReportsThinned]

/-- Closing a client formats no line. -/
theorem agrees_closeClient (s : Session) :
    s.closeClient.LinesAgree ↔ s.LinesAgree := by
  have hclose : ∀ x ∈ s.emissions false [.close], x.Agrees := by
    intro x hx m hop
    cases hc : s.statsd with
    | none => simp [Session.emissions, hc] at hx
    | some c =>
        have hclosed : x.op = .close := by
          simp only [Session.emissions, hc, List.map_cons, List.map_nil, List.mem_singleton] at hx
          rw [hx]
        simp [hclosed] at hop
  have htrace : s.closeClient.trace = s.trace ++ s.emissions false [.close] := rfl
  rw [linesAgree_append htrace, and_iff_left hclose]

theorem agrees_statsdExitEv {s : Session} (h : s.SamplesLate) (env : ExitEnv) :
    (statsdExitEv env s).LinesAgree ↔ s.LinesAgree := by
  cases hc : s.statsd with
  | none => simp [statsdExitEv, hc]
  | some c =>
      have hexit : (statsdExitEv env s).LinesAgree ↔
          (s.perform false (exitMetrics env s)).closeClient.LinesAgree := by
        simp [statsdExitEv_some env hc, Session.LinesAgree]
      rw [hexit, agrees_closeClient, linesAgree_append (Session.trace_perform _ _ _),
        and_iff_left (agrees_emissions_of_unsampled h _)]

/-- The client is opened at the rate the module has been reset to. -/
theorem statsdSessInit_samplesLate (env : InitEnv) {s : Session} (hnone : s.statsd = none)
    (hone : s.sampling = 1) :
    (statsdSessInit env s).SamplesLate ∧
      ((statsdSessInit env s).LinesAgree ↔ s.LinesAgree) := by
  rcases statsdSessInit_cases env hnone with hclosed | ⟨statsd, hrate, hopened⟩
  · rw [hclosed]
    exact ⟨samplesLate_of_none hnone, Iff.rfl⟩
  · have hlate : (statsdSessInit env s).SamplesLate := by
      -- the client has the rate from before, the module that of the server
      refine ⟨fun c hc => ?_, fun c _ => ?_⟩
      · have heq : { id := s.opened, statsd := statsd } = c := by
          simpa [hopened, Session.register] using hc
        rw [← heq, hrate.sampling_eq, hone]
      · rw [hopened]
        exact congrArg s.mainServer.sampling.getD hone
    have htrace : (statsdSessInit env s).trace = s.trace ++
        (statsdSessInit env s).emissions false
          [.gauge (getConnMetric none) 1 flGaugeAdjust, .flush] := by
      rw [hopened]
      rfl
    refine ⟨hlate, ?_⟩
    rw [linesAgree_append htrace, and_iff_left (agrees_emissions_of_unsampled hlate _)]

theorem statsdSessReinitEv_samplesLate (env : InitEnv) (s : Session) :
    (statsdSessReinitEv env s).SamplesLate ∧
      ((statsdSessReinitEv env s).LinesAgree ↔ s.LinesAgree) := by
  -- StatsdSampling is forgotten before the next client is opened
  rcases statsdSessInit_samplesLate env (s := s.reset) rfl rfl with ⟨hlate, hagrees⟩
  exact ⟨hlate, hagrees.trans (agrees_closeClient _)⟩

/-- The step lemma: lines stop agreeing with a report that was thinned out. -/
theorem agrees_step {s : Session} (h : s.SamplesLate) (e : Event) :
    (s.step e).SamplesLate ∧
      ((s.step e).LinesAgree ↔ s.LinesAgree ∧ ¬ e.ReportsThinned s) := by
  rcases step_cases s e with he | ⟨hd, hstep⟩ | ⟨env, rfl, _, hstep⟩ |
    ⟨conf, env, rfl, _, hstep⟩ | ⟨rfl, _, hstep⟩
  · exact ⟨samplesLate_sameModule (sameModule_step he s) h, agrees_step_steady h he⟩
  · simpa [hstep, Event.ReportsThinned, hd] using h
  · have hplain := Event.not_reportsThinned_of_not_sampled s (.exit env) rfl
    rw [hstep, and_iff_left hplain]
    exact ⟨samplesLate_of_none (statsd_statsdExitEv env s), agrees_statsdExitEv h env⟩
  · have hplain := Event.not_reportsThinned_of_not_sampled s (.reinit conf env) rfl
    rw [hstep, and_iff_left hplain]
    exact statsdSessReinitEv_samplesLate env { s with mainServer := conf }
  · have hplain := Event.not_reportsThinned_of_not_sampled s .shutdown rfl
    rw [hstep, and_iff_left hplain]
    exact ⟨samplesLate_of_none rfl, agrees_closeClient s⟩

/-! ## A whole session -/

theorem agrees_run {s : Session} (h : s.SamplesLate) (es : List Event) :
    (s.run es).LinesAgree ↔ s.LinesAgree ∧ s.Never Event.ReportsThinned es := by
  have hstep : ∀ (t : Session) (e : Event), t.SamplesLate → (t.step e).SamplesLate ∧
      ((t.step e).LinesAgree ↔ t.LinesAgree ∧ ¬ e.ReportsThinned t) :=
    fun _ e ht => agrees_step ht e
  exact run_iff_never hstep es s h

theorem start_samplesLate (conf : ServerConf) (env : InitEnv) :
    (Session.start conf env).SamplesLate ∧ (Session.start conf env).LinesAgree := by
  rcases statsdSessInit_samplesLate env (s := Session.initial conf) rfl rfl with ⟨hlate, hagrees⟩
  exact ⟨hlate, hagrees.2 fun x hx => nomatch hx⟩

/-- Lines agree with the sampling just if nothing is reported that was thinned out. -/
theorem lines_agree_iff (conf : ServerConf) (env : InitEnv) (es : List Event) :
    ((Session.start conf env).run es).LinesAgree ↔
      (Session.start conf env).Never Event.ReportsThinned es := by
  rcases start_samplesLate conf env with ⟨hlate, hstart⟩
  rw [agrees_run hlate, and_iff_right hstart]

/-- With StatsdSampling 50, the line of a login that is sampled is `command.PASS.230:1|c`. -/
theorem sampled_login_unmarked :
    ¬ ((Session.start (loopbackConf (some (1 / 2))) loopbackEnv).run
      [passCommand false 0]).LinesAgree := by
  have hthinned : (passCommand false 0).ReportsThinned
      (Session.start (loopbackConf (some (1 / 2))) loopbackEnv) := by
    decide +kernel
  intro hagrees
  rcases start_samplesLate (loopbackConf (some (1 / 2))) loopbackEnv with ⟨hlate, _⟩
  exact ((agrees_run hlate _).1 hagrees).2.1 hthinned

end ModStatsd
