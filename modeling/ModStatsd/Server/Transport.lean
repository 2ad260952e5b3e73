import ModStatsd.Server.Reception
import ModStatsd.Session.Configured
import ModStatsd.Session.Thinning

/-!
# Transport — a server cannot tell TCP from UDP

Over TCP each line is sent as it is written; over UDP lines wait and are sent in packets.  Where and how
a client sends is decided by `StatsdServer`, whose other parts are the labels.  As long as packets are
not refused, the labels are all that shows: sessions that differ in the rest have the same lines arrive,
in the same order (`transport_does_not_matter`).
-/

namespace ModStatsd

open Lib

/-! ## What shows of a client -/

/-- The number of a client, and what its lines depend on. -/
def Client.shown (c : Client) : Nat × Option CString × Option CString × ℚ :=
  (c.id, c.statsd.prefixLabel, c.statsd.suffixLabel, c.statsd.sampling)

theorem line_eq_of_shown {c d : Client} (h : c.shown = d.shown) (m : MetricCall) :
    m.line c.statsd = m.line d.statsd := by
  rcases Prod.mk.inj h with ⟨_, hlabels⟩
  rcases Prod.mk.inj hlabels with ⟨hbefore, hrest⟩
  rcases Prod.mk.inj hrest with ⟨hbehind, hrate⟩
  have hsampling : m.sampling c.statsd = m.sampling d.statsd := by
    cases m with
    | counter name incr flags => simp [MetricCall.sampling, metricSampling, hrate]
    | timer name ms flags => simp [MetricCall.sampling, metricSampling, hrate]
    | gauge name val flags => rfl
  simp only [MetricCall.line, formatMetric, hbefore, hbehind, hsampling]

/-! ## Servers that have moved -/

def ServerRec.labels (c : ServerRec) : Option CString × Option CString :=
  (c.prefixLabel, c.suffixLabel)

/-- The statsd server may be elsewhere, and be sent to in another way. -/
structure ServerConf.Moved (conf conf' : ServerConf) : Prop where
  engine : conf.engine = conf'.engine
  server : conf.server.map ServerRec.labels = conf'.server.map ServerRec.labels
  filter : conf.filter = conf'.filter
  rate : conf.rate = conf'.rate

/-- The network is up on both, which names and descriptors they have apart. -/
structure InitEnv.Moved (env env' : InitEnv) : Prop where
  up : ∃ resolve, env.Up resolve
  up' : ∃ resolve, env'.Up resolve
  nowMs : env.nowMs = env'.nowMs
  modules : env.SameModules env'

/-- The same event, of which a HOST command may lead to a server that has moved. -/
inductive Event.Moved : Event → Event → Prop
  | same (e : Event) (h : e.isReinit = false) : Moved e e
  | reinit {conf conf' : ServerConf} {env env' : InitEnv} (hconf : conf.Moved conf')
      (henv : env.Moved env') : Moved (.reinit conf env) (.reinit conf' env')

theorem ServerConf.Moved.symm {conf conf' : ServerConf} (h : conf.Moved conf') :
    conf'.Moved conf :=
  ⟨h.engine.symm, h.server.symm, h.filter.symm, h.rate.symm⟩

theorem InitEnv.Moved.symm {env env' : InitEnv} (h : env.Moved env') : env'.Moved env :=
  ⟨h.up', h.up, h.nowMs.symm, h.modules.1.symm, h.modules.2.1.symm, h.modules.2.2.symm⟩

theorem Event.Moved.symm {e e' : Event} (h : e.Moved e') : e'.Moved e := by
  cases h with
  | same e hsame => exact .same e hsame
  | reinit hconf henv => exact .reinit hconf.symm henv.symm

/-- The clients that are opened look the same. -/
theorem ServerConf.Moved.thinned {conf conf' : ServerConf} {env env' : InitEnv}
    (hconf : conf.Moved conf') (henv : env.Moved env') :
    ThinnedServer Client.shown conf conf' env env' := by
  refine ⟨?_, ?_, hconf.rate.le, henv.nowMs, henv.modules⟩
  · intro id
    rcases henv.up with ⟨resolve, hup⟩
    rcases henv.up' with ⟨resolve', hup'⟩
    rcases clientFor_up hup conf with ⟨fd, hclient⟩
    rcases clientFor_up hup' conf' with ⟨fd', hclient'⟩
    have hshown := congrArg
      (Option.map fun labels : Option CString × Option CString => (id, labels.1, labels.2, (1 : ℚ)))
      hconf.server
    rw [Option.map_map, Option.map_map] at hshown
    rw [hclient, hclient', hconf.engine]
    by_cases hengine : conf'.engine.getD false = false
    · rw [if_pos hengine, if_pos hengine]
    · rw [if_neg hengine, if_neg hengine, Option.map_map, Option.map_map]
      exact hshown
  · intro cmd hexcluded
    rw [hconf.filter]
    exact hexcluded

theorem Event.Moved.thinned {e e' : Event} (h : e.Moved e') : e.Thinned Client.shown e' := by
  cases h with
  | same e hsame => exact .same e hsame
  | reinit hconf henv => exact .reinit (hconf.thinned henv)

/-! ## Reporters that have moved -/

/-- The same client of the same session, but for where and how it sends. -/
structure Reporter.Moved (r r' : Reporter) : Prop where
  conf : r.conf.Moved r'.conf
  env : r.env.Moved r'.env
  events : List.Forall₂ Event.Moved r.events r'.events
  id : r.client.id = r'.client.id

namespace Reporter.Moved

variable {r r' : Reporter} (h : r.Moved r')
include h

/-- The sessions have made the same calls on clients that look the same. -/
theorem viewed : r.session.trace.map (Emission.viewed Client.shown) =
    r'.session.trace.map (Emission.viewed Client.shown) := by
  have hevents : List.Forall₂ Event.Moved r'.events r.events :=
    (h.events.imp fun _ _ he => Event.Moved.symm he).flip
  have hthinner := thinner_session (h.conf.thinned h.env)
    (h.events.imp fun _ _ => Event.Moved.thinned)
  have hthinner' := thinner_session (h.conf.symm.thinned h.env.symm)
    (hevents.imp fun _ _ => Event.Moved.thinned)
  exact hthinner.reported.antisymm hthinner'.reported

theorem calls : r.session.calls r.client.id = r'.session.calls r'.client.id := by
  have hfiltered : ∀ (s : Session) (k : Nat), s.calls k =
      ((s.trace.map (Emission.viewed Client.shown)).filter fun x => x.1.1 = k).map Prod.snd := by
    intro s k
    rw [List.filter_map, List.map_map]
    rfl
  rw [hfiltered, hfiltered, h.viewed, h.id]

theorem shown : r.client.shown = r'.client.shown := by
  have hused : ∀ q : Reporter, ∃ x ∈ q.session.trace, x.client = q.client :=
    fun q => q.known.resolve_left q.closed
  rcases hused r with ⟨x, hx, hclient⟩
  have hviewed : Emission.viewed Client.shown x ∈
      r'.session.trace.map (Emission.viewed Client.shown) := by
    rw [← h.viewed]
    exact List.mem_map_of_mem hx
  rcases List.mem_map.1 hviewed with ⟨y, hy, heq⟩
  have hshown : y.client.shown = r.client.shown := by
    rw [← hclient]
    exact congrArg Prod.fst heq
  -- clients of one session have different numbers
  have hid : y.client.id = r'.client.id := (congrArg Prod.fst hshown).trans h.id
  have hsame := (orderly_run (orderly_start r'.conf r'.env) r'.events).unique _ _
    (Or.inr ⟨y, hy, rfl⟩) r'.known hid
  rw [← hshown, hsame]

end Reporter.Moved

/-- If no packet is refused, the same lines arrive in the same order, whether they were sent in packets
or one by one, and wherever to. -/
theorem transport_does_not_matter {r r' : Reporter} (h : r.Moved r') (hsent : r.AllSent)
    (hsent' : r'.AllSent) : r.world.arrived = r'.world.arrived := by
  have hmetrics : r.metrics = r'.metrics := by
    rw [Reporter.metrics, Reporter.metrics, h.calls]
  rw [r.arrived_of_allSent hsent, r'.arrived_of_allSent hsent', hmetrics]
  exact List.map_congr_left fun m _ => congrArg CString.cells (line_eq_of_shown h.shown m)

/-! ## A server on another port -/

/-- As `loopbackConf`, but over TCP and on another port. -/
def tcpConf : ServerConf :=
  { loopbackConf none with
    server := some
      { host := CString.lit "127.0.0.1"
        port := 8126
        useTcp := true
        prefixLabel := none
        suffixLabel := none } }

def tcpStatsd : Statsd :=
  Statsd.fresh { ipstr := CString.lit "127.0.0.1", port := 8126 } 3 true 1 none none

/-- The session of `loopbackReporter`. -/
def tcpReporter : Reporter :=
  have hknown : ((Session.start tcpConf loopbackEnv).run loginAndExit).Knows
      { id := 0, statsd := tcpStatsd } := by
    have hused : ∃ x ∈ ((Session.start tcpConf loopbackEnv).run loginAndExit).trace,
        x.client.id = 0 ∧ x.client.statsd = tcpStatsd := by decide +kernel
    rcases hused with ⟨x, hx, hid, hstatsd⟩
    exact Or.inr ⟨x, hx, by rw [← hid, ← hstatsd]⟩
  { conf := tcpConf
    env := loopbackEnv
    events := loginAndExit
    client := { id := 0, statsd := tcpStatsd }
    made := madeWell (((Session.start tcpConf loopbackEnv).run loginAndExit).calls 0)
    known := hknown
    closed := by
      have hnone : ((Session.start tcpConf loopbackEnv).run loginAndExit).statsd.isNone = true := by
        decide +kernel
      rw [Option.isNone_iff_eq_none.1 hnone]
      exact (Option.some_ne_none _).symm
    called := op_madeWell _
    undisturbed := fun x hx => (mem_madeWell hx).1
    lines := lines_fit tcpConf loopbackEnv sane_loginAndExit hknown
      ⟨by decide, by decide, by decide⟩
    labels := by decide }

/-- A login and an exit, over UDP and over TCP. -/
theorem transport_does_not_matter_loopback :
    loopbackReporter.world.arrived = tcpReporter.world.arrived := by
  have hup : ∃ resolve, loopbackEnv.Up resolve := ⟨id, up_loopbackEnv⟩
  have hmoved : loopbackReporter.Moved tcpReporter :=
    { conf := ⟨rfl, rfl, rfl, rfl⟩
      env := ⟨hup, hup, rfl, rfl, rfl, rfl⟩
      events := .cons (.same _ rfl) (.cons (.same _ rfl) .nil)
      id := rfl }
  exact transport_does_not_matter hmoved (fun _ hx => (mem_madeWell hx).2)
    fun _ hx => (mem_madeWell hx).2

end ModStatsd
