import ModStatsd.Lib.Lists
import ModStatsd.Session.Gauges

/-!
# The count of SQL connections — is it what the gauge was told?

`statsd_sql_conn_count` shadows the gauge of SQL connections.  The handler of a closed connection
asks whether the count is positive before it takes one off, but sends `-1` in any case; an `unsigned
int` wraps around where the sum of the adjustments does not.  So the two stay in step just if no
connection is closed that was not seen to be opened, and fewer than `2 ^ 32` are open:
`sql_gauge_in_step_iff`.
-/

namespace ModStatsd

open Lib

/-! ## The sum over all clients -/

/-- The sum of the adjustments of the gauge `name`, on whichever client. -/
def Session.total (s : Session) (name : CString) : Int :=
  adjusted name (s.trace.map Emission.op)

theorem total_perform {s : Session} {c : Client} (hc : s.statsd = some c) (sampled : Bool)
    (ops : List ClientOp) (name : CString) :
    (s.perform sampled ops).total name = s.total name + adjusted name ops := by
  rw [Session.total, Session.op_perform hc, adjusted_append]
  rfl

/-- Closing adjusts no gauge. -/
theorem total_closeClient (s : Session) (name : CString) :
    s.closeClient.total name = s.total name := by
  cases hc : s.statsd with
  | none => simp [Session.closeClient, Session.total, Session.perform, hc]
  | some c =>
      rw [Session.total, Session.op_closeClient hc, adjusted_append, adjusted_cons,
        adjustment_close, adjusted_nil, add_zero, add_zero]
      rfl

/-! ## What an event does to the sum and to the count -/

/-- The count and the sum agree. -/
def Session.InStep (s : Session) : Prop :=
  s.total (getConnMetric (some sql)) = s.sqlConnCount.toNat

instance (s : Session) : Decidable s.InStep :=
  inferInstanceAs (Decidable (_ = _))

/-- The events of mod_sql that are counted are delivered. -/
def Session.HearsSql (s : Session) : Prop :=
  Event.sqlOpened.Delivered s ∧ Event.sqlClosed.Delivered s

/-- By how much more connections are open after the event. -/
def Event.sqlChange : Event → Int
  | .sqlOpened => 1
  | .sqlClosed => -1
  | _ => 0

theorem total_steady {e : Event} (he : e.Steady) {s : Session} {c : Client}
    (hc : s.statsd = some c) (hears : s.HearsSql) :
    (s.step e).total (getConnMetric (some sql)) =
      s.total (getConnMetric (some sql)) + e.sqlChange := by
  by_cases hd : e.Delivered s
  · have hstep : (s.step e).total (getConnMetric (some sql)) =
        (s.perform e.sampled (e.reports s)).total (getConnMetric (some sql)) := by
      simp [step_steady he, hd, Session.total]
    have hopens := count_opens_sql hears.1 e
    have hcloses := count_closes_sql hears.2 e
    rw [Event.opens, if_pos hd] at hopens
    rw [Event.closes, if_pos hd] at hcloses
    rw [hstep, total_perform hc, adjusted_reports, hopens, hcloses]
    cases e with
    | _ => simp [Event.sqlChange, Event.isSqlOpened, Event.isSqlClosed]
  · have hzero : e.sqlChange = 0 := by
      cases e with
      | sqlOpened => exact absurd hears.1 hd
      | sqlClosed => exact absurd hears.2 hd
      | _ => rfl
    rw [step_steady he, if_neg hd, hzero, add_zero]

theorem sqlConnCount_steady {e : Event} (he : e.Steady) {s : Session} (hears : s.HearsSql) :
    (s.step e).sqlConnCount = e.sqlCount s.sqlConnCount := by
  by_cases hd : e.Delivered s
  · simp [step_steady he, hd]
  · rw [step_steady he, if_neg hd]
    cases e with
    | sqlOpened => exact absurd hears.1 hd
    | sqlClosed => exact absurd hears.2 hd
    | _ => rfl

/-- A HOST command carries both over. -/
theorem total_reinit (env : InitEnv) (s : Session) :
    (statsdSessReinitEv env s).total (getConnMetric (some sql)) =
        s.total (getConnMetric (some sql)) ∧
      (statsdSessReinitEv env s).sqlConnCount = s.sqlConnCount := by
  have hreset : s.reset.total (getConnMetric (some sql)) = s.total (getConnMetric (some sql)) :=
    total_closeClient _ _
  rcases statsdSessReinitEv_cases env s with hnone | ⟨statsd, _, hopened⟩
  · rw [hnone]
    exact ⟨hreset, rfl⟩
  · rw [hopened]
    refine ⟨?_, rfl⟩
    have hzero : adjusted (getConnMetric (some sql))
        [.gauge (getConnMetric none) 1 flGaugeAdjust, .flush] = 0 := by
      simp [(getConnMetric_some_ne_none sql).symm]
    rw [Session.total, Session.op_startReporting, adjusted_append, hzero, add_zero]
    exact hreset

/-- The callbacks for mod_sql stay registered. -/
theorem hearsSql_reinit (env : InitEnv) {s : Session} (h : s.HearsSql) :
    (statsdSessReinitEv env s).HearsSql := by
  have hkept : ∀ name ∈ s.registered, name ≠ .exit → name ≠ .sessionReinit →
      name ∈ (statsdSessReinitEv env s).registered := by
    intro name hname hexit hreinit
    have hreset : name ∈ s.reset.registered := by
      simp [Session.reset, Session.closeClient, hname, hexit, hreinit]
    rcases statsdSessReinitEv_cases env s with hnone | ⟨statsd, _, hopened⟩
    · rw [hnone]
      exact Finset.mem_union_left _ hreset
    · rw [hopened]
      exact Finset.mem_union_left _ (Finset.mem_union_left _ hreset)
  refine ⟨?_, ?_⟩
  · rintro _ ⟨⟩
    exact hkept _ (h.1 _ rfl) (by decide) (by decide)
  · rintro _ ⟨⟩
    exact hkept _ (h.2 _ rfl) (by decide) (by decide)

/-- The step lemma, for a session that keeps a client. -/
theorem sql_step {s : Session} {e : Event} (hears : s.HearsSql) (hopen : s.statsd ≠ none)
    (hopen' : (s.step e).statsd ≠ none) :
    (s.step e).HearsSql ∧
      (s.step e).total (getConnMetric (some sql)) =
        s.total (getConnMetric (some sql)) + e.sqlChange ∧
      (s.step e).sqlConnCount = e.sqlCount s.sqlConnCount := by
  rcases step_cases s e with he | ⟨hd, hstep⟩ | ⟨env, rfl, _, hstep⟩ |
    ⟨conf, env, rfl, _, hstep⟩ | ⟨rfl, _, hstep⟩
  · rcases Option.ne_none_iff_exists'.1 hopen with ⟨c, hc⟩
    have hsame := sameModule_step he s
    have hears' : (s.step e).HearsSql :=
      ⟨(reports_of_sameModule hsame _).1.2 hears.1, (reports_of_sameModule hsame _).1.2 hears.2⟩
    exact ⟨hears', total_steady he hc hears, sqlConnCount_steady he hears⟩
  · have hsame : e.sqlChange = 0 ∧ e.sqlCount s.sqlConnCount = s.sqlConnCount := by
      cases e with
      | sqlOpened => exact absurd hears.1 hd
      | sqlClosed => exact absurd hears.2 hd
      | _ => exact ⟨rfl, rfl⟩
    rw [hstep, hsame.1, hsame.2, add_zero]
    exact ⟨hears, rfl, rfl⟩
  · -- after the exit there is no client
    rw [hstep] at hopen'
    exact absurd (statsd_statsdExitEv env s) hopen'
  · have hboth := total_reinit env { s with mainServer := conf }
    have hzero : (Event.reinit conf env).sqlChange = 0 := rfl
    rw [hstep, hzero, add_zero]
    exact ⟨hearsSql_reinit env hears, hboth.1, hboth.2⟩
  · rw [hstep] at hopen'
    exact absurd (statsd_closeClient s) hopen'

/-- The count follows as long as there is neither a connection too few nor one too many. -/
theorem toNat_sqlCount_iff (n : UInt32) (e : Event) :
    ((e.sqlCount n).toNat : Int) = n.toNat + e.sqlChange ↔
      0 ≤ n.toNat + e.sqlChange ∧ n.toNat + e.sqlChange < 2 ^ 32 := by
  have hlt : n.toNat < 2 ^ 32 := n.toNat_lt
  cases e with
  | sqlOpened =>
      have hadd : (Event.sqlCount n .sqlOpened).toNat = (n.toNat + 1) % 2 ^ 32 := UInt32.toNat_add n 1
      simp only [Event.sqlChange, hadd]
      omega
  | sqlClosed =>
      simp only [Event.sqlChange, toNat_sqlCount_closed]
      omega
  | _ =>
      simp only [Event.sqlCount, Event.sqlChange]
      omega

/-! ## Whole sessions -/

theorem sum_sqlChange (es : List Event) :
    (es.map Event.sqlChange).sum = (sqlOpens es : Int) - sqlCloses es := by
  induction es with
  | nil => rfl
  | cons e es ih =>
      rw [List.map_cons, List.sum_cons, ih, sqlOpens, sqlOpens, sqlCloses, sqlCloses,
        List.countP_cons, List.countP_cons]
      cases e with
      | sqlOpened =>
          simp only [Event.sqlChange, Event.isSqlOpened, Event.isSqlClosed]
          push_cast
          ring
      | sqlClosed =>
          simp only [Event.sqlChange, Event.isSqlOpened, Event.isSqlClosed]
          push_cast
          ring
      | _ => simp [Event.sqlChange, Event.isSqlOpened, Event.isSqlClosed]

/-- The run lemma: `n` connections are open at first. -/
theorem inStep_run_iff {es : List Event} :
    ∀ {s : Session}, s.HearsSql → s.InStep → (∀ es', es' <+: es → (s.run es').statsd ≠ none) →
      ((∀ es', es' <+: es → (s.run es').InStep) ↔
        ∀ es', es' <+: es →
          0 ≤ (s.sqlConnCount.toNat : Int) + (es'.map Event.sqlChange).sum ∧
            (s.sqlConnCount.toNat : Int) + (es'.map Event.sqlChange).sum < 2 ^ 32) := by
  induction es with
  | nil =>
      intro s _ hstep _
      have hlt : s.sqlConnCount.toNat < 2 ^ 32 := s.sqlConnCount.toNat_lt
      rw [Lists.forall_prefix_nil, Lists.forall_prefix_nil, List.map_nil, List.sum_nil]
      exact iff_of_true hstep (by omega)
  | cons e es ih =>
      intro s hears hstep hopen
      have hlt : s.sqlConnCount.toNat < 2 ^ 32 := s.sqlConnCount.toNat_lt
      rcases Lists.forall_prefix_cons.1 hopen with ⟨hnow, hopen'⟩
      rcases sql_step hears hnow (hopen' [] List.nil_prefix) with ⟨hears', htotal, hcount⟩
      -- the first event alone
      have hfirst : (s.step e).InStep ↔ 0 ≤ (s.sqlConnCount.toNat : Int) + e.sqlChange ∧
          (s.sqlConnCount.toNat : Int) + e.sqlChange < 2 ^ 32 := by
        rw [← toNat_sqlCount_iff, Session.InStep, htotal, hcount, hstep]
        exact eq_comm
      rw [Lists.forall_prefix_cons, Lists.forall_prefix_cons, List.map_nil, List.sum_nil]
      refine and_congr (iff_of_true hstep (by omega)) ?_
      by_cases hnext : (s.step e).InStep
      · have hcount' : ((s.step e).sqlConnCount.toNat : Int) =
            s.sqlConnCount.toNat + e.sqlChange := by
          rw [hcount]
          exact (toNat_sqlCount_iff _ _).2 (hfirst.1 hnext)
        have hrest := ih hears' hnext hopen'
        rw [hcount'] at hrest
        refine hrest.trans (forall₂_congr fun ds _ => ?_)
        rw [List.map_cons, List.sum_cons, add_assoc]
      · -- neither side holds after the first event
        refine iff_of_false (fun hall => hnext (hall [] List.nil_prefix)) (fun hall => ?_)
        exact hnext (hfirst.2 (by simpa using hall [] List.nil_prefix))

/-- No more connections are closed than were seen to be opened, and fewer than `2 ^ 32` are open. -/
def SqlCounted (es : List Event) : Prop :=
  ∀ es', es' <+: es → sqlCloses es' ≤ sqlOpens es' ∧ sqlOpens es' < sqlCloses es' + 2 ^ 32

instance (es : List Event) : Decidable (SqlCounted es) :=
  decidable_of_iff (∀ es' ∈ es.inits,
    sqlCloses es' ≤ sqlOpens es' ∧ sqlOpens es' < sqlCloses es' + 2 ^ 32)
    (by simp [SqlCounted, List.mem_inits])

/-- In a session that keeps a client, whatever servers it visits, the count is what the gauge was
told just if no connection is closed that was not counted, and the count does not wrap around. -/
theorem sql_gauge_in_step_iff {conf : ServerConf} {env : InitEnv} (hsql : env.modSql = true)
    {es : List Event}
    (hopen : ∀ es', es' <+: es → ((Session.start conf env).run es').statsd ≠ none) :
    (∀ es', es' <+: es → ((Session.start conf env).run es').InStep) ↔ SqlCounted es := by
  have hfirst : (Session.start conf env).statsd ≠ none := hopen [] List.nil_prefix
  rcases Option.ne_none_iff_exists'.1 hfirst with ⟨c, hc⟩
  rcases start_open hc with ⟨statsd, _, hstart⟩
  have hcount : (Session.start conf env).sqlConnCount = 0 := by
    rw [hstart]
    rfl
  have hstep : (Session.start conf env).InStep := by
    have hzero : adjusted (getConnMetric (some sql))
        [.gauge (getConnMetric none) 1 flGaugeAdjust, .flush] = 0 := by
      simp [(getConnMetric_some_ne_none sql).symm]
    rw [Session.InStep, hcount, hstart]
    exact hzero
  rw [inStep_run_iff (sql_delivered hc hsql) hstep hopen, hcount]
  refine forall₂_congr fun es' _ => ?_
  have hzero : ((0 : UInt32).toNat : Int) = 0 := rfl
  rw [sum_sqlChange, hzero]
  omega

/-- A HOST command between the opening of a connection and its closing. -/
theorem sql_gauge_in_step_host :
    ((Session.start (loopbackConf none) loopbackEnv).run
      [.sqlOpened, .reinit (loopbackConf none) loopbackEnv, .sqlError, .sqlClosed]).InStep := by
  have hopen : ∀ es' ∈ List.inits
      [.sqlOpened, .reinit (loopbackConf none) loopbackEnv, .sqlError, .sqlClosed],
      ((Session.start (loopbackConf none) loopbackEnv).run es').statsd.isSome = true := by
    decide +kernel
  refine (sql_gauge_in_step_iff rfl ?_).2 (by decide) _ List.prefix_rfl
  intro es' hes'
  exact Option.isSome_iff_ne_none.1 (hopen es' ((List.mem_inits _ _).2 hes'))

/-- A connection that was opened before the module listened takes the gauge below zero. -/
theorem uncounted_close_is_reported :
    ((Session.start (loopbackConf none) loopbackEnv).run [.sqlClosed]).total
        (getConnMetric (some sql)) = -1 ∧
      ((Session.start (loopbackConf none) loopbackEnv).run [.sqlClosed]).sqlConnCount = 0 := by
  decide +kernel

end ModStatsd
