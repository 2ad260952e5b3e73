import ModStatsd.Server.Reception
import ModStatsd.Session.Waiting

/-!
# Killed — what a session that is killed takes along

A session process may be killed between any two events, and its buffer is gone then.  If the kernel
refused nothing until then, all that its client was called for has arrived, in order, but for the
counters of some log messages at the end (`killed_session_loses_log_lines`).
-/

namespace ModStatsd

open Lib

section Batches

variable (statsd : Statsd)

theorem history_batch (b : Batching CString) (op : ClientOp) :
    (op.batch statsd b).history = b.history ++ (op.line? statsd).toList := by
  cases op with
  | metric m => exact Batching.history_push fits statsd.useTcp b (m.line statsd)
  | flush => exact (Batching.history_flush b).trans (List.append_nil _).symm
  | close => exact (Batching.history_flush b).trans (List.append_nil _).symm

/-- The batches of some calls are made up of their lines. -/
theorem history_batches (ops : List ClientOp) (b : Batching CString) :
    (ops.foldl (ClientOp.batch statsd) b).history =
      b.history ++ ops.filterMap (ClientOp.line? statsd) := by
  induction ops generalizing b with
  | nil => simp
  | cons op ops ih =>
      rw [List.foldl_cons, ih, history_batch, List.append_assoc]
      cases hline : op.line? statsd <;> simp [hline]

variable {statsd}

/-- The step lemma: lines that fit make good batches. -/
theorem good_batch {b : Batching CString}
    (h : Batching.Bounded (GoodBatch CString.IsLine statsd.useTcp) b)
    (hidle : statsd.useTcp = true → b.pending = []) {op : ClientOp}
    (hop : ∀ line ∈ op.line? statsd, line.IsLine ∧ line.strlen ≤ MetricCall.maxLine) :
    Batching.Bounded (GoodBatch CString.IsLine statsd.useTcp) (op.batch statsd b) ∧
      (statsd.useTcp = true → (op.batch statsd b).pending = []) := by
  cases op with
  | metric m =>
      rcases hop (m.line statsd) rfl with ⟨hline, hlen⟩
      have hshort : (m.line statsd).strlen ≤ statsdMaxMetricSize := hlen.trans (by decide)
      refine ⟨bounded_push h hidle statsd.useTcp hline hshort, ?_⟩
      intro htcp
      simp [ClientOp.batch, Batching.push, htcp]
  | flush => exact ⟨h.flush, fun _ => Batching.pending_flush b⟩
  | close => exact ⟨h.flush, fun _ => Batching.pending_flush b⟩

theorem good_batches {ops : List ClientOp} :
    ∀ {b : Batching CString}, Batching.Bounded (GoodBatch CString.IsLine statsd.useTcp) b →
      (statsd.useTcp = true → b.pending = []) →
      (∀ op ∈ ops, ∀ line ∈ op.line? statsd, line.IsLine ∧ line.strlen ≤ MetricCall.maxLine) →
      Batching.Bounded (GoodBatch CString.IsLine statsd.useTcp)
        (ops.foldl (ClientOp.batch statsd) b) := by
  induction ops with
  | nil =>
      intro b h _ _
      exact h
  | cons op ops ih =>
      intro b h hidle hops
      rcases good_batch h hidle (hops op List.mem_cons_self) with ⟨hstep, hidle'⟩
      exact ih hstep hidle' fun op' hop' => hops op' (List.mem_cons_of_mem op hop')

end Batches

theorem Attempts.ensures_sent {o : Attempts} (hquiet : o.Quiet) (hsent : o.completion = .sent) :
    o.Ensures fun s => s.Whole ∧ s.isFailed = false := by
  have hwhole : o.Whole := by simp [Attempts.Whole, hsent]
  have hfailed := Attempts.ensures_not_failed hquiet hsent
  exact ⟨hquiet, fun buf len w s hs =>
    ⟨(hwhole.ensures hquiet).2 buf len w s hs, hfailed.2 buf len w s hs⟩⟩

section Open

variable (conf : ServerConf) (env : InitEnv) (es : List Event) {c : Client}
  (hopen : ((Session.start conf env).run es).statsd = some c)
  (hlines : ∀ line ∈ ((Session.start conf env).run es).lines c,
    line.IsLine ∧ line.strlen ≤ MetricCall.maxLine)
  {made : List MadeCall}
  (hmade : made.map MadeCall.op = ((Session.start conf env).run es).calls c.id)
  (hquiet : ∀ x ∈ made, x.overflow.Quiet ∧ x.now.Quiet)
include hlines hmade hquiet

theorem smooth_open : ∀ x ∈ made, x.Smooth c.statsd := by
  intro x hx
  refine ⟨?_, (hquiet x hx).1, (hquiet x hx).2⟩
  intro line hline
  have hop : x.op ∈ ((Session.start conf env).run es).calls c.id :=
    hmade ▸ List.mem_map_of_mem hx
  exact (hlines line (List.mem_filterMap.2 ⟨x.op, hop, hline⟩)).2

include hopen

/-- What has arrived are the batches that were sent. -/
theorem arrived_open (hsent : ∀ x ∈ made, x.overflow.completion = .sent ∧ x.now.completion = .sent) :
    (runMade made (World.start c.statsd)).arrived =
      ((made.map MadeCall.op).foldl (ClientOp.batch c.statsd)
        Batching.empty).emitted.flatten.map CString.cells := by
  rcases synced_open conf env es hopen hmade (smooth_open conf env es hlines hmade hquiet) with
    ⟨hsynced, hkept⟩
  have htcp : (runMade made (World.start c.statsd)).statsd.useTcp = c.statsd.useTcp := by
    simpa [Statsd.useTcp_config] using congrArg Statsd.useTcp hkept
  have hfit : ∀ op ∈ made.map MadeCall.op, ∀ line ∈ op.line? c.statsd,
      line.IsLine ∧ line.strlen ≤ MetricCall.maxLine := by
    intro op hop line hline
    exact hlines line (List.mem_filterMap.2 ⟨op, hmade ▸ hop, hline⟩)
  have hgood := (good_batches (Batching.bounded_empty _) (fun _ => rfl) hfit).emitted
  have haddr : (World.start c.statsd).statsd.addr ≠ none := by
    rcases (orderly_run (orderly_start conf env) es).genuine c (Or.inl hopen) with
      ⟨rate, _, _, _, _, _, hstatsd⟩
    exact (synced_start hstatsd).refines.addr
  have hensures : ∀ x ∈ made, x.overflow.Ensures (fun s => s.Whole ∧ s.isFailed = false) ∧
      x.now.Ensures fun s => s.Whole ∧ s.isFailed = false := by
    intro x hx
    exact ⟨Attempts.ensures_sent (hquiet x hx).1 (hsent x hx).1,
      Attempts.ensures_sent (hquiet x hx).2 (hsent x hx).2⟩
  have hsends := forall_sends_runMade hensures haddr (by simp [World.start])
  rw [World.arrived_eq fun s hs => (hsends s hs).1,
    World.filter_carried_of_sent fun s hs => (hsends s hs).2]
  exact hsynced.refines.pieces_carried (htcp.symm ▸ hgood)

/-- While a client is open, and nothing was refused, its lines have arrived, but for the counters of
some log messages at the end; on TCP, all of them. -/
theorem killed_session_loses_log_lines
    (hsent : ∀ x ∈ made, x.overflow.completion = .sent ∧ x.now.completion = .sent) :
    ∃ levels, (levels.map Event.log).Sublist es ∧ (c.statsd.useTcp = true → levels = []) ∧
      (((Session.start conf env).run es).lines c).map CString.cells =
        (runMade made (World.start c.statsd)).arrived ++
          levels.map fun level => (logLine c.statsd level).cells := by
  rcases pending_open conf env es hopen hmade
    (smooth_open conf env es hlines hmade hquiet) with ⟨levels, hlevels, hidle, hpending⟩
  have hall := history_batches c.statsd (made.map MadeCall.op) Batching.empty
  rw [Batching.history_empty, List.nil_append, Batching.history, hpending] at hall
  have hlast : ((levels.map (logLine c.statsd)).map CString.cells) =
      levels.map fun level => (logLine c.statsd level).cells := List.map_map
  refine ⟨levels, hlevels, hidle, ?_⟩
  rw [arrived_open conf env es hopen hlines hmade hquiet hsent, Session.lines, ← hmade, ← hall,
    List.map_append, hlast]

end Open

/-- After the warning the line of the login has arrived. -/
theorem killed_session_loses_log_lines_warning :
    let s := (Session.start (loopbackConf none) loopbackEnv).run warningAfterLogin
    ∃ levels, (levels.map Event.log).Sublist warningAfterLogin ∧
      ((loopback false).useTcp = true → levels = []) ∧
        (s.lines { id := 0, statsd := loopback false }).map CString.cells =
          (runMade (madeWell (s.calls 0)) (World.start (loopback false))).arrived ++
            levels.map fun level => (logLine (loopback false) level).cells := by
  have hsane : ∀ e ∈ warningAfterLogin, e.Sane 100 := by
    intro e he
    simp only [warningAfterLogin, List.mem_cons, List.not_mem_nil, or_false] at he
    rcases he with rfl | rfl | rfl
    · exact ⟨by decide, by decide⟩
    · exact ⟨by decide, by decide⟩
    · exact ⟨by decide, by decide⟩
  have hfits := lines_fit (loopbackConf none) loopbackEnv hsane (Or.inl statsd_warningAfterLogin)
    leavesRoom_loopback
  exact killed_session_loses_log_lines (loopbackConf none) loopbackEnv warningAfterLogin
    statsd_warningAfterLogin hfits (op_madeWell _)
    (fun x hx => ⟨(mem_madeWell hx).1.overflow.1, (mem_madeWell hx).1.now.1⟩)
    fun _ hx => (mem_madeWell hx).2

end ModStatsd
