import ModStatsd.Server.Tally
import ModStatsd.Session.Fitting

/-!
# Reception — a server follows the calls of a session

Between a call of the metric API and the server there is a buffer that is flushed when it is full, a
choice of transport, and a kernel that may refuse a packet.  None of it shows on the server, but for
the packets that are refused: its tally goes the way of the calls, one by one and in order, as if each
had been told to it (`server_follows_calls`).

* `Reporter` — a client that a session has opened, used and closed;
* `Reporter.heard` — what its calls say.
-/

namespace ModStatsd

open Lib

/-! ## Sends that succeed -/

theorem Attempts.result_of_mem_calls {buf : Option Buf} {len : Nat} {w : World} {s : Sendto} :
    ∀ {o : Attempts}, s ∈ o.calls buf len w →
      s.result = .eintr ∨ s.result = .completed o.completion
  | .done c, h => by
      have heq : s = w.call buf len (.completed c) := by simpa [Attempts.calls] using h
      exact Or.inr (by rw [heq]; rfl)
  | .eintr _ retry, h => by
      rw [Attempts.calls] at h
      rcases List.mem_cons.1 h with heq | hrest
      · exact Or.inl (by rw [heq]; rfl)
      · exact Attempts.result_of_mem_calls (o := retry) hrest

theorem Attempts.ensures_not_failed {o : Attempts} (hquiet : o.Quiet) (hsent : o.completion = .sent) :
    o.Ensures fun s => s.isFailed = false := by
  refine ⟨hquiet, ?_⟩
  intro buf len w s hs
  rcases Attempts.result_of_mem_calls hs with heintr | hcompleted
  · simp [Sendto.isFailed, heintr]
  · simp [Sendto.isFailed, hcompleted, hsent]

theorem MadeCall.addr_run (x : MadeCall) (w : World) :
    (x.run w).statsd.addr = w.statsd.addr := by
  cases hapi : x.api? with
  | some c =>
      have hrun : x.run w = (c.call w.statsd).run w := by simp [run, hapi, c.run_eq]
      rw [hrun, ModStatsd.addr_run]
  | none =>
      have hrun : x.run w = statsdStatsdClose x.now.send w := by simp [run, hapi]
      have hclosed := congrArg Statsd.addr (x.now.keepsConfig_send.sendAndClear w)
      rw [hrun]
      exact hclosed

theorem MadeCall.forall_sends_run {P : Sendto → Prop} {x : MadeCall}
    (hx : x.overflow.Ensures P ∧ x.now.Ensures P) {w : World} (haddr : w.statsd.addr ≠ none)
    (h : ∀ s ∈ w.sends, P s) : ∀ s ∈ (x.run w).sends, P s := by
  rcases x with ⟨op, overflow, now⟩
  cases op with
  | metric m =>
      have hattempts : ∀ o ∈ ((ApiCall.metric m overflow now).call w.statsd).attempts,
          o.Ensures P := by
        simpa [ApiCall.attempts_call, ApiCall.attempts] using hx
      have hstep := ModStatsd.forall_sends_run hattempts haddr h
      rwa [← ApiCall.run_eq] at hstep
  | flush => exact hx.2.sendAndClear haddr h
  | close => exact hx.2.sendAndClear haddr h

/-- What all sends of some calls ensure holds of all sends of a client. -/
theorem forall_sends_runMade {P : Sendto → Prop} {xs : List MadeCall} :
    ∀ {w : World}, (∀ x ∈ xs, x.overflow.Ensures P ∧ x.now.Ensures P) → w.statsd.addr ≠ none →
      (∀ s ∈ w.sends, P s) → ∀ s ∈ (runMade xs w).sends, P s := by
  induction xs with
  | nil =>
      intro w _ _ h
      exact h
  | cons x xs ih =>
      intro w hxs haddr h
      have hstep := MadeCall.forall_sends_run (hxs x (by simp)) haddr h
      have haddr' : (x.run w).statsd.addr ≠ none := by
        rw [x.addr_run]
        exact haddr
      exact ih (fun y hy => hxs y (by simp [hy])) haddr' hstep

theorem World.filter_carried_of_sent {w : World} (h : ∀ s ∈ w.sends, s.isFailed = false) :
    (w.carried.filter fun s => !s.isFailed) = w.carried := by
  rw [List.filter_eq_self]
  intro s hs
  have hfailed := h s (List.mem_filter.1 hs).1
  simp [hfailed]

/-! ## Reporters -/

/-- The call of the metric API, if it is one. -/
def ClientOp.metric? : ClientOp → Option MetricCall
  | .metric m => some m
  | .flush => none
  | .close => none

/-- A client that a session has closed, and how its calls went: no handler disturbed them, and of each
buffer the kernel took all or nothing.  Its lines are such that they can be read. -/
structure Reporter where
  conf : ServerConf
  env : InitEnv
  events : List Event
  client : Client
  made : List MadeCall
  known : ((Session.start conf env).run events).Knows client
  closed : ((Session.start conf env).run events).statsd ≠ some client
  called : made.map MadeCall.op = ((Session.start conf env).run events).calls client.id
  undisturbed : ∀ x ∈ made, x.Undisturbed
  lines : ∀ line ∈ ((Session.start conf env).run events).lines client,
    line.IsLine ∧ line.strlen ≤ MetricCall.maxLine
  labels : client.statsd.ColonFree

namespace Reporter

def session (r : Reporter) : Session :=
  (Session.start r.conf r.env).run r.events

/-- The client after all its calls. -/
def world (r : Reporter) : World :=
  runMade r.made (World.start r.client.statsd)

/-- The metrics it was called for. -/
def metrics (r : Reporter) : List MetricCall :=
  (r.session.calls r.client.id).filterMap ClientOp.metric?

/-- What its lines say. -/
def heard (r : Reporter) : List (Option Update) :=
  r.metrics.map (MetricCall.update r.client.statsd)

/-- No send failed. -/
def AllSent (r : Reporter) : Prop :=
  ∀ x ∈ r.made, x.overflow.completion = .sent ∧ x.now.completion = .sent

theorem opened (r : Reporter) : r.client.statsd.OpenedAt 1 := by
  rcases known_clientFor r.conf r.env r.events r.client r.known with ⟨conf, env, hclient⟩
  exact clientFor_opened hclient

theorem lines_eq (r : Reporter) :
    r.session.lines r.client = r.metrics.map (MetricCall.line r.client.statsd) := by
  have hline : ∀ op : ClientOp, op.line? r.client.statsd =
      op.metric?.map (MetricCall.line r.client.statsd) := by
    intro op
    cases op <;> rfl
  rw [Session.lines, metrics, List.map_filterMap]
  exact List.filterMap_congr fun op _ => hline op

theorem delivered (r : Reporter) :
    DeliveredInOrder r.world (r.metrics.map (MetricCall.line r.client.statsd)) := by
  rw [← r.lines_eq]
  exact session_delivers r.conf r.env r.events r.known r.closed r.lines r.called r.undisturbed

theorem read_lines (r : Reporter) (ms : List MetricCall) :
    (ms.map fun m => (m.line r.client.statsd).cells).map Tally.read =
      ms.map (MetricCall.update r.client.statsd) := by
  have hrate : 0 ≤ r.client.statsd.sampling := by
    rw [r.opened.sampling_eq]
    norm_num
  rw [List.map_map]
  exact List.map_congr_left fun m _ => Tally.read_line r.labels hrate m

/-- What was submitted are the lines, in order. -/
theorem pieces_carried (r : Reporter) :
    r.world.carried.flatMap Sendto.pieces =
      r.metrics.map fun m => (m.line r.client.statsd).cells := by
  rw [r.delivered.inOrder, List.map_map]
  rfl

/-- What arrives are some of the lines, in order. -/
theorem arrived_sublist (r : Reporter) :
    r.world.arrived.Sublist
      (r.metrics.map fun m => (m.line r.client.statsd).cells) := by
  have hkept : ((r.world.carried.filter fun s => !s.isFailed).flatMap Sendto.pieces).Sublist
      (r.world.carried.flatMap Sendto.pieces) :=
    List.filter_sublist.flatMap Sendto.pieces
  rw [r.delivered.arrived, ← r.pieces_carried]
  exact hkept

theorem not_failed_of_allSent (r : Reporter) (h : r.AllSent) :
    ∀ s ∈ r.world.sends, s.isFailed = false := by
  have hensures : ∀ x ∈ r.made, x.overflow.Ensures (fun s => s.isFailed = false) ∧
      x.now.Ensures fun s => s.isFailed = false := by
    intro x hx
    have hundisturbed := r.undisturbed x hx
    exact ⟨Attempts.ensures_not_failed hundisturbed.overflow.1 (h x hx).1,
      Attempts.ensures_not_failed hundisturbed.now.1 (h x hx).2⟩
  have haddr : (World.start r.client.statsd).statsd.addr ≠ none := by
    rcases r.opened with ⟨env, addr, useTcp, prefixLabel, suffixLabel, hopen⟩
    rcases statsdStatsdOpen_ok hopen with ⟨a, fd, _, _, _, heq⟩
    simp [World.start, heq, Statsd.fresh]
  exact forall_sends_runMade hensures haddr (by simp [World.start])

theorem arrived_of_allSent (r : Reporter) (h : r.AllSent) :
    r.world.arrived = r.metrics.map fun m => (m.line r.client.statsd).cells := by
  have hnone : (r.world.carried.filter fun s => !s.isFailed) = r.world.carried :=
    World.filter_carried_of_sent (r.not_failed_of_allSent h)
  rw [r.delivered.arrived, hnone, r.pieces_carried]

end Reporter

/-- The kernel takes everything. -/
def loopbackReporter : Reporter :=
  { conf := loopbackConf none
    env := loopbackEnv
    events := loginAndExit
    client := { id := 0, statsd := loopback false }
    made := madeWell (((Session.start (loopbackConf none) loopbackEnv).run loginAndExit).calls 0)
    known := knows_loginAndExit
    closed := by
      rw [statsd_loginAndExit]
      exact (Option.some_ne_none _).symm
    called := op_madeWell _
    undisturbed := fun x hx => (mem_madeWell hx).1
    lines := lines_fit (loopbackConf none) loopbackEnv sane_loginAndExit knows_loginAndExit
      leavesRoom_loopback
    labels := by decide }

theorem allSent_loopbackReporter : loopbackReporter.AllSent :=
  fun _ hx => (mem_madeWell hx).2

end ModStatsd
