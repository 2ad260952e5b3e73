import ModStatsd.Metric.Truncation
import ModStatsd.Session.Gauges

/-!
# Lifecycle — what a session does to each of its clients

A handler calls the client that is open and no other, so each client of a session is opened, used
and closed, in this order (`Session.Orderly`).  What was called on it is therefore a run of the
metric API, and what is known of these runs holds of a session: `session_delivers`.
-/

namespace ModStatsd

open Lib

/-! ## The calls on a client -/

namespace Session

/-- The calls made on the `k`-th client, in order. -/
def calls (s : Session) (k : Nat) : List ClientOp :=
  (s.trace.filter fun x => x.client.id = k).map Emission.op

/-- A client that is open, or was used before. -/
def Knows (s : Session) (c : Client) : Prop :=
  s.statsd = some c ∨ ∃ x ∈ s.trace, x.client = c

/-- Clients are numbered as they are opened, and used from then on until they are closed. -/
structure Orderly (s : Session) : Prop where
  numbered : ∀ c, s.Knows c → c.id < s.opened
  unique : ∀ c d, s.Knows c → s.Knows d → c.id = d.id → c = d
  genuine : ∀ c, s.Knows c → ∃ rate, c.statsd.OpenedAt rate
  inUse : ∀ c, s.statsd = some c → ClientOp.close ∉ s.calls c.id
  -- closing a client is the last thing that is done to it
  finished : ∀ c, s.Knows c → s.statsd ≠ some c →
    ∃ ops, ClientOp.close ∉ ops ∧ s.calls c.id = ops ++ [.close]

theorem calls_perform (s : Session) (sampled : Bool) (ops : List ClientOp) (k : Nat) :
    (s.perform sampled ops).calls k = s.calls k ++ if s.Current k then ops else [] := by
  cases hc : s.statsd with
  | none => simp [calls, perform, emissions, Current, hc]
  | some c =>
      by_cases hk : c.id = k
      · simp [calls, perform, emissions, Current, hc, hk, List.filter_map, Function.comp_def]
      · simp [calls, perform, emissions, Current, hc, hk, List.filter_map, Function.comp_def]

theorem knows_perform {s : Session} {sampled : Bool} {ops : List ClientOp} {c : Client} :
    (s.perform sampled ops).Knows c ↔ s.Knows c := by
  constructor
  · rintro (hopen | ⟨x, hx, hxc⟩)
    · exact Or.inl hopen
    · rcases List.mem_append.1 hx with hold | hnew
      · exact Or.inr ⟨x, hold, hxc⟩
      · -- what is new was called on the client that is open
        cases hd : s.statsd with
        | none => simp [emissions, hd] at hnew
        | some d =>
            rcases List.mem_map.1 (by simpa only [emissions, hd] using hnew) with ⟨op, _, rfl⟩
            exact Or.inl (hd.trans (congrArg some hxc))
  · rintro (hopen | ⟨x, hx, hxc⟩)
    · exact Or.inl hopen
    · exact Or.inr ⟨x, List.mem_append_left _ hx, hxc⟩

/-- The other globals do not matter. -/
theorem Orderly.congr {s t : Session} (h : s.Orderly) (hstatsd : t.statsd = s.statsd)
    (hopened : t.opened = s.opened) (htrace : t.trace = s.trace) : t.Orderly := by
  have hcalls : t.calls = s.calls := by
    funext k
    simp [calls, htrace]
  have hknows : ∀ c, t.Knows c ↔ s.Knows c := by
    intro c
    simp [Knows, hstatsd, htrace]
  refine ⟨?_, ?_, ?_, ?_, ?_⟩
  · simpa [hknows, hopened] using h.numbered
  · simpa [hknows] using h.unique
  · simpa [hknows] using h.genuine
  · simpa [hstatsd, hcalls] using h.inUse
  · simpa [hknows, hstatsd, hcalls] using h.finished

theorem current_iff {s : Session} {c : Client} (hc : s.statsd = some c) (k : Nat) :
    s.Current k ↔ c.id = k := by
  simp [Current, hc]

/-- A client that is not open is not the one that is called. -/
theorem Orderly.not_current {s : Session} (h : s.Orderly) {c : Client} (hc : s.Knows c)
    (hopen : s.statsd ≠ some c) : ¬ s.Current c.id := by
  intro hcurrent
  rcases Option.map_eq_some_iff.1 hcurrent with ⟨d, hd, hid⟩
  have hsame : d = c := h.unique d c (Or.inl hd) hc hid
  exact hopen (hsame ▸ hd)

theorem Orderly.perform {s : Session} (h : s.Orderly) (sampled : Bool) {ops : List ClientOp}
    (hops : ClientOp.close ∉ ops) : (s.perform sampled ops).Orderly := by
  refine ⟨?_, ?_, ?_, ?_, ?_⟩
  · intro c hc
    exact h.numbered c (knows_perform.1 hc)
  · intro c d hc hd
    exact h.unique c d (knows_perform.1 hc) (knows_perform.1 hd)
  · intro c hc
    exact h.genuine c (knows_perform.1 hc)
  · intro c hc
    have hopen : s.statsd = some c := hc
    rw [calls_perform, if_pos ((current_iff hopen c.id).2 rfl), List.mem_append]
    exact not_or.2 ⟨h.inUse c hopen, hops⟩
  · intro c hc hopen
    rw [calls_perform, if_neg (h.not_current (knows_perform.1 hc) hopen), List.append_nil]
    exact h.finished c (knows_perform.1 hc) hopen

theorem Orderly.closeClient {s : Session} (h : s.Orderly) : s.closeClient.Orderly := by
  have hknows : ∀ c, s.closeClient.Knows c → s.Knows c := by
    rintro c (hopen | hused)
    · simp at hopen
    · exact knows_perform.1 (Or.inr hused)
  refine ⟨?_, ?_, ?_, ?_, ?_⟩
  · intro c hc
    exact h.numbered c (hknows c hc)
  · intro c d hc hd
    exact h.unique c d (hknows c hc) (hknows d hd)
  · intro c hc
    exact h.genuine c (hknows c hc)
  · intro c hc
    simp at hc
  · intro c hc _
    have hcalls : s.closeClient.calls c.id =
        s.calls c.id ++ if s.Current c.id then [.close] else [] := s.calls_perform false [.close] c.id
    -- either it is closed now, or it had been closed before
    by_cases hopen : s.statsd = some c
    · refine ⟨s.calls c.id, h.inUse c hopen, ?_⟩
      rw [hcalls, if_pos ((current_iff hopen c.id).2 rfl)]
    · rw [hcalls, if_neg (h.not_current (hknows c hc) hopen), List.append_nil]
      exact h.finished c (hknows c hc) hopen

/-- The next client finds its number unused. -/
theorem Orderly.calls_opened {s : Session} (h : s.Orderly) : s.calls s.opened = [] := by
  have hempty : s.trace.filter (fun x => x.client.id = s.opened) = [] := by
    rw [List.filter_eq_nil_iff]
    intro x hx hid
    have hlt := h.numbered x.client (Or.inr ⟨x, hx, rfl⟩)
    exact absurd (of_decide_eq_true hid) (Nat.ne_of_lt hlt)
  simp [calls, hempty]

theorem Orderly.openClient {s : Session} (h : s.Orderly) (hnone : s.statsd = none) {rate : ℚ}
    {statsd : Statsd} (hstatsd : statsd.OpenedAt rate) :
    Orderly
      { s with
        statsd := some { id := s.opened, statsd := statsd }
        opened := s.opened + 1 } := by
  let new : Client := { id := s.opened, statsd := statsd }
  have hknows : ∀ c, Knows { s with statsd := some new, opened := s.opened + 1 } c →
      c = new ∨ s.Knows c := by
    rintro c (hopen | hused)
    · exact Or.inl (Option.some.inj hopen).symm
    · exact Or.inr (Or.inr hused)
  have hother : ∀ c, s.Knows c → c.id ≠ s.opened :=
    fun c hc => Nat.ne_of_lt (h.numbered c hc)
  refine ⟨?_, ?_, ?_, ?_, ?_⟩
  · intro c hc
    rcases hknows c hc with rfl | hold
    · exact Nat.lt_succ_self _
    · exact Nat.lt_succ_of_lt (h.numbered c hold)
  · intro c d hc hd hid
    rcases hknows c hc with rfl | hc
    · rcases hknows d hd with rfl | hd
      · rfl
      · exact absurd hid.symm (hother d hd)
    · rcases hknows d hd with rfl | hd
      · exact absurd hid (hother c hc)
      · exact h.unique c d hc hd hid
  · intro c hc
    rcases hknows c hc with rfl | hold
    · exact ⟨rate, hstatsd⟩
    · exact h.genuine c hold
  · intro c hc
    have hnew : new = c := Option.some.inj hc
    have hcalls : s.calls c.id = [] := by
      rw [← hnew]
      exact h.calls_opened
    exact hcalls ▸ List.not_mem_nil
  · intro c hc hopen
    rcases hknows c hc with rfl | hold
    · exact absurd rfl hopen
    · exact h.finished c hold (by simp [hnone])

end Session

/-! ## Events leave a session orderly -/

theorem close_not_mem_reports (s : Session) (e : Event) : ClientOp.close ∉ e.reports s := by
  cases e with
  | command cmd hadError env =>
      by_cases h : Event.Logged s cmd env
      · have htls : ClientOp.close ∉ logTlsMetrics cmd hadError env := by
          cases hauth : authsTls cmd hadError env <;>
            simp [logTlsMetrics, hauth, logTlsAuthMetrics, ClientOp.counter, ClientOp.timer,
              ClientOp.gauge]
        have hftp : ClientOp.close ∉ logFtpMetrics cmd hadError env := by
          cases hlogin : logsInFtp cmd hadError env <;>
            simp [logFtpMetrics, hlogin, ClientOp.counter, ClientOp.gauge]
        simp [Event.reports, h, cmdMetrics, htls, hftp, ClientOp.counter, ClientOp.timer]
      · simp [Event.reports, h]
  | sftpOpened draw =>
      cases h : shouldSample s.sampling draw <;>
        simp [Event.reports, h, openedMetrics, ClientOp.counter, ClientOp.gauge]
  | scpOpened draw =>
      cases h : shouldSample s.sampling draw <;>
        simp [Event.reports, h, openedMetrics, ClientOp.counter, ClientOp.gauge]
  | _ =>
      simp [Event.reports, openedMetrics, sqlClosedMetrics, countedMetrics, ClientOp.counter,
        ClientOp.gauge]

theorem close_not_mem_exitMetrics (env : ExitEnv) (s : Session) :
    ClientOp.close ∉ exitMetrics env s := by
  cases hauth : env.authenticated <;> by_cases hcount : s.sqlConnCount > 0 <;>
    simp [exitMetrics, hauth, hcount, ClientOp.gauge, ClientOp.timer]

theorem orderly_statsdExitEv {s : Session} (h : s.Orderly) (env : ExitEnv) :
    (statsdExitEv env s).Orderly := by
  cases hc : s.statsd with
  | none => simpa [statsdExitEv, hc] using h
  | some c =>
      rw [statsdExitEv_some env hc]
      exact (h.perform false (close_not_mem_exitMetrics env s)).closeClient.congr rfl rfl rfl

theorem orderly_statsdSessInit {s : Session} (h : s.Orderly) (hnone : s.statsd = none)
    (env : InitEnv) : (statsdSessInit env s).Orderly := by
  rcases statsdSessInit_cases env hnone with hclosed | ⟨statsd, hrate, hopened⟩
  · rw [hclosed]
    exact h.congr rfl rfl rfl
  · have hreports : ClientOp.close ∉
        [ClientOp.gauge (getConnMetric none) 1 flGaugeAdjust, .flush] := by
      simp [ClientOp.gauge]
    rw [hopened]
    exact ((h.openClient hnone hrate).perform false hreports).congr rfl rfl rfl

theorem Session.Orderly.reset {s : Session} (h : s.Orderly) : s.reset.Orderly := by
  let t : Session :=
    { s with
      registered := (s.registered.erase .exit).erase .sessionReinit
      engine := false
      excludeFilter := none
      sampling := 1 }
  have ht : t.Orderly := h.congr rfl rfl rfl
  exact ht.closeClient

/-- The old client is closed before the next one is opened. -/
theorem orderly_statsdSessReinitEv {s : Session} (h : s.Orderly) (env : InitEnv) :
    (statsdSessReinitEv env s).Orderly :=
  orderly_statsdSessInit h.reset rfl env

theorem orderly_step {s : Session} (h : s.Orderly) (e : Event) : (s.step e).Orderly := by
  rcases step_cases s e with he | ⟨_, hstep⟩ | ⟨env, rfl, _, hstep⟩ |
    ⟨conf, env, rfl, _, hstep⟩ | ⟨rfl, _, hstep⟩
  · rw [step_steady he]
    split
    · exact (h.perform e.sampled (close_not_mem_reports s e)).congr rfl rfl rfl
    · exact h
  · rw [hstep]
    exact h
  · rw [hstep]
    exact orderly_statsdExitEv h env
  · rw [hstep]
    have hserver : ({ s with mainServer := conf } : Session).Orderly := h.congr rfl rfl rfl
    exact orderly_statsdSessReinitEv hserver env
  · rw [hstep]
    exact h.closeClient

theorem orderly_run {s : Session} (h : s.Orderly) (es : List Event) : (s.run es).Orderly := by
  induction es generalizing s with
  | nil => exact h
  | cons e es ih => exact ih (orderly_step h e)

theorem orderly_start (conf : ServerConf) (env : InitEnv) : (Session.start conf env).Orderly := by
  have hinitial : (Session.initial conf).Orderly := by
    have hknows : ∀ c, ¬ (Session.initial conf).Knows c := by
      simp [Session.Knows, Session.initial]
    refine ⟨?_, ?_, ?_, ?_, ?_⟩
    · exact fun c hc => absurd hc (hknows c)
    · exact fun c d hc => absurd hc (hknows c)
    · exact fun c hc => absurd hc (hknows c)
    · exact fun c hc => absurd (Or.inl hc) (hknows c)
    · exact fun c hc => absurd hc (hknows c)
  exact orderly_statsdSessInit hinitial rfl env

/-! ## What is called on a client is a run of its API -/

/-- The line of a metric call. -/
def ClientOp.line? (statsd : Statsd) : ClientOp → Option CString
  | .metric m => some (m.line statsd)
  | .flush => none
  | .close => none

/-- The lines a session has formatted for a client. -/
def Session.lines (s : Session) (c : Client) : List CString :=
  (s.calls c.id).filterMap (ClientOp.line? c.statsd)

/-- A call of a session, with what happens at its sends; only a write may send twice. -/
structure MadeCall where
  op : ClientOp
  overflow : Attempts
  now : Attempts

namespace MadeCall

/-- The call of the metric API, unless the client is closed. -/
def api? (x : MadeCall) : Option ApiCall :=
  match x.op with
  | .metric m => some (.metric m x.overflow x.now)
  | .flush => some (.flush x.now)
  | .close => none

def run (x : MadeCall) (w : World) : World :=
  match x.api? with
  | some c => c.run w
  | none => statsdStatsdClose x.now.send w

/-- No handler disturbs its sends, and the kernel cuts none of them short. -/
structure Undisturbed (x : MadeCall) : Prop where
  overflow : x.overflow.Quiet ∧ x.overflow.Whole
  now : x.now.Quiet ∧ x.now.Whole

theorem Undisturbed.attempts {x : MadeCall} (h : x.Undisturbed) {c : ApiCall}
    (hc : x.api? = some c) : ∀ o ∈ c.attempts, o.Quiet ∧ o.Whole := by
  rcases x with ⟨op, overflow, now⟩
  cases op with
  | metric m =>
      have heq : ApiCall.metric m overflow now = c := by simpa [api?] using hc
      subst heq
      simpa [ApiCall.attempts] using ⟨h.overflow, h.now⟩
  | flush =>
      have heq : ApiCall.flush now = c := by simpa [api?] using hc
      subst heq
      simpa [ApiCall.attempts] using h.now
  | close => simp [api?] at hc

theorem line?_api (statsd : Statsd) (x : MadeCall) :
    x.api?.bind (ApiCall.line? statsd) = x.op.line? statsd := by
  rcases x with ⟨op, overflow, now⟩
  cases op with
  | metric m => rfl
  | flush => rfl
  | close => rfl

end MadeCall

/-- What a list of calls does to the client. -/
def runMade (xs : List MadeCall) (w : World) : World :=
  xs.foldl (fun w x => x.run w) w

theorem runMade_eq_runApi {xs : List MadeCall} (h : ClientOp.close ∉ xs.map MadeCall.op) :
    ∀ w : World, runMade xs w = runApi (xs.filterMap MadeCall.api?) w := by
  induction xs with
  | nil =>
      intro w
      rfl
  | cons x xs ih =>
      intro w
      have hx : x.op ≠ .close := fun hop => h (by simp [hop])
      have hxs : ClientOp.close ∉ xs.map MadeCall.op := fun hmem => h (by simp [hmem])
      have hapi : ∃ c, x.api? = some c := by
        cases hop : x.op with
        | metric m => exact ⟨.metric m x.overflow x.now, by simp only [MadeCall.api?, hop]⟩
        | flush => exact ⟨.flush x.now, by simp only [MadeCall.api?, hop]⟩
        | close => exact absurd hop hx
      rcases hapi with ⟨c, hc⟩
      have hrun : x.run w = c.run w := by simp [MadeCall.run, hc]
      calc
        runMade (x :: xs) w = runMade xs (c.run w) := by
          rw [← hrun]
          rfl
        _ = runApi (xs.filterMap MadeCall.api?) (c.run w) := ih hxs (c.run w)
        _ = runApi ((x :: xs).filterMap MadeCall.api?) w := by
          rw [List.filterMap_cons_some hc]
          rfl

theorem formatted_api (statsd : Statsd) (xs : List MadeCall) :
    formatted statsd (xs.filterMap MadeCall.api?) =
      (xs.map MadeCall.op).filterMap (ClientOp.line? statsd) := by
  rw [formatted, List.filterMap_filterMap, List.filterMap_map]
  exact List.filterMap_congr fun x _ => MadeCall.line?_api statsd x

/-! ## Delivery -/

theorem ApiCall.deliverable {statsd : Statsd} {c : ApiCall}
    (hline : ∀ line ∈ c.line? statsd, line.IsLine ∧ line.strlen ≤ MetricCall.maxLine)
    (hattempts : ∀ o ∈ c.attempts, o.Quiet ∧ o.Whole) : (c.call statsd).Deliverable := by
  refine ⟨?_, by simpa only [ApiCall.attempts_call] using hattempts⟩
  cases c with
  | metric m overflow now =>
      rcases hline (m.line statsd) rfl with ⟨hisLine, hfits⟩
      have hhanded : (m.handed statsd).1 = m.line statsd := CString.pstrndup_of_le hfits
      simp only [ApiCall.call, Call.Valid, hhanded]
      exact ⟨hisLine, rfl, hfits.trans (by decide)⟩
  | flush send => trivial

/-- The metrics written by the client calls are the lines that were formatted. -/
theorem written_call {statsd : Statsd} {cs : List ApiCall} (h : ∀ c ∈ cs, c.Fits statsd) :
    written (cs.map (ApiCall.call statsd)) = formatted statsd cs := by
  rw [written, formatted, List.filterMap_map]
  exact List.filterMap_congr fun c hc => ApiCall.metric_call (h c hc)

/-- A client that is opened, called and closed delivers the lines of the calls. -/
theorem delivered_runMade {rate : ℚ} {statsd : Statsd} (hopened : statsd.OpenedAt rate)
    {body : List MadeCall} {last : MadeCall} (hbody : ClientOp.close ∉ body.map MadeCall.op)
    (hlast : last.op = .close)
    (hundisturbed : ∀ x ∈ body ++ [last], x.Undisturbed)
    (hlines : ∀ line ∈ (body.map MadeCall.op).filterMap (ClientOp.line? statsd),
      line.IsLine ∧ line.strlen ≤ MetricCall.maxLine) :
    DeliveredInOrder (runMade (body ++ [last]) (World.start statsd))
      ((body.map MadeCall.op).filterMap (ClientOp.line? statsd)) := by
  rcases hopened with ⟨env, addr, useTcp, prefixLabel, suffixLabel, hopen⟩
  let cs := body.filterMap MadeCall.api?
  have hformatted : formatted statsd cs =
      (body.map MadeCall.op).filterMap (ClientOp.line? statsd) := formatted_api statsd body
  have hfit : ∀ c ∈ cs, ∀ line ∈ c.line? statsd,
      line.IsLine ∧ line.strlen ≤ MetricCall.maxLine := by
    intro c hc line hline
    apply hlines
    rw [← hformatted]
    exact List.mem_filterMap.2 ⟨c, hc, hline⟩
  have hdeliverable : ∀ call ∈ cs.map (ApiCall.call statsd), call.Deliverable := by
    intro call hcall
    rcases List.mem_map.1 hcall with ⟨c, hc, rfl⟩
    rcases List.mem_filterMap.1 hc with ⟨x, hx, hxc⟩
    exact ApiCall.deliverable (hfit c hc) ((hundisturbed x (by simp [hx])).attempts hxc)
  have hwritten : written (cs.map (ApiCall.call statsd)) =
      (body.map MadeCall.op).filterMap (ClientOp.line? statsd) := by
    rw [written_call fun c hc line hline => (hfit c hc line hline).2, hformatted]
  have hrun : runMade (body ++ [last]) (World.start statsd) =
      statsdStatsdClose last.now.send
        (runCalls (cs.map (ApiCall.call statsd)) (World.start statsd)) := by
    have hclose : ∀ w, last.run w = statsdStatsdClose last.now.send w := by
      intro w
      simp [MadeCall.run, MadeCall.api?, hlast]
    have hconfig : (World.start statsd).statsd.config = statsd.config := rfl
    have hsplit : runMade (body ++ [last]) (World.start statsd) =
        last.run (runMade body (World.start statsd)) := by
      simp [runMade]
    rw [hsplit, hclose, runMade_eq_runApi hbody, runApi_eq_runCalls hconfig]
  have hend := (hundisturbed last (by simp)).now
  have hdelivered := ((delivering_start hopen).runCalls hdeliverable).close hend.1 hend.2
  rwa [history_runCalls, hwritten, ← hrun] at hdelivered

/-- Whatever the session was, the lines of a client it has closed were submitted once and in order,
and only those in buffers whose `sendto` failed are lost. -/
theorem session_delivers (conf : ServerConf) (env : InitEnv) (es : List Event) {c : Client}
    (hknown : ((Session.start conf env).run es).Knows c)
    (hclosed : ((Session.start conf env).run es).statsd ≠ some c)
    (hlines : ∀ line ∈ ((Session.start conf env).run es).lines c,
      line.IsLine ∧ line.strlen ≤ MetricCall.maxLine)
    {made : List MadeCall}
    (hmade : made.map MadeCall.op = ((Session.start conf env).run es).calls c.id)
    (hundisturbed : ∀ x ∈ made, x.Undisturbed) :
    DeliveredInOrder (runMade made (World.start c.statsd))
      (((Session.start conf env).run es).lines c) := by
  have horderly := orderly_run (orderly_start conf env) es
  rcases horderly.genuine c hknown with ⟨rate, hopened⟩
  rcases horderly.finished c hknown hclosed with ⟨ops, hops, hcalls⟩
  -- the last call closes the client, and those before it are a run of the API
  rw [hcalls] at hmade
  rcases List.map_eq_append_iff.1 hmade with ⟨body, ending, rfl, hbody, hending⟩
  rcases List.map_eq_singleton_iff.1 hending with ⟨last, rfl, hlast⟩
  have hsame : ((Session.start conf env).run es).lines c =
      (body.map MadeCall.op).filterMap (ClientOp.line? c.statsd) := by
    rw [Session.lines, hcalls, hbody]
    simp [ClientOp.line?]
  have hnoClose : ClientOp.close ∉ body.map MadeCall.op := hbody ▸ hops
  rw [hsame] at hlines ⊢
  exact delivered_runMade hopened hnoClose hlast hundisturbed hlines

end ModStatsd
