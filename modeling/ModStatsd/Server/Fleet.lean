import ModStatsd.Server.Reception
import ModStatsd.Session.Counts

/-!
# Fleet — many sessions and one server

Every session of every server process reports on its own, over datagrams that may overtake each other
and get lost.  That the server still ends with the right numbers rests on what the module sends: it
never sets a gauge, and it counts up by one.

* `fleet_sums` — whatever the order, the tally ends with the sums over all sessions;
* `fleet_counts_events` — a counter ends with the number of its events, over all sessions;
* `fleet_never_overcounts` — whatever is lost, with no more.
-/

namespace ModStatsd

open Lib

/-! ## What the module never does -/

/-- A counter goes up by one, and a gauge is moved. -/
def ClientOp.Accrues : ClientOp → Prop
  | .metric (.counter _ incr _) => incr = 1
  | .metric (.gauge _ val flags) => hasFlag flags flGaugeAdjust = true ∧ val.toInt ≠ 0
  | _ => True

theorem accrues_gauge (name : CString) {val : Int64} (h : val.toInt ≠ 0) :
    (ClientOp.gauge name val flGaugeAdjust).Accrues :=
  ⟨by decide, h⟩

theorem accrues_of_routine {names : List CString} {op : ClientOp} (h : op.Routine names) :
    op.Accrues := by
  cases h with
  | count flags hname => exact rfl
  | time ms hname => exact trivial
  | up hname => exact accrues_gauge _ (by decide)
  | down hname => exact accrues_gauge _ (by decide)
  | @settle name count hname hcount =>
      -- the adjustment for open SQL connections goes up instead of down, but it is not zero
      have hlt := count.toNat_lt
      have hvalue : (sqlExitAdjustment count).toInt ≠ 0 := by
        rw [toInt_sqlExitAdjustment hcount]
        omega
      exact accrues_gauge _ hvalue
  | flush => exact trivial
  | close => exact trivial

theorem accrues_run (conf : ServerConf) (env : InitEnv) (es : List Event) (k : Nat) :
    ∀ op ∈ ((Session.start conf env).run es).calls k, op.Accrues := by
  have hopening : ∀ op ∈ openingCalls, op.Accrues := by
    intro op hop
    rcases List.mem_cons.1 hop with rfl | hflush
    · exact accrues_gauge _ (by decide)
    · rw [List.mem_singleton.1 hflush]
      exact trivial
  exact Session.forall_calls_run hopening conf env
    (fun e _ s op hop => accrues_of_routine (e.routine_calls s op hop)) k

/-! ## What the server hears of one client -/

/-- A name between the labels of the client. -/
def Statsd.namespaced (statsd : Statsd) (name : List Char) : List Char :=
  (CString.orEmpty statsd.prefixLabel).chars ++ name ++ (CString.orEmpty statsd.suffixLabel).chars

theorem MetricCall.printedRate_of_one {statsd : Statsd} (hone : statsd.sampling = 1)
    (m : MetricCall) : m.printedRate statsd = 1 := by
  have hnone : m.requestedRate 1 = none := by cases m <;> simp [requestedRate]
  rw [printedRate, hone, hnone, Option.getD_none]

theorem metric_of_metric? {op : ClientOp} {m : MetricCall} (h : op.metric? = some m) :
    op = .metric m := by
  cases op with
  | metric m' => exact congrArg ClientOp.metric (Option.some.inj h)
  | flush => exact absurd h (Option.some_ne_none m).symm
  | close => exact absurd h (Option.some_ne_none m).symm

theorem fullName_eq_namespaced (statsd : Statsd) (name : List Char) (m : MetricCall) :
    m.fullName statsd = statsd.namespaced name ↔ neutralName m.name = name := by
  rw [MetricCall.fullName, Statsd.namespaced, chars_sanitizeName, List.append_left_inj,
    List.append_right_inj]

/-- What one call has the server book under a name, if its client does not sample. -/
theorem total_counted_update {statsd : Statsd} (hone : statsd.sampling = 1) (name : List Char)
    (m : MetricCall) :
    Books.total (statsd.namespaced name) (Tally.counted [m.update statsd]) =
      (ClientOp.metric m).increment name := by
  have hrate := MetricCall.printedRate_of_one hone m
  have hname := fullName_eq_namespaced statsd name m
  cases m with
  | counter n incr flags =>
      have hbooked : Tally.counted [(MetricCall.counter n incr flags).update statsd] =
          [((MetricCall.counter n incr flags).fullName statsd, (incr.toInt : ℚ))] := by
        simp [MetricCall.update, hrate, Tally.counted]
      rw [hbooked, Books.total_cons, Books.total_nil, add_zero, ClientOp.increment]
      by_cases hn : neutralName n = name
      · simp [hname.2 hn, hn]
      · simp [mt hname.1 hn, hn]
  | timer n ms flags => simp [ClientOp.increment, MetricCall.update, Tally.counted]
  | gauge n val flags =>
      cases hchange : GaugeUpdate.ofCall val flags <;>
        simp [ClientOp.increment, MetricCall.update, hchange, Tally.counted]

theorem Tally.counted_cons (u : Option Update) (heard : List (Option Update)) :
    counted (u :: heard) = counted [u] ++ counted heard := by
  rw [counted, counted, counted, ← List.filterMap_append, List.singleton_append]

/-- Unless it samples, a client has the server add up what its counters are called with. -/
theorem total_counted {statsd : Statsd} (hone : statsd.sampling = 1) (name : List Char)
    (ops : List ClientOp) :
    Books.total (statsd.namespaced name)
        (Tally.counted ((ops.filterMap ClientOp.metric?).map (MetricCall.update statsd))) =
      counted name ops := by
  induction ops with
  | nil => simp [Tally.counted]
  | cons op ops ih =>
      cases op with
      | flush => rw [List.filterMap_cons_none rfl, ih, counted_cons, increment_flush, zero_add]
      | close => rw [List.filterMap_cons_none rfl, ih, counted_cons, increment_close, zero_add]
      | metric m =>
          have hcons : (ClientOp.metric m :: ops).filterMap ClientOp.metric? =
              m :: ops.filterMap ClientOp.metric? := rfl
          rw [hcons, List.map_cons, Tally.counted_cons, Books.total_append, ih,
            total_counted_update hone, counted_cons, Int.cast_add]

namespace Reporter

variable (r : Reporter)

/-- The events that were reported to the client under the counter `name`. -/
def occurrences (name : List Char) : Int :=
  (Session.start r.conf r.env).occurrences name r.client.id r.events

theorem accrues_metrics : ∀ m ∈ r.metrics, (ClientOp.metric m).Accrues := by
  intro m hm
  rcases List.mem_filterMap.1 hm with ⟨op, hop, hmetric⟩
  rw [← metric_of_metric? hmetric]
  exact accrues_run r.conf r.env r.events r.client.id op hop

theorem counted_heard_nonneg : ∀ p ∈ Tally.counted r.heard, 0 ≤ p.2 := by
  intro p hp
  rcases List.mem_filterMap.1 hp with ⟨u, hu, hbooked⟩
  rcases List.mem_map.1 hu with ⟨m, hm, rfl⟩
  have hrate := MetricCall.printedRate_of_one r.opened.sampling_eq m
  have haccrues := r.accrues_metrics m hm
  cases m with
  | counter n incr flags =>
      have hone : incr = 1 := haccrues
      have hint : (1 : Int64).toInt = 1 := by decide
      simp only [MetricCall.update, hrate, one_ne_zero, if_false] at hbooked
      rw [← Option.some.inj hbooked, hone, hint]
      norm_num
  | timer n ms flags => simp [MetricCall.update] at hbooked
  | gauge n val flags =>
      cases hchange : GaugeUpdate.ofCall val flags <;> simp [MetricCall.update, hchange] at hbooked

theorem total_counted_heard {e : Event} {name : List Char} (hname : e.CountedAs name) :
    Books.total (r.client.statsd.namespaced name) (Tally.counted r.heard) = r.occurrences name := by
  have hcounted := counted_session (not_incidental hname) r.conf r.env r.events r.client.id
  calc
    Books.total (r.client.statsd.namespaced name) (Tally.counted r.heard)
        = (counted name (r.session.calls r.client.id) : ℚ) :=
          total_counted r.opened.sampling_eq name _
    _ = r.occurrences name := by rw [session, hcounted, occurrences]

theorem read_arrived_sublist : (r.world.arrived.map Tally.read).Sublist r.heard := by
  have hsublist := r.arrived_sublist.map Tally.read
  rwa [r.read_lines] at hsublist

theorem read_arrived (h : r.AllSent) : r.world.arrived.map Tally.read = r.heard := by
  rw [r.arrived_of_allSent h, r.read_lines]
  rfl

end Reporter

/-! ## Many clients, one server -/

section Fleet

variable {rs : List Reporter} {arrivals : List (List Cell)}

theorem heard_perm (hsent : ∀ r ∈ rs, r.AllSent)
    (harrivals : arrivals.Perm (rs.flatMap fun r => r.world.arrived)) :
    (arrivals.map Tally.read).Perm (rs.flatMap Reporter.heard) := by
  have hread : (rs.flatMap fun r => r.world.arrived).map Tally.read = rs.flatMap Reporter.heard := by
    rw [List.map_flatMap]
    exact List.flatMap_congr fun r hr => r.read_arrived (hsent r hr)
  exact hread ▸ harrivals.map Tally.read

theorem heard_subperm (harrivals : arrivals.Subperm (rs.flatMap fun r => r.world.arrived)) :
    (arrivals.map Tally.read).Subperm (rs.flatMap Reporter.heard) := by
  rcases harrivals with ⟨kept, hperm, hsublist⟩
  have hread := hsublist.map Tally.read
  rw [List.map_flatMap] at hread
  have hheard := List.Sublist.flatMap_right rs fun r _ => r.read_arrived_sublist
  exact ⟨kept.map Tally.read, hperm.map Tally.read, hread.trans hheard⟩

theorem total_counted_fleet (k : List Char) :
    Books.total k (Tally.counted (rs.flatMap Reporter.heard)) =
      (rs.map fun r => Books.total k (Tally.counted r.heard)).sum :=
  Books.total_filterMap_flatMap k _ Reporter.heard rs

/-- The clients that report under the same labels have the server count the events of all of them. -/
theorem total_counted_occurrences {key name : List Char} {e : Event} (hname : e.CountedAs name)
    (hkey : ∀ r ∈ rs, r.client.statsd.namespaced name = key) :
    Books.total key (Tally.counted (rs.flatMap Reporter.heard)) =
      (rs.map fun r => (r.occurrences name : ℚ)).sum := by
  rw [total_counted_fleet]
  apply congrArg List.sum
  apply List.map_congr_left
  intro r hr
  rw [← hkey r hr]
  exact r.total_counted_heard hname

/-- When nothing is lost, a counter goes up by the number of its events, over all sessions that report
under the same labels. -/
theorem fleet_counts_events {key name : List Char} {e : Event} (hname : e.CountedAs name)
    (hkey : ∀ r ∈ rs, r.client.statsd.namespaced name = key)
    (hsent : ∀ r ∈ rs, r.AllSent)
    (harrivals : arrivals.Perm (rs.flatMap fun r => r.world.arrived)) (t : Tally) :
    (arrivals.foldl Tally.receive t).counters key =
      t.counters key + (rs.map fun r => (r.occurrences name : ℚ)).sum := by
  have hperm := heard_perm hsent harrivals
  have hcounted : Books.total key (Tally.counted (arrivals.map Tally.read)) =
      Books.total key (Tally.counted (rs.flatMap Reporter.heard)) :=
    Books.total_perm _ (hperm.filterMap _)
  rw [Tally.foldl_receive, Tally.counters_foldl_hear, hcounted,
    total_counted_occurrences hname hkey]

theorem namespaced_loopback (name : List Char) :
    loopbackReporter.client.statsd.namespaced name = name := by
  simp [Statsd.namespaced, loopbackReporter, loopback, Statsd.fresh, CString.orEmpty, CString.empty]

/-- Two logins, reported by two sessions. -/
theorem fleet_counts_events_two :
    (([loopbackReporter, loopbackReporter].flatMap fun r =>
      r.world.arrived).reverse.foldl Tally.receive Tally.empty).counters
        "command.PASS.230".toList = 2 := by
  have hname : (passCommand false 0).CountedAs "command.PASS.230".toList := by decide
  have hkey : ∀ r ∈ [loopbackReporter, loopbackReporter],
      r.client.statsd.namespaced "command.PASS.230".toList = "command.PASS.230".toList := by
    simp [namespaced_loopback]
  have hsent : ∀ r ∈ [loopbackReporter, loopbackReporter], r.AllSent := by
    simp [allSent_loopbackReporter]
  have hcounts := fleet_counts_events hname hkey hsent (List.reverse_perm _) Tally.empty
  exact hcounts.trans (by decide +kernel)

/-- Whatever the kernel refuses, the network loses and packets overtake, a counter goes up by no more
than the number of its events. -/
theorem fleet_never_overcounts {key name : List Char} {e : Event} (hname : e.CountedAs name)
    (hkey : ∀ r ∈ rs, r.client.statsd.namespaced name = key)
    (harrivals : arrivals.Subperm (rs.flatMap fun r => r.world.arrived)) (t : Tally) :
    (arrivals.foldl Tally.receive t).counters key ≤
      t.counters key + (rs.map fun r => (r.occurrences name : ℚ)).sum := by
  have hpositive : ∀ p ∈ Tally.counted (rs.flatMap Reporter.heard), 0 ≤ p.2 := by
    intro p hp
    rcases List.mem_filterMap.1 hp with ⟨u, hu, hbooked⟩
    rcases List.mem_flatMap.1 hu with ⟨r, _, hheard⟩
    exact r.counted_heard_nonneg p (List.mem_filterMap.2 ⟨u, hheard, hbooked⟩)
  have hsubperm : (Tally.counted (arrivals.map Tally.read)).Subperm
      (Tally.counted (rs.flatMap Reporter.heard)) := by
    rcases heard_subperm harrivals with ⟨kept, hperm, hsublist⟩
    exact ⟨kept.filterMap _, hperm.filterMap _, hsublist.filterMap _⟩
  calc
    (arrivals.foldl Tally.receive t).counters key
        = t.counters key +
            Books.total key (Tally.counted (arrivals.map Tally.read)) := by
          rw [Tally.foldl_receive, Tally.counters_foldl_hear]
    _ ≤ t.counters key + Books.total key
          (Tally.counted (rs.flatMap Reporter.heard)) := by
          gcongr
          exact Books.total_le_of_subperm _ hsubperm hpositive
    _ = t.counters key + (rs.map fun r => (r.occurrences name : ℚ)).sum := by
          rw [total_counted_occurrences hname hkey]

/-- Two logins, of which one is lost. -/
theorem fleet_never_overcounts_one :
    (loopbackReporter.world.arrived.foldl Tally.receive Tally.empty).counters
        "command.PASS.230".toList ≤ 2 := by
  have hname : (passCommand false 0).CountedAs "command.PASS.230".toList := by decide
  have hkey : ∀ r ∈ [loopbackReporter, loopbackReporter],
      r.client.statsd.namespaced "command.PASS.230".toList = "command.PASS.230".toList := by
    simp [namespaced_loopback]
  have hlost : loopbackReporter.world.arrived.Subperm
      ([loopbackReporter, loopbackReporter].flatMap fun r => r.world.arrived) :=
    (List.sublist_append_left _ _).subperm
  have hbound := fleet_never_overcounts hname hkey hlost Tally.empty
  exact hbound.trans (by decide +kernel)

end Fleet

end ModStatsd
