import ModStatsd.Client.Refinement

/-!
# Delivery — what a run of the client hands to the kernel

Runs in which handlers leave the client alone and every `sendto` that completes either takes the
whole buffer or fails.  The refinement turns such a run into a run of `Lib.Batching`; what remains
is that a batch of lines can be read back from its layout (`pieces_frame`) and that a packet never
outgrows `STATSD_MAX_UDP_PACKET_SIZE` (`bounded_push`).
-/

namespace ModStatsd

open Lib

/-! ## What arrives and what is lost -/

/-- The non-empty newline-separated pieces of the buffer a `sendto` was given. -/
def Sendto.pieces (s : Sendto) : List (List Cell) :=
  Lines.pieces (Cell.byte '\n') s.bytes

namespace World

/-- What a server cuts out of the bytes the kernel took over. -/
def arrived (w : World) : List (List Cell) :=
  w.carried.flatMap fun s => Lines.pieces (Cell.byte '\n') s.accepted

/-- The metrics in buffers whose `sendto` failed. -/
def lost (w : World) : List (List Cell) :=
  (w.carried.filter Sendto.isFailed).flatMap Sendto.pieces

end World

/-! ## Well-behaved calls -/

/-- Not empty, and free of newlines. -/
def CString.IsLine (m : CString) : Prop :=
  Lines.IsLine '\n' m.chars

/-- Every completed `sendto` takes the whole buffer or fails. -/
def Attempts.Whole (o : Attempts) : Prop :=
  ∀ n, o.completion ≠ .short n

namespace Call

/-- The metric is a line of at most `STATSD_MAX_METRIC_SIZE` bytes, and `metric_len` its length. -/
def Valid : Call → Prop
  | .write metric metricLen _ _ _ =>
      Lines.IsLine '\n' metric.chars ∧ metricLen = metric.strlen ∧ metricLen ≤ statsdMaxMetricSize
  | .flush _ => True

def metric? : Call → Option CString
  | .write metric _ _ _ _ => some metric
  | .flush _ => none

/-- A valid call whose sends no handler disturbs and the kernel does not cut short. -/
structure Deliverable (c : Call) : Prop where
  valid : c.Valid
  undisturbed : ∀ o ∈ c.attempts, o.Quiet ∧ o.Whole

theorem Valid.sized {c : Call} (h : c.Valid) : c.SizedRight := by
  cases c with
  | write metric metricLen flags overflow now =>
      obtain ⟨hline, hlen, _⟩ := h
      refine ⟨hlen, ?_⟩
      rw [hlen]
      simpa [CString.strlen] using hline.1
  | flush send => trivial

theorem Valid.metric {c : Call} (h : c.Valid) :
    ∀ m ∈ c.metric?, m.IsLine ∧ m.strlen ≤ statsdMaxMetricSize := by
  cases c with
  | write metric metricLen flags overflow now =>
      rcases h with ⟨hline, hlen, hmax⟩
      intro m hm
      have hm' : metric = m := by simpa [metric?] using hm
      subst hm'
      exact ⟨hline, hlen ▸ hmax⟩
  | flush send => simp [metric?]

theorem Deliverable.plain {c : Call} (h : c.Deliverable) : c.Plain :=
  { sized := h.valid.sized
    quiet := fun o ho => (h.undisturbed o ho).1 }

end Call

/-- The metrics written by a sequence of calls, in order. -/
def written (cs : List Call) : List CString :=
  cs.filterMap Call.metric?

/-! ## The abstract run -/

theorem history_abstract (tcp : Bool) (cs : List Call) :
    ∀ b : Batching CString,
      (cs.foldl (Call.abstract tcp) b).history = b.history ++ written cs := by
  induction cs with
  | nil =>
      intro b
      simp [written]
  | cons c cs ih =>
      intro b
      rw [List.foldl_cons, ih]
      cases c with
      | write metric metricLen flags overflow now =>
          simp [Call.abstract, written, Call.metric?]
      | flush send => simp [Call.abstract, written, List.filterMap_cons, Call.metric?]

/-- A batch of metrics with `P` that fits a packet; on TCP, a single metric. -/
def GoodBatch (P : CString → Prop) (tcp : Bool) (g : List CString) : Prop :=
  (∀ m ∈ g, P m) ∧ if tcp then g.length = 1 else (frameText false g).length ≤ statsdMaxUdpPacketSize

section Bounded

variable {P : CString → Prop} {tcp : Bool}

/-- Writing a metric that is not too long keeps all batches good. -/
theorem bounded_push {b : Batching CString} (h : Batching.Bounded (GoodBatch P tcp) b)
    (htcp : tcp = true → b.pending = []) (now : Bool) {m : CString} (hm : P m)
    (hlen : m.strlen ≤ statsdMaxMetricSize) :
    Batching.Bounded (GoodBatch P tcp) (b.push fits now m) := by
  apply h.push fits now
  · refine ⟨by simpa using hm, ?_⟩
    cases tcp with
    | true => simp
    | false =>
        have hsize : m.chars.length ≤ statsdMaxUdpPacketSize := hlen
        simpa [frameText_singleton] using hsize
  · -- a metric joins a packet behind a newline, and only if both fit
    intro hne hgood hfits
    refine ⟨?_, ?_⟩
    · intro x hx
      rcases List.mem_append.1 hx with hold | hnew
      · exact hgood.1 x hold
      · rw [List.mem_singleton.1 hnew]
        exact hm
    · cases tcp with
      | true => exact absurd (htcp rfl) hne
      | false =>
          have hroom : (frameText false b.pending).length + m.strlen + 1 ≤
              statsdMaxUdpPacketSize := hfits.resolve_left hne
          rw [CString.strlen] at hroom
          simp only [Bool.false_eq_true, if_false, frameText_concat hne, List.length_append,
            List.length_cons]
          omega

theorem bounded_abstract {b : Batching CString} (h : Batching.Bounded (GoodBatch P tcp) b)
    (htcp : tcp = true → b.pending = []) {c : Call}
    (hc : ∀ m ∈ c.metric?, P m ∧ m.strlen ≤ statsdMaxMetricSize) :
    Batching.Bounded (GoodBatch P tcp) (c.abstract tcp b) := by
  cases c with
  | write metric metricLen flags overflow now =>
      have hm := hc metric rfl
      exact bounded_push h htcp _ hm.1 hm.2
  | flush send => exact h.flush

theorem pending_abstract_tcp (b : Batching CString) (c : Call) :
    (c.abstract true b).pending = [] := by
  cases c with
  | write metric metricLen flags overflow now => simp [Call.abstract, Batching.push]
  | flush send => simp [Call.abstract]

theorem bounded_run {cs : List Call} :
    ∀ {b : Batching CString}, Batching.Bounded (GoodBatch P tcp) b →
      (tcp = true → b.pending = []) →
      (∀ c ∈ cs, ∀ m ∈ c.metric?, P m ∧ m.strlen ≤ statsdMaxMetricSize) →
      Batching.Bounded (GoodBatch P tcp) (cs.foldl (Call.abstract tcp) b) := by
  induction cs with
  | nil =>
      intro b h _ _
      exact h
  | cons c cs ih =>
      intro b h htcp hcs
      have hstep := bounded_abstract h htcp (hcs c (by simp))
      have hidle : tcp = true → (c.abstract tcp b).pending = [] := by
        intro ht
        subst ht
        exact pending_abstract_tcp b c
      exact ih hstep hidle (fun c' hc' => hcs c' (by simp [hc']))

end Bounded

/-! ## Reading a batch back -/

theorem pieces_frame {tcp : Bool} {g : List CString} (h : GoodBatch CString.IsLine tcp g) :
    Lines.pieces (Cell.byte '\n') (frame tcp g) = g.map CString.cells := by
  have hline : ∀ m ∈ g, Lines.IsLine (Cell.byte '\n') m.cells := by
    intro m hm
    obtain ⟨hne, hnl⟩ := h.1 m hm
    refine ⟨by simpa [CString.cells] using hne, ?_⟩
    rw [CString.mem_cells]
    exact hnl
  cases tcp with
  | true =>
      -- a TCP batch is one metric with its terminator
      obtain ⟨m, rfl⟩ := List.length_eq_one_iff.1 (by simpa using h.2)
      have hcells : frame true [m] = m.cells ++ [Cell.byte '\n'] := by
        simp [frame, frameText_singleton, CString.cells]
      rw [hcells, Lines.pieces_terminated (hline m (by simp))]
      rfl
  | false =>
      have hcells : frame false g = Lines.join (Cell.byte '\n') (g.map CString.cells) := by
        simp only [frame, frameText, Bool.false_eq_true, if_false, List.append_nil,
          Lines.map_join, List.map_map]
        rfl
      rw [hcells]
      apply Lines.pieces_join
      intro x hx
      obtain ⟨m, hm, rfl⟩ := List.mem_map.1 hx
      exact hline m hm

/-- Cutting all non-empty buffers gives the emitted batches, concatenated. -/
theorem Refines.pieces_carried {w : World} {b : Batching CString} (h : Refines w b)
    (hgood : ∀ g ∈ b.emitted, GoodBatch CString.IsLine w.statsd.useTcp g) :
    w.carried.flatMap Sendto.pieces = b.emitted.flatten.map CString.cells := by
  calc
    w.carried.flatMap Sendto.pieces
        = ((w.carried.map Sendto.bytes).map (Lines.pieces (Cell.byte '\n'))).flatten := by
          rw [List.map_map]
          rfl
    _ = ((b.emitted.map (frame w.statsd.useTcp)).map (Lines.pieces (Cell.byte '\n'))).flatten := by
          rw [h.emitted]
    _ = (b.emitted.map (List.map CString.cells)).flatten := by
          rw [List.map_map]
          congr 1
          exact List.map_congr_left (fun g hg => pieces_frame (hgood g hg))
    _ = b.emitted.flatten.map CString.cells := by rw [List.map_flatten]

/-- No datagram outgrows the packet size. -/
theorem Refines.len_le {P : CString → Prop} {w : World} {b : Batching CString} (h : Refines w b)
    (hgood : ∀ g ∈ b.emitted, GoodBatch P w.statsd.useTcp g) (hudp : w.statsd.useTcp = false) :
    ∀ s ∈ w.sends, s.len ≤ statsdMaxUdpPacketSize := by
  intro s hs
  obtain ⟨_, hzero | ⟨g, hg, hbytes⟩⟩ := h.attempts s hs
  · rw [hzero]
    exact Nat.zero_le _
  · have hlen : s.len = (frameText false g).length := by
      have hcongr := congrArg List.length hbytes
      simpa [hudp] using hcongr
    have hmax := (hgood g hg).2
    rw [hudp] at hmax
    rw [hlen]
    simpa using hmax

/-! ## Completed sends are whole or failed -/

/-- The kernel took all of the buffer or nothing of it. -/
def Sendto.Whole (s : Sendto) : Prop :=
  ∀ n, s.result ≠ .completed (.short n)

theorem Attempts.Whole.ensures {o : Attempts} (hwhole : o.Whole) (hquiet : o.Quiet) :
    o.Ensures Sendto.Whole := by
  refine ⟨hquiet, ?_⟩
  intro buf len w s hs n
  obtain ⟨r, rfl⟩ := Attempts.mem_calls hs
  cases r with
  | eintr => simp [World.call]
  | completed c =>
      -- the only call that completes ends as the attempts do
      have hmem : w.call buf len (.completed c) ∈
          (o.calls buf len w).filter Sendto.isCompleted :=
        List.mem_filter.2 ⟨hs, rfl⟩
      rw [Attempts.filter_calls, List.mem_singleton] at hmem
      have hc : c = o.completion := by simpa [World.call] using hmem
      intro hshort
      have hc' : c = .short n := by simpa [World.call] using hshort
      exact hwhole n (hc.symm.trans hc')

/-- Of a whole or failed send, the kernel took everything or nothing. -/
theorem Sendto.pieces_accepted {s : Sendto} (h : s.Whole) (hdone : s.isCompleted = true) :
    Lines.pieces (Cell.byte '\n') s.accepted = if s.isFailed then [] else s.pieces := by
  cases hr : s.result with
  | eintr => simp [Sendto.isCompleted, hr] at hdone
  | completed c =>
      cases c with
      | sent => simp [Sendto.accepted, Sendto.isFailed, Sendto.pieces, hr]
      | short n => exact absurd hr (h n)
      | failed e => simp [Sendto.accepted, Sendto.isFailed, hr]

theorem World.arrived_eq {w : World} (h : ∀ s ∈ w.sends, s.Whole) :
    w.arrived = (w.carried.filter fun s => !s.isFailed).flatMap Sendto.pieces := by
  have hmem : ∀ s ∈ w.carried, s.Whole ∧ s.isCompleted = true := by
    intro s hs
    obtain ⟨hsend, hcond⟩ := List.mem_filter.1 hs
    have hdone : s.isCompleted = true ∧ s.len ≠ 0 := by simpa using hcond
    exact ⟨h s hsend, hdone.1⟩
  rw [World.arrived]
  generalize w.carried = l at hmem
  induction l with
  | nil => rfl
  | cons s l ih =>
      obtain ⟨hwhole, hdone⟩ := hmem s (by simp)
      have hrest := ih (fun t ht => hmem t (by simp [ht]))
      rw [List.flatMap_cons, Sendto.pieces_accepted hwhole hdone, hrest]
      cases hf : s.isFailed <;> simp [hf]

/-! ## Exactly-once delivery -/

/-- What a finished run owes for the metrics `ms` written to it. -/
structure DeliveredInOrder (w : World) (ms : List CString) : Prop where
  -- every metric was submitted once, in write order
  inOrder : w.carried.flatMap Sendto.pieces = ms.map CString.cells
  -- the server gets the buffers that did not fail, whole
  arrived : w.arrived = (w.carried.filter fun s => !s.isFailed).flatMap Sendto.pieces
  -- what it does not get is what the failed ones held
  lost : (w.arrived ++ w.lost).Perm (ms.map CString.cells)
  datagram : w.statsd.useTcp = false → ∀ s ∈ w.sends, s.len ≤ statsdMaxUdpPacketSize
  idle : w.Idle

theorem delivered_of_synced {w : World} {b : Batching CString} (h : Refines w b)
    (hgood : ∀ g ∈ b.emitted, GoodBatch CString.IsLine w.statsd.useTcp g) (hpending : b.pending = [])
    (hwhole : ∀ s ∈ w.sends, s.Whole) : DeliveredInOrder w b.history := by
  have hinOrder : w.carried.flatMap Sendto.pieces = b.history.map CString.cells := by
    rw [h.pieces_carried hgood, Batching.history, hpending, List.append_nil]
  have harrived := World.arrived_eq hwhole
  refine ⟨hinOrder, harrived, ?_, h.len_le hgood, h.idle hpending⟩
  -- the sends that carried something are those that failed and those that did not
  have hsplit : (w.carried.filter (fun s => !s.isFailed) ++
      w.carried.filter Sendto.isFailed).Perm w.carried := by
    have hperm := List.filter_append_perm Sendto.isFailed w.carried
    exact List.perm_append_comm.trans hperm
  calc
    w.arrived ++ w.lost
        = (w.carried.filter (fun s => !s.isFailed) ++
            w.carried.filter Sendto.isFailed).flatMap Sendto.pieces := by
          rw [harrived, World.lost, List.flatMap_append]
    List.Perm _ (w.carried.flatMap Sendto.pieces) := hsplit.flatMap_right _
    _ = b.history.map CString.cells := hinOrder

/-- The client and the batching sender agree, all batches are good, and no send was cut short. -/
structure Delivering (w : World) (b : Batching CString) : Prop where
  synced : Synced w b
  good : Batching.Bounded (GoodBatch CString.IsLine w.statsd.useTcp) b
  whole : ∀ s ∈ w.sends, s.Whole

theorem delivering_start {env : SocketEnv} {addr : Option NetAddr} {useTcp : Bool} {sampling : ℚ}
    {prefixLabel suffixLabel : Option CString} {statsd : Statsd}
    (hopen : statsdStatsdOpen env addr useTcp sampling prefixLabel suffixLabel = .ok statsd) :
    Delivering (World.start statsd) Batching.empty :=
  { synced := synced_start hopen
    good := Batching.bounded_empty _
    whole := by simp [World.start] }

theorem Delivering.runCalls {w : World} {b : Batching CString} (h : Delivering w b)
    {cs : List Call} (hcs : ∀ c ∈ cs, c.Deliverable) :
    Delivering (runCalls cs w) (cs.foldl (Call.abstract w.statsd.useTcp) b) := by
  refine ⟨h.synced.runCalls (fun c hc => (hcs c hc).plain), ?_, ?_⟩
  · rw [useTcp_runCalls]
    exact bounded_run h.good h.synced.tcpIdle (fun c hc => (hcs c hc).valid.metric)
  · have hensures : ∀ c ∈ cs, ∀ o ∈ c.attempts, o.Ensures Sendto.Whole := by
      intro c hc o ho
      rcases (hcs c hc).undisturbed o ho with ⟨hquiet, hwhole⟩
      exact hwhole.ensures hquiet
    exact forall_sends_runCalls hensures h.synced.refines.addr h.whole

/-- Closing flushes, after which nothing of the batching sender is pending. -/
theorem Delivering.close {w : World} {b : Batching CString} (h : Delivering w b)
    {closing : Attempts} (hquiet : closing.Quiet) (hwhole : closing.Whole) :
    DeliveredInOrder (statsdStatsdClose closing.send w) b.history := by
  have hflushed := h.synced.refines.flush hquiet
  have hwholes := (hwhole.ensures hquiet).sendAndClear h.synced.refines.addr h.whole
  have hdelivered := delivered_of_synced hflushed (by simpa using h.good.flush.emitted)
    (Batching.pending_flush b) hwholes
  rw [Batching.history_flush] at hdelivered
  -- the socket is closed and the client's pool destroyed; what was sent stays
  exact
    { inOrder := hdelivered.inOrder
      arrived := hdelivered.arrived
      lost := hdelivered.lost
      datagram := hdelivered.datagram
      idle := ⟨hdelivered.idle.pool, hdelivered.idle.ptr, hdelivered.idle.len⟩ }

theorem history_runCalls (tcp : Bool) (cs : List Call) :
    (cs.foldl (Call.abstract tcp) Batching.empty).history = written cs := by
  rw [history_abstract, Batching.history_empty, List.nil_append]

theorem delivery_exactly_once_in_order {env : SocketEnv} {addr : Option NetAddr} {useTcp : Bool}
    {sampling : ℚ} {prefixLabel suffixLabel : Option CString} {statsd : Statsd}
    (hopen : statsdStatsdOpen env addr useTcp sampling prefixLabel suffixLabel = .ok statsd)
    {cs : List Call} (hcs : ∀ c ∈ cs, c.Deliverable) {closing : Attempts}
    (hquiet : closing.Quiet) (hwhole : closing.Whole) :
    DeliveredInOrder (statsdStatsdClose closing.send (runCalls cs (World.start statsd)))
      (written cs) := by
  have hrun := (delivering_start hopen).runCalls hcs
  have hdelivered := hrun.close hquiet hwhole
  rwa [history_runCalls] at hdelivered

/-- Two metrics in one packet after an interrupted send, then a third whose packet is refused. -/
theorem delivery_exactly_once_in_order_udp :
    DeliveredInOrder
      (statsdStatsdClose (Attempts.done (.failed 111)).send
        (runCalls
          [.write (CString.lit "a:1|c") 5 0 (.done .sent) (.done .sent),
            .write (CString.lit "b:2|c") 5 flSendNow (.done .sent) (.eintr [] (.done .sent)),
            .write (CString.lit "d:3|c") 5 0 (.done .sent) (.done .sent)]
          (World.start (loopback false))))
      [CString.lit "a:1|c", CString.lit "b:2|c", CString.lit "d:3|c"] := by
  refine delivery_exactly_once_in_order (statsdStatsdOpen_loopback false) ?_ rfl
    (by simp [Attempts.Whole, Attempts.completion])
  intro c hc
  fin_cases hc
  · exact ⟨⟨by decide, rfl, by decide⟩,
      by simp [Call.attempts, Attempts.Quiet, Attempts.handled, Attempts.Whole, Attempts.completion]⟩
  · exact ⟨⟨by decide, rfl, by decide⟩,
      by simp [Call.attempts, Attempts.Quiet, Attempts.handled, Attempts.Whole, Attempts.completion]⟩
  · exact ⟨⟨by decide, rfl, by decide⟩,
      by simp [Call.attempts, Attempts.Quiet, Attempts.handled, Attempts.Whole, Attempts.completion]⟩

end ModStatsd
