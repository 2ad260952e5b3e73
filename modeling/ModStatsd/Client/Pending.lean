import ModStatsd.Client.Refinement

/-!
# Pending — when is there something to send?

A write leaves something pending on UDP, unless it is sent at once; a flush leaves nothing.  Neither
`statsd_statsd_flush` nor `send_metrics` asks whether something is, so a flush that finds nothing
hands an empty buffer to `sendto(2)`: `sends_nonempty_iff`.
-/

namespace ModStatsd

/-! ## The fields for pending metrics -/

/-- The fields for pending metrics agree with each other. -/
structure World.Tidy (w : World) : Prop where
  len : w.statsd.metricsBuf = none ↔ w.statsd.metricsBuflen = 0
  pool : w.statsd.metricsBuf ≠ none → w.statsd.metricsPool ≠ none

theorem World.tidy_of_idle {w : World} (h : w.Idle) : w.Tidy :=
  { len := by simp [h.ptr, h.len]
    pool := fun hne => absurd h.ptr hne }

theorem tidy_start (statsd : Statsd) (hbuf : statsd.metricsBuf = none)
    (hlen : statsd.metricsBuflen = 0) : (World.start statsd).Tidy :=
  { len := by simp [World.start, hbuf, hlen]
    pool := fun hne => absurd hbuf hne }

/-- Whatever handlers did during the send, nothing is pending after it. -/
theorem idle_sendAndClear (send : Send) (w : World) : (sendAndClear send w).Idle :=
  idle_clearMetrics _

section Buffer

variable {w : World} {metricLen : Nat}

theorem tidy_bufferTcp (metric : CString) (w : World) :
    (bufferTcp metric metricLen w).Tidy ∧
      (bufferTcp metric metricLen w).statsd.metricsBuf ≠ none := by
  refine ⟨⟨?_, ?_⟩, ?_⟩
  · simp [bufferTcp, World.setBuf, World.makeMetricsPool]
  · simp [bufferTcp, World.setBuf, World.makeMetricsPool]
  · simp [bufferTcp, World.setBuf]

theorem World.Tidy.flushOverflow (h : w.Tidy) (overflow : Send) (metricLen : Nat) :
    (flushOverflow overflow metricLen w).Tidy := by
  by_cases hov : overflows w metricLen
  · simpa [ModStatsd.flushOverflow, hov] using World.tidy_of_idle (idle_sendAndClear overflow w)
  · simpa [ModStatsd.flushOverflow, hov] using h

theorem World.Tidy.bufferUdp (h : w.Tidy) (metric : CString) (hlen : metricLen ≠ 0) :
    (bufferUdp metric metricLen w).Tidy ∧
      (bufferUdp metric metricLen w).statsd.metricsBuf ≠ none := by
  cases hbuf : w.statsd.metricsBuf with
  | none =>
      -- the first metric of a packet, in a pool of its own
      refine ⟨⟨?_, ?_⟩, ?_⟩
      · simp [ModStatsd.bufferUdp, hbuf, World.setBuf, hlen]
      · simp [ModStatsd.bufferUdp, hbuf, World.setBuf, World.makeMetricsPool]
      · simp [ModStatsd.bufferUdp, hbuf, World.setBuf]
  | some buf =>
      -- the pool of the first is still there, so `pstrcat` returns a buffer
      rcases Option.ne_none_iff_exists'.1 (h.pool (by simp [hbuf])) with ⟨k, hk⟩
      refine ⟨⟨?_, ?_⟩, ?_⟩
      · simp [ModStatsd.bufferUdp, hbuf, hk, World.setBuf]
      · simp [ModStatsd.bufferUdp, hbuf, hk, World.setBuf]
      · simp [ModStatsd.bufferUdp, hbuf, hk, World.setBuf]

theorem World.Tidy.bufferMetric (h : w.Tidy) (overflow : Send) (metric : CString)
    (hlen : metricLen ≠ 0) :
    (bufferMetric overflow metric metricLen w).Tidy ∧
      (bufferMetric overflow metric metricLen w).statsd.metricsBuf ≠ none := by
  cases htcp : w.statsd.useTcp with
  | true => simpa [ModStatsd.bufferMetric, htcp] using tidy_bufferTcp metric w
  | false =>
      simpa [ModStatsd.bufferMetric, htcp] using
        (h.flushOverflow overflow metricLen).bufferUdp metric hlen

end Buffer

/-! ## What a call leaves pending -/

namespace Call

/-- A write without `STATSD_STATSD_FL_SEND_NOW`, on UDP. -/
def buffers (useTcp : Bool) : Call → Bool
  | .write _ _ flags _ _ => !sendsNow useTcp flags
  | .flush _ => false

/-- `metric_len` is not zero, so `statsd_statsd_write` takes the metric. -/
def Taken : Call → Prop
  | .write _ metricLen _ _ _ => metricLen ≠ 0
  | .flush _ => True

end Call

theorem World.Tidy.run {w : World} (h : w.Tidy) {c : Call} (hc : c.Taken) :
    (c.run w).Tidy ∧ ((c.run w).statsd.metricsBuf ≠ none ↔ c.buffers w.statsd.useTcp = true) := by
  cases c with
  | write metric metricLen flags overflow now =>
      have haccept : (w.accept (metric.pstrndup metricLen)).Tidy := ⟨h.len, h.pool⟩
      rcases haccept.bufferMetric overflow.send metric hc with ⟨htidy, hsome⟩
      rw [Call.run_write hc]
      cases hnow : sendsNow w.statsd.useTcp flags with
      | false => exact ⟨by simpa [writeMetricBuf, hnow] using htidy,
          by simpa [writeMetricBuf, hnow, Call.buffers] using hsome⟩
      | true =>
          have hidle := idle_sendAndClear now.send
            (ModStatsd.bufferMetric overflow.send metric metricLen
              (w.accept (metric.pstrndup metricLen)))
          exact ⟨by simpa [writeMetricBuf, hnow] using World.tidy_of_idle hidle,
            by simpa [writeMetricBuf, hnow, Call.buffers] using hidle.ptr⟩
  | flush send =>
      have hidle := idle_sendAndClear send.send w
      rw [Call.run_flush]
      exact ⟨World.tidy_of_idle hidle, by simp [hidle.ptr, Call.buffers]⟩

/-! ## What a call sends -/

/-- `sendto` is given a buffer, and a length that is not zero. -/
def Sendto.Nonempty (s : Sendto) : Prop :=
  s.buf ≠ none ∧ 1 ≤ s.len

instance (s : Sendto) : Decidable s.Nonempty :=
  inferInstanceAs (Decidable (s.buf ≠ none ∧ 1 ≤ s.len))

/-- All attempts of one send are given the same buffer. -/
theorem Attempts.forall_calls_nonempty (buf : Option Buf) (len : Nat) (w : World) :
    ∀ o : Attempts, (∀ s ∈ o.calls buf len w, s.Nonempty) ↔ buf ≠ none ∧ 1 ≤ len
  | .done c => by simp [Attempts.calls, Sendto.Nonempty, World.call]
  | .eintr _ retry => by
      have ih := Attempts.forall_calls_nonempty buf len w retry
      simp only [Attempts.calls, List.forall_mem_cons, ih]
      simp [Sendto.Nonempty, World.call]

/-- The `sendto` calls made on the way from `w` to `w'`, if `P` says when none of them is empty. -/
def SendsFull (w w' : World) (P : Prop) : Prop :=
  ∃ sent, w'.sends = w.sends ++ sent ∧ ((∀ s ∈ sent, s.Nonempty) ↔ P)

theorem SendsFull.refl (w : World) : SendsFull w w True :=
  ⟨[], by simp, by simp⟩

theorem SendsFull.trans {w w' w'' : World} {P Q : Prop} (h : SendsFull w w' P)
    (h' : SendsFull w' w'' Q) : SendsFull w w'' (P ∧ Q) := by
  rcases h with ⟨sent, hsent, hP⟩
  rcases h' with ⟨sent', hsent', hQ⟩
  refine ⟨sent ++ sent', by rw [hsent', hsent, List.append_assoc], ?_⟩
  rw [List.forall_mem_append, hP, hQ]

/-- A send of the pending buffer is full if there is one. -/
theorem sendsFull_sendAndClear {w : World} (h : w.Tidy) (haddr : w.statsd.addr ≠ none)
    {o : Attempts} (ho : o.Quiet) :
    SendsFull w (sendAndClear o.send w) (w.statsd.metricsBuf ≠ none) := by
  have hlen : w.statsd.metricsBuf ≠ none → 1 ≤ w.statsd.metricsBuflen := by
    intro hne
    exact Nat.one_le_iff_ne_zero.2 (fun hzero => hne (h.len.2 hzero))
  refine ⟨o.calls w.statsd.metricsBuf w.statsd.metricsBuflen w, ?_, ?_⟩
  · rw [sendAndClear, Attempts.send_of_quiet haddr ho]
    rfl
  · rw [Attempts.forall_calls_nonempty]
    exact ⟨fun hboth => hboth.1, fun hne => ⟨hne, hlen hne⟩⟩

/-- A write sends nothing empty: what it sends is what it has just buffered, or what was too much. -/
theorem sendsFull_write {w : World} (h : w.Tidy) (haddr : w.statsd.addr ≠ none)
    {overflow now : Attempts} (ho : overflow.Quiet) (hn : now.Quiet) (metric : CString)
    {metricLen : Nat} (hlen : metricLen ≠ 0) (flags : Flags) :
    SendsFull w (writeMetricBuf overflow.send now.send metric metricLen flags w) True := by
  let w₁ := w.accept (metric.pstrndup metricLen)
  have haccept : w₁.Tidy := ⟨h.len, h.pool⟩
  have hbuffered : SendsFull w (bufferMetric overflow.send metric metricLen w₁) True := by
    cases htcp : w.statsd.useTcp with
    | true =>
        have hsends : (bufferMetric overflow.send metric metricLen w₁).sends = w.sends := by
          simp [bufferMetric, htcp, bufferTcp, World.setBuf, World.makeMetricsPool, World.accept, w₁]
        exact ⟨[], by simp [hsends], by simp⟩
    | false =>
        have hsends : (bufferMetric overflow.send metric metricLen w₁).sends =
            (flushOverflow overflow.send metricLen w₁).sends := by
          simp [bufferMetric, htcp, sends_bufferUdp, w₁]
        by_cases hov : overflows w₁ metricLen
        · have hne : w₁.statsd.metricsBuf ≠ none := Option.isSome_iff_ne_none.1 hov.1
          rcases sendsFull_sendAndClear haccept haddr ho with ⟨sent, hsent, hfull⟩
          refine ⟨sent, ?_, by rw [hfull]; exact iff_true_intro hne⟩
          rw [hsends]
          simp only [flushOverflow, hov, if_true]
          exact hsent
        · have hsame : flushOverflow overflow.send metricLen w₁ = w₁ := if_neg hov
          refine ⟨[], ?_, by simp⟩
          rw [hsends, hsame, List.append_nil]
          rfl
  rcases haccept.bufferMetric overflow.send metric hlen with ⟨htidy, hsome⟩
  have haddr' : (bufferMetric overflow.send metric metricLen w₁).statsd.addr ≠ none := by
    simpa [w₁] using haddr
  cases hnow : sendsNow w.statsd.useTcp flags with
  | false => simpa [writeMetricBuf, hnow] using hbuffered
  | true =>
      have hsent := hbuffered.trans (sendsFull_sendAndClear htidy haddr' hn)
      simpa [writeMetricBuf, hnow, hsome, w₁] using hsent

/-! ## Flushes that find nothing -/

/-- Every flush of the run, and the close at its end, finds something that was buffered by the call
before it; `pending` says whether the first call does. -/
def Fed (useTcp : Bool) : Bool → List Call → Prop
  | pending, [] => pending = true
  | _, .write metric metricLen flags overflow now :: cs =>
      Fed useTcp ((Call.write metric metricLen flags overflow now).buffers useTcp) cs
  | pending, .flush _ :: cs => pending = true ∧ Fed useTcp false cs

theorem sends_full_run {useTcp : Bool} {flushing : Attempts} (hflushing : flushing.Quiet)
    {cs : List Call} :
    ∀ {w : World} {pending : Bool}, w.Tidy → w.statsd.addr ≠ none → w.statsd.useTcp = useTcp →
      (w.statsd.metricsBuf ≠ none ↔ pending = true) →
      (∀ c ∈ cs, c.Taken) → (∀ c ∈ cs, ∀ o ∈ c.attempts, o.Quiet) →
      SendsFull w (statsdStatsdFlush flushing.send (runCalls cs w)) (Fed useTcp pending cs) := by
  induction cs with
  | nil =>
      intro w pending htidy haddr _ hpending _ _
      rw [Fed, ← hpending]
      exact sendsFull_sendAndClear htidy haddr hflushing
  | cons c cs ih =>
      intro w pending htidy haddr htcp hpending htaken hquiet
      have hc : c.Taken := htaken c (by simp)
      have hq : ∀ o ∈ c.attempts, o.Quiet := hquiet c (by simp)
      rcases htidy.run hc with ⟨htidy', hbuffers⟩
      have haddr' : (c.run w).statsd.addr ≠ none := by
        rw [addr_run]
        exact haddr
      have htcp' : (c.run w).statsd.useTcp = useTcp := by rw [useTcp_run, htcp]
      rw [htcp] at hbuffers
      have hrest := ih htidy' haddr' htcp' hbuffers (fun d hd => htaken d (by simp [hd]))
        (fun d hd => hquiet d (by simp [hd]))
      rw [runCalls]
      cases c with
      | write metric metricLen flags overflow now =>
          have ho : overflow.Quiet := hq overflow (by simp [Call.attempts])
          have hn : now.Quiet := hq now (by simp [Call.attempts])
          have hfirst := sendsFull_write htidy haddr ho hn metric hc flags
          rw [← Call.run_write hc] at hfirst
          simpa only [Fed, true_and] using hfirst.trans hrest
      | flush send =>
          have hs : send.Quiet := hq send (by simp [Call.attempts])
          have hfirst := sendsFull_sendAndClear htidy haddr hs
          rw [← Call.run_flush, hpending] at hfirst
          exact hfirst.trans hrest

/-- Nothing empty is sent just if every flush, and the close, comes right after a write that was
buffered. -/
theorem sends_nonempty_iff {env : SocketEnv} {addr : Option NetAddr} {useTcp : Bool} {sampling : ℚ}
    {prefixLabel suffixLabel : Option CString} {statsd : Statsd}
    (hopen : statsdStatsdOpen env addr useTcp sampling prefixLabel suffixLabel = .ok statsd)
    {cs : List Call} (htaken : ∀ c ∈ cs, c.Taken) (hquiet : ∀ c ∈ cs, ∀ o ∈ c.attempts, o.Quiet)
    {closing : Attempts} (hclosing : closing.Quiet) :
    (∀ s ∈ (statsdStatsdClose closing.send (runCalls cs (World.start statsd))).sends, s.Nonempty) ↔
      Fed useTcp false cs := by
  rcases statsdStatsdOpen_ok hopen with ⟨a, fd, rfl, _, _, rfl⟩
  let w := World.start (Statsd.fresh a fd useTcp sampling prefixLabel suffixLabel)
  have htidy : w.Tidy := tidy_start _ rfl rfl
  have haddr : w.statsd.addr ≠ none := by simp [w, World.start, Statsd.fresh]
  have hpending : w.statsd.metricsBuf ≠ none ↔ false = true := by simp [w, World.start, Statsd.fresh]
  have htcp : w.statsd.useTcp = useTcp := rfl
  rcases sends_full_run hclosing htidy haddr htcp hpending htaken hquiet with ⟨sent, hsent, hfed⟩
  rw [← hfed]
  -- before the first call nothing has been sent
  have hall : (statsdStatsdClose closing.send (runCalls cs w)).sends = sent := hsent
  rw [hall]

/-- A packet that is flushed, and one that is left to the close. -/
theorem sends_nonempty_flushed :
    let w := statsdStatsdClose (Attempts.done .sent).send
      (runCalls
        [.write (CString.lit "a:1|c") 5 0 (.done .sent) (.done .sent),
          .flush (.eintr [] (.done .sent)),
          .write (CString.lit "b:2|c") 5 0 (.done .sent) (.done .sent)]
        (World.start (loopback false)))
    w.sends.length = 3 ∧ ∀ s ∈ w.sends, s.Nonempty := by
  have hclosing : (Attempts.done .sent).Quiet := rfl
  refine ⟨by decide +kernel, ?_⟩
  refine (sends_nonempty_iff (statsdStatsdOpen_loopback false) ?_ ?_ hclosing).2 ?_
  · simp [Call.Taken]
  · simp [Call.attempts, Attempts.Quiet, Attempts.handled]
  · have hbuffered : ∀ metric metricLen overflow now,
        (Call.write metric metricLen 0 overflow now).buffers false = true := fun _ _ _ _ => rfl
    exact ⟨hbuffered _ _ _ _, hbuffered _ _ _ _⟩

/-- Closing a client that has been flushed, as a HOST command does, sends an empty datagram. -/
theorem close_sends_empty :
    (statsdStatsdClose (Attempts.done .sent).send
      (runCalls
        [.write (CString.lit "a:1|c") 5 0 (.done .sent) (.done .sent), .flush (.done .sent)]
        (World.start (loopback false)))).sends.map (fun s => (s.buf.isSome, s.len)) =
      [(true, 5), (false, 0)] := by
  decide +kernel

end ModStatsd
