import ModStatsd.Client.Refinement

/-!
# Pools — a client that is called during its own calls

A signal handler that runs while a packet is sent may call the client again, and so may handlers that
run during that.  `World.Stable` is the rule for what survives all of this: an invariant has to be kept
by each thing that is done to the fields, and the induction over the nested calls is done once
(`World.Stable.runCalls`).

* `pools_kept` — no sub-pool is destroyed twice, and what is pending is in memory that is allocated;
* `datagrams_within_limit` — no datagram is larger than the max packet size.
-/

namespace ModStatsd

/-! ## The lengths that are written -/

mutual

/-- Handlers write metrics of these lengths only. -/
def Attempts.Writes (L : Nat → Prop) : Attempts → Prop
  | .done _ => True
  | .eintr handled retry => callsWrite L handled ∧ retry.Writes L

def callsWrite (L : Nat → Prop) : List Call → Prop
  | [] => True
  | c :: cs => c.Writes L ∧ callsWrite L cs

def Call.Writes (L : Nat → Prop) : Call → Prop
  | .write _ metricLen _ overflow now => L metricLen ∧ overflow.Writes L ∧ now.Writes L
  | .flush send => send.Writes L

end

mutual

theorem Attempts.writes_any (o : Attempts) : o.Writes fun _ => True := by
  cases o with
  | done c => exact trivial
  | eintr handled retry => exact ⟨callsWrite_any handled, retry.writes_any⟩

theorem callsWrite_any (cs : List Call) : callsWrite (fun _ => True) cs := by
  cases cs with
  | nil => exact trivial
  | cons c cs => exact ⟨c.writes_any, callsWrite_any cs⟩

theorem Call.writes_any (c : Call) : c.Writes fun _ => True := by
  cases c with
  | write metric metricLen flags overflow now => exact ⟨trivial, overflow.writes_any, now.writes_any⟩
  | flush send => exact send.writes_any

end

/-! ## Invariants under handlers -/

/-- `P` fixes the transport, and each step of the client's functions keeps it when metrics have the
lengths `L`; a buffer that is sent has the length `M`. -/
structure World.Stable (useTcp : Bool) (L M : Nat → Prop) (P : World → Prop) : Prop where
  transport : ∀ {w : World}, P w → w.statsd.useTcp = useTcp
  pending : ∀ {w : World}, P w → M w.statsd.metricsBuflen
  sendto : ∀ {w : World} (buf : Option Buf) {len : Nat} (r : SendResult), M len → P w →
    P (w.sendto buf len r)
  clear : ∀ {w : World}, P w → P (clearMetrics w)
  accept : ∀ {w : World} (metric : CString), P w → P (w.accept metric)
  tcp : useTcp = true → ∀ {w : World} (metric : CString) {metricLen : Nat}, L metricLen → P w →
    P (bufferTcp metric metricLen w)
  -- there is room, or nothing is pending
  udp : useTcp = false → ∀ {w : World} (metric : CString) {metricLen : Nat}, L metricLen →
    ¬ overflows w metricLen → P w → P (bufferUdp metric metricLen w)

def Send.Keeps (M : Nat → Prop) (P : World → Prop) (send : Send) : Prop :=
  ∀ buf len w, M len → P w → P (send buf len w)

section Stable

variable {useTcp : Bool} {L M : Nat → Prop} {P : World → Prop}

theorem Send.Keeps.sendMetrics {loop : Send} (h : loop.Keeps M P) :
    (sendMetrics loop).Keeps M P := by
  intro buf len w hlen hw
  cases haddr : w.statsd.addr with
  | none => simpa [ModStatsd.sendMetrics, haddr] using hw
  | some a => simpa [ModStatsd.sendMetrics, haddr] using h buf len w hlen hw

namespace World.Stable

theorem sendAndClear (hP : Stable useTcp L M P) {send : Send} (hsend : send.Keeps M P) {w : World}
    (hw : P w) : P (sendAndClear send w) :=
  hP.clear (hsend _ _ w (hP.pending hw) hw)

theorem bufferMetric (hP : Stable useTcp L M P) {overflow : Send} (ho : overflow.Keeps M P)
    (metric : CString) {metricLen : Nat} (hlen : L metricLen) {w : World} (hw : P w) :
    P (bufferMetric overflow metric metricLen w) := by
  cases htcp : useTcp with
  | true =>
      have hstep := hP.tcp htcp metric hlen hw
      simpa [ModStatsd.bufferMetric, hP.transport hw, htcp] using hstep
  | false =>
      have hroom : P (flushOverflow overflow metricLen w) ∧
          ¬ overflows (flushOverflow overflow metricLen w) metricLen := by
        by_cases hov : overflows w metricLen
        · -- whatever handlers did during the send, nothing is pending after it
          have hcleared := hP.sendAndClear ho hw
          have hempty : ¬ overflows (ModStatsd.sendAndClear overflow w) metricLen := by
            simp [overflows, ModStatsd.sendAndClear, clearMetrics]
          simpa [flushOverflow, hov] using ⟨hcleared, hempty⟩
        · simpa [flushOverflow, hov] using hw
      have hstep := hP.udp htcp metric hlen hroom.2 hroom.1
      simpa [ModStatsd.bufferMetric, hP.transport hw, htcp] using hstep

theorem write (hP : Stable useTcp L M P) {overflow now : Send} (ho : overflow.Keeps M P)
    (hn : now.Keeps M P) (metric : CString) {metricLen : Nat} (hlen : L metricLen) (flags : Flags)
    {w : World} (hw : P w) : P (writeMetricBuf overflow now metric metricLen flags w) := by
  have hbuffered := hP.bufferMetric ho metric hlen (hP.accept (metric.pstrndup metricLen) hw)
  cases hnow : sendsNow w.statsd.useTcp flags with
  | false => simpa [writeMetricBuf, hnow] using hbuffered
  | true => simpa [writeMetricBuf, hnow] using hP.sendAndClear hn hbuffered

-- the induction is on the calls that handlers make during calls

mutual

theorem sendLoop (hP : Stable useTcp L M P) :
    ∀ o : Attempts, o.Writes L → (sendLoop o).Keeps M P
  | .done c, _, buf, _, _, hlen, hw => hP.sendto buf (.completed c) hlen hw
  | .eintr handled retry, h, buf, len, w, hlen, hw => by
      have hhandled := runCalls hP handled h.1 _ (hP.sendto buf .eintr hlen hw)
      rw [ModStatsd.sendLoop]
      exact sendLoop hP retry h.2 buf len _ hlen hhandled

/-- The run lemma: an invariant survives any calls, and any handlers in them. -/
theorem runCalls (hP : Stable useTcp L M P) :
    ∀ (cs : List Call), callsWrite L cs → ∀ w : World, P w → P (runCalls cs w)
  | [], _, w, hw => hw
  | c :: cs, h, w, hw => by
      rw [ModStatsd.runCalls]
      exact runCalls hP cs h.2 _ (run hP c h.1 w hw)

theorem run (hP : Stable useTcp L M P) :
    ∀ (c : Call), c.Writes L → ∀ w : World, P w → P (c.run w)
  | .write metric metricLen flags overflow now, h, w, hw => by
      by_cases h0 : metricLen = 0
      · simpa [Call.run, statsdStatsdWrite, h0] using hw
      · rw [Call.run_write h0]
        exact write hP (Send.Keeps.sendMetrics (sendLoop hP overflow h.2.1))
          (Send.Keeps.sendMetrics (sendLoop hP now h.2.2)) metric h.1 flags hw
  | .flush send, h, w, hw => by
      rw [Call.run_flush]
      exact hP.sendAndClear (Send.Keeps.sendMetrics (sendLoop hP send h)) hw

end

end World.Stable

end Stable

/-! ## Sub-pools -/

/-- Where the pending buffer is, and which sub-pools there are. -/
structure World.PoolsKept (useTcp : Bool) (w : World) : Prop where
  transport : w.statsd.useTcp = useTcp
  opened : w.closed = false
  once : w.destroyed.Nodup
  made : ∀ k ∈ w.destroyed, k < w.nextPool
  -- the current sub-pool is not one of those that were destroyed
  current : ∀ k, w.statsd.metricsPool = some k → k < w.nextPool ∧ k ∉ w.destroyed
  tcp : useTcp = true → ∀ buf, w.statsd.metricsBuf = some buf → buf.pool = .client
  udp : useTcp = false → ∀ buf, w.statsd.metricsBuf = some buf →
    ∃ k, w.statsd.metricsPool = some k ∧ buf.pool = .metrics k
  paired : useTcp = false → w.statsd.metricsBuf = none → w.statsd.metricsPool = none
  kept : useTcp = false → ∀ k < w.nextPool, k ∈ w.destroyed ∨ w.statsd.metricsPool = some k

namespace World.PoolsKept

variable {useTcp : Bool} {w : World}

theorem clear (h : w.PoolsKept useTcp) : (clearMetrics w).PoolsKept useTcp := by
  refine ⟨h.transport, h.opened, ?_, ?_, ?_, ?_, ?_, fun _ _ => rfl, ?_⟩
  · cases hpool : w.statsd.metricsPool with
    | none => simpa [clearMetrics, hpool] using h.once
    | some k => simpa [clearMetrics, hpool] using ⟨(h.current k hpool).2, h.once⟩
  · intro k hk
    rcases List.mem_append.1 hk with hcurrent | hold
    · exact (h.current k (Option.mem_toList.1 hcurrent)).1
    · exact h.made k hold
  · simp [clearMetrics]
  · simp [clearMetrics]
  · simp [clearMetrics]
  · intro hudp k hk
    refine Or.inl (List.mem_append.2 ?_)
    rcases h.kept hudp k hk with hdestroyed | hcurrent
    · exact Or.inr hdestroyed
    · exact Or.inl (Option.mem_toList.2 hcurrent)

theorem bufferTcp (htcp : useTcp = true) (metric : CString) (metricLen : Nat)
    (h : w.PoolsKept useTcp) : (bufferTcp metric metricLen w).PoolsKept useTcp := by
  have hudp : useTcp ≠ false := by simp [htcp]
  refine ⟨h.transport, h.opened, h.once, ?_, ?_, ?_, fun hf => absurd hf hudp,
    fun hf => absurd hf hudp, fun hf => absurd hf hudp⟩
  · exact fun k hk => Nat.lt_succ_of_lt (h.made k hk)
  · intro k hk
    have hnew : w.nextPool = k := by
      simpa [ModStatsd.bufferTcp, World.setBuf, World.makeMetricsPool] using hk
    subst hnew
    exact ⟨Nat.lt_succ_self _, fun hmem => absurd (h.made _ hmem) (Nat.lt_irrefl _)⟩
  · intro _ buf hbuf
    rw [← Option.some.inj hbuf]

theorem bufferUdp (hudp : useTcp = false) (metric : CString) (metricLen : Nat)
    (h : w.PoolsKept useTcp) : (bufferUdp metric metricLen w).PoolsKept useTcp := by
  have htcp : useTcp ≠ true := by simp [hudp]
  cases hbuf : w.statsd.metricsBuf with
  | some buf =>
      rcases h.udp hudp buf hbuf with ⟨k, hk, _⟩
      have hsame : ModStatsd.bufferUdp metric metricLen w =
          w.setBuf (some { text := (buf.text.pstrcat newline).pstrcat metric, pool := .metrics k })
            (w.statsd.metricsBuflen + (metricLen + 1)) := by
        simp [ModStatsd.bufferUdp, hbuf, hk]
      rw [hsame]
      refine ⟨h.transport, h.opened, h.once, h.made, h.current, fun hf => absurd hf htcp, ?_, ?_,
        h.kept⟩
      · intro _ buf' hbuf'
        rw [← Option.some.inj hbuf']
        exact ⟨k, hk, rfl⟩
      · intro _ hnone
        exact absurd hnone (Option.some_ne_none _)
  | none =>
      have hnone : w.statsd.metricsPool = none := h.paired hudp hbuf
      have hsame : ModStatsd.bufferUdp metric metricLen w =
          w.makeMetricsPool.setBuf
            (some { text := metric.pstrndup metricLen, pool := .metrics w.nextPool }) metricLen := by
        simp [ModStatsd.bufferUdp, hbuf]
      rw [hsame]
      refine ⟨h.transport, h.opened, h.once, ?_, ?_, fun hf => absurd hf htcp, ?_, ?_, ?_⟩
      · exact fun k hk => Nat.lt_succ_of_lt (h.made k hk)
      · intro k hk
        have hnew : w.nextPool = k := Option.some.inj hk
        subst hnew
        exact ⟨Nat.lt_succ_self _, fun hmem => absurd (h.made _ hmem) (Nat.lt_irrefl _)⟩
      · intro _ buf' hbuf'
        rw [← Option.some.inj hbuf']
        exact ⟨w.nextPool, rfl, rfl⟩
      · intro _ hmissing
        exact absurd hmissing (Option.some_ne_none _)
      · intro _ k hk
        rcases Nat.lt_succ_iff_lt_or_eq.1 hk with hold | rfl
        · rcases h.kept hudp k hold with hdestroyed | hcurrent
          · exact Or.inl hdestroyed
          · exact absurd (hnone.symm.trans hcurrent) (Option.some_ne_none k).symm
        · exact Or.inr rfl

theorem stable (useTcp : Bool) :
    World.Stable useTcp (fun _ => True) (fun _ => True) (World.PoolsKept useTcp) :=
  { transport := fun h => h.transport
    pending := fun _ => trivial
    sendto := fun _ _ _ _ h => { h with }
    clear := clear
    accept := fun _ h => { h with }
    tcp := fun htcp _ metric metricLen _ h => h.bufferTcp htcp metric metricLen
    udp := fun hudp _ metric metricLen _ _ h => h.bufferUdp hudp metric metricLen }

/-- The pending buffer is in memory that is still allocated. -/
theorem live (h : w.PoolsKept useTcp) {buf : Buf} (hbuf : w.statsd.metricsBuf = some buf) :
    w.live buf = true := by
  cases htcp : useTcp with
  | true => simp [World.live, h.tcp htcp buf hbuf, h.opened]
  | false =>
      rcases h.udp htcp buf hbuf with ⟨k, hk, hpool⟩
      simp [World.live, hpool, (h.current k hk).2]

end World.PoolsKept

/-- However calls and the handlers in them are nested, each sub-pool is destroyed at most once, what is
pending is in memory that is still allocated, and on UDP each sub-pool is destroyed or in use. -/
theorem pools_kept {env : SocketEnv} {addr : Option NetAddr} {useTcp : Bool} {sampling : ℚ}
    {prefixLabel suffixLabel : Option CString} {statsd : Statsd}
    (hopen : statsdStatsdOpen env addr useTcp sampling prefixLabel suffixLabel = .ok statsd)
    (cs : List Call) :
    let w := runCalls cs (World.start statsd)
    w.destroyed.Nodup ∧ (∀ buf, w.statsd.metricsBuf = some buf → w.live buf = true) ∧
      (useTcp = false → ∀ k < w.nextPool, k ∈ w.destroyed ∨ w.statsd.metricsPool = some k) := by
  rcases statsdStatsdOpen_ok hopen with ⟨a, fd, _, _, _, rfl⟩
  have hstart : (World.start (Statsd.fresh a fd useTcp sampling prefixLabel suffixLabel)).PoolsKept
      useTcp := by
    constructor <;> simp [World.start, Statsd.fresh]
  have hkept := (World.PoolsKept.stable useTcp).runCalls cs (callsWrite_any cs) _ hstart
  exact ⟨hkept.once, fun buf hbuf => hkept.live hbuf, hkept.kept⟩

/-- While a metric is sent, a handler flushes the client and writes another one. -/
theorem pools_kept_nested :
    let metric := CString.lit "a:1|c"
    let w := runCalls
      [.write metric 5 0 (.done .sent) (.done .sent),
        .write metric 5 flSendNow (.done .sent)
          (.eintr [.flush (.done .sent), .write metric 5 0 (.done .sent) (.done .sent)] (.done .sent))]
      (World.start (loopback false))
    w.destroyed.Nodup ∧ (∀ buf, w.statsd.metricsBuf = some buf → w.live buf = true) ∧
      ∀ k < w.nextPool, k ∈ w.destroyed ∨ w.statsd.metricsPool = some k := by
  intro metric w
  have hkept := pools_kept (statsdStatsdOpen_loopback false)
    [.write metric 5 0 (.done .sent) (.done .sent),
      .write metric 5 flSendNow (.done .sent)
        (.eintr [.flush (.done .sent), .write metric 5 0 (.done .sent) (.done .sent)] (.done .sent))]
  exact ⟨hkept.1, hkept.2.1, hkept.2.2 rfl⟩

/-! ## Sizes of datagrams -/

/-- What is pending, and whatever was sent, is no larger than a packet may be. -/
structure World.Within (w : World) : Prop where
  transport : w.statsd.useTcp = false
  pending : w.statsd.metricsBuflen ≤ statsdMaxUdpPacketSize
  sent : ∀ s ∈ w.sends, s.len ≤ statsdMaxUdpPacketSize

theorem within_stable :
    World.Stable false (fun len => len ≤ statsdMaxMetricSize)
      (fun len => len ≤ statsdMaxUdpPacketSize) World.Within := by
  refine ⟨fun h => h.transport, fun h => h.pending, ?_, ?_, fun _ h => { h with }, nofun, ?_⟩
  · intro w buf len r hlen h
    refine ⟨h.transport, h.pending, ?_⟩
    intro s hs
    rcases List.mem_append.1 hs with hold | hnew
    · exact h.sent s hold
    · rw [List.mem_singleton.1 hnew]
      exact hlen
  · exact fun h => ⟨h.transport, Nat.zero_le _, h.sent⟩
  · intro _ w metric metricLen hlen hroom h
    cases hbuf : w.statsd.metricsBuf with
    | none =>
        have hsame : bufferUdp metric metricLen w =
            w.makeMetricsPool.setBuf
              (some { text := metric.pstrndup metricLen, pool := .metrics w.nextPool }) metricLen := by
          simp [bufferUdp, hbuf]
        rw [hsame]
        exact ⟨h.transport, hlen, h.sent⟩
    | some buf =>
        have hfits : w.statsd.metricsBuflen + (metricLen + 1) ≤ statsdMaxUdpPacketSize := by
          simp only [overflows, hbuf, Option.isSome_some, true_and] at hroom
          omega
        have hlen' : (bufferUdp metric metricLen w).statsd.metricsBuflen =
            w.statsd.metricsBuflen + (metricLen + 1) := by
          simp [bufferUdp, hbuf, World.setBuf]
        have hkept : (bufferUdp metric metricLen w).statsd.useTcp = w.statsd.useTcp := by
          simp [bufferUdp, hbuf, World.setBuf]
        exact ⟨hkept.trans h.transport, hlen' ▸ hfits, sends_bufferUdp metric metricLen w ▸ h.sent⟩

/-- If no metric is larger than a packet may be, no datagram is, whatever handlers write while another
one is sent. -/
theorem datagrams_within_limit {env : SocketEnv} {addr : Option NetAddr} {sampling : ℚ}
    {prefixLabel suffixLabel : Option CString} {statsd : Statsd}
    (hopen : statsdStatsdOpen env addr false sampling prefixLabel suffixLabel = .ok statsd)
    {cs : List Call} (hcs : callsWrite (fun len => len ≤ statsdMaxMetricSize) cs) :
    ∀ s ∈ (runCalls cs (World.start statsd)).sends, s.len ≤ statsdMaxUdpPacketSize := by
  rcases statsdStatsdOpen_ok hopen with ⟨a, fd, _, _, _, rfl⟩
  have hstart : (World.start (Statsd.fresh a fd false sampling prefixLabel suffixLabel)).Within := by
    constructor <;> simp [World.start, Statsd.fresh]
  exact (within_stable.runCalls cs hcs _ hstart).sent

/-- A metric that fills a packet, written while another one is sent. -/
theorem datagrams_within_limit_nested :
    let sends := (runCalls
      [.write (CString.lit "a:1|c") 5 flSendNow (.done .sent)
        (.eintr [.write (CString.lit "b:1|c") 512 0 (.done .sent) (.done .sent)] (.done .sent))]
      (World.start (loopback false))).sends
    sends.length = 3 ∧ ∀ s ∈ sends, s.len ≤ statsdMaxUdpPacketSize := by
  refine ⟨rfl, datagrams_within_limit (statsdStatsdOpen_loopback false) ?_⟩
  simp [callsWrite, Call.Writes, Attempts.Writes, statsdMaxMetricSize, statsdMaxUdpPacketSize]

end ModStatsd
