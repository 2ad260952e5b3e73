import ModStatsd.Client.Pending

/-!
# Prefixes — which bytes of its argument does a write take?

`statsd_statsd_write` is given a text and a `metric_len`.  The first metric of a packet, one that
starts a new packet and one on TCP are copied up to `metric_len`; one that is appended to a packet
is copied up to its terminator, while `metrics_buflen` grows by `metric_len`.  So a run is that of
copies cut to `metric_len` just if the appended metrics that stay pending are not cut:
`outputs_agree_iff`.
-/

namespace ModStatsd

open Lib

/-! ## What is seen of a client -/

/-- The bytes of every buffer sent, and the pending buffer. -/
structure Output where
  sent : List (List Cell)
  pending : Option CString
  pendingLen : Nat
  deriving DecidableEq

def World.output (w : World) : Output :=
  { sent := w.sends.map Sendto.bytes
    pending := w.statsd.metricsBuf.map Buf.text
    pendingLen := w.statsd.metricsBuflen }

/-- The call with a copy of just the first `metric_len` bytes. -/
def Call.copied : Call → Call
  | .write metric metricLen flags overflow now =>
      .write (metric.pstrndup metricLen) metricLen flags overflow now
  | .flush send => .flush send

/-- `metric_len` is at most what the text has, and a metric may have. -/
def Call.Within : Call → Prop
  | .write metric metricLen _ _ _ =>
      1 ≤ metricLen ∧ metricLen ≤ min metric.strlen statsdMaxMetricSize
  | .flush _ => True

theorem Call.Within.taken {c : Call} (h : c.Within) : c.Taken := by
  cases c with
  | write metric metricLen flags overflow now => exact Nat.one_le_iff_ne_zero.1 h.1
  | flush send => trivial

/-! ## Clients that look the same -/

/-- The worlds differ at most in the buffers given to `sendto`, which show the same bytes. -/
def World.Agrees (w w' : World) : Prop :=
  ∃ s, w' = { w with sends := s } ∧ s.map Sendto.bytes = w.sends.map Sendto.bytes

theorem World.Agrees.refl (w : World) : w.Agrees w :=
  ⟨w.sends, rfl, rfl⟩

theorem World.Agrees.trans {w w' w'' : World} (h : w.Agrees w') (h' : w'.Agrees w'') :
    w.Agrees w'' := by
  rcases h with ⟨s, rfl, hs⟩
  rcases h' with ⟨s', rfl, hs'⟩
  exact ⟨s', rfl, hs'.trans hs⟩

theorem World.Agrees.output {w w' : World} (h : w.Agrees w') : w'.output = w.output := by
  rcases h with ⟨s, rfl, hs⟩
  simp [World.output, hs]

theorem Attempts.map_bytes_calls {buf buf' : Option Buf} {len len' : Nat} {w w' : World}
    (h : ∀ r, (w.call buf len r).bytes = (w'.call buf' len' r).bytes) :
    ∀ o : Attempts, (o.calls buf len w).map Sendto.bytes = (o.calls buf' len' w').map Sendto.bytes
  | .done c => by simp [Attempts.calls, h]
  | .eintr _ retry => by
      have ih := Attempts.map_bytes_calls h retry
      simp [Attempts.calls, h, ih]

theorem sendAndClear_of_quiet {w : World} (haddr : w.statsd.addr ≠ none) {o : Attempts}
    (ho : o.Quiet) :
    sendAndClear o.send w =
      { clearMetrics w with
        sends := w.sends ++ o.calls w.statsd.metricsBuf w.statsd.metricsBuflen w } := by
  rw [sendAndClear, Attempts.send_of_quiet haddr ho]
  rfl

/-- Pending buffers that differ only behind the bytes that are sent look the same once they are. -/
theorem agrees_sendAndClear {w w' : World} (haddr : w.statsd.addr ≠ none)
    (haddr' : w'.statsd.addr ≠ none) {o : Attempts} (ho : o.Quiet)
    (h : (clearMetrics w).Agrees (clearMetrics w'))
    (hbytes : ∀ r, (w.call w.statsd.metricsBuf w.statsd.metricsBuflen r).bytes =
      (w'.call w'.statsd.metricsBuf w'.statsd.metricsBuflen r).bytes) :
    (sendAndClear o.send w).Agrees (sendAndClear o.send w') := by
  rcases h with ⟨s, hclear, hs⟩
  have hsends : w'.sends = s := congrArg World.sends hclear
  rw [sendAndClear_of_quiet haddr ho, sendAndClear_of_quiet haddr' ho, hclear]
  refine ⟨_, rfl, ?_⟩
  rw [List.map_append, List.map_append, hsends, hs, Attempts.map_bytes_calls hbytes]
  rfl

section Congruence

variable {w w' : World} (h : w.Agrees w') (haddr : w.statsd.addr ≠ none)
include h haddr

theorem World.Agrees.sendAndClear {o : Attempts} (ho : o.Quiet) :
    (sendAndClear o.send w).Agrees (sendAndClear o.send w') := by
  rcases h with ⟨s, rfl, hs⟩
  have haddr' : ({ w with sends := s } : World).statsd.addr ≠ none := haddr
  exact agrees_sendAndClear haddr haddr' ho ⟨s, rfl, hs⟩ (fun _ => rfl)

theorem World.Agrees.flushOverflow {o : Attempts} (ho : o.Quiet) (metricLen : Nat) :
    (flushOverflow o.send metricLen w).Agrees (flushOverflow o.send metricLen w') := by
  have hiff : overflows w' metricLen ↔ overflows w metricLen := by
    rcases h with ⟨s, rfl, _⟩
    exact Iff.rfl
  by_cases hov : overflows w metricLen
  · simpa [ModStatsd.flushOverflow, hov, hiff] using h.sendAndClear haddr ho
  · simpa [ModStatsd.flushOverflow, hov, hiff] using h

omit haddr in
theorem World.Agrees.bufferUdp (metric : CString) (metricLen : Nat) :
    (bufferUdp metric metricLen w).Agrees (bufferUdp metric metricLen w') := by
  rcases h with ⟨s, rfl, hs⟩
  cases hbuf : w.statsd.metricsBuf with
  | none =>
      refine ⟨s, ?_, ?_⟩
      · simp [ModStatsd.bufferUdp, hbuf, World.setBuf, World.makeMetricsPool]
      · rw [sends_bufferUdp]
        exact hs
  | some buf =>
      refine ⟨s, ?_, ?_⟩
      · simp [ModStatsd.bufferUdp, hbuf, World.setBuf]
      · rw [sends_bufferUdp]
        exact hs

theorem World.Agrees.bufferMetric {o : Attempts} (ho : o.Quiet) (metric : CString)
    (metricLen : Nat) :
    (bufferMetric o.send metric metricLen w).Agrees (bufferMetric o.send metric metricLen w') := by
  have htcp' : w'.statsd.useTcp = w.statsd.useTcp := by
    rcases h with ⟨s, rfl, _⟩
    rfl
  cases htcp : w.statsd.useTcp with
  | true =>
      rcases h with ⟨s, rfl, hs⟩
      refine ⟨s, ?_, ?_⟩
      · simp [ModStatsd.bufferMetric, htcp, bufferTcp, World.setBuf, World.makeMetricsPool]
      · simpa [ModStatsd.bufferMetric, htcp, bufferTcp, World.setBuf, World.makeMetricsPool] using hs
  | false =>
      simpa [ModStatsd.bufferMetric, htcp', htcp] using
        (h.flushOverflow haddr ho metricLen).bufferUdp metric metricLen

/-- The same call from worlds that look the same. -/
theorem World.Agrees.run {c : Call} (hc : c.Taken) (hquiet : ∀ o ∈ c.attempts, o.Quiet) :
    (c.run w).Agrees (c.run w') := by
  cases c with
  | write metric metricLen flags overflow now =>
      have ho : overflow.Quiet := hquiet overflow (by simp [Call.attempts])
      have hn : now.Quiet := hquiet now (by simp [Call.attempts])
      have htcp : w'.statsd.useTcp = w.statsd.useTcp := by
        rcases h with ⟨s, rfl, _⟩
        rfl
      have haccept : (w.accept (metric.pstrndup metricLen)).Agrees
          (w'.accept (metric.pstrndup metricLen)) := by
        rcases h with ⟨s, rfl, hs⟩
        exact ⟨s, rfl, hs⟩
      have hbuf := haccept.bufferMetric haddr ho metric metricLen
      rw [Call.run_write hc, Call.run_write hc]
      cases hnow : sendsNow w.statsd.useTcp flags with
      | false => simpa [writeMetricBuf, htcp, hnow] using hbuf
      | true =>
          have hsent := hbuf.sendAndClear (by simpa using haddr) hn
          simpa [writeMetricBuf, htcp, hnow] using hsent
  | flush send =>
      rw [Call.run_flush, Call.run_flush]
      exact h.sendAndClear haddr (hquiet send (by simp [Call.attempts]))

end Congruence

/-! ## The four ways to copy a metric -/

theorem CString.pstrndup_pstrndup (s : CString) (n : Nat) :
    (s.pstrndup n).pstrndup n = s.pstrndup n := by
  apply CString.ext
  simp

/-- Of a text that follows another, only as much is read as the length says. -/
theorem CString.read_pstrcat_pstrndup (s t : CString) {n : Nat} (h : n ≤ t.strlen) :
    (s.pstrcat (t.pstrndup n)).read (s.strlen + n) = (s.pstrcat t).read (s.strlen + n) := by
  have hcut : s.strlen + n ≤ (s.pstrcat (t.pstrndup n)).strlen := by
    simp [CString.strlen_pstrndup, h]
  have hall : s.strlen + n ≤ (s.pstrcat t).strlen := by simp [h]
  have hlen : s.strlen = s.cells.length := (CString.length_cells s).symm
  rw [CString.read_of_le hcut, CString.read_of_le hall, CString.cells_pstrcat,
    CString.cells_pstrcat, hlen, List.take_length_add_append, List.take_length_add_append]
  simp [CString.cells]

/-- The length of the pending text is the one that is kept beside it. -/
def World.Snug (w : World) : Prop :=
  ∀ buf, w.statsd.metricsBuf = some buf → buf.text.strlen = w.statsd.metricsBuflen

theorem World.snug_of_idle {w : World} (h : w.Idle) : w.Snug := by
  intro buf hbuf
  simp [h.ptr] at hbuf

/-- The write is appended to a packet that stays pending. -/
def Call.Appends (w : World) : Call → Prop
  | .write _ metricLen flags _ _ =>
      w.statsd.useTcp = false ∧ w.statsd.metricsBuf ≠ none ∧ ¬ overflows w metricLen ∧
        sendsNow w.statsd.useTcp flags = false
  | .flush _ => False

/-- `metric_len` is all of the text. -/
def Call.Whole : Call → Prop
  | .write metric metricLen _ _ _ => metricLen = metric.strlen
  | .flush _ => True

section Copies

variable {w : World} {overflow : Attempts} {metric : CString} {metricLen : Nat}

/-- Where there is nothing to append to, the metric starts a packet. -/
theorem bufferMetric_first (hudp : w.statsd.useTcp = false)
    (h : w.statsd.metricsBuf ≠ none → overflows w metricLen) :
    bufferMetric overflow.send metric metricLen w =
      (flushOverflow overflow.send metricLen w).makeMetricsPool.setBuf
        (some { text := metric.pstrndup metricLen,
                pool := .metrics (flushOverflow overflow.send metricLen w).nextPool })
        metricLen := by
  have hnone : (flushOverflow overflow.send metricLen w).statsd.metricsBuf = none := by
    by_cases hov : overflows w metricLen
    · simpa [flushOverflow, hov] using (idle_sendAndClear overflow.send w).ptr
    · have hbuf : w.statsd.metricsBuf = none := by
        by_contra hne
        exact hov (h hne)
      simpa [flushOverflow, hov] using hbuf
  simp [bufferMetric, hudp, bufferUdp, hnone]

/-- Unless it is appended, a metric is copied up to `metric_len`. -/
theorem bufferMetric_pstrndup
    (h : w.statsd.useTcp = false → w.statsd.metricsBuf ≠ none → overflows w metricLen) :
    bufferMetric overflow.send (metric.pstrndup metricLen) metricLen w =
      bufferMetric overflow.send metric metricLen w := by
  cases htcp : w.statsd.useTcp with
  | true => simp [bufferMetric, htcp, bufferTcp, CString.pstrndup_pstrndup]
  | false =>
      rw [bufferMetric_first htcp (h htcp), bufferMetric_first htcp (h htcp),
        CString.pstrndup_pstrndup]

theorem bufferMetric_append {buf : Buf} {k : Nat} (hudp : w.statsd.useTcp = false)
    (hbuf : w.statsd.metricsBuf = some buf) (hpool : w.statsd.metricsPool = some k)
    (hov : ¬ overflows w metricLen) :
    bufferMetric overflow.send metric metricLen w =
      w.setBuf (some { text := (buf.text.pstrcat newline).pstrcat metric, pool := .metrics k })
        (w.statsd.metricsBuflen + (metricLen + 1)) := by
  simp [bufferMetric, hudp, flushOverflow, hov, bufferUdp, hbuf, hpool]

/-- A metric that is appended and sent at once goes out as far as `metric_len` says. -/
theorem agrees_append_send {buf : Buf} {k : Nat} {now : Attempts} (hsnug : w.Snug)
    (hbuf : w.statsd.metricsBuf = some buf) (haddr : w.statsd.addr ≠ none) (hn : now.Quiet)
    (hlen : metricLen ≤ metric.strlen) :
    (sendAndClear now.send
      (w.setBuf (some { text := (buf.text.pstrcat newline).pstrcat metric, pool := .metrics k })
        (w.statsd.metricsBuflen + (metricLen + 1)))).Agrees
    (sendAndClear now.send
      (w.setBuf (some { text := (buf.text.pstrcat newline).pstrcat (metric.pstrndup metricLen),
                        pool := .metrics k })
        (w.statsd.metricsBuflen + (metricLen + 1)))) := by
  have hlength : w.statsd.metricsBuflen + (metricLen + 1) =
      (buf.text.pstrcat newline).strlen + metricLen := by
    rw [← hsnug buf hbuf, CString.strlen_pstrcat]
    have hone : newline.strlen = 1 := rfl
    omega
  have hread := CString.read_pstrcat_pstrndup (buf.text.pstrcat newline) metric hlen
  refine agrees_sendAndClear (by exact haddr) (by exact haddr) hn ⟨w.sends, rfl, rfl⟩ ?_
  -- the two buffers are in the same pool, so both are read or neither is
  intro r
  simp only [World.call, Sendto.bytes, World.setBuf, World.live, Option.map_some, Option.getD_some,
    hlength, hread]

end Copies

/-! ## One call and its copy -/

theorem Call.run_copied {metric : CString} {metricLen : Nat} (h : metricLen ≠ 0) (flags : Flags)
    (overflow now : Attempts) (w : World) :
    (Call.write metric metricLen flags overflow now).copied.run w =
      writeMetricBuf overflow.send now.send (metric.pstrndup metricLen) metricLen flags w :=
  Call.run_write h flags overflow now w

section Step

variable {w : World} {c : Call} (htidy : w.Tidy) (hsnug : w.Snug)

include htidy in
/-- What there is when a metric can be appended. -/
theorem World.Tidy.exists_pending (hbuf : w.statsd.metricsBuf ≠ none) :
    ∃ buf k, w.statsd.metricsBuf = some buf ∧ w.statsd.metricsPool = some k := by
  rcases Option.ne_none_iff_exists'.1 hbuf with ⟨buf, hsome⟩
  rcases Option.ne_none_iff_exists'.1 (htidy.pool hbuf) with ⟨k, hk⟩
  exact ⟨buf, k, hsome, hk⟩

include htidy hsnug in
theorem agrees_copied (haddr : w.statsd.addr ≠ none) (hc : c.Within)
    (hquiet : ∀ o ∈ c.attempts, o.Quiet) (hwhole : c.Appends w → c.Whole) :
    (c.run w).Agrees (c.copied.run w) := by
  cases c with
  | flush send => exact World.Agrees.refl _
  | write metric metricLen flags overflow now =>
      have hpos : metricLen ≠ 0 := hc.taken
      have hn : now.Quiet := hquiet now (by simp [Call.attempts])
      rw [Call.run_write hpos, Call.run_copied hpos]
      by_cases hadd : w.statsd.useTcp = false ∧ w.statsd.metricsBuf ≠ none ∧
          ¬ overflows w metricLen
      · rcases hadd with ⟨hudp, hbuf, hov⟩
        by_cases hlen : metricLen = metric.strlen
        · rw [hlen, CString.pstrndup_strlen]
          exact World.Agrees.refl _
        · -- it is cut, so it does not stay pending
          have hnow : sendsNow w.statsd.useTcp flags = true := by
            by_contra hlater
            exact hlen (hwhole ⟨hudp, hbuf, hov, by simpa using hlater⟩)
          rcases htidy.exists_pending hbuf with ⟨buf, k, hsome, hpool⟩
          have happend := agrees_append_send (w := w.accept (metric.pstrndup metricLen)) (k := k)
            hsnug hsome haddr hn (hc.2.trans (min_le_left _ _))
          rw [writeMetricBuf, writeMetricBuf, hnow, if_pos rfl, if_pos rfl,
            CString.pstrndup_pstrndup, bufferMetric_append (w := w.accept _) hudp hsome hpool hov,
            bufferMetric_append (w := w.accept _) hudp hsome hpool hov]
          exact happend
      · have hsame : w.statsd.useTcp = false → w.statsd.metricsBuf ≠ none →
            overflows w metricLen := by
          intro hudp hbuf
          by_contra hov
          exact hadd ⟨hudp, hbuf, hov⟩
        have hcopy : bufferMetric overflow.send (metric.pstrndup metricLen) metricLen
            (w.accept (metric.pstrndup metricLen)) =
              bufferMetric overflow.send metric metricLen (w.accept (metric.pstrndup metricLen)) :=
          bufferMetric_pstrndup hsame
        rw [writeMetricBuf, writeMetricBuf, CString.pstrndup_pstrndup, hcopy]
        exact World.Agrees.refl _

include htidy in
theorem output_copied_ne (hc : c.Within) (happends : c.Appends w) (hcut : ¬ c.Whole) :
    (c.run w).output ≠ (c.copied.run w).output := by
  cases c with
  | flush send => exact happends.elim
  | write metric metricLen flags overflow now =>
      have hpos : metricLen ≠ 0 := hc.taken
      rcases happends with ⟨hudp, hbuf, hov, hlater⟩
      rcases htidy.exists_pending hbuf with ⟨buf, k, hsome, hpool⟩
      rw [Call.run_write hpos, Call.run_copied hpos, writeMetricBuf, writeMetricBuf, hlater,
        if_neg (by simp), if_neg (by simp), CString.pstrndup_pstrndup,
        bufferMetric_append (w := w.accept _) hudp hsome hpool hov,
        bufferMetric_append (w := w.accept _) hudp hsome hpool hov]
      intro heq
      -- the texts end at different lengths
      have hlength := congrArg (fun out => out.pending.map CString.strlen) heq
      simp only [World.output, World.setBuf, Option.map_some, CString.strlen_pstrcat,
        CString.strlen_pstrndup, Option.some.injEq] at hlength
      have hle : metricLen ≤ metric.strlen := hc.2.trans (min_le_left _ _)
      have hne : metricLen ≠ metric.strlen := hcut
      rw [min_eq_left hle] at hlength
      omega

include htidy hsnug in
theorem World.Snug.run (hc : c.Within) (hwhole : c.Appends w → c.Whole) : (c.run w).Snug := by
  cases c with
  | flush send =>
      rw [Call.run_flush]
      exact World.snug_of_idle (idle_sendAndClear send.send w)
  | write metric metricLen flags overflow now =>
      have hpos : metricLen ≠ 0 := hc.taken
      have hle : metricLen ≤ metric.strlen := hc.2.trans (min_le_left _ _)
      rw [Call.run_write hpos, writeMetricBuf]
      cases hnow : sendsNow w.statsd.useTcp flags with
      | true => exact World.snug_of_idle (idle_sendAndClear now.send _)
      | false =>
          have hudp : w.statsd.useTcp = false := by
            cases htcp : w.statsd.useTcp with
            | false => rfl
            | true => simp [htcp] at hnow
          rw [if_neg (by simp)]
          by_cases hadd : w.statsd.metricsBuf ≠ none ∧ ¬ overflows w metricLen
          · rcases hadd with ⟨hbuf, hov⟩
            have hall : metricLen = metric.strlen := hwhole ⟨hudp, hbuf, hov, hnow⟩
            rcases htidy.exists_pending hbuf with ⟨buf, k, hsome, hpool⟩
            have hlen := hsnug buf hsome
            rw [bufferMetric_append (w := w.accept _) hudp hsome hpool hov]
            intro buf' hbuf'
            have htext : buf'.text = (buf.text.pstrcat newline).pstrcat metric := by
              rw [← Option.some.inj hbuf']
            have hone : newline.strlen = 1 := rfl
            rw [htext, CString.strlen_pstrcat, CString.strlen_pstrcat, hlen, hone, ← hall]
            exact Nat.add_right_comm _ _ _
          · have hfirst : w.statsd.metricsBuf ≠ none → overflows w metricLen := by
              intro hbuf
              by_contra hov
              exact hadd ⟨hbuf, hov⟩
            rw [bufferMetric_first (w := w.accept _) hudp hfirst]
            intro buf' hbuf'
            have htext : buf'.text = metric.pstrndup metricLen := by
              rw [← Option.some.inj hbuf']
            rw [htext, CString.strlen_pstrndup, min_eq_left hle]
            rfl

end Step

/-! ## Whole runs -/

/-- Every write of the run that is appended to a packet which stays pending is given the length of
its text. -/
def AppendsWhole : List Call → World → Prop
  | [], _ => True
  | c :: cs, w => (c.Appends w → c.Whole) ∧ AppendsWhole cs (c.run w)

theorem outputs_agree_run {cs : List Call} :
    ∀ {w w' : World}, w.Agrees w' → w.Tidy → w.Snug → w.statsd.addr ≠ none →
      (∀ c ∈ cs, c.Within) → (∀ c ∈ cs, ∀ o ∈ c.attempts, o.Quiet) →
      ((∀ ds, ds <+: cs → (runCalls ds w).output = (runCalls (ds.map Call.copied) w').output) ↔
        AppendsWhole cs w) := by
  induction cs with
  | nil =>
      intro w w' h _ _ _ _ _
      rw [Lists.forall_prefix_nil]
      exact iff_of_true h.output.symm trivial
  | cons c cs ih =>
      intro w w' h htidy hsnug haddr hwithin hquiet
      have hc : c.Within := hwithin c (by simp)
      have hq : ∀ o ∈ c.attempts, o.Quiet := hquiet c (by simp)
      have hcopy : (c.copied.run w).Agrees (c.copied.run w') := by
        cases c with
        | write metric metricLen flags overflow now => exact h.run haddr hc.taken hq
        | flush send => exact h.run haddr hc.taken hq
      have hnow : (runCalls [] w).output = (runCalls ([].map Call.copied) w').output :=
        h.output.symm
      rw [Lists.forall_prefix_cons, AppendsWhole, and_iff_right hnow]
      by_cases hwhole : c.Appends w → c.Whole
      · have hagrees := (agrees_copied htidy hsnug haddr hc hq hwhole).trans hcopy
        have haddr' : (c.run w).statsd.addr ≠ none := by
          rw [addr_run]
          exact haddr
        rw [and_iff_right hwhole]
        exact ih hagrees (htidy.run hc.taken).1 (hsnug.run htidy hc hwhole) haddr'
          (fun d hd => hwithin d (by simp [hd])) (fun d hd => hquiet d (by simp [hd]))
      · -- the first call already shows
        rcases Classical.not_imp.1 hwhole with ⟨happends, hcut⟩
        refine iff_of_false (fun hall => ?_) (fun hboth => hwhole hboth.1)
        have hne := output_copied_ne htidy hc happends hcut
        rw [← hcopy.output] at hne
        exact hne (hall [] List.nil_prefix)

/-- Every prefix of the run has the bytes of the run of copies just if no metric is cut that is
appended to a packet which stays pending. -/
theorem outputs_agree_iff {env : SocketEnv} {addr : Option NetAddr} {useTcp : Bool} {sampling : ℚ}
    {prefixLabel suffixLabel : Option CString} {statsd : Statsd}
    (hopen : statsdStatsdOpen env addr useTcp sampling prefixLabel suffixLabel = .ok statsd)
    {cs : List Call} (hwithin : ∀ c ∈ cs, c.Within) (hquiet : ∀ c ∈ cs, ∀ o ∈ c.attempts, o.Quiet) :
    (∀ ds, ds <+: cs →
      (runCalls ds (World.start statsd)).output =
        (runCalls (ds.map Call.copied) (World.start statsd)).output) ↔
      AppendsWhole cs (World.start statsd) := by
  rcases statsdStatsdOpen_ok hopen with ⟨a, fd, rfl, _, _, rfl⟩
  apply outputs_agree_run (World.Agrees.refl _) (tidy_start _ rfl rfl) _ _ hwithin hquiet
  · exact World.snug_of_idle ⟨rfl, rfl, rfl⟩
  · simp [World.start, Statsd.fresh]

/-- Cut metrics start a packet or are sent at once; the one that is appended is not cut. -/
def cutAtTheEnds : List Call :=
  [.write (CString.lit "a:1|c,") 5 0 (.done .sent) (.done .sent),
    .write (CString.lit "b:2|c") 5 0 (.done .sent) (.done .sent),
    .write (CString.lit "d:3|c,") 5 flSendNow (.done .sent) (.done .sent),
    .flush (.done .sent)]

theorem outputs_agree_flushed :
    (runCalls cutAtTheEnds (World.start (loopback false))).output =
      (runCalls (cutAtTheEnds.map Call.copied) (World.start (loopback false))).output := by
  refine (outputs_agree_iff (statsdStatsdOpen_loopback false) ?_ ?_).2 ?_ cutAtTheEnds
    List.prefix_rfl
  · intro c hc
    fin_cases hc
    · exact ⟨by decide, by decide⟩
    · exact ⟨by decide, by decide⟩
    · exact ⟨by decide, by decide⟩
    · trivial
  · simp [cutAtTheEnds, Call.attempts, Attempts.Quiet, Attempts.handled]
  · refine ⟨fun happends => ?_, fun _ => rfl, fun happends => ?_, fun _ => trivial, trivial⟩
    · exact absurd rfl happends.2.1
    · exact absurd happends.2.2.2 (by decide)

/-- Three metrics for one packet; the second is given with the length of its first five bytes. -/
def cutInTheMiddle : List Call :=
  [.write (CString.lit "a:1|c") 5 0 (.done .sent) (.done .sent),
    .write (CString.lit "b:2|c|@0.50") 5 0 (.done .sent) (.done .sent),
    .write (CString.lit "d:3|c") 5 0 (.done .sent) (.done .sent),
    .flush (.done .sent)]

/-- The second metric is copied up to its terminator, and the packet ends before the third. -/
theorem appended_metric_is_not_cut :
    let w := runCalls cutInTheMiddle (World.start (loopback false))
    let w' := runCalls (cutInTheMiddle.map Call.copied) (World.start (loopback false))
    w.output ≠ w'.output ∧
      w.output.sent = [(CString.lit "a:1|c\nb:2|c|@0.50").cells] ∧
      w'.output.sent = [(CString.lit "a:1|c\nb:2|c\nd:3|c").cells] := by
  decide +kernel

end ModStatsd
