import ModStatsd.Client.Delivery
import ModStatsd.Metric.Metric

/-!
# Truncation — when a line outgrows the buffer it is formatted in

`snprintf` cuts a line to `MetricCall.maxLine` bytes but returns the length of the whole line, and
that is what `statsd_statsd_write` is told.  As long as every line fits, the length and the text
agree in every state; the first line that does not fit makes them disagree.
-/

namespace ModStatsd

open Lib

/-! ## Length and text agree -/

/-- The pending text and the length kept for it. -/
structure World.Consistent (w : World) : Prop where
  null : w.statsd.metricsBuf = none ↔ w.statsd.metricsBuflen = 0
  strlen : ∀ buf ∈ w.statsd.metricsBuf, w.statsd.metricsBuflen = buf.text.strlen

/-- The kernel is shown nothing, or some of `lines` and newlines. -/
def Sendto.ShowsOnly (tcp : Bool) (lines : List CString) (s : Sendto) : Prop :=
  s.bytes = [] ∨ ∃ g, g ≠ [] ∧ (∀ m ∈ g, m ∈ lines) ∧ s.bytes = frame tcp g

/-- Nothing but `lines` is pending or has been sent. -/
structure OnlyFormatted (lines : List CString) (w : World) : Prop where
  consistent : w.Consistent
  shown : ∀ s ∈ w.sends, s.ShowsOnly w.statsd.useTcp lines
  datagram : w.statsd.useTcp = false → ∀ s ∈ w.sends, s.len ≤ statsdMaxUdpPacketSize

/-- What the refinement says about such a state. -/
theorem onlyFormatted_of_refines {lines : List CString} {w : World} {b : Batching CString}
    (h : Refines w b)
    (hbounded : Batching.Bounded (GoodBatch (fun m => m ∈ lines) w.statsd.useTcp) b) :
    OnlyFormatted lines w := by
  refine ⟨?_, ?_, h.len_le hbounded.emitted⟩
  · by_cases hp : b.pending = []
    · have hidle := h.idle hp
      exact ⟨by simp [hidle.ptr, hidle.len], by simp [hidle.ptr]⟩
    · rcases h.holds hp with ⟨k, buf, hh⟩
      refine ⟨by simp [hh.ptr, hh.pos], ?_⟩
      intro buf' hbuf'
      have hbuf : buf = buf' := by simpa [hh.ptr] using hbuf'
      rw [← hbuf, hh.len, CString.strlen, hh.text]
  · intro s hs
    rcases (h.attempts s hs).2 with hzero | ⟨g, hg, hbytes⟩
    · exact Or.inl (List.length_eq_zero_iff.1 (by simpa using hzero))
    · by_cases hnil : s.bytes = []
      · exact Or.inl hnil
      · refine Or.inr ⟨g, ?_, (hbounded.emitted g hg).1, hbytes⟩
        intro hempty
        have hgood := (hbounded.emitted g hg).2
        subst hempty
        cases htcp : w.statsd.useTcp with
        | true => simp [htcp] at hgood
        | false =>
            rw [hbytes, htcp] at hnil
            exact hnil rfl

/-! ## Lines that fit -/

namespace ApiCall

/-- The line of the call, if any, fits the buffer. -/
def Fits (statsd : Statsd) (c : ApiCall) : Prop :=
  ∀ m ∈ c.line? statsd, m.strlen ≤ MetricCall.maxLine

/-- No handler disturbs the sends of the call. -/
def Quiet (c : ApiCall) : Prop :=
  ∀ o ∈ c.attempts, o.Quiet

theorem metric_call {statsd : Statsd} {c : ApiCall} (h : c.Fits statsd) :
    (c.call statsd).metric? = c.line? statsd := by
  cases c with
  | metric m overflow now =>
      have hfits : (m.line statsd).strlen ≤ MetricCall.maxLine := h _ rfl
      simp [call, MetricCall.handed, Call.metric?, line?, CString.pstrndup_of_le hfits]
  | flush send => rfl

theorem Fits.plain {statsd : Statsd} {c : ApiCall} (h : c.Fits statsd) (hquiet : c.Quiet) :
    (c.call statsd).Plain := by
  have hattempts : ∀ o ∈ (c.call statsd).attempts, o.Quiet := by
    rw [attempts_call]
    exact hquiet
  refine ⟨?_, hattempts⟩
  cases c with
  | metric m overflow now =>
      have hfits : (m.line statsd).strlen ≤ MetricCall.maxLine := h _ rfl
      exact ⟨by simp [MetricCall.handed, CString.pstrndup_of_le hfits], m.strlen_line_pos statsd⟩
  | flush send => trivial

theorem call_eq_of_config {s t : Statsd} (h : s.config = t.config) (c : ApiCall) :
    c.call s = c.call t := by
  cases c with
  | metric m overflow now => simp [call, MetricCall.handed, m.line_eq_of_config h]
  | flush send => rfl

end ApiCall

/-- A run of the API is a run of the client. -/
theorem runApi_eq_runCalls {statsd : Statsd} {cs : List ApiCall} :
    ∀ {w : World}, w.statsd.config = statsd.config →
      runApi cs w = runCalls (cs.map (ApiCall.call statsd)) w := by
  induction cs with
  | nil =>
      intro w _
      rfl
  | cons c cs ih =>
      intro w h
      have hstep : c.run w = (c.call statsd).run w := by
        rw [c.run_eq, c.call_eq_of_config h]
      have hconfig : ((c.call statsd).run w).statsd.config = statsd.config := by
        rw [config_run, h]
      have hrest := ih hconfig
      calc
        runApi (c :: cs) w = runApi cs ((c.call statsd).run w) := by
              rw [← hstep]
              rfl
        _ = runCalls (cs.map (ApiCall.call statsd)) ((c.call statsd).run w) := hrest

theorem onlyFormatted_of_fits {statsd : Statsd} {lines : List CString} {cs : List ApiCall}
    {w : World} (hsync : Synced w Batching.empty) (hconfig : w.statsd.config = statsd.config)
    (hquiet : ∀ c ∈ cs, c.Quiet) (hfits : ∀ c ∈ cs, c.Fits statsd)
    (hlines : ∀ m ∈ formatted statsd cs, m ∈ lines) : OnlyFormatted lines (runApi cs w) := by
  have hcalls : ∀ c ∈ cs.map (ApiCall.call statsd), c.Plain := by
    intro c hc
    rcases List.mem_map.1 hc with ⟨a, ha, rfl⟩
    exact (hfits a ha).plain (hquiet a ha)
  have hrun := hsync.runCalls hcalls
  rw [runApi_eq_runCalls hconfig]
  refine onlyFormatted_of_refines hrun.refines ?_
  rw [useTcp_runCalls]
  refine bounded_run (Batching.bounded_empty _) (fun _ => rfl) ?_
  intro c hc m hm
  rcases List.mem_map.1 hc with ⟨a, ha, rfl⟩
  rw [ApiCall.metric_call (hfits a ha)] at hm
  have hmem : m ∈ formatted statsd cs := List.mem_filterMap.2 ⟨a, ha, hm⟩
  have hshort : m.strlen ≤ MetricCall.maxLine := hfits a ha m hm
  exact ⟨hlines m hmem, hshort.trans (by decide)⟩

/-! ## A line that does not fit -/

/-- On UDP an overlong line joins no packet, and is pending under a length it does not have. -/
theorem not_consistent_udp {w : World} (hw : w.Consistent) (hudp : w.statsd.useTcp = false)
    {m : CString} (hlong : MetricCall.maxLine < m.strlen) (overflow now : Send) :
    ¬ (writeMetricBuf overflow now (m.pstrndup MetricCall.maxLine) m.strlen 0 w).Consistent := by
  intro h
  have hmax : MetricCall.maxLine = 510 := rfl
  let metric := m.pstrndup MetricCall.maxLine
  let w₁ := w.accept (metric.pstrndup m.strlen)
  -- 511 bytes and more never fit behind anything
  have hempty : (flushOverflow overflow m.strlen w₁).statsd.metricsBuf = none := by
    cases hbuf : w₁.statsd.metricsBuf with
    | none =>
        have hno : ¬ overflows w₁ m.strlen := by simp [overflows, hbuf]
        simpa [flushOverflow, hno] using hbuf
    | some buf =>
        have hov : overflows w₁ m.strlen := by
          have hpending : w.statsd.metricsBuflen ≠ 0 := by
            intro hzero
            have hnone : w₁.statsd.metricsBuf = none := hw.null.2 hzero
            simp [hbuf] at hnone
          have hlen : w₁.statsd.metricsBuflen = w.statsd.metricsBuflen := rfl
          have hpacket : statsdMaxUdpPacketSize = 512 := rfl
          exact ⟨by simp [hbuf], by omega⟩
        simp [flushOverflow, hov, sendAndClear, clearMetrics]
  have hnow : sendsNow false 0 = false := by decide
  have hstate : (writeMetricBuf overflow now metric m.strlen 0 w).statsd.metricsBuf =
        some { text := metric.pstrndup m.strlen,
               pool := .metrics (flushOverflow overflow m.strlen w₁).nextPool } ∧
      (writeMetricBuf overflow now metric m.strlen 0 w).statsd.metricsBuflen = m.strlen := by
    have hrun : writeMetricBuf overflow now metric m.strlen 0 w =
        bufferUdp metric m.strlen (flushOverflow overflow m.strlen w₁) := by
      simp only [writeMetricBuf, bufferMetric, World.statsd_accept, hudp, hnow,
        Bool.false_eq_true, if_false, w₁]
    rw [hrun]
    simp [bufferUdp, hempty, World.setBuf]
  -- the buffer has at most 510 bytes, its length is that of the whole line
  have hstrlen := h.strlen _ hstate.1
  rw [hstate.2, CString.strlen_pstrndup, CString.strlen_pstrndup] at hstrlen
  omega

/-- A frame is text: it has no NUL. -/
theorem nul_not_mem_frame (tcp : Bool) (g : List CString) : Cell.byte nul ∉ frame tcp g := by
  intro h
  have hmem : nul ∈ frameText tcp g := by simpa [frame] using h
  have hnewline : nul ≠ '\n' := by decide
  have hend : nul ∉ if tcp then ['\n'] else [] := by
    cases tcp <;> simp [hnewline]
  rcases List.mem_append.1 hmem with hjoin | hlast
  · rcases Lines.mem_join hjoin with hsep | ⟨x, hx, hnul⟩
    · exact hnewline hsep
    · rcases List.mem_map.1 hx with ⟨m, _, rfl⟩
      exact m.noNul hnul
  · exact hend hlast

/-- On TCP an overlong line is sent together with its terminator and the memory behind it. -/
theorem not_showsOnly_tcp {w : World} (haddr : w.statsd.addr ≠ none) (hopen : w.closed = false)
    (htcp : w.statsd.useTcp = true) {m : CString} (hlong : MetricCall.maxLine < m.strlen)
    (overflow : Send) {now : Attempts} (hnow : now.Quiet) (lines : List CString) :
    ∃ s ∈ (writeMetricBuf overflow now.send (m.pstrndup MetricCall.maxLine) m.strlen 0 w).sends,
      ¬ s.ShowsOnly true lines := by
  have hmax : MetricCall.maxLine = 510 := rfl
  let metric := m.pstrndup MetricCall.maxLine
  let w' := bufferTcp metric m.strlen (w.accept (metric.pstrndup m.strlen))
  let text := (metric.pstrndup m.strlen).pstrcat newline
  let s := w'.call w'.statsd.metricsBuf w'.statsd.metricsBuflen (.completed now.completion)
  have hsend := Attempts.send_of_quiet (w := w') haddr hnow w'.statsd.metricsBuf
    w'.statsd.metricsBuflen
  refine ⟨s, ?_, ?_⟩
  · have hcompleted : s ∈ (now.calls w'.statsd.metricsBuf w'.statsd.metricsBuflen w').filter
        Sendto.isCompleted := by
      rw [Attempts.filter_calls]
      exact List.mem_singleton.2 rfl
    have hmem : s ∈ now.calls w'.statsd.metricsBuf w'.statsd.metricsBuflen w' :=
      (List.mem_filter.1 hcompleted).1
    have hrun : writeMetricBuf overflow now.send metric m.strlen 0 w =
        sendAndClear now.send w' := by
      simp [writeMetricBuf, bufferMetric, htcp, w']
    rw [hrun, sendAndClear, hsend]
    exact List.mem_append_right _ hmem
  · have hbytes : s.bytes = text.read (m.strlen + 1) := by
      have hlive : w'.live { text := text, pool := .client } = true := by
        simp [World.live, w', bufferTcp, World.setBuf, World.makeMetricsPool, World.accept, hopen]
      have hbuf : w'.statsd.metricsBuf = some { text := text, pool := .client } := rfl
      have hlen : w'.statsd.metricsBuflen = m.strlen + 1 := rfl
      simp [s, World.call, Sendto.bytes, hbuf, hlen, hlive]
    -- the text is cut, the length is not
    have hstrlen : text.strlen < m.strlen + 1 := by
      have hnewline : newline.strlen = 1 := rfl
      simp only [text, metric, CString.strlen_pstrcat, CString.strlen_pstrndup, hnewline]
      omega
    have hnul : Cell.byte nul ∈ s.bytes := by
      rw [hbytes]
      exact CString.nul_mem_read hstrlen
    rintro (hnil | ⟨g, _, _, hg⟩)
    · simp [hnil] at hnul
    · rw [hg] at hnul
      exact nul_not_mem_frame true g hnul

theorem fits_of_onlyFormatted {statsd : Statsd} {lines : List CString} {w : World}
    {b : Batching CString} (hsync : Synced w b) (hconfig : w.statsd.config = statsd.config)
    (hw : w.Consistent) {c : ApiCall} (hquiet : c.Quiet) (h : OnlyFormatted lines (c.run w)) :
    c.Fits statsd := by
  cases c with
  | flush send => simp [ApiCall.Fits, ApiCall.line?]
  | metric m overflow now =>
      intro line hline
      have hline' : m.line statsd = line := by simpa [ApiCall.line?] using hline
      subst hline'
      refine Nat.le_of_not_lt (fun hlong => ?_)
      have hrun : (ApiCall.metric m overflow now).run w =
          writeMetricBuf overflow.send now.send ((m.line statsd).pstrndup MetricCall.maxLine)
            (m.line statsd).strlen 0 w := by
        rw [ApiCall.run_eq, ApiCall.call_eq_of_config hconfig]
        exact Call.run_write (m.strlen_line_pos statsd) 0 overflow now w
      rw [hrun] at h
      -- the defect shows in the pending buffer on UDP, in the bytes sent on TCP
      cases htcp : w.statsd.useTcp with
      | false => exact not_consistent_udp hw htcp hlong _ _ h.consistent
      | true =>
          have hnow : now.Quiet := hquiet now (by simp [ApiCall.attempts])
          rcases not_showsOnly_tcp hsync.refines.addr hsync.refines.opened htcp hlong overflow.send
            hnow lines with ⟨s, hs, hnot⟩
          have hsame : (writeMetricBuf overflow.send now.send
              ((m.line statsd).pstrndup MetricCall.maxLine) (m.line statsd).strlen 0 w).statsd.useTcp
                = true := by
            rw [← hrun, ApiCall.run_eq, useTcp_run, htcp]
          have hshown := h.shown s hs
          rw [hsame] at hshown
          exact hnot hshown

/-- By induction on the run, whose first overlong line would show. -/
theorem fits_of_run {statsd : Statsd} {lines : List CString} {cs : List ApiCall} :
    ∀ {w : World} {b : Batching CString}, Synced w b → w.statsd.config = statsd.config →
      (∀ c ∈ cs, c.Quiet) → (∀ n, OnlyFormatted lines (runApi (cs.take n) w)) →
      ∀ c ∈ cs, c.Fits statsd := by
  induction cs with
  | nil =>
      intro w b _ _ _ _
      simp
  | cons c cs ih =>
      intro w b hsync hconfig hquiet h
      have hc : c.Quiet := hquiet c (by simp)
      -- the first step shows that its line fits, so that the rest runs on a synced client
      have hfirst : OnlyFormatted lines (c.run w) := by simpa [runApi] using h 1
      have hfits := fits_of_onlyFormatted hsync hconfig (h 0).consistent hc hfirst
      have hstep : c.run w = (c.call statsd).run w := by
        rw [c.run_eq, c.call_eq_of_config hconfig]
      have hrest : ∀ n, OnlyFormatted lines (runApi (cs.take n) ((c.call statsd).run w)) := by
        intro n
        have hn := h (n + 1)
        rw [List.take_succ_cons, runApi, List.foldl_cons, hstep] at hn
        exact hn
      have hconfig' : ((c.call statsd).run w).statsd.config = statsd.config := by
        rw [config_run, hconfig]
      intro d hd
      rcases List.mem_cons.1 hd with rfl | hd
      · exact hfits
      · exact ih (hsync.run (hfits.plain hc)) hconfig' (fun e he => hquiet e (by simp [he])) hrest
          d hd

/-! ## Nothing beyond the formatted text -/

theorem only_formatted_iff_lines_fit {env : SocketEnv} {addr : Option NetAddr} {useTcp : Bool}
    {sampling : ℚ} {prefixLabel suffixLabel : Option CString} {statsd : Statsd}
    (hopen : statsdStatsdOpen env addr useTcp sampling prefixLabel suffixLabel = .ok statsd)
    {cs : List ApiCall} (hquiet : ∀ c ∈ cs, c.Quiet) :
    (∀ n, OnlyFormatted (formatted statsd cs) (runApi (cs.take n) (World.start statsd))) ↔
      ∀ m ∈ formatted statsd cs, m.strlen ≤ MetricCall.maxLine := by
  have hsync := synced_start hopen
  constructor
  · -- the first overlong line breaks the property right after its call
    intro h m hm
    rcases List.mem_filterMap.1 hm with ⟨c, hc, hline⟩
    exact fits_of_run hsync rfl hquiet h c hc m hline
  · intro h n
    refine onlyFormatted_of_fits hsync rfl ?_ ?_ ?_
    · intro c hc
      exact hquiet c (List.mem_of_mem_take hc)
    · intro c hc m hm
      exact h m (List.mem_filterMap.2 ⟨c, List.mem_of_mem_take hc, hm⟩)
    · intro m hm
      rcases List.mem_filterMap.1 hm with ⟨c, hc, hline⟩
      exact List.mem_filterMap.2 ⟨c, List.mem_of_mem_take hc, hline⟩

/-- A counter and a flush interrupted once. -/
def countAndFlush : List ApiCall :=
  [.metric (.counter (CString.lit "log.INFO") 1 flIgnoreSampling) (.done .sent) (.done .sent),
    .flush (.eintr [] (.done .sent))]

theorem only_formatted_iff_lines_fit_udp :
    OnlyFormatted (formatted (loopback false) countAndFlush)
      (runApi countAndFlush (World.start (loopback false))) := by
  have hquiet : ∀ c ∈ countAndFlush, c.Quiet := by
    simp [countAndFlush, ApiCall.Quiet, ApiCall.attempts, Attempts.Quiet, Attempts.handled]
  have hfits : ∀ m ∈ formatted (loopback false) countAndFlush, m.strlen ≤ MetricCall.maxLine := by
    decide +kernel
  exact (only_formatted_iff_lines_fit (statsdStatsdOpen_loopback false) hquiet).2 hfits 2

/-- A command name a client may send. -/
def longName : CString :=
  { chars := List.replicate 508 'a'
    noNul := by
      intro h
      exact absurd (List.eq_of_mem_replicate h) (by decide) }

def longCounter : ApiCall :=
  .metric (.counter longName 1 0) (.done .sent) (.done .sent)

/-- On UDP 510 bytes of text are kept under the length 512; on TCP the 513 bytes sent go past the
terminator. -/
theorem overlong_line_breaks_length :
    ((runApi [longCounter] (World.start (loopback false))).statsd.metricsBuflen = 512 ∧
      (runApi [longCounter] (World.start (loopback false))).statsd.metricsBuf.map
        (fun buf => buf.text.strlen) = some 510 ∧
      ¬ OnlyFormatted (formatted (loopback false) [longCounter])
        (runApi [longCounter] (World.start (loopback false)))) ∧
    (∃ s ∈ (runApi [longCounter] (World.start (loopback true))).sends,
      s.len = 513 ∧ Cell.byte nul ∈ s.bytes ∧ Cell.heap ∈ s.bytes) := by
  have hlen : (runApi [longCounter] (World.start (loopback false))).statsd.metricsBuflen = 512 := by
    decide +kernel
  have htext : (runApi [longCounter] (World.start (loopback false))).statsd.metricsBuf.map
      (fun buf => buf.text.strlen) = some 510 := by
    decide +kernel
  refine ⟨⟨hlen, htext, ?_⟩, by decide +kernel⟩
  intro h
  rcases Option.map_eq_some_iff.1 htext with ⟨buf, hbuf, hstrlen⟩
  have hsame := h.consistent.strlen buf hbuf
  omega

end ModStatsd
