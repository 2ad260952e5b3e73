import ModStatsd.Client.Delivery

/-!
# Stream — what a TCP connection carries

On TCP every write is sent at once, as one newline-terminated line, and `send_metrics` does not
look at how much of it the kernel took.  Handlers leave the client alone here.

* `World.stream` — the bytes the socket accepted;
* `stream_runCalls` — the stream is the concatenation of what each call got accepted;
* `whole_lines_iff_no_short_write` — it consists of whole lines exactly when no write is cut short.
-/

namespace ModStatsd

open Lib

/-- The bytes the socket accepted, in order. -/
def World.stream (w : World) : List Cell :=
  w.sends.flatMap Sendto.accepted

/-! ## The stream of one call -/

/-- The part of `bytes` that a `sendto` ending in `c` takes over. -/
def Completion.take (c : Completion) (bytes : List Cell) : List Cell :=
  match c with
  | .sent => bytes
  | .short n => bytes.take n
  | .failed _ => []

/-- A metric as it travels on a stream. -/
def streamLine (m : CString) : List Cell :=
  m.cells ++ [Cell.byte '\n']

/-- What the socket accepts of one TCP call. -/
def Call.accepted : Call → List Cell
  | .write metric _ _ _ now => now.completion.take (streamLine metric)
  -- nothing is pending, so nothing is accepted
  | .flush _ => []

theorem length_take_completion (c : Completion) (bytes : List Cell) :
    (c.take bytes).length ≤ bytes.length := by
  cases c with
  | sent => exact le_rfl
  | short n => simp [Completion.take]
  | failed e => simp [Completion.take]

theorem accepted_call_completed (w : World) (buf : Option Buf) (len : Nat) (c : Completion) :
    (w.call buf len (.completed c)).accepted =
      c.take (w.call buf len (.completed c)).bytes := by
  cases c with
  | sent => rfl
  | short n => rfl
  | failed e => rfl

/-- Interrupted attempts add nothing to the stream. -/
theorem flatMap_accepted_calls (buf : Option Buf) (len : Nat) (w : World) :
    ∀ o : Attempts, (o.calls buf len w).flatMap Sendto.accepted =
      (w.call buf len (.completed o.completion)).accepted
  | .done c => by simp [Attempts.calls, Attempts.completion]
  | .eintr _ retry => by
      have hrest := flatMap_accepted_calls buf len w retry
      have heintr : (w.call buf len .eintr).accepted = [] := rfl
      simp [Attempts.calls, Attempts.completion, heintr, hrest]

theorem stream_sendAndClear {w : World} {o : Attempts} (haddr : w.statsd.addr ≠ none)
    (ho : o.Quiet) :
    (sendAndClear o.send w).stream = w.stream ++
      o.completion.take (w.call w.statsd.metricsBuf w.statsd.metricsBuflen
        (.completed o.completion)).bytes := by
  have hsend := Attempts.send_of_quiet haddr ho w.statsd.metricsBuf w.statsd.metricsBuflen
  have hcalls := flatMap_accepted_calls w.statsd.metricsBuf w.statsd.metricsBuflen w o
  rw [accepted_call_completed] at hcalls
  simp [sendAndClear, hsend, clearMetrics, World.stream, hcalls]

/-- The TCP branch lays out exactly one line, in memory that outlives the send. -/
theorem call_bytes_bufferTcp {w : World} (hopen : w.closed = false) (m : CString)
    (r : SendResult) :
    ((bufferTcp m m.strlen w).call (bufferTcp m m.strlen w).statsd.metricsBuf
      (bufferTcp m m.strlen w).statsd.metricsBuflen r).bytes = streamLine m := by
  have hlen : m.strlen + 1 = (m.pstrcat newline).strlen := by simp [newline, CString.lit, CString.strlen]
  have hlive : (bufferTcp m m.strlen w).live
      { text := m.pstrcat newline, pool := .client } = true := by
    simp [World.live, bufferTcp, World.setBuf, World.makeMetricsPool, hopen]
  have hread : (m.pstrcat newline).read (m.strlen + 1) = streamLine m := by
    rw [hlen, CString.read_strlen]
    simp [streamLine, CString.cells, newline, CString.lit]
  simpa [World.call, Sendto.bytes, bufferTcp, World.setBuf, World.makeMetricsPool, hopen,
    World.live] using hread

/-- One call appends to the stream what it got accepted, and nothing else. -/
theorem stream_run {w : World} {b : Batching CString} (h : Synced w b)
    (htcp : w.statsd.useTcp = true) {c : Call} (hc : c.Plain) :
    (c.run w).stream = w.stream ++ c.accepted := by
  cases c with
  | write metric metricLen flags overflow now =>
      -- the write sends the one line it has buffered, at once
      rcases hc.sized with ⟨rfl, hpos⟩
      have hnow : now.Quiet := hc.quiet now (by simp [Call.attempts])
      let w' := bufferTcp metric metric.strlen (w.accept metric)
      have haddr : w'.statsd.addr ≠ none := h.refines.addr
      have hopen : (w.accept metric).closed = false := h.refines.opened
      have hsent := stream_sendAndClear haddr hnow
      have hbytes := call_bytes_bufferTcp hopen metric (.completed now.completion)
      rw [hbytes] at hsent
      have hrun : (Call.write metric metric.strlen flags overflow now).run w =
          sendAndClear now.send w' := by
        rw [Call.run_write hpos]
        simp [writeMetricBuf, bufferMetric, htcp, w']
      calc
        ((Call.write metric metric.strlen flags overflow now).run w).stream
            = (sendAndClear now.send w').stream := by rw [hrun]
        _ = w'.stream ++ now.completion.take (streamLine metric) := hsent
        _ = w.stream ++ (Call.write metric metric.strlen flags overflow now).accepted := rfl
  | flush send =>
      -- nothing is ever pending between two calls on TCP
      have hidle := h.refines.idle (h.tcpIdle htcp)
      have hquiet : send.Quiet := hc.quiet send (by simp [Call.attempts])
      have hsent := stream_sendAndClear h.refines.addr hquiet
      have hnone : ∀ r, (w.call w.statsd.metricsBuf w.statsd.metricsBuflen r).bytes = [] := by
        intro r
        have hlen : (w.call w.statsd.metricsBuf w.statsd.metricsBuflen r).bytes.length = 0 := by
          simpa [World.call] using hidle.len
        exact List.length_eq_zero_iff.1 hlen
      have htake : send.completion.take [] = [] := by
        have hle := length_take_completion send.completion []
        exact List.length_eq_zero_iff.1 (Nat.le_zero.1 hle)
      rw [Call.run_flush, hsent, hnone, htake]
      rfl

theorem stream_runCalls {cs : List Call} :
    ∀ {w : World} {b : Batching CString}, Synced w b → w.statsd.useTcp = true →
      (∀ c ∈ cs, c.Plain) → (runCalls cs w).stream = w.stream ++ cs.flatMap Call.accepted := by
  induction cs with
  | nil =>
      intro w b _ _ _
      simp [runCalls]
  | cons c cs ih =>
      intro w b h htcp hcs
      have hplain : c.Plain := hcs c (by simp)
      have hstep := stream_run h htcp hplain
      have hrest := ih (h.run hplain) (by simpa using htcp) (fun c' hc' => hcs c' (by simp [hc']))
      simp [runCalls, hrest, hstep]

/-! ## Whole lines -/

/-- `Kept cs ms`: the metrics `ms` are what remains of those written by `cs`, in order, when some
of those whose `sendto` failed are left out. -/
inductive Kept : List Call → List CString → Prop
  | nil : Kept [] []
  | flush {cs ms} (send : Attempts) (h : Kept cs ms) : Kept (.flush send :: cs) ms
  | kept {cs ms} (metric : CString) (metricLen : Nat) (flags : Flags) (overflow now : Attempts)
      (h : Kept cs ms) : Kept (.write metric metricLen flags overflow now :: cs) (metric :: ms)
  | missing {cs ms} (metric : CString) (metricLen : Nat) (flags : Flags)
      (overflow now : Attempts) {errno : Errno} (hfailed : now.completion = .failed errno)
      (h : Kept cs ms) : Kept (.write metric metricLen flags overflow now :: cs) ms

/-- The stream is a sequence of whole lines, and a metric is missing only if its send failed. -/
def WholeLines (cs : List Call) (stream : List Cell) : Prop :=
  ∃ ms, Kept cs ms ∧ stream = ms.flatMap streamLine

namespace Call

/-- How the send of a write's own line goes. -/
def now? : Call → Option Attempts
  | .write _ _ _ _ now => some now
  | .flush _ => none

/-- The kernel takes less than all of the write's line. -/
def CutShort (c : Call) : Prop :=
  ∃ now ∈ c.now?, ∃ n, now.completion = .short n

/-- A write of any length, or a flush; a short write leaves at least one byte of the line. -/
structure Streamable (c : Call) : Prop where
  plain : c.Plain
  short : ∀ m ∈ c.metric?, ∀ now ∈ c.now?, ∀ n, now.completion = .short n → n ≤ m.strlen

end Call

/-- When no write is cut short, the failed ones are missing and the others are whole. -/
theorem kept_of_not_cutShort {cs : List Call} (h : ∀ c ∈ cs, ¬ c.CutShort) :
    WholeLines cs (cs.flatMap Call.accepted) := by
  induction cs with
  | nil => exact ⟨[], .nil, rfl⟩
  | cons c cs ih =>
      rcases ih (fun c' hc' => h c' (by simp [hc'])) with ⟨ms, hkept, hstream⟩
      cases c with
      | write metric metricLen flags overflow now =>
          -- whole, excluded, or missing with a reason
          cases hnow : now.completion with
          | sent =>
              refine ⟨metric :: ms, .kept _ _ _ _ _ hkept, ?_⟩
              simp [Call.accepted, hnow, Completion.take, hstream]
          | short n =>
              have hcut : (Call.write metric metricLen flags overflow now).CutShort :=
                ⟨now, rfl, n, hnow⟩
              exact absurd hcut (h _ (by simp))
          | failed errno =>
              refine ⟨ms, .missing _ _ _ _ _ hnow hkept, ?_⟩
              simp [Call.accepted, hnow, Completion.take, hstream]
      | flush send => exact ⟨ms, .flush send hkept, by simp [Call.accepted, hstream]⟩

/-- The stream is never longer than the lines that may be in it, and shorter if one is cut. -/
theorem length_accepted_le {cs : List Call} {ms : List CString} (hkept : Kept cs ms) :
    (cs.flatMap Call.accepted).length ≤ (ms.flatMap streamLine).length := by
  induction hkept with
  | nil => exact le_rfl
  | flush send _ ih => simpa [Call.accepted] using ih
  | kept metric metricLen flags overflow now _ ih =>
      have hpart := length_take_completion now.completion (streamLine metric)
      simp only [List.flatMap_cons, List.length_append, Call.accepted]
      omega
  | missing metric metricLen flags overflow now hfailed _ ih =>
      simpa [Call.accepted, hfailed, Completion.take] using ih

theorem length_accepted_lt {cs : List Call} {ms : List CString} (hkept : Kept cs ms)
    (hcs : ∀ c ∈ cs, c.Streamable) (hcut : ∃ c ∈ cs, c.CutShort) :
    (cs.flatMap Call.accepted).length < (ms.flatMap streamLine).length := by
  induction hkept with
  | nil => simp at hcut
  | @flush cs ms send _ ih =>
      have hrest : ∃ c ∈ cs, c.CutShort := by
        simpa [Call.CutShort, Call.now?] using hcut
      simpa [Call.accepted] using ih (fun c hc => hcs c (by simp [hc])) hrest
  | @kept cs ms metric metricLen flags overflow now hkept ih =>
      have hhead := hcs (.write metric metricLen flags overflow now) (by simp)
      have hpart := length_take_completion now.completion (streamLine metric)
      have hrestLe := length_accepted_le hkept
      simp only [List.flatMap_cons, List.length_append, Call.accepted]
      rcases hcut with ⟨c, hc, hcut⟩
      rcases List.mem_cons.1 hc with rfl | hc
      · -- this line is the one that was cut
        rcases hcut with ⟨o, ho, n, hn⟩
        have hshort : n ≤ metric.strlen := hhead.short metric rfl o ho n hn
        have ho' : now = o := by simpa [Call.now?] using ho
        have hlt : (now.completion.take (streamLine metric)).length <
            (streamLine metric).length := by
          rw [ho', hn]
          simp [Completion.take, streamLine]
          omega
        omega
      · have hrest := ih (fun c' hc' => hcs c' (by simp [hc'])) ⟨c, hc, hcut⟩
        omega
  | @missing cs ms metric metricLen flags overflow now errno hfailed _ ih =>
      have hrest : ∃ c ∈ cs, c.CutShort := by
        rcases hcut with ⟨c, hc, hcut⟩
        rcases List.mem_cons.1 hc with rfl | hc
        · -- a failed send is not a short one
          rcases hcut with ⟨o, ho, n, hn⟩
          have ho' : now = o := by simpa [Call.now?] using ho
          simp [← ho', hfailed] at hn
        · exact ⟨c, hc, hcut⟩
      simpa [Call.accepted, hfailed, Completion.take] using
        ih (fun c hc => hcs c (by simp [hc])) hrest

theorem wholeLines_accepted_iff {cs : List Call} (hcs : ∀ c ∈ cs, c.Streamable) :
    WholeLines cs (cs.flatMap Call.accepted) ↔ ∀ c ∈ cs, ¬ c.CutShort := by
  constructor
  · -- a line that was cut leaves the stream too short for any choice of kept metrics
    rintro ⟨ms, hkept, hstream⟩ c hc hcut
    have hlt := length_accepted_lt hkept hcs ⟨c, hc, hcut⟩
    simp [hstream] at hlt
  · exact kept_of_not_cutShort

/-! ## No torn lines -/

theorem whole_lines_iff_no_short_write {env : SocketEnv} {addr : Option NetAddr} {sampling : ℚ}
    {prefixLabel suffixLabel : Option CString} {statsd : Statsd}
    (hopen : statsdStatsdOpen env addr true sampling prefixLabel suffixLabel = .ok statsd)
    {cs : List Call} (hcs : ∀ c ∈ cs, c.Streamable) :
    WholeLines cs (runCalls cs (World.start statsd)).stream ↔ ∀ c ∈ cs, ¬ c.CutShort := by
  have htcp : (World.start statsd).statsd.useTcp = true := by
    rcases statsdStatsdOpen_ok hopen with ⟨a, fd, _, _, _, rfl⟩
    rfl
  have hstream := stream_runCalls (synced_start hopen) htcp (fun c hc => (hcs c hc).plain)
  have hempty : (World.start statsd).stream = [] := rfl
  rw [hstream, hempty, List.nil_append]
  exact wholeLines_accepted_iff hcs

/-- An interrupted write, a refused one and a whole one. -/
theorem whole_lines_iff_no_short_write_example :
    WholeLines
      [.write (CString.lit "a:1|c") 5 0 (.done .sent) (.eintr [] (.done .sent)),
        .write (CString.lit "b:2|c") 5 0 (.done .sent) (.done (.failed 32)),
        .flush (.done .sent)]
      (runCalls
        [.write (CString.lit "a:1|c") 5 0 (.done .sent) (.eintr [] (.done .sent)),
          .write (CString.lit "b:2|c") 5 0 (.done .sent) (.done (.failed 32)),
          .flush (.done .sent)]
        (World.start (loopback true))).stream := by
  refine (whole_lines_iff_no_short_write (statsdStatsdOpen_loopback true) ?_).2 ?_
  · intro c hc
    fin_cases hc
    · exact ⟨⟨⟨rfl, by decide⟩, by simp [Call.attempts, Attempts.Quiet, Attempts.handled]⟩,
        by simp [Call.metric?, Call.now?, Attempts.completion]⟩
    · exact ⟨⟨⟨rfl, by decide⟩, by simp [Call.attempts, Attempts.Quiet, Attempts.handled]⟩,
        by simp [Call.metric?, Call.now?, Attempts.completion]⟩
    · exact ⟨⟨trivial, by simp [Call.attempts, Attempts.Quiet, Attempts.handled]⟩,
        by simp [Call.metric?, Call.now?]⟩
  · simp [Call.CutShort, Call.now?, Attempts.completion]

/-- The kernel takes two bytes of the first line, then all of the second. -/
def tornCalls : List Call :=
  [.write (CString.lit "a:1|c") 5 0 (.done .sent) (.done (.short 2)),
    .write (CString.lit "b:2|c") 5 0 (.done .sent) (.done .sent)]

/-- The second metric completes a line that nobody wrote. -/
theorem short_write_tears_line :
    (∀ c ∈ tornCalls, c.Streamable) ∧
    (runCalls tornCalls (World.start (loopback true))).stream = (CString.lit "a:b:2|c\n").cells ∧
    ¬ WholeLines tornCalls (runCalls tornCalls (World.start (loopback true))).stream := by
  have hstream : (runCalls tornCalls (World.start (loopback true))).stream =
      (CString.lit "a:b:2|c\n").cells := by
    decide
  refine ⟨?_, hstream, ?_⟩
  · intro c hc
    fin_cases hc
    · exact ⟨⟨⟨rfl, by decide⟩, by simp [Call.attempts, Attempts.Quiet, Attempts.handled]⟩,
        by simp [Call.metric?, Call.now?, Attempts.completion, CString.strlen, CString.lit]⟩
    · exact ⟨⟨⟨rfl, by decide⟩, by simp [Call.attempts, Attempts.Quiet, Attempts.handled]⟩,
        by simp [Call.metric?, Call.now?, Attempts.completion]⟩
  · rw [hstream]
    rintro ⟨ms, hkept, hms⟩
    -- no send failed, so both lines would have to be there
    cases hkept with
    | missing _ _ _ _ _ hfailed _ => exact absurd hfailed (by simp [Attempts.completion])
    | kept _ _ _ _ _ hrest =>
        cases hrest with
        | missing _ _ _ _ _ hfailed _ => exact absurd hfailed (by simp [Attempts.completion])
        | kept _ _ _ _ _ hnil =>
            cases hnil
            exact absurd hms (by decide)

end ModStatsd
