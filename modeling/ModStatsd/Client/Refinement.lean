import ModStatsd.Client.Statsd
import ModStatsd.Lib.Batching
import ModStatsd.Lib.Lines

/-!
# The client refines an abstract batching sender

When no signal handler touches the client, `statsd_statsd_write` and `statsd_statsd_flush` do what
`Lib.Batching` does to lists of metrics: the buffer is the pending batch laid out as text, and every
completed `sendto` of a non-empty buffer is an emitted batch.

* `frameText` — how a batch is laid out (joined by newlines, newline-terminated on TCP);
* `Refines w b` — the relation, with the memory facts that keep it going;
* `Refines.flush`, `Refines.write` — one step; `Refines.runCalls` — a whole run.
-/

namespace ModStatsd

open Lib

/-! ## Sends that are not disturbed -/

namespace Attempts

/-- The `sendto` calls of one `send_metrics` when no handler touches the client. -/
def calls : Attempts → Option Buf → Nat → World → List Sendto
  | .done c, buf, len, w => [w.call buf len (.completed c)]
  | .eintr _ retry, buf, len, w => w.call buf len .eintr :: retry.calls buf len w

theorem quiet_retry {cs : List Call} {retry : Attempts} (h : (Attempts.eintr cs retry).Quiet) :
    cs = [] ∧ retry.Quiet := by
  simpa [Quiet, handled] using h

end Attempts

/-- The calls depend on the client and its pools, not on the history. -/
theorem Attempts.calls_sendto (buf buf' : Option Buf) (len len' : Nat) (w : World)
    (r : SendResult) :
    ∀ o : Attempts, o.calls buf len (w.sendto buf' len' r) = o.calls buf len w
  | .done c => rfl
  | .eintr _ retry => by
      have ih := Attempts.calls_sendto buf buf' len len' w r retry
      have hcall : (w.sendto buf' len' r).call buf len .eintr = w.call buf len .eintr := rfl
      rw [Attempts.calls, Attempts.calls, hcall, ih]

/-- An undisturbed send only appends its calls to the history. -/
theorem sendLoop_of_quiet (buf : Option Buf) (len : Nat) :
    ∀ (o : Attempts) (w : World), o.Quiet →
      sendLoop o buf len w = { w with sends := w.sends ++ o.calls buf len w }
  | .done c, w, _ => by
      simp [sendLoop, World.sendto, Attempts.calls]
  | .eintr cs retry, w, h => by
      obtain ⟨hcs, hretry⟩ := Attempts.quiet_retry h
      subst hcs
      -- with no handler calls, the retry starts where the interrupted call left off
      have hrest := sendLoop_of_quiet buf len retry (w.sendto buf len .eintr) hretry
      rw [sendLoop, runCalls, hrest, Attempts.calls_sendto]
      simp [World.sendto, Attempts.calls]

theorem Attempts.mem_calls {buf : Option Buf} {len : Nat} {w : World} {s : Sendto} :
    ∀ {o : Attempts}, s ∈ o.calls buf len w → ∃ r, s = w.call buf len r
  | .done c, h => ⟨.completed c, by simpa [Attempts.calls] using h⟩
  | .eintr _ retry, h => by
      rw [Attempts.calls] at h
      rcases List.mem_cons.1 h with heq | hrest
      · exact ⟨.eintr, heq⟩
      · exact Attempts.mem_calls hrest

/-- Exactly one of the calls completes. -/
theorem Attempts.filter_calls (buf : Option Buf) (len : Nat) (w : World) :
    ∀ o : Attempts, (o.calls buf len w).filter Sendto.isCompleted =
      [w.call buf len (.completed o.completion)]
  | .done c => rfl
  | .eintr _ retry => by
      have ih := Attempts.filter_calls buf len w retry
      have heintr : (w.call buf len .eintr).isCompleted = false := rfl
      rw [Attempts.calls, List.filter_cons_of_neg (by simp [heintr]), ih, Attempts.completion]

/-! ## The layout of a batch -/

/-- A batch as text: joined by newlines, and newline-terminated on a stream. -/
def frameText (tcp : Bool) (ms : List CString) : List Char :=
  Lines.join '\n' (ms.map CString.chars) ++ if tcp then ['\n'] else []

def frame (tcp : Bool) (ms : List CString) : List Cell :=
  (frameText tcp ms).map Cell.byte

theorem frameText_singleton (tcp : Bool) (m : CString) :
    frameText tcp [m] = m.chars ++ if tcp then ['\n'] else [] := by
  simp [frameText]

theorem frameText_concat {ms : List CString} (h : ms ≠ []) (m : CString) :
    frameText false (ms ++ [m]) = frameText false ms ++ '\n' :: m.chars := by
  have hmap : ms.map CString.chars ≠ [] := by simpa using h
  simp [frameText, Lines.join_concat '\n' hmap]

@[simp] theorem length_frame (tcp : Bool) (ms : List CString) :
    (frame tcp ms).length = (frameText tcp ms).length := by
  simp [frame]

/-- May `m` join the pending metrics `ms` in one UDP packet? -/
def fits (ms : List CString) (m : CString) : Prop :=
  ms = [] ∨ (frameText false ms).length + m.strlen + 1 ≤ statsdMaxUdpPacketSize

instance (ms : List CString) (m : CString) : Decidable (fits ms m) := by
  unfold fits
  infer_instance

/-! ## The refinement relation -/

namespace World

/-- The completed sends of non-empty buffers. -/
def carried (w : World) : List Sendto :=
  w.sends.filter fun s => s.isCompleted && s.len != 0

/-- Nothing is pending. -/
structure Idle (w : World) : Prop where
  pool : w.statsd.metricsPool = none
  ptr : w.statsd.metricsBuf = none
  len : w.statsd.metricsBuflen = 0

/-- The pending buffer is the batch `ms`, in memory that is still allocated. -/
structure Holds (w : World) (ms : List CString) (k : Nat) (buf : Buf) : Prop where
  pool : w.statsd.metricsPool = some k
  made : k < w.nextPool
  kept : k ∉ w.destroyed
  ptr : w.statsd.metricsBuf = some buf
  inPool : buf.pool = if w.statsd.useTcp then .client else .metrics k
  text : buf.text.chars = frameText w.statsd.useTcp ms
  len : w.statsd.metricsBuflen = (frameText w.statsd.useTcp ms).length
  pos : w.statsd.metricsBuflen ≠ 0

end World

structure Refines (w : World) (b : Batching CString) : Prop where
  addr : w.statsd.addr ≠ none
  opened : w.closed = false
  -- a sub-pool that is made next is not one of those that were destroyed
  fresh : ∀ k ∈ w.destroyed, k < w.nextPool
  idle : b.pending = [] → w.Idle
  holds : b.pending ≠ [] → ∃ k buf, w.Holds b.pending k buf
  emitted : w.carried.map Sendto.bytes = b.emitted.map (frame w.statsd.useTcp)
  attempts : ∀ s ∈ w.sends,
    s.live = true ∧ (s.len = 0 ∨ ∃ g ∈ b.emitted, s.bytes = frame w.statsd.useTcp g)

theorem idle_clearMetrics (w : World) : (clearMetrics w).Idle :=
  { pool := rfl
    ptr := rfl
    len := rfl }

/-- A send of the pending buffer shows the kernel exactly the pending batch. -/
theorem World.Holds.call_bytes {w : World} {ms : List CString} {k : Nat} {buf : Buf}
    (h : w.Holds ms k buf) (hopen : w.closed = false) (r : SendResult) :
    (w.call w.statsd.metricsBuf w.statsd.metricsBuflen r).live = true ∧
      (w.call w.statsd.metricsBuf w.statsd.metricsBuflen r).bytes = frame w.statsd.useTcp ms := by
  -- on TCP the text lives as long as the client, on UDP as long as its sub-pool
  have hl : w.live buf = true := by
    cases htcp : w.statsd.useTcp with
    | false => simp [World.live, h.inPool, htcp, h.kept]
    | true => simp [World.live, h.inPool, htcp, hopen]
  have hstrlen : w.statsd.metricsBuflen = buf.text.strlen := by
    rw [h.len, CString.strlen, h.text]
  refine ⟨by simp [World.call, h.ptr, hl], ?_⟩
  simp [World.call, Sendto.bytes, h.ptr, hl, hstrlen, CString.cells, h.text, frame]

theorem Attempts.send_of_quiet {o : Attempts} {w : World} (haddr : w.statsd.addr ≠ none)
    (ho : o.Quiet) (buf : Option Buf) (len : Nat) :
    o.send buf len w = { w with sends := w.sends ++ o.calls buf len w } := by
  cases hw : w.statsd.addr with
  | none => exact absurd hw haddr
  | some a => simp [Attempts.send, sendMetrics, hw, sendLoop_of_quiet buf len o w ho]

/-- The completed call of an undisturbed send, if it carries anything. -/
theorem World.carried_send (w : World) (buf : Option Buf) (len : Nat) (o : Attempts) :
    World.carried { w with sends := w.sends ++ o.calls buf len w } =
      w.carried ++ if len = 0 then [] else [w.call buf len (.completed o.completion)] := by
  -- first the completed calls, of which there is one, then those of them that carry something
  have hcalls : (o.calls buf len w).filter (fun s => s.isCompleted && s.len != 0) =
      ((o.calls buf len w).filter Sendto.isCompleted).filter (fun s => s.len != 0) := by
    rw [List.filter_filter]
    exact List.filter_congr (fun s _ => Bool.and_comm _ _)
  rw [World.carried, List.filter_append, hcalls, Attempts.filter_calls]
  by_cases h0 : len = 0
  · simp [World.carried, World.call, h0]
  · simp [World.carried, World.call, h0]

/-! ## Flushing -/

/-- Flushing with nothing pending changes nothing but the history. -/
theorem Refines.flush_idle {w : World} {b : Batching CString} (h : Refines w b) {o : Attempts}
    (ho : o.Quiet) (hp : b.pending = []) : Refines (sendAndClear o.send w) b := by
  have hidle := h.idle hp
  have hsend := Attempts.send_of_quiet h.addr ho w.statsd.metricsBuf w.statsd.metricsBuflen
  have hcarried := World.carried_send w w.statsd.metricsBuf w.statsd.metricsBuflen o
  rw [if_pos hidle.len, List.append_nil] at hcarried
  rw [sendAndClear, hsend]
  refine ⟨h.addr, h.opened, ?_, fun _ => idle_clearMetrics _, fun hne => absurd hp hne, ?_, ?_⟩
  · simpa [clearMetrics, hidle.pool] using h.fresh
  · calc
      (World.carried { w with
          sends := w.sends ++ o.calls w.statsd.metricsBuf w.statsd.metricsBuflen w }).map
            Sendto.bytes
          = w.carried.map Sendto.bytes := by rw [hcarried]
      _ = b.emitted.map (frame w.statsd.useTcp) := h.emitted
  · intro s hs
    rcases List.mem_append.1 hs with hold | hnew
    · exact h.attempts s hold
    · obtain ⟨r, rfl⟩ := Attempts.mem_calls hnew
      exact ⟨by simp [World.call, hidle.ptr], Or.inl hidle.len⟩

/-- Flushing a pending batch emits it. -/
theorem Refines.flush_holds {w : World} {b : Batching CString} (h : Refines w b)
    {o : Attempts} (ho : o.Quiet) (hne : b.pending ≠ []) :
    Refines (sendAndClear o.send w)
      { emitted := b.emitted ++ [b.pending], pending := [] } := by
  obtain ⟨k, buf, hholds⟩ := h.holds hne
  have hbytes := hholds.call_bytes h.opened
  have hsend := Attempts.send_of_quiet h.addr ho w.statsd.metricsBuf w.statsd.metricsBuflen
  have hcarried := World.carried_send w w.statsd.metricsBuf w.statsd.metricsBuflen o
  rw [if_neg hholds.pos] at hcarried
  rw [sendAndClear, hsend]
  refine ⟨h.addr, h.opened, ?_, fun _ => idle_clearMetrics _, fun hne => absurd rfl hne, ?_, ?_⟩
  · -- what is destroyed now was made before
    intro j hj
    have hj' : j = k ∨ j ∈ w.destroyed := by simpa [clearMetrics, hholds.pool] using hj
    rcases hj' with rfl | hold
    · exact hholds.made
    · exact h.fresh j hold
  · calc
      (World.carried { w with
          sends := w.sends ++ o.calls w.statsd.metricsBuf w.statsd.metricsBuflen w }).map
            Sendto.bytes
          = w.carried.map Sendto.bytes ++ [frame w.statsd.useTcp b.pending] := by
            rw [hcarried, List.map_append, List.map_singleton, (hbytes _).2]
      _ = (b.emitted ++ [b.pending]).map (frame w.statsd.useTcp) := by
            rw [h.emitted, List.map_append, List.map_singleton]
  · intro s hs
    rcases List.mem_append.1 hs with hold | hnew
    · obtain ⟨hlive, hempty | ⟨g, hg, hframe⟩⟩ := h.attempts s hold
      · exact ⟨hlive, Or.inl hempty⟩
      · exact ⟨hlive, Or.inr ⟨g, by simp [hg], hframe⟩⟩
    · obtain ⟨r, rfl⟩ := Attempts.mem_calls hnew
      exact ⟨(hbytes r).1, Or.inr ⟨b.pending, by simp, (hbytes r).2⟩⟩

theorem Refines.flush {w : World} {b : Batching CString} (h : Refines w b) {o : Attempts}
    (ho : o.Quiet) : Refines (sendAndClear o.send w) b.flush := by
  by_cases hp : b.pending = []
  · simpa [Batching.flush, hp] using h.flush_idle ho hp
  · simpa [Batching.flush, hp] using h.flush_holds ho hp

/-! ## Writing one metric -/

/-- The history of accepted metrics does not matter to the relation. -/
theorem Refines.accept {w : World} {b : Batching CString} (h : Refines w b) (m : CString) :
    Refines (w.accept m) b := by
  refine ⟨h.addr, h.opened, h.fresh, ?_, ?_, h.emitted, h.attempts⟩
  · intro hp
    exact ⟨(h.idle hp).pool, (h.idle hp).ptr, (h.idle hp).len⟩
  · intro hne
    obtain ⟨k, buf, hh⟩ := h.holds hne
    exact ⟨k, buf, hh.pool, hh.made, hh.kept, hh.ptr, hh.inPool, hh.text, hh.len, hh.pos⟩

/-- On UDP the overflow check makes room exactly when the abstract sender does. -/
theorem Refines.makeRoom {w : World} {b : Batching CString} (h : Refines w b)
    (hudp : w.statsd.useTcp = false) {o : Attempts} (m : CString)
    (ho : overflows w m.strlen → o.Quiet) :
    Refines (flushOverflow o.send m.strlen w) (b.makeRoom fits m) := by
  -- `metrics_buf != NULL` says that something is pending, `metrics_buflen` how long it is
  have hiff : overflows w m.strlen ↔ ¬ fits b.pending m := by
    by_cases hp : b.pending = []
    · have hbuf := (h.idle hp).ptr
      simp [overflows, fits, hp, hbuf]
    · obtain ⟨k, buf, hh⟩ := h.holds hp
      have hlen : w.statsd.metricsBuflen = (frameText false b.pending).length := hudp ▸ hh.len
      simp [overflows, fits, hp, hh.ptr, hlen]
  by_cases hf : fits b.pending m
  · have hno : ¬ overflows w m.strlen := fun hov => hiff.1 hov hf
    simpa [flushOverflow, hno, Batching.makeRoom, hf] using h
  · have hov : overflows w m.strlen := hiff.2 hf
    have hflush := h.flush (ho hov)
    simpa [flushOverflow, hov, Batching.makeRoom, hf] using hflush

/-- Storing a lone metric in a fresh sub-pool, as both transports do. -/
theorem Refines.store_lone {w : World} {b : Batching CString} (h : Refines w b) (m : CString)
    (text : CString) (pool : Pool) (hp : b.pending = [])
    (hin : pool = if w.statsd.useTcp then .client else .metrics w.nextPool)
    (htext : text.chars = frameText w.statsd.useTcp [m]) (hpos : text.strlen ≠ 0) :
    Refines (w.makeMetricsPool.setBuf (some { text := text, pool := pool }) text.strlen)
      (b.add m) := by
  refine ⟨h.addr, h.opened, ?_, ?_, ?_, h.emitted, h.attempts⟩
  · intro k hk
    exact Nat.lt_succ_of_lt (h.fresh k hk)
  · intro hadd
    simp [Batching.add] at hadd
  · intro _
    have hkept : w.nextPool ∉ w.destroyed := fun hmem =>
      Nat.lt_irrefl _ (h.fresh w.nextPool hmem)
    refine ⟨w.nextPool, { text := text, pool := pool }, ?_⟩
    have hadd : (b.add m).pending = [m] := by simp [Batching.add, hp]
    rw [hadd]
    exact
      { pool := rfl
        made := Nat.lt_succ_self _
        kept := hkept
        ptr := rfl
        inPool := hin
        text := htext
        len := by simp [World.setBuf, World.makeMetricsPool, CString.strlen, htext]
        pos := hpos }

theorem Refines.add_tcp {w : World} {b : Batching CString} (h : Refines w b)
    (htcp : w.statsd.useTcp = true) (hp : b.pending = []) (m : CString) :
    Refines (bufferTcp m m.strlen w) (b.add m) := by
  have htext : (m.pstrcat newline).chars = frameText w.statsd.useTcp [m] := by
    rw [htcp, frameText_singleton]
    rfl
  have hlen : (m.pstrcat newline).strlen = m.strlen + 1 := by
    rw [CString.strlen_pstrcat]
    rfl
  have hlone := h.store_lone m (m.pstrcat newline) .client hp (by simp [htcp]) htext (by omega)
  rw [hlen] at hlone
  simpa [bufferTcp] using hlone

theorem Refines.add_udp {w : World} {b : Batching CString} (h : Refines w b)
    (hudp : w.statsd.useTcp = false) {m : CString} (hm : m.strlen ≠ 0) :
    Refines (bufferUdp m m.strlen w) (b.add m) := by
  by_cases hp : b.pending = []
  · -- the first metric of a packet starts a buffer of its own
    have htext : m.chars = frameText w.statsd.useTcp [m] := by
      simp [hudp, frameText_singleton]
    have hlone := h.store_lone m m (.metrics w.nextPool) hp (by simp [hudp]) htext hm
    simpa [bufferUdp, (h.idle hp).ptr] using hlone
  · -- any other is appended behind a newline, from the same sub-pool
    obtain ⟨k, buf, hh⟩ := h.holds hp
    have heq : bufferUdp m m.strlen w =
        w.setBuf (some { text := (buf.text.pstrcat newline).pstrcat m, pool := .metrics k })
          (w.statsd.metricsBuflen + (m.strlen + 1)) := by
      simp [bufferUdp, hh.ptr, hh.pool]
    have hadd : (b.add m).pending = b.pending ++ [m] := rfl
    have hconcat := frameText_concat hp m
    have hbuf : buf.text.chars = frameText false b.pending := hudp ▸ hh.text
    have hlen : w.statsd.metricsBuflen = (frameText false b.pending).length := hudp ▸ hh.len
    rw [heq]
    refine ⟨h.addr, h.opened, h.fresh, ?_, ?_, h.emitted, h.attempts⟩
    · intro hnil
      simp [hadd] at hnil
    · intro _
      rw [hadd]
      refine ⟨k, { text := (buf.text.pstrcat newline).pstrcat m, pool := .metrics k }, ?_⟩
      exact
        { pool := hh.pool
          made := hh.made
          kept := hh.kept
          ptr := rfl
          inPool := by simp [World.setBuf, hudp]
          text := by simp [World.setBuf, hudp, hconcat, hbuf, newline, CString.lit]
          len := by simp [World.setBuf, hudp, hconcat, hlen, CString.strlen]
          pos := by simp [World.setBuf] }

@[simp] theorem addr_bufferMetric (o : Attempts) (metric : CString) (metricLen : Nat) (w : World) :
    (bufferMetric o.send metric metricLen w).statsd.addr = w.statsd.addr := by
  have h := congrArg Statsd.addr (config_bufferMetric o.keepsConfig_send metric metricLen w)
  simpa [Statsd.addr_config] using h

@[simp] theorem useTcp_sendAndClear (o : Attempts) (w : World) :
    (sendAndClear o.send w).statsd.useTcp = w.statsd.useTcp := by
  have h := congrArg Statsd.useTcp (o.keepsConfig_send.sendAndClear w)
  simpa [Statsd.useTcp_config] using h

/-- What the abstract sender does on one API call. -/
def Call.abstract (tcp : Bool) (b : Batching CString) : Call → Batching CString
  | .write metric _ flags _ _ => b.push fits (sendsNow tcp flags) metric
  | .flush _ => b.flush

def Call.attempts : Call → List Attempts
  | .write _ _ _ overflow now => [overflow, now]
  | .flush send => [send]

/-- The length passed to a write is the string's, and it is not zero. -/
def Call.SizedRight : Call → Prop
  | .write metric metricLen _ _ _ => metricLen = metric.strlen ∧ metricLen ≠ 0
  | .flush _ => True

/-- A correctly sized call that no handler interferes with. -/
structure Call.Plain (c : Call) : Prop where
  sized : c.SizedRight
  quiet : ∀ o ∈ c.attempts, o.Quiet

/-- Only the sends that the write makes need to be undisturbed. -/
theorem Refines.write {w : World} {b : Batching CString} (h : Refines w b)
    (hidle : w.statsd.useTcp = true → b.pending = []) {overflow now : Attempts} {m : CString}
    (hm : m.strlen ≠ 0) (flags : Flags) (ho : overflows w m.strlen → overflow.Quiet)
    (hn : sendsNow w.statsd.useTcp flags = true → now.Quiet) :
    Refines (writeMetricBuf overflow.send now.send m m.strlen flags w)
      (b.push fits (sendsNow w.statsd.useTcp flags) m) := by
  have haccept := h.accept m
  have hbuffered : Refines (bufferMetric overflow.send m m.strlen (w.accept m))
      ((b.makeRoom fits m).add m) := by
    cases htcp : w.statsd.useTcp with
    | true =>
        -- nothing is pending, so there is no room to make
        have hp := hidle htcp
        have hroom : b.makeRoom fits m = b := by simp [Batching.makeRoom, fits, hp]
        rw [hroom]
        simpa [bufferMetric, htcp] using haccept.add_tcp htcp hp m
    | false =>
        have hroom := haccept.makeRoom htcp m ho
        have hudp : (flushOverflow overflow.send m.strlen (w.accept m)).statsd.useTcp = false := by
          by_cases hov : overflows (w.accept m) m.strlen
          · simpa [flushOverflow, hov] using htcp
          · simpa [flushOverflow, hov] using htcp
        simpa [bufferMetric, htcp] using hroom.add_udp hudp hm
  cases hnow : sendsNow w.statsd.useTcp flags with
  | false => simpa [writeMetricBuf, hnow, Batching.push] using hbuffered
  | true => simpa [writeMetricBuf, hnow, Batching.push] using hbuffered.flush (hn hnow)

/-! ## Whole runs -/

theorem Call.run_write {metric : CString} {metricLen : Nat} (h : metricLen ≠ 0) (flags : Flags)
    (overflow now : Attempts) (w : World) :
    (Call.write metric metricLen flags overflow now).run w =
      writeMetricBuf overflow.send now.send metric metricLen flags w := by
  simp [Call.run, statsdStatsdWrite, h, Attempts.send]

theorem Call.run_flush (send : Attempts) (w : World) :
    (Call.flush send).run w = sendAndClear send.send w := by
  simp [Call.run, statsdStatsdFlush, Attempts.send]

@[simp] theorem useTcp_run (c : Call) (w : World) :
    (c.run w).statsd.useTcp = w.statsd.useTcp := by
  have h := congrArg Statsd.useTcp (config_run c w)
  simpa [Statsd.useTcp_config] using h

@[simp] theorem useTcp_runCalls (cs : List Call) (w : World) :
    (runCalls cs w).statsd.useTcp = w.statsd.useTcp := by
  have h := congrArg Statsd.useTcp (config_runCalls cs w)
  simpa [Statsd.useTcp_config] using h

/-- The relation between two API calls: on TCP nothing is ever left pending. -/
structure Synced (w : World) (b : Batching CString) : Prop where
  refines : Refines w b
  tcpIdle : w.statsd.useTcp = true → b.pending = []

theorem Synced.run {w : World} {b : Batching CString} (h : Synced w b) {c : Call}
    (hc : c.Plain) : Synced (c.run w) (c.abstract w.statsd.useTcp b) := by
  cases c with
  | write metric metricLen flags overflow now =>
      obtain ⟨hlen, hpos⟩ := hc.sized
      have ho : overflow.Quiet := hc.quiet overflow (by simp [Call.attempts])
      have hn : now.Quiet := hc.quiet now (by simp [Call.attempts])
      subst hlen
      refine ⟨?_, ?_⟩
      · rw [Call.run_write hpos]
        exact h.refines.write h.tcpIdle hpos flags (fun _ => ho) (fun _ => hn)
      · intro htcp
        have htcp' : w.statsd.useTcp = true := by simpa [useTcp_run] using htcp
        simp [Call.abstract, htcp', Batching.push]
  | flush send =>
      refine ⟨?_, fun _ => ?_⟩
      · rw [Call.run_flush]
        exact h.refines.flush (hc.quiet send (by simp [Call.attempts]))
      · simp [Call.abstract]

theorem Synced.runCalls {cs : List Call} :
    ∀ {w : World} {b : Batching CString}, Synced w b → (∀ c ∈ cs, c.Plain) →
      Synced (runCalls cs w) (cs.foldl (Call.abstract w.statsd.useTcp) b) := by
  induction cs with
  | nil =>
      intro w b h _
      exact h
  | cons c cs ih =>
      intro w b h hcs
      have hstep := h.run (hcs c (by simp))
      have hrest := ih hstep (fun c' hc' => hcs c' (by simp [hc']))
      rw [useTcp_run] at hrest
      simpa [ModStatsd.runCalls] using hrest

/-- A freshly opened client has nothing pending and has sent nothing. -/
theorem synced_start {env : SocketEnv} {addr : Option NetAddr} {useTcp : Bool} {sampling : ℚ}
    {prefixLabel suffixLabel : Option CString} {statsd : Statsd}
    (h : statsdStatsdOpen env addr useTcp sampling prefixLabel suffixLabel = .ok statsd) :
    Synced (World.start statsd) Batching.empty := by
  obtain ⟨a, fd, _, _, _, rfl⟩ := statsdStatsdOpen_ok h
  refine ⟨?_, fun _ => rfl⟩
  refine ⟨by simp [World.start, Statsd.fresh], rfl, by simp [World.start], ?_, ?_, rfl,
    by simp [World.start]⟩
  · intro _
    exact ⟨rfl, rfl, rfl⟩
  · intro hne
    exact absurd rfl hne

/-! ## The history of sends -/

section Sends

variable {P : Sendto → Prop}

/-- `P` holds of every `sendto` these attempts can make. -/
def Attempts.Ensures (P : Sendto → Prop) (o : Attempts) : Prop :=
  o.Quiet ∧ ∀ buf len w, ∀ s ∈ o.calls buf len w, P s

theorem Attempts.Ensures.sendAndClear {o : Attempts} (ho : o.Ensures P) {w : World}
    (haddr : w.statsd.addr ≠ none) (h : ∀ s ∈ w.sends, P s) :
    ∀ s ∈ (sendAndClear o.send w).sends, P s := by
  intro s hs
  rw [ModStatsd.sendAndClear, Attempts.send_of_quiet haddr ho.1] at hs
  rcases List.mem_append.1 hs with hold | hnew
  · exact h s hold
  · exact ho.2 _ _ _ s hnew

theorem sends_bufferUdp (metric : CString) (metricLen : Nat) (w : World) :
    (bufferUdp metric metricLen w).sends = w.sends := by
  cases hb : w.statsd.metricsBuf with
  | none => simp [bufferUdp, hb, World.setBuf, World.makeMetricsPool]
  | some buf => simp [bufferUdp, hb, World.setBuf]

theorem Attempts.Ensures.bufferMetric {o : Attempts} (ho : o.Ensures P) {w : World}
    (haddr : w.statsd.addr ≠ none) (h : ∀ s ∈ w.sends, P s) (metric : CString) (metricLen : Nat) :
    ∀ s ∈ (bufferMetric o.send metric metricLen w).sends, P s := by
  cases htcp : w.statsd.useTcp with
  | true =>
      simpa [ModStatsd.bufferMetric, htcp, bufferTcp, World.setBuf, World.makeMetricsPool] using h
  | false =>
      by_cases hov : overflows w metricLen
      · simpa [ModStatsd.bufferMetric, htcp, sends_bufferUdp, flushOverflow, hov] using
          ho.sendAndClear haddr h
      · simpa [ModStatsd.bufferMetric, htcp, sends_bufferUdp, flushOverflow, hov] using h

/-- A step adds only sends that its attempts make. -/
theorem forall_sends_run {c : Call} (hc : ∀ o ∈ c.attempts, o.Ensures P) {w : World}
    (haddr : w.statsd.addr ≠ none) (h : ∀ s ∈ w.sends, P s) : ∀ s ∈ (c.run w).sends, P s := by
  cases c with
  | write metric metricLen flags overflow now =>
      have ho : overflow.Ensures P := hc overflow (by simp [Call.attempts])
      have hn : now.Ensures P := hc now (by simp [Call.attempts])
      by_cases h0 : metricLen = 0
      · simpa [Call.run, statsdStatsdWrite, h0] using h
      · rw [Call.run_write h0]
        let w₁ := w.accept (metric.pstrndup metricLen)
        have hbuf := ho.bufferMetric (w := w₁) haddr h metric metricLen
        have haddr' : (bufferMetric overflow.send metric metricLen w₁).statsd.addr ≠ none := by
          simpa [w₁, World.accept] using haddr
        cases hnow : sendsNow w.statsd.useTcp flags with
        | false => simpa [writeMetricBuf, hnow] using hbuf
        | true => simpa [writeMetricBuf, hnow] using hn.sendAndClear haddr' hbuf
  | flush send =>
      rw [Call.run_flush]
      exact (hc send (by simp [Call.attempts])).sendAndClear haddr h

theorem addr_run (c : Call) (w : World) : (c.run w).statsd.addr = w.statsd.addr := by
  have h := congrArg Statsd.addr (config_run c w)
  simpa [Statsd.addr_config] using h

theorem forall_sends_runCalls {cs : List Call} :
    ∀ {w : World}, (∀ c ∈ cs, ∀ o ∈ c.attempts, o.Ensures P) → w.statsd.addr ≠ none →
      (∀ s ∈ w.sends, P s) → ∀ s ∈ (runCalls cs w).sends, P s := by
  induction cs with
  | nil =>
      intro w _ _ h
      exact h
  | cons c cs ih =>
      intro w hcs haddr h
      have hstep := forall_sends_run (hcs c (by simp)) haddr h
      have haddr' : (c.run w).statsd.addr ≠ none := by
        rw [addr_run]
        exact haddr
      exact ih (fun c' hc' => hcs c' (by simp [hc'])) haddr' hstep

end Sends

end ModStatsd
