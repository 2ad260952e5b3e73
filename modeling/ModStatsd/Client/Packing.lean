import ModStatsd.Client.Delivery
import ModStatsd.Client.Pending
import ModStatsd.Lib.Cuts

/-!
# Packing — nobody needs fewer datagrams

On UDP a metric joins the pending packet whenever both fit, so the client cuts what is written to it
greedily.  `flush_datagrams_isLeast`: no way to cut the metrics, in order, into packets of at most
`STATSD_MAX_UDP_PACKET_SIZE` bytes needs fewer of them.

The count does not depend on what the client did before, so the relation here (`Packs`) looks at
less of the world than `Refines`, and starts from any client with nothing pending.
-/

namespace ModStatsd

open Lib

/-! ## Packets -/

/-- The metrics, joined by newlines, fit one datagram. -/
def FitsPacket (ms : List CString) : Prop :=
  (frameText false ms).length ≤ statsdMaxUdpPacketSize

instance (ms : List CString) : Decidable (FitsPacket ms) :=
  inferInstanceAs (Decidable (_ ≤ _))

theorem frameText_udp (ms : List CString) :
    frameText false ms = Lines.join '\n' (ms.map CString.chars) := by
  simp [frameText]

theorem FitsPacket.of_suffix {ms ms' : List CString} (h : FitsPacket ms') (hsuffix : ms <:+ ms') :
    FitsPacket ms := by
  have hle := Lines.length_join_le_of_suffix '\n' (hsuffix.map CString.chars)
  rw [← frameText_udp, ← frameText_udp] at hle
  exact hle.trans h

theorem FitsPacket.of_concat {ms : List CString} {m : CString} (h : FitsPacket (ms ++ [m])) :
    FitsPacket ms := by
  have hle := Lines.length_join_le_concat '\n' (ms.map CString.chars) m.chars
  have hmap : (ms ++ [m]).map CString.chars = ms.map CString.chars ++ [m.chars] := by simp
  rw [← hmap, ← frameText_udp, ← frameText_udp] at hle
  exact hle.trans h

theorem fitsPacket_singleton {m : CString} :
    FitsPacket [m] ↔ m.strlen ≤ statsdMaxUdpPacketSize := by
  simp [FitsPacket, frameText_singleton, CString.strlen]

/-- The overflow check counts the separator: a metric joins exactly if the packet still fits. -/
theorem fits_iff (ms : List CString) (m : CString) :
    fits ms m ↔ ms = [] ∨ FitsPacket (ms ++ [m]) := by
  by_cases hnil : ms = []
  · simp [fits, hnil]
  · have hlen : (frameText false (ms ++ [m])).length =
        (frameText false ms).length + m.strlen + 1 := by
      rw [frameText_concat hnil, List.length_append, List.length_cons, CString.strlen]
      omega
    rw [fits, FitsPacket, hlen]

/-! ## The client packs greedily -/

/-- The batches, as the client sees them: whether there is one pending, how long it is, and how many
datagrams have been sent since `before`. -/
structure Packs (before : List Sendto) (w : World) (b : Batching CString) : Prop where
  tidy : w.Tidy
  addr : w.statsd.addr ≠ none
  udp : w.statsd.useTcp = false
  pending : w.statsd.metricsBuf = none ↔ b.pending = []
  len : w.statsd.metricsBuflen = (frameText false b.pending).length
  sent : ∃ sent, w.sends = before ++ sent ∧ sent.countP Sendto.isCompleted = b.emitted.length

section Steps

variable {before : List Sendto} {w : World} {b : Batching CString}

theorem packs_of_idle (h : w.Idle) (haddr : w.statsd.addr ≠ none)
    (hudp : w.statsd.useTcp = false) : Packs w.sends w Batching.empty :=
  { tidy := World.tidy_of_idle h
    addr := haddr
    udp := hudp
    pending := by simp [h.ptr, Batching.empty]
    len := by simp [h.len, Batching.empty, frameText]
    sent := ⟨[], by simp, rfl⟩ }

/-- A send of the pending batch is one datagram, however often it is interrupted. -/
theorem Packs.flush (h : Packs before w b) (hne : b.pending ≠ []) {o : Attempts} (ho : o.Quiet) :
    Packs before (sendAndClear o.send w) b.flush := by
  have hidle := idle_sendAndClear o.send w
  have hconfig := o.keepsConfig_send.sendAndClear w
  have hflush : b.flush = { emitted := b.emitted ++ [b.pending], pending := [] } := by
    simp [Batching.flush, hne]
  rcases h.sent with ⟨sent, hsent, hcount⟩
  rw [hflush]
  refine
    { tidy := World.tidy_of_idle hidle
      addr := ?_
      udp := by simpa using h.udp
      pending := by simp [hidle.ptr]
      len := by simp [hidle.len, frameText]
      sent := ⟨sent ++ o.calls w.statsd.metricsBuf w.statsd.metricsBuflen w, ?_, ?_⟩ }
  · have haddr := congrArg Statsd.addr hconfig
    rw [Statsd.addr_config, Statsd.addr_config] at haddr
    rw [haddr]
    exact h.addr
  · rw [sendAndClear, Attempts.send_of_quiet h.addr ho, ← List.append_assoc, ← hsent]
    rfl
  · have hone : (o.calls w.statsd.metricsBuf w.statsd.metricsBuflen w).countP
        Sendto.isCompleted = 1 := by
      rw [List.countP_eq_length_filter, Attempts.filter_calls, List.length_singleton]
    rw [List.countP_append, hcount, hone, List.length_append, List.length_singleton]

theorem Packs.makeRoom (h : Packs before w b) (m : CString) {o : Attempts} (ho : o.Quiet) :
    Packs before (flushOverflow o.send m.strlen w) (b.makeRoom fits m) := by
  have hiff : overflows w m.strlen ↔ ¬ fits b.pending m := by
    rw [overflows, fits, h.len, Option.isSome_iff_ne_none, Ne, h.pending, not_or, not_le]
  by_cases hf : fits b.pending m
  · have hno : ¬ overflows w m.strlen := fun hov => hiff.1 hov hf
    simpa [flushOverflow, hno, Batching.makeRoom, hf] using h
  · have hov : overflows w m.strlen := hiff.2 hf
    have hne : b.pending ≠ [] := fun hnil => hf (Or.inl hnil)
    simpa [flushOverflow, hov, Batching.makeRoom, hf] using h.flush hne ho

theorem Packs.add (h : Packs before w b) {m : CString} (hm : m.strlen ≠ 0) :
    Packs before (bufferUdp m m.strlen w) (b.add m) := by
  rcases h.tidy.bufferUdp m hm with ⟨htidy, hsome⟩
  have hconfig := config_bufferUdp m m.strlen w
  have haddr := congrArg Statsd.addr hconfig
  have htcp := congrArg Statsd.useTcp hconfig
  rw [Statsd.addr_config, Statsd.addr_config] at haddr
  rw [Statsd.useTcp_config, Statsd.useTcp_config] at htcp
  refine
    { tidy := htidy
      addr := by rw [haddr]; exact h.addr
      udp := by rw [htcp]; exact h.udp
      pending := by simp [hsome, Batching.add]
      len := ?_
      sent := by rw [sends_bufferUdp]; exact h.sent }
  by_cases hp : b.pending = []
  · simp [bufferUdp, h.pending.2 hp, World.setBuf, Batching.add, hp, frameText_singleton,
      CString.strlen]
  · have hbuf : w.statsd.metricsBuf ≠ none := fun hnil => hp (h.pending.1 hnil)
    rcases Option.ne_none_iff_exists'.1 hbuf with ⟨buf, hbuf⟩
    simp [bufferUdp, hbuf, World.setBuf, Batching.add, frameText_concat hp, h.len, CString.strlen]

end Steps

/-! ## Whole runs -/

/-- A write of a metric that may be buffered, without `STATSD_STATSD_FL_SEND_NOW`; no handler
touches the client if it makes room. -/
def Call.Buffered : Call → Prop
  | .write metric metricLen flags overflow _ =>
      metricLen = metric.strlen ∧ 1 ≤ metricLen ∧ metricLen ≤ statsdMaxMetricSize ∧
        flags &&& flSendNow = 0#32 ∧ overflow.Quiet
  | .flush _ => False

theorem Call.Buffered.metric {c : Call} (h : c.Buffered) :
    ∃ m, c.metric? = some m ∧ FitsPacket [m] := by
  cases c with
  | write metric metricLen flags overflow now =>
      rcases h with ⟨hlen, _, hmax, _, _⟩
      exact ⟨metric, rfl, fitsPacket_singleton.2 (hlen ▸ hmax)⟩
  | flush send => exact h.elim

theorem Packs.run {before : List Sendto} {w : World} {b : Batching CString}
    (h : Packs before w b) {c : Call} (hc : c.Buffered) {m : CString} (hm : c.metric? = some m) :
    Packs before (c.run w) (b.push fits false m) := by
  cases c with
  | write metric metricLen flags overflow now =>
      rcases hc with ⟨hlen, hpos, _, hflags, ho⟩
      have hmetric : metric = m := by simpa [Call.metric?] using hm
      subst hlen hmetric
      have hne : metric.strlen ≠ 0 := Nat.one_le_iff_ne_zero.1 hpos
      have haccept : Packs before (w.accept (metric.pstrndup metric.strlen)) b :=
        ⟨⟨h.tidy.len, h.tidy.pool⟩, h.addr, h.udp, h.pending, h.len, h.sent⟩
      have hnow : sendsNow false flags = false := by simp [sendsNow, hflags]
      rw [Call.run_write hne]
      simpa [writeMetricBuf, bufferMetric, h.udp, hnow, Batching.push] using
        (haccept.makeRoom metric ho).add hne
  | flush send => exact hc.elim

theorem Packs.runCalls {before : List Sendto} {cs : List Call} :
    ∀ {w : World} {b : Batching CString}, Packs before w b → (∀ c ∈ cs, c.Buffered) →
      Packs before (runCalls cs w) ((written cs).foldl (fun b m => b.push fits false m) b) := by
  induction cs with
  | nil =>
      intro w b h _
      exact h
  | cons c cs ih =>
      intro w b h hcs
      have hc : c.Buffered := hcs c (by simp)
      rcases hc.metric with ⟨m, hm, _⟩
      have hwritten : written (c :: cs) = m :: written cs := by
        simp [written, hm]
      rw [ModStatsd.runCalls, hwritten, List.foldl_cons]
      exact ih (h.run hc hm) (fun d hd => hcs d (by simp [hd]))

/-- From an empty buffer, a sequence of writes and a flush send as few datagrams as can be. -/
theorem flush_datagrams_isLeast {w : World} (hidle : w.Idle) (haddr : w.statsd.addr ≠ none)
    (hudp : w.statsd.useTcp = false) {cs : List Call} (hne : cs ≠ []) (hcs : ∀ c ∈ cs, c.Buffered)
    {flushing : Attempts} (hflushing : flushing.Quiet) :
    ∃ sent, (statsdStatsdFlush flushing.send (runCalls cs w)).sends = w.sends ++ sent ∧
      IsLeast { n | ∃ gs, Cut FitsPacket (written cs) gs ∧ gs.length = n }
        (sent.countP Sendto.isCompleted) := by
  let b := (written cs).foldl (fun b m => b.push fits false m) Batching.empty
  have hrun : Packs w.sends (runCalls cs w) b := (packs_of_idle hidle haddr hudp).runCalls hcs
  have hlone : ∀ m ∈ written cs, FitsPacket [m] := by
    intro m hm
    rcases List.mem_filterMap.1 hm with ⟨c, hc, hcm⟩
    rcases (hcs c hc).metric with ⟨m', hm', hfits⟩
    have hsame : m' = m := by simpa [hm'] using hcm
    exact hsame ▸ hfits
  have hleast := Batching.isLeast_groups (fun g a _ => FitsPacket.of_concat)
    (fun g g' _ hsuffix hg' => FitsPacket.of_suffix hg' hsuffix) fits_iff (written cs) hlone
  -- the last write is still pending
  have hwritten : written cs ≠ [] := by
    rcases List.exists_mem_of_ne_nil cs hne with ⟨c, hc⟩
    rcases (hcs c hc).metric with ⟨m, hm, _⟩
    exact List.ne_nil_of_mem (List.mem_filterMap.2 ⟨c, hc, hm⟩)
  have hpending : b.pending ≠ [] := Batching.pending_run_ne_nil fits _ hwritten
  rcases (hrun.flush hpending hflushing).sent with ⟨sent, hsent, hcount⟩
  refine ⟨sent, hsent, ?_⟩
  rw [hcount]
  exact hleast

/-- `len` bytes of text. -/
def CString.filler (len : Nat) : CString :=
  { chars := List.replicate len 'a'
    noNul := by
      intro h
      exact absurd (List.eq_of_mem_replicate h) (by decide) }

/-- Three metrics of 255, 256 and 1 bytes: the first two fill a datagram to the last byte. -/
theorem flush_datagrams_isLeast_two :
    ∃ sent,
      (statsdStatsdFlush (Attempts.done .sent).send
        (runCalls
          ([255, 256, 1].map fun len =>
            .write (CString.filler len) len 0 (.done .sent) (.done .sent))
          (World.start (loopback false)))).sends = (World.start (loopback false)).sends ++ sent ∧
      IsLeast { n | ∃ gs, Cut FitsPacket ([255, 256, 1].map CString.filler) gs ∧ gs.length = n }
        (sent.countP Sendto.isCompleted) := by
  refine flush_datagrams_isLeast ⟨rfl, rfl, rfl⟩ (by simp [World.start, loopback, Statsd.fresh])
    rfl (by simp) ?_ rfl
  intro c hc
  rcases List.mem_map.1 hc with ⟨len, hlen, rfl⟩
  have hrange : 1 ≤ len ∧ len ≤ 512 := by
    simp only [List.mem_cons, List.not_mem_nil, or_false] at hlen
    omega
  exact ⟨by simp [CString.filler, CString.strlen], hrange.1, hrange.2, rfl, rfl⟩

end ModStatsd
