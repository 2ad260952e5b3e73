import ModStatsd.Client.Delivery

/-!
# Reentry — handlers that use the client while it is sending

`send_metrics` runs `pr_signals_handle()` when `sendto` is interrupted, and the handlers run there
may write to and flush the same client.  The interrupted loop goes on with the buffer and length it
was called with, and its caller then clears whatever is pending.

* `TransmittedOnce` — each accepted metric is in exactly one successful `sendto`, and no `sendto`
  reads freed memory;
* `Call.Harmless` — the handlers of a call, in the state they find the client in, do not collide
  with the send they interrupt;
* `transmitted_once_of_harmless` — a run of harmless calls transmits everything once.
-/

namespace ModStatsd

open Lib

/-! ## What is transmitted -/

namespace World

/-- The metrics in the buffers that a `sendto` took whole. -/
def transmitted (w : World) : List (List Cell) :=
  (w.sends.filter Sendto.isSent).flatMap Sendto.pieces

end World

/-- Every accepted metric went out once, and only allocated memory was read for it. -/
structure TransmittedOnce (w : World) : Prop where
  once : w.transmitted.Perm (w.accepted.map CString.cells)
  live : ∀ s ∈ w.sends, s.live = true

/-! ## Runs in which every send succeeds -/

mutual

/-- The call is valid, its sends that complete take the whole buffer, and so on for the calls the
handlers make. -/
def Call.Succeeds : Call → Prop
  | .write metric metricLen flags overflow now =>
      (Call.write metric metricLen flags overflow now).Valid ∧ overflow.Succeeds ∧ now.Succeeds
  | .flush send => send.Succeeds

def Attempts.Succeeds : Attempts → Prop
  | .done c => c = .sent
  | .eintr handled retry => callsSucceed handled ∧ retry.Succeeds

def callsSucceed : List Call → Prop
  | [] => True
  | c :: cs => c.Succeeds ∧ callsSucceed cs

end

/-! ## Handlers that do not collide with the send they interrupt -/

/-- Nothing is left pending on UDP after this call. -/
def Call.Empties : Call → Prop
  | .write _ _ flags _ _ => sendsNow false flags = true
  | .flush _ => True

/-- The last call the handlers make, if any, leaves nothing pending. -/
def Attempts.EndsEmpty (o : Attempts) : Prop :=
  ∀ c ∈ o.handled.getLast?, c.Empties

/-- The TCP client while the line of an accepted metric is being sent. -/
def lineBuffered (metric : CString) (metricLen : Nat) (w : World) : World :=
  bufferTcp metric metricLen (w.accept (metric.pstrndup metricLen))

mutual

/-- A handler must keep off a UDP buffer that is being sent.  A TCP line is sent from memory of its
own, so handlers may write, but must not flush the line once more.  While nothing is being sent,
handlers are free, as long as they leave nothing behind for `clear_metrics`. -/
def Call.Harmless : Call → World → Prop
  | .write metric metricLen flags overflow now, w =>
      if w.statsd.useTcp then
        now.Harmless (lineBuffered metric metricLen w).statsd.metricsBuf
          (lineBuffered metric metricLen w).statsd.metricsBuflen (lineBuffered metric metricLen w)
      -- a write sends when the packet is full and when it is told to, and not otherwise
      else (overflows w metricLen → overflow.Quiet) ∧ (sendsNow false flags = true → now.Quiet)
  | .flush send, w =>
      match w.statsd.metricsBuf with
      -- on TCP a buffer is there only while its line is being sent
      | some _ => w.statsd.useTcp = false ∧ send.Quiet
      | none =>
          send.Harmless none w.statsd.metricsBuflen w ∧
            (w.statsd.useTcp = false → send.EndsEmpty)

/-- The handlers that run during `send_metrics(statsd, buf, len)` make harmless calls. -/
def Attempts.Harmless : Attempts → Option Buf → Nat → World → Prop
  | .done _, _, _, _ => True
  | .eintr handled retry, buf, len, w =>
      callsHarmless handled (w.sendto buf len .eintr) ∧
        retry.Harmless buf len (runCalls handled (w.sendto buf len .eintr))

def callsHarmless : List Call → World → Prop
  | [], _ => True
  | c :: cs, w => c.Harmless w ∧ callsHarmless cs (c.run w)

end

instance (c : Call) : Decidable c.Empties :=
  match c with
  | .write _ _ flags _ _ => inferInstanceAs (Decidable (sendsNow false flags = true))
  | .flush _ => isTrue trivial

instance (o : Attempts) : Decidable o.EndsEmpty :=
  match h : o.handled.getLast? with
  | none => isTrue (by simp [Attempts.EndsEmpty, h])
  | some c => decidable_of_iff c.Empties (by simp [Attempts.EndsEmpty, h])

instance (o : Attempts) : Decidable o.Quiet :=
  decidable_of_iff (o.handled.isEmpty = true) (by simp [Attempts.Quiet])

mutual

def Call.decHarmless : (c : Call) → (w : World) → Decidable (c.Harmless w)
  | .write metric metricLen flags overflow now, w =>
      have := now.decHarmless (lineBuffered metric metricLen w).statsd.metricsBuf
        (lineBuffered metric metricLen w).statsd.metricsBuflen (lineBuffered metric metricLen w)
      decidable_of_iff (if w.statsd.useTcp then
        now.Harmless (lineBuffered metric metricLen w).statsd.metricsBuf
          (lineBuffered metric metricLen w).statsd.metricsBuflen (lineBuffered metric metricLen w)
        else (overflows w metricLen → overflow.Quiet) ∧ (sendsNow false flags = true → now.Quiet))
        Iff.rfl
  | .flush send, w =>
      have : Decidable (send.Harmless none w.statsd.metricsBuflen w) := send.decHarmless _ _ _
      match h : w.statsd.metricsBuf with
      | some _ => decidable_of_iff (w.statsd.useTcp = false ∧ send.Quiet)
          (by simp [Call.Harmless, h])
      | none => decidable_of_iff (send.Harmless none w.statsd.metricsBuflen w ∧
          (w.statsd.useTcp = false → send.EndsEmpty)) (by simp [Call.Harmless, h])

def Attempts.decHarmless : (o : Attempts) → (buf : Option Buf) → (len : Nat) → (w : World) →
    Decidable (o.Harmless buf len w)
  | .done _, _, _, _ => isTrue trivial
  | .eintr handled retry, buf, len, w =>
      have := decCallsHarmless handled (w.sendto buf len .eintr)
      have := retry.decHarmless buf len (runCalls handled (w.sendto buf len .eintr))
      inferInstanceAs (Decidable (callsHarmless handled (w.sendto buf len .eintr) ∧
        retry.Harmless buf len (runCalls handled (w.sendto buf len .eintr))))

def decCallsHarmless : (cs : List Call) → (w : World) → Decidable (callsHarmless cs w)
  | [], _ => isTrue trivial
  | c :: cs, w =>
      have := c.decHarmless w
      have := decCallsHarmless cs (c.run w)
      inferInstanceAs (Decidable (c.Harmless w ∧ callsHarmless cs (c.run w)))

end

instance (cs : List Call) (w : World) : Decidable (callsHarmless cs w) :=
  decCallsHarmless cs w

/-! ## TCP: every call transmits what it accepts -/

/-- `w'` comes from `w` by transmitting everything that was accepted meanwhile. -/
structure Progress (w w' : World) : Prop where
  accepted : ∃ ms, w'.accepted = w.accepted ++ ms ∧
    w'.transmitted.Perm (w.transmitted ++ ms.map CString.cells)
  live : (∀ s ∈ w.sends, s.live = true) → ∀ s ∈ w'.sends, s.live = true

theorem Progress.refl (w : World) : Progress w w :=
  { accepted := ⟨[], by simp, by simp⟩
    live := fun h => h }

theorem Progress.trans {w₁ w₂ w₃ : World} (h : Progress w₁ w₂) (h' : Progress w₂ w₃) :
    Progress w₁ w₃ := by
  -- what is accepted and transmitted in the two parts adds up, in some order
  rcases h.accepted with ⟨ms, hms, hperm⟩
  rcases h'.accepted with ⟨ms', hms', hperm'⟩
  refine ⟨⟨ms ++ ms', by simp [hms', hms], ?_⟩, fun hl => h'.live (h.live hl)⟩
  calc
    w₃.transmitted.Perm (w₂.transmitted ++ ms'.map CString.cells) := hperm'
    List.Perm _ ((w₁.transmitted ++ ms.map CString.cells) ++ ms'.map CString.cells) :=
      hperm.append_right _
    _ = w₁.transmitted ++ (ms ++ ms').map CString.cells := by simp

/-- A TCP client that is open, with a buffer only if its length is set. -/
structure TcpReady (w : World) : Prop where
  tcp : w.statsd.useTcp = true
  addr : w.statsd.addr ≠ none
  opened : w.closed = false
  empty : w.statsd.metricsBuf = none → w.statsd.metricsBuflen = 0

/-- Memory that only `statsd_statsd_close` frees. -/
def Lasting (buf : Option Buf) : Prop :=
  ∀ b ∈ buf, b.pool = .client

theorem Lasting.live {buf : Option Buf} (h : Lasting buf) {w : World} (hopen : w.closed = false)
    (len : Nat) (r : SendResult) : (w.call buf len r).live = true := by
  cases buf with
  | none => rfl
  | some b =>
      have hb : b.pool = .client := h b rfl
      simp [World.call, World.live, hb, hopen]

theorem transmitted_sendto (w : World) (buf : Option Buf) (len : Nat) (r : SendResult) :
    (w.sendto buf len r).transmitted = w.transmitted ++
      if (w.call buf len r).isSent then (w.call buf len r).pieces else [] := by
  cases hsent : (w.call buf len r).isSent with
  | false => simp [World.transmitted, World.sendto, hsent]
  | true => simp [World.transmitted, World.sendto, hsent]

theorem live_sendto {w : World} {buf : Option Buf} (hbuf : Lasting buf) (hopen : w.closed = false)
    (len : Nat) (r : SendResult) (h : ∀ s ∈ w.sends, s.live = true) :
    ∀ s ∈ (w.sendto buf len r).sends, s.live = true := by
  intro s hs
  rcases List.mem_append.1 hs with hold | hnew
  · exact h s hold
  · rw [List.mem_singleton.1 hnew]
    exact hbuf.live hopen len r

/-- An interrupted attempt transmits nothing. -/
theorem Progress.eintr {w : World} {buf : Option Buf} (hbuf : Lasting buf)
    (hopen : w.closed = false) (len : Nat) : Progress w (w.sendto buf len .eintr) := by
  have hnone : (w.call buf len .eintr).isSent = false := rfl
  refine ⟨⟨[], by simp [World.sendto], ?_⟩, live_sendto hbuf hopen len .eintr⟩
  rw [transmitted_sendto, hnone]
  simp

theorem TcpReady.sendto {w : World} (h : TcpReady w) (buf : Option Buf) (len : Nat)
    (r : SendResult) : TcpReady (w.sendto buf len r) :=
  { tcp := h.tcp
    addr := h.addr
    opened := h.opened
    empty := h.empty }

theorem TcpReady.accept {w : World} (h : TcpReady w) (m : CString) : TcpReady (w.accept m) :=
  { tcp := h.tcp
    addr := h.addr
    opened := h.opened
    empty := h.empty }

theorem TcpReady.clearMetrics {w : World} (h : TcpReady w) : TcpReady (clearMetrics w) :=
  { tcp := h.tcp
    addr := h.addr
    opened := h.opened
    empty := fun _ => rfl }

theorem Progress.clearMetrics {w w' : World} (h : Progress w w') :
    Progress w (clearMetrics w') :=
  { accepted := h.accepted
    live := h.live }

theorem Attempts.send_eq_sendLoop {w : World} (haddr : w.statsd.addr ≠ none) (o : Attempts)
    (buf : Option Buf) (len : Nat) : o.send buf len w = sendLoop o buf len w := by
  cases hw : w.statsd.addr with
  | none => exact absurd hw haddr
  | some a => simp [Attempts.send, sendMetrics, hw]

theorem TcpReady.bufferTcp {w : World} (h : TcpReady w) (metric : CString) (metricLen : Nat) :
    TcpReady (bufferTcp metric metricLen w) :=
  { tcp := h.tcp
    addr := h.addr
    opened := h.opened
    empty := by simp [ModStatsd.bufferTcp, World.setBuf] }

/-- The final, successful attempt transmits the line that was accepted. -/
theorem Progress.write {w w₀ : World} {m : CString} (hline : Lines.IsLine '\n' m.chars)
    (hprogress : Progress (bufferTcp m m.strlen (w.accept m)) w₀) (hopen : w₀.closed = false) :
    Progress w (w₀.sendto (bufferTcp m m.strlen (w.accept m)).statsd.metricsBuf
      (bufferTcp m m.strlen (w.accept m)).statsd.metricsBuflen (.completed .sent)) := by
  rcases hprogress.accepted with ⟨ms, hms, hperm⟩
  let buf : Option Buf := some { text := m.pstrcat newline, pool := .client }
  have hbuf : (bufferTcp m m.strlen (w.accept m)).statsd.metricsBuf = buf := by
    simp [bufferTcp, World.setBuf, buf]
  have hlen : (bufferTcp m m.strlen (w.accept m)).statsd.metricsBuflen =
      (m.pstrcat newline).strlen := by
    simp [bufferTcp, World.setBuf, newline, CString.lit, CString.strlen]
  have hlasting : Lasting buf := by simp [Lasting, buf]
  have hpieces : (w₀.call buf (m.pstrcat newline).strlen (.completed .sent)).pieces =
      [m.cells] := by
    have hlive : w₀.live { text := m.pstrcat newline, pool := .client } = true := by
      simp [World.live, hopen]
    have hcells : Lines.IsLine (Cell.byte '\n') m.cells := by
      refine ⟨by simpa [CString.cells] using hline.1, ?_⟩
      rw [CString.mem_cells]
      exact hline.2
    have hbytes : (w₀.call buf (m.pstrcat newline).strlen (.completed .sent)).bytes =
        m.cells ++ [Cell.byte '\n'] := by
      simp only [World.call, Sendto.bytes, buf, Option.map_some, Option.getD_some, hlive,
        if_true, CString.read_strlen, CString.cells_pstrcat]
      rfl
    rw [Sendto.pieces, hbytes]
    exact Lines.pieces_terminated hcells
  rw [hbuf, hlen]
  -- `m` was accepted before what the handlers wrote, and transmitted after it
  refine ⟨⟨m :: ms, ?_, ?_⟩, ?_⟩
  · have hacc : (bufferTcp m m.strlen (w.accept m)).accepted = w.accepted ++ [m] := rfl
    simpa [World.sendto, hacc] using hms
  · have hsame : (bufferTcp m m.strlen (w.accept m)).transmitted = w.transmitted := rfl
    have hsent : (w₀.call buf (m.pstrcat newline).strlen (.completed .sent)).isSent = true := rfl
    rw [transmitted_sendto, hsent, if_pos rfl, hpieces]
    calc
      (w₀.transmitted ++ [m.cells]).Perm
          ((w.transmitted ++ ms.map CString.cells) ++ [m.cells]) := by
            simpa [hsame] using hperm.append_right [m.cells]
      List.Perm _ (w.transmitted ++ ([m.cells] ++ ms.map CString.cells)) := by
            rw [List.append_assoc]
            exact List.Perm.append_left _ List.perm_append_comm
      _ = w.transmitted ++ (m :: ms).map CString.cells := by simp
  · intro hlive
    exact live_sendto hlasting hopen _ _ (hprogress.live hlive)

/-- A successful send of nothing transmits nothing. -/
theorem Progress.sendto_nothing {w w₀ : World} (h : Progress w w₀) (hopen : w₀.closed = false) :
    Progress w (w₀.sendto none 0 (.completed .sent)) := by
  rcases h.accepted with ⟨ms, hms, hperm⟩
  have hpieces : (w₀.call none 0 (.completed .sent)).pieces = [] := by
    simp [Sendto.pieces, World.call, Sendto.bytes]
  have hsame : (w₀.sendto none 0 (.completed .sent)).transmitted = w₀.transmitted := by
    simp [transmitted_sendto, hpieces]
  refine ⟨⟨ms, hms, by simpa [hsame] using hperm⟩, fun hl => ?_⟩
  exact live_sendto (by simp [Lasting]) hopen 0 _ (h.live hl)

mutual

/-- By recursion on the attempts: the handlers make progress, and the buffer survives them. -/
theorem tcp_sendLoop : ∀ (o : Attempts) (buf : Option Buf) (len : Nat) (w : World),
    TcpReady w → Lasting buf → o.Succeeds → o.Harmless buf len w →
      ∃ w₀, Progress w w₀ ∧ TcpReady w₀ ∧
        sendLoop o buf len w = w₀.sendto buf len (.completed .sent)
  | .done c, buf, len, w, hready, _, hsucc, _ => by
      have hc : c = .sent := by simpa [Attempts.Succeeds] using hsucc
      exact ⟨w, .refl w, hready, by simp [sendLoop, hc]⟩
  | .eintr handled retry, buf, len, w, hready, hbuf, hsucc, hharmless => by
      have hsucc' : callsSucceed handled ∧ retry.Succeeds := by
        simpa [Attempts.Succeeds] using hsucc
      have hharmless' := hharmless
      rw [Attempts.Harmless] at hharmless'
      -- the handlers make progress of their own, then the retry goes on with the old buffer
      have hhandled := tcp_runCalls handled (w.sendto buf len .eintr) (hready.sendto buf len .eintr)
        hsucc'.1 hharmless'.1
      rcases tcp_sendLoop retry buf len _ hhandled.2 hbuf hsucc'.2 hharmless'.2 with
        ⟨w₀, hprogress, hready₀, hloop⟩
      refine ⟨w₀, ?_, hready₀, by simpa [sendLoop] using hloop⟩
      exact ((Progress.eintr hbuf hready.opened len).trans hhandled.1).trans hprogress

theorem tcp_runCalls : ∀ (cs : List Call) (w : World), TcpReady w → callsSucceed cs →
    callsHarmless cs w → Progress w (runCalls cs w) ∧ TcpReady (runCalls cs w)
  | [], w, hready, _, _ => ⟨.refl w, hready⟩
  | c :: cs, w, hready, hsucc, hharmless => by
      have hsucc' : c.Succeeds ∧ callsSucceed cs := by simpa [callsSucceed] using hsucc
      have hharmless' : c.Harmless w ∧ callsHarmless cs (c.run w) := by
        simpa [callsHarmless] using hharmless
      have hstep := tcp_run c w hready hsucc'.1 hharmless'.1
      have hrest := tcp_runCalls cs (c.run w) hstep.2 hsucc'.2 hharmless'.2
      rw [runCalls]
      exact ⟨hstep.1.trans hrest.1, hrest.2⟩

theorem tcp_run : ∀ (c : Call) (w : World), TcpReady w → c.Succeeds → c.Harmless w →
    Progress w (c.run w) ∧ TcpReady (c.run w)
  | .write metric metricLen flags overflow now, w, hready, hsucc, hharmless => by
      rw [Call.Succeeds] at hsucc
      rcases hsucc with ⟨⟨hline, hlen, hmax⟩, -, hnow⟩
      have hpos : metricLen ≠ 0 := by
        rw [hlen]
        simpa [CString.strlen] using hline.1
      subst hlen
      -- `w'` is the client when the loop is entered, `w₀` when its last attempt is made
      let w' := bufferTcp metric metric.strlen (w.accept metric)
      have hready' : TcpReady w' := (hready.accept metric).bufferTcp metric metric.strlen
      have hlasting : Lasting w'.statsd.metricsBuf := by
        simp [Lasting, w', bufferTcp, World.setBuf]
      have hquiet : now.Harmless w'.statsd.metricsBuf w'.statsd.metricsBuflen w' := by
        simpa [Call.Harmless, lineBuffered, hready.tcp] using hharmless
      rcases tcp_sendLoop now w'.statsd.metricsBuf w'.statsd.metricsBuflen w' hready' hlasting
        hnow hquiet with ⟨w₀, hprogress, hready₀, hloop⟩
      have hrun : (Call.write metric metric.strlen flags overflow now).run w =
          clearMetrics (w₀.sendto w'.statsd.metricsBuf w'.statsd.metricsBuflen
            (.completed .sent)) := by
        have hsend := now.send_eq_sendLoop hready'.addr w'.statsd.metricsBuf
          w'.statsd.metricsBuflen
        rw [Call.run_write hpos]
        simp [writeMetricBuf, bufferMetric, hready.tcp, sendAndClear, w', hloop, hsend]
      rw [hrun]
      exact ⟨(Progress.write hline hprogress hready₀.opened).clearMetrics,
        (hready₀.sendto _ _ _).clearMetrics⟩
  | .flush send, w, hready, hsucc, hharmless => by
      rw [Call.Succeeds] at hsucc
      cases hbuf : w.statsd.metricsBuf with
      | some buf =>
          -- flushing a line that is being sent would duplicate it
          have htcp : w.statsd.useTcp = false := by
            have hpair : w.statsd.useTcp = false ∧ send.Quiet := by
              simpa [Call.Harmless, hbuf] using hharmless
            exact hpair.1
          simp [hready.tcp] at htcp
      | none =>
          have hlen := hready.empty hbuf
          have hhandled : send.Harmless none 0 w := by
            have hpair : send.Harmless none w.statsd.metricsBuflen w ∧
                (w.statsd.useTcp = false → send.EndsEmpty) := by
              simpa [Call.Harmless, hbuf] using hharmless
            simpa [hlen] using hpair.1
          rcases tcp_sendLoop send none 0 w hready (by simp [Lasting]) hsucc hhandled with
            ⟨w₀, hprogress, hready₀, hloop⟩
          have hrun : (Call.flush send).run w =
              clearMetrics (w₀.sendto none 0 (.completed .sent)) := by
            rw [Call.run_flush, sendAndClear, hbuf, hlen, send.send_eq_sendLoop hready.addr, hloop]
          rw [hrun]
          exact ⟨(hprogress.sendto_nothing hready₀.opened).clearMetrics,
            (hready₀.sendto _ _ _).clearMetrics⟩

end

/-! ## UDP: handled calls join the run they interrupt -/

/-- The client refines the batching sender, whose history is what was accepted. -/
structure Tracked (w : World) (b : Batching CString) : Prop where
  udp : w.statsd.useTcp = false
  refines : Refines w b
  history : b.history = w.accepted
  bounded : Batching.Bounded (GoodBatch CString.IsLine false) b

/-- A send of nothing only adds to the history of sends. -/
theorem Refines.sendto_nothing {w : World} {b : Batching CString} (h : Refines w b)
    (r : SendResult) : Refines (w.sendto none 0 r) b := by
  have hlen : (w.call none 0 r).len = 0 := rfl
  refine ⟨h.addr, h.opened, h.fresh, ?_, ?_, ?_, ?_⟩
  · intro hp
    exact ⟨(h.idle hp).pool, (h.idle hp).ptr, (h.idle hp).len⟩
  · intro hne
    rcases h.holds hne with ⟨k, buf, hh⟩
    exact ⟨k, buf, hh.pool, hh.made, hh.kept, hh.ptr, hh.inPool, hh.text, hh.len, hh.pos⟩
  · have hcarried : (w.sendto none 0 r).carried = w.carried := by
      simp [World.carried, World.sendto, hlen]
    rw [hcarried]
    exact h.emitted
  · intro s hs
    rcases List.mem_append.1 hs with hold | hnew
    · exact h.attempts s hold
    · rw [List.mem_singleton.1 hnew]
      exact ⟨rfl, Or.inl rfl⟩

theorem Tracked.sendto_nothing {w : World} {b : Batching CString} (h : Tracked w b)
    (r : SendResult) : Tracked (w.sendto none 0 r) b :=
  { udp := h.udp
    refines := h.refines.sendto_nothing r
    history := h.history
    bounded := h.bounded }

/-- Clearing a client that has nothing pending changes nothing. -/
theorem Tracked.clearMetrics {w : World} {b : Batching CString} (h : Tracked w b)
    (hp : b.pending = []) : Tracked (clearMetrics w) b := by
  have hidle := h.refines.idle hp
  refine ⟨h.udp, ?_, h.history, h.bounded⟩
  refine ⟨h.refines.addr, h.refines.opened, ?_, fun _ => idle_clearMetrics w,
    fun hne => absurd hp hne, h.refines.emitted, h.refines.attempts⟩
  simpa [ModStatsd.clearMetrics, hidle.pool] using h.refines.fresh

theorem accepted_sendAndClear {o : Attempts} {w : World} (haddr : w.statsd.addr ≠ none)
    (ho : o.Quiet) : (sendAndClear o.send w).accepted = w.accepted := by
  have hsend := Attempts.send_of_quiet haddr ho w.statsd.metricsBuf w.statsd.metricsBuflen
  simp [sendAndClear, hsend, clearMetrics]

theorem accepted_bufferUdp (metric : CString) (metricLen : Nat) (w : World) :
    (bufferUdp metric metricLen w).accepted = w.accepted := by
  cases hb : w.statsd.metricsBuf with
  | none => simp [bufferUdp, hb, World.setBuf, World.makeMetricsPool]
  | some buf => simp [bufferUdp, hb, World.setBuf]

theorem accepted_flushOverflow {o : Attempts} {w : World} (haddr : w.statsd.addr ≠ none)
    {metricLen : Nat} (ho : overflows w metricLen → o.Quiet) :
    (flushOverflow o.send metricLen w).accepted = w.accepted := by
  by_cases hov : overflows w metricLen
  · simpa [flushOverflow, hov] using accepted_sendAndClear haddr (ho hov)
  · simp [flushOverflow, hov]

theorem accepted_writeMetricBuf {w : World} (haddr : w.statsd.addr ≠ none)
    (hudp : w.statsd.useTcp = false) {metric : CString} (flags : Flags)
    {overflow now : Attempts} (ho : overflows w metric.strlen → overflow.Quiet)
    (hn : sendsNow false flags = true → now.Quiet) :
    (writeMetricBuf overflow.send now.send metric metric.strlen flags w).accepted =
      w.accepted ++ [metric] := by
  let w' := bufferMetric overflow.send metric metric.strlen (w.accept metric)
  have hbuffered : w'.accepted = w.accepted ++ [metric] := by
    have hroom : (flushOverflow overflow.send metric.strlen (w.accept metric)).accepted =
        (w.accept metric).accepted := accepted_flushOverflow (w := w.accept metric) haddr ho
    simp only [w', bufferMetric, World.statsd_accept, hudp, Bool.false_eq_true, if_false,
      accepted_bufferUdp, hroom]
    rfl
  cases hnow : sendsNow false flags with
  | false => simpa [writeMetricBuf, hudp, hnow] using hbuffered
  | true =>
      have haddr' : w'.statsd.addr ≠ none := by simpa [w'] using haddr
      have hsent := accepted_sendAndClear haddr' (hn hnow)
      simpa [writeMetricBuf, hudp, hnow, w', hsent] using hbuffered

theorem Tracked.flush {w : World} {b : Batching CString} (h : Tracked w b) {o : Attempts}
    (ho : o.Quiet) : Tracked (sendAndClear o.send w) b.flush :=
  { udp := by simpa using h.udp
    refines := h.refines.flush ho
    history := by
      rw [accepted_sendAndClear h.refines.addr ho, Batching.history_flush]
      exact h.history
    bounded := h.bounded.flush }

/-- A write whose sends are undisturbed pushes one metric. -/
theorem Tracked.write {w : World} {b : Batching CString} (h : Tracked w b) {metric : CString}
    (hline : Lines.IsLine '\n' metric.chars) (hmax : metric.strlen ≤ statsdMaxMetricSize)
    (flags : Flags) {overflow now : Attempts} (ho : overflows w metric.strlen → overflow.Quiet)
    (hn : sendsNow false flags = true → now.Quiet) :
    Tracked (writeMetricBuf overflow.send now.send metric metric.strlen flags w)
      (b.push fits (sendsNow false flags) metric) := by
  have hudp := h.udp
  have hpos : metric.strlen ≠ 0 := by simpa [CString.strlen] using hline.1
  have hconfig := config_writeMetricBuf overflow.keepsConfig_send now.keepsConfig_send metric
    metric.strlen flags w
  have htcp : (writeMetricBuf overflow.send now.send metric metric.strlen flags w).statsd.useTcp =
      w.statsd.useTcp := by
    simpa [Statsd.useTcp_config] using congrArg Statsd.useTcp hconfig
  refine ⟨htcp.trans hudp, ?_, ?_, bounded_push h.bounded (by simp) _ hline hmax⟩
  · have hrefines := h.refines.write (by simp [hudp]) hpos flags ho (by simpa [hudp] using hn)
    simpa [hudp] using hrefines
  · rw [Batching.history_push, h.history, accepted_writeMetricBuf h.refines.addr hudp flags ho hn]

mutual

/-- By recursion on the attempts of a send of nothing.  `b.pending = []` is needed only where no
handler runs; otherwise the last call handled leaves nothing pending. -/
theorem udp_sendLoop : ∀ (o : Attempts) (w : World) (b : Batching CString), Tracked w b →
    o.Succeeds → o.Harmless none 0 w → (o.handled = [] → b.pending = []) → o.EndsEmpty →
      ∃ b', Tracked (sendLoop o none 0 w) b' ∧ b'.pending = []
  | .done c, w, b, h, _, _, hidle, _ =>
      ⟨b, h.sendto_nothing (.completed c), hidle rfl⟩
  | .eintr handled retry, w, b, h, hsucc, hharmless, hidle, hends => by
      have hsucc' : callsSucceed handled ∧ retry.Succeeds := by
        simpa [Attempts.Succeeds] using hsucc
      have hharmless' := hharmless
      rw [Attempts.Harmless] at hharmless'
      rcases udp_runCalls handled _ b (h.sendto_nothing .eintr) hsucc'.1 hharmless'.1 with
        ⟨b₁, h₁, hempty⟩
      -- if these handlers were the last, their last call has emptied the buffer
      have hidle₁ : retry.handled = [] → b₁.pending = [] := by
        intro hretry
        cases hcs : handled with
        | nil =>
            have hb : b.pending = [] := hidle (by simp [Attempts.handled, hcs, hretry])
            exact hempty (fun _ => hb) (by simp [hcs])
        | cons c cs =>
            refine hempty (by simp [hcs]) ?_
            simpa [Attempts.EndsEmpty, Attempts.handled, hretry] using hends
      -- if there are more, the last call is one of theirs
      have hends₁ : retry.EndsEmpty := by
        intro c hc
        refine hends c ?_
        have hne : retry.handled ≠ [] := by
          intro hnil
          simp [hnil] at hc
        have hlast : (handled ++ retry.handled).getLast? = retry.handled.getLast? :=
          List.getLast?_append_of_ne_nil _ hne
        simpa [Attempts.handled, hlast] using hc
      simpa [sendLoop] using udp_sendLoop retry _ b₁ h₁ hsucc'.2 hharmless'.2 hidle₁ hends₁

theorem udp_runCalls : ∀ (cs : List Call) (w : World) (b : Batching CString), Tracked w b →
    callsSucceed cs → callsHarmless cs w →
      ∃ b', Tracked (runCalls cs w) b' ∧
        ((cs = [] → b.pending = []) → (∀ c ∈ cs.getLast?, c.Empties) → b'.pending = [])
  | [], w, b, h, _, _ => ⟨b, h, fun hidle _ => hidle rfl⟩
  | c :: cs, w, b, h, hsucc, hharmless => by
      have hsucc' : c.Succeeds ∧ callsSucceed cs := by simpa [callsSucceed] using hsucc
      have hharmless' : c.Harmless w ∧ callsHarmless cs (c.run w) := by
        simpa [callsHarmless] using hharmless
      rcases udp_run c w b h hsucc'.1 hharmless'.1 with ⟨b₁, h₁, hempty₁⟩
      rcases udp_runCalls cs (c.run w) b₁ h₁ hsucc'.2 hharmless'.2 with ⟨b₂, h₂, hempty₂⟩
      refine ⟨b₂, by simpa [runCalls] using h₂, fun _ hlast => ?_⟩
      refine hempty₂ ?_ ?_
      · intro hnil
        exact hempty₁ (by simpa [hnil] using hlast)
      · intro d hd
        refine hlast d ?_
        have hne : cs ≠ [] := by
          intro hnil
          simp [hnil] at hd
        simpa [List.getLast?_cons_of_ne_nil hne] using hd

theorem udp_run : ∀ (c : Call) (w : World) (b : Batching CString), Tracked w b → c.Succeeds →
    c.Harmless w → ∃ b', Tracked (c.run w) b' ∧ (c.Empties → b'.pending = [])
  | .write metric metricLen flags overflow now, w, b, h, hsucc, hharmless => by
      rw [Call.Succeeds] at hsucc
      rcases hsucc with ⟨⟨hline, hlen, hmax⟩, -, -⟩
      subst hlen
      have hpos : metric.strlen ≠ 0 := by simpa [CString.strlen] using hline.1
      have hquiet : (overflows w metric.strlen → overflow.Quiet) ∧
          (sendsNow false flags = true → now.Quiet) := by
        simpa [Call.Harmless, h.udp] using hharmless
      refine ⟨b.push fits (sendsNow false flags) metric, ?_, ?_⟩
      · rw [Call.run_write hpos]
        exact h.write hline hmax flags hquiet.1 hquiet.2
      · intro hnow
        have hnow' : sendsNow false flags = true := hnow
        simp [Batching.push, hnow']
  | .flush send, w, b, h, hsucc, hharmless => by
      rw [Call.Succeeds] at hsucc
      rw [Call.run_flush]
      by_cases hp : b.pending = []
      · -- an empty buffer is sent, and whatever the handlers leave is cleared
        have hidle := h.refines.idle hp
        have hpair : send.Harmless none 0 w ∧ send.EndsEmpty := by
          simpa [Call.Harmless, hidle.ptr, hidle.len, h.udp] using hharmless
        rcases udp_sendLoop send w b h hsucc hpair.1 (fun _ => hp) hpair.2 with ⟨b', h', hp'⟩
        refine ⟨b', ?_, fun _ => hp'⟩
        rw [sendAndClear, hidle.ptr, hidle.len, send.send_eq_sendLoop h.refines.addr]
        exact h'.clearMetrics hp'
      · -- a pending packet is sent, and no handler may touch it
        rcases h.refines.holds hp with ⟨k, buf, hh⟩
        have hquiet : send.Quiet := by
          have hpair : w.statsd.useTcp = false ∧ send.Quiet := by
            simpa [Call.Harmless, hh.ptr] using hharmless
          exact hpair.2
        exact ⟨b.flush, h.flush hquiet, fun _ => Batching.pending_flush b⟩

end

/-! ## What completes is sent -/

namespace World

def AllSent (w : World) : Prop :=
  ∀ s ∈ w.sends, s.isCompleted = true → s.isSent = true

theorem AllSent.sendto {w : World} (h : w.AllSent) (buf : Option Buf) (len : Nat) {r : SendResult}
    (hr : r = .eintr ∨ r = .completed .sent) : (w.sendto buf len r).AllSent := by
  intro s hs hdone
  rcases List.mem_append.1 hs with hold | hnew
  · exact h s hold hdone
  · rw [List.mem_singleton.1 hnew] at hdone ⊢
    rcases hr with rfl | rfl
    · simp [call, Sendto.isCompleted] at hdone
    · rfl

end World

/-- Attempts that only add interrupted and successful sends. -/
def Attempts.KeepsSent (o : Attempts) : Prop :=
  ∀ buf len w, World.AllSent w → (sendLoop o buf len w).AllSent

theorem Attempts.KeepsSent.sendAndClear {o : Attempts} (ho : o.KeepsSent) {w : World}
    (h : w.AllSent) : (sendAndClear (sendMetrics (sendLoop o)) w).AllSent := by
  cases hw : w.statsd.addr with
  | none => simpa [ModStatsd.sendAndClear, sendMetrics, hw, clearMetrics, World.AllSent] using h
  | some a =>
      simpa [ModStatsd.sendAndClear, sendMetrics, hw, clearMetrics, World.AllSent] using
        ho w.statsd.metricsBuf w.statsd.metricsBuflen w h

theorem Attempts.KeepsSent.writeMetricBuf {overflow now : Attempts} (ho : overflow.KeepsSent)
    (hn : now.KeepsSent) (metric : CString) (metricLen : Nat) (flags : Flags) {w : World}
    (h : w.AllSent) :
    (writeMetricBuf (sendMetrics (sendLoop overflow)) (sendMetrics (sendLoop now)) metric
      metricLen flags w).AllSent := by
  let w₁ := w.accept (metric.pstrndup metricLen)
  have h₁ : w₁.AllSent := h
  have hbuffered :
      (bufferMetric (sendMetrics (sendLoop overflow)) metric metricLen w₁).AllSent := by
    cases htcp : w.statsd.useTcp with
    | true => simpa [bufferMetric, w₁, htcp, bufferTcp, World.setBuf, World.makeMetricsPool,
          World.AllSent] using h₁
    | false =>
        by_cases hov : overflows w₁ metricLen
        · simpa [bufferMetric, w₁, htcp, flushOverflow, hov, World.AllSent, sends_bufferUdp] using
            ho.sendAndClear h₁
        · simpa [bufferMetric, w₁, htcp, flushOverflow, hov, World.AllSent, sends_bufferUdp] using
            h₁
  cases hnow : sendsNow w.statsd.useTcp flags with
  | false => simpa [ModStatsd.writeMetricBuf, hnow] using hbuffered
  | true => simpa [ModStatsd.writeMetricBuf, hnow] using hn.sendAndClear hbuffered

mutual

theorem keepsSent_of_succeeds : ∀ (o : Attempts), o.Succeeds → o.KeepsSent
  | .done c, hsucc, buf, len, w, h => by
      have hc : c = .sent := by simpa [Attempts.Succeeds] using hsucc
      exact h.sendto buf len (Or.inr (by rw [hc]))
  | .eintr handled retry, hsucc, buf, len, w, h => by
      have hsucc' : callsSucceed handled ∧ retry.Succeeds := by
        simpa [Attempts.Succeeds] using hsucc
      have hhandled := allSent_runCalls handled _ hsucc'.1 (h.sendto buf len (Or.inl rfl))
      simpa [sendLoop] using keepsSent_of_succeeds retry hsucc'.2 buf len _ hhandled

theorem allSent_runCalls : ∀ (cs : List Call) (w : World), callsSucceed cs → w.AllSent →
    (runCalls cs w).AllSent
  | [], w, _, h => h
  | c :: cs, w, hsucc, h => by
      have hsucc' : c.Succeeds ∧ callsSucceed cs := by simpa [callsSucceed] using hsucc
      exact allSent_runCalls cs (c.run w) hsucc'.2 (allSent_run c w hsucc'.1 h)

theorem allSent_run : ∀ (c : Call) (w : World), c.Succeeds → w.AllSent → (c.run w).AllSent
  | .write metric metricLen flags overflow now, w, hsucc, h => by
      rw [Call.Succeeds] at hsucc
      rcases hsucc with ⟨-, ho, hn⟩
      have ho' := keepsSent_of_succeeds overflow ho
      have hn' := keepsSent_of_succeeds now hn
      by_cases h0 : metricLen = 0
      · simpa [Call.run, statsdStatsdWrite, h0] using h
      · simpa [Call.run, statsdStatsdWrite, h0] using ho'.writeMetricBuf hn' metric metricLen flags h
  | .flush send, w, hsucc, h => by
      rw [Call.Succeeds] at hsucc
      exact (keepsSent_of_succeeds send hsucc).sendAndClear h

end

theorem World.AllSent.transmitted_eq {w : World} (h : w.AllSent) :
    w.transmitted = w.carried.flatMap Sendto.pieces := by
  rw [World.transmitted, World.carried]
  unfold World.AllSent at h
  generalize w.sends = sends at h
  induction sends with
  | nil => rfl
  | cons s sends ih =>
      have hrest := ih (fun t ht => h t (by simp [ht]))
      have hhead := h s (by simp)
      cases hr : s.result with
      | eintr => simpa [Sendto.isSent, Sendto.isCompleted, hr] using hrest
      | completed c =>
          have hc : c = .sent := by
            cases c with
            | sent => rfl
            | short n => simp [Sendto.isSent, Sendto.isCompleted, hr] at hhead
            | failed e => simp [Sendto.isSent, Sendto.isCompleted, hr] at hhead
          by_cases h0 : s.len = 0
          · -- nothing was shown to the kernel
            have hnil : s.pieces = [] := by
              have hbytes : s.bytes = [] := List.length_eq_zero_iff.1 (by simpa using h0)
              simp [Sendto.pieces, hbytes]
            simpa [Sendto.isSent, Sendto.isCompleted, hr, hc, h0, hnil] using hrest
          · simpa [Sendto.isSent, Sendto.isCompleted, hr, hc, h0] using hrest

/-! ## Re-entrancy -/

theorem runCalls_concat (cs : List Call) (c : Call) :
    ∀ w : World, runCalls (cs ++ [c]) w = c.run (runCalls cs w) := by
  induction cs with
  | nil =>
      intro w
      simp [runCalls]
  | cons d cs ih =>
      intro w
      simpa [runCalls] using ih (d.run w)

theorem transmittedOnce_of_tcp {w : World} (hready : TcpReady w) (hsends : w.sends = [])
    (haccepted : w.accepted = []) {cs : List Call} (hsucc : callsSucceed cs)
    (hharmless : callsHarmless cs w) : TransmittedOnce (runCalls cs w) := by
  have hprogress := (tcp_runCalls cs w hready hsucc hharmless).1
  rcases hprogress.accepted with ⟨ms, hms, hperm⟩
  have hnone : w.transmitted = [] := by simp [World.transmitted, hsends]
  refine ⟨?_, hprogress.live (by simp [hsends])⟩
  simpa [hms, haccepted, hnone] using hperm

theorem transmittedOnce_of_udp {w : World} (h : Tracked w Batching.empty) (hsent : w.AllSent)
    {cs : List Call} {send : Attempts} (hsucc : callsSucceed (cs ++ [.flush send]))
    (hharmless : callsHarmless (cs ++ [.flush send]) w) :
    TransmittedOnce (runCalls (cs ++ [.flush send]) w) := by
  rcases udp_runCalls _ w _ h hsucc hharmless with ⟨b, hb, hempty⟩
  -- the run ends with a flush
  have hp : b.pending = [] := by
    refine hempty (fun _ => rfl) ?_
    intro c hc
    have hc' : c = .flush send := by simpa using hc.symm
    rw [hc']
    trivial
  have hgood : ∀ g ∈ b.emitted,
      GoodBatch CString.IsLine (runCalls (cs ++ [.flush send]) w).statsd.useTcp g := by
    simpa [h.udp] using hb.bounded.emitted
  have hpieces : (runCalls (cs ++ [.flush send]) w).transmitted =
      (runCalls (cs ++ [.flush send]) w).accepted.map CString.cells := by
    calc
      (runCalls (cs ++ [.flush send]) w).transmitted
          = (runCalls (cs ++ [.flush send]) w).carried.flatMap Sendto.pieces :=
            (allSent_runCalls _ w hsucc hsent).transmitted_eq
      _ = b.emitted.flatten.map CString.cells := hb.refines.pieces_carried hgood
      _ = b.history.map CString.cells := by simp [Batching.history, hp]
      _ = (runCalls (cs ++ [.flush send]) w).accepted.map CString.cells := by rw [hb.history]
  exact ⟨.of_eq hpieces, fun s hs => (hb.refines.attempts s hs).1⟩

/-- When the handlers of every call keep clear of the send they interrupt, every metric accepted,
by the outer calls or by the handlers, is transmitted once. -/
theorem transmitted_once_of_harmless {env : SocketEnv} {addr : Option NetAddr} {useTcp : Bool}
    {sampling : ℚ} {prefixLabel suffixLabel : Option CString} {statsd : Statsd}
    (hopen : statsdStatsdOpen env addr useTcp sampling prefixLabel suffixLabel = .ok statsd)
    {cs : List Call} {closing : Attempts} (hsucc : callsSucceed (cs ++ [.flush closing]))
    (hharmless : callsHarmless (cs ++ [.flush closing]) (World.start statsd)) :
    TransmittedOnce (statsdStatsdClose closing.send (runCalls cs (World.start statsd))) := by
  have hrefines := (synced_start hopen).refines
  have hrun : TransmittedOnce (runCalls (cs ++ [.flush closing]) (World.start statsd)) := by
    cases htcp : (World.start statsd).statsd.useTcp with
    | true =>
        have hready : TcpReady (World.start statsd) :=
          { tcp := htcp
            addr := hrefines.addr
            opened := rfl
            empty := fun _ => (hrefines.idle rfl).len }
        exact transmittedOnce_of_tcp hready rfl rfl hsucc hharmless
    | false =>
        have htracked : Tracked (World.start statsd) Batching.empty :=
          { udp := htcp
            refines := hrefines
            history := rfl
            bounded := Batching.bounded_empty _ }
        exact transmittedOnce_of_udp htracked (by simp [World.AllSent, World.start]) hsucc hharmless
  rw [runCalls_concat, Call.run_flush] at hrun
  exact ⟨hrun.once, hrun.live⟩

/-- A handler writes while an idle UDP client is flushed, and the next one flushes. -/
theorem transmitted_once_of_harmless_udp :
    TransmittedOnce
      (statsdStatsdClose (Attempts.done .sent).send
        (runCalls
          [.flush (.eintr [.write (CString.lit "a:1|c") 5 0 (.done .sent) (.done .sent)]
              (.eintr [.flush (.done .sent)] (.done .sent))),
            .write (CString.lit "b:2|c") 5 0 (.done .sent) (.done .sent)]
          (World.start (loopback false)))) := by
  refine transmitted_once_of_harmless (statsdStatsdOpen_loopback false) ?_ (by decide)
  simp only [List.cons_append, List.nil_append, callsSucceed, Call.Succeeds, Attempts.Succeeds,
    Call.Valid]
  decide

/-- A metric is sent at once, and `handler` runs when that send is interrupted. -/
def interrupted (handler : Call) : List Call :=
  [.write (CString.lit "a:1|c") 5 flSendNow (.done .sent) (.eintr [handler] (.done .sent))]

def interruptedRun (useTcp : Bool) (handler : Call) : World :=
  statsdStatsdClose (Attempts.done .sent).send
    (runCalls (interrupted handler) (World.start (loopback useTcp)))

def handlerWrite : Call :=
  .write (CString.lit "b:2|c") 5 0 (.done .sent) (.done .sent)

def handlerFlush : Call :=
  .flush (.done .sent)

/-- On UDP a metric written by the handler is dropped by the outer `clear_metrics`, and a flush by
the handler makes the outer loop send freed memory; on TCP that flush sends the line twice. -/
theorem handler_collides :
    (callsSucceed (interrupted handlerWrite) ∧ callsSucceed (interrupted handlerFlush)) ∧
    ((interruptedRun false handlerWrite).accepted = [CString.lit "a:1|c", CString.lit "b:2|c"] ∧
      (interruptedRun false handlerWrite).transmitted = [(CString.lit "a:1|c").cells] ∧
      ¬ TransmittedOnce (interruptedRun false handlerWrite)) ∧
    ((∃ s ∈ (interruptedRun false handlerFlush).sends, s.live = false) ∧
      ¬ TransmittedOnce (interruptedRun false handlerFlush)) ∧
    (interruptedRun true handlerFlush).transmitted =
        [(CString.lit "a:1|c").cells, (CString.lit "a:1|c").cells] ∧
      ¬ TransmittedOnce (interruptedRun true handlerFlush) := by
  refine ⟨?_, ⟨by decide, by decide, ?_⟩, ⟨by decide, ?_⟩, by decide, ?_⟩
  · simp only [interrupted, handlerWrite, handlerFlush, callsSucceed, Call.Succeeds,
      Attempts.Succeeds, Call.Valid]
    decide
  · intro h
    exact absurd h.once (by decide)
  · intro h
    exact absurd h.live (by decide)
  · intro h
    exact absurd h.once (by decide)

end ModStatsd
