import ModStatsd.Lib.Handles
import ModStatsd.Session.Coherence

/-!
# Descriptors — the sockets of a session

`statsd_statsd_open` asks for a socket, and closes it again if it cannot be connected;
`statsd_statsd_close` closes it at the end.  Over any number of HOST commands, each socket that a
session gets is closed once, by the time its client is, and none is closed that is not open
(`descriptors_balanced`).
-/

namespace ModStatsd

open Lib

/-! ## Sockets that are opened and closed -/

/-- The descriptors in `statsd_statsd_open`, when the arguments are valid. -/
def SocketEnv.handles (env : SocketEnv) (useTcp : Bool) : List (HandleOp Int) :=
  match env.socket with
  | .error _ => []
  | .ok fd =>
      match useTcp, env.connect with
      | true, .error _ => [.acquire fd, .release fd]
      | _, _ => [.acquire fd]

/-- The descriptors in `statsd_sess_init`, on a server. -/
def initHandles (conf : ServerConf) (env : InitEnv) : List (HandleOp Int) :=
  if conf.engine.getD false = false then []
  else
    match conf.server with
    | none => []
    | some c =>
        match env.resolve c.host with
        | none => []
        | some _ => env.socket.handles c.useTcp

/-- `statsd_statsd_close`, if there is a client. -/
def Session.closeHandles (s : Session) : List (HandleOp Int) :=
  match s.statsd with
  | some c => [.release c.statsd.fd]
  | none => []

namespace Event

def handles (s : Session) : Event → List (HandleOp Int)
  | .exit _ => s.closeHandles
  | .reinit conf env => s.closeHandles ++ initHandles conf env
  | .shutdown => s.closeHandles
  | _ => []

theorem handles_of_steady {e : Event} (he : e.Steady) (s : Session) : e.handles s = [] := by
  cases e with
  | exit env => exact absurd he Bool.false_ne_true.symm
  | reinit conf env => exact absurd he Bool.false_ne_true.symm
  | shutdown => exact absurd he Bool.false_ne_true.symm
  | _ => rfl

end Event

/-- What the events of a run do to descriptors. -/
def Session.handles : List Event → Session → List (HandleOp Int)
  | [], _ => []
  | e :: es, s => (if e.Delivered s then e.handles s else []) ++ Session.handles es (s.step e)

/-! ## The descriptor that is open -/

def Session.held (s : Session) : Multiset Int :=
  match s.statsd with
  | some c => {c.statsd.fd}
  | none => 0

theorem held_of_none {s : Session} (h : s.statsd = none) : s.held = 0 := by
  simp [Session.held, h]

theorem held_congr {s t : Session} (h : s.statsd = t.statsd) : s.held = t.held := by
  simp [Session.held, h]

/-- A socket is left open only if a client is returned. -/
theorem run_socket (env : SocketEnv) (addr : NetAddr) (useTcp : Bool)
    (prefixLabel suffixLabel : Option CString) :
    Handles.run 0 (env.handles useTcp) =
      some (match statsdStatsdOpen env (some addr) useTcp 1 prefixLabel suffixLabel with
        | .ok statsd => {statsd.fd}
        | .error _ => 0) := by
  have hrate : ¬ (1 : ℚ) < 0 := by norm_num
  cases hsocket : env.socket with
  | error xerrno => simp [SocketEnv.handles, statsdStatsdOpen, hsocket, hrate]
  | ok fd =>
      cases useTcp with
      | false => simp [SocketEnv.handles, statsdStatsdOpen, hsocket, hrate, Statsd.fresh]
      | true =>
          cases hconnect : env.connect with
          | error xerrno =>
              simp [SocketEnv.handles, statsdStatsdOpen, hsocket, hconnect, hrate]
          | ok _ =>
              simp [SocketEnv.handles, statsdStatsdOpen, hsocket, hconnect, hrate, Statsd.fresh]

theorem run_initHandles (env : InitEnv) {s : Session} (h : s.Cleared) :
    Handles.run 0 (initHandles s.mainServer env) = some (statsdSessInit env s).held := by
  have hheld : (statsdSessInit env s).held =
      match clientFor s.mainServer env with
      | some statsd => {statsd.fd}
      | none => 0 := by
    rw [statsdSessInit_cleared env h]
    cases clientFor s.mainServer env with
    | none => exact held_of_none h.statsd
    | some statsd => rfl
  rw [hheld]
  by_cases hengine : s.mainServer.engine.getD false = false
  · simp [initHandles, clientFor, hengine]
  · cases hserver : s.mainServer.server with
    | none => simp [initHandles, clientFor, hengine, hserver]
    | some c =>
        cases hresolve : env.resolve c.host with
        | none => simp [initHandles, clientFor, hengine, hserver, hresolve]
        | some ipstr =>
            have hrun := run_socket env.socket (serverAddr ipstr c.port) c.useTcp c.prefixLabel
              c.suffixLabel
            rcases hopen : statsdStatsdOpen env.socket (some (serverAddr ipstr c.port)) c.useTcp 1
                c.prefixLabel c.suffixLabel with xerrno | statsd
            · simpa [initHandles, clientFor, hengine, hserver, hresolve, hopen, Except.toOption]
                using hrun
            · simpa [initHandles, clientFor, hengine, hserver, hresolve, hopen, Except.toOption]
                using hrun

theorem run_closeHandles (s : Session) : Handles.run s.held s.closeHandles = some 0 := by
  cases hc : s.statsd with
  | none => simp [Session.held, Session.closeHandles, hc]
  | some c =>
      simp [Session.held, Session.closeHandles, hc]

/-! ## Sessions -/

theorem held_step (s : Session) (e : Event) :
    Handles.run s.held (if e.Delivered s then e.handles s else []) = some (s.step e).held := by
  rcases step_cases s e with hsteady | ⟨hd, hstep⟩ | ⟨env, rfl, hd, hstep⟩ |
    ⟨conf, env, rfl, hd, hstep⟩ | ⟨rfl, hd, hstep⟩
  · have hsame : (s.step e).held = s.held := by
      rw [sameModule_step hsteady s]
      exact held_congr rfl
    rw [e.handles_of_steady hsteady, ite_self, Handles.run_nil, hsame]
  · rw [hstep, if_neg hd, Handles.run_nil]
  · rw [hstep, if_pos hd, held_of_none (statsd_statsdExitEv env s)]
    exact run_closeHandles s
  · have hinit := run_initHandles env (cleared_reset { s with mainServer := conf })
    calc
      Handles.run s.held
          (if (Event.reinit conf env).Delivered s then (Event.reinit conf env).handles s else [])
          = (Handles.run s.held s.closeHandles).bind fun held =>
              Handles.run held (initHandles conf env) := by
            rw [if_pos hd, Event.handles, Handles.run_append]
      _ = Handles.run 0 (initHandles conf env) := by rw [run_closeHandles, Option.bind_some]
      _ = some (s.step (.reinit conf env)).held := by
            rw [hstep]
            exact hinit
  · rw [hstep, if_pos hd]
    exact run_closeHandles s

theorem held_run (es : List Event) :
    ∀ s : Session, Handles.run s.held (s.handles es) = some (s.run es).held := by
  induction es with
  | nil => exact fun s => rfl
  | cons e es ih =>
      intro s
      rw [Session.handles, Handles.run_append, held_step, Option.bind_some]
      exact ih (s.step e)

/-- At no time does a session close a descriptor that it does not hold, and it closes each one as often
as it gets it, but for the one of the client that is open. -/
theorem descriptors_balanced (conf : ServerConf) (env : InitEnv) (es : List Event) :
    let ops := initHandles conf env ++ (Session.start conf env).handles es
    (∀ before, before <+: ops → (Handles.run 0 before).isSome = true) ∧
      ∀ fd, Handles.acquired fd ops =
        Handles.released fd ops + ((Session.start conf env).run es).held.count fd := by
  intro ops
  have hrun : Handles.run 0 ops = some ((Session.start conf env).run es).held := by
    have hinit := run_initHandles env (cleared_initial conf)
    have hserver : (Session.initial conf).mainServer = conf := rfl
    rw [hserver] at hinit
    rw [Handles.run_append, hinit, Option.bind_some]
    exact held_run es (Session.start conf env)
  refine ⟨?_, ?_⟩
  · rintro before ⟨rest, hrest⟩
    rw [← hrest, Handles.run_append] at hrun
    rcases Option.bind_eq_some_iff.1 hrun with ⟨held, hheld, _⟩
    rw [hheld, Option.isSome_some]
  · intro fd
    have hbooks := Handles.count_run hrun fd
    rw [Multiset.count_zero, Nat.zero_add] at hbooks
    omega

end ModStatsd
