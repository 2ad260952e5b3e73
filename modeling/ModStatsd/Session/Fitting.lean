import ModStatsd.Metric.Wire
import ModStatsd.Session.Calls

/-!
# Fitting — when every line of a session fits its buffer

A line that is too long is cut, and one with a newline in it is two.  Names are put together from what
the FTP client and other modules say (`Event.texts`), so the module cannot rule either out by itself.
When these texts are short and without newlines, as are the labels, all lines fit (`lines_fit`), and
what is known of lines that fit holds of the whole session: `sane_session_delivers`.
-/

namespace ModStatsd

open Lib

/-! ## Texts from outside -/

/-- What others have a say in among the names of an event. -/
def Event.texts : Event → List CString
  | .command cmd _ env => cmd.argv0 :: (env.tlsCipher.toList ++ env.tlsProtocol.toList)
  | .exit env => [env.protocol]
  | _ => []

/-- The response code of a command. -/
def Event.responses : Event → List CString
  | .command _ _ env => env.response.toList
  | _ => []

/-- Texts have at most `n` bytes and no newline, and response codes have three digits. -/
structure Event.Sane (n : Nat) (e : Event) : Prop where
  texts : ∀ text ∈ e.texts, '\n' ∉ text.chars ∧ text.strlen ≤ n
  responses : ∀ code ∈ e.responses, '\n' ∉ code.chars ∧ code.strlen ≤ 3

/-- The labels leave room for texts of `n` bytes. -/
structure Statsd.LeavesRoom (n : Nat) (statsd : Statsd) : Prop where
  prefixLabel : '\n' ∉ (CString.orEmpty statsd.prefixLabel).chars
  suffixLabel : '\n' ∉ (CString.orEmpty statsd.suffixLabel).chars
  room : (CString.orEmpty statsd.prefixLabel).strlen + (CString.orEmpty statsd.suffixLabel).strlen +
    n ≤ 469

/-! ## Names -/

/-- The name is at most 25 bytes longer than a text. -/
def Named (n : Nat) (name : CString) : Prop :=
  '\n' ∉ name.chars ∧ name.strlen ≤ n + 25

theorem named_of_short {n : Nat} {name : CString} (hnewline : '\n' ∉ name.chars)
    (hlen : name.strlen ≤ 25) : Named n name :=
  ⟨hnewline, hlen.trans (Nat.le_add_left 25 n)⟩

/-- A fixed beginning and a text. -/
theorem named_pstrcat {n : Nat} {before text : CString} (hbefore : '\n' ∉ before.chars)
    (htext : '\n' ∉ text.chars) (hlen : before.strlen + text.strlen ≤ n + 25) :
    Named n (before.pstrcat text) :=
  ⟨by simp [hbefore, htext], by simpa using hlen⟩

theorem named_cmd {n : Nat} {cmd : CString} {response : Option CString}
    (hcmd : '\n' ∉ cmd.chars ∧ cmd.strlen ≤ n)
    (hresponse : ∀ code ∈ response, '\n' ∉ code.chars ∧ code.strlen ≤ 3) :
    Named n (getCmdMetric cmd response) := by
  have hcode : ∃ code : CString, ('\n' ∉ code.chars ∧ code.strlen ≤ 3) ∧
      (getCmdMetric cmd response).chars =
        "command.".toList ++ cmd.chars ++ ".".toList ++ code.chars := by
    by_cases hquit : cmd.chars.map Char.toLower = "quit".toList
    · exact ⟨CString.lit "221", by decide, by simp [getCmdMetric, hquit, CString.lit]⟩
    · cases hr : response with
      | none =>
          refine ⟨CString.lit "-", by decide, ?_⟩
          simp only [getCmdMetric, if_neg hquit, CString.chars_format]
          simp [CString.lit]
      | some code =>
          refine ⟨code, hresponse code hr, ?_⟩
          simp only [getCmdMetric, if_neg hquit, CString.chars_format]
          simp [CString.lit]
  rcases hcode with ⟨code, ⟨hnewline, hlen⟩, hchars⟩
  refine ⟨by simp [hchars, hcmd.1, hnewline], ?_⟩
  have hstrlen : (getCmdMetric cmd response).strlen = 8 + cmd.strlen + 1 + code.strlen := by
    simp [CString.strlen, hchars]
    omega
  rw [hstrlen]
  omega

theorem named_conn {n : Nat} {proto : CString} (h : '\n' ∉ proto.chars ∧ proto.strlen ≤ n) :
    Named n (getConnMetric (some proto)) := by
  have hlen : (CString.lit ".connection").strlen = 11 := rfl
  exact named_pstrcat h.1 (by decide) (by omega)

theorem named_names {n : Nat} {e : Event} (h : e.Sane n) : ∀ name ∈ e.names, Named n name := by
  cases e with
  | command cmd hadError env =>
      intro name hname
      simp only [Event.names, List.mem_append, List.mem_cons, List.not_mem_nil, or_false,
        List.mem_map, Option.mem_toList] at hname
      have htls : ∀ (before text : CString), '\n' ∉ before.chars → before.strlen ≤ 9 →
          '\n' ∉ text.chars ∧ text.strlen ≤ n → Named n (getTlsMetric (before.pstrcat text)) := by
        intro before text hbefore hlen htext
        have htotal : (CString.lit "tls.").strlen = 4 := rfl
        exact named_pstrcat (by decide) (by simp [hbefore, htext.1]) (by simp; omega)
      rcases hname with ((rfl | rfl | rfl | rfl) | ⟨cipher, hcipher, rfl⟩) | ⟨protocol, hprotocol, rfl⟩
      · exact named_cmd (h.texts cmd.argv0 (by simp [Event.texts]))
          fun code hcode => h.responses code (by simpa [Event.responses] using hcode)
      · exact named_of_short (by decide) (by decide)
      · exact named_of_short (by decide) (by decide)
      · exact named_of_short (by decide) (by decide)
      · exact htls _ cipher (by decide) (by decide) (h.texts cipher (by simp [Event.texts, hcipher]))
      · exact htls _ protocol (by decide) (by decide)
          (h.texts protocol (by simp [Event.texts, hprotocol]))
  | exit env =>
      intro name hname
      simp only [Event.names, List.mem_cons, List.not_mem_nil, or_false] at hname
      rcases hname with rfl | rfl | rfl
      · exact named_of_short (by decide) (by decide)
      · exact named_conn (h.texts env.protocol List.mem_cons_self)
      · exact named_of_short (by decide) (by decide)
  | log level =>
      intro name hname
      rw [List.mem_singleton.1 hname]
      cases level <;> exact named_of_short (by decide) (by decide)
  | reinit conf env => exact fun name hname => absurd hname List.not_mem_nil
  | shutdown => exact fun name hname => absurd hname List.not_mem_nil
  | _ =>
      intro name hname
      rw [List.mem_singleton.1 hname]
      exact named_of_short (by decide) (by decide)

/-! ## Lines -/

/-- The name is at most 25 bytes longer than a text, and the value takes at most 12. -/
def ClientOp.Modest (n : Nat) : ClientOp → Prop
  | .metric m => Named n m.name ∧ m.valueText.length ≤ 12
  | _ => True

/-- A sign, and an adjustment of at most ten digits. -/
theorem length_valueText_adjust_le (name : CString) {val : Int64} (h : val.toInt.natAbs < 10 ^ 10) :
    (MetricCall.gauge name val flGaugeAdjust).valueText.length ≤ 12 := by
  have hdigits := Decimal.length_int_le (by norm_num) h
  have hsign : (gaugeField val flGaugeAdjust).1.chars.length ≤ 1 := by
    have hadjust : hasFlag flGaugeAdjust flGaugeAdjust = true := rfl
    by_cases hpos : val > 0
    · simp [gaugeField, hadjust, hpos, CString.lit]
    · by_cases hneg : val < 0
      · simp [gaugeField, hadjust, hpos, hneg, CString.lit]
      · simp [gaugeField, hadjust, hpos, hneg, CString.empty]
  calc
    (MetricCall.gauge name val flGaugeAdjust).valueText.length
        = (gaugeField val flGaugeAdjust).1.chars.length + (Decimal.int val.toInt).length :=
          List.length_append
    _ ≤ 1 + 11 := Nat.add_le_add hsign hdigits

theorem length_valueText_timer_le (name : CString) (ms : UInt64) :
    (MetricCall.timer name ms 0).valueText.length ≤ 12 := by
  have hvalue : (MetricCall.timer name ms 0).valueText =
      Decimal.int (min (ms.toNat : Int) 31536000000) :=
    valueText_eq (m := .timer name ms 0) id
  rw [hvalue]
  exact Decimal.length_int_le (k := 11) (by norm_num) (by omega)

theorem modest_of_routine {n : Nat} {names : List CString} (hnames : ∀ name ∈ names, Named n name)
    {op : ClientOp} (h : op.Routine names) : op.Modest n := by
  cases h with
  | @count name flags hname =>
      have hvalue : (MetricCall.counter name 1 flags).valueText = Decimal.int (1 : Int64).toInt :=
        valueText_eq (m := .counter name 1 flags) id
      exact ⟨hnames name hname, hvalue ▸ by decide⟩
  | @time name ms hname => exact ⟨hnames name hname, length_valueText_timer_le name ms⟩
  | @up name hname => exact ⟨hnames name hname, length_valueText_adjust_le name (by decide)⟩
  | @down name hname => exact ⟨hnames name hname, length_valueText_adjust_le name (by decide)⟩
  | @settle name count hname hcount =>
      have hlt := count.toNat_lt
      have hvalue : (sqlExitAdjustment count).toInt.natAbs < 10 ^ 10 := by
        rw [toInt_sqlExitAdjustment hcount]
        omega
      exact ⟨hnames name hname, length_valueText_adjust_le name hvalue⟩
  | flush => exact trivial
  | close => exact trivial

theorem newline_not_mem_neutralName {name : CString} (h : '\n' ∉ name.chars) :
    '\n' ∉ neutralName name := by
  intro hmem
  rcases List.mem_map.1 hmem with ⟨c, hc, heq⟩
  by_cases hreserved : c ∈ [':', '|', '@']
  · rw [if_pos hreserved] at heq
    exact absurd heq (by decide)
  · rw [if_neg hreserved] at heq
    exact h (heq ▸ hc)

/-- Unless the client samples, a line is made up of the name, the value and the type. -/
theorem chars_line_of_one {statsd : Statsd} (hone : statsd.sampling = 1) (m : MetricCall) :
    (m.line statsd).chars =
      m.fullName statsd ++ ':' :: (m.valueText ++ '|' :: m.type.text) := by
  have hunrated : ¬ m.Rated statsd := by
    rcases rate_cases statsd m with ⟨hrated, hsampling, _⟩ | ⟨hunrated, _⟩
    · have hlt : m.sampling statsd < 1 := hrated
      exact absurd hlt (by rw [hsampling, hone]; norm_num)
    · exact hunrated
  rw [m.chars_line, if_neg hunrated, List.append_nil]

theorem fits_of_modest {n : Nat} {statsd : Statsd} (hroom : statsd.LeavesRoom n)
    (hone : statsd.sampling = 1) {m : MetricCall} (h : (ClientOp.metric m).Modest n) :
    (m.line statsd).IsLine ∧ (m.line statsd).strlen ≤ MetricCall.maxLine := by
  rcases h with ⟨⟨hnewline, hname⟩, hvalue⟩
  have hchars := chars_line_of_one hone m
  have hfull : m.fullName statsd = (CString.orEmpty statsd.prefixLabel).chars ++
      neutralName m.name ++ (CString.orEmpty statsd.suffixLabel).chars := by
    rw [MetricCall.fullName, chars_sanitizeName]
  have htypes : ∀ t : MetricType, '\n' ∉ t.text ∧ t.text.length ≤ 2 := by
    intro t
    cases t <;> decide
  have htype := htypes m.type
  constructor
  · have hvalueText : '\n' ∉ m.valueText := not_mem_valueText ⟨by decide, by decide, by decide, by decide⟩ m
    have hneutral := newline_not_mem_neutralName hnewline
    refine ⟨?_, ?_⟩
    · simp [hchars]
    · simp [hchars, hfull, hroom.prefixLabel, hroom.suffixLabel, hneutral, hvalueText, htype.1]
  · have hneutral : (neutralName m.name).length = m.name.strlen := List.length_map _
    have hlabels := hroom.room
    have hmax : MetricCall.maxLine = 510 := rfl
    simp only [CString.strlen, hchars, hfull, List.length_append, List.length_cons, hneutral]
    simp only [CString.strlen] at hlabels hname ⊢
    omega

/-! ## Sessions -/

/-- Every line of a session fits, if the texts from outside are short and without newlines. -/
theorem lines_fit {n : Nat} (conf : ServerConf) (env : InitEnv) {es : List Event}
    (hsane : ∀ e ∈ es, e.Sane n) {c : Client}
    (hknown : ((Session.start conf env).run es).Knows c) (hroom : c.statsd.LeavesRoom n) :
    ∀ line ∈ ((Session.start conf env).run es).lines c,
      line.IsLine ∧ line.strlen ≤ MetricCall.maxLine := by
  rcases known_clientFor conf env es c hknown with ⟨conf', env', hclient⟩
  have hone := (clientFor_opened hclient).sampling_eq
  have hopening : ∀ op ∈ openingCalls, op.Modest n := by
    intro op hop
    rcases List.mem_cons.1 hop with rfl | hflush
    · exact ⟨named_of_short (by decide) (by decide), length_valueText_adjust_le _ (by decide)⟩
    · rw [List.mem_singleton.1 hflush]
      exact trivial
  have hmodest := Session.forall_calls_run hopening conf env
    (fun e he s op hop => modest_of_routine (named_names (hsane e he)) (e.routine_calls s op hop)) c.id
  intro line hline
  rcases List.mem_filterMap.1 hline with ⟨op, hop, hopline⟩
  cases op with
  | metric m =>
      rw [← Option.some.inj hopline]
      exact fits_of_modest hroom hone (hmodest (.metric m) hop)
  | flush => exact absurd hopline (Option.some_ne_none line).symm
  | close => exact absurd hopline (Option.some_ne_none line).symm

/-- A client that a session has closed delivered what it was called for, whatever the session was, if
the texts from outside are short and without newlines. -/
theorem sane_session_delivers {n : Nat} (conf : ServerConf) (env : InitEnv) {es : List Event}
    (hsane : ∀ e ∈ es, e.Sane n) {c : Client}
    (hknown : ((Session.start conf env).run es).Knows c)
    (hclosed : ((Session.start conf env).run es).statsd ≠ some c) (hroom : c.statsd.LeavesRoom n)
    {made : List MadeCall}
    (hmade : made.map MadeCall.op = ((Session.start conf env).run es).calls c.id)
    (hundisturbed : ∀ x ∈ made, x.Undisturbed) :
    DeliveredInOrder (runMade made (World.start c.statsd))
      (((Session.start conf env).run es).lines c) :=
  session_delivers conf env es hknown hclosed (lines_fit conf env hsane hknown hroom) hmade
    hundisturbed

theorem sane_loginAndExit : ∀ e ∈ loginAndExit, e.Sane 100 := by
  intro e he
  simp only [loginAndExit, List.mem_cons, List.not_mem_nil, or_false] at he
  rcases he with rfl | rfl
  · exact ⟨by decide, by decide⟩
  · exact ⟨by decide, by decide⟩

theorem leavesRoom_loopback : (loopback false).LeavesRoom 100 :=
  ⟨by decide, by decide, by decide⟩

/-- A login and an exit on the loopback address. -/
theorem sane_session_delivers_login :
    DeliveredInOrder
      (runMade
        (madeWell (((Session.start (loopbackConf none) loopbackEnv).run loginAndExit).calls 0))
        (World.start (loopback false)))
      (((Session.start (loopbackConf none) loopbackEnv).run loginAndExit).lines
        { id := 0, statsd := loopback false }) := by
  have hclosed : ((Session.start (loopbackConf none) loopbackEnv).run loginAndExit).statsd ≠
      some { id := 0, statsd := loopback false } := by
    rw [statsd_loginAndExit]
    exact (Option.some_ne_none _).symm
  exact sane_session_delivers (loopbackConf none) loopbackEnv sane_loginAndExit knows_loginAndExit
    hclosed leavesRoom_loopback (op_madeWell _) fun x hx => (mem_madeWell hx).1

end ModStatsd
