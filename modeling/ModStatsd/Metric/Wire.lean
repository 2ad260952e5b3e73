import ModStatsd.Client.Delivery
import ModStatsd.Config.Directives
import ModStatsd.Metric.Metric

/-!
# Wire — what a statsd server reads

A statsd server reads a line as `name:value|type`, with an optional `|@rate`.  `decode` is such a
reader, stated on its own; the metric API is compared with it.

* `decode_handed` — a line that fits decodes to the metric that was asked for;
* `single_metric_iff` — which names and labels keep a line one single metric.
-/

namespace ModStatsd

open Lib

/-! ## Reading a line -/

inductive MetricType
  | counter
  | timer
  | gauge
  deriving DecidableEq, Repr

def MetricType.text : MetricType → List Char
  | .counter => ['c']
  | .timer => ['m', 's']
  | .gauge => ['g']

def MetricType.parse (cs : List Char) : Option MetricType :=
  [MetricType.counter, .timer, .gauge].find? fun t => t.text = cs

@[simp] theorem MetricType.parse_text (t : MetricType) : MetricType.parse t.text = some t := by
  cases t <;> rfl

/-- A metric as a server understands it. -/
structure Reading where
  name : List Char
  value : Int
  type : MetricType
  rate : Option ℚ
  deriving DecidableEq

def decodeRate (cs : List Char) : Option ℚ :=
  match cs with
  | '@' :: digits => Decimal.parseFixed digits
  | _ => none

def decode (line : List Char) : Option Reading :=
  match line.splitOn ':' with
  | [name, rest] =>
      match rest.splitOn '|' with
      -- the rate is optional
      | [value, type] =>
          match Decimal.parseInt value, MetricType.parse type with
          | some v, some t => some { name := name, value := v, type := t, rate := none }
          | _, _ => none
      | [value, type, rate] =>
          match Decimal.parseInt value, MetricType.parse type, decodeRate rate with
          | some v, some t, some r => some { name := name, value := v, type := t, rate := some r }
          | _, _, _ => none
      | _ => none
  | _ => none

/-- The text of some memory, if all of it is text. -/
def textOf : List Cell → Option (List Char)
  | [] => some []
  | .byte c :: cells => (textOf cells).map (c :: ·)
  | .heap :: _ => none

@[simp] theorem textOf_cells (s : CString) : textOf s.cells = some s.chars := by
  have h : ∀ cs : List Char, textOf (cs.map Cell.byte) = some cs := by
    intro cs
    induction cs with
    | nil => rfl
    | cons c cs ih => simp [textOf, ih]
  exact h s.chars

/-! ## The parts of a line -/

namespace MetricCall

def type : MetricCall → MetricType
  | .counter _ _ _ => .counter
  | .timer _ _ _ => .timer
  | .gauge _ _ _ => .gauge

theorem chars_metricType (m : MetricCall) : m.metricType.chars = m.type.text := by
  cases m <;> rfl

/-- The name that is printed, with the client's labels. -/
def fullName (statsd : Statsd) (m : MetricCall) : List Char :=
  (CString.orEmpty statsd.prefixLabel).chars ++ (sanitizeName m.name).chars ++
    (CString.orEmpty statsd.suffixLabel).chars

def valueText (m : MetricCall) : List Char :=
  m.field.1.chars ++ Decimal.int m.field.2.toInt

/-- Is a rate appended? -/
def Rated (statsd : Statsd) (m : MetricCall) : Prop :=
  m.sampling statsd < 1

instance (statsd : Statsd) (m : MetricCall) : Decidable (m.Rated statsd) :=
  inferInstanceAs (Decidable (m.sampling statsd < 1))

theorem chars_line (statsd : Statsd) (m : MetricCall) :
    (m.line statsd).chars = m.fullName statsd ++ ':' :: (m.valueText ++ '|' :: (m.type.text ++
      if m.Rated statsd then '|' :: '@' :: Decimal.fixed (m.sampling statsd) else [])) := by
  -- the two formats differ in the rate only
  by_cases hs : m.sampling statsd < 1
  · have hge : ¬ 1 ≤ m.sampling statsd := not_le.2 hs
    simp [line, formatMetric, Rated, hs, hge, fullName, valueText, CString.lit, CString.lld,
      CString.twoDecimals, chars_metricType]
  · have hge : 1 ≤ m.sampling statsd := not_lt.1 hs
    simp [line, formatMetric, Rated, hs, hge, fullName, valueText, CString.lit, CString.lld,
      chars_metricType]

end MetricCall

/-! ## Characters that the parts cannot contain -/

/-- Neither a digit nor a sign nor a point. -/
def Structural (c : Char) : Prop :=
  c.isDigit = false ∧ c ≠ '-' ∧ c ≠ '+' ∧ c ≠ '.'

theorem not_mem_int {c : Char} (hc : Structural c) (v : Int) : c ∉ Decimal.int v := by
  intro h
  rcases Decimal.mem_int h with hminus | hdigit
  · exact hc.2.1 hminus
  · simp [hc.1] at hdigit

theorem not_mem_fixed {c : Char} (hc : Structural c) (q : ℚ) : c ∉ Decimal.fixed q := by
  intro h
  rcases Decimal.mem_fixed h with hminus | hpoint | hdigit
  · exact hc.2.1 hminus
  · exact hc.2.2.2 hpoint
  · simp [hc.1] at hdigit

theorem not_mem_valueText {c : Char} (hc : Structural c) (m : MetricCall) : c ∉ m.valueText := by
  intro h
  have hsign : c ∉ m.field.1.chars := by
    cases m with
    | counter name incr flags => simp [MetricCall.field]
    | timer name ms flags => simp [MetricCall.field]
    | gauge name val flags =>
        simp only [MetricCall.field, gaugeField]
        -- "+", "-", or no sign
        split_ifs
        · simpa [CString.lit] using hc.2.2.1
        · simpa [CString.lit] using hc.2.1
        · simp
        · simp
        · simp
  rcases List.mem_append.1 h with hleft | hright
  · exact hsign hleft
  · exact not_mem_int hc _ hright

theorem not_mem_text {c : Char} (hc : c = ':' ∨ c = '|' ∨ c = '@' ∨ c = '\n') (t : MetricType) :
    c ∉ t.text := by
  rcases hc with rfl | rfl | rfl | rfl <;> cases t <;> decide

theorem structural_of_reserved {c : Char} (hc : c = ':' ∨ c = '|' ∨ c = '@' ∨ c = '\n') :
    Structural c := by
  rcases hc with rfl | rfl | rfl | rfl <;> exact ⟨by decide, by decide, by decide, by decide⟩

/-! ## Reading back a line -/

section Decode

variable {name value : List Char} {v : Int}

theorem decode_unrated (t : MetricType) (hname : ':' ∉ name) (hcolon : ':' ∉ value)
    (hbar : '|' ∉ value) (hv : Decimal.parseInt value = some v) :
    decode (name ++ ':' :: (value ++ '|' :: t.text)) =
      some { name := name, value := v, type := t, rate := none } := by
  have hrest : ':' ∉ value ++ '|' :: t.text := by
    simp [hcolon, not_mem_text (Or.inl rfl) t]
  have hsplit := Lists.splitOn_once hname hrest
  have hfields := Lists.splitOn_once hbar (not_mem_text (Or.inr (Or.inl rfl)) t)
  simp [decode, hsplit, hfields, hv]

theorem decode_rated (t : MetricType) {rate : List Char} {r : ℚ} (hname : ':' ∉ name)
    (hcolon : ':' ∉ value) (hbar : '|' ∉ value) (hv : Decimal.parseInt value = some v)
    (hrateColon : ':' ∉ rate) (hrateBar : '|' ∉ rate)
    (hr : Decimal.parseFixed rate = some r) :
    decode (name ++ ':' :: (value ++ '|' :: (t.text ++ '|' :: '@' :: rate))) =
      some { name := name, value := v, type := t, rate := some r } := by
  have hrest : ':' ∉ value ++ '|' :: (t.text ++ '|' :: '@' :: rate) := by
    simp [hcolon, hrateColon, not_mem_text (Or.inl rfl) t]
  have hsplit := Lists.splitOn_once hname hrest
  have hlast : '|' ∉ '@' :: rate := by simp [hrateBar]
  have hfields : (value ++ '|' :: (t.text ++ '|' :: '@' :: rate)).splitOn '|' =
      [value, t.text, '@' :: rate] := by
    rw [List.splitOn_append_cons_self_of_not_mem hbar,
      Lists.splitOn_once (not_mem_text (Or.inr (Or.inl rfl)) t) hlast]
  simp [decode, hsplit, hfields, hv, decodeRate, hr]

end Decode

/-! ## What a call asks for -/

/-- The label of a `StatsdServer` line, as text; empty when it is absent. -/
def labelText (arg : Option CString) : List Char :=
  (arg.map CString.chars).getD []

/-- The name with every character of the line format replaced. -/
def neutralName (name : CString) : List Char :=
  name.chars.map fun c => if c ∈ [':', '|', '@'] then '_' else c

/-- `[prefix '.'] name ['.' suffix]`. -/
def namespaced (prefixArg suffixArg : Option CString) (name : CString) : List Char :=
  (if labelText prefixArg = [] then [] else labelText prefixArg ++ ['.']) ++ neutralName name ++
    (if labelText suffixArg = [] then [] else '.' :: labelText suffixArg)

namespace MetricCall

/-- The value that is reported. -/
def requested : MetricCall → Int
  | .counter _ incr _ => incr.toInt
  | .timer _ ms _ => min ms.toNat 31536000000
  -- a gauge that is set, not adjusted
  | .gauge _ val _ => max val.toInt 0

/-- The rate that is reported with it, by a client that samples at `q`. -/
def requestedRate (q : ℚ) : MetricCall → Option ℚ
  | .counter _ _ flags =>
      if hasFlag flags flIgnoreSampling = false ∧ q < 1 then some ((Decimal.hundredths q : ℚ) / 100)
      else none
  | .timer _ _ flags =>
      if hasFlag flags flIgnoreSampling = false ∧ q < 1 then some ((Decimal.hundredths q : ℚ) / 100)
      else none
  | .gauge _ _ _ => none

/-- Does the call adjust a gauge? -/
def Adjusts : MetricCall → Prop
  | .gauge _ _ flags => hasFlag flags flGaugeAdjust = true
  | _ => False

end MetricCall

theorem orEmpty_prefixOf (arg : Option CString) :
    (CString.orEmpty (prefixOf arg)).chars =
      if labelText arg = [] then [] else labelText arg ++ ['.'] := by
  cases arg with
  | none => rfl
  | some text =>
      by_cases h : text.chars = []
      · simp [prefixOf, labelText, CString.orEmpty, h]
      · simp [prefixOf, labelText, CString.orEmpty, h, CString.lit]

theorem orEmpty_suffixOf (arg : Option CString) :
    (CString.orEmpty (suffixOf arg)).chars =
      if labelText arg = [] then [] else '.' :: labelText arg := by
  cases arg with
  | none => rfl
  | some text =>
      by_cases h : text.chars = []
      · simp [suffixOf, labelText, CString.orEmpty, h]
      · simp [suffixOf, labelText, CString.orEmpty, h, CString.lit]

theorem chars_sanitizeName (name : CString) : (sanitizeName name).chars = neutralName name := by
  simp [sanitizeName, neutralName, sanitizeChar]

/-! ## Machine integers -/

theorem toInt_toInt64_of_lt {x : UInt64} (h : x.toNat < 2 ^ 63) : x.toInt64.toInt = x.toNat := by
  have hbits : x.toInt64.toInt = x.toBitVec.toInt := rfl
  have hnat : x.toBitVec.toNat = x.toNat := rfl
  rw [hbits, BitVec.toInt_eq_toNat_of_lt (by omega), hnat]

theorem toNat_clampMs (ms : UInt64) : (clampMs ms).toNat = min ms.toNat 31536000000 := by
  have hmax : statsdMaxTimeMs.toNat = 31536000000 := rfl
  by_cases h : ms > statsdMaxTimeMs
  · have hlt : statsdMaxTimeMs.toNat < ms.toNat := UInt64.lt_iff_toNat_lt.1 h
    simp only [clampMs, h, if_true]
    omega
  · have hle : ms.toNat ≤ statsdMaxTimeMs.toNat := UInt64.le_iff_toNat_le.1 (UInt64.not_lt.1 h)
    simp only [clampMs, h, if_false]
    omega

theorem toInt_nonneg_part (val : Int64) :
    (if val < 0 then 0 else val : Int64).toInt = max val.toInt 0 := by
  have hzero : (0 : Int64).toInt = 0 := rfl
  by_cases h : val < 0
  · have hlt : val.toInt < (0 : Int64).toInt := Int64.lt_iff_toInt_lt.1 h
    simp only [h, if_true]
    omega
  · have hle : (0 : Int64).toInt ≤ val.toInt := Int64.le_iff_toInt_le.1 (Int64.not_lt.1 h)
    simp only [h, if_false]
    omega

theorem valueText_eq {m : MetricCall} (hm : ¬ m.Adjusts) :
    m.valueText = Decimal.int m.requested := by
  cases m with
  | counter name incr flags => rfl
  | timer name ms flags =>
      -- a clamped time is far from the sign bit of `int64_t`
      have hclamp := toNat_clampMs ms
      have hint : (clampMs ms).toInt64.toInt = ((clampMs ms).toNat : Int) :=
        toInt_toInt64_of_lt (by omega)
      have hvalue : (clampMs ms).toInt64.toInt = min (ms.toNat : Int) 31536000000 := by omega
      simp [MetricCall.valueText, MetricCall.field, MetricCall.requested, hvalue]
  | gauge name val flags =>
      have hset : hasFlag flags flGaugeAdjust = false := by simpa [MetricCall.Adjusts] using hm
      have hvalue := toInt_nonneg_part val
      simp [MetricCall.valueText, MetricCall.field, gaugeField, hset, MetricCall.requested, hvalue]

/-! ## The round trip -/

theorem not_mem_neutralName {c : Char} (hc : c ∈ [':', '|', '@']) (name : CString) :
    c ∉ neutralName name := by
  intro h
  rcases List.mem_map.1 h with ⟨d, _, hd⟩
  by_cases hreserved : d ∈ [':', '|', '@']
  · have heq : c = '_' := by simpa [hreserved] using hd.symm
    rw [heq] at hc
    exact absurd hc (by decide)
  · have heq : d = c := by simpa [hreserved] using hd
    exact hreserved (heq ▸ hc)

/-- The rate is the client's, or there is none. -/
theorem rate_cases (statsd : Statsd) (m : MetricCall) :
    (m.Rated statsd ∧ m.sampling statsd = statsd.sampling ∧
        m.requestedRate statsd.sampling =
          some ((Decimal.hundredths statsd.sampling : ℚ) / 100)) ∨
      (¬ m.Rated statsd ∧ m.requestedRate statsd.sampling = none) := by
  -- counters and timers choose their rate in the same way
  have hsampled : ∀ flags, (metricSampling statsd flags < 1 ∧
      metricSampling statsd flags = statsd.sampling ∧
      (hasFlag flags flIgnoreSampling = false ∧ statsd.sampling < 1)) ∨
      (¬ metricSampling statsd flags < 1 ∧
        ¬ (hasFlag flags flIgnoreSampling = false ∧ statsd.sampling < 1)) := by
    intro flags
    cases hflag : hasFlag flags flIgnoreSampling with
    | true => exact Or.inr (by simp [metricSampling, hflag])
    | false =>
        by_cases hq : statsd.sampling < 1
        · exact Or.inl (by simp [metricSampling, hflag, hq])
        · exact Or.inr (by simpa [metricSampling, hflag] using hq)
  cases m with
  | counter name incr flags =>
      rcases hsampled flags with ⟨hlt, heq, hcond⟩ | ⟨hge, hcond⟩
      · exact Or.inl ⟨hlt, heq, if_pos hcond⟩
      · exact Or.inr ⟨hge, if_neg hcond⟩
  | timer name ms flags =>
      rcases hsampled flags with ⟨hlt, heq, hcond⟩ | ⟨hge, hcond⟩
      · exact Or.inl ⟨hlt, heq, if_pos hcond⟩
      · exact Or.inr ⟨hge, if_neg hcond⟩
  | gauge name val flags =>
      exact Or.inr ⟨by simp [MetricCall.Rated, MetricCall.sampling], rfl⟩

section Opened

variable {cmd : ConfCmd} {c : ServerRec} {env : SocketEnv} {addr : Option NetAddr} {sampling : ℚ}
  {statsd : Statsd}

/-- The name a client prints has the labels of its configuration line. -/
theorem fullName_eq (hcmd : setStatsdserver cmd = .ok c)
    (hopen : statsdStatsdOpen env addr c.useTcp sampling c.prefixLabel c.suffixLabel = .ok statsd)
    (m : MetricCall) : m.fullName statsd = namespaced cmd.argv[2]? cmd.argv[3]? m.name := by
  rcases setStatsdserver_ok hcmd with ⟨hpre, hsuf, _⟩
  rcases statsdStatsdOpen_ok hopen with ⟨a, fd, _, _, _, rfl⟩
  simp only [MetricCall.fullName, Statsd.fresh, hpre, hsuf, orEmpty_prefixOf,
    orEmpty_suffixOf, chars_sanitizeName, namespaced]

/-- What a server decodes from the bytes of a line that fits is what the call asked for. -/
theorem decode_handed (hcmd : setStatsdserver cmd = .ok c)
    (hpre : ':' ∉ labelText cmd.argv[2]?) (hsuf : ':' ∉ labelText cmd.argv[3]?)
    (hopen : statsdStatsdOpen env addr c.useTcp sampling c.prefixLabel c.suffixLabel = .ok statsd)
    {m : MetricCall} (hm : ¬ m.Adjusts) (hfits : (m.line statsd).strlen ≤ MetricCall.maxLine) :
    (∀ overflow now w, w.statsd.config = statsd.config →
      m.run overflow now w =
        statsdStatsdWrite overflow now (m.handed statsd).1 (m.handed statsd).2 0 w) ∧
    (textOf ((m.handed statsd).1.read (m.handed statsd).2)).bind decode =
      some
        { name := namespaced cmd.argv[2]? cmd.argv[3]? m.name
          value := m.requested
          type := m.type
          rate := m.requestedRate sampling } := by
  refine ⟨?_, ?_⟩
  · intro overflow now w hconfig
    rw [m.run_eq, MetricCall.handed, MetricCall.handed, m.line_eq_of_config hconfig]
  have hname := fullName_eq hcmd hopen m
  have hcolon : ':' ∉ m.fullName statsd := by
    rw [hname]
    have hneutral := not_mem_neutralName (c := ':') (by decide) m.name
    simp only [namespaced, List.mem_append, not_or]
    refine ⟨⟨?_, hneutral⟩, ?_⟩
    · split_ifs <;> simp [hpre]
    · split_ifs <;> simp [hsuf]
  have hvalue := valueText_eq hm
  have hreserved : ∀ d, d = ':' ∨ d = '|' → Structural d := by
    intro d hd
    rcases hd with rfl | rfl
    · exact structural_of_reserved (Or.inl rfl)
    · exact structural_of_reserved (Or.inr (Or.inl rfl))
  have hvalueColon := not_mem_int (hreserved ':' (Or.inl rfl)) m.requested
  have hvalueBar := not_mem_int (hreserved '|' (Or.inr rfl)) m.requested
  have hread : (m.handed statsd).1.read (m.handed statsd).2 = (m.line statsd).cells := by
    simp [MetricCall.handed, CString.pstrndup_of_le hfits]
  rcases statsdStatsdOpen_ok hopen with ⟨a, fd, _, hpos, _, rfl⟩
  -- the line is its parts, and none of them contains a separator
  rw [hread, textOf_cells, Option.bind_some, m.chars_line, hvalue]
  rcases rate_cases (Statsd.fresh a fd c.useTcp sampling c.prefixLabel c.suffixLabel) m with
    ⟨hrated, hsampling, hrate⟩ | ⟨hunrated, hrate⟩
  · have hrate' : m.requestedRate sampling = some ((Decimal.hundredths sampling : ℚ) / 100) := hrate
    have hparse : Decimal.parseFixed (Decimal.fixed sampling) =
        some ((Decimal.hundredths sampling : ℚ) / 100) := by
      rw [Decimal.fixed_of_nonneg hpos, Decimal.parseFixed_fixed2]
    rw [if_pos hrated, hsampling, hrate', ← hname]
    exact decode_rated m.type hcolon hvalueColon hvalueBar (Decimal.parseInt_int _)
      (not_mem_fixed (hreserved ':' (Or.inl rfl)) _) (not_mem_fixed (hreserved '|' (Or.inr rfl)) _)
      hparse
  · have hrate' : m.requestedRate sampling = none := hrate
    rw [if_neg hunrated, List.append_nil, hrate', ← hname]
    exact decode_unrated m.type hcolon hvalueColon hvalueBar (Decimal.parseInt_int _)

end Opened

/-- A line that names a prefix but no suffix. -/
def prefixedServer : ConfCmd :=
  { argv := [CString.lit "StatsdServer", CString.lit "127.0.0.1:8125", CString.lit "prod"]
    context := .root }

def prefixedRec : ServerRec :=
  { host := CString.lit "127.0.0.1"
    port := 8125
    useTcp := false
    prefixLabel := some (CString.lit "prod.")
    suffixLabel := none }

theorem statsdStatsdOpen_prefixed (sampling : ℚ) (h0 : 0 ≤ sampling) (h1 : sampling ≤ 1) :
    statsdStatsdOpen { socket := .ok 3, connect := .ok () }
      (some { ipstr := CString.lit "127.0.0.1", port := 8125 }) prefixedRec.useTcp sampling
      prefixedRec.prefixLabel prefixedRec.suffixLabel =
      .ok (Statsd.fresh { ipstr := CString.lit "127.0.0.1", port := 8125 } 3 false sampling
        (some (CString.lit "prod.")) none) :=
  statsdStatsdOpen_fresh h0 h1 rfl (by simp [prefixedRec])

/-- A timer of more than a year, sampled at one quarter: `prod.a_b:31536000000|ms|@0.25`. -/
theorem decode_handed_timer :
    (textOf
      (((MetricCall.timer (CString.lit "a:b") 40000000000 0).handed
          (Statsd.fresh { ipstr := CString.lit "127.0.0.1", port := 8125 } 3 false (1 / 4)
            (some (CString.lit "prod.")) none)).1.read
        ((MetricCall.timer (CString.lit "a:b") 40000000000 0).handed
          (Statsd.fresh { ipstr := CString.lit "127.0.0.1", port := 8125 } 3 false (1 / 4)
            (some (CString.lit "prod.")) none)).2)).bind decode =
      some
        { name := "prod.a_b".toList
          value := 31536000000
          type := .timer
          rate := some (1 / 4) } := by
  have hopen := statsdStatsdOpen_prefixed (1 / 4) (by norm_num) (by norm_num)
  have hcmd : setStatsdserver prefixedServer = .ok prefixedRec := by decide
  have hm : ¬ (MetricCall.timer (CString.lit "a:b") 40000000000 0).Adjusts := by
    simp [MetricCall.Adjusts]
  have hline := (decode_handed hcmd (by decide) (by decide) hopen hm (by decide +kernel)).2
  rw [hline]
  decide +kernel

/-! ## One line, one metric -/

/-- The structure of a line with or without a rate. -/
structure SingleMetric (rated : Bool) (line : List Char) : Prop where
  newline : line.count '\n' = 0
  colon : line.count ':' = 1
  bar : line.count '|' = if rated then 2 else 1
  atSign : rated = true → line.count '@' = 1

/-- Nothing in the name and the labels can be taken for structure. -/
structure Neutral (rated : Bool) (prefixArg suffixArg : Option CString) (name : CString) :
    Prop where
  name : '\n' ∉ name.chars
  labels : ∀ d ∈ ['\n', ':', '|'], d ∉ labelText prefixArg ∧ d ∉ labelText suffixArg
  atSign : rated = true → '@' ∉ labelText prefixArg ∧ '@' ∉ labelText suffixArg

def Reserved (d : Char) : Prop :=
  d = ':' ∨ d = '|' ∨ d = '@' ∨ d = '\n'

/-- Outside the name, a line contains just its own separators. -/
theorem count_line {d : Char} (hd : Reserved d) (statsd : Statsd) (m : MetricCall) :
    (m.line statsd).chars.count d = (m.fullName statsd).count d + [':', '|'].count d +
      if m.Rated statsd then ['|', '@'].count d else 0 := by
  have hvalue : m.valueText.count d = 0 :=
    List.count_eq_zero.2 (not_mem_valueText (structural_of_reserved hd) m)
  have htype : m.type.text.count d = 0 := List.count_eq_zero.2 (not_mem_text hd m.type)
  have hrate : (Decimal.fixed (m.sampling statsd)).count d = 0 :=
    List.count_eq_zero.2 (not_mem_fixed (structural_of_reserved hd) _)
  rw [m.chars_line]
  by_cases hrated : m.Rated statsd
  · simp only [hrated, if_true, List.count_append, List.count_cons, List.count_nil, hvalue, htype,
      hrate]
    omega
  · simp only [hrated, if_false, List.count_append, List.count_cons, List.count_nil, hvalue, htype]
    omega

theorem count_neutralName {d : Char} (hd : Reserved d) (name : CString) :
    (neutralName name).count d = if d = '\n' then name.chars.count '\n' else 0 := by
  by_cases hnl : d = '\n'
  · subst hnl
    -- a newline is neither replaced nor made
    have hsame : ∀ c ∈ name.chars,
        (((· == '\n') ∘ fun c => if c ∈ [':', '|', '@'] then '_' else c) c = true ↔
          (c == '\n') = true) := by
      intro c _
      by_cases hc : c ∈ [':', '|', '@']
      · have hne : c ≠ '\n' := by
          intro h
          rw [h] at hc
          exact absurd hc (by decide)
        simp only [Function.comp_apply, hc, if_true, beq_iff_eq, hne, iff_false]
        decide
      · simp only [Function.comp_apply, hc, if_false]
    rw [if_pos rfl, neutralName, List.count, List.countP_map]
    exact List.countP_congr hsame
  · have hmem : d ∈ [':', '|', '@'] := by
      rcases hd with rfl | rfl | rfl | rfl
      · decide
      · decide
      · decide
      · exact absurd rfl hnl
    simpa [hnl] using List.count_eq_zero.2 (not_mem_neutralName hmem name)

/-- The dots that join the labels to the name are not reserved. -/
theorem count_namespaced {d : Char} (hd : Reserved d) (prefixArg suffixArg : Option CString)
    (name : CString) :
    (namespaced prefixArg suffixArg name).count d =
      (labelText prefixArg).count d + (labelText suffixArg).count d +
        if d = '\n' then name.chars.count '\n' else 0 := by
  have hdot : d ≠ '.' := (structural_of_reserved hd).2.2.2
  have hbefore : (if labelText prefixArg = [] then [] else labelText prefixArg ++ ['.']).count d =
      (labelText prefixArg).count d := by
    split_ifs with h
    · simp [h]
    · simp [hdot.symm]
  have hafter : (if labelText suffixArg = [] then [] else '.' :: labelText suffixArg).count d =
      (labelText suffixArg).count d := by
    split_ifs with h
    · simp [h]
    · simp [hdot.symm]
  rw [namespaced, List.count_append, List.count_append, hbefore, hafter, count_neutralName hd]
  omega

section Opened

variable {cmd : ConfCmd} {c : ServerRec} {env : SocketEnv} {addr : Option NetAddr} {sampling : ℚ}
  {statsd : Statsd}

/-- How often the labels have `d`. -/
def labelCount (cmd : ConfCmd) (d : Char) : Nat :=
  (labelText cmd.argv[2]?).count d + (labelText cmd.argv[3]?).count d

theorem labelCount_eq_zero {d : Char} :
    labelCount cmd d = 0 ↔ d ∉ labelText cmd.argv[2]? ∧ d ∉ labelText cmd.argv[3]? := by
  rw [labelCount, Nat.add_eq_zero_iff, List.count_eq_zero, List.count_eq_zero]

theorem count_line_eq (hcmd : setStatsdserver cmd = .ok c)
    (hopen : statsdStatsdOpen env addr c.useTcp sampling c.prefixLabel c.suffixLabel = .ok statsd)
    (m : MetricCall) {d : Char} (hd : Reserved d) :
    (m.line statsd).chars.count d =
      labelCount cmd d + (if d = '\n' then m.name.chars.count '\n' else 0) + [':', '|'].count d +
        if m.Rated statsd then ['|', '@'].count d else 0 := by
  rw [count_line hd, fullName_eq hcmd hopen, count_namespaced hd, labelCount]

/-- What the line has of each reserved character, beside what is in the labels. -/
theorem count_reserved (hcmd : setStatsdserver cmd = .ok c)
    (hopen : statsdStatsdOpen env addr c.useTcp sampling c.prefixLabel c.suffixLabel = .ok statsd)
    (m : MetricCall) :
    (m.line statsd).chars.count '\n' = labelCount cmd '\n' + m.name.chars.count '\n' ∧
      (m.line statsd).chars.count ':' = labelCount cmd ':' + 1 ∧
      (m.line statsd).chars.count '|' = labelCount cmd '|' + 1 + (if m.Rated statsd then 1 else 0) ∧
      (m.line statsd).chars.count '@' = labelCount cmd '@' + if m.Rated statsd then 1 else 0 := by
  have hcounts : ([':', '|'].count '\n' = 0 ∧ ['|', '@'].count '\n' = 0) ∧
      ([':', '|'].count ':' = 1 ∧ ['|', '@'].count ':' = 0) ∧
      ([':', '|'].count '|' = 1 ∧ ['|', '@'].count '|' = 1) ∧
      ([':', '|'].count '@' = 0 ∧ ['|', '@'].count '@' = 1) := by decide
  rcases hcounts with ⟨⟨hn1, hn2⟩, ⟨hc1, hc2⟩, ⟨hb1, hb2⟩, ha1, ha2⟩
  refine ⟨?_, ?_, ?_, ?_⟩
  · rw [count_line_eq hcmd hopen m (d := '\n') (by simp [Reserved]), hn1, hn2, if_pos rfl, ite_self,
      add_zero, add_zero]
  · rw [count_line_eq hcmd hopen m (d := ':') (by simp [Reserved]), hc1, hc2, if_neg (by decide),
      ite_self]
  · rw [count_line_eq hcmd hopen m (d := '|') (by simp [Reserved]), hb1, hb2, if_neg (by decide)]
  · rw [count_line_eq hcmd hopen m (d := '@') (by simp [Reserved]), ha1, ha2, if_neg (by decide),
      add_zero, add_zero]

/-- One line: the counts are right exactly when the text that comes from outside adds none. -/
theorem single_line_iff (hcmd : setStatsdserver cmd = .ok c)
    (hopen : statsdStatsdOpen env addr c.useTcp sampling c.prefixLabel c.suffixLabel = .ok statsd)
    (m : MetricCall) :
    SingleMetric (decide (m.Rated statsd)) (m.line statsd).chars ↔
      Neutral (decide (m.Rated statsd)) cmd.argv[2]? cmd.argv[3]? m.name := by
  rcases count_reserved hcmd hopen m with ⟨hnewline, hcolon, hbar, hat⟩
  constructor
  · intro h
    refine ⟨?_, ?_, ?_⟩
    · have hzero := h.newline
      exact List.count_eq_zero.1 (by omega)
    · intro d hd
      rw [← labelCount_eq_zero]
      fin_cases hd
      · have hzero := h.newline
        omega
      · have hone := h.colon
        omega
      · have hone := h.bar
        by_cases hr : m.Rated statsd
        · simp only [hr, decide_true, if_true] at hone hbar
          omega
        · simp only [hr, decide_false, if_false, Bool.false_eq_true] at hone hbar
          omega
    · intro hrated
      have hone := h.atSign hrated
      have hr : m.Rated statsd := of_decide_eq_true hrated
      rw [if_pos hr] at hat
      rw [← labelCount_eq_zero]
      omega
  · intro h
    have hlabels := fun d hd => labelCount_eq_zero.2 (h.labels d hd)
    have hname : m.name.chars.count '\n' = 0 := List.count_eq_zero.2 h.name
    have hnl := hlabels '\n' (by simp)
    have hco := hlabels ':' (by simp)
    have hba := hlabels '|' (by simp)
    refine ⟨by omega, by omega, ?_, ?_⟩
    · by_cases hr : m.Rated statsd
      · simp only [hr, if_true, decide_true] at hbar ⊢
        omega
      · simp only [hr, if_false, decide_false, Bool.false_eq_true] at hbar ⊢
        omega
    · intro hrated
      have hr : m.Rated statsd := of_decide_eq_true hrated
      have hzero := labelCount_eq_zero.2 (h.atSign hrated)
      rw [if_pos hr] at hat
      omega

/-- The lines of some calls are single metrics, and a packet of them is cut into just these lines,
exactly when all names are free of newlines and the labels of anything structural. -/
theorem single_metric_iff (hcmd : setStatsdserver cmd = .ok c)
    (hopen : statsdStatsdOpen env addr c.useTcp sampling c.prefixLabel c.suffixLabel = .ok statsd)
    {ms : List MetricCall} (hfits : ∀ m ∈ ms, (m.line statsd).strlen ≤ MetricCall.maxLine) :
    ((∀ m ∈ ms, SingleMetric (decide (m.Rated statsd)) (m.handed statsd).1.chars) ∧
      Lines.pieces '\n' (Lines.join '\n' (ms.map fun m => (m.handed statsd).1.chars)) =
        ms.map fun m => (m.handed statsd).1.chars) ↔
    ∀ m ∈ ms, Neutral (decide (m.Rated statsd)) cmd.argv[2]? cmd.argv[3]? m.name := by
  have hhanded : ∀ m ∈ ms, (m.handed statsd).1 = m.line statsd := by
    intro m hm
    simp [MetricCall.handed, CString.pstrndup_of_le (hfits m hm)]
  constructor
  · -- single lines are enough; what a packet is cut into follows
    rintro ⟨hsingle, _⟩ m hm
    have hline := hsingle m hm
    rw [hhanded m hm] at hline
    exact (single_line_iff hcmd hopen m).1 hline
  · intro h
    have hsingle : ∀ m ∈ ms, SingleMetric (decide (m.Rated statsd)) (m.handed statsd).1.chars := by
      intro m hm
      rw [hhanded m hm]
      exact (single_line_iff hcmd hopen m).2 (h m hm)
    refine ⟨hsingle, Lines.pieces_join ?_⟩
    intro x hx
    rcases List.mem_map.1 hx with ⟨m, hm, rfl⟩
    refine ⟨?_, List.count_eq_zero.1 (hsingle m hm).newline⟩
    have hpos := m.strlen_line_pos statsd
    rw [hhanded m hm]
    simpa [CString.strlen] using hpos

end Opened

/-- Two lines of a client with a prefix. -/
theorem single_metric_iff_prefixed :
    Lines.pieces '\n'
        (Lines.join '\n'
          ([MetricCall.counter (CString.lit "x:y") 1 0, .gauge (CString.lit "z") (-3) 0].map
            fun m => (m.handed (Statsd.fresh { ipstr := CString.lit "127.0.0.1", port := 8125 } 3
              false (1 / 4) (some (CString.lit "prod.")) none)).1.chars)) =
      ["prod.x_y:1|c|@0.25".toList, "prod.z:0|g".toList] := by
  have hopen := statsdStatsdOpen_prefixed (1 / 4) (by norm_num) (by norm_num)
  have hcmd : setStatsdserver prefixedServer = .ok prefixedRec := by decide
  have hfits : ∀ m ∈ [MetricCall.counter (CString.lit "x:y") 1 0, .gauge (CString.lit "z") (-3) 0],
      (m.line (Statsd.fresh { ipstr := CString.lit "127.0.0.1", port := 8125 } 3 false (1 / 4)
        (some (CString.lit "prod.")) none)).strlen ≤ MetricCall.maxLine := by
    decide +kernel
  have hcut := ((single_metric_iff hcmd hopen hfits).2 (by
    intro m hm
    fin_cases hm
    · exact ⟨by decide, by simp [labelText, prefixedServer, CString.lit], fun _ => by decide⟩
    · exact ⟨by decide, by simp [labelText, prefixedServer, CString.lit], fun _ => by decide⟩)).2
  rw [hcut]
  decide +kernel

/-- A prefix that `set_statsdserver` accepts. -/
def colonServer : ConfCmd :=
  { argv := [CString.lit "StatsdServer", CString.lit "127.0.0.1", CString.lit "a:b"]
    context := .root }

def colonStatsd : Statsd :=
  Statsd.fresh { ipstr := CString.lit "127.0.0.1", port := 8125 } 3 false 1
    (some (CString.lit "a:b.")) none

/-- A prefix brings in a second colon, and a newline in a name makes two lines of one. -/
theorem label_and_newline_injected :
    (setStatsdserver colonServer = .ok
        { host := CString.lit "127.0.0.1"
          port := 8125
          useTcp := false
          prefixLabel := some (CString.lit "a:b.")
          suffixLabel := none } ∧
      ((MetricCall.counter (CString.lit "x") 1 0).handed colonStatsd).1.chars =
        "a:b.x:1|c".toList ∧
      ¬ SingleMetric false ((MetricCall.counter (CString.lit "x") 1 0).handed colonStatsd).1.chars) ∧
    (((MetricCall.counter (CString.lit "x\ny") 1 0).handed (loopback false)).1.chars =
        "x\ny:1|c".toList ∧
      Lines.pieces '\n' ((MetricCall.counter (CString.lit "x\ny") 1 0).handed
        (loopback false)).1.chars = ["x".toList, "y:1|c".toList] ∧
      ¬ SingleMetric false
        ((MetricCall.counter (CString.lit "x\ny") 1 0).handed (loopback false)).1.chars) := by
  have hcolon : ((MetricCall.counter (CString.lit "x") 1 0).handed colonStatsd).1.chars =
      "a:b.x:1|c".toList := by
    decide +kernel
  have hnewline : ((MetricCall.counter (CString.lit "x\ny") 1 0).handed (loopback false)).1.chars =
      "x\ny:1|c".toList := by
    decide +kernel
  refine ⟨⟨by decide, hcolon, ?_⟩, hnewline, ?_, ?_⟩
  · intro h
    have hone := h.colon
    rw [hcolon] at hone
    exact absurd hone (by decide)
  · rw [hnewline]
    decide
  · intro h
    have hzero := h.newline
    rw [hnewline] at hzero
    exact absurd hzero (by decide)

end ModStatsd
