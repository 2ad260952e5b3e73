import ModStatsd.Metric.Wire

/-!
# Rate — the sampling rate that is printed

A server scales a counter by the inverse of the rate on its line.  `StatsdSampling` takes any
percentage above zero, and the line has two decimals for it: `rates_usable_iff` says which
percentages leave a rate that can be divided by, on the lines that are not cut.
-/

namespace ModStatsd

open Lib

/-- The rate on a line: what follows the last bar, if it starts with an `@`. -/
def rateOfLine (line : List Char) : Option ℚ :=
  match (line.splitOn '|').getLast? with
  | some ('@' :: digits) => Decimal.parseFixed digits
  | _ => some 1

namespace MetricCall

/-- A counter or a timer, without the flag that says otherwise. -/
def SubjectToSampling : MetricCall → Prop
  | .counter _ _ flags => hasFlag flags flIgnoreSampling = false
  | .timer _ _ flags => hasFlag flags flIgnoreSampling = false
  | .gauge _ _ _ => False

theorem sampling_eq {m : MetricCall} (h : m.SubjectToSampling) (statsd : Statsd) :
    m.sampling statsd = statsd.sampling := by
  cases m with
  | counter name incr flags =>
      have hflag : hasFlag flags flIgnoreSampling = false := h
      simp [sampling, metricSampling, hflag]
  | timer name ms flags =>
      have hflag : hasFlag flags flIgnoreSampling = false := h
      simp [sampling, metricSampling, hflag]
  | gauge name val flags => exact h.elim

end MetricCall

/-- The rate is rounded to hundredths, and not printed if it is one. -/
theorem rateOfLine_line {m : MetricCall} (h : m.SubjectToSampling) {statsd : Statsd}
    (hnonneg : 0 ≤ statsd.sampling) :
    rateOfLine (m.line statsd).chars =
      some (if statsd.sampling < 1 then (Decimal.hundredths statsd.sampling : ℚ) / 100 else 1) := by
  have hsampling := MetricCall.sampling_eq h statsd
  have hbar : Structural '|' := structural_of_reserved (Or.inr (Or.inl rfl))
  rw [MetricCall.chars_line]
  by_cases hrated : statsd.sampling < 1
  · have hr : m.Rated statsd := by rwa [MetricCall.Rated, hsampling]
    have hlast : '|' ∉ '@' :: Decimal.fixed statsd.sampling := by
      rw [List.mem_cons, not_or]
      exact ⟨by decide, not_mem_fixed hbar _⟩
    have hline : m.fullName statsd ++ ':' :: (m.valueText ++ '|' :: (m.type.text ++
        '|' :: '@' :: Decimal.fixed statsd.sampling)) =
        (m.fullName statsd ++ ':' :: (m.valueText ++ '|' :: m.type.text)) ++
          '|' :: '@' :: Decimal.fixed statsd.sampling := by simp
    rw [if_pos hr, if_pos hrated, hsampling, hline, rateOfLine, Lists.getLast?_splitOn _ hlast,
      Decimal.fixed_of_nonneg hnonneg]
    exact Decimal.parseFixed_fixed2 _
  · have hr : ¬ m.Rated statsd := by rwa [MetricCall.Rated, hsampling]
    have hline : m.fullName statsd ++ ':' :: (m.valueText ++ '|' :: m.type.text) =
        (m.fullName statsd ++ ':' :: m.valueText) ++ '|' :: m.type.text := by simp
    rw [if_neg hr, if_neg hrated, List.append_nil, hline, rateOfLine,
      Lists.getLast?_splitOn _ (not_mem_text (Or.inr (Or.inl rfl)) m.type)]
    -- no type starts with an `@`
    cases m <;> rfl

/-! ## Usable rates -/

/-- A client that samples at this rate opens, and the sampled lines that are handed over uncut carry
a rate above zero that is off by half of a hundredth at most. -/
def RateUsable (rate : ℚ) : Prop :=
  ∀ (env : SocketEnv) (addr : NetAddr) (fd : Int) (useTcp : Bool)
    (prefixLabel suffixLabel : Option CString),
    env.socket = .ok fd → (useTcp = true → env.connect = .ok ()) →
    ∃ statsd, statsdStatsdOpen env (some addr) useTcp rate prefixLabel suffixLabel = .ok statsd ∧
      ∀ m : MetricCall, m.SubjectToSampling → (m.line statsd).strlen ≤ MetricCall.maxLine →
        ∃ r, rateOfLine (m.handed statsd).1.chars = some r ∧ 0 < r ∧ |r - rate| ≤ 1 / 200

/-- `:1|c`, and the rate behind it. -/
theorem strlen_unnamed_le {statsd : Statsd} (hpre : statsd.prefixLabel = none)
    (hsuf : statsd.suffixLabel = none) (hnonneg : 0 ≤ statsd.sampling) (hle : statsd.sampling ≤ 1) :
    ((MetricCall.counter CString.empty 1 0).line statsd).strlen ≤ MetricCall.maxLine := by
  have hname : (MetricCall.counter CString.empty 1 0).fullName statsd = [] := by
    simp [MetricCall.fullName, hpre, hsuf, CString.orEmpty, sanitizeName, MetricCall.name]
  have hvalue : (MetricCall.counter CString.empty 1 0).valueText = ['1'] := by decide
  have hrate := Decimal.length_fixed_le hnonneg hle
  have hsampling : (MetricCall.counter CString.empty 1 0).sampling statsd = statsd.sampling :=
    MetricCall.sampling_eq (by simp [MetricCall.SubjectToSampling, hasFlag]) statsd
  have hbound : MetricCall.maxLine = 510 := rfl
  rw [CString.strlen, MetricCall.chars_line, hname, hvalue, hsampling, hbound]
  split_ifs
  · simp [MetricCall.type, MetricType.text]
    omega
  · decide

theorem rateUsable_iff {rate : ℚ} (hpos : 0 < rate) (hle : rate ≤ 1) :
    RateUsable rate ↔ 1 / 200 < rate := by
  constructor
  · intro h
    rcases h { socket := .ok 3, connect := .ok () }
      { ipstr := CString.lit "127.0.0.1", port := 8125 } 3 false none none rfl (fun _ => rfl) with
      ⟨statsd, hopen, hlines⟩
    rcases statsdStatsdOpen_ok hopen with ⟨addr, fd, _, _, _, rfl⟩
    have hcounter : (MetricCall.counter CString.empty 1 0).SubjectToSampling := by
      simp [MetricCall.SubjectToSampling, hasFlag]
    have hfits : ((MetricCall.counter CString.empty 1 0).line
        (Statsd.fresh addr fd false rate none none)).strlen ≤ MetricCall.maxLine :=
      strlen_unnamed_le rfl rfl hpos.le hle
    rcases hlines _ hcounter hfits with ⟨r, hr, hrpos, _⟩
    rw [MetricCall.handed, CString.pstrndup_of_le hfits, rateOfLine_line hcounter hpos.le,
      Option.some.injEq] at hr
    -- a rate of one is above any half of a hundredth
    by_cases hrated : rate < 1
    · have hvalue : (Decimal.hundredths rate : ℚ) / 100 = r := by
        simpa [Statsd.fresh, hrated] using hr
      have hhundredths : 0 < Decimal.hundredths rate := by
        have hcast : (0 : ℚ) < Decimal.hundredths rate := by linarith
        exact_mod_cast hcast
      exact (Decimal.hundredths_pos_iff hpos.le).1 hhundredths
    · linarith
  · intro h env addr fd useTcp prefixLabel suffixLabel hsock hconn
    refine ⟨_, statsdStatsdOpen_fresh hpos.le hle hsock hconn, fun m hm hfits => ?_⟩
    rw [MetricCall.handed, CString.pstrndup_of_le hfits]
    refine ⟨_, rateOfLine_line hm hpos.le, ?_⟩
    by_cases hrated : rate < 1
    · have hhundredths : (0 : ℚ) < Decimal.hundredths rate := by
        exact_mod_cast (Decimal.hundredths_pos_iff hpos.le).2 h
      have hround := Decimal.abs_hundredths_sub_le hpos.le
      simp only [Statsd.fresh, hrated, if_true]
      exact ⟨by linarith, hround⟩
    · have hone : rate = 1 := le_antisymm hle (not_lt.1 hrated)
      subst hone
      simp only [Statsd.fresh, lt_irrefl, if_false]
      norm_num

/-- A percentage that is accepted gives a rate that can be used, unless it is at most a half. -/
theorem rates_usable_iff {strtof : CString → CFloat × CString} {cmd : ConfCmd} {rate : CFloat}
    (haccepted : setStatsdsampling strtof cmd = .ok rate) {arg : CString}
    (harg : cmd.argv[1]? = some arg) {percentage : ℚ} (hnum : (strtof arg).1 = .num percentage) :
    RateUsable (percentage / 100) ↔ 1 / 2 < percentage := by
  rcases setStatsdsampling_iff.1 haccepted with ⟨_, arg', harg', _, hrange, _⟩
  have hsame : arg' = arg := by simpa [harg'] using harg
  rw [hsame, hnum] at hrange
  have hinside : ¬ (percentage ≤ 0 ∨ percentage > 100) := of_decide_eq_false hrange
  rw [not_or, not_le, not_lt] at hinside
  rw [rateUsable_iff (by linarith [hinside.1]) (by linarith [hinside.2])]
  constructor
  · intro h
    linarith
  · intro h
    linarith

/-- `StatsdSampling` with an argument that `strtof` reads as `percentage`. -/
def samplingCmd (text : CString) : ConfCmd :=
  { argv := [CString.lit "StatsdSampling", text]
    context := .root }

/-- `strtof`, for the one text it is asked about. -/
def strtofOf (text : CString) (percentage : ℚ) (s : CString) : CFloat × CString :=
  if s = text then (.num percentage, CString.empty) else (.num 0, s)

theorem rates_usable_ten : RateUsable (10 / 100) := by
  have haccepted : setStatsdsampling (strtofOf (CString.lit "10") 10)
      (samplingCmd (CString.lit "10")) = .ok (CFloat.num 10).fraction := by
    decide +kernel
  have harg : (samplingCmd (CString.lit "10")).argv[1]? = some (CString.lit "10") := rfl
  have hnum : (strtofOf (CString.lit "10") 10 (CString.lit "10")).1 = .num 10 := by
    decide
  exact (rates_usable_iff haccepted harg hnum).2 (by norm_num)

/-- A quarter of a percent is accepted, and printed as a rate of zero; so is the `float` next to it,
which is what is recorded. -/
theorem small_percentage_prints_zero :
    setStatsdsampling (strtofOf (CString.lit "0.25") (1 / 4)) (samplingCmd (CString.lit "0.25")) =
      .ok (.num (5368709 / 2 ^ 31)) ∧
    rateOfLine ((MetricCall.counter (CString.lit "x") 1 0).handed
      { loopback false with sampling := 1 / 400 }).1.chars = some 0 ∧
    rateOfLine ((MetricCall.counter (CString.lit "x") 1 0).handed
      { loopback false with sampling := 5368709 / 2 ^ 31 }).1.chars = some 0 := by
  decide +kernel

end ModStatsd
