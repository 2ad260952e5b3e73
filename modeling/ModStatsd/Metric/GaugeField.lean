import ModStatsd.Metric.Wire

/-!
# GaugeField — what a gauge line does to the gauge

For a gauge, a sign before the digits makes the difference between adding to it and setting it.
`GaugeUpdate.parse` reads a value field that way, and `gauge_line_iff` says which lines of
`statsd_metric_gauge` do what the caller asked for.
-/

namespace ModStatsd

open Lib

/-! ## The value field of a gauge -/

inductive GaugeUpdate
  | adjust (delta : Int)
  | set (value : Int)
  deriving DecidableEq, Repr

namespace GaugeUpdate

/-- At most one sign, then digits. -/
def parse (field : List Char) : Option GaugeUpdate :=
  match field with
  | '+' :: digits => (Decimal.parseNat digits).map fun n : Nat => .adjust n
  | '-' :: digits => (Decimal.parseNat digits).map fun n : Nat => .adjust (-n)
  | digits => (Decimal.parseNat digits).map fun n : Nat => .set n

def apply (gauge : Int) : GaugeUpdate → Int
  | .adjust delta => gauge + delta
  | .set value => value

/-- What a line `name:field|g` says.  A label may contain a colon, the field may not. -/
def ofLine (line : List Char) : Option GaugeUpdate :=
  match (line.splitOn ':').reverse with
  | rest :: _ :: _ =>
      match rest.splitOn '|' with
      | [field, ['g']] => parse field
      | _ => none
  | _ => none

theorem ofLine_append {name field : List Char} (hcolon : ':' ∉ field) (hbar : '|' ∉ field) :
    ofLine (name ++ ':' :: (field ++ ['|', 'g'])) = parse field := by
  have hrest : ':' ∉ field ++ ['|', 'g'] := by simp [hcolon]
  -- the last piece between colons is the field with the type
  have hsplit : ((name ++ ':' :: (field ++ ['|', 'g'])).splitOn ':') =
      name.splitOn ':' ++ [field ++ ['|', 'g']] := Lists.splitOn_last name hrest
  rcases List.exists_cons_of_ne_nil (List.reverse_ne_nil_iff.2 (List.splitOn_ne_nil ':' name))
    with ⟨last, before, hname⟩
  have hpieces : ((name ++ ':' :: (field ++ ['|', 'g'])).splitOn ':').reverse =
      (field ++ ['|', 'g']) :: last :: before := by
    rw [hsplit, List.reverse_append, hname]
    rfl
  have hfields : (field ++ ['|', 'g']).splitOn '|' = [field, ['g']] :=
    Lists.splitOn_once hbar (by decide)
  simp [ofLine, hpieces, hfields]

theorem parse_nat (n : Nat) : parse (Decimal.nat n) = some (.set n) := by
  rcases List.exists_cons_of_ne_nil (Decimal.nat_ne_nil n) with ⟨c, digits, hn⟩
  have hplus : c ≠ '+' := by
    rintro rfl
    exact Decimal.not_mem_nat (c := '+') (by decide) n (hn ▸ List.mem_cons_self)
  have hminus : c ≠ '-' := by
    rintro rfl
    exact Decimal.not_mem_nat (c := '-') (by decide) n (hn ▸ List.mem_cons_self)
  have hvalue : Decimal.parseNat (c :: digits) = some n := by
    rw [← hn, Decimal.parseNat_nat]
  rw [hn]
  simp [parse, hplus, hminus, hvalue]

theorem parse_plus (n : Nat) : parse ('+' :: Decimal.nat n) = some (.adjust n) := by
  simp [parse]

/-- Two signs are one too many. -/
theorem parse_minus_minus (digits : List Char) : parse ('-' :: '-' :: digits) = none := by
  have hminus : Decimal.parseNat ('-' :: digits) = none := by
    simp [Decimal.parseNat]
  simp [parse, hminus]

end GaugeUpdate

/-! ## The lines of `statsd_metric_gauge` -/

/-- What the caller asks for: the gauge moved by `val`, or set to it. -/
def gaugeTarget (gauge : Int) (val : Int64) (flags : Flags) : Int :=
  if hasFlag flags flGaugeAdjust then gauge + val.toInt else max val.toInt 0

section GaugeLine

variable (name : CString) (val : Int64) (flags : Flags)

/-- The field is the sign that is picked for the value, and then the value with its own. -/
theorem valueText_gauge :
    (MetricCall.gauge name val flags).valueText =
      if hasFlag flags flGaugeAdjust then
        if val.toInt < 0 then '-' :: '-' :: Decimal.nat val.toInt.natAbs
        else if val.toInt = 0 then Decimal.nat 0
        else '+' :: Decimal.nat val.toInt.natAbs
      else Decimal.nat (max val.toInt 0).natAbs := by
  have hzero : (0 : Int64).toInt = 0 := rfl
  have hpos : val > 0 ↔ 0 < val.toInt := by rw [gt_iff_lt, Int64.lt_iff_toInt_lt, hzero]
  have hneg : val < 0 ↔ val.toInt < 0 := by rw [Int64.lt_iff_toInt_lt, hzero]
  by_cases hflag : hasFlag flags flGaugeAdjust = true
  · rcases lt_trichotomy val.toInt 0 with hlt | heq | hgt
    · -- "-" from the caller and "-" from "%lld"
      have hnotPos : ¬ val > 0 := by rw [hpos]; omega
      simp [MetricCall.valueText, MetricCall.field, gaugeField, hflag, hnotPos, hneg.2 hlt,
        Decimal.int, hlt, CString.lit]
    · -- no sign at all
      have hnotPos : ¬ val > 0 := by rw [hpos]; omega
      have hnotNeg : ¬ val < 0 := by rw [hneg]; omega
      simp [MetricCall.valueText, MetricCall.field, gaugeField, hflag, hnotPos, hnotNeg,
        Decimal.int, heq]
    · have hnotNeg : ¬ val.toInt < 0 := by omega
      have hne : val.toInt ≠ 0 := by omega
      simp [MetricCall.valueText, MetricCall.field, gaugeField, hflag, hpos.2 hgt, hnotNeg, hne,
        Decimal.int, CString.lit]
  · -- a gauge is not set to a negative value
    by_cases hlt : val.toInt < 0
    · have hmax : max val.toInt 0 = 0 := by omega
      simp [MetricCall.valueText, MetricCall.field, gaugeField, hflag, hneg.2 hlt, Decimal.int, hmax]
    · have hnotNeg : ¬ val < 0 := by rw [hneg]; exact hlt
      have hmax : max val.toInt 0 = val.toInt := by omega
      simp [MetricCall.valueText, MetricCall.field, gaugeField, hflag, hnotNeg, Decimal.int, hlt,
        hmax]

theorem parse_valueText_gauge :
    GaugeUpdate.parse (MetricCall.gauge name val flags).valueText =
      if hasFlag flags flGaugeAdjust then
        if val.toInt < 0 then none
        else if val.toInt = 0 then some (.set 0) else some (.adjust val.toInt)
      else some (.set (max val.toInt 0)) := by
  rw [valueText_gauge]
  split_ifs with hflag hlt heq
  · exact GaugeUpdate.parse_minus_minus _
  · exact GaugeUpdate.parse_nat 0
  · have hcast : ((val.toInt.natAbs : Nat) : Int) = val.toInt := by omega
    rw [GaugeUpdate.parse_plus, hcast]
  · have hcast : (((max val.toInt 0).natAbs : Nat) : Int) = max val.toInt 0 := by omega
    rw [GaugeUpdate.parse_nat, hcast]

theorem ofLine_gauge (statsd : Statsd) :
    GaugeUpdate.ofLine ((MetricCall.gauge name val flags).line statsd).chars =
      GaugeUpdate.parse (MetricCall.gauge name val flags).valueText := by
  have hrate : ¬ (MetricCall.gauge name val flags).Rated statsd := lt_irrefl 1
  have hcolon := not_mem_valueText (structural_of_reserved (Or.inl rfl))
    (MetricCall.gauge name val flags)
  have hbar := not_mem_valueText (structural_of_reserved (Or.inr (Or.inl rfl)))
    (MetricCall.gauge name val flags)
  rw [MetricCall.chars_line, if_neg hrate, List.append_nil]
  exact GaugeUpdate.ofLine_append hcolon hbar

end GaugeLine

/-- A line sets its gauge right; it moves the gauge right if it moves it up, and by nothing only if
there is nothing on it. -/
theorem formatted_gauge_iff (statsd : Statsd) (name : CString) (val : Int64) (flags : Flags)
    (gauge : Int) :
    (GaugeUpdate.ofLine ((MetricCall.gauge name val flags).line statsd).chars).map
        (GaugeUpdate.apply gauge) = some (gaugeTarget gauge val flags) ↔
      (hasFlag flags flGaugeAdjust = true → 0 < val.toInt ∨ val.toInt = 0 ∧ gauge = 0) := by
  rw [ofLine_gauge, parse_valueText_gauge]
  by_cases hflag : hasFlag flags flGaugeAdjust = true
  · rcases lt_trichotomy val.toInt 0 with hlt | heq | hgt
    · have hnot : ¬ (0 < val.toInt ∨ val.toInt = 0 ∧ gauge = 0) := by omega
      simp [hflag, hlt, hnot]
    · have hnot : ¬ val.toInt < 0 := by omega
      have hiff : (0 : Int) = gauge ↔ gauge = 0 := eq_comm
      simp [hflag, heq, gaugeTarget, GaugeUpdate.apply, hiff]
    · have hnot : ¬ val.toInt < 0 := by omega
      have hne : val.toInt ≠ 0 := by omega
      simp [hflag, hgt, hnot, hne, gaugeTarget, GaugeUpdate.apply]
  · simp [hflag, gaugeTarget, GaugeUpdate.apply]

/-- The same, of what is handed over for a line that fits. -/
theorem gauge_line_iff (statsd : Statsd) (name : CString) (val : Int64) (flags : Flags)
    (gauge : Int)
    (hfits : ((MetricCall.gauge name val flags).line statsd).strlen ≤ MetricCall.maxLine) :
    (GaugeUpdate.ofLine ((MetricCall.gauge name val flags).handed statsd).1.chars).map
        (GaugeUpdate.apply gauge) = some (gaugeTarget gauge val flags) ↔
      (hasFlag flags flGaugeAdjust = true → 0 < val.toInt ∨ val.toInt = 0 ∧ gauge = 0) := by
  rw [MetricCall.handed, CString.pstrndup_of_le hfits]
  exact formatted_gauge_iff statsd name val flags gauge

/-- `sql.connection:+1|g`, with two on the gauge. -/
theorem gauge_line_iff_increment :
    (GaugeUpdate.ofLine ((MetricCall.gauge (CString.lit "sql.connection") 1 flGaugeAdjust).handed
      (loopback false)).1.chars).map (GaugeUpdate.apply 2) = some 3 := by
  have hline := (gauge_line_iff (loopback false) (CString.lit "sql.connection") 1 flGaugeAdjust 2
    (by decide +kernel)).2 (fun _ => Or.inl (by decide))
  rw [hline]
  decide

/-- A decrement is written `--1`, which says nothing, and no change as `0`, which sets the gauge. -/
theorem decrement_has_two_signs :
    GaugeUpdate.ofLine ((MetricCall.gauge (CString.lit "connection") (-1) flGaugeAdjust).handed
      (loopback false)).1.chars = none ∧
    (GaugeUpdate.ofLine ((MetricCall.gauge (CString.lit "connection") 0 flGaugeAdjust).handed
      (loopback false)).1.chars).map (GaugeUpdate.apply 5) = some 0 := by
  decide +kernel

end ModStatsd
