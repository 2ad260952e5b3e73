import Mathlib.Algebra.Order.Floor.Ring
import Mathlib.Data.Rat.Floor
import Mathlib.Tactic
import ModStatsd.Lib.Lists

/-!
# Decimal — numbers as `printf` writes them

Decimal text for integers (`%lld`) and for rationals rounded to hundredths (`%.2f`), with the
parsers that read such text back:

* `parseInt_int` — an integer survives the round trip;
* `parseFixed_fixed2` — a number of hundredths survives it;
* `abs_hundredths_sub_le` — rounding to hundredths moves a number by at most half of one;
* `hundredths_pos_iff` — and at most half of one is rounded to nothing.

Ties are rounded to even, as `printf` does in the default rounding mode.
-/

namespace ModStatsd
namespace Lib
namespace Decimal

/-! ## Naturals -/

def nat (n : Nat) : List Char :=
  Nat.toDigits 10 n

def parseNat (cs : List Char) : Option Nat :=
  if cs ≠ [] ∧ cs.all Char.isDigit then some (Nat.ofDigitChars 10 cs 0) else none

theorem isDigit_of_mem_nat {n : Nat} {c : Char} (h : c ∈ nat n) : c.isDigit = true :=
  Nat.isDigit_of_mem_toDigits (by omega) le_rfl h

theorem nat_ne_nil (n : Nat) : nat n ≠ [] :=
  Nat.toDigits_ne_nil

/-- A character that is not a digit does not occur. -/
theorem not_mem_nat {c : Char} (hc : c.isDigit = false) (n : Nat) : c ∉ nat n := by
  intro h
  simp [isDigit_of_mem_nat h] at hc

theorem length_nat_le {n k : Nat} (hk : 0 < k) (h : n < 10 ^ k) : (nat n).length ≤ k :=
  (Nat.length_toDigits_le_iff (by omega) hk).2 h

@[simp] theorem parseNat_nat (n : Nat) : parseNat (nat n) = some n := by
  have hdigits : (nat n).all Char.isDigit = true :=
    List.all_eq_true.2 (fun c hc => isDigit_of_mem_nat hc)
  have hvalue : Nat.ofDigitChars 10 (nat n) 0 = n := Nat.ofDigitChars_ten_toDigits
  simp [parseNat, nat_ne_nil, hdigits, hvalue]

theorem parseNat_eq_some {cs : List Char} {n : Nat} :
    parseNat cs = some n ↔
      (cs ≠ [] ∧ ∀ c ∈ cs, c.isDigit = true) ∧ Nat.ofDigitChars 10 cs 0 = n := by
  by_cases h : cs ≠ [] ∧ cs.all Char.isDigit = true
  · have hdigits : cs ≠ [] ∧ ∀ c ∈ cs, c.isDigit = true := ⟨h.1, List.all_eq_true.1 h.2⟩
    rw [parseNat, if_pos h, Option.some.injEq]
    exact ⟨fun hvalue => ⟨hdigits, hvalue⟩, fun hboth => hboth.2⟩
  · have hnot : ¬ (cs ≠ [] ∧ ∀ c ∈ cs, c.isDigit = true) := by
      simpa [List.all_eq_true] using h
    simp only [parseNat, if_neg h, hnot, false_and, reduceCtorEq]

/-! ## Integers -/

def int (v : Int) : List Char :=
  if v < 0 then '-' :: nat v.natAbs else nat v.natAbs

/-- A sign, and the digits. -/
theorem length_int_le {v : Int} {k : Nat} (hk : 0 < k) (h : v.natAbs < 10 ^ k) :
    (int v).length ≤ k + 1 := by
  have hdigits := length_nat_le hk h
  by_cases hneg : v < 0
  · simpa [int, hneg] using hdigits
  · simpa [int, hneg] using hdigits.trans (Nat.le_succ k)

/-- An optional minus sign, then digits. -/
def parseInt (cs : List Char) : Option Int :=
  match cs with
  | '-' :: ds => (parseNat ds).map fun n : Nat => -(n : Int)
  | ds => (parseNat ds).map fun n : Nat => (n : Int)

theorem parseInt_of_head_ne {cs : List Char} (h : cs.head? ≠ some '-') :
    parseInt cs = (parseNat cs).map fun n : Nat => (n : Int) := by
  cases cs with
  | nil => rfl
  | cons c ds =>
      have hc : c ≠ '-' := by simpa using h
      unfold parseInt
      split
      · rename_i ds' heq
        exact absurd (List.cons.inj heq).1 hc
      · rfl

@[simp] theorem parseInt_int (v : Int) : parseInt (int v) = some v := by
  by_cases hv : v < 0
  · simp [int, hv, parseInt, abs_of_neg hv]
  · have habs : ((v.natAbs : Nat) : Int) = v := by omega
    have hhead : (nat v.natAbs).head? ≠ some '-' := by
      intro h
      exact not_mem_nat (by decide) _ (List.mem_of_head? h)
    simp only [int, hv, if_false, parseInt_of_head_ne hhead, parseNat_nat, Option.map_some, habs]

theorem mem_int {v : Int} {c : Char} (h : c ∈ int v) : c = '-' ∨ c.isDigit = true := by
  by_cases hv : v < 0
  · have h' : c = '-' ∨ c ∈ nat v.natAbs := by simpa [int, hv] using h
    rcases h' with hminus | hdigit
    · exact Or.inl hminus
    · exact Or.inr (isDigit_of_mem_nat hdigit)
  · have h' : c ∈ nat v.natAbs := by simpa [int, hv] using h
    exact Or.inr (isDigit_of_mem_nat h')

/-! ## Hundredths -/

/-- `n` hundredths. -/
def fixed2 (n : Nat) : List Char :=
  nat (n / 100) ++ ['.', Nat.digitChar (n / 10 % 10), Nat.digitChar (n % 10)]

/-- Digits, a point and digits; the value is what all the digits denote, scaled by the number of
those behind the point. -/
def parseFixed (cs : List Char) : Option ℚ :=
  match cs.splitOn '.' with
  | [whole, frac] =>
      match parseNat whole, parseNat frac with
      | some w, some f => some (w + f / 10 ^ frac.length)
      | _, _ => none
  | _ => none

theorem digitChar_facts (d : Nat) (h : d < 10) :
    (Nat.digitChar d).isDigit = true ∧ (Nat.digitChar d).toNat - '0'.toNat = d := by
  interval_cases d <;> decide

theorem parseNat_two_digits (d e : Nat) (hd : d < 10) (he : e < 10) :
    parseNat [Nat.digitChar d, Nat.digitChar e] = some (10 * d + e) := by
  have hvalue : Nat.ofDigitChars 10 [Nat.digitChar d, Nat.digitChar e] 0 = 10 * d + e := by
    rw [Nat.ofDigitChars_cons_digitChar_of_lt_ten hd, Nat.ofDigitChars_cons_digitChar_of_lt_ten he,
      Nat.ofDigitChars_nil]
    omega
  simp [parseNat, (digitChar_facts d hd).1, (digitChar_facts e he).1, hvalue]

/-- The point, and digits, are all that is written. -/
theorem mem_fixed2 {n : Nat} {c : Char} (h : c ∈ fixed2 n) : c = '.' ∨ c.isDigit = true := by
  have h' : c ∈ nat (n / 100) ∨ c = '.' ∨ c = Nat.digitChar (n / 10 % 10) ∨
      c = Nat.digitChar (n % 10) := by
    simpa [fixed2] using h
  rcases h' with hwhole | rfl | rfl | rfl
  · exact Or.inr (isDigit_of_mem_nat hwhole)
  · exact Or.inl rfl
  · exact Or.inr (digitChar_facts _ (Nat.mod_lt _ (by omega))).1
  · exact Or.inr (digitChar_facts _ (Nat.mod_lt _ (by omega))).1

@[simp] theorem parseFixed_fixed2 (n : Nat) : parseFixed (fixed2 n) = some ((n : ℚ) / 100) := by
  have hd : n / 10 % 10 < 10 := Nat.mod_lt _ (by omega)
  have he : n % 10 < 10 := Nat.mod_lt _ (by omega)
  have hpoint : '.' ∉ nat (n / 100) := not_mem_nat (by decide) _
  -- the text splits at its one point
  have hfrac : '.' ∉ [Nat.digitChar (n / 10 % 10), Nat.digitChar (n % 10)] := by
    intro hmem
    have hdot : ('.' : Char).isDigit = true := by
      rcases List.mem_cons.1 hmem with h | h
      · exact h ▸ (digitChar_facts _ hd).1
      · exact (List.mem_singleton.1 h) ▸ (digitChar_facts _ he).1
    exact absurd hdot (by decide)
  have hsplit : (fixed2 n).splitOn '.' =
      [nat (n / 100), [Nat.digitChar (n / 10 % 10), Nat.digitChar (n % 10)]] := by
    have happend : fixed2 n =
        nat (n / 100) ++ '.' :: [Nat.digitChar (n / 10 % 10), Nat.digitChar (n % 10)] := rfl
    rw [happend, Lists.splitOn_once hpoint hfrac]
  -- the three groups of digits add up to `n`
  have hnat : n = 100 * (n / 100) + (10 * (n / 10 % 10) + n % 10) := by omega
  have hcast : (n : ℚ) = 100 * ((n / 100 : Nat) : ℚ) + ((10 * (n / 10 % 10) + n % 10 : Nat) : ℚ) := by
    exact_mod_cast hnat
  have hvalue : (((n / 100 : Nat) : ℚ) + ((10 * (n / 10 % 10) + n % 10 : Nat) : ℚ) / 10 ^ 2) =
      (n : ℚ) / 100 := by
    rw [hcast]
    ring
  simp only [parseFixed, hsplit, parseNat_nat, parseNat_two_digits _ _ hd he, List.length_cons,
    List.length_nil, Nat.zero_add]
  exact congrArg some hvalue

/-! ## Rounding -/

/-- The nearest integer, and the even one of two that are equally near. -/
def roundHalfEven (q : ℚ) : ℤ :=
  if q - ⌊q⌋ < 1 / 2 then ⌊q⌋
  else if 1 / 2 < q - ⌊q⌋ then ⌊q⌋ + 1
  else if ⌊q⌋ % 2 = 0 then ⌊q⌋ else ⌊q⌋ + 1

theorem abs_roundHalfEven_sub_le (q : ℚ) : |(roundHalfEven q : ℚ) - q| ≤ 1 / 2 := by
  have hlow : (⌊q⌋ : ℚ) ≤ q := Int.floor_le q
  have hhigh : q < ⌊q⌋ + 1 := Int.lt_floor_add_one q
  rw [abs_le]
  unfold roundHalfEven
  split_ifs with h1 h2 h3
  · exact ⟨by linarith, by linarith⟩
  · push_cast
    exact ⟨by linarith, by linarith⟩
  · exact ⟨by linarith, by linarith⟩
  · push_cast
    exact ⟨by linarith, by linarith⟩

theorem roundHalfEven_nonneg {q : ℚ} (h : 0 ≤ q) : 0 ≤ roundHalfEven q := by
  have hfloor : 0 ≤ ⌊q⌋ := Int.floor_nonneg.2 h
  unfold roundHalfEven
  split_ifs <;> omega

/-- No integer is passed by rounding. -/
theorem roundHalfEven_le {q : ℚ} {n : ℤ} (h : q ≤ n) : roundHalfEven q ≤ n := by
  have hfloor : ⌊q⌋ ≤ n := Int.cast_le.1 ((Int.floor_le q).trans h)
  rcases hfloor.eq_or_lt with heq | hlt
  · -- then the fraction is nothing
    have hsame : q = ⌊q⌋ := le_antisymm (heq ▸ h) (Int.floor_le q)
    have hfraction : q - ⌊q⌋ < 1 / 2 := by
      rw [← hsame, sub_self]
      norm_num
    rw [roundHalfEven, if_pos hfraction]
    exact hfloor
  · unfold roundHalfEven
    split_ifs <;> omega

/-- How many hundredths `q ≥ 0` is, rounded. -/
def hundredths (q : ℚ) : Nat :=
  (roundHalfEven (q * 100)).toNat

theorem abs_hundredths_sub_le {q : ℚ} (h : 0 ≤ q) : |(hundredths q : ℚ) / 100 - q| ≤ 1 / 200 := by
  have hround := abs_roundHalfEven_sub_le (q * 100)
  have hnonneg : 0 ≤ roundHalfEven (q * 100) := roundHalfEven_nonneg (by linarith)
  have hcast : (hundredths q : ℚ) = (roundHalfEven (q * 100) : ℚ) := by
    have hint : ((hundredths q : Nat) : ℤ) = roundHalfEven (q * 100) := Int.toNat_of_nonneg hnonneg
    exact_mod_cast congrArg (fun z : ℤ => (z : ℚ)) hint
  rw [abs_le] at hround ⊢
  rw [hcast]
  exact ⟨by linarith, by linarith⟩

/-- What is at most half of one rounds to nothing. -/
theorem roundHalfEven_pos_iff {q : ℚ} (h : 0 ≤ q) : 0 < roundHalfEven q ↔ 1 / 2 < q := by
  have hlow : (⌊q⌋ : ℚ) ≤ q := Int.floor_le q
  have hnonneg : 0 ≤ ⌊q⌋ := Int.floor_nonneg.2 h
  rcases hnonneg.eq_or_lt with hzero | hpos
  · -- below one, the fraction is the number, and zero is even
    have hcast : (⌊q⌋ : ℚ) = 0 := by exact_mod_cast hzero.symm
    unfold roundHalfEven
    rw [hcast, sub_zero, ← hzero]
    split_ifs with h1 h2 h3
    · exact ⟨fun hlt => absurd hlt (lt_irrefl 0), fun hlt => absurd h1 (not_lt.2 hlt.le)⟩
    · exact ⟨fun _ => h2, fun _ => by norm_num⟩
    · exact ⟨fun hlt => absurd hlt (lt_irrefl 0), fun hlt => absurd hlt h2⟩
    · exact absurd rfl h3
  · have hone : (1 : ℚ) ≤ ⌊q⌋ := by exact_mod_cast hpos
    have hround : 0 < roundHalfEven q := by
      unfold roundHalfEven
      split_ifs <;> omega
    exact ⟨fun _ => by linarith, fun _ => hround⟩

theorem hundredths_pos_iff {q : ℚ} (h : 0 ≤ q) : 0 < hundredths q ↔ 1 / 200 < q := by
  have hround := roundHalfEven_pos_iff (q := q * 100) (by linarith)
  have hcast : 0 < hundredths q ↔ 0 < roundHalfEven (q * 100) := by
    unfold hundredths
    omega
  rw [hcast, hround]
  constructor
  · intro hlt
    linarith
  · intro hlt
    linarith

/-- `%.2f` of a rational. -/
def fixed (q : ℚ) : List Char :=
  if q < 0 then '-' :: fixed2 (hundredths (-q)) else fixed2 (hundredths q)

theorem fixed_of_nonneg {q : ℚ} (h : 0 ≤ q) : fixed q = fixed2 (hundredths q) := by
  simp [fixed, not_lt.2 h]

/-- A fraction has one digit before the point. -/
theorem length_fixed_le {q : ℚ} (hnonneg : 0 ≤ q) (hle : q ≤ 1) : (fixed q).length ≤ 4 := by
  have hscaled : q * 100 ≤ ((100 : ℤ) : ℚ) := by
    push_cast
    linarith
  have hround : roundHalfEven (q * 100) ≤ 100 := roundHalfEven_le hscaled
  have hhundred : hundredths q ≤ 100 := by
    unfold hundredths
    omega
  have hwhole : (nat (hundredths q / 100)).length ≤ 1 := length_nat_le (by omega) (by omega)
  rw [fixed_of_nonneg hnonneg, fixed2, List.length_append]
  exact Nat.add_le_add_right hwhole 3

theorem mem_fixed {q : ℚ} {c : Char} (h : c ∈ fixed q) : c = '-' ∨ c = '.' ∨ c.isDigit = true := by
  by_cases hq : q < 0
  · have h' : c = '-' ∨ c ∈ fixed2 (hundredths (-q)) := by simpa [fixed, hq] using h
    rcases h' with hminus | hrest
    · exact Or.inl hminus
    · exact Or.inr (mem_fixed2 hrest)
  · have h' : c ∈ fixed2 (hundredths q) := by simpa [fixed, hq] using h
    exact Or.inr (mem_fixed2 h')

end Decimal
end Lib
end ModStatsd
