import Mathlib.Algebra.Group.Basic
import Mathlib.Logic.Function.Basic

/-!
# Ledger — accounts that are opened and settled one after the other

At most one account is current.  Opening an account books a unit on it, settling the current
account takes the unit back, and abandoning it does not.  Later accounts are new ones, so what was
not settled in its time stays in the books: `even_run_iff`.
-/

namespace ModStatsd
namespace Lib

/-- Accounts are numbered in the order they are opened in. -/
structure Ledger (M : Type) where
  current : Option Nat
  opened : Nat
  balance : Nat → M

namespace Ledger

inductive Op
  | openAccount
  | settle
  | abandon
  deriving DecidableEq, Repr

variable {M : Type} [AddGroup M] (u : M)

def empty : Ledger M :=
  { current := none
    opened := 0
    balance := fun _ => 0 }

def step (l : Ledger M) : Op → Ledger M
  | .openAccount =>
      -- an account that is current is given up
      { current := some l.opened
        opened := l.opened + 1
        balance := Function.update l.balance l.opened (l.balance l.opened + u) }
  | .settle =>
      match l.current with
      | some k => { l with
          current := none
          balance := Function.update l.balance k (l.balance k - u) }
      | none => l
  | .abandon => { l with current := none }

def run (ops : List Op) (l : Ledger M) : Ledger M :=
  ops.foldl (step u) l

/-- The operation leaves the current account without settling it. -/
def Wastes (l : Ledger M) (op : Op) : Prop :=
  op ≠ .settle ∧ l.current.isSome = true

/-- No operation of the run does. -/
def Thrifty : List Op → Ledger M → Prop
  | [], _ => True
  | op :: ops, l => ¬ l.Wastes op ∧ Thrifty ops (l.step u op)

/-- The current account is the last one, with a unit on it, and later accounts have nothing. -/
structure WellFormed (l : Ledger M) : Prop where
  last : ∀ k, l.current = some k → k + 1 = l.opened
  unit : ∀ k, l.current = some k → l.balance k = u
  fresh : ∀ k, l.opened ≤ k → l.balance k = 0

/-- Every account but the current one is settled. -/
def Even (l : Ledger M) : Prop :=
  ∀ k, l.current ≠ some k → l.balance k = 0

theorem wellFormed_empty : (empty : Ledger M).WellFormed u := by
  refine ⟨fun k hk => ?_, fun k hk => ?_, fun k _ => rfl⟩
  · exact nomatch hk
  · exact nomatch hk

theorem even_empty : (empty : Ledger M).Even :=
  fun _ _ => rfl

variable {u}

theorem WellFormed.openAccount {l : Ledger M} (h : l.WellFormed u) :
    (l.step u .openAccount).WellFormed u := by
  refine ⟨fun k hk => ?_, fun k hk => ?_, fun k hk => ?_⟩
  · have heq : l.opened = k := by simpa [Ledger.step] using hk
    simp [Ledger.step, heq]
  · have heq : l.opened = k := by simpa [Ledger.step] using hk
    have hzero := h.fresh k (Nat.le_of_eq heq)
    simp [Ledger.step, heq, hzero]
  · have hlt : l.opened + 1 ≤ k := hk
    have hne : k ≠ l.opened := by omega
    simpa [Ledger.step, Function.update_of_ne hne] using h.fresh k (by omega)

theorem WellFormed.settle {l : Ledger M} (h : l.WellFormed u) :
    (l.step u .settle).WellFormed u := by
  cases hc : l.current with
  | none => simpa [Ledger.step, hc] using h
  | some i =>
      refine ⟨fun k hk => ?_, fun k hk => ?_, fun k hk => ?_⟩
      · simp [Ledger.step, hc] at hk
      · simp [Ledger.step, hc] at hk
      · have hle : l.opened ≤ k := by simpa [Ledger.step, hc] using hk
        have hlast := h.last i hc
        have hne : k ≠ i := by omega
        simpa [Ledger.step, hc, Function.update_of_ne hne] using h.fresh k hle

theorem WellFormed.step {l : Ledger M} (h : l.WellFormed u) (op : Op) :
    (l.step u op).WellFormed u := by
  cases op with
  | openAccount => exact h.openAccount
  | settle => exact h.settle
  | abandon =>
      refine ⟨fun k hk => ?_, fun k hk => ?_, h.fresh⟩
      · exact nomatch hk
      · exact nomatch hk

theorem WellFormed.run {l : Ledger M} (h : l.WellFormed u) (ops : List Op) :
    (l.run u ops).WellFormed u := by
  induction ops generalizing l with
  | nil => exact h
  | cons op ops ih => exact ih (h.step op)

/-- A new account changes nothing about the old ones. -/
theorem even_openAccount_iff {l : Ledger M} (h : l.WellFormed u) (hc : l.current = none) :
    (l.step u .openAccount).Even ↔ l.Even := by
  have hfresh := h.fresh l.opened (Nat.le_refl _)
  constructor
  · intro heven k _
    by_cases hk : k = l.opened
    · simpa [hk] using hfresh
    · have hold := heven k (by simpa [Ledger.step] using Ne.symm hk)
      simpa [Ledger.step, Function.update_of_ne hk] using hold
  · intro heven k hk
    have hne : k ≠ l.opened := by
      rintro rfl
      exact hk rfl
    simpa [Ledger.step, Function.update_of_ne hne] using heven k (by simp [hc])

theorem even_settle_iff {l : Ledger M} (h : l.WellFormed u) :
    (l.step u .settle).Even ↔ l.Even := by
  cases hc : l.current with
  | none => simp [Ledger.step, hc]
  | some i =>
      have hunit := h.unit i hc
      constructor
      · intro heven k hk
        have hne : k ≠ i := by
          rintro rfl
          exact hk hc
        have hold := heven k (by simp [Ledger.step, hc])
        simpa [Ledger.step, hc, Function.update_of_ne hne] using hold
      · intro heven k _
        by_cases hk : k = i
        · simp [Ledger.step, hc, hk, hunit]
        · have hold := heven k (by simpa [hc] using Ne.symm hk)
          simpa [Ledger.step, hc, Function.update_of_ne hk] using hold

/-- An account that is wasted keeps its unit. -/
theorem not_even_of_wastes (hu : u ≠ 0) {l : Ledger M} (h : l.WellFormed u) {op : Op}
    (hop : l.Wastes op) : ¬ (l.step u op).Even := by
  rcases hop with ⟨hsettle, hsome⟩
  rcases Option.isSome_iff_exists.1 hsome with ⟨i, hc⟩
  -- the account that was current is not the one that is opened
  have hlast := h.last i hc
  have hne : i ≠ l.opened := by omega
  intro heven
  cases op with
  | openAccount =>
      have hzero := heven i (by simpa [Ledger.step] using Ne.symm hne)
      exact hu (by simpa [Ledger.step, Function.update_of_ne hne, h.unit i hc] using hzero)
  | settle => exact hsettle rfl
  | abandon =>
      have hzero : l.balance i = 0 := heven i (by simp [Ledger.step])
      exact hu (by simpa [h.unit i hc] using hzero)

/-- The step lemma: the books stay even as long as nothing is wasted. -/
theorem even_step_iff (hu : u ≠ 0) {l : Ledger M} (h : l.WellFormed u) (op : Op) :
    (l.step u op).Even ↔ l.Even ∧ ¬ l.Wastes op := by
  by_cases hop : l.Wastes op
  · simp [hop, not_even_of_wastes hu h hop]
  · rw [and_iff_left hop]
    cases op with
    | openAccount =>
        have hc : l.current = none := by simpa [Wastes] using hop
        exact even_openAccount_iff h hc
    | settle => exact even_settle_iff h
    | abandon =>
        have hc : l.current = none := by simpa [Wastes] using hop
        simp [Ledger.step, Even, hc]

/-- With no current account, the books are even if every account that was opened is settled. -/
theorem even_iff_settled {l : Ledger M} (h : l.WellFormed u) (hc : l.current = none) :
    l.Even ↔ ∀ k < l.opened, l.balance k = 0 := by
  constructor
  · intro heven k _
    exact heven k (by simp [hc])
  · intro hsettled k _
    by_cases hk : k < l.opened
    · exact hsettled k hk
    · exact h.fresh k (Nat.le_of_not_lt hk)

theorem run_append (ops ops' : List Op) (l : Ledger M) :
    l.run u (ops ++ ops') = (l.run u ops).run u ops' := by
  simp [run]

theorem thrifty_append (ops ops' : List Op) (l : Ledger M) :
    l.Thrifty u (ops ++ ops') ↔ l.Thrifty u ops ∧ (l.run u ops).Thrifty u ops' := by
  induction ops generalizing l with
  | nil => simp [Thrifty, run]
  | cons op ops ih =>
      have hrun : l.run u (op :: ops) = (l.step u op).run u ops := rfl
      simp only [List.cons_append, Thrifty, ih, hrun, and_assoc]

/-- The run lemma: the books are even in the end iff they were, and nothing was wasted. -/
theorem even_run_iff (hu : u ≠ 0) {l : Ledger M} (h : l.WellFormed u) (ops : List Op) :
    (l.run u ops).Even ↔ l.Even ∧ l.Thrifty u ops := by
  induction ops generalizing l with
  | nil => simp [run, Thrifty]
  | cons op ops ih =>
      have hrun : l.run u (op :: ops) = (l.step u op).run u ops := rfl
      rw [hrun, ih (h.step op), even_step_iff hu h op, Thrifty, and_assoc]

end Ledger
end Lib
end ModStatsd
