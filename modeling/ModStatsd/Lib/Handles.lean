import Mathlib.Data.Multiset.Count
import Mathlib.Tactic

/-!
# Handles — what is acquired is released

Handles are acquired and released one after the other, and only what is held may be released.  A
sequence of such operations either goes wrong at some point or ends with the handles that are held
(`run`).  If it does not go wrong, no prefix of it does (`run_append`), and of each handle there were
as many acquisitions as there were releases and are left (`count_run`).
-/

namespace ModStatsd
namespace Lib

inductive HandleOp (α : Type*)
  | acquire (a : α)
  | release (a : α)
  deriving DecidableEq, Repr

namespace Handles

variable {α : Type*} [DecidableEq α]

/-- Nothing is released that is not held. -/
def step (held : Multiset α) : HandleOp α → Option (Multiset α)
  | .acquire a => some (a ::ₘ held)
  | .release a => if a ∈ held then some (held.erase a) else none

def run (held : Multiset α) : List (HandleOp α) → Option (Multiset α)
  | [] => some held
  | op :: ops => (step held op).bind fun held => run held ops

@[simp] theorem run_nil (held : Multiset α) : run held [] = some held := rfl

theorem run_cons (held : Multiset α) (op : HandleOp α) (ops : List (HandleOp α)) :
    run held (op :: ops) = (step held op).bind fun held => run held ops := rfl

@[simp] theorem run_acquire (held : Multiset α) (a : α) (ops : List (HandleOp α)) :
    run held (.acquire a :: ops) = run (a ::ₘ held) ops := rfl

/-- The only handle can be released. -/
@[simp] theorem run_release (a : α) (ops : List (HandleOp α)) :
    run {a} (.release a :: ops) = run 0 ops := by
  simp [run, step]

theorem run_append (held : Multiset α) (ops ops' : List (HandleOp α)) :
    run held (ops ++ ops') = (run held ops).bind fun held => run held ops' := by
  induction ops generalizing held with
  | nil => rfl
  | cons op ops ih =>
      rw [List.cons_append, run_cons, run_cons, Option.bind_assoc]
      exact congrArg _ (funext ih)

/-- How often a handle is acquired. -/
def acquired (a : α) (ops : List (HandleOp α)) : Nat :=
  ops.count (.acquire a)

def released (a : α) (ops : List (HandleOp α)) : Nat :=
  ops.count (.release a)

theorem count_step {held held' : Multiset α} {op : HandleOp α} (h : step held op = some held')
    (a : α) : held'.count a + released a [op] = held.count a + acquired a [op] := by
  cases op with
  | acquire b =>
      rw [← Option.some.inj h]
      by_cases hab : a = b
      · simp [acquired, released, hab]
      · simp [acquired, released, hab, Ne.symm hab]
  | release b =>
      by_cases hb : b ∈ held
      · have heq : held.erase b = held' := by simpa [step, hb] using h
        have hpos : 0 < held.count b := Multiset.count_pos.2 hb
        rw [← heq]
        by_cases hab : a = b
        · subst hab
          simp [acquired, released]
          omega
        · simp [acquired, released, hab, Ne.symm hab]
      · simp [step, hb] at h

/-- The books of one handle. -/
theorem count_run {held held' : Multiset α} {ops : List (HandleOp α)}
    (h : run held ops = some held') (a : α) :
    held'.count a + released a ops = held.count a + acquired a ops := by
  induction ops generalizing held with
  | nil =>
      rw [← Option.some.inj h]
      rfl
  | cons op ops ih =>
      rcases Option.bind_eq_some_iff.1 h with ⟨mid, hstep, hrest⟩
      have hone := count_step hstep a
      have hmany := ih hrest
      have hreleased : released a (op :: ops) = released a [op] + released a ops := by
        simp only [released, List.count_cons, List.count_nil]
        omega
      have hacquired : acquired a (op :: ops) = acquired a [op] + acquired a ops := by
        simp only [acquired, List.count_cons, List.count_nil]
        omega
      omega

end Handles
end Lib
end ModStatsd
