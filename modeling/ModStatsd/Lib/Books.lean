import Mathlib.Algebra.BigOperators.Group.List.Basic
import Mathlib.Algebra.Order.BigOperators.Group.List
import Mathlib.Data.List.Perm.Subperm
import Mathlib.Logic.Function.Basic

/-!
# Books — amounts that are booked under names

Whoever books amounts under names one after the other ends with a sum under each name (`foldl_post`,
and `foldl_field` for a field of a larger state).  The order does not matter then (`total_perm`), and of
positive amounts the more are lost the less is booked (`total_le_of_subperm`).
-/

namespace ModStatsd
namespace Lib
namespace Books

variable {κ M : Type*} [DecidableEq κ]

section Monoid

variable [AddCommMonoid M]

/-- Book an amount under a name. -/
def post (b : κ → M) (p : κ × M) : κ → M :=
  Function.update b p.1 (b p.1 + p.2)

/-- What some postings book under `k`. -/
def total (k : κ) (ps : List (κ × M)) : M :=
  (ps.map fun p => if p.1 = k then p.2 else 0).sum

@[simp] theorem total_nil (k : κ) : total k ([] : List (κ × M)) = 0 := rfl

@[simp] theorem total_cons (k : κ) (p : κ × M) (ps : List (κ × M)) :
    total k (p :: ps) = (if p.1 = k then p.2 else 0) + total k ps := by
  simp [total]

theorem total_append (k : κ) (ps qs : List (κ × M)) :
    total k (ps ++ qs) = total k ps + total k qs := by
  simp [total]

/-- Postings of several sources. -/
theorem total_flatMap {ι : Type*} (k : κ) (f : ι → List (κ × M)) (is : List ι) :
    total k (is.flatMap f) = (is.map fun i => total k (f i)).sum := by
  induction is with
  | nil => rfl
  | cons i is ih => rw [List.flatMap_cons, total_append, ih, List.map_cons, List.sum_cons]

/-- Of what each source tells, some is booked. -/
theorem total_filterMap_flatMap {ι α : Type*} (k : κ) (f : α → Option (κ × M)) (g : ι → List α)
    (is : List ι) :
    total k ((is.flatMap g).filterMap f) = (is.map fun i => total k ((g i).filterMap f)).sum := by
  rw [List.filterMap_flatMap, total_flatMap]

theorem total_perm (k : κ) {ps qs : List (κ × M)} (h : ps.Perm qs) : total k ps = total k qs :=
  (h.map _).sum_eq

theorem post_apply (b : κ → M) (p : κ × M) (k : κ) :
    post b p k = b k + if p.1 = k then p.2 else 0 := by
  by_cases hk : p.1 = k
  · subst hk
    simp [post]
  · simp [post, hk, Function.update_of_ne (Ne.symm hk)]

/-- The run lemma: under each name stands the sum of what was booked there. -/
theorem foldl_post (ps : List (κ × M)) (b : κ → M) (k : κ) :
    ps.foldl post b k = b k + total k ps := by
  induction ps generalizing b with
  | nil => simp
  | cons p ps ih =>
      calc
        (p :: ps).foldl post b k = post b p k + total k ps := ih (post b p)
        _ = b k + ((if p.1 = k then p.2 else 0) + total k ps) := by rw [post_apply, add_assoc]
        _ = b k + total k (p :: ps) := by rw [total_cons]

/-- Of a state that is stepped through, one field may be a book of what is read off the inputs. -/
theorem foldl_field {σ α : Type*} {step : σ → α → σ} {field : σ → κ → M}
    {read : α → Option (κ × M)} {as : List α}
    (hstep : ∀ a ∈ as, ∀ s, field (step s a) = (read a).elim (field s) (post (field s)))
    (s : σ) (k : κ) :
    field (as.foldl step s) k = field s k + total k (as.filterMap read) := by
  have hposted : field (as.foldl step s) = (as.filterMap read).foldl post (field s) := by
    induction as generalizing s with
    | nil => rfl
    | cons a as ih =>
        have hrest := ih (fun b hb => hstep b (List.mem_cons_of_mem a hb)) (step s a)
        rw [List.foldl_cons, hrest, hstep a List.mem_cons_self s]
        cases hread : read a with
        | none => rw [List.filterMap_cons_none hread, Option.elim_none]
        | some p => rw [List.filterMap_cons_some hread, List.foldl_cons, Option.elim_some]
  rw [hposted, foldl_post]

end Monoid

section Ordered

variable [AddCommMonoid M] [PartialOrder M] [IsOrderedAddMonoid M]

theorem total_nonneg (k : κ) {ps : List (κ × M)} (h : ∀ p ∈ ps, 0 ≤ p.2) : 0 ≤ total k ps := by
  apply List.sum_nonneg
  intro x hx
  rcases List.mem_map.1 hx with ⟨p, hp, rfl⟩
  by_cases hk : p.1 = k
  · simpa [hk] using h p hp
  · simp [hk]

/-- Of positive amounts, those that arrive book no more than all of them would. -/
theorem total_le_of_subperm (k : κ) {ps qs : List (κ × M)} (hsub : ps.Subperm qs)
    (hpos : ∀ q ∈ qs, 0 ≤ q.2) : total k ps ≤ total k qs := by
  rcases hsub with ⟨arrived, hperm, hsublist⟩
  rcases hsublist.exists_perm_append with ⟨rest, hrest⟩
  have hpositive : 0 ≤ total k rest :=
    total_nonneg k fun q hq => hpos q (hrest.mem_iff.2 (List.mem_append_right arrived hq))
  calc
    total k ps = total k arrived := total_perm k hperm.symm
    _ ≤ total k arrived + total k rest := le_add_of_nonneg_right hpositive
    _ = total k qs := by rw [← total_append, total_perm k hrest]

end Ordered

end Books
end Lib
end ModStatsd
