import Mathlib.Data.List.Basic
import Mathlib.Tactic

/-!
# Lists — places in a list, and its prefixes

A list that is split at a separator, items in the parts they belong to, the last place of an item, and
what holds of every prefix.
-/

namespace ModStatsd
namespace Lib
namespace Lists

variable {α : Type*}

/-! ## Splitting -/

section Split

variable [DecidableEq α] {sep : α} {xs ys : List α}

theorem splitOn_once (hx : sep ∉ xs) (hy : sep ∉ ys) : (xs ++ sep :: ys).splitOn sep = [xs, ys] := by
  rw [List.splitOn_append_cons_self_of_not_mem hx, List.splitOn_eq_singleton hy]

/-- Whatever stands before the last separator. -/
theorem splitOn_last (xs : List α) (hy : sep ∉ ys) :
    (xs ++ sep :: ys).splitOn sep = xs.splitOn sep ++ [ys] := by
  rw [List.splitOn_append_cons_self, List.splitOn_eq_singleton hy]

theorem getLast?_splitOn (xs : List α) (hy : sep ∉ ys) :
    ((xs ++ sep :: ys).splitOn sep).getLast? = some ys := by
  rw [splitOn_last xs hy, List.getLast?_concat]

end Split

/-! ## Groups -/

/-- The last place of something that is there. -/
theorem exists_last {a : α} {xs : List α} (h : a ∈ xs) :
    ∃ before after, xs = before ++ a :: after ∧ a ∉ after := by
  rcases List.eq_append_cons_of_mem (List.mem_reverse.2 h) with ⟨as, bs, heq, has⟩
  refine ⟨bs.reverse, as.reverse, ?_, by simpa using has⟩
  have hrev := congrArg List.reverse heq
  simpa using hrev

/-! ## Prefixes -/

theorem forall_prefix_nil {P : List α → Prop} : (∀ ds, ds <+: [] → P ds) ↔ P [] := by
  constructor
  · intro h
    exact h [] List.nil_prefix
  · intro h ds hds
    rwa [List.prefix_nil.1 hds]

/-- The empty prefix, and those that start with the first item. -/
theorem forall_prefix_cons {P : List α → Prop} {a : α} {as : List α} :
    (∀ ds, ds <+: a :: as → P ds) ↔ P [] ∧ ∀ ds, ds <+: as → P (a :: ds) := by
  constructor
  · intro h
    exact ⟨h [] List.nil_prefix, fun ds hds => h (a :: ds) (List.cons_prefix_cons.2 ⟨rfl, hds⟩)⟩
  · rintro ⟨hnil, hcons⟩ ds hds
    rcases List.prefix_cons_iff.1 hds with rfl | ⟨ds', rfl, hds'⟩
    · exact hnil
    · exact hcons ds' hds'

end Lists
end Lib
end ModStatsd
