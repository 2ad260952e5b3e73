import ModStatsd.Lib.Lists

/-!
# Lines — items joined by a separator, and texts cut at it

A packet that carries several items joins them with a separator; the receiver cuts the packet at
the separator and ignores empty pieces.  This module fixes both directions over an arbitrary
alphabet:

* `join sep items` — the packet;
* `pieces sep xs` — the non-empty pieces a receiver sees;
* `pieces_join` — a receiver gets back exactly the items, when these are *lines* (non-empty and
  free of the separator);
* length and counting lemmas for `join`, used to bound packets and to recognise malformed ones.
-/

namespace ModStatsd
namespace Lib
namespace Lines

variable {α β : Type*}

/-! ## Joining -/

/-- The items, each separated from the next by one `sep`. -/
def join (sep : α) (items : List (List α)) : List α :=
  [sep].intercalate items

@[simp] theorem join_nil (sep : α) : join sep [] = [] := rfl

@[simp] theorem join_singleton (sep : α) (x : List α) : join sep [x] = x := by
  simp [join]

theorem join_cons_of_ne_nil (sep : α) (x : List α) {items : List (List α)} (h : items ≠ []) :
    join sep (x :: items) = x ++ sep :: join sep items := by
  simp [join, List.intercalate_cons_of_ne_nil h]

/-- Appending one more item to a non-empty packet costs the separator and the item. -/
theorem join_concat (sep : α) {items : List (List α)} (h : items ≠ []) (x : List α) :
    join sep (items ++ [x]) = join sep items ++ sep :: x := by
  induction items with
  | nil => exact absurd rfl h
  | cons y ys ih =>
      by_cases hys : ys = []
      · subst hys
        simp [join_cons_of_ne_nil]
      · have hne : ys ++ [x] ≠ [] := by simp
        simp [join_cons_of_ne_nil sep y hne, join_cons_of_ne_nil sep y hys, ih hys]

/-- Joining commutes with renaming the alphabet. -/
theorem map_join (f : α → β) (sep : α) (items : List (List α)) :
    (join sep items).map f = join (f sep) (items.map (List.map f)) := by
  induction items with
  | nil => rfl
  | cons x xs ih =>
      by_cases hxs : xs = []
      · subst hxs
        simp
      · have hne : xs.map (List.map f) ≠ [] := by simpa using hxs
        simp [join_cons_of_ne_nil sep x hxs, join_cons_of_ne_nil (f sep) (x.map f) hne, ih]

theorem mem_join {sep : α} {items : List (List α)} {c : α} (hc : c ∈ join sep items) :
    c = sep ∨ ∃ x ∈ items, c ∈ x := by
  induction items with
  | nil => simp at hc
  | cons x xs ih =>
      by_cases hxs : xs = []
      · subst hxs
        exact Or.inr ⟨x, by simp, by simpa using hc⟩
      · rw [join_cons_of_ne_nil sep x hxs] at hc
        rcases List.mem_append.1 hc with hx | hrest
        · exact Or.inr ⟨x, by simp, hx⟩
        · rcases List.mem_cons.1 hrest with hsep | htail
          · exact Or.inl hsep
          · rcases ih htail with hsep | ⟨y, hy, hcy⟩
            · exact Or.inl hsep
            · exact Or.inr ⟨y, by simp [hy], hcy⟩

/-- Fewer items take no more room. -/
theorem length_join_le_of_suffix (sep : α) {items items' : List (List α)} (h : items <:+ items') :
    (join sep items).length ≤ (join sep items').length := by
  induction items' with
  | nil => rw [List.suffix_nil.1 h]
  | cons x xs ih =>
      rcases List.suffix_cons_iff.1 h with rfl | hxs
      · exact le_rfl
      · by_cases hnil : xs = []
        · subst hnil
          simp [List.suffix_nil.1 hxs]
        · rw [join_cons_of_ne_nil sep x hnil, List.length_append, List.length_cons]
          exact (ih hxs).trans (by omega)

theorem length_join_le_concat (sep : α) (items : List (List α)) (x : List α) :
    (join sep items).length ≤ (join sep (items ++ [x])).length := by
  by_cases hnil : items = []
  · simp [hnil]
  · rw [join_concat sep hnil, List.length_append]
    exact Nat.le_add_right _ _

/-! ## Cutting -/

section Pieces

variable [DecidableEq α]

/-- The non-empty pieces of `xs` between occurrences of `sep`. -/
def pieces (sep : α) (xs : List α) : List (List α) :=
  (xs.splitOn sep).filter (fun p => p ≠ [])

@[simp] theorem pieces_nil (sep : α) : pieces sep [] = [] := by
  simp [pieces]

/-- A *line*: something that travels between separators unharmed. -/
def IsLine (sep : α) (x : List α) : Prop :=
  x ≠ [] ∧ sep ∉ x

instance (sep : α) (x : List α) : Decidable (IsLine sep x) := by
  unfold IsLine
  infer_instance

/-- Cutting a packet of lines gives the lines back. -/
theorem pieces_join {sep : α} {items : List (List α)} (h : ∀ x ∈ items, IsLine sep x) :
    pieces sep (join sep items) = items := by
  by_cases hne : items = []
  · subst hne
    simp
  · have hsplit : (join sep items).splitOn sep = items :=
      List.splitOn_intercalate sep (fun x hx => (h x hx).2) hne
    rw [pieces, hsplit]
    exact List.filter_eq_self.2 (fun x hx => by simpa using (h x hx).1)

/-- Cutting a single line that is followed by its terminator. -/
theorem pieces_terminated {sep : α} {x : List α} (h : IsLine sep x) :
    pieces sep (x ++ [sep]) = [x] := by
  have hsplit : (x ++ sep :: []).splitOn sep = [x, []] := Lists.splitOn_once h.2 List.not_mem_nil
  rw [pieces, hsplit]
  simp [h.1]

end Pieces

end Lines
end Lib
end ModStatsd
