import ModStatsd.Lib.Batching

/-!
# Cuts — into how few groups can a sequence be cut?

A cut of a list is a list of non-empty groups, each of which satisfies some `P`, that concatenate to
it.  A sender that lets an item into the pending batch whenever the batch stays good cuts greedily.
If `P` passes to the beginnings and ends of a group, nobody cuts into fewer groups:
`Batching.isLeast_groups`.
-/

namespace ModStatsd
namespace Lib

/-- The groups are non-empty and good, and in order they make up the list. -/
structure Cut {α : Type*} (P : List α → Prop) (xs : List α) (gs : List (List α)) : Prop where
  flatten : gs.flatten = xs
  nonempty : ∀ g ∈ gs, g ≠ []
  good : ∀ g ∈ gs, P g

namespace Cut

variable {α : Type*} {P : List α → Prop} {xs : List α} {gs : List (List α)}

theorem ne_nil (h : Cut P xs gs) (hxs : xs ≠ []) : gs ≠ [] := by
  rintro rfl
  exact hxs h.flatten.symm

theorem append (h : Cut P xs gs) {g : List α} (hne : g ≠ []) (hg : P g) :
    Cut P (xs ++ g) (gs ++ [g]) := by
  refine ⟨by simp [h.flatten], ?_, ?_⟩
  · intro g' hg'
    rcases List.mem_append.1 hg' with hold | hnew
    · exact h.nonempty g' hold
    · exact (List.mem_singleton.1 hnew) ▸ hne
  · intro g' hg'
    rcases List.mem_append.1 hg' with hold | hnew
    · exact h.good g' hold
    · exact (List.mem_singleton.1 hnew) ▸ hg

/-- The last item is a group of its own, or ends one that is good without it. -/
theorem concat_cases {a : α} (h : Cut P (xs ++ [a]) gs)
    (hinit : ∀ g b, g ≠ [] → P (g ++ [b]) → P g) :
    (∃ gs', gs = gs' ++ [[a]] ∧ Cut P xs gs') ∨
      ∃ gs' g, g ≠ [] ∧ gs = gs' ++ [g ++ [a]] ∧ Cut P xs (gs' ++ [g]) := by
  rcases List.eq_nil_or_concat gs with rfl | ⟨before, last, rfl⟩
  · exact absurd rfl (h.ne_nil (by simp))
  · simp only [List.concat_eq_append] at h ⊢
    have hlast : last ≠ [] := h.nonempty last (by simp)
    rcases List.eq_nil_or_concat last with rfl | ⟨g, b, rfl⟩
    · exact absurd rfl hlast
    · simp only [List.concat_eq_append] at h ⊢
      -- compare the two ways to write the whole list
      have hflat : (before.flatten ++ g) ++ [b] = xs ++ [a] := by
        simpa using h.flatten
      rcases List.append_inj' hflat rfl with ⟨hxs, hab⟩
      have hba : b = a := by simpa using hab
      subst hba
      have hbefore : ∀ g' ∈ before, g' ≠ [] ∧ P g' :=
        fun g' hg' => ⟨h.nonempty g' (by simp [hg']), h.good g' (by simp [hg'])⟩
      have hcut : Cut P before.flatten before :=
        ⟨rfl, fun g' hg' => (hbefore g' hg').1, fun g' hg' => (hbefore g' hg').2⟩
      by_cases hg : g = []
      · subst hg
        refine Or.inl ⟨before, rfl, ?_⟩
        rw [← hxs, List.append_nil]
        exact hcut
      · refine Or.inr ⟨before, g, hg, rfl, ?_⟩
        rw [← hxs]
        exact hcut.append hg (hinit g b hg (h.good _ (by simp)))

end Cut

namespace Batching

variable {α : Type*} {P : List α → Prop}

/-- The emitted batches and the pending one. -/
def groups (b : Batching α) : List (List α) :=
  b.flush.emitted

theorem groups_of_pending {b : Batching α} (h : b.pending ≠ []) :
    b.groups = b.emitted ++ [b.pending] := by
  simp [groups, flush, h]

theorem flatten_groups (b : Batching α) : b.groups.flatten = b.history := by
  have hhistory := history_flush b
  rw [history, pending_flush, List.append_nil] at hhistory
  exact hhistory

/-- The greedy sender is ahead: no cut of the items so far has fewer groups, and the last group of one
that has as many ends with the pending batch. -/
structure Ahead (P : List α → Prop) (b : Batching α) : Prop where
  idle : b.pending = [] → b.emitted = []
  fewest : ∀ gs, Cut P b.history gs → b.groups.length ≤ gs.length
  pending : ∀ gs g, Cut P b.history (gs ++ [g]) → gs.length + 1 = b.groups.length →
    b.pending <:+ g

theorem ahead_empty (P : List α → Prop) : Ahead P (empty : Batching α) :=
  { idle := fun _ => rfl
    fewest := fun _ _ => Nat.zero_le _
    pending := fun _ _ _ _ => List.nil_suffix }

/-- The last item of a run is still pending. -/
theorem pending_run_ne_nil (fits : List α → α → Prop) [∀ xs a, Decidable (fits xs a)]
    (b : Batching α) {xs : List α} (h : xs ≠ []) :
    (xs.foldl (fun b a => b.push fits false a) b).pending ≠ [] := by
  rcases List.eq_nil_or_concat xs with rfl | ⟨init, last, rfl⟩
  · exact absurd rfl h
  · simp [Batching.push, add]

section Greedy

variable {b : Batching α} {a : α} (hinit : ∀ g a, g ≠ [] → P (g ++ [a]) → P g)
include hinit

/-- An item that joins the pending batch: in another cut with as many groups it has joined, too. -/
theorem Ahead.join (h : Ahead P b) (hne : b.pending ≠ []) :
    Ahead P { b with pending := b.pending ++ [a] } := by
  have hgroups : groups { b with pending := b.pending ++ [a] } =
      b.emitted ++ [b.pending ++ [a]] := groups_of_pending (by simp)
  have hlen : (groups { b with pending := b.pending ++ [a] }).length = b.groups.length := by
    simp [hgroups, groups_of_pending hne]
  have hhistory : history { b with pending := b.pending ++ [a] } = b.history ++ [a] := by
    simp [history]
  refine ⟨fun hnil => absurd hnil (by simp), ?_, ?_⟩
  · intro gs hgs
    rw [hlen]
    rw [hhistory] at hgs
    rcases hgs.concat_cases hinit with ⟨gs', rfl, hcut⟩ | ⟨gs', g, _, rfl, hcut⟩
    · have hfewest := h.fewest gs' hcut
      rw [List.length_append]
      exact hfewest.trans (Nat.le_add_right _ _)
    · simpa using h.fewest _ hcut
  · intro gs g hgs hcount
    rw [hlen] at hcount
    rw [hhistory] at hgs
    rcases hgs.concat_cases hinit with ⟨gs', heq, hcut⟩ | ⟨gs', g', _, heq, hcut⟩
    · -- a group of its own would be one too many
      have hfewest := h.fewest gs' hcut
      have hsame : gs.length = gs'.length := by simpa using congrArg List.length heq
      omega
    · rcases List.append_inj' heq rfl with ⟨rfl, hlast⟩
      have hg : g = g' ++ [a] := by simpa using hlast
      rcases h.pending gs g' hcut hcount with ⟨front, hfront⟩
      exact ⟨front, by rw [hg, ← hfront, List.append_assoc]⟩

/-- An item that starts a batch: a cut that puts it into a group has been behind before. -/
theorem Ahead.start (h : Ahead P b) (htail : ∀ g g', g ≠ [] → g <:+ g' → P g' → P g)
    (hstart : b.pending = [] ∨ ¬ P (b.pending ++ [a])) :
    Ahead P { emitted := b.groups, pending := [a] } := by
  have hgroups : groups { emitted := b.groups, pending := [a] } = b.groups ++ [[a]] :=
    groups_of_pending (by simp)
  have hhistory : history { emitted := b.groups, pending := [a] } = b.history ++ [a] := by
    simp [history, flatten_groups]
  have hlen : (groups { emitted := b.groups, pending := [a] }).length = b.groups.length + 1 := by
    simp [hgroups]
  refine ⟨fun hnil => absurd hnil (by simp), ?_, ?_⟩
  · intro gs hgs
    rw [hlen]
    rw [hhistory] at hgs
    rcases hgs.concat_cases hinit with ⟨gs', rfl, hcut⟩ | ⟨gs', g, hg, rfl, hcut⟩
    · simpa using h.fewest gs' hcut
    · have hfewest : b.groups.length ≤ gs'.length + 1 := by simpa using h.fewest _ hcut
      rw [List.length_append, List.length_singleton]
      refine Nat.succ_le_of_lt (lt_of_le_of_ne hfewest fun hcount => ?_)
      rcases hstart with hp | hbad
      · -- nothing has been pushed yet, so there is nothing to be behind of
        have hnone : b.groups = [] := by simp [groups, flush, hp, h.idle hp]
        simp [hnone] at hcount
      · have hsuffix := h.pending gs' g hcut hcount.symm
        have hgood : P (g ++ [a]) := hgs.good _ (by simp)
        have hjoined : b.pending ++ [a] <:+ g ++ [a] := by
          rcases hsuffix with ⟨front, rfl⟩
          exact ⟨front, by simp⟩
        exact hbad (htail _ _ (by simp) hjoined hgood)
  · intro gs g hgs _
    rw [hhistory] at hgs
    rcases hgs.concat_cases hinit with ⟨gs', heq, _⟩ | ⟨gs', g', _, heq, _⟩
    · have hg : g = [a] := by simpa using (List.append_inj' heq rfl).2
      exact hg ▸ List.suffix_rfl
    · have hg : g = g' ++ [a] := by simpa using (List.append_inj' heq rfl).2
      exact ⟨g', hg.symm⟩

variable {fits : List α → α → Prop} [∀ xs a, Decidable (fits xs a)]
  (htail : ∀ g g', g ≠ [] → g <:+ g' → P g' → P g)
  (hfits : ∀ p a, fits p a ↔ p = [] ∨ P (p ++ [a]))
include htail hfits

theorem Ahead.push (h : Ahead P b) (a : α) : Ahead P (b.push fits false a) := by
  by_cases hf : fits b.pending a
  · by_cases hp : b.pending = []
    · -- the very first item
      have hpush : b.push fits false a = { emitted := b.groups, pending := [a] } := by
        simp [Batching.push, makeRoom, add, hp, groups, flush]
      rw [hpush]
      exact h.start hinit htail (Or.inl hp)
    · have hpush : b.push fits false a = { b with pending := b.pending ++ [a] } := by
        simp [Batching.push, makeRoom, add, hf]
      rw [hpush]
      exact h.join hinit hp
  · have hbad : ¬ P (b.pending ++ [a]) := fun hgood => hf ((hfits _ _).2 (Or.inr hgood))
    have hpush : b.push fits false a = { emitted := b.groups, pending := [a] } := by
      simp [Batching.push, makeRoom, add, hf, groups]
    rw [hpush]
    exact h.start hinit htail (Or.inr hbad)

theorem ahead_run (xs : List α) (h : Ahead P b) :
    Ahead P (xs.foldl (fun b a => b.push fits false a) b) := by
  induction xs generalizing b with
  | nil => exact h
  | cons x xs ih => exact ih (h.push hinit htail hfits x)

omit hinit htail in
/-- The batches of a greedy run are a cut of what was pushed. -/
theorem cut_run (xs : List α) (hlone : ∀ x ∈ xs, P [x])
    (h : Bounded (fun g => g ≠ [] ∧ P g) b) :
    Cut P (xs.foldl (fun b a => b.push fits false a) b).history
      (xs.foldl (fun b a => b.push fits false a) b).groups := by
  induction xs generalizing b with
  | nil =>
      exact
        { flatten := flatten_groups b
          nonempty := fun g hg => (h.flush.emitted g hg).1
          good := fun g hg => (h.flush.emitted g hg).2 }
  | cons x xs ih =>
      have hx : P [x] := hlone x (by simp)
      have hpush : Bounded (fun g => g ≠ [] ∧ P g) (b.push fits false x) := by
        apply h.push fits false
        · exact ⟨by simp, hx⟩
        · intro hne _ hf
          exact ⟨by simp, ((hfits _ _).1 hf).resolve_left hne⟩
      exact ih (fun y hy => hlone y (by simp [hy])) hpush

/-- The greedy sender cuts into as few groups as anybody can. -/
theorem isLeast_groups (xs : List α) (hlone : ∀ x ∈ xs, P [x]) :
    IsLeast { n | ∃ gs, Cut P xs gs ∧ gs.length = n }
      (xs.foldl (fun b a => b.push fits false a) empty).groups.length := by
  have hhistory : ∀ (ys : List α) (b : Batching α),
      (ys.foldl (fun b a => b.push fits false a) b).history = b.history ++ ys := by
    intro ys
    induction ys with
    | nil => simp
    | cons y ys ih => simp [ih]
  have hxs := hhistory xs empty
  rw [history_empty, List.nil_append] at hxs
  have hahead := ahead_run hinit htail hfits xs (ahead_empty P)
  have hcut := cut_run hfits xs hlone (bounded_empty _)
  rw [hxs] at hcut
  refine ⟨⟨_, hcut, rfl⟩, ?_⟩
  rintro n ⟨gs, hgs, rfl⟩
  rw [← hxs] at hgs
  exact hahead.fewest gs hgs

end Greedy

end Batching
end Lib
end ModStatsd
