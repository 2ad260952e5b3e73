import Mathlib.Data.List.Basic
import Mathlib.Tactic

/-!
# Batching — what a buffered sender is for

An abstract sender groups the items pushed to it into batches.  A batch is emitted when the next
item no longer fits, when a push asks for it, or when the sender is flushed.  Nothing here says
how a batch is laid out in memory or what happens to it after it was emitted.

The two facts a concrete sender is verified against:

* `history_push` / `history_flush` — emitted batches followed by the pending one are always the
  items pushed so far, each once and in push order;
* `Bounded` — every batch, emitted or pending, stays within what `fits` guarantees.
-/

namespace ModStatsd
namespace Lib

/-- Batches emitted so far, oldest first, and the batch being filled. -/
structure Batching (α : Type*) where
  emitted : List (List α)
  pending : List α

namespace Batching

variable {α : Type*}

def empty : Batching α :=
  { emitted := [], pending := [] }

/-- Emit the pending batch, if there is one. -/
def flush (b : Batching α) : Batching α :=
  if b.pending = [] then b else { emitted := b.emitted ++ [b.pending], pending := [] }

/-- Make room for `a`: keep the pending batch if `a` fits, emit it otherwise. -/
def makeRoom (fits : List α → α → Prop) [∀ xs a, Decidable (fits xs a)] (b : Batching α) (a : α) :
    Batching α :=
  if fits b.pending a then b else b.flush

/-- Put `a` into the pending batch. -/
def add (b : Batching α) (a : α) : Batching α :=
  { b with pending := b.pending ++ [a] }

/-- Push one item; with `now` the batch it ends up in is emitted at once. -/
def push (fits : List α → α → Prop) [∀ xs a, Decidable (fits xs a)] (now : Bool) (b : Batching α)
    (a : α) : Batching α :=
  if now then ((b.makeRoom fits a).add a).flush else (b.makeRoom fits a).add a

/-- Everything pushed so far, in push order. -/
def history (b : Batching α) : List α :=
  b.emitted.flatten ++ b.pending

/-! ## Nothing is lost, duplicated or reordered -/

@[simp] theorem history_empty : (empty : Batching α).history = [] := rfl

@[simp] theorem pending_flush (b : Batching α) : b.flush.pending = [] := by
  by_cases h : b.pending = []
  · simp [flush, h]
  · simp [flush, h]

@[simp] theorem history_flush (b : Batching α) : b.flush.history = b.history := by
  by_cases h : b.pending = []
  · simp [flush, h]
  · simp [flush, h, history]

@[simp] theorem history_add (b : Batching α) (a : α) : (b.add a).history = b.history ++ [a] := by
  simp [add, history]

section Push

variable (fits : List α → α → Prop) [∀ xs a, Decidable (fits xs a)]

@[simp] theorem history_makeRoom (b : Batching α) (a : α) :
    (b.makeRoom fits a).history = b.history := by
  by_cases h : fits b.pending a
  · simp [makeRoom, h]
  · simp [makeRoom, h]

@[simp] theorem history_push (now : Bool) (b : Batching α) (a : α) :
    (b.push fits now a).history = b.history ++ [a] := by
  cases now <;> simp [push]

/-- What is pending after a push was pending before, or was pushed. -/
theorem pending_push_suffix (now : Bool) (b : Batching α) (a : α) :
    (b.push fits now a).pending <:+ b.pending ++ [a] := by
  have hadd : ((b.makeRoom fits a).add a).pending <:+ b.pending ++ [a] := by
    by_cases hfits : fits b.pending a
    · simp [makeRoom, hfits, add]
    · simp [makeRoom, hfits, add]
  cases now with
  | false => simpa [push] using hadd
  | true => simp [push]

end Push

/-! ## Properties of batches -/

/-- `P` holds of every emitted batch and of the pending one, unless nothing is pending. -/
structure Bounded (P : List α → Prop) (b : Batching α) : Prop where
  emitted : ∀ g ∈ b.emitted, P g
  pending : b.pending ≠ [] → P b.pending

theorem bounded_empty (P : List α → Prop) : Bounded P (empty : Batching α) :=
  { emitted := by simp [empty]
    pending := by simp [empty] }

theorem Bounded.flush {P : List α → Prop} {b : Batching α} (h : Bounded P b) :
    Bounded P b.flush := by
  by_cases hp : b.pending = []
  · simpa [Batching.flush, hp] using h
  · refine ⟨?_, by simp⟩
    intro g hg
    -- either emitted before, or the batch that was pending
    have hg' : g ∈ b.emitted ∨ g = b.pending := by
      simpa [Batching.flush, hp] using hg
    rcases hg' with hold | rfl
    · exact h.emitted g hold
    · exact h.pending hp

/-- A push keeps `P` when a lone item satisfies it and a fitting item preserves it. -/
theorem Bounded.push {P : List α → Prop} {b : Batching α} (h : Bounded P b)
    (fits : List α → α → Prop) [∀ xs a, Decidable (fits xs a)] (now : Bool) {a : α}
    (hlone : P [a]) (hfits : b.pending ≠ [] → P b.pending → fits b.pending a → P (b.pending ++ [a])) :
    Bounded P (b.push fits now a) := by
  have hroom : Bounded P (b.makeRoom fits a) := by
    by_cases hf : fits b.pending a
    · simpa [makeRoom, hf] using h
    · simpa [makeRoom, hf] using h.flush
  have hadd : Bounded P ((b.makeRoom fits a).add a) := by
    refine ⟨hroom.emitted, fun _ => ?_⟩
    -- the item is alone after an emission, and joins a batch only if it fits
    by_cases hp : (b.makeRoom fits a).pending = []
    · simpa [add, hp] using hlone
    · have hf : fits b.pending a := by
        by_contra hf
        exact hp (by simp [makeRoom, hf])
      have hsame : (b.makeRoom fits a).pending = b.pending := by simp [makeRoom, hf]
      rw [hsame] at hp
      simpa [add, hsame] using hfits hp (h.pending hp) hf
  cases now with
  | false => simpa [Batching.push] using hadd
  | true => simpa [Batching.push] using hadd.flush

end Batching
end Lib
end ModStatsd
