import Mathlib.Data.List.Basic
import Mathlib.Tactic

/-!
# C strings and the bytes behind them

The sources pass text as NUL-terminated `char *`.  `CString` is such a text: the bytes before the
terminator, none of which is NUL.  A `Char` stands for one byte (code points 0 to 255 are the byte
values; nothing below depends on the bound).

The pool string functions keep the property by construction, so `strlen` is the length of the
list.  Reading *more* bytes than the text has is modelled too: `CString.read s n` is what a system
call sees that is handed `s` together with the length `n`.
-/

namespace ModStatsd

def nul : Char := Char.ofNat 0

/-- A NUL-terminated string: the bytes before its terminator. -/
structure CString where
  chars : List Char
  noNul : nul ∉ chars
  deriving DecidableEq, Repr

/-- One byte of memory: a byte somebody wrote, or one that is not part of any string. -/
inductive Cell
  | byte (c : Char)
  | heap
  deriving DecidableEq, Repr

namespace CString

/-- A string literal of the sources. -/
def lit (s : String) (h : s.toList.contains nul = false := by exact Eq.refl false) : CString :=
  { chars := s.toList
    noNul := by
      intro hmem
      simp [hmem] at h }

@[ext] theorem ext {s t : CString} (h : s.chars = t.chars) : s = t := by
  cases s
  cases t
  simpa using h

def strlen (s : CString) : Nat :=
  s.chars.length

/-! ## Pool string functions -/

/-- The empty string. -/
def empty : CString :=
  { chars := []
    noNul := by simp }

/-- `pstrcat(p, s, t, NULL)`; the variadic calls of the sources chain it. -/
def pstrcat (s t : CString) : CString :=
  { chars := s.chars ++ t.chars
    noNul := by simp [s.noNul, t.noNul] }

/-- `pstrndup(p, s, n)`: at most `n` bytes, fewer when the text ends first. -/
def pstrndup (s : CString) (n : Nat) : CString :=
  { chars := s.chars.take n
    noNul := fun h => s.noNul (List.mem_of_mem_take h) }

/-- `snprintf(buf, size, ...)` of the text `s`, `0 < size`: the buffer afterwards, and the return
value, which is the length `s` would have had without truncation. -/
def snprintf (size : Nat) (s : CString) : CString × Nat :=
  (s.pstrndup (size - 1), s.strlen)

@[simp] theorem chars_empty : empty.chars = [] := rfl

@[simp] theorem chars_pstrcat (s t : CString) : (s.pstrcat t).chars = s.chars ++ t.chars := rfl

@[simp] theorem chars_pstrndup (s : CString) (n : Nat) : (s.pstrndup n).chars = s.chars.take n :=
  rfl

@[simp] theorem strlen_pstrcat (s t : CString) : (s.pstrcat t).strlen = s.strlen + t.strlen := by
  simp [strlen]

theorem strlen_pstrndup (s : CString) (n : Nat) : (s.pstrndup n).strlen = min n s.strlen := by
  simp [strlen]

theorem pstrndup_of_le {s : CString} {n : Nat} (h : s.strlen ≤ n) : s.pstrndup n = s := by
  apply ext
  simpa using List.take_of_length_le h

@[simp] theorem pstrndup_strlen (s : CString) : s.pstrndup s.strlen = s :=
  pstrndup_of_le (Nat.le_refl _)

/-! ## Reading memory -/

/-- The bytes of the text. -/
def cells (s : CString) : List Cell :=
  s.chars.map Cell.byte

/-- The `n` bytes that start at `s`: the text, its terminator, and beyond it memory nobody
initialised. -/
def read (s : CString) (n : Nat) : List Cell :=
  (s.cells ++ Cell.byte nul :: List.replicate n Cell.heap).take n

@[simp] theorem cells_pstrcat (s t : CString) : (s.pstrcat t).cells = s.cells ++ t.cells := by
  simp [cells]

@[simp] theorem length_cells (s : CString) : s.cells.length = s.strlen := by
  simp [cells, strlen]

theorem mem_cells {s : CString} {c : Char} : Cell.byte c ∈ s.cells ↔ c ∈ s.chars := by
  simp [cells]

@[simp] theorem length_read (s : CString) (n : Nat) : (s.read n).length = n := by
  simp [read]
  omega

/-- Reading no further than the text gives only text. -/
theorem read_of_le {s : CString} {n : Nat} (h : n ≤ s.strlen) : s.read n = s.cells.take n := by
  have hlen : n ≤ s.cells.length := by simpa using h
  rw [read, List.take_append_of_le_length hlen]

@[simp] theorem read_strlen (s : CString) : s.read s.strlen = s.cells := by
  rw [read_of_le (Nat.le_refl _)]
  exact List.take_of_length_le (by simp)

/-- Reading past the text reaches its terminator. -/
theorem nul_mem_read {s : CString} {n : Nat} (h : s.strlen < n) : Cell.byte nul ∈ s.read n := by
  have hlen : s.cells.length < n := by simpa using h
  -- the terminator stands right behind the text
  have hget : (s.cells ++ Cell.byte nul :: List.replicate n Cell.heap)[s.cells.length]? =
      some (Cell.byte nul) := by
    simp
  have htake : (s.read n)[s.cells.length]? = some (Cell.byte nul) := by
    rw [read, List.getElem?_take_of_lt hlen]
    exact hget
  exact List.mem_of_getElem? htake

end CString
end ModStatsd
