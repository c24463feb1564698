import Mathlib.Logic.Function.Basic

/-!
# Arrays in memory, and which of their elements are written

A memory is a function from addresses to cells. Arrays lie in it as `addr` says, `addr a i` being
the address of the element `i` of the array `a`, also for an `i` behind the last element; so two
arrays may lie one behind the other, or each may have memory of its own behind its end. `Mem` keeps
beside the cells which elements were written, in order, under the names of their arrays.

`copyLoop` is a loop that writes the elements of one array in turn. `cells_copyLoop` and
`cells_copyLoop_of_ne` say what it leaves in memory, `writes_copyLoop` what it writes, and
`within_range_iff` when such writes stay inside the array. `lengthTo` is the search for the element
that ends a string.
-/

namespace Cells

variable {ν κ β : Type*} [DecidableEq κ]

/-- The cells of a memory and the elements that were written. -/
structure Mem (ν κ β : Type*) where
  cells : κ → β
  writes : List (ν × Nat)


section
variable (addr : ν → Nat → κ)

/-- `a[i] = b`. -/
def Mem.store (m : Mem ν κ β) (a : ν) (i : Nat) (b : β) : Mem ν κ β where
  cells := Function.update m.cells (addr a i) b
  writes := m.writes ++ [(a, i)]

/-- `for (i = 0; i < n; i++) a[i] = f(i)`, where `f` may read the memory. -/
def Mem.copyLoop (m : Mem ν κ β) (a : ν) (f : (κ → β) → Nat → β) : Nat → Mem ν κ β
  | 0 => m
  | n + 1 => (m.copyLoop a f n).store addr a n (f (m.copyLoop a f n).cells n)

/-- What is read does not change when the array is written. -/
def Unaffected (a : ν) (f : (κ → β) → Nat → β) : Prop :=
  ∀ c i b, f (Function.update c (addr a i) b) = f c

end

section
variable {addr : ν → Nat → κ} {m : Mem ν κ β} {a : ν} {f : (κ → β) → Nat → β}

@[simp] theorem writes_store (i : Nat) (b : β) :
    (m.store addr a i b).writes = m.writes ++ [(a, i)] := rfl

@[simp] theorem cells_store_self (i : Nat) (b : β) :
    (m.store addr a i b).cells (addr a i) = b := Function.update_self ..

theorem cells_store_of_ne {k : κ} {i : Nat} (h : k ≠ addr a i) (b : β) :
    (m.store addr a i b).cells k = m.cells k := Function.update_of_ne h ..

/-- The elements that a loop writes. -/
theorem writes_copyLoop (n : Nat) :
    (m.copyLoop addr a f n).writes = m.writes ++ (List.range n).map (a, ·) := by
  induction n with
  | zero => simp [Mem.copyLoop]
  | succ n ih => simp [Mem.copyLoop, ih, List.range_succ]

/-- A loop leaves the cells of other elements alone. -/
theorem cells_copyLoop_of_ne {n : Nat} {k : κ} (h : ∀ i, i < n → k ≠ addr a i) :
    (m.copyLoop addr a f n).cells k = m.cells k := by
  induction n with
  | zero => rfl
  | succ n ih =>
    rw [Mem.copyLoop, cells_store_of_ne (h n (Nat.lt_succ_self n))]
    exact ih fun i hi => h i (Nat.lt_succ_of_lt hi)

/-- What a loop reads is what it found. -/
theorem read_copyLoop (hf : Unaffected addr a f) (n : Nat) :
    f (m.copyLoop addr a f n).cells = f m.cells := by
  induction n with
  | zero => rfl
  | succ n ih => rw [Mem.copyLoop, Mem.store, hf, ih]

/-- The cells of the elements that a loop writes. -/
theorem cells_copyLoop (hf : Unaffected addr a f) (ha : Function.Injective (addr a)) {n i : Nat}
    (hi : i < n) : (m.copyLoop addr a f n).cells (addr a i) = f m.cells i := by
  induction n with
  | zero => cases hi
  | succ n ih =>
    rw [Mem.copyLoop]
    rcases Nat.lt_succ_iff_lt_or_eq.1 hi with hlt | rfl
    · rw [cells_store_of_ne fun h => Nat.ne_of_lt hlt (ha h)]
      exact ih hlt
    · rw [cells_store_self, read_copyLoop hf]

end

/-- The number of elements before the first `z`, looking at `n` of them. -/
def lengthTo [DecidableEq β] (z : β) (f : Nat → β) : Nat → Nat
  | 0 => 0
  | n + 1 => if f 0 = z then 0 else lengthTo z (fun i => f (i + 1)) n + 1

theorem lengthTo_eq [DecidableEq β] {z : β} {f : Nat → β} {k n : Nat} (hk : k ≤ n)
    (hz : k < n → f k = z) (hne : ∀ i, i < k → f i ≠ z) : lengthTo z f n = k := by
  induction n generalizing f k with
  | zero => rw [Nat.le_zero.1 hk, lengthTo]
  | succ n ih =>
    rw [lengthTo]
    cases k with
    | zero => rw [if_pos (hz (Nat.succ_pos n))]
    | succ k =>
      have hrest : lengthTo z (fun i => f (i + 1)) n = k :=
        ih (Nat.le_of_succ_le_succ hk) (fun h => hz (Nat.succ_lt_succ h))
          fun i hi => hne (i + 1) (Nat.succ_lt_succ hi)
      rw [if_neg (hne 0 (Nat.succ_pos k)), hrest]

/-- Writes of the first elements of one array stay in it when it has that many. -/
theorem within_range_iff {size : ν → Nat} {a : ν} {n : Nat} :
    (∀ w ∈ (List.range n).map (a, ·), w.2 < size w.1) ↔ n ≤ size a := by
  simp only [List.mem_map, List.mem_range]
  constructor
  · intro h
    rcases Nat.eq_zero_or_pos n with rfl | hpos
    · exact Nat.zero_le _
    · have := h (a, n - 1) ⟨n - 1, by omega, rfl⟩
      simp only at this
      omega
  · rintro h w ⟨i, hi, rfl⟩
    exact Nat.lt_of_lt_of_le hi h

end Cells
