import Mathlib.Data.List.Basic

/-!
# Input that can be interrupted

What a reader gets from a connection, item by item, whatever pieces it comes in: a `Feed`. Between
two items the feed can pause, which makes the read that waits there fail, and it can end.
`Feed.read` reads a number of items: a pause loses the items that this read already has.

`Feed.read_append` reads what is there as a whole, `Feed.items_read` and `Feed.count_read_eq_iff`
say for any feed what a read hands out and when it succeeds.
-/

/-- Input as it is seen item by item. -/
inductive Feed (α : Type)
  /-- nothing more comes -/
  | quiet
  /-- the next item -/
  | item (a : α) (rest : Feed α)
  /-- the read that waits here fails, and the feed goes on -/
  | pause (rest : Feed α)
  /-- the input has ended; the items of the tail are handed out and not counted -/
  | ended (tail : List α)
  deriving DecidableEq

namespace Feed

variable {α : Type}

/-- Items before a feed. -/
def append : List α → Feed α → Feed α
  | [], f => f
  | a :: as, f => .item a (append as f)

/-- What a read makes of a feed. -/
@[ext] structure Reading (α : Type) where
  /-- the number of items it reports, if it did not fail -/
  count : Option Nat
  /-- the items it hands out -/
  items : List α
  /-- the feed after it -/
  rest : Feed α
  deriving DecidableEq

/-- Items that were read before. -/
def Reading.after (as : List α) (r : Reading α) : Reading α where
  count := r.count.map (as.length + ·)
  items := as ++ r.items
  rest := r.rest

/-- Read `n` items. -/
def read : Nat → Feed α → Reading α
  | 0, f => ⟨some 0, [], f⟩
  | _ + 1, .quiet => ⟨none, [], .quiet⟩
  | _ + 1, .pause f => ⟨none, [], f⟩
  | n + 1, .ended tail => ⟨some 0, tail.take (n + 1), .ended []⟩
  | n + 1, .item a f => (read n f).after [a]

/-- Read one item. -/
def next : Feed α → Option α × Feed α
  | .quiet => (none, .quiet)
  | .pause f => (none, f)
  | .ended _ => (none, .ended [])
  | .item a f => (some a, f)

/-- The items before the first interruption. -/
def front : Feed α → List α
  | .item a f => a :: f.front
  | .quiet | .pause _ | .ended _ => []

/-- The items that can be handed out before the first interruption, or at the end. -/
def arriving : Feed α → List α
  | .item a f => a :: f.arriving
  | .ended tail => tail
  | .quiet | .pause _ => []

@[simp] theorem append_nil (f : Feed α) : append [] f = f := rfl

@[simp] theorem append_cons (a : α) (as : List α) (f : Feed α) :
    append (a :: as) f = .item a (append as f) := rfl

theorem append_append (as bs : List α) (f : Feed α) :
    append (as ++ bs) f = append as (append bs f) := by
  induction as with
  | nil => rfl
  | cons a as ih => rw [List.cons_append, append_cons, append_cons, ih]

theorem front_append (as : List α) (f : Feed α) : (append as f).front = as ++ f.front := by
  induction as with
  | nil => rfl
  | cons a as ih => rw [append_cons, front, ih, List.cons_append]

@[simp] theorem Reading.after_nil (r : Reading α) : r.after [] = r := by
  obtain ⟨count, items, rest⟩ := r
  cases count <;> simp [Reading.after]

theorem Reading.after_cons (a : α) (as : List α) (r : Reading α) :
    r.after (a :: as) = (r.after as).after [a] := by
  obtain ⟨count, items, rest⟩ := r
  cases count with
  | none => rfl
  | some n => simp [Reading.after]; omega

@[simp] theorem read_zero (f : Feed α) : read 0 f = ⟨some 0, [], f⟩ := by
  rw [read]

@[simp] theorem read_succ_item (n : Nat) (a : α) (f : Feed α) :
    read (n + 1) (.item a f) = (read n f).after [a] := rfl

/-- The items in front of a feed are read first. -/
theorem read_append_add (as : List α) (n : Nat) (f : Feed α) :
    read (as.length + n) (append as f) = (read n f).after as := by
  induction as with
  | nil => simp
  | cons a as ih =>
    rw [List.length_cons, Nat.add_right_comm, append_cons, read_succ_item, ih, ← Reading.after_cons]

/-- A read of what is there. -/
theorem read_append (as : List α) (f : Feed α) :
    read as.length (append as f) = ⟨some as.length, as, f⟩ := by
  rw [← Nat.add_zero as.length, read_append_add, read_zero]
  simp [Reading.after]

/-- A read of a part of what is there. -/
theorem read_append_of_le {n : Nat} {as : List α} (h : n ≤ as.length) (f : Feed α) :
    read n (append as f) = ⟨some n, as.take n, append (as.drop n) f⟩ := by
  have hlen : (as.take n).length = n := List.length_take_of_le h
  have hread := read_append (as.take n) (append (as.drop n) f)
  rwa [← append_append, List.take_append_drop, hlen] at hread

/-- **What a read hands out**, whether it succeeds or not. -/
theorem items_read (n : Nat) (f : Feed α) : (read n f).items = f.arriving.take n := by
  induction f generalizing n with
  | quiet => cases n <;> rfl
  | pause f _ => cases n <;> rfl
  | ended tail => cases n <;> rfl
  | item a f ih =>
    cases n with
    | zero => rfl
    | succ n =>
      rw [read_succ_item, arriving, List.take_succ_cons, ← ih n]
      rfl

/-- **When a read succeeds**: before the first interruption there are enough items. -/
theorem count_read_eq_iff (n : Nat) (f : Feed α) :
    (read n f).count = some n ↔ n ≤ f.front.length := by
  induction f generalizing n with
  | quiet => cases n <;> simp [read, front]
  | pause f _ => cases n <;> simp [read, front]
  | ended tail => cases n <;> simp [read, front]
  | item a f ih =>
    cases n with
    | zero => simp
    | succ n =>
      rw [front, List.length_cons, Nat.add_le_add_iff_right, ← ih n, read_succ_item]
      simp only [Reading.after, List.length_singleton, Option.map_eq_some_iff]
      refine ⟨?_, fun h => ⟨n, h, Nat.add_comm 1 n⟩⟩
      rintro ⟨m, hm, hmn⟩
      have hm' : m = n := by omega
      rwa [hm'] at hm

/-- Up to the interruption, all that arrives is counted. -/
theorem take_arriving {n : Nat} {f : Feed α} (h : n ≤ f.front.length) :
    f.arriving.take n = f.front.take n := by
  induction f generalizing n with
  | quiet => rfl
  | pause f _ => rfl
  | ended tail => rw [Nat.le_zero.1 h]; rfl
  | item a f ih =>
    cases n with
    | zero => rfl
    | succ n => rw [arriving, front, List.take_succ_cons, List.take_succ_cons,
        ih (Nat.le_of_succ_le_succ h)]

theorem length_front_le (f : Feed α) : f.front.length ≤ f.arriving.length := by
  induction f with
  | quiet => exact Nat.le_refl _
  | pause f _ => exact Nat.le_refl _
  | ended tail => exact Nat.zero_le _
  | item a f ih => exact Nat.succ_le_succ ih

/-- A read of one item. -/
theorem read_one (f : Feed α) :
    (if (read 1 f).count = some 1 then (read 1 f).items.head? else none, (read 1 f).rest) =
      f.next := by
  cases f with
  | quiet => rfl
  | pause f => rfl
  | ended tail => rfl
  | item a f => rfl

end Feed
