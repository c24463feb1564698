import Mathlib.Data.List.Basic

/-!
# Input that is not waited for

A reader that does not wait asks its source for a number of items and gets what is there, which can
be fewer and can be none, or an error. A `Source` is any function that answers such requests,
together with the items that are still to come, which no reader sees: what is handed out is the
beginning of these (`stream_eq`), and never more than was asked for (`length_le`).

A source is `Prompt` when it does not fail and has only finitely many delays ahead of it, each of
which ends with a short answer. `Source.chunks` is one: items that come in pieces, with empty pieces
for the requests that come too early.
-/

/-- Where items come from. -/
structure Source (σ α : Type) where
  /-- at most so many items, no item when none is there yet, or an error -/
  get : σ → Nat → Option (List α) × σ
  /-- the items that are still to come -/
  stream : σ → List α
  length_le : ∀ {s n as t}, get s n = (some as, t) → as.length ≤ n
  stream_eq : ∀ {s n as t}, get s n = (some as, t) → stream s = as ++ stream t

namespace Source

variable {σ α : Type}

/-- The source can fail. -/
def Fails (src : Source σ α) : Prop := ∃ s n, (src.get s n).1 = none

/-- A source that never fails, with a bound on the delays that are ahead of it. -/
structure Prompt (src : Source σ α) (delays : σ → Nat) : Prop where
  reliable : ¬ src.Fails
  le : ∀ s n, delays (src.get s n).2 ≤ delays s
  /-- an answer that is short of what was asked for, and of what is to come, ends a delay -/
  lt : ∀ {s n as t}, src.get s n = (some as, t) → as.length < n → src.stream s ≠ as →
    delays t < delays s

/-- No delay is added on the way from one place to the other. -/
def Follows (src : Source σ α) (s t : σ) : Prop :=
  ∀ delays, src.Prompt delays → delays t ≤ delays s

/-- A delay has ended on the way from one place to the other. -/
def Waited (src : Source σ α) (s t : σ) : Prop :=
  ∀ delays, src.Prompt delays → delays t < delays s

theorem Follows.refl (src : Source σ α) (s : σ) : src.Follows s s := fun _ _ => Nat.le_refl _

theorem Follows.get {src : Source σ α} {s t u : σ} {n : Nat} {r : Option (List α)}
    (h : src.Follows s t) (hget : src.get t n = (r, u)) : src.Follows s u := by
  intro delays hprompt
  have hle := hprompt.le t n
  rw [hget] at hle
  exact Nat.le_trans hle (h delays hprompt)

/-- A short answer, when more is to come. -/
theorem Follows.get_short {src : Source σ α} {s t u : σ} {n : Nat} {as : List α}
    (h : src.Follows s t) (hget : src.get t n = (some as, u)) (hshort : as.length < n)
    (hmore : src.stream u ≠ []) : src.Waited s u := by
  intro delays hprompt
  have hne : src.stream t ≠ as := by
    rw [src.stream_eq hget]
    exact fun heq => hmore (List.append_right_eq_self.1 heq)
  exact Nat.lt_of_lt_of_le (hprompt.lt hget hshort hne) (h delays hprompt)

/-- What a source hands out of the items that come first. -/
theorem get_of_stream {src : Source σ α} {s t : σ} {n : Nat} {as todo rest : List α}
    (h : src.get s n = (some as, t)) (hs : src.stream s = todo ++ rest) (hn : n ≤ todo.length) :
    ∃ later, todo = as ++ later ∧ src.stream t = later ++ rest := by
  have hle : as.length ≤ todo.length := Nat.le_trans (src.length_le h) hn
  have hstream : todo ++ rest = as ++ src.stream t := hs.symm.trans (src.stream_eq h)
  obtain ⟨later, rfl⟩ := List.prefix_of_prefix_length_le ⟨src.stream t, rfl⟩ ⟨rest, hstream⟩ hle
  rw [List.append_assoc] at hstream
  exact ⟨later, rfl, (List.append_cancel_left hstream).symm⟩

/-- A request for no items gets none. -/
theorem get_zero {src : Source σ α} {s t : σ} {as : List α} (h : src.get s 0 = (some as, t)) :
    as = [] ∧ src.stream t = src.stream s := by
  have hnil : as = [] := List.eq_nil_of_length_eq_zero (Nat.le_zero.1 (src.length_le h))
  rw [src.stream_eq h, hnil]
  exact ⟨rfl, rfl⟩

/-! ## Items in pieces -/

/-- A request to items in pieces: what it gets is of one piece. -/
def getChunk : List (List α) → Nat → Option (List α) × List (List α)
  | [], _ => (some [], [])
  | as :: chunks, n =>
      (some (as.take n), if as.length ≤ n then chunks else as.drop n :: chunks)

/-- Items in pieces. -/
def chunks : Source (List (List α)) α where
  get := getChunk
  stream := List.flatten
  length_le := by
    intro s n as t h
    cases s with
    | nil => cases h; exact Nat.zero_le _
    | cons bs chunks => cases h; exact List.length_take_le _ _
  stream_eq := by
    intro s n as t h
    cases s with
    | nil => cases h; rfl
    | cons bs chunks =>
      cases h
      split
      next hle => rw [List.take_of_length_le hle, List.flatten_cons]
      next => rw [List.flatten_cons, List.flatten_cons, ← List.append_assoc, List.take_append_drop]

/-- Each piece is a delay. -/
theorem chunks_prompt : Prompt (chunks (α := α)) List.length where
  reliable := by
    rintro ⟨s, n, h⟩
    cases s with
    | nil => cases h
    | cons as chunks => cases h
  le := by
    intro s n
    cases s with
    | nil => exact Nat.le_refl _
    | cons as cs =>
      change (if as.length ≤ n then cs else as.drop n :: cs).length ≤ _
      split
      · exact Nat.le_succ _
      · exact Nat.le_refl _
  lt := by
    intro s n as t h hshort hmore
    cases s with
    | nil => cases h; exact absurd rfl hmore
    | cons bs cs =>
      cases h
      rw [List.length_take] at hshort
      rw [if_pos (by omega)]
      exact Nat.lt_succ_self _

end Source
