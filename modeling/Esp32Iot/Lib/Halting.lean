import Mathlib.Logic.Basic

/-!
# Programs that may halt

A program over a state that may halt is a computation of `EStateM`: it ends with a value or halts
with a reason, and leaves a state behind in both cases. `final` is that state.

`bind_of_ok` and `bind_of_error` run a sequence step by step. `Keeps P` says of a program that it
leaves every state with `P` in a state with `P`, ended or halted, and is closed under sequencing:
an invariant of each step is an invariant of the program, wherever that halts. `Avoids e` says that
the program never halts with `e`. `Adds μ n` says that a program which ends has raised the measure
`μ` by `n`; the numbers of a sequence add up.
-/

namespace Halting

variable {ε σ α β : Type}

/-- The state a program leaves behind, ended or halted. -/
def final : EStateM.Result ε σ α → σ
  | .ok _ s => s
  | .error _ s => s

theorem bind_apply (x : EStateM ε σ α) (g : α → EStateM ε σ β) (s : σ) :
    (x >>= g) s =
      match x s with
      | .ok a s' => g a s'
      | .error e s' => .error e s' := by
  show EStateM.bind x g s = _
  unfold EStateM.bind
  cases x s <;> rfl

theorem bind_of_ok {x : EStateM ε σ α} {s s' : σ} {a : α} (h : x s = .ok a s')
    (g : α → EStateM ε σ β) : (x >>= g) s = g a s' := by
  rw [bind_apply, h]

theorem bind_of_error {x : EStateM ε σ α} {s s' : σ} {e : ε} (h : x s = .error e s')
    (g : α → EStateM ε σ β) : (x >>= g) s = .error e s' := by
  rw [bind_apply, h]

/-- What a sequence leaves behind, when its first program ends. -/
theorem bind_final (x : EStateM ε σ α) (g : α → EStateM ε σ β) (s : σ) :
    final ((x >>= g) s) =
      match x s with
      | .ok a s' => final (g a s')
      | .error _ s' => s' := by
  rw [bind_apply]
  cases x s <;> rfl

/-- A program keeps a property of the state, ended or halted. -/
def Keeps (P : σ → Prop) (x : EStateM ε σ α) : Prop := ∀ s, P s → P (final (x s))

section
variable {P : σ → Prop}

theorem Keeps.bind {x : EStateM ε σ α} {g : α → EStateM ε σ β} (hx : Keeps P x)
    (hg : ∀ a, Keeps P (g a)) : Keeps P (x >>= g) := by
  intro s hs
  have hfirst := hx s hs
  rw [bind_final]
  cases hxs : x s with
  | ok a s' => rw [hxs] at hfirst; exact hg a s' hfirst
  | error e s' => rw [hxs] at hfirst; exact hfirst

theorem Keeps.pure (a : α) : Keeps P (Pure.pure a : EStateM ε σ α) := fun _ hs => hs

theorem Keeps.throw (e : ε) : Keeps P (MonadExcept.throw e : EStateM ε σ α) := fun _ hs => hs

end

/-- A program never halts with the reason `e`. -/
def Avoids (e : ε) (x : EStateM ε σ α) : Prop := ∀ s s', x s ≠ .error e s'

section
variable {e : ε}

theorem Avoids.bind {x : EStateM ε σ α} {g : α → EStateM ε σ β} (hx : Avoids e x)
    (hg : ∀ a, Avoids e (g a)) : Avoids e (x >>= g) := by
  intro s s' h
  rw [bind_apply] at h
  cases hxs : x s with
  | ok a t => rw [hxs] at h; exact hg a t s' h
  | error e' t => rw [hxs] at h; injection h with he; exact hx s t (he ▸ hxs)

theorem Avoids.pure (a : α) : Avoids e (Pure.pure a : EStateM ε σ α) := fun _ _ h => by cases h

end

/-- A program that ends raises a measure of the state by `n`. -/
def Adds (μ : σ → Nat) (n : Nat) (x : EStateM ε σ α) : Prop :=
  ∀ s a s', x s = .ok a s' → μ s' = μ s + n

section
variable {μ : σ → Nat} {m n : Nat}

theorem Adds.bind {x : EStateM ε σ α} {g : α → EStateM ε σ β} (hx : Adds μ m x)
    (hg : ∀ a, Adds μ n (g a)) : Adds μ (m + n) (x >>= g) := by
  intro s b s' h
  rw [bind_apply] at h
  cases hxs : x s with
  | ok a t =>
    rw [hxs] at h
    rw [hg a t b s' h, hx s a t hxs, Nat.add_assoc]
  | error e t => rw [hxs] at h; cases h

/-- Behind a program that leaves the measure as it is. -/
theorem Adds.after {x : EStateM ε σ α} {g : α → EStateM ε σ β} (hx : Adds μ 0 x)
    (hg : ∀ a, Adds μ n (g a)) : Adds μ n (x >>= g) := by
  have hboth := hx.bind hg
  rwa [Nat.zero_add] at hboth

theorem Adds.pure (a : α) : Adds μ 0 (Pure.pure a : EStateM ε σ α) := by
  intro s b s' h
  cases h
  rfl

/-- A program that always halts raises a measure by any number. -/
theorem Adds.throw (e : ε) : Adds μ n (MonadExcept.throw e : EStateM ε σ α) := by
  intro s b s' h
  cases h

theorem Adds.modify {f : σ → σ} (hf : ∀ s, μ (f s) = μ s + n) :
    Adds μ n (modify f : EStateM ε σ PUnit) := by
  intro s b s' h
  cases h
  exact hf s

end

end Halting
