import Mathlib.Logic.Basic

/-!
# Runs of a labelled step function

`step s a = some (o, t)` says that the label `a` is enabled in the state `s`, that it emits `o`
and that it leads to `t`. `exec` runs a list of labels and collects what they emit; it is `none`
when a label is not enabled where it stands. `Along Ok` says of a list of labels that each of them
meets the condition `Ok` in the state in which it is taken.

A few rules reduce a property of whole runs to one step: `exec_invariant` for the state at the end
of a run and `visited_forall` for all of its states, `exec_outputs` for what is emitted,
`exec_history` for the state together with all that was emitted before, and `exec_simulates` for a
second, total step function that a relation ties to the first. Where a
condition on the step is exact, `visited_forall_iff_along` and `outputs_forall_iff` say so of the
run.
-/

namespace Runs

variable {σ ι ο : Type*}

/-- Run the labels in order and collect what they emit. -/
def exec (step : σ → ι → Option (ο × σ)) : σ → List ι → Option (List ο × σ)
  | s, [] => some ([], s)
  | s, a :: as =>
      match step s a with
      | none => none
      | some (o, t) => (exec step t as).map fun r => (o :: r.1, r.2)

/-- Each label meets `Ok` in the state in which it is taken. -/
def Along (step : σ → ι → Option (ο × σ)) (Ok : σ → ι → Prop) : σ → List ι → Prop
  | _, [] => True
  | s, a :: as => Ok s a ∧ ∀ o t, step s a = some (o, t) → Along step Ok t as

/-- Whether a condition holds along a run can be found out by running it. -/
instance decidableAlong {step : σ → ι → Option (ο × σ)} {Ok : σ → ι → Prop}
    [h : ∀ s a, Decidable (Ok s a)] : ∀ s as, Decidable (Along step Ok s as)
  | _, [] => .isTrue trivial
  | s, a :: as =>
      match hstep : step s a with
      | none => decidable_of_iff (Ok s a)
          ⟨fun hok => ⟨hok, fun _ _ heq => nomatch hstep.symm.trans heq⟩, And.left⟩
      | some (o, t) =>
          have : Decidable (Along step Ok t as) := decidableAlong t as
          decidable_of_iff (Ok s a ∧ Along step Ok t as)
            ⟨fun hok => ⟨hok.1, fun _ _ heq => by cases hstep.symm.trans heq; exact hok.2⟩,
              fun hok => ⟨hok.1, hok.2 o t hstep⟩⟩

variable {step : σ → ι → Option (ο × σ)} {Ok : σ → ι → Prop}

/-- A nonempty run is a first step and a run from where it leads. -/
theorem exec_cons_eq_some {s u : σ} {a : ι} {as : List ι} {os : List ο}
    (h : exec step s (a :: as) = some (os, u)) :
    ∃ o t os', step s a = some (o, t) ∧ exec step t as = some (os', u) ∧ os = o :: os' := by
  rw [exec] at h
  cases hs : step s a with
  | none => rw [hs] at h; cases h
  | some r =>
      obtain ⟨o, t⟩ := r
      rw [hs] at h
      obtain ⟨⟨os', u'⟩, he, hr⟩ := Option.map_eq_some_iff.1 h
      cases hr
      exact ⟨o, t, os', rfl, he, rfl⟩

/-- A condition along a run whose first step is known. -/
theorem Along.cons {s t : σ} {a : ι} {as : List ι} {o : ο} (hok : Ok s a)
    (hstep : step s a = some (o, t)) (h : Along step Ok t as) : Along step Ok s (a :: as) := by
  refine ⟨hok, fun o' t' hstep' => ?_⟩
  rw [hstep] at hstep'
  cases hstep'
  exact h

/-- Two conditions along a run. -/
theorem Along.and {Ok' : σ → ι → Prop} {s : σ} {as : List ι} (h : Along step Ok s as)
    (h' : Along step Ok' s as) : Along step (fun s a => Ok s a ∧ Ok' s a) s as := by
  induction as generalizing s with
  | nil => trivial
  | cons a as ih =>
      exact ⟨⟨h.1, h'.1⟩, fun o t hstep => ih (h.2 o t hstep) (h'.2 o t hstep)⟩

/-- A condition along a run that rests on an assumption. -/
theorem along_of_imp {Q : Prop} {s : σ} {as : List ι} (h : Q → Along step Ok s as) :
    Along step (fun s a => Q → Ok s a) s as := by
  induction as generalizing s with
  | nil => trivial
  | cons a as ih => exact ⟨fun hq => (h hq).1, fun o t hstep => ih fun hq => (h hq).2 o t hstep⟩

/-- A condition on the labels alone holds along every run of labels that meet it. -/
theorem along_of_forall {Ok : ι → Prop} {as : List ι} {s : σ} (h : ∀ a ∈ as, Ok a) :
    Along step (fun _ => Ok) s as := by
  induction as generalizing s with
  | nil => trivial
  | cons a as ih => exact ⟨h a (.head _), fun _ _ _ => ih fun b hb => h b (.tail _ hb)⟩

/-- What every step preserves holds at the end of every run. -/
theorem exec_invariant {Inv : σ → Prop}
    (hstep : ∀ s a o t, Inv s → Ok s a → step s a = some (o, t) → Inv t) {as : List ι} {s u : σ}
    {os : List ο} (hs : Inv s) (hok : Along step Ok s as) (h : exec step s as = some (os, u)) :
    Inv u := by
  induction as generalizing s os with
  | nil => cases h; exact hs
  | cons a as ih =>
      obtain ⟨o, t, os', hfirst, hrest, -⟩ := exec_cons_eq_some h
      exact ih (hstep s a o t hs hok.1 hfirst) (hok.2 o t hfirst) hrest

/-- What every step emits from a state of the invariant, every run emits. -/
theorem exec_outputs {Inv : σ → Prop} {Q : ο → Prop}
    (hstep : ∀ s a o t, Inv s → Ok s a → step s a = some (o, t) → Inv t)
    (hout : ∀ s a o t, Inv s → Ok s a → step s a = some (o, t) → Q o) {as : List ι} {s u : σ}
    {os : List ο} (hs : Inv s) (hok : Along step Ok s as) (h : exec step s as = some (os, u)) :
    ∀ o ∈ os, Q o := by
  induction as generalizing s os with
  | nil => cases h; simp
  | cons a as ih =>
      obtain ⟨o, t, os', hfirst, hrest, rfl⟩ := exec_cons_eq_some h
      intro x hx
      rcases List.mem_cons.1 hx with rfl | hx
      · exact hout s a x t hs hok.1 hfirst
      · exact ih (hstep s a o t hs hok.1 hfirst) (hok.2 o t hfirst) hrest x hx

/-- The same when a step emits a list. -/
theorem exec_outputs_flatten {ε : Type*} {step : σ → ι → Option (List ε × σ)} {Inv : σ → Prop}
    {Q : ε → Prop} (hstep : ∀ s a o t, Inv s → Ok s a → step s a = some (o, t) → Inv t)
    (hout : ∀ s a o t, Inv s → Ok s a → step s a = some (o, t) → ∀ e ∈ o, Q e) {as : List ι}
    {s u : σ} {os : List (List ε)} (hs : Inv s) (hok : Along step Ok s as)
    (h : exec step s as = some (os, u)) : ∀ e ∈ os.flatten, Q e := by
  intro e he
  obtain ⟨o, ho, he⟩ := List.mem_flatten.1 he
  exact exec_outputs hstep hout hs hok h o ho e he

/-- What every step preserves of the state and of all that was emitted before it. -/
theorem exec_history {Inv : List ο → σ → Prop}
    (hstep : ∀ os s a o t, Inv os s → Ok s a → step s a = some (o, t) → Inv (os ++ [o]) t)
    {as : List ι} {past os : List ο} {s u : σ} (hs : Inv past s) (hok : Along step Ok s as)
    (h : exec step s as = some (os, u)) : Inv (past ++ os) u := by
  induction as generalizing past s os with
  | nil =>
      cases h
      rw [List.append_nil]
      exact hs
  | cons a as ih =>
      obtain ⟨o, t, os', hfirst, hrest, rfl⟩ := exec_cons_eq_some h
      have hlater := ih (hstep past s a o t hs hok.1 hfirst) (hok.2 o t hfirst) hrest
      rwa [List.append_assoc] at hlater

/-- The states that a run goes through after its first one. -/
def visited (step : σ → ι → Option (ο × σ)) : σ → List ι → List σ
  | _, [] => []
  | s, a :: as =>
      match step s a with
      | none => []
      | some (_, t) => t :: visited step t as

theorem visited_cons {s t : σ} {a : ι} {as : List ι} {o : ο} (h : step s a = some (o, t)) :
    visited step s (a :: as) = t :: visited step t as := by
  rw [visited, h]

/-- What every step preserves holds in all states that a run goes through. -/
theorem visited_forall {Inv : σ → Prop}
    (hstep : ∀ s a o t, Inv s → Ok s a → step s a = some (o, t) → Inv t) {as : List ι} {s : σ}
    (hs : Inv s) (hok : Along step Ok s as) : ∀ t ∈ visited step s as, Inv t := by
  induction as generalizing s with
  | nil => exact nofun
  | cons a as ih =>
      cases h : step s a with
      | none =>
          rw [visited, h]
          exact nofun
      | some r =>
          obtain ⟨o, t⟩ := r
          have ht := hstep s a o t hs hok.1 h
          rw [visited_cons h, List.forall_mem_cons]
          exact ⟨ht, ih ht (hok.2 o t h)⟩

/-- A condition along a run whose first step is known, in both directions. -/
theorem along_cons_iff {s t : σ} {a : ι} {as : List ι} {o : ο} (h : step s a = some (o, t)) :
    Along step Ok s (a :: as) ↔ Ok s a ∧ Along step Ok t as :=
  ⟨fun hok => ⟨hok.1, hok.2 o t h⟩, fun hok => Along.cons hok.1 h hok.2⟩

/-- **An exact condition on the step is exact on runs.** When a step from a state of the invariant
leads to a good state exactly if it meets `Ok`, and such a step keeps the invariant, a run goes
through good states only exactly if all of its steps meet it. -/
theorem visited_forall_iff_along {Inv Good : σ → Prop}
    (hinv : ∀ s a o t, Inv s → Ok s a → step s a = some (o, t) → Inv t)
    (hgood : ∀ s a o t, Inv s → step s a = some (o, t) → (Good t ↔ Ok s a))
    {as : List ι} {s u : σ} {os : List ο} (hs : Inv s) (h : exec step s as = some (os, u)) :
    (∀ t ∈ visited step s as, Good t) ↔ Along step Ok s as := by
  induction as generalizing s os with
  | nil => exact ⟨fun _ => trivial, fun _ t ht => nomatch ht⟩
  | cons a as ih =>
      obtain ⟨o, t, os', hfirst, hrest, -⟩ := exec_cons_eq_some h
      have hfirstGood := hgood s a o t hs hfirst
      rw [visited_cons hfirst, along_cons_iff hfirst, List.forall_mem_cons]
      constructor
      · rintro ⟨ht, hlater⟩
        have hok := hfirstGood.1 ht
        exact ⟨hok, (ih (hinv s a o t hs hok hfirst) hrest).1 hlater⟩
      · rintro ⟨hok, hlater⟩
        exact ⟨hfirstGood.2 hok, (ih (hinv s a o t hs hok hfirst) hrest).2 hlater⟩

/-- The same when the good states belong to the invariant. -/
theorem visited_forall_iff {Inv Good : σ → Prop}
    (hinv : ∀ s a o t, Inv s → step s a = some (o, t) → Inv t)
    (hgood : ∀ s a o t, Inv s → Good s → step s a = some (o, t) → (Good t ↔ Ok s a))
    {as : List ι} {s u : σ} {os : List ο} (hs : Inv s) (hg : Good s)
    (h : exec step s as = some (os, u)) :
    (∀ t ∈ visited step s as, Good t) ↔ Along step Ok s as := by
  have hkept : ∀ s a o t, Inv s ∧ Good s → Ok s a → step s a = some (o, t) → Inv t ∧ Good t := by
    rintro s a o t ⟨hs, hg⟩ hok hstep
    exact ⟨hinv s a o t hs hstep, (hgood s a o t hs hg hstep).2 hok⟩
  have hiff : ∀ s a o t, Inv s ∧ Good s → step s a = some (o, t) → (Good t ↔ Ok s a) := by
    rintro s a o t ⟨hs, hg⟩ hstep
    exact hgood s a o t hs hg hstep
  exact visited_forall_iff_along hkept hiff ⟨hs, hg⟩ h

/-- A step function that enables every label runs every list of them. -/
theorem exec_of_total (htotal : ∀ s a, (step s a).isSome) (s : σ) (as : List ι) :
    ∃ os u, exec step s as = some (os, u) := by
  induction as generalizing s with
  | nil => exact ⟨[], s, rfl⟩
  | cons a as ih =>
      obtain ⟨⟨o, t⟩, hstep⟩ := Option.isSome_iff_exists.1 (htotal s a)
      obtain ⟨os, u, hrest⟩ := ih t
      refine ⟨o :: os, u, ?_⟩
      rw [exec, hstep]
      simp only [hrest, Option.map_some]

/-- The same for what is emitted: the condition may rest on what the steps before it kept. -/
theorem outputs_forall_iff {Inv : σ → Prop} {Q : ο → Prop}
    (hinv : ∀ s a o t, Inv s → Ok s a → step s a = some (o, t) → Inv t)
    (hout : ∀ s a o t, Inv s → step s a = some (o, t) → (Q o ↔ Ok s a))
    {as : List ι} {s u : σ} {os : List ο} (hs : Inv s) (h : exec step s as = some (os, u)) :
    (∀ o ∈ os, Q o) ↔ Along step Ok s as := by
  induction as generalizing s os with
  | nil => cases h; exact ⟨fun _ => trivial, fun _ o ho => nomatch ho⟩
  | cons a as ih =>
      obtain ⟨o, t, os', hfirst, hrest, rfl⟩ := exec_cons_eq_some h
      have hfirstOut := hout s a o t hs hfirst
      rw [along_cons_iff hfirst, List.forall_mem_cons]
      constructor
      · rintro ⟨ho, hlater⟩
        have hok := hfirstOut.1 ho
        exact ⟨hok, (ih (hinv s a o t hs hok hfirst) hrest).1 hlater⟩
      · rintro ⟨hok, hlater⟩
        exact ⟨hfirstOut.2 hok, (ih (hinv s a o t hs hok hfirst) hrest).2 hlater⟩

section
variable {τ : Type*}

/-- The outputs and the last state of a total step function on a list of labels. -/
def outputs (spec : τ → ι → ο × τ) : τ → List ι → List ο × τ
  | t, [] => ([], t)
  | t, a :: as =>
      ((spec t a).1 :: (outputs spec (spec t a).2 as).1, (outputs spec (spec t a).2 as).2)

/-- Each label meets `Ok` in the state the total step function has reached. -/
def AlongSpec (spec : τ → ι → ο × τ) (Ok : τ → ι → Prop) : τ → List ι → Prop
  | _, [] => True
  | t, a :: as => Ok t a ∧ AlongSpec spec Ok (spec t a).2 as

/-- **Forward simulation.** When every step the specification allows is enabled, emits the same and
keeps the relation, every run does. -/
theorem exec_simulates {R : σ → τ → Prop} {spec : τ → ι → ο × τ} {OkS : τ → ι → Prop}
    (hstep : ∀ s t a, R s t → OkS t a →
      ∃ s', step s a = some ((spec t a).1, s') ∧ R s' (spec t a).2)
    {as : List ι} {s : σ} {t : τ} (hR : R s t) (hok : AlongSpec spec OkS t as) :
    ∃ s', exec step s as = some ((outputs spec t as).1, s') ∧ R s' (outputs spec t as).2 := by
  induction as generalizing s t with
  | nil => exact ⟨s, rfl, hR⟩
  | cons a as ih =>
      obtain ⟨s₁, h₁, hR₁⟩ := hstep s t a hR hok.1
      obtain ⟨s₂, h₂, hR₂⟩ := ih hR₁ hok.2
      refine ⟨s₂, ?_, hR₂⟩
      rw [exec, h₁]
      simp [h₂, outputs]

end

end Runs
