import Mathlib.Data.List.Basic

/-!
# Reading back what was written

A parser takes items from the front of a list and can fail (`Parse`). `Parse.Reads p ts a` says that
`p` reads the items `ts` as `a`, whatever follows them, and `Parse.ReadsAll` that it does so when
nothing follows, which is all that a parser can promise that takes as much as there is. Each way to
build a parser has its rule for them.

`Reads.unique` says that what is read so can be told apart, and `Items.readsAll` that a sequence of
items that were written one behind the other is read back.
-/

/-- A parser of items of a type. -/
abbrev Parse (τ : Type) := StateT (List τ) Option

namespace Parse

variable {τ α β : Type}

/-- The next item. -/
def one : Parse τ τ
  | [] => none
  | t :: ts => some (t, ts)

/-- The next `n` items. -/
def take (n : Nat) : Parse τ (List τ) := fun ts =>
  if n ≤ ts.length then some (ts.take n, ts.drop n) else none

/-- All items. -/
def rest : Parse τ (List τ) := fun ts => some (ts, [])

/-- A parser that has to use up what it is given. -/
def whole (p : Parse τ α) (ts : List τ) : Option α :=
  match p ts with
  | some (a, []) => some a
  | _ => none

/-- The next `n` items, used up by a parser. -/
def within (n : Nat) (p : Parse τ α) : Parse τ α := fun ts =>
  if n ≤ ts.length then (whole p (ts.take n)).map (·, ts.drop n) else none

/-- A part that is there or not. -/
def optional (given : Bool) (p : Parse τ α) : Parse τ (Option α) :=
  if given then some <$> p else pure none

/-- A parser as often as there are items left, with a bound on the number of times. -/
def manyLoop (p : Parse τ α) : Nat → List τ → Option (List α)
  | _, [] => some []
  | 0, _ :: _ => none
  | n + 1, t :: ts => (p (t :: ts)).bind fun r => (manyLoop p n r.2).map (r.1 :: ·)

/-- A parser as often as there are items left. -/
def many (p : Parse τ α) : Parse τ (List α) := fun ts => (manyLoop p ts.length ts).map (·, [])

/-- The parser reads the items, whatever follows them. -/
def Reads (p : Parse τ α) (ts : List τ) (a : α) : Prop := ∀ us, p (ts ++ us) = some (a, us)

/-- The parser reads the items when nothing follows them. -/
def ReadsAll (p : Parse τ α) (ts : List τ) (a : α) : Prop := p ts = some (a, [])

/-! ## The rules -/

theorem reads_pure (a : α) : Reads (τ := τ) (pure a) [] a := fun _ => rfl

theorem reads_one (t : τ) : one.Reads [t] t := fun _ => rfl

theorem reads_take (ts : List τ) : (take ts.length).Reads ts ts := by
  intro us
  rw [take, if_pos (by rw [List.length_append]; exact Nat.le_add_right _ _), List.take_left,
    List.drop_left]

theorem Reads.bind {p : Parse τ α} {f : α → Parse τ β} {ts us : List τ} {a : α} {b : β}
    (hp : p.Reads ts a) (hf : (f a).Reads us b) : (p >>= f).Reads (ts ++ us) b := by
  intro vs
  rw [List.append_assoc]
  change (p (ts ++ (us ++ vs))).bind (fun r => f r.1 r.2) = _
  rw [hp]
  exact hf vs

theorem Reads.map {p : Parse τ α} {ts : List τ} {a : α} (hp : p.Reads ts a) (f : α → β) :
    Reads (f <$> p) ts (f a) := by
  intro us
  change (p (ts ++ us)).bind (fun r => some (f r.1, r.2)) = _
  rw [hp]
  rfl

/-- One item in front. -/
theorem Reads.cons {f : τ → Parse τ β} {t : τ} {us : List τ} {b : β} (hf : (f t).Reads us b) :
    (one >>= f).Reads (t :: us) b := (reads_one t).bind hf

theorem reads_optional {p : Parse τ α} {ts : List τ} {a : α} {given : Bool}
    (hp : given = true → p.Reads ts a) :
    (optional given p).Reads (if given then ts else []) (if given then some a else none) := by
  cases given with
  | false => exact reads_pure none
  | true => exact (hp rfl).map some

theorem Reads.all {p : Parse τ α} {ts : List τ} {a : α} (hp : p.Reads ts a) : p.ReadsAll ts a := by
  have h := hp []
  rwa [List.append_nil] at h

theorem readsAll_rest (ts : List τ) : rest.ReadsAll ts ts := rfl

theorem ReadsAll.bind {p : Parse τ α} {f : α → Parse τ β} {ts us : List τ} {a : α} {b : β}
    (hp : p.Reads ts a) (hf : (f a).ReadsAll us b) : (p >>= f).ReadsAll (ts ++ us) b := by
  change (p (ts ++ us)).bind (fun r => f r.1 r.2) = _
  rw [hp]
  exact hf

/-- The last part, which takes all that is left. -/
theorem ReadsAll.last {p : Parse τ α} {ts : List τ} {a : α} (hp : p.ReadsAll ts a) (f : α → β) :
    ReadsAll (p >>= fun a => pure (f a)) ts (f a) := by
  change (p ts).bind (fun r => some (f r.1, r.2)) = _
  rw [hp]
  rfl

/-- A part that says how long it is. -/
theorem ReadsAll.within {p : Parse τ α} {ts : List τ} {a : α} (hp : p.ReadsAll ts a) :
    (within ts.length p).Reads ts a := by
  intro us
  rw [Parse.within, if_pos (by rw [List.length_append]; exact Nat.le_add_right _ _),
    List.take_left, List.drop_left, whole, hp]
  rfl

/-- Items one behind the other, none of them empty. -/
inductive Items (p : Parse τ α) : List τ → List α → Prop
  | nil : Items p [] []
  | cons {ts us : List τ} {a : α} {as : List α} (h : p.Reads ts a) (hne : ts ≠ [])
      (hrest : Items p us as) : Items p (ts ++ us) (a :: as)

theorem Items.append {p : Parse τ α} {ts us : List τ} {as bs : List α} (h : Items p ts as)
    (h' : Items p us bs) : Items p (ts ++ us) (as ++ bs) := by
  induction h with
  | nil => exact h'
  | cons h hne _ ih =>
    rw [List.append_assoc]
    exact .cons h hne ih

/-- Parts that are written one behind the other. -/
theorem items_flatMap {p : Parse τ α} {γ : Type} {write : γ → List τ} {value : γ → List α}
    {cs : List γ} (h : ∀ c ∈ cs, Items p (write c) (value c)) :
    Items p (cs.flatMap write) (cs.flatMap value) := by
  induction cs with
  | nil => exact .nil
  | cons c cs ih =>
    rw [List.forall_mem_cons] at h
    rw [List.flatMap_cons, List.flatMap_cons]
    exact h.1.append (ih h.2)

/-- No item is empty, so a sequence of them ends. -/
theorem Items.manyLoop {p : Parse τ α} {ts : List τ} {as : List α} (h : Items p ts as) {n : Nat}
    (hn : ts.length ≤ n) : manyLoop p n ts = some as := by
  induction h generalizing n with
  | nil => cases n <;> rfl
  | @cons ts us a as h hne _ ih =>
    have hpos := List.length_pos_of_ne_nil hne
    rw [List.length_append] at hn
    obtain ⟨n, rfl⟩ := Nat.exists_eq_add_of_le' (show 1 ≤ n by omega)
    cases hts : ts ++ us with
    | nil => exact absurd (List.append_eq_nil_iff.1 hts).1 hne
    | cons t rest =>
      rw [Parse.manyLoop, ← hts, h, Option.bind_some, ih (by omega)]
      rfl

/-- **A sequence** of items is read as these items. -/
theorem Items.readsAll {p : Parse τ α} {ts : List τ} {as : List α} (h : Items p ts as) :
    (many p).ReadsAll ts as := by
  rw [ReadsAll, many, h.manyLoop (Nat.le_refl _)]
  rfl

/-- Items that are written one behind the other. -/
theorem readsAll_many {p : Parse τ α} {γ : Type} {write : γ → List τ} {value : γ → α}
    {cs : List γ} (h : ∀ c ∈ cs, p.Reads (write c) (value c) ∧ write c ≠ []) :
    (many p).ReadsAll (cs.flatMap write) (cs.map value) := by
  have hitems : ∀ c ∈ cs, Items p (write c) [value c] := by
    intro c hc
    obtain ⟨hread, hne⟩ := h c hc
    rw [← List.append_nil (write c)]
    exact .cons hread hne .nil
  rw [List.map_eq_flatMap]
  exact (items_flatMap hitems).readsAll

/-- **What is read can be told apart**: where it ends, and what it is. -/
theorem Reads.unique {p : Parse τ α} {ts us xs ys : List τ} {a b : α} (ha : p.Reads ts a)
    (hb : p.Reads us b) (h : ts ++ xs = us ++ ys) : a = b ∧ ts = us ∧ xs = ys := by
  have hsame := (ha xs).symm.trans ((congrArg p h).trans (hb ys))
  cases hsame
  exact ⟨rfl, List.append_cancel_right h, rfl⟩

end Parse
