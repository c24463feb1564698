import Mathlib.Data.List.Infix

/-!
# Scanning a text that may end

A scan reads a text from its start and stops as soon as the outcome is known; `none` says that the
text ended before that. So a scan that has an outcome keeps it when the text goes on
(`leads_append`, `seek_drop_append`).

`leads pat text` compares the text with a pattern, up to the first difference. `seek c stop text`
looks for the first `c` before a `stop`.

`fields sep fs` is a text of fields, each behind a separator, and `starts` says where they start;
`takeWhile_starts` reads them back. Every text is one (`fields_splitOn`).
-/

namespace Scan

variable {α : Type*}

section
variable [DecidableEq α]

/-- Whether a text starts with a pattern. -/
def leads : List α → List α → Option Bool
  | [], _ => some true
  | _ :: _, [] => none
  | p :: pat, a :: text => if p = a then leads pat text else some false

/-- The index of the first `c`, if it comes before a `stop`. -/
def seek (c stop : α) : List α → Option (Option Nat)
  | [] => none
  | a :: text =>
    if a = c then some (some 0) else if a = stop then some none
    else (seek c stop text).map (·.map (· + 1))

/-! ## Patterns -/

theorem leads_eq_true_iff {pat text : List α} : leads pat text = some true ↔ pat <+: text := by
  induction pat generalizing text with
  | nil => simp [leads]
  | cons p pat ih =>
    cases text with
    | nil => simp [leads]
    | cons a text =>
      rw [leads, List.cons_prefix_cons]
      split
      next h => rw [ih]; simp [h]
      next h => simp [h]

/-- A text that ends too early is the start of the pattern. -/
theorem prefix_of_leads_eq_none {pat text : List α} (h : leads pat text = none) :
    text <+: pat := by
  induction pat generalizing text with
  | nil => cases h
  | cons p pat ih =>
    cases text with
    | nil => exact List.nil_prefix
    | cons a text =>
      rw [leads] at h
      split at h
      next heq => rw [heq]; exact List.cons_prefix_cons.2 ⟨rfl, ih h⟩
      next => cases h

/-- A text goes on behind the pattern, differs from it, or ends too early. -/
theorem leads_cases (pat text : List α) :
    (leads pat text = some true ∧ ∃ rest, text = pat ++ rest) ∨ leads pat text = some false ∨
      leads pat text = none ∧ text <+: pat := by
  cases h : leads pat text with
  | none => exact .inr (.inr ⟨rfl, prefix_of_leads_eq_none h⟩)
  | some r =>
    cases r with
    | false => exact .inr (.inl rfl)
    | true =>
      obtain ⟨rest, hrest⟩ := leads_eq_true_iff.1 h
      exact .inl ⟨rfl, rest, hrest.symm⟩

/-- The comparison is not changed by what follows. -/
theorem leads_append {pat text : List α} {r : Bool} (h : leads pat text = some r)
    (more : List α) : leads pat (text ++ more) = some r := by
  induction pat generalizing text with
  | nil => exact h
  | cons p pat ih =>
    cases text with
    | nil => cases h
    | cons a text =>
      rw [leads] at h
      rw [List.cons_append, leads]
      split at h
      next heq => rw [if_pos heq, ih h]
      next hne => rw [if_neg hne, h]

/-- Nor is one that starts at an index of the text. -/
theorem leads_drop_append {pat text : List α} {n : Nat} {r : Bool}
    (h : leads pat (text.drop n) = some r) (more : List α) :
    leads pat ((text ++ more).drop n) = some r := by
  rcases Nat.le_total n text.length with hle | hge
  · rw [List.drop_append_of_le_length hle]
    exact leads_append h more
  · -- there is nothing to compare with, and nothing to compare
    rw [List.drop_eq_nil_of_le hge] at h
    cases pat with
    | nil => exact h
    | cons p pat => cases h

/-! ## Symbols -/

variable {c stop : α}

/-- A text with neither of two symbols. -/
def Clear (c stop : α) (text : List α) : Prop := ∀ a ∈ text, a ≠ c ∧ a ≠ stop

instance (c stop : α) (text : List α) : Decidable (Clear c stop text) :=
  List.decidableBAll (fun a => a ≠ c ∧ a ≠ stop) text

theorem seek_of_clear {before : List α} (h : Clear c stop before) (text : List α) :
    seek c stop (before ++ text) = (seek c stop text).map (·.map (· + before.length)) := by
  induction before with
  | nil => simp
  | cons a before ih =>
    have ha := h a (.head _)
    rw [List.cons_append, seek, if_neg ha.1, if_neg ha.2, ih fun b hb => h b (.tail _ hb)]
    cases seek c stop text with
    | none => rfl
    | some r => cases r <;> rfl

theorem seek_found {before : List α} (h : Clear c stop before) (text : List α) :
    seek c stop (before ++ c :: text) = some (some before.length) := by
  rw [seek_of_clear h, seek, if_pos rfl]
  simp

theorem seek_stopped (hne : stop ≠ c) {before : List α} (h : Clear c stop before)
    (text : List α) : seek c stop (before ++ stop :: text) = some none := by
  rw [seek_of_clear h, seek, if_neg hne, if_pos rfl]
  rfl

theorem seek_eq_none {text : List α} (h : Clear c stop text) : seek c stop text = none := by
  have hseek := seek_of_clear h []
  rwa [List.append_nil] at hseek

/-- What a search has passed. -/
theorem seek_cases (c stop : α) (text : List α) :
    Clear c stop text ∨
      (∃ before after, text = before ++ c :: after ∧ Clear c stop before) ∨
      ∃ before after, text = before ++ stop :: after ∧ Clear c stop before := by
  induction text with
  | nil => exact .inl nofun
  | cons a text ih =>
    by_cases hc : a = c
    · exact .inr (.inl ⟨[], text, by rw [hc]; rfl, nofun⟩)
    · by_cases hstop : a = stop
      · exact .inr (.inr ⟨[], text, by rw [hstop]; rfl, nofun⟩)
      · have hcons : ∀ {before : List α}, Clear c stop before → Clear c stop (a :: before) :=
          fun h => List.forall_mem_cons.2 ⟨⟨hc, hstop⟩, h⟩
        rcases ih with hclear | ⟨before, after, rfl, hbefore⟩ | ⟨before, after, rfl, hbefore⟩
        · exact .inl (hcons hclear)
        · exact .inr (.inl ⟨a :: before, after, rfl, hcons hbefore⟩)
        · exact .inr (.inr ⟨a :: before, after, rfl, hcons hbefore⟩)

/-- A symbol that was found. -/
theorem exists_of_seek_eq_some {text : List α} {k : Nat} (h : seek c stop text = some (some k)) :
    ∃ before after, text = before ++ c :: after ∧ Clear c stop before ∧ before.length = k := by
  rcases seek_cases c stop text with hclear | ⟨before, after, rfl, hbefore⟩ |
    ⟨before, after, rfl, hbefore⟩
  · rw [seek_eq_none hclear] at h
    cases h
  · rw [seek_found hbefore] at h
    cases h
    exact ⟨before, after, rfl, hbefore, rfl⟩
  · rw [seek_of_clear hbefore, seek] at h
    split at h
    next heq =>
      cases h
      exact ⟨before, after, by rw [heq], hbefore, (Nat.zero_add _).symm⟩
    next => simp at h

/-- A search that has ended is not changed by what follows. -/
theorem seek_drop_append {text : List α} {n : Nat} {r : Option Nat}
    (h : seek c stop (text.drop n) = some r) (more : List α) :
    seek c stop ((text ++ more).drop n) = some r := by
  have hle : n ≤ text.length := by
    refine Nat.le_of_not_lt fun hlt => ?_
    rw [List.drop_eq_nil_of_le (Nat.le_of_lt hlt)] at h
    cases h
  rw [List.drop_append_of_le_length hle]
  rcases seek_cases c stop (text.drop n) with hclear | ⟨before, after, heq, hbefore⟩ |
    ⟨before, after, heq, hbefore⟩
  · rw [seek_eq_none hclear] at h
    cases h
  · rw [heq, seek_found hbefore] at h
    rw [heq, List.append_assoc, List.cons_append, seek_found hbefore, h]
  · rw [heq, seek_of_clear hbefore, seek] at h
    rw [heq, List.append_assoc, List.cons_append, seek_of_clear hbefore, seek]
    rw [if_pos rfl] at h ⊢
    exact h

end

/-! ## Fields -/

/-- Fields in a row, each behind a separator. -/
def fields (sep : α) (fs : List (List α)) : List α := fs.flatMap (sep :: ·)

/-- The indices of the fields, when the first separator has the given one. -/
def starts : Nat → List (List α) → List Nat
  | _, [] => []
  | i, f :: fs => (i + 1) :: starts (i + 1 + f.length) fs

/-- A text is split at its first separator in one way. -/
theorem append_cons_inj {sep : α} {as bs xs ys : List α} (has : sep ∉ as) (hbs : sep ∉ bs)
    (h : as ++ sep :: xs = bs ++ sep :: ys) : as = bs ∧ xs = ys := by
  induction as generalizing bs with
  | nil =>
    cases bs with
    | nil => exact ⟨rfl, (List.cons.inj h).2⟩
    | cons b bs => exact absurd ((List.cons.inj h).1 ▸ .head _) hbs
  | cons a as ih =>
    cases bs with
    | nil => exact absurd ((List.cons.inj h).1 ▸ .head _) has
    | cons b bs =>
      obtain ⟨rfl, hrest⟩ := List.cons.inj h
      have hparts := ih (fun hmem => has (.tail _ hmem)) (fun hmem => hbs (.tail _ hmem)) hrest
      obtain ⟨rfl, rfl⟩ := hparts
      exact ⟨rfl, rfl⟩

section
variable (sep : α)

@[simp] theorem fields_nil : fields sep [] = [] := rfl

@[simp] theorem fields_cons (f : List α) (fs : List (List α)) :
    fields sep (f :: fs) = sep :: (f ++ fields sep fs) := by
  simp [fields]

/-- The separator does not matter for the length. -/
theorem length_fields (sep' : α) (fs : List (List α)) :
    (fields sep fs).length = (fields sep' fs).length := by
  induction fs with
  | nil => rfl
  | cons f fs ih => simp [ih]

theorem length_starts (i : Nat) (fs : List (List α)) : (starts i fs).length = fs.length := by
  induction fs generalizing i with
  | nil => rfl
  | cons f fs ih => simp [starts, ih]

/-- The fields are what is between the separators. -/
theorem takeWhile_starts [DecidableEq α] (before : List α) {fs : List (List α)}
    (h : ∀ f ∈ fs, sep ∉ f) (after : List α) :
    (starts before.length fs).map (fun i =>
      ((before ++ (fields sep fs ++ sep :: after)).drop i).takeWhile (· ≠ sep)) = fs := by
  induction fs generalizing before with
  | nil => rfl
  | cons f fs ih =>
    have hsplit : before ++ (fields sep (f :: fs) ++ sep :: after) =
        (before ++ sep :: f) ++ (fields sep fs ++ sep :: after) := by
      simp
    have hnext := ih (before ++ sep :: f) fun g hg => h g (.tail _ hg)
    have hindex : before.length + 1 + f.length = (before ++ sep :: f).length := by
      simp only [List.length_append, List.length_cons]
      omega
    rw [starts, List.map_cons, hindex, hsplit, hnext]
    congr 1
    -- behind the field there is a separator
    obtain ⟨more, hmore⟩ : ∃ more, fields sep fs ++ sep :: after = sep :: more := by
      cases fs with
      | nil => exact ⟨after, rfl⟩
      | cons g gs => exact ⟨_, by rw [fields_cons]; rfl⟩
    have hf : ∀ a ∈ f, decide (a ≠ sep) = true := by
      intro a ha
      simpa using fun heq : a = sep => h f (.head _) (heq ▸ ha)
    have hdrop : ((before ++ sep :: f) ++ (sep :: more)).drop (before.length + 1) =
        f ++ sep :: more := by
      rw [← List.drop_drop, List.append_assoc, List.drop_left]
      rfl
    rw [hmore, hdrop, List.takeWhile_append_of_pos hf]
    simp

section
variable [DecidableEq α]

/-- A text is the fields that it is split into; the first separator is added. -/
theorem fields_splitOn (text : List α) : fields sep (text.splitOn sep) = sep :: text := by
  induction text with
  | nil => rfl
  | cons a text ih =>
    rw [List.splitOn_cons_eq_if_modifyHead]
    split
    next heq =>
      rw [fields_cons, ih, beq_iff_eq.1 heq]
      rfl
    next hne =>
      obtain ⟨f, fs, hsplit⟩ := List.exists_cons_of_ne_nil (List.splitOn_ne_nil sep text)
      rw [hsplit, fields_cons, List.cons_inj_right] at ih
      rw [hsplit, List.modifyHead_cons, fields_cons, List.cons_append, ih]

theorem not_mem_of_mem_splitOn {text f : List α} (h : f ∈ text.splitOn sep) : sep ∉ f := by
  induction text generalizing f with
  | nil =>
    rw [List.mem_singleton.1 h]
    exact List.not_mem_nil
  | cons a text ih =>
    rw [List.splitOn_cons_eq_if_modifyHead] at h
    split at h
    next =>
      rcases List.mem_cons.1 h with rfl | h
      · exact List.not_mem_nil
      · exact ih h
    next hne =>
      obtain ⟨g, gs, hsplit⟩ := List.exists_cons_of_ne_nil (List.splitOn_ne_nil sep text)
      rw [hsplit, List.modifyHead_cons] at h
      rcases List.mem_cons.1 h with rfl | h
      · intro hmem
        rcases List.mem_cons.1 hmem with rfl | hmem
        · exact hne (beq_self_eq_true _)
        · exact ih (hsplit ▸ .head _) hmem
      · exact ih (hsplit ▸ .tail _ h)

/-- A skip to the next separator stops where the next field begins. -/
theorem dropWhile_fields {f : List α} (h : sep ∉ f) (fs : List (List α)) :
    (f ++ fields sep fs).dropWhile (· ≠ sep) = fields sep fs := by
  have hf : ∀ a ∈ f, decide (a ≠ sep) = true := by
    intro a ha
    simpa using fun heq : a = sep => h (heq ▸ ha)
  rw [List.dropWhile_append_of_pos hf]
  cases fs with
  | nil => rfl
  | cons g gs => rw [fields_cons, List.dropWhile_cons_of_neg (by simp)]

end

end

end Scan
