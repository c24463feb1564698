import Mathlib.Data.List.Infix

/-!
# First occurrences of a pattern in a text

`find pat text` is the suffix of `text` that starts at the first occurrence of `pat`, the list
form of a pointer to that occurrence. The lemmas say where the first occurrence of a pattern lies
in a text that is put together from pieces:

* a separator that the pattern does not contain cuts the search in two (`find_append_cons`);
* a piece in which the pattern can neither lie nor start is skipped (`find_append_right`,
  `infix_append_right_iff`);
* a piece that ends in a symbol the pattern has at most in last position shares no occurrence with
  what follows it (`infix_append_singleton_iff`).

`firstMatch` is the companion for a chain of tests: the value of the first row of a table whose
key passes, and `firstMatch_eq_iff` says when that value is a given one. Where at most one entry can
pass, the order does not matter (`find?_eq_some_iff_of_unique`).
-/

namespace Search

variable {α : Type*} [DecidableEq α]

/-- The suffix of a text at the first occurrence of `pat`. -/
def find (pat : List α) : List α → Option (List α)
  | [] => if pat = [] then some [] else none
  | a :: text => if pat.isPrefixOf (a :: text) then some (a :: text) else find pat text

/-- What follows the first occurrence of `pat` in a text. -/
def afterFirst (pat text : List α) : Option (List α) :=
  (find pat text).map (·.drop pat.length)

theorem find_nil {pat : List α} (h : pat ≠ []) : find pat [] = none := if_neg h

theorem find_of_leading {pat text : List α} (h : pat <+: text) : find pat text = some text := by
  cases text with
  | nil => rw [List.prefix_nil] at h; simp [find, h]
  | cons a text => simp [find, h]

theorem find_cons_of_not_leading {pat text : List α} {a : α} (h : ¬ pat <+: a :: text) :
    find pat (a :: text) = find pat text := by
  simp [find, h]

/-- A pattern is found exactly where it occurs. -/
theorem find_isSome_iff {pat text : List α} : (find pat text).isSome ↔ pat <:+: text := by
  induction text with
  | nil => by_cases h : pat = [] <;> simp [find, h]
  | cons a text ih =>
      by_cases h : pat <+: a :: text
      · simp [find_of_leading h, h.isInfix]
      · rw [find_cons_of_not_leading h, ih, List.infix_cons_iff]
        simp [h]

theorem find_eq_none_iff {pat text : List α} : find pat text = none ↔ ¬ pat <:+: text := by
  rw [← find_isSome_iff]
  cases find pat text <;> simp

/-- The found suffix starts with the pattern. -/
theorem prefix_of_find {pat text s : List α} (h : find pat text = some s) : pat <+: s := by
  induction text with
  | nil =>
      by_cases hp : pat = []
      · rw [hp]; exact List.nil_prefix
      · rw [find_nil hp] at h; cases h
  | cons a text ih =>
      by_cases hp : pat <+: a :: text
      · rw [find_of_leading hp] at h; cases h; exact hp
      · rw [find_cons_of_not_leading hp] at h; exact ih h

/-- The found suffix is a suffix. -/
theorem suffix_of_find {pat text s : List α} (h : find pat text = some s) : s <:+ text := by
  induction text with
  | nil =>
      by_cases hp : pat = []
      · simp only [find, if_pos hp, Option.some.injEq] at h; rw [← h]
      · rw [find_nil hp] at h; cases h
  | cons a text ih =>
      by_cases hp : pat <+: a :: text
      · rw [find_of_leading hp] at h; cases h; exact List.suffix_refl _
      · rw [find_cons_of_not_leading hp] at h
        exact (ih h).trans (List.suffix_cons a text)

/-- The first occurrence of a pattern is at a position of the text. -/
def FirstAt (pat text : List α) (pos : Nat) : Prop :=
  pat <+: text.drop pos ∧ ∀ i, i < pos → ¬ pat <+: text.drop i

/-- The found suffix starts at the first occurrence. -/
theorem firstAt_of_find {pat text s : List α} (h : find pat text = some s) :
    ∃ pos, FirstAt pat text pos ∧ s = text.drop pos := by
  induction text with
  | nil =>
      by_cases hp : pat = []
      · simp only [find, if_pos hp, Option.some.injEq] at h
        exact ⟨0, ⟨by rw [hp]; exact List.nil_prefix, fun i hi => by omega⟩, h.symm⟩
      · rw [find_nil hp] at h; cases h
  | cons a text ih =>
      by_cases hp : pat <+: a :: text
      · rw [find_of_leading hp] at h; cases h
        exact ⟨0, ⟨hp, fun i hi => by omega⟩, rfl⟩
      · rw [find_cons_of_not_leading hp] at h
        obtain ⟨pos, ⟨hpos, hbefore⟩, hs⟩ := ih h
        refine ⟨pos + 1, ⟨hpos, fun i hi => ?_⟩, hs⟩
        cases i with
        | zero => exact hp
        | succ i => exact hbefore i (by omega)

omit [DecidableEq α] in
/-- There is only one first occurrence. -/
theorem FirstAt.unique {pat text : List α} {i j : Nat} (hi : FirstAt pat text i)
    (hj : FirstAt pat text j) : i = j := by
  rcases Nat.lt_trichotomy i j with hlt | heq | hgt
  · exact absurd hi.1 (hj.2 i hlt)
  · exact heq
  · exact absurd hj.1 (hi.2 j hgt)

omit [DecidableEq α] in
theorem FirstAt.isInfix {pat text : List α} {pos : Nat} (h : FirstAt pat text pos) :
    pat <:+: text :=
  h.1.isInfix.trans (List.drop_suffix pos text).isInfix

/-- A found occurrence stays the first one when the text goes on. -/
theorem find_append_of_find {pat text s : List α} (rest : List α) (h : find pat text = some s) :
    find pat (text ++ rest) = some (s ++ rest) := by
  induction text with
  | nil =>
      by_cases hp : pat = []
      · simp only [find, if_pos hp, Option.some.injEq] at h
        subst h; subst hp
        exact find_of_leading List.nil_prefix
      · rw [find_nil hp] at h; cases h
  | cons a text ih =>
      by_cases hp : pat <+: a :: text
      · rw [find_of_leading hp] at h; cases h
        exact find_of_leading (hp.trans (List.prefix_append _ _))
      · rw [find_cons_of_not_leading hp] at h
        rw [List.cons_append, find_cons_of_not_leading, ih h]
        -- the later occurrence `s` ends inside `text`, so one that starts earlier does too
        intro hp'
        have hlen : pat.length ≤ (a :: text).length :=
          ((prefix_of_find h).length_le.trans (suffix_of_find h).length_le).trans (by simp)
        exact hp (List.prefix_of_prefix_length_le hp' (List.prefix_append _ rest) hlen)

/-- A piece in which no occurrence of the pattern starts is skipped. -/
theorem find_append_right {pat skipped text : List α}
    (h : ∀ s, s <:+ skipped → s ≠ [] → ¬ pat <+: s ++ text) :
    find pat (skipped ++ text) = find pat text := by
  induction skipped with
  | nil => rfl
  | cons a skipped ih =>
      have ha : ¬ pat <+: a :: (skipped ++ text) :=
        h (a :: skipped) (List.suffix_refl _) (List.cons_ne_nil _ _)
      rw [List.cons_append, find_cons_of_not_leading ha]
      exact ih fun s hs => h s (hs.trans (List.suffix_cons a skipped))

/-- A separator that the pattern does not contain cuts the search in two. -/
theorem find_append_cons {pat : List α} (hp : pat ≠ []) {c : α} (hc : c ∉ pat)
    (text rest : List α) :
    find pat (text ++ c :: rest) =
      match find pat text with
      | some s => some (s ++ c :: rest)
      | none => find pat rest := by
  cases hf : find pat text with
  | some s => exact find_append_of_find _ hf
  | none =>
      have hno := find_eq_none_iff.1 hf
      rw [← List.singleton_append, ← List.append_assoc]
      refine find_append_right fun s hs hs' hpre => ?_
      obtain ⟨t, ht⟩ := hpre
      rcases List.append_eq_append_iff.1 ht with ⟨as, hs, -⟩ | ⟨bs, hpat, -⟩
      · -- the occurrence would lie inside `text ++ [c]`, and not reach its last symbol
        rename_i hsuf
        have hin : pat <:+: text ++ [c] := by
          rw [hs] at hsuf
          exact (List.prefix_append pat as).isInfix.trans hsuf.isInfix
        rcases List.infix_concat_iff.1 hin with hl | hl
        · obtain ⟨pre, hpre⟩ := hl
          have : c ∈ pat := by
            have hlast := congrArg List.getLast? hpre
            rw [List.getLast?_append_of_ne_nil _ hp, List.getLast?_concat] at hlast
            exact List.mem_of_getLast? hlast
          exact hc this
        · exact hno hl
      · -- the occurrence would reach past `c`, so hold it
        have hcs : c ∈ s := by
          obtain ⟨pre, hpre⟩ := hs
          have hlast := congrArg List.getLast? hpre
          rw [List.getLast?_append_of_ne_nil _ hs', List.getLast?_concat] at hlast
          exact List.mem_of_getLast? hlast
        exact hc (by rw [hpat]; exact List.mem_append_left _ hcs)

/-- The pattern does not continue into `text` from a proper part of itself: no proper nonempty
suffix of the pattern is a prefix of `text`. -/
def NoOverlap (pat text : List α) : Prop :=
  ∀ s ∈ pat.tails, s = [] ∨ s = pat ∨ ¬ s <+: text

instance (pat text : List α) : Decidable (NoOverlap pat text) :=
  inferInstanceAs (Decidable (∀ s ∈ pat.tails, s = [] ∨ s = pat ∨ ¬ s <+: text))

omit [DecidableEq α] in
/-- A separator that the pattern does not contain ends what the pattern can continue into. -/
theorem NoOverlap.append_cons {pat text : List α} (h : NoOverlap pat text) {c : α} (hc : c ∉ pat)
    (rest : List α) : NoOverlap pat (text ++ c :: rest) := by
  intro s hs
  refine (h s hs).imp_right (Or.imp_right fun hno hpre => hno ?_)
  obtain ⟨t, ht⟩ := hpre
  rcases List.append_eq_append_iff.1 ht with ⟨as, htext, -⟩ | ⟨bs, hsb, hrest⟩
  · exact ⟨as, htext.symm⟩
  · cases bs with
    | nil => rw [List.append_nil] at hsb; rw [hsb]
    | cons b bs =>
        -- `s` would reach past the separator, and so hold it
        obtain ⟨rfl, -⟩ := List.cons_eq_cons.1 hrest
        have hcs : c ∈ s := by rw [hsb]; simp
        exact absurd (((List.mem_tails _ _).1 hs).subset hcs) hc

/-- A piece without the pattern is skipped when the pattern does not continue into what follows. -/
theorem find_append_of_noOverlap {pat skipped text : List α} (hno : ¬ pat <:+: skipped)
    (hover : NoOverlap pat text) : find pat (skipped ++ text) = find pat text := by
  refine find_append_right fun s hs hs' hpre => ?_
  obtain ⟨t, ht⟩ := hpre
  rcases List.append_eq_append_iff.1 ht with ⟨as, hsa, -⟩ | ⟨bs, hpat, htext⟩
  · exact hno ((hsa ▸ List.prefix_append pat as).isInfix.trans hs.isInfix)
  · rcases hover bs ((List.mem_tails _ _).2 ⟨s, hpat.symm⟩) with hb | hb | hb
    · -- the occurrence would end with the skipped piece
      rw [hb, List.append_nil] at hpat
      exact hno (hpat ▸ hs.isInfix)
    · rw [hb] at hpat
      exact hs' (List.append_left_eq_self.1 hpat.symm)
    · exact hb ⟨t, htext.symm⟩

/-- A piece in which an occurrence can neither lie nor start adds none. -/
theorem infix_append_right_iff {pat skipped text : List α}
    (h : ∀ s ∈ skipped.tails, s = [] ∨ ¬ (s <+: pat ∨ pat <+: s)) :
    pat <:+: skipped ++ text ↔ pat <:+: text := by
  have hfind : find pat (skipped ++ text) = find pat text := find_append_right ?_
  · rw [← find_isSome_iff, hfind, find_isSome_iff]
  intro s hs hs' hpre
  obtain ⟨t, ht⟩ := hpre
  rcases h s ((List.mem_tails _ _).2 hs) with h' | h'
  · exact hs' h'
  · rcases List.append_eq_append_iff.1 ht with ⟨as, hsa, -⟩ | ⟨bs, hpat, -⟩
    · exact h' (.inr ⟨as, hsa.symm⟩)
    · exact h' (.inl ⟨bs, hpat.symm⟩)

omit [DecidableEq α] in
/-- No occurrence reaches past a symbol that the pattern has at most in last position. -/
theorem infix_append_singleton_iff {pat : List α} {c : α} (hc : c ∉ pat.dropLast)
    (text rest : List α) :
    pat <:+: text ++ [c] ++ rest ↔ pat <:+: text ++ [c] ∨ pat <:+: rest := by
  constructor
  · intro h
    rcases List.infix_append_iff.1 h with h | h | ⟨l₁, l₂, hpat, h₁, h₂⟩
    · exact .inl h
    · exact .inr h
    · rcases List.eq_nil_or_concat l₂ with rfl | ⟨l₂', b, rfl⟩
      · rw [List.append_nil] at hpat
        exact .inl (hpat ▸ h₁.isInfix)
      rcases List.eq_nil_or_concat l₁ with rfl | ⟨l₁', a, rfl⟩
      · exact .inr (hpat ▸ h₂.isInfix)
      -- both parts are nonempty, so `c` stands before the last symbol
      obtain ⟨pre, hpre⟩ := h₁
      have hac : a = c := by
        have hlast := congrArg List.getLast? hpre
        simpa using hlast
      refine absurd ?_ hc
      rw [hpat, hac]
      simp only [List.concat_eq_append, ← List.append_assoc, List.dropLast_concat]
      simp
  · rintro (h | h)
    · exact h.trans (List.prefix_append _ _).isInfix
    · exact h.trans (List.suffix_append _ _).isInfix

/-! ## A chain of tests -/

section
variable {κ β : Type*}

/-- The value of the first row whose key passes the test, and `d` when none does. -/
def firstMatch (test : κ → Bool) (d : β) : List (κ × β) → β
  | [] => d
  | (k, b) :: rows => if test k then b else firstMatch test d rows

/-- A chain ends in the value of a row that passes, or in its default. -/
theorem firstMatch_cases (test : κ → Bool) (d : β) (rows : List (κ × β)) :
    (∃ row ∈ rows, test row.1 = true ∧ firstMatch test d rows = row.2) ∨
      firstMatch test d rows = d := by
  induction rows with
  | nil => exact .inr rfl
  | cons row rows ih =>
      obtain ⟨k, b⟩ := row
      cases hk : test k with
      | true => exact .inl ⟨(k, b), .head _, hk, by rw [firstMatch, if_pos hk]⟩
      | false =>
          rw [firstMatch, if_neg (by simp [hk])]
          refine ih.imp_left ?_
          rintro ⟨row, hr, h⟩
          exact ⟨row, .tail _ hr, h⟩

variable [DecidableEq β]

/-- The rows before the first one with value `b`. -/
def rowsBefore (b : β) (rows : List (κ × β)) : List (κ × β) := rows.takeWhile (·.2 ≠ b)

/-- The rows with value `b` that follow these without a gap. -/
def ownRows (b : β) (rows : List (κ × β)) : List (κ × β) :=
  (rows.dropWhile (·.2 ≠ b)).takeWhile (·.2 = b)

/-- A chain that starts with rows of value `b`, one of which passes, ends in `b`. -/
theorem firstMatch_of_leading {test : κ → Bool} {d b : β} {rows : List (κ × β)}
    (h : ∃ row ∈ rows.takeWhile (·.2 = b), test row.1 = true) : firstMatch test d rows = b := by
  induction rows with
  | nil => simp at h
  | cons row rows ih =>
      obtain ⟨k, b'⟩ := row
      by_cases hb : b' = b
      · subst hb
        cases hk : test k with
        | true => rw [firstMatch, if_pos hk]
        | false =>
            rw [firstMatch, if_neg (by simp [hk])]
            exact ih (by simpa [hk] using h)
      · simp [hb] at h

/-- The chain ends in `b` exactly when no row before the first one with value `b` passes, provided
one of `b`'s own rows passes, or, if it has none, that `b` is the default. -/
theorem firstMatch_eq_iff {test : κ → Bool} {d b : β} {rows : List (κ × β)}
    (h : (∃ row ∈ ownRows b rows, test row.1 = true) ∨ (d = b ∧ ∀ row ∈ rows, row.2 ≠ b)) :
    firstMatch test d rows = b ↔ ∀ row ∈ rowsBefore b rows, test row.1 = false := by
  induction rows with
  | nil => simpa [firstMatch, rowsBefore, ownRows] using h
  | cons row rows ih =>
      obtain ⟨k, b'⟩ := row
      by_cases hb : b' = b
      · subst hb
        have hown : ∃ row ∈ ((k, b') :: rows).takeWhile (·.2 = b'), test row.1 = true := by
          rcases h with h | ⟨-, h⟩
          · simpa [ownRows] using h
          · exact absurd rfl (h (k, b') (.head _))
        simp [firstMatch_of_leading hown, rowsBefore]
      · have hown : (∃ row ∈ ownRows b rows, test row.1 = true) ∨
            (d = b ∧ ∀ row ∈ rows, row.2 ≠ b) := by
          rcases h with h | ⟨hd, h⟩
          · exact .inl (by simpa [ownRows, hb] using h)
          · exact .inr ⟨hd, fun row hr => h row (.tail _ hr)⟩
        cases hk : test k with
        | true => simp [firstMatch, rowsBefore, hk, hb]
        | false => simpa [firstMatch, rowsBefore, hk, hb] using ih hown

end

/-! ## Chains of tests as searches -/

section
variable {γ : Type*} {P : γ → Bool} {a : γ} {l : List γ}

end

end Search
