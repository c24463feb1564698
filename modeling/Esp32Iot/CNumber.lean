import Esp32Iot.CFormat

/-!
# Reading numbers

`strtoul` with base 10 and an `unsigned long` of 32 bits. It skips spaces, takes a sign, reads the
digits and saturates: `-1` is the largest number, and so is every number that is too large. A
caller that wants to accept numerals only has to look at the text itself, and `CStr.strtoul_ofNat`
says that `strtoul` gives back a number that was printed.
-/

namespace Esp32Iot

/-- `isspace`. -/
def isSpace (b : UInt8) : Bool := b = 32 ∨ (9 ≤ b.toNat ∧ b.toNat ≤ 13)

/-- `isdigit`. -/
def isDigit (b : UInt8) : Bool := 48 ≤ b.toNat ∧ b.toNat ≤ 57

/-- The number that digits stand for. -/
def digitsValue (digits : Bytes) : Nat := digits.foldl (fun n b => 10 * n + (b.toNat - 48)) 0

/-- The sign of a number, and what follows it. -/
def splitSign : Bytes → Bool × Bytes
  | 43 :: s => (false, s)
  | 45 :: s => (true, s)
  | s => (false, s)

/-- `strtoul(s, &end, 10)`: the number, and the string at `end`. -/
def strtoul (s : Bytes) : UInt32 × Bytes :=
  let (negative, t) := splitSign (s.dropWhile isSpace)
  let digits := t.takeWhile isDigit
  if digits = [] then (0, s)
  else
    let value := digitsValue digits
    (if 4294967296 ≤ value then 4294967295
      else if negative then 0 - UInt32.ofNat value else UInt32.ofNat value,
      t.drop digits.length)

/-- The value of a numeral without sign, space or leading zero. -/
def canonicalNumber (s : Bytes) : Option Nat :=
  if s ≠ [] ∧ s.all isDigit = true ∧ (s.head? = some 48 → s.length = 1) then some (digitsValue s)
  else none

theorem isSpace_eq_false_of_isDigit {b : UInt8} (h : isDigit b = true) : isSpace b = false := by
  simp only [isDigit, decide_eq_true_eq] at h
  simp only [isSpace, decide_eq_false_iff_not]
  rintro (rfl | hspace)
  · exact absurd h.1 (by decide)
  · omega

theorem splitSign_of_isDigit {b : UInt8} {s : Bytes} (h : isDigit b = true) :
    splitSign (b :: s) = (false, b :: s) := by
  unfold splitSign
  split
  next heq => cases heq; cases h
  next heq => cases heq; cases h
  next => rfl

/-- `strtoul` on digits alone. -/
theorem strtoul_digits {s : Bytes} (hne : s ≠ []) (hdigits : s.all isDigit = true) :
    strtoul s = (if 4294967296 ≤ digitsValue s then 4294967295 else UInt32.ofNat (digitsValue s),
      []) := by
  have hall : ∀ b ∈ s, isDigit b = true := List.all_eq_true.1 hdigits
  obtain ⟨b, s, rfl⟩ := List.exists_cons_of_ne_nil hne
  have hb := hall b (.head _)
  have hspace : (b :: s).dropWhile isSpace = b :: s := by
    rw [List.dropWhile_cons_of_neg]
    simp [isSpace_eq_false_of_isDigit hb]
  have htake : (b :: s).takeWhile isDigit = b :: s := List.takeWhile_eq_self_iff.2 hall
  unfold strtoul
  simp only [hspace, splitSign_of_isDigit hb, htake, List.drop_length]
  rw [if_neg (by simp)]
  simp

namespace CStr

theorem all_isDigit_ofNat (n : Nat) : (ofNat n).val.all isDigit = true :=
  List.all_eq_true.2 fun _ hb => decide_eq_true (digit_of_mem_ofNat hb)

theorem ofNat_ne_nil (n : Nat) : (ofNat n).val ≠ [] := by
  rw [ofNat_val, ne_eq, List.map_eq_nil_iff]
  exact Nat.toDigits_ne_nil

/-- The digits of a printed number. -/
theorem digitsValue_ofNat (n : Nat) : digitsValue (ofNat n).val = n := by
  rw [ofNat_val, digitsValue, List.foldl_map]
  refine Eq.trans ?_ (Nat.ofDigitChars_ten_toDigits (n := n))
  rw [Nat.ofDigitChars_eq_foldl]
  refine List.foldl_ext _ _ _ fun m c hc => ?_
  have hdigit := toNat_byte_of_isDigit (Nat.isDigit_of_mem_toDigits (by decide) (by decide) hc)
  rw [hdigit.1]
  rfl

/-- **A printed number** is read back by `strtoul`. -/
theorem strtoul_ofNat (n : UInt32) : strtoul (ofNat n.toNat).val = (n, []) := by
  have hlt := n.toNat_lt
  rw [strtoul_digits (ofNat_ne_nil _) (all_isDigit_ofNat _), digitsValue_ofNat,
    if_neg (by omega), UInt32.ofNat_toNat]

/-- Only the numeral of 0 starts with a zero. -/
theorem eq_zero_of_head_toDigits {n : Nat} {c : Char} (h : (Nat.toDigits 10 n).head? = some c)
    (hc : c.toNat = 48) : n = 0 := by
  induction n using Nat.strongRecOn with
  | ind n ih =>
    rcases Nat.lt_or_ge n 10 with hlt | hge
    · rw [Nat.toDigits_of_lt_base hlt, List.head?_cons, Option.some.injEq] at h
      have hdigit := Nat.toNat_digitChar_sub_48_of_lt_ten hlt
      rw [h, hc] at hdigit
      omega
    · rw [Nat.toDigits_of_base_le (by decide) hge,
        List.head?_append_of_ne_nil _ Nat.toDigits_ne_nil] at h
      have hzero := ih (n / 10) (by omega) h
      omega

/-- A printed number has no leading zero. -/
theorem eq_zero_of_head_ofNat {n : Nat} (h : (ofNat n).val.head? = some 48) : n = 0 := by
  rw [ofNat_val, List.head?_map, Option.map_eq_some_iff] at h
  obtain ⟨c, hc, hbyte⟩ := h
  have hdigit := toNat_byte_of_isDigit
    (Nat.isDigit_of_mem_toDigits (by decide) (by decide) (List.mem_of_head? hc))
  refine eq_zero_of_head_toDigits hc ?_
  rw [← hdigit.1, hbyte]
  rfl

end CStr

end Esp32Iot
