import Mathlib.Algebra.Order.Floor.Ring
import Mathlib.Data.Rat.Floor
import Mathlib.Tactic.FieldSimp
import Mathlib.Tactic.Linarith

/-!
# Truncation of fractions, and wrapped integers

`trunc` is the conversion of a fraction to an integer that drops what is behind the point. It moves
a number by less than one, so two numbers with the same truncation differ by less than two
(`abs_sub_lt_two_of_trunc_eq`). A machine integer of `m` values that wraps around is off by a
multiple of `m`. Divided by at most half of that, it still shows: `trunc_add_div_bmod_eq_iff`.
-/

namespace Trunc

/-- The conversion of a fraction to an integer, towards zero. -/
def trunc (q : ℚ) : ℤ := if 0 ≤ q then ⌊q⌋ else ⌈q⌉

theorem trunc_intCast (n : ℤ) : trunc n = n := by
  unfold trunc
  split
  · exact Int.floor_intCast n
  · exact Int.ceil_intCast n

/-- Truncation moves a number by less than one. -/
theorem abs_sub_trunc_lt_one (q : ℚ) : |q - trunc q| < 1 := by
  unfold trunc
  split
  · have h₁ := Int.floor_le q
    have h₂ := Int.lt_floor_add_one q
    rw [abs_lt]
    constructor <;> linarith
  · have h₁ := Int.le_ceil q
    have h₂ := Int.ceil_lt_add_one q
    rw [abs_lt]
    constructor <;> linarith

/-- Truncation moves a number towards zero. -/
theorem abs_trunc_le (q : ℚ) : |(trunc q : ℚ)| ≤ |q| := by
  unfold trunc
  split
  · rename_i hq
    have h₁ : (0 : ℚ) ≤ (⌊q⌋ : ℚ) := by exact_mod_cast Int.floor_nonneg.2 hq
    rw [abs_of_nonneg h₁, abs_of_nonneg hq]
    exact Int.floor_le q
  · rename_i hq
    have hq' : q ≤ 0 := le_of_lt (lt_of_not_ge hq)
    have h₁ : (⌈q⌉ : ℚ) ≤ 0 := by exact_mod_cast Int.ceil_le.2 (by exact_mod_cast hq')
    rw [abs_of_nonpos h₁, abs_of_nonpos hq', neg_le_neg_iff]
    exact Int.le_ceil q

theorem abs_sub_lt_two_of_trunc_eq {a b : ℚ} (h : trunc a = trunc b) : |a - b| < 2 := by
  have ha := abs_sub_trunc_lt_one a
  have hb := abs_sub_trunc_lt_one b
  rw [h] at ha
  rw [abs_lt] at *
  constructor <;> linarith

/-- A bound on a number is a bound on its truncation. -/
theorem abs_trunc_le_of_le {q : ℚ} {b : ℤ} (h : |q| ≤ b) : |trunc q| ≤ b := by
  have hq := (abs_trunc_le q).trans h
  exact_mod_cast hq

/-- An integer that wraps around is off by at least the number of values. -/
theorem le_abs_bmod_sub {x : ℤ} {m : ℕ} (h : x.bmod m ≠ x) : (m : ℤ) ≤ |x.bmod m - x| := by
  have hdvd : (m : ℤ) ∣ x.bmod m - x := by
    rw [Int.bmod_eq_self_sub_mul_bdiv]
    exact ⟨-x.bdiv m, by ring⟩
  exact Int.le_of_dvd (abs_pos.2 (sub_ne_zero.2 h)) ((dvd_abs _ _).2 hdvd)

/-- **Wrapping shows behind a division** by at most half the number of values. -/
theorem trunc_add_div_bmod_eq_iff {m : ℕ} {p q : ℚ} (hq : 0 < q) (hm : 2 * q ≤ m) (x : ℤ) :
    trunc (p + (x.bmod m : ℤ) / q) = trunc (p + x / q) ↔ x.bmod m = x := by
  constructor
  · intro h
    by_contra hne
    have hlt := abs_sub_lt_two_of_trunc_eq h
    have hle : (m : ℚ) ≤ |((x.bmod m : ℤ) : ℚ) - x| := by exact_mod_cast le_abs_bmod_sub hne
    have hdiff : p + (x.bmod m : ℤ) / q - (p + x / q) = (((x.bmod m : ℤ) : ℚ) - x) / q := by
      field_simp
      ring
    rw [hdiff, abs_div, abs_of_pos hq, div_lt_iff₀ hq] at hlt
    linarith
  · intro h
    rw [h]

end Trunc
