import Esp32Iot.CString

/-!
# Building C strings

`strcat` and `snprintf` as the client uses them. A string under construction lies at the start of a
region of memory whose size is known, and `none` stands for a write behind that region.
`strcatAll_eq` says of a chain of `strcat`s that it ends well exactly when the whole string fits.
-/

namespace Esp32Iot

namespace CStr

/-- One string after the other. -/
protected def append (s t : CStr) : CStr where
  val := s.val ++ t.val
  nulFree h := (List.mem_append.1 h).elim s.nulFree t.nulFree

instance : Append CStr := ⟨CStr.append⟩

@[simp] theorem append_val (s t : CStr) : (s ++ t).val = s.val ++ t.val := rfl

@[simp] theorem length_append (s t : CStr) : (s ++ t).length = s.length + t.length :=
  List.length_append

/-- The empty string. -/
def empty : CStr := lit ""

@[simp] theorem empty_append (s : CStr) : empty ++ s = s := rfl

@[simp] theorem length_empty : empty.length = 0 := rfl

@[simp] theorem append_assoc (s t u : CStr) : s ++ t ++ u = s ++ (t ++ u) :=
  CStr.ext (List.append_assoc ..)

/-- `"%u"`. -/
def ofNat (n : Nat) : CStr := ofBytes ((Nat.toDigits 10 n).map byte)

/-- `"%d"`. -/
def ofInt : Int → CStr
  | .ofNat n => ofNat n
  | .negSucc n => lit "-" ++ ofNat (n + 1)

/-- What `snprintf` leaves of a string in a region of the given size. -/
def truncate (s : CStr) (size : Nat) : CStr where
  val := s.val.take (size - 1)
  nulFree h := s.nulFree (List.mem_of_mem_take h)

/-- `strcat(s, t)` in a region of the given size. -/
def strcat (size : Nat) (s t : CStr) : Option CStr :=
  if s.length + t.length < size then some (s ++ t) else none

/-- One `strcat` after the other. -/
def strcatAll (size : Nat) : CStr → List CStr → Option CStr
  | s, [] => some s
  | s, t :: ts => (strcat size s t).bind fun s' => strcatAll size s' ts

/-- The strings of a list, one after the other. -/
def concat : List CStr → CStr
  | [] => empty
  | s :: ss => s ++ concat ss

@[simp] theorem append_empty (s : CStr) : s ++ empty = s := CStr.ext (List.append_nil _)

/-- The byte of a digit. -/
theorem toNat_byte_of_isDigit {c : Char} (h : c.isDigit = true) :
    (byte c).toNat = c.toNat ∧ 48 ≤ c.toNat ∧ c.toNat ≤ 57 := by
  rw [Char.isDigit_iff_toNat] at h
  have h48 : '0'.toNat = 48 := rfl
  have h57 : '9'.toNat = 57 := rfl
  rw [byte, UInt8.toNat_ofNat']
  omega

theorem ofNat_val (n : Nat) : (ofNat n).val = (Nat.toDigits 10 n).map byte := by
  refine ofBytes_val_of_nulFree fun h => ?_
  obtain ⟨c, hc, h0⟩ := List.mem_map.1 h
  have hdigit := toNat_byte_of_isDigit (Nat.isDigit_of_mem_toDigits (by decide) (by decide) hc)
  rw [h0, UInt8.toNat_zero] at hdigit
  omega

/-- `"%u"` gives digits. -/
theorem digit_of_mem_ofNat {n : Nat} {b : UInt8} (h : b ∈ (ofNat n).val) :
    48 ≤ b.toNat ∧ b.toNat ≤ 57 := by
  rw [ofNat_val] at h
  obtain ⟨c, hc, rfl⟩ := List.mem_map.1 h
  have hdigit := toNat_byte_of_isDigit (Nat.isDigit_of_mem_toDigits (by decide) (by decide) hc)
  rw [hdigit.1]
  exact hdigit.2

theorem length_ofNat (n : Nat) : (ofNat n).length = (Nat.toDigits 10 n).length := by
  rw [length, ofNat_val, List.length_map]

/-- A number below ten thousand million has at most ten digits. -/
theorem length_ofNat_le_ten {n : Nat} (h : n < 10000000000) : (ofNat n).length ≤ 10 := by
  rw [length_ofNat]
  exact (Nat.length_toDigits_le_iff (by decide) (by decide)).2 h

/-- A number of 32 bits has at most ten digits. -/
theorem length_ofNat_uint32 (n : UInt32) : (ofNat n.toNat).length ≤ 10 := by
  have hlt := n.toNat_lt
  exact length_ofNat_le_ten (by omega)

/-- A signed number of 32 bits has at most ten digits and a sign. -/
theorem length_ofInt_int32 (v : Int32) : (ofInt v.toInt).length ≤ 11 := by
  have hlo := v.le_toInt
  have hhi := v.toInt_lt
  cases hv : v.toInt with
  | ofNat n =>
      simp only [hv, Int.ofNat_eq_natCast] at hhi
      have hn : (ofNat n).length ≤ 10 := length_ofNat_le_ten (by omega)
      exact Nat.le_succ_of_le hn
  | negSucc n =>
      have hn : (ofNat (n + 1)).length ≤ 10 := length_ofNat_le_ten (by omega)
      have hsign : (lit "-").length = 1 := rfl
      rw [ofInt, length_append, hsign]
      omega

/-- The sign of a negative number is not a digit. -/
theorem ofInt_ne_of_neg {a b : Int} (ha : a < 0) (hb : 0 ≤ b) : ofInt a ≠ ofInt b := by
  obtain ⟨n, rfl⟩ := Int.eq_ofNat_of_zero_le hb
  obtain ⟨m, rfl⟩ := Int.eq_negSucc_of_lt_zero ha
  intro h
  have hsign : byte '-' ∈ (ofNat n).val := by
    have hval : (lit "-" ++ ofNat (m + 1)).val = (ofNat n).val := congrArg CStr.val h
    rw [← hval]
    exact .head _
  have hdigit := digit_of_mem_ofNat hsign
  have h45 : (byte '-').toNat = 45 := rfl
  omega

/-- `snprintf` keeps a string that fits. -/
theorem truncate_of_lt {s : CStr} {size : Nat} (h : s.length < size) : s.truncate size = s := by
  refine CStr.ext (List.take_of_length_le ?_)
  exact Nat.le_sub_one_of_lt h

/-- **A chain of `strcat`s** ends well exactly when the whole string fits the region. -/
theorem strcatAll_eq {size : Nat} {s : CStr} {ts : List CStr} (hs : s.length < size) :
    strcatAll size s ts =
      if s.length + (concat ts).length < size then some (s ++ concat ts) else none := by
  induction ts generalizing s with
  | nil => rw [strcatAll, concat, if_pos (by simpa using hs), append_empty]
  | cons t ts ih =>
      rw [strcatAll, strcat, concat, length_append]
      by_cases ht : s.length + t.length < size
      · rw [if_pos ht]
        have hst : (s ++ t).length < size := by simpa using ht
        simp only [Option.bind_some, ih hst, length_append, append_assoc, Nat.add_assoc]
      · rw [if_neg ht, if_neg (by omega)]
        rfl

end CStr

end Esp32Iot
