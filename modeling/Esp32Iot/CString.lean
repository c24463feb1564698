import Mathlib.Data.List.TakeWhile
import Esp32Iot.Lib.Search

/-!
# C strings and `char` arrays

A C string is the bytes before its terminating NUL (`CStr`), so no value of the type has an inner
NUL. Memory that is read as a string, a receive buffer or an array, is a list of bytes, and
`CStr.ofBytes` is the string that starts there.

A local or global `char name[n]` is a `CharArray n`. Its contents before the first write are
arbitrary, so a string can be read from it only when one of its cells is NUL (`CharArray.read`),
and `strcpy` into it is possible only when the string fits with its terminator: `none` stands for
an access outside the array, after which the source says nothing about the device.
-/

namespace Esp32Iot

/-- Bytes in memory or on the wire. -/
abbrev Bytes := List UInt8

/-- The bytes of an ASCII literal of the source. -/
def bytes (s : String) : Bytes := s.toList.map fun c => UInt8.ofNat c.toNat

/-- The byte of an ASCII character of the source. -/
def byte (c : Char) : UInt8 := UInt8.ofNat c.toNat

/-- A C string: the bytes before the terminating NUL. -/
@[ext] structure CStr where
  /-- The bytes, without the terminator. -/
  val : Bytes
  /-- No byte of the string is the terminator. -/
  nulFree : (0 : UInt8) ∉ val
  deriving DecidableEq

namespace CStr

/-- The string that starts at a memory location. -/
def ofBytes (mem : Bytes) : CStr where
  val := mem.takeWhile (· ≠ 0)
  nulFree h := by simpa using List.mem_takeWhile_imp h

/-- A string literal of the source. -/
def lit (s : String) : CStr := ofBytes (bytes s)

/-- `strlen`. -/
def length (s : CStr) : Nat := s.val.length

/-- `strstr(s, t)`: the string that starts at the first occurrence of `t` in `s`. -/
def strstr (s t : CStr) : Option CStr := (Search.find t.val s.val).map ofBytes

/-- The value of `strstr(s, t)` as a condition. -/
def has (s t : CStr) : Bool := (strstr s t).isSome

/-- The characters before the first `c`, or the whole string when there is none: from a pointer to
the string up to `strchr(s, c)`, or up to `strchr(s, '\0')` when that is `NULL`. -/
def upTo (s : CStr) (c : UInt8) : Bytes := s.val.takeWhile (· ≠ c)

/-- `strcmp(s, "")` as a condition: the string is not empty. -/
def nonEmpty (s : CStr) : Bool := s ≠ lit ""

theorem ofBytes_val_of_nulFree {mem : Bytes} (h : (0 : UInt8) ∉ mem) : (ofBytes mem).val = mem := by
  rw [ofBytes, List.takeWhile_eq_self_iff]
  intro b hb
  simpa using fun hb0 : b = 0 => h (hb0 ▸ hb)

/-- The test of `ofBytes` passes on every byte of a string. -/
theorem ne_nul_of_mem (s : CStr) : ∀ b ∈ s.val, decide (b ≠ 0) = true := by
  intro b hb
  simpa using fun hb0 : b = 0 => s.nulFree (hb0 ▸ hb)

@[simp] theorem ofBytes_val (s : CStr) : ofBytes s.val = s :=
  CStr.ext (ofBytes_val_of_nulFree s.nulFree)

/-- Nothing after a NUL belongs to the string. -/
theorem ofBytes_append_nul (mem rest : Bytes) : ofBytes (mem ++ 0 :: rest) = ofBytes mem := by
  refine CStr.ext ?_
  show (mem ++ 0 :: rest).takeWhile (· ≠ 0) = mem.takeWhile (· ≠ 0)
  rw [List.takeWhile_append]
  split
  · rename_i h
    rw [(List.takeWhile_prefix _).eq_of_length h]
    simp
  · rfl

/-- The string that starts at a string of known bytes is these and the string after them. -/
theorem ofBytes_append_val (s : CStr) (mem : Bytes) :
    (ofBytes (s.val ++ mem)).val = s.val ++ (ofBytes mem).val := by
  simp only [ofBytes, List.takeWhile_append_of_pos s.ne_nul_of_mem]

/-- `strstr` succeeds exactly on the strings that contain the other one. -/
theorem has_iff {s t : CStr} : s.has t = true ↔ t.val <:+: s.val := by
  rw [has, strstr, Option.isSome_map, Search.find_isSome_iff]

theorem has_eq_false_iff {s t : CStr} : s.has t = false ↔ ¬ t.val <:+: s.val := by
  rw [← has_iff, Bool.not_eq_true]

theorem strstr_eq_none_iff {s t : CStr} : strstr s t = none ↔ s.has t = false := by
  rw [has]; cases strstr s t <;> simp

/-- What `strstr` points at, as bytes. -/
theorem strstr_eq_some_iff {s t u : CStr} :
    strstr s t = some u ↔ Search.find t.val s.val = some u.val := by
  rw [strstr, Option.map_eq_some_iff]
  constructor
  · rintro ⟨l, hl, rfl⟩
    rw [hl, ofBytes_val_of_nulFree fun h => s.nulFree ((Search.suffix_of_find hl).subset h)]
  · exact fun h => ⟨u.val, h, ofBytes_val u⟩

theorem nonEmpty_iff {s : CStr} : s.nonEmpty = true ↔ s.val ≠ [] := by
  have hl : (lit "").val = [] := rfl
  rw [nonEmpty, decide_eq_true_iff, ne_eq, CStr.ext_iff, hl]

end CStr

/-- `char name[n]`. -/
@[ext] structure CharArray (n : Nat) where
  /-- The cells, in order. -/
  cells : Bytes
  /-- There are `n` of them. -/
  size_eq : cells.length = n
  deriving DecidableEq

namespace CharArray

variable {n : Nat}

/-- An array filled with one byte. -/
def fill (n : Nat) (b : UInt8) : CharArray n := ⟨List.replicate n b, List.length_replicate⟩

/-- The string in the array, when one of the cells ends it. -/
def read (a : CharArray n) : Option CStr :=
  if 0 ∈ a.cells then some (CStr.ofBytes a.cells) else none

/-- `strcmp(a, "")` as a condition: it reads the first cell only. -/
def nonEmpty (a : CharArray n) : Bool := a.cells.head? ≠ some 0

/-- `strcpy(a, s)`, or any other loop that writes `s` and its terminator from the first cell on;
`none` when that leaves the array. -/
def strcpy (a : CharArray n) (s : CStr) : Option (CharArray n) :=
  if h : s.length < n then
    some ⟨s.val ++ 0 :: a.cells.drop (s.length + 1), by
      have := a.size_eq; simp only [CStr.length, List.length_append, List.length_cons,
        List.length_drop] at *; omega⟩
  else none

theorem strcpy_eq_none_iff {a : CharArray n} {s : CStr} : a.strcpy s = none ↔ n ≤ s.length := by
  rw [strcpy]; split <;> simp <;> omega

theorem strcpy_isSome_iff {a : CharArray n} {s : CStr} : (a.strcpy s).isSome ↔ s.length < n := by
  rw [strcpy]; split <;> simp [*]

/-- A string that was copied into an array is read back. -/
theorem read_of_strcpy {a b : CharArray n} {s : CStr} (h : a.strcpy s = some b) :
    b.read = some s := by
  rw [strcpy] at h
  split at h
  · cases h; simp [read, CStr.ofBytes_append_nul]
  · cases h

/-- A string in an array leaves room for its terminator. -/
theorem length_lt_of_read {a : CharArray n} {s : CStr} (h : a.read = some s) : s.length < n := by
  rw [read] at h
  split at h
  · next hmem =>
      cases h
      refine Nat.lt_of_lt_of_eq ?_ a.size_eq
      refine Nat.lt_of_le_of_ne (List.takeWhile_prefix _).length_le fun heq => ?_
      have hself := (List.takeWhile_prefix (fun b : UInt8 => decide (b ≠ 0))).eq_of_length heq
      rw [List.takeWhile_eq_self_iff] at hself
      simpa using hself 0 hmem
  · cases h

/-- After a copy, the first cell tells whether the string is empty. -/
theorem nonEmpty_of_strcpy {a b : CharArray n} {s : CStr} (h : a.strcpy s = some b) :
    b.nonEmpty = s.nonEmpty := by
  rw [strcpy] at h
  split at h
  · cases h
    obtain ⟨l, hl⟩ := s
    rw [nonEmpty, Bool.eq_iff_iff, CStr.nonEmpty_iff, decide_eq_true_iff]
    cases l with
    | nil => simp
    | cons b bs =>
        have hb : b ≠ 0 := fun hb => hl (by rw [hb]; exact .head _)
        simp [hb]
  · cases h

end CharArray

end Esp32Iot
