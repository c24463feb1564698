import Mathlib.Data.List.GetD
import Mathlib.Data.Prod.Basic
import Esp32Iot.Http.Form
import Esp32Iot.Lib.Cells

/-!
# The arrays of the field parsers

`Esp32Iot.Http.Form` says what value the parsers find. Here they run over their arrays, element by
element: `tmp_param` gets the text from the key up to the next `&`, `param` what follows the key and
one character there, and `value` is the array of the caller, or the block that `parse_http_request2`
allocates. Both local arrays have the size of the text without its terminator, and the terminator is
written behind them. Each array has memory of its own behind its end, in which that write lands.

`fields_inside_iff` says when `parse_http_request` stays inside its arrays: only when it finds no
key. `parsers_deliver` says that both parsers compute the same function, and which.
-/

namespace Esp32Iot

open CStr (lit)
open Cells (Mem Unaffected)

/-! ## The parsers -/

/-- The arrays that a parser writes. -/
inductive ParseArray
  | tmpParam
  | param
  /-- the array of the caller, or the allocated block -/
  | value
  deriving DecidableEq

/-- Memory in which every array has cells of its own, also behind its end. -/
abbrev ParseMem := Mem ParseArray (ParseArray × Nat) UInt8

/-- An array as memory from its first element on. -/
def arrayAt (m : ParseMem) (a : ParseArray) (i : Nat) : UInt8 := m.cells (a, i)

/-- `strlen` of an array whose terminator is at `n` or before. -/
def strlenAt (m : ParseMem) (a : ParseArray) (n : Nat) : Nat := Cells.lengthTo 0 (arrayAt m a) n

/-- A call of a parser. -/
structure Parsed where
  /-- the code it returns; `none` when it does not return, as `param` cannot have its size -/
  code : Option Nat
  /-- `param_end - param_start`, when it is computed -/
  tmpSize : Option Int
  /-- `strlen(tmp_param) - strlen(key) - 1`, before it is taken as a `size_t` -/
  paramSize : Option Int
  mem : ParseMem

/-- `tmp_param` of both parsers: `strncpy`, and the terminator behind the array. -/
def writeTmpParam (m : ParseMem) (paramStart : CStr) : ParseMem :=
  let size := (paramStart.upTo (byte '&')).length
  (m.copyLoop Prod.mk .tmpParam (fun _ i => paramStart.val.getD i 0) size).store Prod.mk
    .tmpParam size 0

/-- `strlen(tmp_param) - strlen(key) - 1`. -/
def paramSizeOf (m : ParseMem) (paramStart key : CStr) : Int :=
  strlenAt m .tmpParam (paramStart.upTo (byte '&')).length - key.length - 1

/-- `param` of both parsers: the loop over `tmp_param`, and the terminator behind the array. -/
def writeParam (m : ParseMem) (key : CStr) (size : Nat) : ParseMem :=
  (m.copyLoop Prod.mk .param (fun cells i => cells (.tmpParam, key.length + 1 + i)) size).store
    Prod.mk .param size 0

/-- What both parsers do up to their arrays `param`, and then `deliver` from there. A size below
zero wraps around to one that no array can have, and the loops would not end. -/
def parseField (deliver : ParseMem → Nat → ParseMem) (m : ParseMem) (request key : CStr) : Parsed :=
  match request.strstr key with
  | none => { code := some 1, tmpSize := none, paramSize := none, mem := m }
  | some paramStart =>
    let m := writeTmpParam m paramStart
    let size := paramSizeOf m paramStart key
    { code := if size < 0 then none else some 0
      tmpSize := some (paramStart.upTo (byte '&')).length
      paramSize := some size
      mem := if size < 0 then m else deliver (writeParam m key size.toNat) size.toNat }

/-- `for (i = 0; i <= sizeof(param); i++) value[i] = param[i]`. -/
def copyParam (m : ParseMem) (size : Nat) : ParseMem :=
  m.copyLoop Prod.mk .value (fun cells i => cells (.param, i)) (size + 1)

/-- `sprintf(*value, "%s", param)`: the string and its terminator. -/
def printParam (m : ParseMem) (size : Nat) : ParseMem :=
  let length := strlenAt m .param size
  (m.copyLoop Prod.mk .value (fun cells i => cells (.param, i)) length).store Prod.mk .value length
    0

/-- `parse_http_request` over memory. -/
def parseHttpRequestIn (m : ParseMem) (request key : CStr) : Parsed :=
  parseField copyParam m request key

/-- A call of `parse_http_request2`, with the pointer `*value`. -/
structure Parsed2 extends Parsed where
  pointer : Nat

/-- `parse_http_request2` over memory. `block` is what `malloc` returns: its result is not tested
(`value == NULL` tests the pointer to it, which was used before), so nothing returns when it is
`NULL`. -/
def parseHttpRequest2In (block : Nat) (pointer : Nat) (m : ParseMem) (request key : CStr) :
    Parsed2 :=
  let parsed := parseField printParam m request key
  match parsed.code with
  | some 0 =>
    if block = 0 then { parsed with code := none, pointer := block }
    else { parsed with pointer := block }
  | _ => { parsed with pointer := pointer }

/-! ## Strings in arrays -/

/-- An array holds a string and its terminator. -/
def HoldsString (m : ParseMem) (a : ParseArray) (s : Bytes) : Prop :=
  ∀ i, i ≤ s.length → arrayAt m a i = s.getD i 0

section
variable {m : ParseMem} {a : ParseArray} {s : Bytes}

/-- A loop over the elements of a string and the terminator behind it. -/
theorem holdsString_terminated {f : (ParseArray × Nat → UInt8) → Nat → UInt8}
    (hf : Unaffected Prod.mk a f) (h : ∀ i, i < s.length → f m.cells i = s.getD i 0) :
    HoldsString ((m.copyLoop Prod.mk a f s.length).store Prod.mk a s.length 0) a s := by
  intro i hi
  rcases Nat.lt_or_eq_of_le hi with hlt | rfl
  · have hne : ((a, i) : ParseArray × Nat) ≠ (a, s.length) := by
      intro heq
      cases heq
      exact Nat.lt_irrefl _ hlt
    rw [arrayAt, Cells.cells_store_of_ne hne,
      Cells.cells_copyLoop hf (Prod.mk_right_injective a) hlt]
    exact h i hlt
  · rw [arrayAt, Cells.cells_store_self, List.getD_eq_default _ _ (Nat.le_refl _)]

/-- The elements that this writes: one more than the string has. -/
theorem writes_terminated (f : (ParseArray × Nat → UInt8) → Nat → UInt8) (n : Nat) :
    ((m.copyLoop Prod.mk a f n).store Prod.mk a n 0).writes =
      m.writes ++ (List.range (n + 1)).map (a, ·) := by
  simp [Cells.writes_copyLoop, List.range_succ]

/-- `strlen` of a string in an array. -/
theorem strlenAt_of_holds (h : HoldsString m a s) (hs : (0 : UInt8) ∉ s) :
    strlenAt m a s.length = s.length := by
  refine Cells.lengthTo_eq (Nat.le_refl _) (fun hlt => absurd hlt (Nat.lt_irrefl _)) ?_
  intro i hi
  rw [h i (Nat.le_of_lt hi), List.getD_eq_getElem _ _ hi]
  exact fun h0 => hs (h0 ▸ List.getElem_mem hi)

/-- What is read from one array does not change when another is written. -/
theorem unaffected_of_ne {b : ParseArray} (h : b ≠ a) (index : Nat → Nat) :
    Unaffected Prod.mk a fun (cells : ParseArray × Nat → UInt8) i => cells (b, index i) := by
  intro cells i v
  funext j
  refine Function.update_of_ne ?_ ..
  intro heq
  cases heq
  exact h rfl

end

theorem unaffected_text (a : ParseArray) (text : Bytes) :
    Unaffected Prod.mk a fun (_ : ParseArray × Nat → UInt8) i => text.getD i 0 := by
  intro cells i v
  rfl

/-- `tmp_param` holds the text up to the next `&`. -/
theorem writeTmpParam_holds (m : ParseMem) (paramStart : CStr) :
    HoldsString (writeTmpParam m paramStart) .tmpParam (paramStart.upTo (byte '&')) := by
  refine holdsString_terminated (unaffected_text _ _) fun i hi => ?_
  rw [List.getD_eq_getElem _ _ hi, List.getD_eq_getElem]
  exact ((List.takeWhile_prefix _).getElem hi).symm

/-- The size of `param`, as a number that may be negative. -/
theorem paramSizeOf_eq (m : ParseMem) (paramStart key : CStr) :
    paramSizeOf (writeTmpParam m paramStart) paramStart key =
      (paramStart.upTo (byte '&')).length - key.length - 1 := by
  have hnul : (0 : UInt8) ∉ paramStart.upTo (byte '&') :=
    fun h => paramStart.nulFree (List.takeWhile_subset _ h)
  rw [paramSizeOf, strlenAt_of_holds (writeTmpParam_holds m paramStart) hnul]

/-- `param` holds what follows the key and one character in `tmp_param`. -/
theorem writeParam_holds {m : ParseMem} {tmp : Bytes} (key : CStr)
    (hm : HoldsString m .tmpParam tmp) :
    HoldsString (writeParam m key (tmp.drop (key.length + 1)).length) .param
      (tmp.drop (key.length + 1)) := by
  refine holdsString_terminated (unaffected_of_ne (by decide) _) fun i hi => ?_
  have hi' : key.length + 1 + i < tmp.length := by
    rw [List.length_drop] at hi
    omega
  show arrayAt m .tmpParam (key.length + 1 + i) = _
  rw [hm _ (Nat.le_of_lt hi'), List.getD_eq_getElem _ _ hi', List.getD_eq_getElem _ _ hi,
    List.getElem_drop]

/-- A way to hand out `param`: the string is delivered, and one element more than it has is
written. -/
structure DeliversParam (deliver : ParseMem → Nat → ParseMem) : Prop where
  holds : ∀ {m : ParseMem} {s : Bytes}, (0 : UInt8) ∉ s → HoldsString m .param s →
    HoldsString (deliver m s.length) .value s
  writes : ∀ {m : ParseMem} {s : Bytes}, (0 : UInt8) ∉ s → HoldsString m .param s →
    (deliver m s.length).writes = m.writes ++ (List.range (s.length + 1)).map (.value, ·)

theorem delivers_copyParam : DeliversParam copyParam where
  holds := by
    intro m s _ hm i hi
    have hlt : i < s.length + 1 := Nat.lt_succ_of_le hi
    have hloop := Cells.cells_copyLoop (m := m)
      (unaffected_of_ne (show ParseArray.param ≠ .value by decide) id)
      (Prod.mk_right_injective ParseArray.value) hlt
    exact hloop.trans (hm i hi)
  writes := by
    intro m s _ _
    exact Cells.writes_copyLoop _

theorem delivers_printParam : DeliversParam printParam where
  holds := by
    intro m s hs hm
    rw [printParam, strlenAt_of_holds hm hs]
    exact holdsString_terminated (unaffected_of_ne (by decide) id) fun i hi =>
      hm i (Nat.le_of_lt hi)
  writes := by
    intro m s hs hm
    rw [printParam, strlenAt_of_holds hm hs]
    exact writes_terminated _ _

/-! ## What the parsers find -/

section
variable {deliver : ParseMem → Nat → ParseMem} {m : ParseMem} {request key text : CStr}

theorem parseField_of_none (h : request.strstr key = none) :
    parseField deliver m request key =
      { code := some 1, tmpSize := none, paramSize := none, mem := m } := by
  rw [parseField, h]

/-- A key that is found, when the text of its field is too short for the character behind it. -/
theorem parseField_of_short (h : request.strstr key = some text)
    (hshort : (text.upTo (byte '&')).length < key.length + 1) :
    parseField deliver m request key =
      { code := none
        tmpSize := some (text.upTo (byte '&')).length
        paramSize := some ((text.upTo (byte '&')).length - key.length - 1)
        mem := writeTmpParam m text } := by
  have hneg : ((text.upTo (byte '&')).length : Int) - key.length - 1 < 0 := by omega
  rw [parseField, h]
  simp only [paramSizeOf_eq, if_pos hneg]

/-- A key that is found with a field behind it. -/
theorem parseField_of_found (h : request.strstr key = some text)
    (hroom : key.length + 1 ≤ (text.upTo (byte '&')).length) :
    parseField deliver m request key =
      { code := some 0
        tmpSize := some (text.upTo (byte '&')).length
        paramSize := some ((text.upTo (byte '&')).drop (key.length + 1)).length
        mem := deliver (writeParam (writeTmpParam m text) key
            ((text.upTo (byte '&')).drop (key.length + 1)).length)
          ((text.upTo (byte '&')).drop (key.length + 1)).length } := by
  have hsize : ((text.upTo (byte '&')).length : Int) - key.length - 1 =
      ((text.upTo (byte '&')).drop (key.length + 1)).length := by
    rw [List.length_drop]
    omega
  have hnonneg : ¬ (((text.upTo (byte '&')).drop (key.length + 1)).length : Int) < 0 := by omega
  rw [parseField, h]
  simp only [paramSizeOf_eq, hsize, if_neg hnonneg, Int.toNat_natCast]

/-- The text of a field has no terminator. -/
theorem nulFree_field (text : CStr) (n : Nat) : (0 : UInt8) ∉ (text.upTo (byte '&')).drop n :=
  fun h => text.nulFree (List.takeWhile_subset _ (List.drop_subset _ _ h))

/-- The field is delivered. -/
theorem parseField_holds (hdeliver : DeliversParam deliver) (h : request.strstr key = some text)
    (hroom : key.length + 1 ≤ (text.upTo (byte '&')).length) :
    HoldsString (parseField deliver m request key).mem .value
      ((text.upTo (byte '&')).drop (key.length + 1)) := by
  rw [parseField_of_found h hroom]
  exact hdeliver.holds (nulFree_field text _) (writeParam_holds key (writeTmpParam_holds m text))

/-- The elements that are written: of each array one more than the string has. -/
theorem parseField_writes (hdeliver : DeliversParam deliver) (h : request.strstr key = some text)
    (hroom : key.length + 1 ≤ (text.upTo (byte '&')).length) :
    (parseField deliver m request key).mem.writes =
      m.writes ++ (List.range ((text.upTo (byte '&')).length + 1)).map (.tmpParam, ·) ++
        (List.range (((text.upTo (byte '&')).drop (key.length + 1)).length + 1)).map (.param, ·) ++
        (List.range (((text.upTo (byte '&')).drop (key.length + 1)).length + 1)).map
          (.value, ·) := by
  have hparam : ∀ m : ParseMem, ∀ n, (writeParam m key n).writes =
      m.writes ++ (List.range (n + 1)).map (.param, ·) := fun m n => writes_terminated _ n
  have htmp : (writeTmpParam m text).writes =
      m.writes ++ (List.range ((text.upTo (byte '&')).length + 1)).map (.tmpParam, ·) :=
    writes_terminated _ _
  rw [parseField_of_found h hroom]
  simp only
  rw [hdeliver.writes (nulFree_field text _) (writeParam_holds key (writeTmpParam_holds m text)),
    hparam, htmp]

end

/-- A parser over memory does what the parsers over strings say: it delivers the value, finds no
key, or cannot make its array. -/
theorem parseField_refines {deliver : ParseMem → Nat → ParseMem} (hdeliver : DeliversParam deliver)
    (m : ParseMem) (request key : CStr) :
    match (paramOf request key).map fun param => CStr.ofBytes (param ++ [0]) with
    | .ok value => (parseField deliver m request key).code = some 0 ∧
        HoldsString (parseField deliver m request key).mem .value value.val
    | .error .notFound => (parseField deliver m request key).code = some 1 ∧
        (parseField deliver m request key).mem = m
    | .error .overrun => (parseField deliver m request key).code = none := by
  cases h : request.strstr key with
  | none =>
    rw [paramOf, h, parseField_of_none h]
    exact ⟨rfl, rfl⟩
  | some text =>
    rw [paramOf_eq (CStr.strstr_eq_some_iff.1 h)]
    rcases Nat.lt_or_ge (text.upTo (byte '&')).length (key.length + 1) with hshort | hroom
    · have hlt : (text.val.takeWhile (· ≠ byte '&')).length < key.length + 1 := hshort
      rw [if_pos hlt, parseField_of_short h hshort]
      rfl
    · have hge : ¬ (text.val.takeWhile (· ≠ byte '&')).length < key.length + 1 :=
        Nat.not_lt.2 hroom
      have hval : (CStr.ofBytes ((text.upTo (byte '&')).drop (key.length + 1) ++ [0])).val =
          (text.upTo (byte '&')).drop (key.length + 1) := by
        rw [CStr.ofBytes_append_nul, CStr.ofBytes_val_of_nulFree (nulFree_field text _)]
      rw [if_neg hge]
      refine ⟨by rw [parseField_of_found h hroom], ?_⟩
      have hholds := parseField_holds (m := m) hdeliver h hroom
      rw [← hval] at hholds
      exact hholds

/-! ## The bounds of the arrays -/

/-- The declared size of an array, for an array of the caller of this capacity. -/
def Parsed.sizeOf (p : Parsed) (capacity : Nat) : ParseArray → Int
  | .tmpParam => p.tmpSize.getD 0
  | .param => p.paramSize.getD 0
  | .value => capacity

/-- No computed size is negative, and all elements that are written are elements of their arrays. -/
structure StaysInside (capacity : Nat) (p : Parsed) : Prop where
  sizes : ∀ n, p.tmpSize = some n ∨ p.paramSize = some n → 0 ≤ n
  writes : ∀ w ∈ p.mem.writes, (w.2 : Int) < p.sizeOf capacity w.1

/-- The text of the field that a key begins, up to the next `&`. -/
theorem writeTmpParam_behind (m : ParseMem) (text : CStr) :
    (ParseArray.tmpParam, (text.upTo (byte '&')).length) ∈ (writeTmpParam m text).writes := by
  rw [writeTmpParam, Cells.writes_store]
  exact List.mem_append_right _ (.head _)

/-- **The parser stays inside its arrays only when it finds no key.** The terminator of `tmp_param`
is written behind the array, whatever the field is. -/
theorem fields_inside_iff (capacity : Nat) (cells : ParseArray × Nat → UInt8) (request key : CStr) :
    StaysInside capacity (parseHttpRequestIn ⟨cells, []⟩ request key) ↔
      request.has key = false := by
  rw [← CStr.strstr_eq_none_iff, parseHttpRequestIn]
  cases h : request.strstr key with
  | none =>
    rw [parseField_of_none h]
    refine iff_of_true ⟨?_, ?_⟩ rfl
    · rintro n (hn | hn) <;> cases hn
    · exact nofun
  | some text =>
    refine iff_of_false (fun hinside => ?_) (by simp)
    rcases Nat.lt_or_ge (text.upTo (byte '&')).length (key.length + 1) with hshort | hroom
    · rw [parseField_of_short h hshort] at hinside
      have hlt := hinside.writes _ (writeTmpParam_behind _ text)
      exact Int.lt_irrefl _ hlt
    · have hlt := hinside.writes (.tmpParam, (text.upTo (byte '&')).length) (by
        rw [parseField_writes delivers_copyParam h hroom]
        simp)
      rw [parseField_of_found h hroom] at hlt
      exact Int.lt_irrefl _ hlt

/-- Where the fault is not the terminator: the sizes are right exactly when a character stands
behind the key, and then the elements of the caller's array are written up to the length of the
value. -/
theorem fields_bounds {request key text : CStr} (h : request.strstr key = some text)
    (cells : ParseArray × Nat → UInt8) (capacity : Nat) :
    ((∀ n, (parseHttpRequestIn ⟨cells, []⟩ request key).paramSize = some n → 0 ≤ n) ↔
        key.length + 1 ≤ (text.upTo (byte '&')).length) ∧
      (key.length + 1 ≤ (text.upTo (byte '&')).length →
        ((∀ w ∈ (parseHttpRequestIn ⟨cells, []⟩ request key).mem.writes,
            w.1 = .value → w.2 < capacity) ↔
          ((text.upTo (byte '&')).drop (key.length + 1)).length < capacity)) := by
  rw [parseHttpRequestIn]
  constructor
  · rcases Nat.lt_or_ge (text.upTo (byte '&')).length (key.length + 1) with hshort | hroom
    · rw [parseField_of_short h hshort]
      refine iff_of_false (fun hsizes => ?_) (Nat.not_le.2 hshort)
      have hnonneg := hsizes _ rfl
      omega
    · rw [parseField_of_found h hroom]
      refine iff_of_true ?_ hroom
      rintro n ⟨⟩
      exact Int.natCast_nonneg _
  · intro hroom
    rw [parseField_writes delivers_copyParam h hroom]
    constructor
    · intro hinside
      refine hinside (.value, ((text.upTo (byte '&')).drop (key.length + 1)).length) ?_ rfl
      refine List.mem_append_right _ (List.mem_map.2 ⟨_, List.mem_range.2 ?_, rfl⟩)
      exact Nat.lt_succ_self _
    · rintro hlt ⟨a, i⟩ hw rfl
      simp only [List.nil_append, List.mem_append, List.mem_map, List.mem_range, Prod.mk.injEq,
        reduceCtorEq, false_and, and_false, exists_false, false_or, true_and, exists_eq_right]
        at hw
      omega

/-- The WiFi form of a network `home`: `tmp_param` has nine elements, and a tenth is written. -/
theorem ssid_field_overruns :
    let parsed := parseHttpRequestIn ⟨fun _ => 0, []⟩ (lit "ssid=home&password=secret") (lit "ssid")
    parsed.tmpSize = some 9 ∧ (.tmpParam, 9) ∈ parsed.mem.writes ∧ ¬ StaysInside 33 parsed := by
  intro parsed
  have hsize : parsed.tmpSize = some 9 := by decide +kernel
  have hwrite : (ParseArray.tmpParam, 9) ∈ parsed.mem.writes := by decide +kernel
  refine ⟨hsize, hwrite, fun hinside => ?_⟩
  have hlt := hinside.writes _ hwrite
  rw [Parsed.sizeOf, hsize] at hlt
  exact Int.lt_irrefl _ hlt

/-! ## Both parsers -/

/-- The characters of a request from behind the key at `pos` and one character more, up to the next
`&` from `pos` on or the end. -/
def fieldFrom (request key : CStr) (pos : Nat) : Bytes :=
  ((request.val.drop pos).takeWhile (· ≠ byte '&')).drop (key.length + 1)

/-- A character stands between the first occurrence of the key and the next `&`, or the end. -/
def Separated (request key : CStr) : Prop :=
  ∀ pos, Search.FirstAt key.val request.val pos →
    ∃ c, (request.val.drop (pos + key.length)).head? = some c ∧ c ≠ byte '&'

/-- The text of a field behind a key has the key and one character more. -/
theorem Separated.room {request key text : CStr} (h : Separated request key)
    (hamp : byte '&' ∉ key.val) (hfind : request.strstr key = some text) :
    key.length + 1 ≤ (text.upTo (byte '&')).length := by
  obtain ⟨pos, hpos, htext⟩ := Search.firstAt_of_find (CStr.strstr_eq_some_iff.1 hfind)
  obtain ⟨c, hc, hne⟩ := h pos hpos
  obtain ⟨rest, hrest⟩ := hpos.1
  have hdrop : request.val.drop (pos + key.length) = rest := by
    rw [← List.drop_drop, ← hrest, CStr.length, List.drop_left]
  obtain ⟨rest', rfl⟩ : ∃ rest', rest = c :: rest' := by
    rw [hdrop] at hc
    exact List.head?_eq_some_iff.1 hc
  have hsplit : text.val = (key.val ++ [c]) ++ rest' := by
    rw [htext, ← hrest, List.append_assoc]
    rfl
  have hpass : ∀ b ∈ key.val ++ [c], decide (b ≠ byte '&') = true := by
    intro b hb
    rcases List.mem_append.1 hb with hk | hl
    · exact decide_eq_true fun heq => hamp (heq ▸ hk)
    · rw [List.mem_singleton.1 hl]
      exact decide_eq_true hne
  rw [CStr.upTo, hsplit, List.takeWhile_append_of_pos hpass, List.length_append, CStr.length,
    List.length_append]
  simp

theorem parseHttpRequest2In_of_zero {block : Nat} (hblock : block ≠ 0) (pointer : Nat)
    {m : ParseMem} {request key : CStr}
    (hcode : (parseField printParam m request key).code = some 0) :
    parseHttpRequest2In block pointer m request key =
      { parseField printParam m request key with pointer := block } := by
  rw [parseHttpRequest2In]
  simp only [hcode]
  rw [if_neg hblock]

/-- **The two parsers compute the same function.** With a character behind the key, both return the
same code: 0 and the field behind the first occurrence of the key, or 1, without a change, when
there is none. -/
theorem parsers_deliver (request key : CStr) (hamp : byte '&' ∉ key.val)
    (hsep : Separated request key) (m m₂ : ParseMem) (block pointer : Nat) (hblock : block ≠ 0) :
    ∃ code, (parseHttpRequestIn m request key).code = some code ∧
      (parseHttpRequest2In block pointer m₂ request key).code = some code ∧
      ((code = 0 ∧ ∃ pos, ∃ value : CStr, Search.FirstAt key.val request.val pos ∧
          value.val = fieldFrom request key pos ∧
          HoldsString (parseHttpRequestIn m request key).mem .value value.val ∧
          (parseHttpRequest2In block pointer m₂ request key).pointer = block ∧
          HoldsString (parseHttpRequest2In block pointer m₂ request key).mem .value value.val) ∨
        (code = 1 ∧ (∀ pos, ¬ Search.FirstAt key.val request.val pos) ∧
          (parseHttpRequestIn m request key).mem = m ∧
          (parseHttpRequest2In block pointer m₂ request key).pointer = pointer ∧
          (parseHttpRequest2In block pointer m₂ request key).mem = m₂)) := by
  rw [parseHttpRequestIn]
  cases h : request.strstr key with
  | none =>
    rw [parseHttpRequest2In, parseField_of_none h, parseField_of_none h]
    refine ⟨1, rfl, rfl, .inr ⟨rfl, fun pos hpos => ?_, rfl, rfl, rfl⟩⟩
    exact CStr.has_eq_false_iff.1 (CStr.strstr_eq_none_iff.1 h) hpos.isInfix
  | some text =>
    have hroom := hsep.room hamp h
    obtain ⟨pos, hpos, htext⟩ := Search.firstAt_of_find (CStr.strstr_eq_some_iff.1 h)
    have hfirst := parseField_holds (m := m) delivers_copyParam h hroom
    have hsecond := parseField_holds (m := m₂) delivers_printParam h hroom
    have hfield : (text.upTo (byte '&')).drop (key.length + 1) = fieldFrom request key pos := by
      rw [CStr.upTo, htext, fieldFrom]
    have hcode : ∀ {deliver : ParseMem → Nat → ParseMem} {m : ParseMem},
        (parseField deliver m request key).code = some 0 := by
      intro deliver m
      rw [parseField_of_found h hroom]
    rw [parseHttpRequest2In_of_zero hblock pointer hcode]
    exact ⟨0, hcode, hcode, .inl ⟨rfl, pos, ⟨_, nulFree_field text (key.length + 1)⟩, hpos, hfield,
      hfirst, rfl, hsecond⟩⟩

/-- At the form of a network `home`. -/
theorem parsers_deliver_home :
    let request := lit "ssid=home&password=secret"
    let m : ParseMem := ⟨fun _ => 0, []⟩
    (byte '&' ∉ (lit "ssid").val ∧ Separated request (lit "ssid") ∧ (4096 : Nat) ≠ 0) ∧
      ∃ code, (parseHttpRequestIn m request (lit "ssid")).code = some code ∧
        (parseHttpRequest2In 4096 0 m request (lit "ssid")).code = some code := by
  intro request m
  have hfirst : Search.FirstAt (lit "ssid").val request.val 0 :=
    ⟨by decide +kernel, fun i hi => absurd hi (Nat.not_lt_zero i)⟩
  have hsep : Separated request (lit "ssid") := by
    intro pos hpos
    obtain rfl := hpos.unique hfirst
    exact ⟨byte '=', by decide +kernel, by decide⟩
  have hamp : byte '&' ∉ (lit "ssid").val := by decide
  obtain ⟨code, hone, htwo, -⟩ :=
    parsers_deliver request (lit "ssid") hamp hsep m m 4096 0 (by decide)
  exact ⟨⟨hamp, hsep, by decide⟩, code, hone, htwo⟩

end Esp32Iot
