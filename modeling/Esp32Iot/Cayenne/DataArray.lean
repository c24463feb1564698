import Mathlib.Data.List.Forall2
import Esp32Iot.Cayenne.ParsePayload
import Esp32Iot.Lib.Runs
import Esp32Iot.Mqtt.Decode

/-!
# The data array

`CayenneDataArray.c`: unit and value pairs whose strings are copied into one buffer, each behind
the last one, and whose entries are pointers to the copies. Here a pointer is an index of the
buffer. The lengths are those of strings and of a buffer in the memory of the device, far below
`UINT_MAX`, and natural numbers.

`Keeps` says what the array holds: the entries read back as the pairs that were added, and their
strings lie one behind the other below `bufferIndex`. `dataArray_keeps` says it of every sequence
of calls.
-/

namespace Esp32Iot

/-! ## The source -/

/-- `CayenneDataArray`. -/
structure CayenneDataArray where
  /-- entries from `valueCount` on are left as they are -/
  values : Nat → PairPointers
  valueCount : Nat
  buffer : Memory
  bufferSize : Nat
  bufferIndex : Nat

/-- `CayenneDataArrayInit`. -/
def cayenneDataArrayInit (dataArray : CayenneDataArray) (buffer : Memory) (bufferSize : Nat) :
    CayenneDataArray :=
  { dataArray with
    valueCount := 0
    buffer := buffer
    bufferSize := bufferSize
    bufferIndex := 0 }

/-- `unit ? strlen(unit) + 1 : 0`. -/
def stringSize : Option CStr → Nat
  | none => 0
  | some text => text.length + 1

namespace CayenneDataArray

/-- `buffer + bufferIndex`, or `NULL` if there is no string to copy there. -/
def pointer (dataArray : CayenneDataArray) : Option CStr → Option Nat
  | none => none
  | some _ => some dataArray.bufferIndex

/-- The string with its terminator is copied to `buffer + bufferIndex`. -/
def copy (dataArray : CayenneDataArray) : Option CStr → CayenneDataArray
  | none => dataArray
  | some text =>
    { dataArray with
      buffer := BufWrite.apply ⟨dataArray.bufferIndex, text.val ++ [0]⟩ dataArray.buffer
      bufferIndex := dataArray.bufferIndex + stringSize (some text) }

end CayenneDataArray

/-- `CayenneDataArrayAdd`: its return code, where `none` is `CAYENNE_SUCCESS`, and the array after
it. -/
def cayenneDataArrayAdd (dataArray : CayenneDataArray) (unit value : Option CStr) :
    Option CayenneError × CayenneDataArray :=
  if cayenneMaxMessageValues ≤ dataArray.valueCount then (some .failure, dataArray)
  else if dataArray.bufferSize < dataArray.bufferIndex + stringSize unit + stringSize value then
    (some .failure, dataArray)
  else
    let withUnit := dataArray.copy unit
    let withValue := withUnit.copy value
    (none,
      { withValue with
        values := Function.update dataArray.values dataArray.valueCount
          ⟨dataArray.pointer unit, withUnit.pointer value⟩
        valueCount := dataArray.valueCount + 1 })

/-- `CayenneDataArrayClear`. -/
def cayenneDataArrayClear (dataArray : CayenneDataArray) : CayenneDataArray :=
  { dataArray with
    valueCount := 0
    bufferIndex := 0
    buffer := fun i => if i < dataArray.bufferSize then 0 else dataArray.buffer i }

/-! ## What an array holds -/

namespace CayenneDataArray

/-- A pointer is `NULL` for no string, and else leads to the string and its terminator, which end at
`limit` or before. -/
def Holds (buffer : Memory) (limit : Nat) : Option Nat → Option CStr → Prop
  | none, none => True
  | some p, some text => HasAt buffer p (text.val ++ [0]) ∧ p + stringSize (some text) ≤ limit
  | _, _ => False

/-- The bytes of a string, from the first one to the one behind the terminator. -/
def range : Option Nat → Option CStr → List (Nat × Nat)
  | some p, some text => [(p, p + stringSize (some text))]
  | _, _ => []

/-- The entries that count. -/
def entries (dataArray : CayenneDataArray) : List PairPointers :=
  (List.range dataArray.valueCount).map dataArray.values

/-- The bytes of the strings of the array, entry by entry. -/
def ranges (dataArray : CayenneDataArray) (pairs : List CayenneValuePair) : List (Nat × Nat) :=
  (List.zipWith (fun entry pair => range entry.unit pair.unit ++ range entry.value pair.value)
    dataArray.entries pairs).flatten

/-- The array holds these pairs. -/
structure Keeps (dataArray : CayenneDataArray) (pairs : List CayenneValuePair) : Prop where
  index_le : dataArray.bufferIndex ≤ dataArray.bufferSize
  count_le : dataArray.valueCount ≤ cayenneMaxMessageValues
  /-- each entry reads back as the pair, from bytes below `bufferIndex` -/
  holds : List.Forall₂ (fun entry (pair : CayenneValuePair) =>
    Holds dataArray.buffer dataArray.bufferIndex entry.unit pair.unit ∧
    Holds dataArray.buffer dataArray.bufferIndex entry.value pair.value) dataArray.entries pairs
  /-- no two strings share a byte: each lies behind the ones before it -/
  disjoint : (dataArray.ranges pairs).Pairwise fun r r' => r.2 ≤ r'.1

/-! ## A string is copied -/

section
variable {dataArray : CayenneDataArray} {text : Option CStr}

theorem bufferIndex_copy (dataArray : CayenneDataArray) (text : Option CStr) :
    (dataArray.copy text).bufferIndex = dataArray.bufferIndex + stringSize text := by
  cases text <;> rfl

theorem bufferSize_copy (dataArray : CayenneDataArray) (text : Option CStr) :
    (dataArray.copy text).bufferSize = dataArray.bufferSize := by
  cases text <;> rfl

theorem length_terminated (text : CStr) : (text.val ++ [0]).length = stringSize (some text) := by
  rw [List.length_append]
  rfl

/-- The copy is where the pointer leads. -/
theorem holds_copy (dataArray : CayenneDataArray) (text : Option CStr) :
    Holds (dataArray.copy text).buffer (dataArray.copy text).bufferIndex (dataArray.pointer text)
      text := by
  cases text with
  | none => trivial
  | some text => exact ⟨hasAt_apply .., Nat.le_refl _⟩

/-- **Strings below `bufferIndex`** are not touched by a copy. -/
theorem Holds.copy {p : Option Nat} {held : Option CStr}
    (h : Holds dataArray.buffer dataArray.bufferIndex p held) (text : Option CStr) :
    Holds (dataArray.copy text).buffer (dataArray.copy text).bufferIndex p held := by
  cases text with
  | none => exact h
  | some text =>
    cases p with
    | none =>
      cases held with
      | none => trivial
      | some held => exact h.elim
    | some p =>
      cases held with
      | none => exact h.elim
      | some held =>
        refine ⟨h.1.apply ?_, Nat.le_trans h.2 (Nat.le_add_right _ _)⟩
        rw [length_terminated]
        exact h.2

theorem Holds.range_le {buffer : Memory} {limit : Nat} {p : Option Nat} {held : Option CStr}
    (h : Holds buffer limit p held) : ∀ r ∈ range p held, r.2 ≤ limit := by
  cases p with
  | none => exact fun r hr => absurd hr List.not_mem_nil
  | some p =>
    cases held with
    | none => exact h.elim
    | some held =>
      intro r hr
      rw [List.mem_singleton.1 hr]
      exact h.2

theorem le_range_pointer : ∀ r ∈ range (dataArray.pointer text) text,
    dataArray.bufferIndex ≤ r.1 := by
  cases text with
  | none => exact fun r hr => absurd hr List.not_mem_nil
  | some text =>
    intro r hr
    rw [List.mem_singleton.1 hr]

theorem pairwise_range (p : Option Nat) (held : Option CStr) :
    (range p held).Pairwise fun r r' => r.2 ≤ r'.1 := by
  cases p with
  | none => exact .nil
  | some p =>
    cases held with
    | none => exact .nil
    | some held => exact List.pairwise_singleton _ _

end

/-! ## A pair is added -/

section
variable {dataArray : CayenneDataArray} {pairs : List CayenneValuePair}

/-- The bytes of the strings end before `bufferIndex`. -/
theorem Keeps.range_le (h : dataArray.Keeps pairs) :
    ∀ r ∈ dataArray.ranges pairs, r.2 ≤ dataArray.bufferIndex := by
  have hholds := h.holds
  clear h
  rw [ranges]
  generalize dataArray.entries = entries at hholds
  induction hholds with
  | nil => exact fun r hr => absurd hr List.not_mem_nil
  | @cons entry pair _ _ hpair _ ih =>
    intro r hr
    rw [List.zipWith_cons_cons, List.flatten_cons, List.mem_append, List.mem_append] at hr
    rcases hr with (hunit | hvalue) | hlater
    · exact hpair.1.range_le r hunit
    · exact hpair.2.range_le r hvalue
    · exact ih r hlater

/-- An array that has been set up or cleared. -/
theorem keeps_nil (hcount : dataArray.valueCount = 0) (hindex : dataArray.bufferIndex = 0) :
    dataArray.Keeps [] := by
  have hentries : dataArray.entries = [] := by
    rw [entries, hcount]
    rfl
  refine ⟨hindex ▸ Nat.zero_le _, hcount ▸ Nat.zero_le _, ?_, ?_⟩
  · rw [hentries]
    exact .nil
  · rw [ranges, hentries]
    exact .nil

/-- The array after a pair was added. -/
def added (dataArray : CayenneDataArray) (pair : CayenneValuePair) : CayenneDataArray :=
  { (dataArray.copy pair.unit).copy pair.value with
    values := Function.update dataArray.values dataArray.valueCount
      ⟨dataArray.pointer pair.unit, (dataArray.copy pair.unit).pointer pair.value⟩
    valueCount := dataArray.valueCount + 1 }

/-- **One call**: it fails and changes nothing, or there is room and the pair is added. -/
theorem add_cases (dataArray : CayenneDataArray) (unit value : Option CStr) :
    cayenneDataArrayAdd dataArray unit value = (some .failure, dataArray) ∨
    (dataArray.valueCount < cayenneMaxMessageValues ∧
      dataArray.bufferIndex + stringSize unit + stringSize value ≤ dataArray.bufferSize ∧
      cayenneDataArrayAdd dataArray unit value = (none, dataArray.added ⟨unit, value⟩)) := by
  rw [cayenneDataArrayAdd]
  split
  next => exact .inl rfl
  next hcount =>
    split
    next => exact .inl rfl
    next hroom => exact .inr ⟨Nat.lt_of_not_le hcount, Nat.not_lt.1 hroom, rfl⟩

/-- The new entry is the last one. -/
theorem entries_added (dataArray : CayenneDataArray) (pair : CayenneValuePair) :
    (dataArray.added pair).entries = dataArray.entries ++
      [⟨dataArray.pointer pair.unit, (dataArray.copy pair.unit).pointer pair.value⟩] := by
  have hbefore : ∀ i ∈ List.range dataArray.valueCount,
      (dataArray.added pair).values i = dataArray.values i := by
    intro i hi
    exact Function.update_of_ne (Nat.ne_of_lt (List.mem_range.1 hi)) ..
  have hlast : (dataArray.added pair).values dataArray.valueCount =
      ⟨dataArray.pointer pair.unit, (dataArray.copy pair.unit).pointer pair.value⟩ :=
    Function.update_self ..
  show (List.range (dataArray.valueCount + 1)).map _ = _
  rw [List.range_succ, List.map_append, List.map_congr_left hbefore, List.map_singleton, hlast]
  rfl

/-- **An added pair is kept**, and so are the ones before it. -/
theorem Keeps.add (h : dataArray.Keeps pairs) {pair : CayenneValuePair}
    (hcount : dataArray.valueCount < cayenneMaxMessageValues)
    (hroom : dataArray.bufferIndex + stringSize pair.unit + stringSize pair.value ≤
      dataArray.bufferSize) :
    (dataArray.added pair).Keeps (pairs ++ [pair]) := by
  have hunit := holds_copy dataArray pair.unit
  have hvalue := holds_copy (dataArray.copy pair.unit) pair.value
  refine ⟨?_, hcount, ?_, ?_⟩
  · show ((dataArray.copy pair.unit).copy pair.value).bufferIndex ≤
      ((dataArray.copy pair.unit).copy pair.value).bufferSize
    rwa [bufferIndex_copy, bufferIndex_copy, bufferSize_copy, bufferSize_copy]
  · rw [entries_added]
    refine List.rel_append (h.holds.imp ?_) (.cons ⟨hunit.copy pair.value, hvalue⟩ .nil)
    intro entry held hentry
    exact ⟨(hentry.1.copy pair.unit).copy pair.value, (hentry.2.copy pair.unit).copy pair.value⟩
  · have hranges : (dataArray.added pair).ranges (pairs ++ [pair]) = dataArray.ranges pairs ++
        (range (dataArray.pointer pair.unit) pair.unit ++
          range ((dataArray.copy pair.unit).pointer pair.value) pair.value) := by
      rw [ranges, ranges, entries_added, List.zipWith_append h.holds.length_eq,
        List.flatten_append, List.zipWith_cons_cons, List.zipWith_nil_left, List.flatten_singleton]
    rw [hranges, List.pairwise_append, List.pairwise_append]
    refine ⟨h.disjoint, ⟨pairwise_range .., pairwise_range .., ?_⟩, ?_⟩
    · intro r hr r' hr'
      exact Nat.le_trans (hunit.range_le r hr) (le_range_pointer r' hr')
    · intro r hr r' hr'
      have hbelow := h.range_le r hr
      rcases List.mem_append.1 hr' with hr' | hr'
      · exact Nat.le_trans hbelow (le_range_pointer r' hr')
      · have hlater := le_range_pointer r' hr'
        rw [bufferIndex_copy] at hlater
        omega

end

end CayenneDataArray

/-! ## Sequences of calls -/

/-- A call on an array that is set up. -/
inductive DataArrayCall
  /-- `CayenneDataArrayAdd` -/
  | add (unit value : Option CStr)
  /-- `CayenneDataArrayClear` -/
  | clear
  deriving DecidableEq

namespace DataArrayCall

/-- The call and its return code, and the array after it. -/
def step (dataArray : CayenneDataArray) (call : DataArrayCall) :
    Option ((DataArrayCall × Option CayenneError) × CayenneDataArray) :=
  match call with
  | add unit value =>
      some ((add unit value, (cayenneDataArrayAdd dataArray unit value).1),
        (cayenneDataArrayAdd dataArray unit value).2)
  | clear => some ((clear, none), cayenneDataArrayClear dataArray)

/-- The pairs of the calls that succeeded since the last `CayenneDataArrayClear`. -/
def kept (calls : List (DataArrayCall × Option CayenneError)) : List CayenneValuePair :=
  calls.foldl (fun pairs call =>
    match call with
    | (add unit value, none) => pairs ++ [⟨unit, value⟩]
    | (add _ _, some _) => pairs
    | (clear, _) => []) []

theorem kept_add_none (calls : List (DataArrayCall × Option CayenneError))
    (unit value : Option CStr) :
    kept (calls ++ [(add unit value, none)]) = kept calls ++ [⟨unit, value⟩] := by
  rw [kept, List.foldl_append]
  rfl

theorem kept_add_some (calls : List (DataArrayCall × Option CayenneError))
    (unit value : Option CStr) (e : CayenneError) :
    kept (calls ++ [(add unit value, some e)]) = kept calls := by
  rw [kept, List.foldl_append]
  rfl

theorem kept_clear (calls : List (DataArrayCall × Option CayenneError)) :
    kept (calls ++ [(clear, none)]) = [] := by
  rw [kept, List.foldl_append]
  rfl

/-- One call keeps what the calls before it have left. -/
theorem step_keeps {calls : List (DataArrayCall × Option CayenneError)}
    {dataArray after : CayenneDataArray} {call : DataArrayCall}
    {report : DataArrayCall × Option CayenneError} (h : dataArray.Keeps (kept calls))
    (hstep : step dataArray call = some (report, after)) :
    after.Keeps (kept (calls ++ [report])) := by
  cases call with
  | clear =>
    cases hstep
    rw [kept_clear]
    exact CayenneDataArray.keeps_nil rfl rfl
  | add unit value =>
    rcases CayenneDataArray.add_cases dataArray unit value with hadd | ⟨hcount, hroom, hadd⟩
    · rw [step, hadd] at hstep
      cases hstep
      rw [kept_add_some]
      exact h
    · rw [step, hadd] at hstep
      cases hstep
      rw [kept_add_none]
      exact h.add hcount hroom

end DataArrayCall

open DataArrayCall

/-- **The data array keeps what was added**: after `CayenneDataArrayInit` or
`CayenneDataArrayClear`, whatever calls follow, the entries are those of the calls that succeeded,
and a call that fails changes nothing. -/
theorem dataArray_keeps {start : CayenneDataArray}
    (hstart : (∃ dataArray buffer bufferSize,
        start = cayenneDataArrayInit dataArray buffer bufferSize) ∨
      ∃ dataArray, start = cayenneDataArrayClear dataArray)
    (calls : List DataArrayCall) :
    ∃ reports dataArray, Runs.exec step start calls = some (reports, dataArray) ∧
      dataArray.Keeps (kept reports) ∧
      ∀ unit value, (cayenneDataArrayAdd dataArray unit value).1 ≠ none →
        (cayenneDataArrayAdd dataArray unit value).2 = dataArray := by
  have htotal : ∀ dataArray call, (step dataArray call).isSome := by
    intro dataArray call
    cases call <;> rfl
  have hempty : start.Keeps (kept []) := by
    rcases hstart with ⟨dataArray, buffer, bufferSize, rfl⟩ | ⟨dataArray, rfl⟩
    · exact CayenneDataArray.keeps_nil rfl rfl
    · exact CayenneDataArray.keeps_nil rfl rfl
  have hkeep : ∀ reports dataArray call report after, dataArray.Keeps (kept reports) → True →
      step dataArray call = some (report, after) → after.Keeps (kept (reports ++ [report])) :=
    fun _ _ _ _ _ h _ hstep => step_keeps h hstep
  obtain ⟨reports, dataArray, hrun⟩ := Runs.exec_of_total htotal start calls
  refine ⟨reports, dataArray, hrun, ?_, ?_⟩
  · exact Runs.exec_history hkeep hempty (Runs.along_of_forall fun _ _ => trivial) hrun
  · intro unit value hcode
    rcases CayenneDataArray.add_cases dataArray unit value with hadd | ⟨-, -, hadd⟩
    · rw [hadd]
    · rw [hadd] at hcode
      exact absurd rfl hcode

/-- An array whose fields hold anything. -/
def staleArray : CayenneDataArray where
  values := fun i => ⟨some i, some 9⟩
  valueCount := 7
  buffer := fun _ => 7
  bufferSize := 0
  bufferIndex := 3

/-- Two pairs are kept in a buffer of eight bytes, and a third one is refused. -/
theorem dataArray_keeps_two :
    ∃ reports dataArray,
      Runs.exec step (cayenneDataArrayInit staleArray (fun _ => 7) 8)
        [.add (some (CStr.lit "c")) (some (CStr.lit "21")), .add none (some (CStr.lit "4")),
          .add (some (CStr.lit "p")) none] = some (reports, dataArray) ∧
      kept reports = [⟨some (CStr.lit "c"), some (CStr.lit "21")⟩, ⟨none, some (CStr.lit "4")⟩] ∧
      dataArray.Keeps (kept reports) := by
  obtain ⟨reports, dataArray, hrun, hkeeps, -⟩ := dataArray_keeps (.inl ⟨staleArray, _, 8, rfl⟩)
    [.add (some (CStr.lit "c")) (some (CStr.lit "21")), .add none (some (CStr.lit "4")),
      .add (some (CStr.lit "p")) none]
  refine ⟨reports, dataArray, hrun, ?_, hkeeps⟩
  have hreports := congrArg (Option.map Prod.fst) hrun
  have hfirst : (Runs.exec step (cayenneDataArrayInit staleArray (fun _ => 7) 8)
      [.add (some (CStr.lit "c")) (some (CStr.lit "21")), .add none (some (CStr.lit "4")),
        .add (some (CStr.lit "p")) none]).map Prod.fst =
      some [(.add (some (CStr.lit "c")) (some (CStr.lit "21")), none),
        (.add none (some (CStr.lit "4")), none),
        (.add (some (CStr.lit "p")) none, some .failure)] := by
    decide +kernel
  rw [hfirst] at hreports
  cases hreports
  rfl

end Esp32Iot
