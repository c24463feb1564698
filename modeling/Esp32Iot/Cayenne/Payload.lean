import Mathlib.Algebra.GroupWithZero.Nat
import Esp32Iot.Cayenne.Topic
import Esp32Iot.Mqtt.Decode

/-!
# The length of a payload

`CayenneBuildDataPayload` adds up the length of its payload in one loop, with one character more for
each string, and writes the payload in two others. `payloadText` is the string these put together,
in memory of any size, and `length_payloadText` compares it with the sum: they differ by the
separators that are written, the strings that are counted, and the values behind a missing one,
which are counted but not written.

`payload_length_iff` says for which types and pairs the returned length is that of the string. It is
so when every pair has a unit and a value; but a missing value behind others, a type or first unit
that is empty, or no string at all make it wrong, and the first and the last of these can write
behind the buffer.
-/

namespace Esp32Iot

open CStr (lit empty)

/-! ## The string -/

/-- What a pair adds to the units. -/
def unitText (type : Option CStr) (pair : CayenneValuePair) : CStr :=
  match pair.unit, type with
  | some unit, _ => unit
  | none, some _ => unitUndefined
  | none, none => empty

/-- The loop over the units. -/
def unitsText (type : Option CStr) : CStr → List CayenneValuePair → CStr
  | payload, [] => payload
  | payload, pair :: pairs =>
      unitsText type
        ((if payload.nonEmpty then payload ++ lit "," else payload) ++ unitText type pair) pairs

/-- The loop over the values. -/
def valuesText : CStr → List CayenneValuePair → CStr
  | payload, [] => payload
  | payload, pair :: pairs =>
      match pair.value with
      | none => payload
      | some value =>
          valuesText (if pairs.isEmpty then payload ++ value else payload ++ value ++ lit ",") pairs

/-- The first value is there. -/
def firstValue (values : List CayenneValuePair) : Bool :=
  (values.head?.bind CayenneValuePair.value).isSome

/-- The string that `CayenneBuildDataPayload` writes. -/
def payloadText (type : Option CStr) (values : List CayenneValuePair) : CStr :=
  let units := unitsText type (type.getD empty) values
  valuesText (if units.nonEmpty && firstValue values then units ++ lit "=" else units) values

/-- `payloadLength` before it is decremented, without overflow. -/
def predictedLength (type : Option CStr) (values : List CayenneValuePair) : Nat :=
  values.foldr (fun pair n => pair.payloadLength type + n) 0 +
    (match type with
      | some type => type.length + 1
      | none => 0)

/-! ## The string in its buffer -/

/-- A string in a region of the given size. -/
def fit (size : Nat) (s : CStr) : Option CStr := if s.length < size then some s else none

theorem fit_of_lt {size : Nat} {s : CStr} (h : s.length < size) : fit size s = some s := if_pos h

theorem strcat_eq_fit (size : Nat) (s t : CStr) : CStr.strcat size s t = fit size (s ++ t) := by
  rw [CStr.strcat, fit, CStr.length_append]

/-- A string that only grows is in the region at the end when it is there all the time. -/
theorem fit_bind_map {α : Type} {size : Nat} {s t : CStr} (g : CStr → α) {f : CStr → Option α}
    (hle : s.length ≤ t.length) (hf : s.length < size → f s = (fit size t).map g) :
    (fit size s).bind f = (fit size t).map g := by
  rw [fit]
  split
  next h => exact hf h
  next h => rw [fit, if_neg (by omega)]; rfl

theorem fit_bind {size : Nat} {s t : CStr} {f : CStr → Option CStr} (hle : s.length ≤ t.length)
    (hf : s.length < size → f s = fit size t) : (fit size s).bind f = fit size t := by
  simpa using fit_bind_map id hle (by simpa using hf)

/-- A conditional `strcat`. -/
theorem strcat_if (size : Nat) (c : Bool) {s : CStr} (t : CStr) (hs : s.length < size) :
    (if c then CStr.strcat size s t else some s) = fit size (if c then s ++ t else s) := by
  cases c with
  | false => exact (fit_of_lt hs).symm
  | true => simp only [if_true, strcat_eq_fit]

theorem le_append_if (c : Bool) (s t : CStr) : s.length ≤ (if c then s ++ t else s).length := by
  cases c with
  | false => exact Nat.le_refl _
  | true => simp

theorem le_unitsText (type : Option CStr) (payload : CStr) (values : List CayenneValuePair) :
    payload.length ≤ (unitsText type payload values).length := by
  induction values generalizing payload with
  | nil => exact Nat.le_refl _
  | cons pair pairs ih =>
    refine Nat.le_trans (le_append_if payload.nonEmpty payload (lit ",")) (Nat.le_trans ?_ (ih _))
    rw [CStr.length_append]
    exact Nat.le_add_right _ _

theorem le_valuesText (payload : CStr) (values : List CayenneValuePair) :
    payload.length ≤ (valuesText payload values).length := by
  induction values generalizing payload with
  | nil => exact Nat.le_refl _
  | cons pair pairs ih =>
    rw [valuesText]
    split
    next => exact Nat.le_refl _
    next value _ =>
      refine Nat.le_trans ?_ (ih _)
      split <;> simp only [CStr.length_append] <;> omega

/-- The loop over the units stays in its region when the string does. -/
theorem catUnits_eq {size : Nat} (type : Option CStr) {payload : CStr}
    (hpayload : payload.length < size) (values : List CayenneValuePair) :
    catUnits size type payload values = fit size (unitsText type payload values) := by
  induction values generalizing payload with
  | nil => exact (fit_of_lt hpayload).symm
  | cons pair pairs ih =>
    rw [catUnits, strcat_if size payload.nonEmpty (lit ",") hpayload, unitsText]
    generalize (if payload.nonEmpty then payload ++ lit "," else payload) = payload'
    have hgrows := le_unitsText type (payload' ++ unitText type pair) pairs
    refine fit_bind (Nat.le_trans (by simp) hgrows) fun hfits => ?_
    -- the `strcat` of the unit, whichever it is
    refine Eq.trans (congrArg (Option.bind · _) ?_) (fit_bind hgrows fun hfits => ih hfits)
    obtain ⟨unit, value⟩ := pair
    cases unit with
    | some unit => exact strcat_eq_fit ..
    | none =>
      cases type with
      | some type => exact strcat_eq_fit ..
      | none =>
        show some payload' = fit size (payload' ++ empty)
        rw [CStr.append_empty, fit_of_lt hfits]

/-- So does the loop over the values. -/
theorem catValues_eq {size : Nat} {payload : CStr} (hpayload : payload.length < size)
    (values : List CayenneValuePair) :
    catValues size payload values = fit size (valuesText payload values) := by
  induction values generalizing payload with
  | nil => exact (fit_of_lt hpayload).symm
  | cons pair pairs ih =>
    obtain ⟨unit, value⟩ := pair
    cases value with
    | none => exact (fit_of_lt hpayload).symm
    | some value =>
      have hgrows := le_valuesText
        (if pairs.isEmpty then payload ++ value else payload ++ value ++ lit ",") pairs
      have hvalue : (payload ++ value).length ≤
          (if pairs.isEmpty then payload ++ value else payload ++ value ++ lit ",").length := by
        split <;> simp only [CStr.length_append] <;> omega
      show (CStr.strcat size payload value).bind _ = fit size (valuesText _ pairs)
      rw [strcat_eq_fit]
      refine fit_bind (s := payload ++ value) (Nat.le_trans hvalue hgrows) fun hfits => ?_
      have hcomma : (if pairs.isEmpty then some (payload ++ value)
          else CStr.strcat size (payload ++ value) (lit ",")) =
          fit size (if pairs.isEmpty then payload ++ value else payload ++ value ++ lit ",") := by
        split
        · exact (fit_of_lt hfits).symm
        · exact strcat_eq_fit ..
      rw [hcomma]
      exact fit_bind hgrows fun hfits => ih hfits

/-- **The payload in its buffer**: it is refused by the predicted length, and otherwise written,
possibly behind the end. -/
theorem cayenneBuildDataPayload_eq (length : Nat) (type : Option CStr)
    (values : List CayenneValuePair) :
    cayenneBuildDataPayload length type values =
      if length < predictedLength type values then some (.error .bufferOverflow)
      else (fit length (payloadText type values)).map fun payload =>
        .ok (payload, (predictedLength type values + 4294967295) % 4294967296) := by
  unfold cayenneBuildDataPayload
  show (if length < predictedLength type values then _ else _) = _
  split
  next => rfl
  next hcheck =>
    split
    next hzero => rw [hzero, fit, if_neg (Nat.not_lt_zero _)]; rfl
    next hzero =>
      have hpos : empty.length < length := Nat.pos_of_ne_zero hzero
      have htype : CStr.strcatAll length empty type.toList = fit length (type.getD empty) := by
        cases type with
        | none => exact (fit_of_lt hpos).symm
        | some type =>
          rw [Option.toList_some, CStr.strcatAll, strcat_eq_fit]
          exact Option.bind_fun_some _
      rw [htype]
      refine fit_bind_map _ (Nat.le_trans ?_ (le_valuesText _ values)) fun hfits => ?_
      · exact Nat.le_trans (le_unitsText type _ values) (le_append_if _ _ _)
      rw [catUnits_eq type hfits]
      refine fit_bind_map _ (Nat.le_trans (le_append_if _ _ _) (le_valuesText _ values))
        fun hfits => ?_
      rw [strcat_if length _ (lit "=") hfits]
      refine fit_bind_map _ (le_valuesText _ values) fun hfits => ?_
      rw [catValues_eq hfits]
      rfl

/-- **The payload of one value** is built exactly when it fits with its terminator. -/
theorem cayenneBuildDataPayload_single {length : Nat} (hsmall : length < 4294967296) {type : CStr}
    (htype : type.nonEmpty = true) (unit value : CStr) :
    cayenneBuildDataPayload length (some type) [⟨some unit, some value⟩] =
      if (dataPayload type unit value).length < length then
        some (.ok (dataPayload type unit value, (dataPayload type unit value).length))
      else some (.error .bufferOverflow) := by
  have htotal : predictedLength (some type) [⟨some unit, some value⟩] =
      (dataPayload type unit value).length + 1 := by
    simp only [predictedLength, List.foldr_cons, List.foldr_nil, CayenneValuePair.payloadLength,
      dataPayload_length]
    omega
  have hne : (type ++ (lit "," ++ unit)).nonEmpty = true := by
    rw [CStr.nonEmpty_iff] at htype ⊢
    exact List.append_ne_nil_of_left_ne_nil htype _
  have htext : payloadText (some type) [⟨some unit, some value⟩] = dataPayload type unit value := by
    simp [payloadText, unitsText, unitText, valuesText, firstValue, htype, hne, dataPayload,
      CStr.concat]
  rw [cayenneBuildDataPayload_eq, htotal, htext, fit]
  split
  next h => rw [if_neg (by omega)]
  next h =>
    rw [if_pos (by omega), if_pos (by omega), Nat.add_assoc, Nat.add_mod_right,
      Nat.mod_eq_of_lt (by omega)]
    rfl

/-! ## Counting -/

/-- The length of a value that is there. -/
def valueLength (pair : CayenneValuePair) : Nat := (pair.value.map CStr.length).getD 0

/-- The pairs at the front that add nothing to the units. -/
def leadingBlanks (type : Option CStr) (values : List CayenneValuePair) : Nat :=
  (values.takeWhile fun pair => !(unitText type pair).nonEmpty).length

/-- The commas before units: one for each pair behind a type, and otherwise for each pair behind the
first unit that is not empty. -/
def unitCommas (type : Option CStr) (values : List CayenneValuePair) : Nat :=
  if (type.getD empty).nonEmpty then values.length
  else values.length - leadingBlanks type values - 1

/-- The character between units and values. -/
def equalsSigns (type : Option CStr) (values : List CayenneValuePair) : Nat :=
  if ((type.getD empty).nonEmpty || values.any fun pair => (unitText type pair).nonEmpty) &&
    firstValue values then 1 else 0

/-- The commas behind values: the loop ends at a missing value, and the last pair has none. -/
def valueCommas (values : List CayenneValuePair) : Nat :=
  min (values.takeWhile (·.value.isSome)).length (values.length - 1)

/-- The separators that are written. -/
def separators (type : Option CStr) (values : List CayenneValuePair) : Nat :=
  unitCommas type values + equalsSigns type values + valueCommas values

/-- The strings that are counted with one separator each: the type, the units with those that the
type makes up for, and the values. -/
def countedStrings (type : Option CStr) (values : List CayenneValuePair) : Nat :=
  (if type.isSome then 1 else 0) + values.countP (fun pair => pair.unit.isSome || type.isSome) +
    values.countP (·.value.isSome)

/-- The length of the values behind a missing one, which are not written. -/
def lostLength (values : List CayenneValuePair) : Nat :=
  ((values.dropWhile (·.value.isSome)).map valueLength).sum

theorem nonEmpty_append (s t : CStr) : (s ++ t).nonEmpty = (s.nonEmpty || t.nonEmpty) := by
  rw [Bool.eq_iff_iff, Bool.or_eq_true, CStr.nonEmpty_iff, CStr.nonEmpty_iff, CStr.nonEmpty_iff,
    CStr.append_val, ne_eq, List.append_eq_nil_iff, not_and_or]

/-- The length of the type and the units. -/
theorem length_unitsText (type : Option CStr) (payload : CStr) (values : List CayenneValuePair) :
    (unitsText type payload values).length =
      payload.length + (values.map fun pair => (unitText type pair).length).sum +
        if payload.nonEmpty then values.length
        else values.length - leadingBlanks type values - 1 := by
  have hcomma : (lit ",").length = 1 := rfl
  induction values generalizing payload with
  | nil => simp [unitsText]
  | cons pair pairs ih =>
    rw [unitsText, ih]
    cases hpayload : payload.nonEmpty with
    | true =>
      have hnext : (payload ++ lit "," ++ unitText type pair).nonEmpty = true := by
        rw [nonEmpty_append, nonEmpty_append, hpayload]
        rfl
      simp only [if_true, hnext, List.map_cons, List.sum_cons, List.length_cons,
        CStr.length_append, hcomma]
      omega
    | false =>
      simp only [Bool.false_eq_true, if_false, nonEmpty_append, hpayload, Bool.false_or,
        List.map_cons, List.sum_cons, List.length_cons, CStr.length_append]
      cases hunit : (unitText type pair).nonEmpty with
      | true => simp [leadingBlanks, hunit]; omega
      | false => simp [leadingBlanks, hunit]; omega

/-- There is something before the values. -/
theorem nonEmpty_unitsText (type : Option CStr) (payload : CStr)
    (values : List CayenneValuePair) :
    (unitsText type payload values).nonEmpty =
      (payload.nonEmpty || values.any fun pair => (unitText type pair).nonEmpty) := by
  induction values generalizing payload with
  | nil => simp [unitsText]
  | cons pair pairs ih =>
    rw [unitsText, ih, nonEmpty_append, List.any_cons]
    cases hpayload : payload.nonEmpty with
    | true => simp [nonEmpty_append, hpayload]
    | false => simp [hpayload]

/-- The length of the values that are written. -/
theorem length_valuesText (payload : CStr) (values : List CayenneValuePair) :
    (valuesText payload values).length =
      payload.length + ((values.takeWhile (·.value.isSome)).map valueLength).sum +
        valueCommas values := by
  have hcomma : (lit ",").length = 1 := rfl
  induction values generalizing payload with
  | nil => simp [valuesText, valueCommas]
  | cons pair pairs ih =>
    obtain ⟨unit, value⟩ := pair
    cases value with
    | none => simp [valuesText, valueCommas]
    | some value =>
      rw [valuesText, ih]
      cases pairs with
      | nil => simp [valueCommas, valueLength]
      | cons pair pairs =>
        simp only [List.isEmpty_cons, Bool.false_eq_true, if_false, CStr.length_append, hcomma,
          valueCommas, List.takeWhile_cons_of_pos, Option.isSome_some, List.map_cons,
          List.sum_cons, List.length_cons, valueLength, Option.map_some, Option.getD_some]
        omega

/-- What is predicted for one pair. -/
theorem payloadLength_eq (type : Option CStr) (pair : CayenneValuePair) :
    pair.payloadLength type = (unitText type pair).length + valueLength pair +
      (if pair.unit.isSome || type.isSome then 1 else 0) + if pair.value.isSome then 1 else 0 := by
  obtain ⟨unit, value⟩ := pair
  cases unit <;> cases type <;> cases value <;>
    simp [CayenneValuePair.payloadLength, unitText, valueLength] <;> omega

/-- The sum that is predicted. -/
theorem predictedLength_eq (type : Option CStr) (values : List CayenneValuePair) :
    predictedLength type values =
      (type.getD empty).length + (values.map fun pair => (unitText type pair).length).sum +
        (values.map valueLength).sum + countedStrings type values := by
  have htype : predictedLength type values =
      values.foldr (fun pair n => pair.payloadLength type + n) 0 +
        ((type.getD empty).length + if type.isSome then 1 else 0) := by
    cases type <;> rfl
  rw [htype, countedStrings]
  clear htype
  induction values with
  | nil => simp
  | cons pair pairs ih =>
    rw [List.foldr_cons, payloadLength_eq]
    simp only [List.map_cons, List.sum_cons, List.countP_cons]
    omega

/-- The values that are written, and those that are not. -/
theorem written_add_lost (values : List CayenneValuePair) :
    ((values.takeWhile (·.value.isSome)).map valueLength).sum + lostLength values =
      (values.map valueLength).sum := by
  rw [lostLength, ← List.sum_append, ← List.map_append, List.takeWhile_append_dropWhile]

/-- **The string and the prediction**: the prediction has a separator for each string it counts, and
the string does not have the values behind a missing one. -/
theorem length_payloadText (type : Option CStr) (values : List CayenneValuePair) :
    (payloadText type values).length + countedStrings type values + lostLength values =
      predictedLength type values + separators type values := by
  have hvalues := written_add_lost values
  have hequals : ∀ (c : Bool) (s : CStr), (if c then s ++ lit "=" else s).length =
      s.length + if c then 1 else 0 := by
    intro c s
    cases c <;> simp
    rfl
  rw [payloadText, length_valuesText, predictedLength_eq, separators, hequals, length_unitsText,
    nonEmpty_unitsText, unitCommas, equalsSigns]
  omega

/-! ## The call -/

/-- A call of `CayenneBuildDataPayload`: its return code, where `none` is `CAYENNE_SUCCESS`, the
memory from `payload` on and `*length` after it. -/
structure PayloadCall where
  code : Option CayenneError
  memory : Memory
  length : UInt32

/-- `CayenneBuildDataPayload` in memory that may go on behind the buffer. -/
def payloadCall (memory : Memory) (length : UInt32) (type : Option CStr)
    (values : List CayenneValuePair) : PayloadCall :=
  let payloadLength := UInt32.ofNat (predictedLength type values)
  if length < payloadLength then ⟨some .bufferOverflow, memory, length⟩
  else ⟨none, BufWrite.apply ⟨0, (payloadText type values).val ++ [0]⟩ memory, payloadLength - 1⟩

/-- The string that starts in memory at the payload. -/
def PayloadIs (memory : Memory) (s : CStr) : Prop := HasAt memory 0 (s.val ++ [0])

/-- A payload that was built fits its buffer with the terminator, and `*length` is its length; a
payload that is refused leaves both as they were. -/
structure LengthExact (memory : Memory) (length : UInt32) (type : Option CStr)
    (values : List CayenneValuePair) : Prop where
  success : (payloadCall memory length type values).code = none →
    ∃ s, PayloadIs (payloadCall memory length type values).memory s ∧
      s.length + 1 ≤ length.toNat ∧
      (payloadCall memory length type values).length.toNat = s.length
  overflow : (payloadCall memory length type values).code = some .bufferOverflow →
    (payloadCall memory length type values).memory = memory ∧
      (payloadCall memory length type values).length = length

/-- A string in memory ends at its first terminator. -/
theorem PayloadIs.unique {memory : Memory} {s t : CStr} (hs : PayloadIs memory s)
    (ht : PayloadIs memory t) : s = t := by
  have hval : ∀ {as bs : Bytes} {pos : Nat}, (0 : UInt8) ∉ as → (0 : UInt8) ∉ bs →
      HasAt memory pos (as ++ [0]) → HasAt memory pos (bs ++ [0]) → as = bs := by
    intro as
    induction as with
    | nil =>
      intro bs pos _ hbs has hbs'
      cases bs with
      | nil => rfl
      | cons b bs => exact absurd (.head _) (has.1.symm.trans hbs'.1 ▸ hbs)
    | cons a as ih =>
      intro bs pos hnas hbs has hbs'
      cases bs with
      | nil => exact absurd (.head _) (hbs'.1.symm.trans has.1 ▸ hnas)
      | cons b bs =>
        obtain rfl : a = b := has.1.symm.trans hbs'.1
        rw [ih (fun h => hnas (.tail _ h)) (fun h => hbs (.tail _ h)) has.2 hbs'.2]
  exact CStr.ext (hval s.nulFree t.nulFree hs ht)

/-- The payload is refused, or it has one separator less than strings are counted, where each
character of a value that is not written makes up for one. Strings that lie on top of each other
can add up to more than a `size_t` holds; then this is so modulo 2³², and the string has to fit. -/
def CountsAgree (length : UInt32) (type : Option CStr) (values : List CayenneValuePair) : Prop :=
  length.toNat < predictedLength type values % 4294967296 ∨
    if predictedLength type values < 4294967296 then
      separators type values + 1 = countedStrings type values + lostLength values
    else
      predictedLength type values + separators type values <
          length.toNat + countedStrings type values + lostLength values ∧
        (separators type values + 1) % 4294967296 =
          (countedStrings type values + lostLength values) % 4294967296

/-- The length of the string decides, when it was not refused. -/
theorem lengthExact_iff (memory : Memory) (length : UInt32) (type : Option CStr)
    (values : List CayenneValuePair) :
    LengthExact memory length type values ↔
      length.toNat < predictedLength type values % 4294967296 ∨
        (payloadText type values).length + 1 ≤ length.toNat ∧
          (predictedLength type values + 4294967295) % 4294967296 =
            (payloadText type values).length := by
  have hpredicted : (UInt32.ofNat (predictedLength type values)).toNat =
      predictedLength type values % 4294967296 := UInt32.toNat_ofNat'
  by_cases hover : length < UInt32.ofNat (predictedLength type values)
  · have hcall : payloadCall memory length type values = ⟨some .bufferOverflow, memory, length⟩ :=
      if_pos hover
    rw [UInt32.lt_iff_toNat_lt, hpredicted] at hover
    refine iff_of_true ⟨fun h => ?_, fun _ => ?_⟩ (.inl hover)
    · rw [hcall] at h
      cases h
    · rw [hcall]
      exact ⟨rfl, rfl⟩
  · have hcall : payloadCall memory length type values =
        ⟨none, BufWrite.apply ⟨0, (payloadText type values).val ++ [0]⟩ memory,
          UInt32.ofNat (predictedLength type values) - 1⟩ := if_neg hover
    have hlength : (UInt32.ofNat (predictedLength type values) - 1).toNat =
        (predictedLength type values + 4294967295) % 4294967296 := by
      rw [UInt32.toNat_sub, hpredicted]
      show (4294967296 - 1 + predictedLength type values % 4294967296) % 4294967296 = _
      omega
    have hholds : PayloadIs (payloadCall memory length type values).memory
        (payloadText type values) := by
      rw [hcall]
      exact hasAt_apply memory 0 _
    rw [UInt32.lt_iff_toNat_lt, hpredicted] at hover
    constructor
    · intro h
      obtain ⟨s, hs, hfits, hsame⟩ := h.success (by rw [hcall])
      obtain rfl := hs.unique hholds
      rw [hcall] at hsame
      exact .inr ⟨hfits, hlength ▸ hsame⟩
    · rintro (hover' | ⟨hfits, hsame⟩)
      · exact absurd hover' hover
      · refine ⟨fun _ => ⟨_, hholds, hfits, ?_⟩, fun h => ?_⟩
        · rw [hcall]
          exact hlength.trans hsame
        · rw [hcall] at h
          cases h

/-- **The predicted length is the real one** exactly when the counts agree. -/
theorem payload_length_iff (memory : Memory) (length : UInt32) (type : Option CStr)
    (values : List CayenneValuePair) :
    LengthExact memory length type values ↔ CountsAgree length type values := by
  have htext := length_payloadText type values
  have hsize := length.toNat_lt
  rw [lengthExact_iff, CountsAgree]
  refine or_congr_right' fun hover => ?_
  split
  next hsmall => omega
  next hlarge => omega

/-- A value that is missing behind another: the payload `temp,c,c=1,` in a buffer of eleven
bytes. -/
theorem missing_value_overruns :
    ¬ ∀ (memory : Memory) (length : UInt32) (type : Option CStr)
      (values : List CayenneValuePair), LengthExact memory length type values := by
  intro h
  have hexact := h (fun _ => 0) 11 (some (lit "temp"))
    [⟨some (lit "c"), some (lit "1")⟩, ⟨some (lit "c"), none⟩]
  rw [lengthExact_iff] at hexact
  exact absurd hexact (by decide +kernel)

end Esp32Iot
