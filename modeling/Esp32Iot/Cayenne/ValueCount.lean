import Esp32Iot.Cayenne.ParsePayload

/-!
# The values that a parsed payload claims

With `PARSE_INFO_PAYLOADS` a data payload is counted before it is split: `getValueCount` counts a
value at the token and at each comma or further token behind it, and returns the count without a
look at the array, while `parsePayload` stores a value at the first token and at commas only, as far
as there are entries.

`values_claimed_iff` says for which payloads the count is that of the values: the count must fit the
array, and there must be no second token.
-/

namespace Esp32Iot

/-! ## Stores -/

/-- The indices of the array that the loop of `parsePayload` stores to. -/
def splitStores (token : UInt8) (count valuesSize : Nat) : Bytes → Bool → Nat → List Nat
  | [], _, _ => []
  | a :: rest, parsingValues, valueIndex =>
    if a = 44 then
      (if valueIndex < valuesSize then [valueIndex] else []) ++
        if token = 0 then []
        else splitStores token count valuesSize rest parsingValues (valueIndex + 1)
    else if a = token ∧ parsingValues = false then
      -- this store is not guarded
      0 :: if count = 1 then [] else splitStores token count valuesSize rest true 1
    else splitStores token count valuesSize rest parsingValues valueIndex

/-- The indices that `CayenneParsePayload` stores to: all entries at first, the first one again in
`parsePayload` and for a payload that is handed on as it is. -/
def payloadStores (valuesSize : Nat) (topic : CayenneTopic) (payload : CStr) : List Nat :=
  List.range valuesSize ++
    match topic with
    | .data =>
      match getValueCount payload 61 with
      | .error _ => []
      | .ok count => 0 :: splitStores 61 count valuesSize payload.val false 0
    | .command => 0 :: splitStores 0 1 valuesSize payload.val true 0
    | _ => [0]

section
variable {token : UInt8} {count : Nat}

/-- **No store is outside** an array that has an entry. -/
theorem splitStores_lt {valuesSize : Nat} (hsize : 0 < valuesSize) {text : Bytes}
    {parsingValues : Bool} {valueIndex i : Nat}
    (h : i ∈ splitStores token count valuesSize text parsingValues valueIndex) :
    i < valuesSize := by
  induction text generalizing parsingValues valueIndex with
  | nil => cases h
  | cons a text ih =>
    rw [splitStores] at h
    split at h
    next =>
      rcases List.mem_append.1 h with hhere | hlater
      · split at hhere
        next hroom => rw [List.mem_singleton.1 hhere]; exact hroom
        next => cases hhere
      · split at hlater
        next => cases hlater
        next => exact ih hlater
    next =>
      split at h
      next =>
        rcases List.mem_cons.1 h with rfl | hlater
        · exact hsize
        · split at hlater
          next => cases hlater
          next => exact ih hlater
      next => exact ih h

theorem payloadStores_lt {valuesSize : Nat} (hsize : 0 < valuesSize) (topic : CayenneTopic)
    (payload : CStr) : ∀ i ∈ payloadStores valuesSize topic payload, i < valuesSize := by
  intro i hi
  rcases List.mem_append.1 hi with hinit | hlater
  · exact List.mem_range.1 hinit
  · split at hlater
    next =>
      split at hlater
      next => cases hlater
      next =>
        rcases List.mem_cons.1 hlater with rfl | hloop
        · exact hsize
        · exact splitStores_lt hsize hloop
    next =>
      rcases List.mem_cons.1 hlater with rfl | hloop
      · exact hsize
      · exact splitStores_lt hsize hloop
    next => rw [List.mem_singleton.1 hlater]; exact hsize

theorem comma_getElem? {s : Splitting} {i : Nat} (index : Nat)
    (h : i = s.valueIndex → s.values.length ≤ s.valueIndex) :
    (s.comma index).values[i]? = s.values[i]? := by
  rw [Splitting.comma, List.getElem?_modify]
  by_cases heq : s.valueIndex = i
  · rw [List.getElem?_eq_none (heq ▸ h heq.symm)]
    rfl
  · simp [heq]

/-- An entry that is not stored to stays as it is. -/
theorem splitLoop_getElem? {text : Bytes} {s : Splitting} {i : Nat}
    (h : i ∉ splitStores token count s.values.length text s.parsingValues s.valueIndex)
    (index : Nat) :
    (splitLoop token count text index s).values[i]? = s.values[i]? := by
  induction text generalizing index s with
  | nil => rfl
  | cons a text ih =>
    have hcommaLength : (s.comma index).values.length = s.values.length := List.length_modify ..
    have hequalsLength : (s.equals index).values.length = s.values.length := List.length_modify ..
    rw [splitStores] at h
    rw [splitLoop]
    split at h
    next ha =>
      rw [if_pos ha]
      rw [List.mem_append, not_or] at h
      have hcomma := comma_getElem? (s := s) (i := i) index (by
        intro heq
        by_contra hroom
        exact h.1 (by rw [if_pos (Nat.lt_of_not_le hroom), heq]; exact .head _))
      split
      next => exact hcomma
      next htoken =>
        rw [if_neg htoken] at h
        rw [ih (by rw [hcommaLength]; exact h.2), hcomma]
    next ha =>
      rw [if_neg ha]
      split at h
      next htoken =>
        rw [if_pos htoken]
        rw [List.mem_cons, not_or] at h
        have hequals : (s.equals index).values[i]? = s.values[i]? := by
          rw [Splitting.equals, List.getElem?_modify]
          simp [Ne.symm h.1]
        split
        next => exact hequals
        next hcount =>
          rw [if_neg hcount] at h
          rw [ih (by rw [hequalsLength]; exact h.2), hequals]
      next htoken =>
        rw [if_neg htoken]
        exact ih h (index + 1)

end

/-! ## The count -/

theorem counts_units {text : Bytes} (h : 61 ∉ text) (u v : Nat) :
    text.foldl (ValueCounts.next 61) ⟨u, v, false⟩ = ⟨u + text.count 44, v, false⟩ := by
  induction text generalizing u with
  | nil => rfl
  | cons a text ih =>
    rw [List.mem_cons, not_or] at h
    rw [List.foldl_cons]
    by_cases ha : a = 44
    · subst ha
      have hnext : ValueCounts.next 61 ⟨u, v, false⟩ 44 = ⟨u + 1, v, false⟩ := rfl
      rw [hnext, ih h.2, List.count_cons_self, Nat.add_right_comm, Nat.add_assoc]
    · rw [ValueCounts.next, if_neg ha, if_neg (Ne.symm h.1), ih h.2, List.count_cons_of_ne ha]

theorem counts_values (text : Bytes) (u v : Nat) :
    text.foldl (ValueCounts.next 61) ⟨u, v, true⟩ =
      ⟨u, v + text.count 61 + text.count 44, true⟩ := by
  induction text generalizing v with
  | nil => rfl
  | cons a text ih =>
    rw [List.foldl_cons]
    by_cases ha : a = 44
    · subst ha
      have hnext : ValueCounts.next 61 ⟨u, v, true⟩ 44 = ⟨u, v + 1, true⟩ := rfl
      rw [hnext, ih, List.count_cons_self, List.count_cons_of_ne (by decide)]
      congr 1
      omega
    · by_cases htoken : a = 61
      · subst htoken
        have hnext : ValueCounts.next 61 ⟨u, v, true⟩ 61 = ⟨u, v + 1, true⟩ := rfl
        rw [hnext, ih, List.count_cons_self, List.count_cons_of_ne ha]
        congr 1
        omega
      · rw [ValueCounts.next, if_neg ha, if_neg htoken, ih, List.count_cons_of_ne ha,
          List.count_cons_of_ne htoken]

/-- A payload without the token has one value, as far as it is counted. -/
theorem getValueCount_of_not_mem {payload : CStr} (h : 61 ∉ payload.val) :
    getValueCount payload 61 = .ok 1 := by
  rw [getValueCount, if_neg (by decide), counts_units h]
  rfl

/-- **The count**: the commas before the first token, and one more than the commas and tokens behind
it, must be the same, unless there is nothing but that token. -/
theorem getValueCount_split {payload : CStr} {before after : Bytes}
    (hpayload : payload.val = before ++ 61 :: after) (h : 61 ∉ before) :
    getValueCount payload 61 =
      if 1 + after.count 61 + after.count 44 ≠ before.count 44 ∧
        ¬ (before.count 44 = 0 ∧ 1 + after.count 61 + after.count 44 = 1) then .error .failure
      else .ok (1 + after.count 61 + after.count 44) := by
  have hfirst : ValueCounts.next 61 ⟨0 + before.count 44, 0, false⟩ 61 =
      ⟨0 + before.count 44, 0 + 1, true⟩ := rfl
  rw [getValueCount, if_neg (by decide), hpayload, List.foldl_append, counts_units h,
    List.foldl_cons, hfirst, counts_values, Nat.zero_add, Nat.zero_add]
  rfl

/-! ## The values -/

/-- `values[i].value` is not `NULL`. -/
def valueSet (values : List PairPointers) (i : Nat) : Bool :=
  (values[i]?.bind PairPointers.value).isSome

theorem hasValue_eq (p : ParsedPayload) : p.hasValue = valueSet p.values 0 := by
  rw [ParsedPayload.hasValue, valueSet, List.head?_eq_getElem?]

/-- The check behind `parsePayload` is one of the first value. -/
theorem valueSet_of_check {p : ParsedPayload} (h : p.check.code = none) :
    valueSet p.check.values 0 = true := by
  rw [← hasValue_eq]
  by_contra hvalue
  exact p.check_hasValue ⟨h, Bool.eq_false_iff.2 hvalue⟩

theorem valueSet_point_unit (values : List PairPointers) (k index i : Nat) :
    valueSet (values.modify k (PairPointers.point false index)) i = valueSet values i := by
  rw [valueSet, valueSet, List.getElem?_modify]
  cases values[i]? with
  | none => rfl
  | some pair =>
    by_cases heq : k = i
    · simp [heq, PairPointers.point]
    · simp [heq]

theorem valueSet_point_value (values : List PairPointers) (k index i : Nat) :
    valueSet (values.modify k (PairPointers.point true index)) i =
      (valueSet values i || decide (i = k ∧ k < values.length)) := by
  rw [valueSet, valueSet, List.getElem?_modify]
  by_cases hlt : i < values.length
  · rw [List.getElem?_eq_getElem hlt]
    by_cases heq : k = i
    · subst heq
      simp [PairPointers.point, hlt]
    · simp [heq, Ne.symm heq]
  · rw [List.getElem?_eq_none (Nat.not_lt.1 hlt)]
    have hfalse : ¬ (i = k ∧ k < values.length) := fun h => hlt (h.1 ▸ h.2)
    simp only [decide_eq_false hfalse]
    rfl

/-- **Before the token** units are stored, and no value is. -/
theorem splitLoop_units (count : Nat) {text : Bytes} (h : 61 ∉ text) (rest : Bytes) (index : Nat)
    {s : Splitting} (hs : s.parsingValues = false) :
    ∃ t, splitLoop 61 count (text ++ rest) index s =
        splitLoop 61 count rest (index + text.length) t ∧
      t.parsingValues = false ∧ t.values.length = s.values.length ∧
      ∀ i, valueSet t.values i = valueSet s.values i := by
  induction text generalizing index s with
  | nil => exact ⟨s, rfl, hs, rfl, fun _ => rfl⟩
  | cons a text ih =>
    rw [List.mem_cons, not_or] at h
    have hindex : index + 1 + text.length = index + (a :: text).length := by
      rw [List.length_cons]
      omega
    rw [List.cons_append, splitLoop, ← hindex]
    by_cases ha : a = 44
    · rw [if_pos ha, if_neg (by decide)]
      obtain ⟨t, hloop, ht, hlen, hvalues⟩ := ih h.2 (index + 1) (s := s.comma index) hs
      refine ⟨t, hloop, ht, hlen.trans (List.length_modify ..), fun i => ?_⟩
      rw [hvalues, Splitting.comma, hs]
      exact valueSet_point_unit ..
    · rw [if_neg ha, if_neg (fun htoken => h.1 htoken.1.symm)]
      exact ih h.2 (index + 1) hs

/-- **Behind the token** a value is stored at each comma, as far as there are entries. -/
theorem splitLoop_values (count : Nat) (text : Bytes) (index : Nat) {s : Splitting}
    (hs : s.parsingValues = true) (i : Nat) :
    valueSet (splitLoop 61 count text index s).values i =
      (valueSet s.values i || decide (s.valueIndex ≤ i ∧ i < s.valueIndex + text.count 44 ∧
        i < s.values.length)) := by
  induction text generalizing index s with
  | nil =>
    have hfalse : ¬ (s.valueIndex ≤ i ∧ i < s.valueIndex + 0 ∧ i < s.values.length) := by omega
    rw [splitLoop, List.count_nil, decide_eq_false hfalse, Bool.or_false]
  | cons a text ih =>
    rw [splitLoop]
    by_cases ha : a = 44
    · subst ha
      have hlen : (s.comma index).values.length = s.values.length := List.length_modify ..
      have hnext : (s.comma index).valueIndex = s.valueIndex + 1 := rfl
      have hvalues : (s.comma index).values =
          s.values.modify s.valueIndex (PairPointers.point true (index + 1)) := by
        rw [Splitting.comma, hs]
      rw [if_pos rfl, if_neg (by decide), ih (index + 1) (s := s.comma index) hs, hlen, hnext,
        hvalues, valueSet_point_value, List.count_cons_self, Bool.or_assoc, ← Bool.decide_or]
      congr 2
      exact propext (by omega)
    · have htoken : ¬ (a = 61 ∧ s.parsingValues = false) := by
        rw [hs]
        exact fun h => Bool.noConfusion h.2
      rw [if_neg ha, if_neg htoken, ih (index + 1) hs, List.count_cons_of_ne ha]

theorem valueSet_noPairs (valuesSize i : Nat) : valueSet (noPairs valuesSize) i = false := by
  rw [valueSet, noPairs, List.getElem?_replicate]
  split <;> rfl

theorem modify_noPairs (valuesSize : Nat) :
    ((noPairs valuesSize).modify 0 fun _ => ⟨none, none⟩) = noPairs valuesSize := by
  cases valuesSize <;> rfl

section
variable {valuesSize : Nat} (hsize : 0 < valuesSize) {payload : CStr}

/-- The variables of `parsePayload` before its loop, for a data payload. -/
def dataStart (valuesSize : Nat) (payload : CStr) : Splitting :=
  ⟨noPairs valuesSize, none, false, 0, payload.val ++ [0]⟩

/-- A data payload that is counted is split, and refused when there is no first value. -/
theorem parseData_of_ok {count : Nat} (h : getValueCount payload 61 = .ok count) :
    parsePayload true (noPairs valuesSize) payload 61 =
      let s := splitLoop 61 count payload.val 0 (dataStart valuesSize payload)
      ⟨none, s.values, count, s.type, none, s.memory⟩ := by
  rw [parsePayload_of_ok h, modify_noPairs]
  rfl

include hsize

/-- **The values of a data payload with a token**: one at the token and, if more are counted, one
at each comma behind it. -/
theorem valueSet_data (count : Nat) {before after : Bytes}
    (hpayload : payload.val = before ++ 61 :: after) (h : 61 ∉ before) (i : Nat) :
    valueSet (splitLoop 61 count payload.val 0 (dataStart valuesSize payload)).values i =
      decide (i < valuesSize ∧ (i = 0 ∨ (count ≠ 1 ∧ 1 ≤ i ∧ i < 1 + after.count 44))) := by
  obtain ⟨t, hloop, ht, hlen, hvalues⟩ :=
    splitLoop_units count h (61 :: after) 0 (s := dataStart valuesSize payload) rfl
  have hlength : t.values.length = valuesSize := hlen.trans (List.length_replicate ..)
  -- the store at the token
  have hfirst : ∀ index, valueSet (t.equals index).values i = decide (i = 0) := by
    intro index
    rw [Splitting.equals, valueSet_point_value, hvalues, dataStart, valueSet_noPairs,
      Bool.false_or, hlength]
    simp [hsize]
  rw [hpayload, hloop, splitLoop, if_neg (by decide), if_pos ⟨rfl, ht⟩]
  split
  next hone =>
    rw [hfirst, decide_eq_decide]
    omega
  next hmany =>
    have hnext : ∀ index, (t.equals index).valueIndex = 1 := fun _ => rfl
    have hequals : ∀ index, (t.equals index).values.length = valuesSize :=
      fun _ => (List.length_modify ..).trans hlength
    rw [splitLoop_values _ _ _ rfl, hfirst, hnext, hequals, ← Bool.decide_or, decide_eq_decide]
    omega

/-- A data payload with a token, whose count is that of the units. -/
theorem cayenneParsePayload_counted {count : Nat} (hcount : getValueCount payload 61 = .ok count)
    {before after : Bytes} (hpayload : payload.val = before ++ 61 :: after) (h : 61 ∉ before) :
    ∃ p, cayenneParsePayload true valuesSize .data payload = p ∧ p.code = none ∧
      p.valuesSize = count ∧
      ∀ i, valueSet p.values i =
        decide (i < valuesSize ∧ (i = 0 ∨ (count ≠ 1 ∧ 1 ≤ i ∧ i < 1 + after.count 44))) := by
  have hvalues := valueSet_data hsize count hpayload h
  refine ⟨_, cayenneParsePayload_data hsize payload, ?_, ?_, ?_⟩
  · rw [parseData_of_ok hcount]
    have hzero := hvalues 0
    rw [decide_eq_true ⟨hsize, .inl rfl⟩] at hzero
    exact if_pos ((hasValue_eq _).trans hzero)
  · rw [parseData_of_ok hcount]
    rfl
  · rw [parseData_of_ok hcount]
    exact hvalues

/-- A data payload without a token, or with a count that is not that of the units, is refused. -/
theorem cayenneParsePayload_refused
    (h : 61 ∉ payload.val ∨ ∃ e, getValueCount payload 61 = .error e) :
    (cayenneParsePayload true valuesSize .data payload).code = some .failure := by
  rw [cayenneParsePayload_data hsize]
  refine if_neg ?_
  rw [hasValue_eq, Bool.not_eq_true]
  rcases h with hmem | ⟨e, herror⟩
  · obtain ⟨t, hloop, -, -, hvalues⟩ :=
      splitLoop_units 1 hmem [] 0 (s := dataStart valuesSize payload) rfl
    rw [List.append_nil] at hloop
    rw [parseData_of_ok (getValueCount_of_not_mem hmem), hloop]
    exact (hvalues 0).trans (valueSet_noPairs ..)
  · rw [parsePayload, if_pos rfl, herror]
    exact valueSet_noPairs ..

end

/-! ## What is claimed -/

/-- A call that succeeds claims no more values than the array has entries, has stored to no other
ones, and the values that it claims are there. -/
def ClaimsValues (valuesSize : Nat) (topic : CayenneTopic) (payload : CStr) : Prop :=
  (cayenneParsePayload true valuesSize topic payload).code = none →
    (cayenneParsePayload true valuesSize topic payload).valuesSize ≤ valuesSize ∧
    (∀ i ∈ payloadStores valuesSize topic payload, i < valuesSize) ∧
    ∀ i < (cayenneParsePayload true valuesSize topic payload).valuesSize,
      valueSet (cayenneParsePayload true valuesSize topic payload).values i = true

/-- A payload whose count is that of its units, and has more of them than the array has entries, or
a second token. -/
def Overcounted (valuesSize : Nat) (payload : CStr) : Prop :=
  ∃ before after, payload.val = before ++ 61 :: after ∧ 61 ∉ before ∧
    before.count 44 = 1 + after.count 61 + after.count 44 ∧
    (valuesSize < before.count 44 ∨ 0 < after.count 61)

theorem overcounted_iff {valuesSize : Nat} {payload : CStr} {before after : Bytes}
    (hpayload : payload.val = before ++ 61 :: after)
    (hbefore : 61 ∉ before) :
    Overcounted valuesSize payload ↔ before.count 44 = 1 + after.count 61 + after.count 44 ∧
      (valuesSize < before.count 44 ∨ 0 < after.count 61) := by
  refine ⟨?_, fun h => ⟨before, after, hpayload, hbefore, h⟩⟩
  rintro ⟨before', after', hpayload', hbefore', h⟩
  obtain ⟨rfl, rfl⟩ := Scan.append_cons_inj hbefore hbefore' (hpayload ▸ hpayload')
  exact h

section
variable {valuesSize : Nat} (hsize : 0 < valuesSize) {payload : CStr}
include hsize

/-- A call that claims one value and has set it. -/
theorem claimsValues_one {topic : CayenneTopic}
    (hone : (cayenneParsePayload true valuesSize topic payload).valuesSize = 1)
    (hfirst : (cayenneParsePayload true valuesSize topic payload).code = none →
      valueSet (cayenneParsePayload true valuesSize topic payload).values 0 = true) :
    ClaimsValues valuesSize topic payload := by
  intro hcode
  refine ⟨hone.trans_le hsize, payloadStores_lt hsize topic payload, fun i hi => ?_⟩
  rw [hone] at hi
  rw [Nat.lt_one_iff.1 hi]
  exact hfirst hcode

theorem claimsValues_command : ClaimsValues valuesSize .command payload := by
  refine claimsValues_one hsize ?_ ?_
  · rw [cayenneParsePayload_command true hsize, parsePayload_zero]
    rfl
  · rw [cayenneParsePayload_command true hsize]
    exact valueSet_of_check

/-- Other topics have their payload as the only value. -/
theorem claimsValues_other {topic : CayenneTopic} (hdata : topic ≠ .data)
    (hcommand : topic ≠ .command) : ClaimsValues valuesSize topic payload := by
  have hparsed : cayenneParsePayload true valuesSize topic payload =
      ⟨none, (noPairs valuesSize).modify 0 fun _ => ⟨none, some 0⟩, 1, none, none,
        payload.val ++ [0]⟩ := by
    obtain ⟨size, rfl⟩ := Nat.exists_eq_succ_of_ne_zero (Nat.ne_of_gt hsize)
    cases topic <;> first | exact absurd rfl hdata | exact absurd rfl hcommand | rfl
  refine claimsValues_one hsize ?_ ?_
  · rw [hparsed]
  · rw [hparsed]
    intro _
    obtain ⟨size, rfl⟩ := Nat.exists_eq_succ_of_ne_zero (Nat.ne_of_gt hsize)
    rfl

/-- A data payload that is refused claims nothing. -/
theorem claimsValues_refused (h : 61 ∉ payload.val ∨ ∃ e, getValueCount payload 61 = .error e) :
    ClaimsValues valuesSize .data payload := by
  intro hcode
  rw [cayenneParsePayload_refused hsize h] at hcode
  cases hcode

/-- **The values that a call claims**: they are there and have room for every payload but those of
data whose units are counted as values that the array has no entries for, or that have no comma. -/
theorem values_claimed_iff (topic : CayenneTopic) :
    ClaimsValues valuesSize topic payload ↔
      ¬ (topic = .data ∧ Overcounted valuesSize payload) := by
  by_cases hdata : topic = .data
  · subst hdata
    rw [eq_self_iff_true, true_and]
    by_cases hmem : 61 ∈ payload.val
    · obtain ⟨before, after, hpayload, hbefore⟩ := List.eq_append_cons_of_mem hmem
      rw [overcounted_iff hpayload hbefore]
      have hcount := getValueCount_split hpayload hbefore
      split at hcount
      next hdiffers =>
        refine ⟨fun _ hbad => hdiffers.1 hbad.1.symm, fun _ => ?_⟩
        exact claimsValues_refused hsize (.inr ⟨_, hcount⟩)
      next hsame =>
        obtain ⟨p, hp, hcode, hclaimed, hvalues⟩ :=
          cayenneParsePayload_counted hsize hcount hpayload hbefore
        rw [ClaimsValues, hp, hclaimed]
        refine ⟨?_, ?_⟩
        · rintro hgood ⟨hunits, hbad⟩
          obtain ⟨hroom, -, hset⟩ := hgood hcode
          -- the last value that is claimed
          have hlast := hset (after.count 61 + after.count 44) (by omega)
          rw [hvalues, decide_eq_true_iff] at hlast
          omega
        · intro hgood _
          refine ⟨by omega, payloadStores_lt hsize _ _, fun i hi => ?_⟩
          rw [hvalues, decide_eq_true_iff]
          omega
    · refine ⟨?_, fun _ => claimsValues_refused hsize (.inl hmem)⟩
      rintro - ⟨before, after, hpayload, -⟩
      exact hmem (by rw [hpayload]; simp)
  · refine ⟨fun _ hbad => hdata hbad.1, fun _ => ?_⟩
    by_cases hcommand : topic = .command
    · rw [hcommand]
      exact claimsValues_command hsize
    · exact claimsValues_other hsize hdata hcommand

end

/-- Two pairs in an array of four entries. -/
theorem values_claimed_two :
    ClaimsValues cayenneMaxMessageValues .data (CStr.lit "t,a,b=1,2") := by
  refine (values_claimed_iff (by decide) .data).2 ?_
  have hpayload : (CStr.lit "t,a,b=1,2").val =
      (CStr.lit "t,a,b").val ++ 61 :: (CStr.lit "1,2").val := by decide
  rw [overcounted_iff hpayload (by decide)]
  decide

/-- Five pairs are claimed for an array of four entries, and a second token counts as a value that
is not there. -/
theorem fivePairs_claimed :
    (cayenneParsePayload true cayenneMaxMessageValues .data
      (CStr.lit "t,a,b,c,d,e=1,2,3,4,5")).code = none ∧
    (cayenneParsePayload true cayenneMaxMessageValues .data
      (CStr.lit "t,a,b,c,d,e=1,2,3,4,5")).valuesSize = 5 ∧
    (cayenneParsePayload true cayenneMaxMessageValues .data (CStr.lit "t,a,b=1=2")).code = none ∧
    (cayenneParsePayload true cayenneMaxMessageValues .data
      (CStr.lit "t,a,b=1=2")).valuesSize = 2 ∧
    valueSet (cayenneParsePayload true cayenneMaxMessageValues .data
      (CStr.lit "t,a,b=1=2")).values 1 = false ∧
    ¬ ∀ (valuesSize : Nat) (topic : CayenneTopic) (payload : CStr), 0 < valuesSize →
      ClaimsValues valuesSize topic payload := by
  have hcode : (cayenneParsePayload true cayenneMaxMessageValues .data
      (CStr.lit "t,a,b,c,d,e=1,2,3,4,5")).code = none := by decide +kernel
  have hclaimed : (cayenneParsePayload true cayenneMaxMessageValues .data
      (CStr.lit "t,a,b,c,d,e=1,2,3,4,5")).valuesSize = 5 := by decide +kernel
  refine ⟨hcode, hclaimed, by decide +kernel, by decide +kernel, by decide +kernel, ?_⟩
  intro hall
  have hroom := (hall cayenneMaxMessageValues .data _ (by decide) hcode).1
  rw [hclaimed] at hroom
  exact absurd hroom (by decide)

end Esp32Iot
