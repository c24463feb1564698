import Esp32Iot.Cayenne.Payload
import Esp32Iot.Lib.Scan

/-!
# Parsing a payload

`getValueCount`, `parsePayload` and `CayenneParsePayload` of `CayenneUtils.c`. The payload is split
in place: each separator is overwritten with a terminator, and the outputs are pointers behind it.
In the model they are indices into the memory of the payload, and `ParsedPayload.message` is what
the caller reads there afterwards.

`command_payload_splits` says that a command is split at its first comma, and
`data_payload_round_trip` that the pairs of `CayenneBuildDataPayload` are read back exactly when no
separator is in the type. The names of the types that Cayenne knows have none.
-/

namespace Esp32Iot

open CStr (lit)

/-! ## The source -/

/-- `CAYENNE_MAX_MESSAGE_VALUES`, which a build can redefine. -/
def cayenneMaxMessageValues : Nat := 4

/-- The variables of `getValueCount`. -/
structure ValueCounts where
  unitCount : Nat
  valueCount : Nat
  countingValues : Bool

/-- A round of its loop. -/
def ValueCounts.next (token : UInt8) (counts : ValueCounts) (index : UInt8) : ValueCounts :=
  -- the character is ','
  if index = 44 then
    if counts.countingValues then { counts with valueCount := counts.valueCount + 1 }
    else { counts with unitCount := counts.unitCount + 1 }
  else if index = token then
    { counts with countingValues := true, valueCount := counts.valueCount + 1 }
  else counts

/-- `getValueCount`. -/
def getValueCount (payload : CStr) (token : UInt8) : Except CayenneError Nat :=
  if token = 0 then .ok 1
  else
    let counts := payload.val.foldl (ValueCounts.next token) ⟨0, 0, false⟩
    if counts.countingValues then
      if counts.valueCount ≠ counts.unitCount ∧
          ¬ (counts.unitCount = 0 ∧ counts.valueCount = 1) then .error .failure
      else .ok counts.valueCount
    else .ok 1

/-- A `CayenneValuePair` of the parser: its strings are at indices of the payload. -/
structure PairPointers where
  unit : Option Nat
  value : Option Nat
  deriving DecidableEq

/-- The variables of `parsePayload`. The array has as many entries as `*valuesSize` says. -/
structure Splitting where
  values : List PairPointers
  type : Option Nat
  parsingValues : Bool
  valueIndex : Nat
  memory : Bytes

/-- `values[valueIndex].value = i` or `values[valueIndex].unit = i`. -/
def PairPointers.point (parsingValues : Bool) (i : Nat) (pair : PairPointers) : PairPointers :=
  if parsingValues then { pair with value := some i } else { pair with unit := some i }

/-- The branch of a comma. -/
def Splitting.comma (index : Nat) (s : Splitting) : Splitting :=
  { s with
    type := some 0
    -- there is no entry when `*valuesSize <= valueIndex`
    values := s.values.modify s.valueIndex (PairPointers.point s.parsingValues (index + 1))
    memory := s.memory.set index 0
    valueIndex := s.valueIndex + 1 }

/-- The branch of the token. -/
def Splitting.equals (index : Nat) (s : Splitting) : Splitting :=
  { parsingValues := true
    type := some 0
    values := s.values.modify 0 (PairPointers.point true (index + 1))
    memory := s.memory.set index 0
    valueIndex := 1 }

/-- The loop of `parsePayload`, over the characters from `index` on: nothing is written there
before they are read. -/
def splitLoop (token : UInt8) (count : Nat) : Bytes → Nat → Splitting → Splitting
  | [], _, s => s
  | a :: rest, index, s =>
    if a = 44 then
      if token = 0 then s.comma index
      else splitLoop token count rest (index + 1) (s.comma index)
    else if a = token ∧ s.parsingValues = false then
      if count = 1 then s.equals index
      else splitLoop token count rest (index + 1) (s.equals index)
    else splitLoop token count rest (index + 1) s

/-- A call of `CayenneParsePayload`: its return code, where `none` is `CAYENNE_SUCCESS`, what its
pointers lead to, and the memory from `payload` on. -/
structure ParsedPayload where
  code : Option CayenneError
  values : List PairPointers
  valuesSize : Nat
  type : Option Nat
  id : Option Nat
  memory : Bytes

/-- `parsePayload`, without and with `PARSE_INFO_PAYLOADS`. -/
def parsePayload (parseInfo : Bool) (values : List PairPointers) (payload : CStr)
    (token : UInt8) : ParsedPayload :=
  let memory := payload.val ++ [0]
  match if parseInfo then getValueCount payload token else .ok 1 with
  | .error e => ⟨some e, values, 0, none, none, memory⟩
  | .ok count =>
    let s := splitLoop token count payload.val 0
      ⟨values.modify 0 fun _ => ⟨none, none⟩, none, token == 0, 0, memory⟩
    ⟨none, s.values, count, s.type, none, s.memory⟩

/-- `values[0].value` is not `NULL`. -/
def ParsedPayload.hasValue (p : ParsedPayload) : Bool :=
  (p.values.head?.bind PairPointers.value).isSome

/-- The check behind a call of `parsePayload`, whose own return code is dropped. -/
def ParsedPayload.check (p : ParsedPayload) : ParsedPayload :=
  { p with code := if p.hasValue then none else some .failure }

/-- `CayenneParsePayload`, where neither `payload` nor `valuesSize` is `NULL`. Without entries
nothing is stored. -/
def cayenneParsePayload (parseInfo : Bool) (valuesSize : Nat) (topic : CayenneTopic)
    (payload : CStr) : ParsedPayload :=
  let memory := payload.val ++ [0]
  if valuesSize = 0 then ⟨some .failure, [], valuesSize, none, none, memory⟩
  else
    let values := List.replicate valuesSize ⟨none, none⟩
    let parsed : ParsedPayload :=
      match topic, parseInfo with
      | .data, true => (parsePayload parseInfo values payload 61).check
      | .command, _ =>
        let parsed := parsePayload parseInfo values payload 0
        { parsed with id := parsed.type, type := none }.check
      | _, _ => ⟨none, values, valuesSize, none, none, memory⟩
    if parsed.code = none ∧ parsed.hasValue = false then
      { parsed with
        values := parsed.values.modify 0 fun _ => ⟨none, some 0⟩
        valuesSize := 1, type := none, id := none }
    else parsed

/-- What the caller reads. -/
structure PayloadMessage where
  type : Option CStr
  id : Option CStr
  values : List CayenneValuePair
  deriving DecidableEq

/-- The string at an index. -/
def ParsedPayload.string (p : ParsedPayload) (i : Nat) : CStr := CStr.ofBytes (p.memory.drop i)

def ParsedPayload.message (p : ParsedPayload) : PayloadMessage where
  type := p.type.map p.string
  id := p.id.map p.string
  values := (p.values.take p.valuesSize).map fun pair =>
    ⟨pair.unit.map p.string, pair.value.map p.string⟩

/-- The call has succeeded with this message. -/
structure ParsedPayload.Gives (p : ParsedPayload) (message : PayloadMessage) : Prop where
  code : p.code = none
  valuesSize : p.valuesSize = message.values.length
  message : p.message = message

/-- A payload that `CayenneBuildDataPayload` makes, in a buffer of some length. -/
def BuildsPayload (type : Option CStr) (values : List CayenneValuePair) (payload : CStr) : Prop :=
  ∃ length n, cayenneBuildDataPayload length type values = some (.ok (payload, n))

theorem buildsPayload_iff {type : Option CStr} {values : List CayenneValuePair} {payload : CStr} :
    BuildsPayload type values payload ↔ payload = payloadText type values := by
  constructor
  · rintro ⟨length, n, h⟩
    rw [cayenneBuildDataPayload_eq, fit] at h
    split at h
    · cases h
    · split at h
      · cases h
        rfl
      · cases h
  · rintro rfl
    -- room for the prediction and for the string
    refine ⟨predictedLength type values + (payloadText type values).length + 1,
      (predictedLength type values + 4294967295) % 4294967296, ?_⟩
    rw [cayenneBuildDataPayload_eq, if_neg (by omega), fit_of_lt (by omega)]
    rfl

/-! ## The loop -/

/-- Characters that are no separators are passed. -/
theorem splitLoop_clear {token : UInt8} (count : Nat) {before : Bytes}
    (h : Scan.Clear 44 token before) (rest : Bytes) (index : Nat) (s : Splitting) :
    splitLoop token count (before ++ rest) index s =
      splitLoop token count rest (index + before.length) s := by
  induction before generalizing index with
  | nil => rfl
  | cons a before ih =>
    have ha := h a (.head _)
    rw [List.cons_append, splitLoop, if_neg ha.1, if_neg (fun hand => ha.2 hand.1),
      ih fun b hb => h b (.tail _ hb), List.length_cons]
    congr 1
    omega

/-- A field behind a comma. -/
theorem splitLoop_field (count : Nat) {f : Bytes} (h : Scan.Clear 44 61 f) (rest : Bytes)
    (index : Nat) (s : Splitting) :
    splitLoop 61 count (44 :: (f ++ rest)) index s =
      splitLoop 61 count rest (index + 1 + f.length) (s.comma index) := by
  rw [splitLoop, if_pos rfl, if_neg (by decide), splitLoop_clear count h]

theorem splitLoop_of_clear {token : UInt8} (count : Nat) {text : Bytes}
    (h : Scan.Clear 44 token text) (index : Nat) (s : Splitting) :
    splitLoop token count text index s = s := by
  have hloop := splitLoop_clear count h [] index s
  rwa [List.append_nil] at hloop

/-- The loop with the count. -/
theorem parsePayload_of_ok {values : List PairPointers} {payload : CStr} {token : UInt8}
    {count : Nat} (h : getValueCount payload token = .ok count) :
    parsePayload true values payload token =
      let s := splitLoop token count payload.val 0
        ⟨values.modify 0 fun _ => ⟨none, none⟩, none, token == 0, 0, payload.val ++ [0]⟩
      ⟨none, s.values, count, s.type, none, s.memory⟩ := by
  rw [parsePayload, if_pos rfl, h]

/-- Behind the check the first value is not `NULL`. -/
theorem ParsedPayload.check_hasValue (p : ParsedPayload) :
    ¬ (p.check.code = none ∧ p.check.hasValue = false) := by
  rintro ⟨hcode, hvalue⟩
  have hfailure : p.check.code = some .failure := if_neg (Bool.eq_false_iff.1 hvalue)
  rw [hfailure] at hcode
  cases hcode

/-- The arrays of `CayenneParsePayload` before the payload is looked at. -/
def noPairs (valuesSize : Nat) : List PairPointers := List.replicate valuesSize ⟨none, none⟩

theorem cayenneParsePayload_data {valuesSize : Nat} (hsize : 0 < valuesSize) (payload : CStr) :
    cayenneParsePayload true valuesSize .data payload =
      (parsePayload true (noPairs valuesSize) payload 61).check :=
  (if_neg (Nat.ne_of_gt hsize)).trans (if_neg (ParsedPayload.check_hasValue _))

/-! ## Commands -/

theorem comma_val (s t : CStr) : (s ++ lit "," ++ t).val = s.val ++ 44 :: t.val := by
  show s.val ++ [44] ++ t.val = _
  rw [List.append_assoc]
  rfl

theorem cayenneParsePayload_command (parseInfo : Bool) {valuesSize : Nat} (hsize : 0 < valuesSize)
    (payload : CStr) :
    cayenneParsePayload parseInfo valuesSize .command payload =
      let parsed := parsePayload parseInfo (noPairs valuesSize) payload 0
      { parsed with id := parsed.type, type := none }.check := by
  cases parseInfo <;>
    exact (if_neg (Nat.ne_of_gt hsize)).trans (if_neg (ParsedPayload.check_hasValue _))

/-- Without a token the loop ends at the first comma. -/
theorem parsePayload_zero (parseInfo : Bool) (values : List PairPointers) (payload : CStr) :
    parsePayload parseInfo values payload 0 =
      let s := splitLoop 0 1 payload.val 0
        ⟨values.modify 0 fun _ => ⟨none, none⟩, none, true, 0, payload.val ++ [0]⟩
      ⟨none, s.values, 1, s.type, none, s.memory⟩ := by
  cases parseInfo <;> rfl

theorem clear_of_not_mem {c : UInt8} {s : CStr} (h : c ∉ s.val) : Scan.Clear c 0 s.val := by
  intro a ha
  exact ⟨fun heq => h (heq ▸ ha), fun heq => s.nulFree (heq ▸ ha)⟩

/-- A command without a comma is refused. -/
theorem parseCommand_of_not_mem (parseInfo : Bool) {valuesSize : Nat} (hsize : 0 < valuesSize)
    {payload : CStr} (h : (44 : UInt8) ∉ payload.val) :
    (cayenneParsePayload parseInfo valuesSize .command payload).code = some .failure := by
  obtain ⟨size, rfl⟩ := Nat.exists_eq_succ_of_ne_zero (Nat.ne_of_gt hsize)
  rw [cayenneParsePayload_command parseInfo hsize, parsePayload_zero,
    splitLoop_of_clear 1 (clear_of_not_mem h)]
  rfl

/-- **A command with a comma** is split there. -/
theorem parseCommand_gives (parseInfo : Bool) {valuesSize : Nat} (hsize : 0 < valuesSize)
    {id : CStr} (hid : (44 : UInt8) ∉ id.val) (value : CStr) :
    (cayenneParsePayload parseInfo valuesSize .command (id ++ lit "," ++ value)).Gives
      ⟨none, some id, [⟨none, some value⟩]⟩ := by
  obtain ⟨size, rfl⟩ := Nat.exists_eq_succ_of_ne_zero (Nat.ne_of_gt hsize)
  have hset : (id.val ++ 44 :: value.val ++ [0]).set id.length 0 =
      id.val ++ 0 :: (value.val ++ [0]) := by
    simp [CStr.length]
  have hparsed : cayenneParsePayload parseInfo (size + 1) .command (id ++ lit "," ++ value) =
      ⟨none, ⟨none, some (id.length + 1)⟩ :: List.replicate size ⟨none, none⟩, 1, none, some 0,
        id.val ++ 0 :: (value.val ++ [0])⟩ := by
    rw [cayenneParsePayload_command parseInfo hsize, parsePayload_zero, comma_val,
      splitLoop_clear 1 (clear_of_not_mem hid), splitLoop, if_pos rfl, if_pos rfl, ← hset,
      Nat.zero_add]
    rfl
  rw [hparsed]
  have hread : CStr.ofBytes (id.val ++ 0 :: (value.val ++ [0])) = id := by
    rw [CStr.ofBytes_append_nul, CStr.ofBytes_val]
  have hvalue : CStr.ofBytes ((id.val ++ 0 :: (value.val ++ [0])).drop (id.length + 1)) =
      value := by
    rw [CStr.length, ← List.drop_drop, List.drop_left, List.drop_one, List.tail_cons,
      CStr.ofBytes_append_nul, CStr.ofBytes_val]
  constructor
  · rfl
  · rfl
  · simp [ParsedPayload.message, ParsedPayload.string, hread, hvalue]

/-- A string with a comma, split at the first one. -/
theorem exists_first_comma {payload : CStr} (h : (44 : UInt8) ∈ payload.val) :
    ∃ id value : CStr, payload = id ++ lit "," ++ value ∧ (44 : UInt8) ∉ id.val := by
  obtain ⟨before, after, hsplit, hbefore⟩ := List.eq_append_cons_of_mem h
  have hnul := payload.nulFree
  rw [hsplit, List.mem_append, List.mem_cons, not_or, not_or] at hnul
  refine ⟨⟨before, hnul.1⟩, ⟨after, hnul.2.2⟩, CStr.ext ?_, hbefore⟩
  rw [hsplit, comma_val]

/-- **Commands are read back**, and every payload with a comma is split at the first one. -/
theorem command_payload_splits (parseInfo : Bool) {valuesSize : Nat} (hsize : 0 < valuesSize) :
    (∀ id value : CStr, id.nonEmpty = true → (44 : UInt8) ∉ id.val →
      (∃ payload, BuildsPayload (some id) [⟨some value, none⟩] payload) ∧
      ∀ payload, BuildsPayload (some id) [⟨some value, none⟩] payload →
        (cayenneParsePayload parseInfo valuesSize .command payload).Gives
          ⟨none, some id, [⟨none, some value⟩]⟩) ∧
    ∀ payload : CStr,
      ((cayenneParsePayload parseInfo valuesSize .command payload).code = none ↔
        (44 : UInt8) ∈ payload.val) ∧
      ((44 : UInt8) ∈ payload.val →
        ∃ id value : CStr, payload = id ++ lit "," ++ value ∧ (44 : UInt8) ∉ id.val ∧
          (cayenneParsePayload parseInfo valuesSize .command payload).Gives
            ⟨none, some id, [⟨none, some value⟩]⟩) := by
  constructor
  · intro id value hne hid
    refine ⟨⟨_, buildsPayload_iff.2 rfl⟩, fun payload hbuilt => ?_⟩
    have htext : payloadText (some id) [⟨some value, none⟩] = id ++ lit "," ++ value := by
      simp [payloadText, unitsText, unitText, valuesText, firstValue, hne]
    rw [buildsPayload_iff.1 hbuilt, htext]
    exact parseCommand_gives parseInfo hsize hid value
  · intro payload
    have hsplits : (44 : UInt8) ∈ payload.val →
        ∃ id value : CStr, payload = id ++ lit "," ++ value ∧ (44 : UInt8) ∉ id.val ∧
          (cayenneParsePayload parseInfo valuesSize .command payload).Gives
            ⟨none, some id, [⟨none, some value⟩]⟩ := by
      intro hmem
      obtain ⟨id, value, rfl, hid⟩ := exists_first_comma hmem
      exact ⟨id, value, rfl, hid, parseCommand_gives parseInfo hsize hid value⟩
    refine ⟨⟨fun hcode => ?_, fun hmem => ?_⟩, hsplits⟩
    · refine Classical.not_not.1 fun h => ?_
      rw [parseCommand_of_not_mem parseInfo hsize h] at hcode
      cases hcode
    · obtain ⟨id, value, -, -, hgives⟩ := hsplits hmem
      exact hgives.code

theorem command_payload_splits_max :
    0 < cayenneMaxMessageValues ∧
      (cayenneParsePayload false cayenneMaxMessageValues .command
        (payloadText (some (lit "2")) [⟨some (lit "respond with ok"), none⟩])).Gives
        ⟨none, some (lit "2"), [⟨none, some (lit "respond with ok")⟩]⟩ ∧
      (cayenneParsePayload false cayenneMaxMessageValues .command (lit "2")).code ≠ none := by
  have hsize : 0 < cayenneMaxMessageValues := by decide
  obtain ⟨hreads, hsplits⟩ := command_payload_splits false hsize
  refine ⟨hsize, (hreads _ _ (by decide) (by decide)).2 _ (buildsPayload_iff.2 rfl), ?_⟩
  rw [ne_eq, (hsplits _).1]
  decide

/-! ## Data -/

theorem counts_clear {token : UInt8} {text : Bytes} (h : Scan.Clear 44 token text)
    (counts : ValueCounts) : text.foldl (ValueCounts.next token) counts = counts := by
  induction text with
  | nil => rfl
  | cons a text ih =>
    have ha := h a (.head _)
    rw [List.foldl_cons, ValueCounts.next, if_neg ha.1, if_neg ha.2]
    exact ih fun b hb => h b (.tail _ hb)

/-- The next entry of an array is changed. -/
theorem modify_next {α : Type} (done : List α) (a : α) (more : List α) (g : α → α) :
    (done ++ a :: more).modify done.length g = done ++ g a :: more := by
  induction done with
  | nil => rfl
  | cons d done ih => rw [List.cons_append, List.length_cons, List.modify_succ_cons, ih]; rfl

section
variable {fs : List Bytes} (hfs : ∀ f ∈ fs, Scan.Clear 44 61 f)
include hfs

/-- A field in a row is passed at once, and its comma is replaced. -/
theorem splitLoop_fields (count : Nat) (b : Bool) {slots : List PairPointers}
    (hslots : slots.length = fs.length) (done more : List PairPointers) (type : Option Nat)
    (before rest : Bytes) :
    splitLoop 61 count (Scan.fields 44 fs ++ rest) before.length
        ⟨done ++ (slots ++ more), type, b, done.length,
          before ++ (Scan.fields 44 fs ++ (rest ++ [0]))⟩ =
      splitLoop 61 count rest (before.length + (Scan.fields 44 fs).length)
        ⟨done ++ (List.zipWith (PairPointers.point b) (Scan.starts before.length fs) slots ++ more),
          if fs = [] then type else some 0, b, done.length + fs.length,
          before ++ (Scan.fields 0 fs ++ (rest ++ [0]))⟩ := by
  induction fs generalizing slots done type before with
  | nil =>
    rw [List.eq_nil_of_length_eq_zero hslots]
    rfl
  | cons f fs ih =>
    obtain ⟨slot, slots, rfl⟩ := List.exists_cons_of_length_eq_add_one hslots
    have hnext := ih (fun g hg => hfs g (.tail _ hg)) (Nat.succ.inj hslots)
      (done ++ [slot.point b (before.length + 1)]) (some 0) (before ++ 0 :: f)
    have hlength : (before ++ 0 :: f).length = before.length + 1 + f.length := by
      rw [List.length_append, List.length_cons]
      omega
    have hinput : Scan.fields 44 (f :: fs) ++ rest = 44 :: (f ++ (Scan.fields 44 fs ++ rest)) := by
      simp
    have hcomma : Splitting.comma before.length ⟨done ++ (slot :: slots ++ more), type, b,
        done.length, before ++ (Scan.fields 44 (f :: fs) ++ (rest ++ [0]))⟩ =
        ⟨(done ++ [slot.point b (before.length + 1)]) ++ (slots ++ more), some 0, b,
          (done ++ [slot.point b (before.length + 1)]).length,
          (before ++ 0 :: f) ++ (Scan.fields 44 fs ++ (rest ++ [0]))⟩ := by
      rw [Splitting.comma, List.cons_append, modify_next]
      simp
    have hindex : before.length + 1 + f.length + (Scan.fields 44 fs).length =
        before.length + (Scan.fields 44 (f :: fs)).length := by
      simp only [Scan.fields_cons, List.length_cons, List.length_append]
      omega
    rw [hinput, splitLoop_field count (hfs f (.head _)), hcomma, ← hlength, hnext, hlength, hindex]
    simp [Scan.starts, Nat.add_assoc, Nat.add_comm 1]

/-- Each field is counted at its comma. -/
theorem counts_fields (counts : ValueCounts) :
    (Scan.fields 44 fs).foldl (ValueCounts.next 61) counts =
      if counts.countingValues then { counts with valueCount := counts.valueCount + fs.length }
      else { counts with unitCount := counts.unitCount + fs.length } := by
  induction fs generalizing counts with
  | nil => cases counts; simp
  | cons f fs ih =>
    rw [Scan.fields_cons, List.foldl_cons, List.foldl_append, counts_clear (hfs f (.head _)),
      ih fun g hg => hfs g (.tail _ hg)]
    obtain ⟨unitCount, valueCount, countingValues⟩ := counts
    cases countingValues with
    | false => simp [ValueCounts.next, Nat.add_assoc, Nat.add_comm 1]
    | true => simp [ValueCounts.next, Nat.add_assoc, Nat.add_comm 1]

end

section
variable {v : Bytes} {vs : List Bytes} (hvs : ∀ f ∈ v :: vs, Scan.Clear 44 61 f)
include hvs

/-- The values behind the token. -/
theorem splitLoop_token {slots : List PairPointers} (hslots : slots.length = vs.length + 1)
    (more : List PairPointers) (type : Option Nat) (n : Nat) (before : Bytes) :
    splitLoop 61 (vs.length + 1) (61 :: (v ++ Scan.fields 44 vs)) before.length
        ⟨slots ++ more, type, false, n, before ++ (61 :: (v ++ Scan.fields 44 vs) ++ [0])⟩ =
      ⟨List.zipWith (PairPointers.point true) (Scan.starts before.length (v :: vs)) slots ++ more,
        some 0, true, vs.length + 1, before ++ (Scan.fields 0 (v :: vs) ++ [0])⟩ := by
  obtain ⟨slot, slots, rfl⟩ := List.exists_cons_of_length_eq_add_one hslots
  have hvs' : ∀ f ∈ vs, Scan.Clear 44 61 f := fun f hf => hvs f (.tail _ hf)
  have hequals : Splitting.equals before.length ⟨slot :: slots ++ more, type, false, n,
      before ++ (61 :: (v ++ Scan.fields 44 vs) ++ [0])⟩ =
      ⟨[slot.point true (before.length + 1)] ++ (slots ++ more), some 0, true,
        [slot.point true (before.length + 1)].length,
        (before ++ 0 :: v) ++ (Scan.fields 44 vs ++ ([] ++ [0]))⟩ := by
    simp [Splitting.equals]
  have hlength : (before ++ 0 :: v).length = before.length + 1 + v.length := by
    rw [List.length_append, List.length_cons]
    omega
  rw [splitLoop, if_neg (by decide), if_pos ⟨rfl, rfl⟩, hequals]
  split
  next hone =>
    -- the loop ends here, but there is no comma left
    obtain rfl : vs = [] := List.eq_nil_of_length_eq_zero (Nat.succ.inj hone)
    obtain rfl : slots = [] := List.eq_nil_of_length_eq_zero (Nat.succ.inj hslots)
    simp [Scan.starts]
  next =>
    have hrun := splitLoop_fields hvs' (vs.length + 1) true (Nat.succ.inj hslots)
      [slot.point true (before.length + 1)] more (some 0) (before ++ 0 :: v) []
    rw [List.append_nil] at hrun
    rw [splitLoop_clear _ (hvs v (.head _)), ← hlength, hrun, splitLoop, ite_self]
    simp [Scan.starts, hlength, Nat.add_comm 1]

end

/-- The pairs of a data payload. -/
def valuePairs (pairs : List (CStr × CStr)) : List CayenneValuePair :=
  pairs.map fun pair => ⟨some pair.1, some pair.2⟩

/-- The text that `CayenneBuildDataPayload` writes for a type: all units, and then all values, the
first of which is behind the token. -/
def dataText (type : Bytes) (units : List Bytes) (value : Bytes) (values : List Bytes) : Bytes :=
  type ++ (Scan.fields 44 units ++ 61 :: (value ++ Scan.fields 44 values))

theorem unitsText_valuePairs (type : Option CStr) {payload : CStr}
    (hpayload : payload.nonEmpty = true) (pairs : List (CStr × CStr)) :
    (unitsText type payload (valuePairs pairs)).val =
      payload.val ++ Scan.fields 44 ((pairs.map Prod.fst).map CStr.val) := by
  induction pairs generalizing payload with
  | nil => exact (List.append_nil _).symm
  | cons pair pairs ih =>
    have hnext : (payload ++ lit "," ++ pair.1).nonEmpty = true := by
      rw [nonEmpty_append, nonEmpty_append, hpayload]
      rfl
    show (unitsText type ((if payload.nonEmpty then payload ++ lit "," else payload) ++ pair.1)
      (valuePairs pairs)).val = _
    rw [if_pos hpayload, ih hnext, comma_val, List.map_cons, List.map_cons, Scan.fields_cons,
      List.append_assoc]
    rfl

theorem valuesText_valuePairs (payload : CStr) (pair : CStr × CStr) (pairs : List (CStr × CStr)) :
    (valuesText payload (valuePairs (pair :: pairs))).val =
      payload.val ++ (pair.2.val ++ Scan.fields 44 ((pairs.map Prod.snd).map CStr.val)) := by
  induction pairs generalizing payload pair with
  | nil => simp [valuePairs, valuesText]
  | cons next pairs ih =>
    show (valuesText (payload ++ pair.2 ++ lit ",") (valuePairs (next :: pairs))).val = _
    have hcomma : (lit ",").val = [44] := rfl
    rw [ih]
    simp [hcomma]

theorem payloadText_valuePairs {type : CStr} (htype : type.nonEmpty = true) (pair : CStr × CStr)
    (pairs : List (CStr × CStr)) :
    (payloadText (some type) (valuePairs (pair :: pairs))).val =
      dataText type.val (((pair :: pairs).map Prod.fst).map CStr.val) pair.2.val
        ((pairs.map Prod.snd).map CStr.val) := by
  have hunits : (unitsText (some type) type (valuePairs (pair :: pairs))).nonEmpty = true := by
    rw [nonEmpty_unitsText, htype]
    rfl
  have hequals : (lit "=").val = [61] := rfl
  show (valuesText (if (unitsText (some type) type (valuePairs (pair :: pairs))).nonEmpty && true
    then _ else _) _).val = _
  rw [hunits, Bool.and_true, if_pos rfl, valuesText_valuePairs, CStr.append_val, Option.getD_some,
    unitsText_valuePairs (some type) htype, hequals, dataText]
  simp

section
variable {type v : Bytes} {us vs : List Bytes} {payload : CStr}
  (hpayload : payload.val = dataText type us v vs) (hcount : us.length = vs.length + 1)
  (htype : Scan.Clear 44 61 type) (hus : ∀ f ∈ us, Scan.Clear 44 61 f)
  (hvs : ∀ f ∈ v :: vs, Scan.Clear 44 61 f)
include hpayload hcount htype hus hvs

/-- There are as many values as units. -/
theorem getValueCount_dataText : getValueCount payload 61 = .ok (vs.length + 1) := by
  have hcounts : payload.val.foldl (ValueCounts.next 61) ⟨0, 0, false⟩ =
      ⟨vs.length + 1, vs.length + 1, true⟩ := by
    rw [hpayload, dataText, List.foldl_append, counts_clear htype, List.foldl_append,
      counts_fields hus, List.foldl_cons, List.foldl_append, counts_clear (hvs v (.head _)),
      counts_fields fun f hf => hvs f (.tail _ hf)]
    simp [ValueCounts.next, hcount, Nat.add_comm 1]
  rw [getValueCount, if_neg (by decide), hcounts]
  simp

/-- **The pointers** of a data payload. -/
theorem parsePayload_dataText {valuesSize : Nat} (hsize : vs.length + 1 ≤ valuesSize) :
    parsePayload true (noPairs valuesSize) payload 61 =
      ⟨none,
        List.zipWith (PairPointers.point true)
          (Scan.starts (type ++ Scan.fields 0 us).length (v :: vs))
          (List.zipWith (PairPointers.point false) (Scan.starts type.length us)
            (noPairs (vs.length + 1))) ++ noPairs (valuesSize - (vs.length + 1)),
        vs.length + 1, some 0, none,
        type ++ Scan.fields 0 us ++ (Scan.fields 0 (v :: vs) ++ [0])⟩ := by
  have hnone : (noPairs valuesSize).modify 0 (fun _ => ⟨none, none⟩) =
      [] ++ (noPairs (vs.length + 1) ++ noPairs (valuesSize - (vs.length + 1))) := by
    obtain ⟨more, rfl⟩ := Nat.exists_eq_add_of_le hsize
    rw [Nat.add_sub_cancel_left, noPairs, noPairs, noPairs, List.replicate_append_replicate,
      Nat.succ_add, List.replicate_succ]
    rfl
  have hslots : (noPairs (vs.length + 1)).length = us.length := by
    rw [noPairs, List.length_replicate, hcount]
  have hpoints : (List.zipWith (PairPointers.point false) (Scan.starts type.length us)
      (noPairs (vs.length + 1))).length = vs.length + 1 := by
    rw [List.length_zipWith, Scan.length_starts, hslots, Nat.min_self, hcount]
  have hmemory : payload.val ++ [0] =
      type ++ (Scan.fields 44 us ++ (61 :: (v ++ Scan.fields 44 vs) ++ [0])) := by
    rw [hpayload, dataText, List.append_assoc, List.append_assoc]
  have hlength : type.length + (Scan.fields 44 us).length =
      (type ++ Scan.fields 0 us).length := by
    rw [List.length_append, Scan.length_fields 44 0]
  have hloop : splitLoop 61 (vs.length + 1) payload.val 0
      ⟨(noPairs valuesSize).modify 0 fun _ => ⟨none, none⟩, none, false, 0, payload.val ++ [0]⟩ =
      ⟨List.zipWith (PairPointers.point true)
          (Scan.starts (type ++ Scan.fields 0 us).length (v :: vs))
          (List.zipWith (PairPointers.point false) (Scan.starts type.length us)
            (noPairs (vs.length + 1))) ++ noPairs (valuesSize - (vs.length + 1)),
        some 0, true, vs.length + 1,
        type ++ Scan.fields 0 us ++ (Scan.fields 0 (v :: vs) ++ [0])⟩ := by
    have hunits := splitLoop_fields hus (vs.length + 1) false hslots []
      (noPairs (valuesSize - (vs.length + 1))) none type (61 :: (v ++ Scan.fields 44 vs))
    rw [hnone, hmemory, hpayload, dataText, splitLoop_clear _ htype, Nat.zero_add]
    refine hunits.trans ?_
    rw [hlength, List.nil_append, ← List.append_assoc type]
    exact splitLoop_token hvs hpoints _ _ _ _
  have hzero : ((61 : UInt8) == 0) = false := rfl
  rw [parsePayload_of_ok (getValueCount_dataText hpayload hcount htype hus hvs)]
  simp only [hzero, hloop]

end

/-- Both strings of the pairs have their pointers. -/
theorem zipWith_point {n : Nat} {is js : List Nat} (his : is.length = n) (hjs : js.length = n) :
    List.zipWith (PairPointers.point true) js
        (List.zipWith (PairPointers.point false) is (noPairs n)) =
      List.zipWith (fun i j => ⟨some i, some j⟩) is js := by
  induction n generalizing is js with
  | zero =>
    rw [List.eq_nil_of_length_eq_zero his, List.eq_nil_of_length_eq_zero hjs]
    rfl
  | succ n ih =>
    obtain ⟨i, is, rfl⟩ := List.exists_cons_of_length_eq_add_one his
    obtain ⟨j, js, rfl⟩ := List.exists_cons_of_length_eq_add_one hjs
    show _ :: List.zipWith (PairPointers.point true) js
      (List.zipWith (PairPointers.point false) is (noPairs n)) = _
    rw [ih (Nat.succ.inj his) (Nat.succ.inj hjs)]
    rfl

/-- Fields with terminators are strings. -/
theorem ParsedPayload.string_starts {p : ParsedPayload} {before after : Bytes} {fs : List CStr}
    (h : p.memory = before ++ (Scan.fields 0 (fs.map CStr.val) ++ 0 :: after)) :
    (Scan.starts before.length (fs.map CStr.val)).map p.string = fs := by
  have hval : Function.Injective CStr.val := fun _ _ => CStr.ext
  refine List.map_injective_iff.2 hval ?_
  rw [List.map_map]
  have hnul : ∀ f ∈ fs.map CStr.val, (0 : UInt8) ∉ f := by
    intro f hf
    obtain ⟨s, -, rfl⟩ := List.mem_map.1 hf
    exact s.nulFree
  have hstarts := Scan.takeWhile_starts 0 before hnul after
  rw [← h] at hstarts
  exact hstarts

/-- What the caller reads through the pointers. -/
theorem gives_of_points {p : ParsedPayload} {is js : List Nat} {more : List PairPointers}
    {type : CStr} {units values : List CStr} (hcode : p.code = none)
    (hvalues : p.values = List.zipWith (fun i j => ⟨some i, some j⟩) is js ++ more)
    (htype : p.type = some 0) (hid : p.id = none) (hsize : p.valuesSize = values.length)
    (hstring : p.string 0 = type) (hunits : is.map p.string = units)
    (hstrings : js.map p.string = values) (hcount : units.length = values.length) :
    p.Gives ⟨some type, none, List.zipWith (fun u v => ⟨some u, some v⟩) units values⟩ := by
  subst hunits hstrings hstring
  rw [List.length_map, List.length_map] at hcount
  rw [List.length_map] at hsize
  have htake : p.values.take p.valuesSize = List.zipWith (fun i j => ⟨some i, some j⟩) is js := by
    rw [hvalues, hsize]
    exact List.take_left' (by rw [List.length_zipWith, hcount, Nat.min_self])
  refine ⟨hcode, ?_, ?_⟩
  · simp [hsize, hcount]
  · simp [ParsedPayload.message, htype, hid, htake, List.map_zipWith, List.zipWith_map]

/-- **Data payloads are read back**, unit by unit and value by value. -/
theorem parseData_gives {type value payload : CStr} {units values : List CStr}
    (hpayload : payload.val =
      dataText type.val (units.map CStr.val) value.val (values.map CStr.val))
    (hcount : units.length = values.length + 1) (htype : Scan.Clear 44 61 type.val)
    (hunits : ∀ f ∈ units.map CStr.val, Scan.Clear 44 61 f)
    (hvalues : ∀ f ∈ (value :: values).map CStr.val, Scan.Clear 44 61 f)
    {valuesSize : Nat} (hsize : values.length + 1 ≤ valuesSize) :
    (cayenneParsePayload true valuesSize .data payload).Gives
      ⟨some type, none, List.zipWith (fun u v => ⟨some u, some v⟩) units (value :: values)⟩ := by
  have hus : (units.map CStr.val).length = (values.map CStr.val).length + 1 := by
    rw [List.length_map, List.length_map, hcount]
  have hsize' : (values.map CStr.val).length + 1 ≤ valuesSize := by rwa [List.length_map]
  have hparsed := parsePayload_dataText hpayload hus htype hunits hvalues hsize'
  rw [zipWith_point (by rw [Scan.length_starts, hus])
    (by rw [Scan.length_starts, List.length_cons])] at hparsed
  rw [cayenneParsePayload_data (Nat.lt_of_lt_of_le (Nat.succ_pos _) hsize), hparsed]
  obtain ⟨u, us, rfl⟩ := List.exists_cons_of_length_eq_add_one hcount
  apply gives_of_points
  · rfl
  · rfl
  · rfl
  · rfl
  · show (values.map CStr.val).length + 1 = (value :: values).length
    rw [List.length_map, List.length_cons]
  · show CStr.ofBytes (type.val ++ Scan.fields 0 ((u :: us).map CStr.val) ++ _) = type
    rw [List.append_assoc, List.map_cons, Scan.fields_cons, List.cons_append,
      CStr.ofBytes_append_nul, CStr.ofBytes_val]
  · exact ParsedPayload.string_starts (List.append_assoc _ _ _)
  · rw [← List.map_cons]
    apply ParsedPayload.string_starts
    rfl
  · exact hcount

/-! ## Separators in the type -/

/-- The type ends at an index: its pointer is set, and there is a terminator. -/
def Splitting.TypeEnds (i : Nat) (s : Splitting) : Prop :=
  s.type = some 0 ∧ s.memory[i]? = some 0

/-- A terminator is written, whichever the separator is. -/
theorem getElem?_set_nul {memory : Bytes} {i : Nat} (h : memory[i]? = some 0) (index : Nat) :
    (memory.set index 0)[i]? = some 0 := by
  rw [List.getElem?_set]
  split
  next heq =>
    subst heq
    rw [if_pos (List.getElem?_eq_some_iff.1 h).1]
  next => exact h

/-- The loop does not move the end of the type. -/
theorem splitLoop_typeEnds {token : UInt8} {count i : Nat} (text : Bytes) (index : Nat)
    {s : Splitting} (h : s.TypeEnds i) : (splitLoop token count text index s).TypeEnds i := by
  induction text generalizing index s with
  | nil => exact h
  | cons a text ih =>
    have hcomma : (s.comma index).TypeEnds i := ⟨rfl, getElem?_set_nul h.2 index⟩
    have hequals : (s.equals index).TypeEnds i := ⟨rfl, getElem?_set_nul h.2 index⟩
    rw [splitLoop]
    split
    · split
      · exact hcomma
      · exact ih _ hcomma
    · split
      · split
        · exact hequals
        · exact ih _ hequals
      · exact ih _ h

/-- The first separator ends the type. -/
theorem splitLoop_separator {count : Nat} {before : Bytes} (hbefore : Scan.Clear 44 61 before)
    {a : UInt8} (ha : a = 44 ∨ a = 61) (rest : Bytes) {s : Splitting}
    (hs : s.parsingValues = false) (hlength : before.length < s.memory.length) :
    (splitLoop 61 count (before ++ a :: rest) 0 s).TypeEnds before.length := by
  have hnul : (s.memory.set before.length 0)[before.length]? = some 0 :=
    List.getElem?_set_self hlength
  rw [splitLoop_clear count hbefore, Nat.zero_add, splitLoop]
  rcases ha with rfl | rfl
  · rw [if_pos rfl, if_neg (by decide)]
    exact splitLoop_typeEnds _ _ ⟨rfl, hnul⟩
  · rw [if_neg (by decide), if_pos ⟨rfl, hs⟩]
    split
    · exact ⟨rfl, hnul⟩
    · exact splitLoop_typeEnds _ _ ⟨rfl, hnul⟩

/-- A string that ends at a terminator has no other character there. -/
theorem Splitting.TypeEnds.ne {s : Splitting} {type : CStr} {before after : Bytes} {a : UInt8}
    (h : s.TypeEnds before.length) (htype : type.val = before ++ a :: after) :
    CStr.ofBytes s.memory ≠ type := by
  intro hread
  obtain ⟨more, hmore⟩ : type.val <+: s.memory := by
    rw [← hread]
    exact List.takeWhile_prefix _
  have hnul := h.2
  rw [← hmore, htype, List.append_assoc, List.getElem?_append_right (Nat.le_refl _),
    Nat.sub_self] at hnul
  cases hnul
  exact type.nulFree (by simp [htype])

/-- A type with a separator is not read back. -/
theorem parseData_type_ne {valuesSize : Nat} (hsize : 0 < valuesSize) {type payload : CStr}
    {rest before after : Bytes} {a : UInt8} (hpayload : payload.val = type.val ++ rest)
    (htype : type.val = before ++ a :: after) (hbefore : Scan.Clear 44 61 before)
    (ha : a = 44 ∨ a = 61) :
    (cayenneParsePayload true valuesSize .data payload).message.type ≠ some type := by
  intro h
  rw [cayenneParsePayload_data hsize] at h
  cases hcount : getValueCount payload 61 with
  | error e =>
    rw [parsePayload, if_pos rfl, hcount] at h
    cases h
  | ok count =>
    rw [parsePayload_of_ok hcount] at h
    have htext : payload.val = before ++ a :: (after ++ rest) := by
      rw [hpayload, htype, List.append_assoc]
      rfl
    have hlength : before.length < (payload.val ++ [0]).length := by
      rw [htext]
      simp only [List.length_append, List.length_cons]
      omega
    have hends : (splitLoop 61 count payload.val 0
        ⟨(noPairs valuesSize).modify 0 fun _ => ⟨none, none⟩, none, (61 : UInt8) == 0, 0,
          payload.val ++ [0]⟩).TypeEnds before.length := by
      rw [htext] at hlength ⊢
      exact splitLoop_separator hbefore ha _ rfl hlength
    generalize splitLoop 61 count payload.val 0 _ = s at h hends
    have hread : s.type.map (fun i => CStr.ofBytes (s.memory.drop i)) = some type := h
    rw [hends.1] at hread
    exact hends.ne htype (Option.some.inj hread)

/-- So a type that is read back has none. -/
theorem clear_of_parseData_type {valuesSize : Nat} (hsize : 0 < valuesSize) {type payload : CStr}
    {rest : Bytes} (hpayload : payload.val = type.val ++ rest)
    (h : (cayenneParsePayload true valuesSize .data payload).message.type = some type) :
    Scan.Clear 44 61 type.val := by
  rcases Scan.seek_cases 44 61 type.val with hclear | ⟨before, after, htype, hbefore⟩ |
    ⟨before, after, htype, hbefore⟩
  · exact hclear
  · exact absurd h (parseData_type_ne hsize hpayload htype hbefore (.inl rfl))
  · exact absurd h (parseData_type_ne hsize hpayload htype hbefore (.inr rfl))

/-- **Data payloads round-trip** exactly when there is no separator in the type. -/
theorem data_payload_round_trip (maxValues : Nat) {type : CStr} (htype : type.nonEmpty = true)
    {pairs : List (CStr × CStr)} (hpairs : pairs ≠ []) (hmax : pairs.length ≤ maxValues)
    (hclear : ∀ pair ∈ pairs, Scan.Clear 44 61 pair.1.val ∧ Scan.Clear 44 61 pair.2.val) :
    (∃ payload, BuildsPayload (some type) (valuePairs pairs) payload) ∧
      ∀ payload, BuildsPayload (some type) (valuePairs pairs) payload →
        ((cayenneParsePayload true maxValues .data payload).Gives
          ⟨some type, none, valuePairs pairs⟩ ↔ Scan.Clear 44 61 type.val) := by
  refine ⟨⟨_, buildsPayload_iff.2 rfl⟩, fun payload hbuilt => ?_⟩
  obtain ⟨pair, pairs, rfl⟩ := List.exists_cons_of_ne_nil hpairs
  have htext := payloadText_valuePairs htype pair pairs
  rw [← buildsPayload_iff.1 hbuilt] at htext
  constructor
  · intro hgives
    have hsize : 0 < maxValues := Nat.lt_of_lt_of_le (Nat.succ_pos _) hmax
    exact clear_of_parseData_type hsize htext (congrArg PayloadMessage.type hgives.message)
  · intro hclearType
    have hunits : ∀ f ∈ ((pair :: pairs).map Prod.fst).map CStr.val, Scan.Clear 44 61 f := by
      rw [List.map_map, List.forall_mem_map]
      exact fun p hp => (hclear p hp).1
    have hvalues : ∀ f ∈ ((pair :: pairs).map Prod.snd).map CStr.val, Scan.Clear 44 61 f := by
      rw [List.map_map, List.forall_mem_map]
      exact fun p hp => (hclear p hp).2
    have hgives := parseData_gives htext (by simp) hclearType hunits hvalues (by simpa using hmax)
    have hzip : List.zipWith (fun u v => (⟨some u, some v⟩ : CayenneValuePair))
        ((pair :: pairs).map Prod.fst) ((pair :: pairs).map Prod.snd) =
        valuePairs (pair :: pairs) := by
      rw [List.zipWith_map, List.zipWith_self]
      rfl
    rw [← hzip]
    exact hgives

theorem data_payload_round_trip_temp :
    (lit "temp").nonEmpty = true ∧
      (cayenneParsePayload true cayenneMaxMessageValues .data
        (payloadText (some (lit "temp"))
          (valuePairs [(lit "c", lit "21"), (lit "f", lit "70")]))).Gives
        ⟨some (lit "temp"), none, valuePairs [(lit "c", lit "21"), (lit "f", lit "70")]⟩ := by
  have htype : (lit "temp").nonEmpty = true := by decide
  exact ⟨htype, ((data_payload_round_trip cayenneMaxMessageValues htype (by decide) (by decide)
    (by decide +kernel)).2 _ (buildsPayload_iff.2 rfl)).2 (by decide +kernel)⟩

/-- A type with a comma: the payload `a,b,u=v` has two units and one value. -/
theorem type_with_comma_fails :
    ¬ ∀ (type : CStr) (pairs : List (CStr × CStr)) (payload : CStr), type.nonEmpty = true →
      pairs ≠ [] → pairs.length ≤ cayenneMaxMessageValues →
      (∀ pair ∈ pairs, pair.1.nonEmpty = true ∧ pair.2.nonEmpty = true ∧
        Scan.Clear 44 61 pair.1.val ∧ Scan.Clear 44 61 pair.2.val) →
      BuildsPayload (some type) (valuePairs pairs) payload →
      (cayenneParsePayload true cayenneMaxMessageValues .data payload).Gives
        ⟨some type, none, valuePairs pairs⟩ := by
  intro h
  have hgives := h (lit "a,b") [(lit "u", lit "v")] (lit "a,b,u=v") (by decide) (by decide)
    (by decide) (by decide +kernel) (buildsPayload_iff.2 (by decide +kernel))
  have hcode : (cayenneParsePayload true cayenneMaxMessageValues .data (lit "a,b,u=v")).code =
      some .failure := by decide +kernel
  have hnone := hgives.code
  rw [hcode] at hnone
  cases hnone

end Esp32Iot
