import Esp32Iot.Bluetooth.Sensor

/-!
# Values that are too short

`Esp32Iot.Bluetooth.Sensor` takes the value of a characteristic as a list and stops at an access
behind its end. On the device the value is a pointer and a length, the access reads what lies there,
and the decoding goes on with it. Here the value is memory from `value` on, every byte that is read
is logged, and `decode_list` says that both views give the same data on the values that are long
enough, and that the others are those at which the lists stop.

The handler passes the length to the logs and never compares it. `values_safe_iff` says that an
event is handled safely exactly when its value has the bytes that the branch of its handle reads;
`battery_reads_behind_value` is a battery value of one byte.
-/

namespace Esp32Iot

open Trunc (trunc)

/-! ## Reading a value -/

/-- `value` and `value_len` of an event. -/
structure GattValue where
  /-- the memory from `value` on -/
  bytes : Nat → UInt8
  len : Nat

/-- A decoder, which logs the bytes of the value that it reads. -/
abbrev ValueReader := StateM (List Nat)

namespace GattValue

/-- `value[i]`. -/
def peek (v : GattValue) (i : Nat) : ValueReader UInt8 := fun log => (v.bytes i, log ++ [i])

/-- `esp_log_buffer_hex(GATTC_TAG, value, value_len)`. -/
def logBufferHex (v : GattValue) : ValueReader Unit := fun log => ((), log ++ List.range v.len)

/-- The value as a list. -/
def list (v : GattValue) (n : Nat) : Bytes := (List.range n).map v.bytes

theorem list_add (v : GattValue) (k n : Nat) :
    v.list (k + n) = v.list k ++ (List.range n).map fun i => v.bytes (k + i) := by
  simp [list, List.range_add]

/-- A value that is long enough starts with the bytes that are read. -/
theorem list_eq_append (v : GattValue) {k : Nat} (hk : k ≤ v.len) :
    ∃ rest, v.list v.len = v.list k ++ rest := by
  obtain ⟨n, hn⟩ := Nat.le.dest hk
  rw [← hn, list_add]
  exact ⟨_, rfl⟩

end GattValue

/-! ## The handler -/

/-- The branch of the HTU21D in `ESP_GATTC_NOTIFY_EVT`. -/
def SensorData.htu21dNotifyValue (h : HandleData) (d : SensorData) (v : GattValue) :
    ValueReader (List UInt16 × SensorData) := do
  let temperature := Int16.ofInt (word16 (← v.peek 0) (← v.peek 1))
  let humidity := Int16.ofInt (word16 (← v.peek 3) (← v.peek 4))
  let d := { d with
    htu21dTemperature := Int16.ofInt (trunc (-46.85 + 175.72 * (temperature.toInt : ℚ) / 65536))
    htu21dHumidity := Int16.ofInt (-6 + (125 * humidity.toInt).tdiv 65536)
    htu21dCounter := d.htu21dCounter + 1 }
  if readInterval ≤ d.htu21dCounter then
    return ([h.charHandle .htu21d .status, h.charHandle .battery .data],
      { d with htu21dCounter := 0 })
  else return ([], d)

/-- The branch of the MS5637. -/
def SensorData.ms5637NotifyValue (h : HandleData) (d : SensorData) (v : GattValue) :
    ValueReader (List UInt16 × SensorData) := do
  v.logBufferHex
  let d1 := word24 (← v.peek 0) (← v.peek 1) (← v.peek 2)
  let d2 := word24 (← v.peek 3) (← v.peek 4) (← v.peek 5)
  let d := { d with
    ms5637D1 := UInt32.ofNat d1
    ms5637D2 := UInt32.ofNat d2
    ms5637Counter := d.ms5637Counter + 1 }
  if readInterval ≤ d.ms5637Counter then
    return ([h.charHandle .ms5637 .calibration, h.charHandle .ms5637 .status],
      { d with ms5637Counter := 0 })
  else return ([], d)

/-- The branch of the battery, here and in `ESP_GATTC_READ_CHAR_EVT`. -/
def SensorData.batteryReadValue (d : SensorData) (v : GattValue) : ValueReader SensorData := do
  v.logBufferHex
  return { d with batteryLevel := ← v.peek 0, batteryStatus := ← v.peek 1 }

/-- The words of the calibration: `C5` and `C6` are read first. -/
def Calibration.read (v : GattValue) : ValueReader Calibration := do
  let c5 := word16 (← v.peek 8) (← v.peek 9)
  let c6 := word16 (← v.peek 10) (← v.peek 11)
  let c2 := word16 (← v.peek 2) (← v.peek 3)
  let c4 := word16 (← v.peek 6) (← v.peek 7)
  let c1 := word16 (← v.peek 0) (← v.peek 1)
  let c3 := word16 (← v.peek 4) (← v.peek 5)
  return ⟨c1, c2, c3, c4, c5, c6⟩

/-- The branch of the calibration in `ESP_GATTC_READ_CHAR_EVT`. -/
def SensorData.ms5637CalibrationValue (d : SensorData) (v : GattValue) :
    ValueReader SensorData := do
  let c ← Calibration.read v
  return { d with
    ms5637Temperature := Int32.ofInt (compensate d.ms5637D1 d.ms5637D2 c).temperature
    ms5637Pressure := Int32.ofInt (compensate d.ms5637D1 d.ms5637D2 c).pressure }

/-- An event that carries the value of a characteristic. -/
inductive ValueEvent
  /-- `ESP_GATTC_NOTIFY_EVT` -/
  | notify (handle : UInt16)
  /-- `ESP_GATTC_READ_CHAR_EVT`; `ok` is `status == ESP_GATT_OK` -/
  | readChar (ok : Bool) (handle : UInt16)
  deriving DecidableEq

/-- `gattc_profile_BA5C_event_handler` for these events: the characteristics that are read, and the
data. -/
def SensorData.decode (h : HandleData) (d : SensorData) (v : GattValue) :
    ValueEvent → ValueReader (List UInt16 × SensorData)
  | .notify handle =>
    if handle = h.charHandle .htu21d .data then d.htu21dNotifyValue h v
    else if handle = h.charHandle .ms5637 .data then d.ms5637NotifyValue h v
    else if handle = h.charHandle .battery .data then return ([], ← d.batteryReadValue v)
    else return ([], d)
  | .readChar ok handle =>
    if !ok then return ([], d)
    else if handle = h.charHandle .htu21d .status then do
      v.logBufferHex
      return ([], { d with htu21dStatus := ← v.peek 0 })
    else if handle = h.charHandle .ms5637 .calibration then
      return ([], ← d.ms5637CalibrationValue v)
    else if handle = h.charHandle .ms5637 .status then do
      v.logBufferHex
      return ([], { d with ms5637Status := ← v.peek 0 })
    else if handle = h.charHandle .battery .data then return ([], ← d.batteryReadValue v)
    else return ([], d)

/-- The bytes that the value of an event must have for its characteristic: those of the branch that
its handle selects, and none without one. -/
def ValueEvent.needed (h : HandleData) : ValueEvent → Nat
  | .notify handle =>
    if handle = h.charHandle .htu21d .data then 5
    else if handle = h.charHandle .ms5637 .data then 6
    else if handle = h.charHandle .battery .data then 2
    else 0
  | .readChar ok handle =>
    if !ok then 0
    else if handle = h.charHandle .htu21d .status then 1
    else if handle = h.charHandle .ms5637 .calibration then 12
    else if handle = h.charHandle .ms5637 .status then 1
    else if handle = h.charHandle .battery .data then 2
    else 0

/-- The same event over lists. -/
def SensorData.decodeList (h : HandleData) (d : SensorData) (value : Bytes) :
    ValueEvent → Option (List UInt16 × SensorData)
  | .notify handle => d.notify h handle value
  | .readChar ok handle => (d.readChar h ok handle value).map ([], ·)

/-! ## What a branch reads -/

/-- A branch that needs `n` bytes of the value, and what it does on a list. -/
structure ValueBranch {α : Type} (v : GattValue) (n : Nat) (decoder : ValueReader α)
    (onList : Bytes → Option α) : Prop where
  /-- what it reads is in the value when that has the `n` bytes -/
  within : (∀ i ∈ (decoder []).2, i < v.len) ↔ n ≤ v.len
  long : ∀ rest, onList (v.list n ++ rest) = some (decoder []).1
  short : ∀ value : Bytes, value.length < n → onList value = none

namespace ValueBranch

variable {α β : Type} {v : GattValue} {n : Nat}

/-- A branch that reads nothing. -/
theorem silent (a : α) : ValueBranch v 0 (pure a) fun _ => some a where
  within := ⟨fun _ => Nat.zero_le _, fun _ _ h => by cases h⟩
  long _ := rfl
  short _ h := absurd h (Nat.not_lt_zero _)

/-- What is done with the result of a branch does not read the value. -/
theorem map {decoder : ValueReader α} {onList : Bytes → Option α} (f : α → β)
    (h : ValueBranch v n decoder onList) :
    ValueBranch v n (do return f (← decoder)) fun value => (onList value).map f where
  within := h.within
  long rest := by rw [h.long]; rfl
  short value hlt := by rw [h.short value hlt]; rfl

/-- A branch that logs the value and then reads some of its bytes, the last of them being the last
that it needs. -/
theorem of_reads {decoder : ValueReader α} {onList : Bytes → Option α} (logged reads : List Nat)
    (hlog : (decoder []).2 = logged ++ reads) (hlogged : ∀ i ∈ logged, i < v.len)
    (hbelow : ∀ i ∈ reads, i < n) (hlast : ∃ i ∈ reads, i + 1 = n)
    (hlong : ∀ rest, onList (v.list n ++ rest) = some (decoder []).1)
    (hshort : ∀ value : Bytes, value.length < n → onList value = none) :
    ValueBranch v n decoder onList where
  within := by
    rw [hlog, List.forall_mem_append]
    constructor
    · rintro ⟨-, hreads⟩
      obtain ⟨i, hi, hn⟩ := hlast
      have hlt := hreads i hi
      omega
    · intro hle
      exact ⟨hlogged, fun i hi => Nat.lt_of_lt_of_le (hbelow i hi) hle⟩
  long := hlong
  short := hshort

end ValueBranch

theorem htu21dNotifyValue_branch (h : HandleData) (d : SensorData) (v : GattValue) :
    ValueBranch v 5 (d.htu21dNotifyValue h v) (d.htu21dNotify h) := by
  refine .of_reads [] [0, 1, 3, 4] ?_ nofun (by decide) (by decide) ?_ ?_
  · unfold SensorData.htu21dNotifyValue
    simp only [GattValue.peek, bind, StateT.bind, pure]
    split <;> rfl
  · intro rest
    show d.htu21dNotify h (v.bytes 0 :: v.bytes 1 :: v.bytes 2 :: v.bytes 3 :: v.bytes 4 ::
      rest) = _
    unfold SensorData.htu21dNotifyValue SensorData.htu21dNotify
    simp only [GattValue.peek, bind, StateT.bind, pure]
    split <;> rfl
  · intro value hlt
    unfold SensorData.htu21dNotify
    split
    next => simp only [List.length_cons] at hlt; omega
    next => rfl

theorem ms5637NotifyValue_branch (h : HandleData) (d : SensorData) (v : GattValue) :
    ValueBranch v 6 (d.ms5637NotifyValue h v) (d.ms5637Notify h) := by
  refine .of_reads (List.range v.len) [0, 1, 2, 3, 4, 5] ?_
    (fun _ => List.mem_range.1) (by decide) (by decide) ?_ ?_
  · unfold SensorData.ms5637NotifyValue
    simp only [GattValue.peek, GattValue.logBufferHex, bind, StateT.bind, pure, List.append_assoc]
    split <;> rfl
  · intro rest
    show d.ms5637Notify h (v.bytes 0 :: v.bytes 1 :: v.bytes 2 :: v.bytes 3 :: v.bytes 4 ::
      v.bytes 5 :: rest) = _
    unfold SensorData.ms5637NotifyValue SensorData.ms5637Notify
    simp only [GattValue.peek, GattValue.logBufferHex, bind, StateT.bind, pure]
    split <;> rfl
  · intro value hlt
    unfold SensorData.ms5637Notify
    split
    next => simp only [List.length_cons] at hlt; omega
    next => rfl

theorem batteryReadValue_branch (d : SensorData) (v : GattValue) :
    ValueBranch v 2 (d.batteryReadValue v) d.batteryValue := by
  refine .of_reads (List.range v.len) [0, 1] ?_
    (fun _ => List.mem_range.1) (by decide) (by decide) (fun _ => rfl) ?_
  · exact List.append_assoc ..
  · intro value hlt
    unfold SensorData.batteryValue
    split
    next => simp only [List.length_cons] at hlt; omega
    next => rfl

theorem calibrationRead_branch (v : GattValue) :
    ValueBranch v 12 (Calibration.read v) Calibration.ofValue := by
  refine .of_reads [] [8, 9, 10, 11, 2, 3, 6, 7, 0, 1, 4, 5] rfl nofun
    (by decide) (by decide) (fun _ => rfl) ?_
  intro value hlt
  unfold Calibration.ofValue
  split
  next => simp only [List.length_cons] at hlt; omega
  next => rfl

/-- The branches of the two status characteristics. -/
theorem statusRead_branch (d : UInt8 → SensorData) (v : GattValue) :
    ValueBranch v 1 (do v.logBufferHex; return ([], d (← v.peek 0)))
      fun value => (value.head?.map d).map fun d => (([] : List UInt16), d) := by
  refine .of_reads (List.range v.len) [0] rfl
    (fun _ => List.mem_range.1) (by decide) (by decide) (fun _ => rfl) ?_
  intro value hlt
  obtain rfl : value = [] := List.length_eq_zero_iff.1 (by omega)
  rfl

/-- What the handler needs of a value, for every event. -/
theorem decode_branch (h : HandleData) (d : SensorData) (v : GattValue) (e : ValueEvent) :
    ValueBranch v (e.needed h) (d.decode h v e) fun value => d.decodeList h value e := by
  cases e with
  | notify handle =>
    simp only [ValueEvent.needed, SensorData.decode, SensorData.decodeList, SensorData.notify]
    split
    next => exact htu21dNotifyValue_branch h d v
    next =>
      split
      next => exact ms5637NotifyValue_branch h d v
      next =>
        split
        next => exact (batteryReadValue_branch d v).map _
        next => exact .silent _
  | readChar ok handle =>
    simp only [ValueEvent.needed, SensorData.decode, SensorData.decodeList, SensorData.readChar]
    split
    next => exact .silent _
    next =>
      split
      next => exact statusRead_branch _ v
      next =>
        split
        next => exact ((calibrationRead_branch v).map _).map _
        next =>
          split
          next => exact statusRead_branch _ v
          next =>
            split
            next => exact (batteryReadValue_branch d v).map _
            next => exact .silent _

/-! ## Safety -/

/-- The two views of a value agree: on lists the handler stops exactly at the values that are too
short, and else gives the data of the device. -/
theorem decode_list (h : HandleData) (d : SensorData) (v : GattValue) (e : ValueEvent) :
    d.decodeList h (v.list v.len) e =
      if e.needed h ≤ v.len then some (d.decode h v e []).1 else none := by
  have hbranch := decode_branch h d v e
  split
  next hle =>
    obtain ⟨rest, hrest⟩ := v.list_eq_append hle
    rw [hrest]
    exact hbranch.long rest
  next hnot => exact hbranch.short _ (by simpa [GattValue.list] using hnot)

/-- An event is handled safely: only bytes of the value are read, and a value that is too short for
its characteristic leaves `BA5C_data` as it is. -/
structure HandledSafely (h : HandleData) (d : SensorData) (v : GattValue) (e : ValueEvent) :
    Prop where
  within : ∀ i ∈ (d.decode h v e []).2, i < v.len
  kept : v.len < e.needed h → (d.decode h v e []).1.2 = d

/-- **Values of any length.** An event is handled safely exactly when its value has the bytes that
the branch of its handle reads. -/
theorem values_safe_iff (h : HandleData) (d : SensorData) (v : GattValue) (e : ValueEvent) :
    HandledSafely h d v e ↔ e.needed h ≤ v.len := by
  constructor
  · intro hsafe
    exact (decode_branch h d v e).within.1 hsafe.within
  · intro hle
    exact ⟨(decode_branch h d v e).within.2 hle, fun hlt => absurd hlt (Nat.not_lt.2 hle)⟩

/-- Handles as a discovery may leave them. -/
def someHandles : HandleData :=
  { HandleData.boot with
    charHandle := fun s role =>
      match s, role with
      | .battery, .data => 42
      | .ms5637, .data => 44
      | .ms5637, .status => 46
      | .ms5637, .calibration => 48
      | .htu21d, .data => 50
      | .htu21d, .status => 52
      | _, _ => 0 }

/-- A battery value of one byte: the byte behind it is read, and becomes the battery's status. -/
theorem battery_reads_behind_value :
    let v : GattValue := ⟨fun i => if i = 0 then 80 else 7, 1⟩
    ¬ HandledSafely someHandles SensorData.boot v (.notify 42) ∧
      (SensorData.boot.decode someHandles v (.notify 42) []).2 = [0, 0, 1] ∧
      (SensorData.boot.decode someHandles v (.notify 42) []).1.2 =
        { SensorData.boot with batteryLevel := 80, batteryStatus := 7 } := by
  refine ⟨fun hsafe => ?_, by decide, by decide⟩
  have hone : (1 : Nat) < 1 := hsafe.within 1 (by decide)
  exact Nat.lt_irrefl 1 hone

end Esp32Iot
