import Esp32Iot.Bluetooth.Sensor
import Esp32Iot.Cayenne.Publish
import Esp32Iot.Lib.Runs
import Esp32Iot.Mqtt.Decode

/-!
# From the sensor to the broker

`cayenne_task` publishes the data of the sensors on eight channels. This is the way of the humidity:
the raw word of a notification, its conversion in a signed field of 16 bits, any values of the other
sensors that come in before the task runs, and the publish packet on channel 1.

`humidity_published_iff` says when the packet carries the formula of the data sheet that stands in
the comment, -6 + 125 · raw / 2¹⁶: exactly when the top bit of the raw word is not set. The word is
taken for a negative number otherwise, and `wetReading_published` is one of these.
-/

namespace Esp32Iot

open CStr (lit concat)

/-! ## `cayenne_task` -/

/-- `CayenneMQTTPublishDataInt(&mqttClient, NULL, DATA_TOPIC, channel, type, unit, value)`, with its
channel. -/
def publishChannel (client : CayenneMqttClient) (line : UInt32 → PublishLine) (channel : UInt32)
    (type unit : String) (value : Int32) : UInt32 × Option (Int × Bytes) :=
  (channel, cayenneMqttPublishDataInt client none .data channel (some (lit type)) (some (lit unit))
    value (line channel))

/-- `cayenne_task`: what is published on each channel, in order. The client and its network may be
in another state at each call. -/
def cayenneTask (client : CayenneMqttClient) (line : UInt32 → PublishLine) (d : SensorData) :
    List (UInt32 × Option (Int × Bytes)) :=
  [publishChannel client line 0 "temp" "c" d.htu21dTemperature.toInt32,
    publishChannel client line 1 "rel_hum" "p" d.htu21dHumidity.toInt32,
    publishChannel client line 2 "digital" "d" (.ofNat d.htu21dStatus.toNat),
    publishChannel client line 3 "temp" "c" d.ms5637Temperature,
    publishChannel client line 4 "bp" "hpa" d.ms5637Pressure,
    publishChannel client line 5 "digital" "d" (.ofNat d.ms5637Status.toNat),
    publishChannel client line 6 "batt" "p" (.ofNat d.batteryLevel.toNat),
    publishChannel client line 7 "digital" "d" (.ofNat d.batteryStatus.toNat)]

/-- What channel 1 publishes is the humidity. -/
theorem mem_cayenneTask_one {client : CayenneMqttClient} {line : UInt32 → PublishLine}
    {d : SensorData} {published : Option (Int × Bytes)}
    (h : (1, published) ∈ cayenneTask client line d) :
    published = cayenneMqttPublishDataInt client none .data 1 (some (lit "rel_hum"))
      (some (lit "p")) d.htu21dHumidity.toInt32 (line 1) := by
  simp [cayenneTask, publishChannel] at h
  exact h

/-! ## Events of the sensors -/

/-- What the Bluetooth stack reports about a characteristic. -/
inductive SensorEvent
  | notify (handle : UInt16) (value : Bytes)
  | readChar (ok : Bool) (handle : UInt16) (value : Bytes)
  deriving DecidableEq

/-- `gattc_profile_BA5C_event_handler` on a value: the characteristics that are read, and the
data. -/
def SensorData.step (h : HandleData) (d : SensorData) :
    SensorEvent → Option (List UInt16 × SensorData)
  | .notify handle value => d.notify h handle value
  | .readChar ok handle value => (d.readChar h ok handle value).map ([], ·)

/-- An event that is not a data notification of the HTU21D. -/
def SensorEvent.Other (h : HandleData) : SensorEvent → Prop
  | .notify handle _ => handle ≠ h.charHandle .htu21d .data
  | .readChar .. => True

section
variable {h : HandleData} {d d' : SensorData} {value : Bytes} {reads : List UInt16}

theorem htu21dHumidity_ms5637Notify (hstep : d.ms5637Notify h value = some (reads, d')) :
    d'.htu21dHumidity = d.htu21dHumidity := by
  unfold SensorData.ms5637Notify at hstep
  split at hstep
  next =>
    dsimp only at hstep
    split at hstep
    · cases hstep; rfl
    · cases hstep; rfl
  next => cases hstep

theorem htu21dHumidity_batteryValue (hstep : d.batteryValue value = some d') :
    d'.htu21dHumidity = d.htu21dHumidity := by
  unfold SensorData.batteryValue at hstep
  split at hstep
  next => cases hstep; rfl
  next => cases hstep

theorem htu21dHumidity_readChar {ok : Bool} {handle : UInt16}
    (hstep : d.readChar h ok handle value = some d') : d'.htu21dHumidity = d.htu21dHumidity := by
  unfold SensorData.readChar at hstep
  split at hstep
  next => cases hstep; rfl
  next =>
    split at hstep
    next => obtain ⟨v, -, rfl⟩ := Option.map_eq_some_iff.1 hstep; rfl
    next =>
      split at hstep
      next => obtain ⟨c, -, rfl⟩ := Option.map_eq_some_iff.1 hstep; rfl
      next =>
        split at hstep
        next => obtain ⟨v, -, rfl⟩ := Option.map_eq_some_iff.1 hstep; rfl
        next =>
          split at hstep
          next => exact htu21dHumidity_batteryValue hstep
          next => cases hstep; rfl

/-- The other events do not change the humidity. -/
theorem htu21dHumidity_of_other {e : SensorEvent} (he : e.Other h)
    (hstep : d.step h e = some (reads, d')) : d'.htu21dHumidity = d.htu21dHumidity := by
  cases e with
  | readChar ok handle value =>
    obtain ⟨d₁, hread, hd⟩ := Option.map_eq_some_iff.1 hstep
    cases hd
    exact htu21dHumidity_readChar hread
  | notify handle value =>
    rw [SensorData.step, SensorData.notify, if_neg he] at hstep
    split at hstep
    next => exact htu21dHumidity_ms5637Notify hstep
    next =>
      split at hstep
      next =>
        obtain ⟨d₁, hvalue, hd⟩ := Option.map_eq_some_iff.1 hstep
        cases hd
        exact htu21dHumidity_batteryValue hvalue
      next => cases hstep; rfl

/-- Nor does any number of them. -/
theorem htu21dHumidity_of_others {events : List SensorEvent} (hother : ∀ e ∈ events, e.Other h)
    {outs : List (List UInt16)}
    (hrun : Runs.exec (SensorData.step h) d events = some (outs, d')) :
    d'.htu21dHumidity = d.htu21dHumidity := by
  have hkeep : ∀ s e o t, s.htu21dHumidity = d.htu21dHumidity → e.Other h →
      SensorData.step h s e = some (o, t) → t.htu21dHumidity = d.htu21dHumidity := by
    intro s e o t hs he hstep
    rw [htu21dHumidity_of_other he hstep, hs]
  exact Runs.exec_invariant hkeep rfl (Runs.along_of_forall hother) hrun

end

/-! ## The humidity -/

/-- What the data notification of the HTU21D stores. -/
theorem htu21dHumidity_notify {h : HandleData} {d d' : SensorData} {reads : List UInt16}
    {v₀ v₁ v₂ v₃ v₄ : UInt8} {value : Bytes}
    (hstep : d.step h (.notify (h.charHandle .htu21d .data) (v₀ :: v₁ :: v₂ :: v₃ :: v₄ :: value)) =
      some (reads, d')) :
    d'.htu21dHumidity =
      .ofInt (-6 + (125 * (Int16.ofInt (word16 v₃ v₄)).toInt).tdiv 65536) := by
  rw [SensorData.step, SensorData.notify, if_pos rfl, SensorData.htu21dNotify] at hstep
  dsimp only at hstep
  split at hstep
  · cases hstep; rfl
  · cases hstep; rfl

/-- The formula of the comment on the unsigned raw word, rounded down. -/
def relativeHumidity (v₃ v₄ : UInt8) : Int := -6 + 125 * (256 * v₃.toNat + v₄.toNat : Nat) / 65536

/-- The humidity lies between -6 and 118. -/
theorem relativeHumidity_mem (v₃ v₄ : UInt8) :
    -6 ≤ relativeHumidity v₃ v₄ ∧ relativeHumidity v₃ v₄ ≤ 118 := by
  have h₃ := v₃.toNat_lt
  have h₄ := v₄.toNat_lt
  unfold relativeHumidity
  omega

/-- A word without its top bit is converted as the formula says. -/
theorem storedHumidity_of_lt {v₃ v₄ : UInt8} (h : v₃.toNat < 128) :
    (Int16.ofInt (-6 + (125 * (Int16.ofInt (word16 v₃ v₄)).toInt).tdiv 65536)).toInt =
      relativeHumidity v₃ v₄ := by
  have h₄ := v₄.toNat_lt
  have hword : (Int16.ofInt (word16 v₃ v₄)).toInt = (256 * v₃.toNat + v₄.toNat : Nat) := by
    rw [word16_eq]
    exact Int16.toInt_ofInt_of_le (by omega) (by omega)
  have hdiv : -6 + (125 * (256 * v₃.toNat + v₄.toNat : Nat) : Int).tdiv 65536 =
      relativeHumidity v₃ v₄ := by
    rw [Int.tdiv_eq_ediv_of_nonneg (by omega)]
    rfl
  have hrange := relativeHumidity_mem v₃ v₄
  rw [hword, hdiv]
  exact Int16.toInt_ofInt_of_le (by omega) (by omega)

/-- A word with its top bit becomes a negative humidity. -/
theorem storedHumidity_neg {v₃ v₄ : UInt8} (h : 128 ≤ v₃.toNat) :
    (Int16.ofInt (-6 + (125 * (Int16.ofInt (word16 v₃ v₄)).toInt).tdiv 65536)).toInt < 0 := by
  have h₃ := v₃.toNat_lt
  have h₄ := v₄.toNat_lt
  have hword : (Int16.ofInt (word16 v₃ v₄)).toInt =
      -(65536 - (256 * v₃.toNat + v₄.toNat : Nat)) := by
    have hsize : Int16.size = 65536 := rfl
    rw [word16_eq, Int16.toInt_ofInt, Int.bmod_def, hsize]
    split <;> omega
  have hdiv : (125 * -(65536 - (256 * v₃.toNat + v₄.toNat : Nat) : Int)).tdiv 65536 =
      -(125 * (65536 - (256 * v₃.toNat + v₄.toNat : Nat)) / 65536) := by
    rw [Int.mul_neg, Int.neg_tdiv, Int.tdiv_eq_ediv_of_nonneg (by omega)]
  rw [hword, hdiv, Int16.toInt_ofInt_of_le (by omega) (by omega)]
  omega

/-! ## On the wire -/

/-- The packet on channel 1 that carries a humidity. -/
def humidityPacket (client : CayenneMqttClient) (humidity : Int) : Bytes :=
  publishPacket true (dataTopic client.username client.clientID 1)
    (dataPayload (lit "rel_hum") (lit "p") (.ofInt humidity)).val

/-- Humidities of different signs are different on the wire. -/
theorem humidityPacket_ne (client : CayenneMqttClient) {a b : Int} (ha : a < 0) (hb : 0 ≤ b) :
    humidityPacket client a ≠ humidityPacket client b := by
  intro h
  have htail := (List.cons.inj h).2
  obtain ⟨-, hbody⟩ := (isField_mqttPacketEncode _).append_inj (isField_mqttPacketEncode _) htail
  have hpayload := List.append_cancel_left (List.append_cancel_left hbody)
  have hvalue : (CStr.ofInt a).val = (CStr.ofInt b).val := by
    simpa [dataPayload, concat] using hpayload
  exact CStr.ofInt_ne_of_neg ha hb (CStr.ext hvalue)

/-- The humidity of the raw word `256 * v₃ + v₄` is what was written to the network, and lies in the
range of the sensor. -/
def HumidityPublished (client : CayenneMqttClient) (v₃ v₄ : UInt8) (written : Bytes) : Prop :=
  ∃ humidity, humidity = relativeHumidity v₃ v₄ ∧ written = humidityPacket client humidity ∧
    -6 ≤ humidity ∧ humidity ≤ 118

/-- **The humidity reaches the broker, exactly when** the top bit of the raw word is not set: for
every notification, whatever else the sensors report before the task runs, and every client whose
publishing succeeds. -/
theorem humidity_published_iff {h : HandleData} {d d' : SensorData} {v₀ v₁ v₂ v₃ v₄ : UInt8}
    {value : Bytes} {events : List SensorEvent} (hother : ∀ e ∈ events, e.Other h)
    {outs : List (List UInt16)}
    (hrun : Runs.exec (SensorData.step h) d
      (.notify (h.charHandle .htu21d .data) (v₀ :: v₁ :: v₂ :: v₃ :: v₄ :: value) :: events) =
        some (outs, d'))
    {client : CayenneMqttClient} {line : UInt32 → PublishLine} {written : Bytes}
    (hsuccess : (1, some (cayenneSuccess, written)) ∈ cayenneTask client line d') :
    HumidityPublished client v₃ v₄ written ↔ v₃ < 128 := by
  obtain ⟨reads, d₁, outs', hnotify, hrest, -⟩ := Runs.exec_cons_eq_some hrun
  have hstored := htu21dHumidity_of_others hother hrest
  rw [htu21dHumidity_notify hnotify] at hstored
  have hcall := (mem_cayenneTask_one hsuccess).symm
  have hwritten := publishDataInt_success (by decide) (by decide) (by decide) hcall
  rw [Int16.toInt_toInt32, hstored] at hwritten
  have htop : v₃ < 128 ↔ v₃.toNat < 128 := UInt8.lt_iff_toNat_lt
  rw [htop]
  cases Nat.lt_or_ge v₃.toNat 128 with
  | inl hlow =>
    rw [storedHumidity_of_lt hlow] at hwritten
    exact iff_of_true ⟨_, rfl, hwritten, relativeHumidity_mem v₃ v₄⟩ hlow
  | inr hhigh =>
    refine iff_of_false ?_ (Nat.not_lt.2 hhigh)
    rintro ⟨_, rfl, hpacket, -⟩
    -- the formula is far above zero where the code is below
    have hnonneg : 0 ≤ relativeHumidity v₃ v₄ := by
      unfold relativeHumidity
      omega
    exact humidityPacket_ne client (storedHumidity_neg hhigh) hnonneg (hwritten.symm.trans hpacket)

/-- A notification with this raw humidity, at 23 degrees. -/
def reading (v₃ v₄ : UInt8) : SensorEvent :=
  .notify (HandleData.boot.charHandle .htu21d .data) [0x66, 0x00, 0x02, v₃, v₄]

/-- The data after the first notification. -/
def afterReading (humidity : Int16) : SensorData :=
  { SensorData.boot with
    htu21dTemperature := 23
    htu21dHumidity := humidity
    htu21dCounter := 1 }

/-- 40 percent. -/
theorem dryReading_published :
    (1, some (cayenneSuccess, humidityPacket sampleClient 40)) ∈
      cayenneTask sampleClient (fun _ => sampleLine) (afterReading 40) ∧
    HumidityPublished sampleClient 0x60 0x00 (humidityPacket sampleClient 40) := by
  have hother : ∀ e ∈ [SensorEvent.readChar true 7 []], e.Other HandleData.boot := by
    intro e he
    cases List.mem_singleton.1 he
    trivial
  have hrun : Runs.exec (SensorData.step HandleData.boot) SensorData.boot
      [reading 0x60 0x00, .readChar true 7 []] = some ([[], []], afterReading 40) := by
    decide +kernel
  have hsuccess : (1, some (cayenneSuccess, humidityPacket sampleClient 40)) ∈
      cayenneTask sampleClient (fun _ => sampleLine) (afterReading 40) := by
    decide +kernel
  exact ⟨hsuccess, (humidity_published_iff hother hrun hsuccess).2 (by decide)⟩

/-- 56 percent are published as -68. -/
theorem wetReading_published :
    Runs.exec (SensorData.step HandleData.boot) SensorData.boot [reading 0x80 0x00] =
      some ([[]], afterReading (-68)) ∧
    (1, some (cayenneSuccess, humidityPacket sampleClient (-68))) ∈
      cayenneTask sampleClient (fun _ => sampleLine) (afterReading (-68)) ∧
    relativeHumidity 0x80 0x00 = 56 ∧
    ¬ HumidityPublished sampleClient 0x80 0x00 (humidityPacket sampleClient (-68)) := by
  refine ⟨by decide +kernel, by decide +kernel, rfl, ?_⟩
  rintro ⟨_, rfl, hpacket, -⟩
  exact humidityPacket_ne sampleClient (by decide) (by decide) hpacket

end Esp32Iot
