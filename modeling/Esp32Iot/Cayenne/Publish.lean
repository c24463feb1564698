import Esp32Iot.Cayenne.Payload
import Esp32Iot.Mqtt.Publish

/-!
# Publishing a value

The functions of `CayenneMQTTClient.c` that publish data. Topic and payload share one local buffer
of 135 bytes, and the packet is put together from them in the send buffer. Five places compute a
length: the topic builder, the space that is left for the payload, the payload builder, the publish
length and the length of the packet.

`publishDataInt_iff` says that they agree for all credentials, channels, types, units and values
except those whose topic has 135 or 136 bytes: the builder accepts these two, and writes them
behind the local buffer. `longTopic_overruns` is such a topic.
-/

namespace Esp32Iot

open CStr (lit)

/-- The return code. -/
def CayenneError.code : CayenneError → Int
  | .failure => -1
  | .bufferOverflow => -2

/-- `sizeof(buffer)` of the functions that publish. -/
def publishBufferSize : Nat := cayenneMaxMessageSize + 1

/-- `CayenneMQTTPublishDataArray`: its return code and what is written to the network; `none` is an
access behind the local buffer. -/
def cayenneMqttPublishDataArray (client : CayenneMqttClient) (clientID : Option CStr)
    (topic : CayenneTopic) (channel : UInt32) (type : Option CStr)
    (values : List CayenneValuePair) (line : PublishLine) : Option (Int × Bytes) :=
  match cayenneBuildTopic publishBufferSize client.username (clientID.getD client.clientID) topic
      channel with
  | none => none
  | some (.error e) => some (e.code, [])
  | some (.ok topicName) =>
      let size := publishBufferSize - (topicName.length + 1)
      match cayenneBuildDataPayload size type values with
      | none => none
      | some (.error e) => some (e.code, [])
      | some (.ok (payload, payloadlen)) =>
          if size < payloadlen then none
          else
            -- behind the string the buffer holds the zeros it was initialized with
            let mem := payload.val ++ List.replicate (size - payload.length) 0
            some (mqttPublish client topicName
              ⟨.qos0, topic ≠ .command, mem.take payloadlen⟩ line)

/-- `CayenneMQTTPublishData`. -/
def cayenneMqttPublishData (client : CayenneMqttClient) (clientID : Option CStr)
    (topic : CayenneTopic) (channel : UInt32) (type unit : Option CStr) (value : CStr)
    (line : PublishLine) : Option (Int × Bytes) :=
  cayenneMqttPublishDataArray client clientID topic channel type [⟨unit, some value⟩] line

/-- `CayenneMQTTPublishDataInt`, with the local `str[2 + 8 * sizeof(value)]`. -/
def cayenneMqttPublishDataInt (client : CayenneMqttClient) (clientID : Option CStr)
    (topic : CayenneTopic) (channel : UInt32) (type unit : Option CStr) (value : Int32)
    (line : PublishLine) : Option (Int × Bytes) :=
  cayenneMqttPublishData client clientID topic channel type unit
    ((CStr.ofInt value.toInt).truncate 34) line

/-! ## What is published -/

/-- What was asked for: the packet when it fits the send buffer, and otherwise an error and
nothing. -/
def PublishedAsAsked (topicName payload : CStr) (published : Option (Int × Bytes)) : Prop :=
  ∃ code written, published = some (code, written) ∧
    (code = cayenneSuccess ↔
      mqttPacketLen (2 + topicName.length + payload.length) ≤ cayenneMaxMessageSize) ∧
    written =
      if mqttPacketLen (2 + topicName.length + payload.length) ≤ cayenneMaxMessageSize then
        0x31 :: (mqttPacketEncode (2 + topicName.length + payload.length) ++
          (writeInt topicName.length ++ (topicName.val ++ payload.val)))
      else []

/-- A refusal before anything is sent is what was asked for when the packet does not fit. -/
theorem publishedAsAsked_of_error {topicName payload : CStr} (e : CayenneError)
    (h : cayenneMaxMessageSize < mqttPacketLen (2 + topicName.length + payload.length)) :
    PublishedAsAsked topicName payload (some (e.code, [])) := by
  refine ⟨e.code, [], rfl, iff_of_false ?_ (Nat.not_le.2 h), ?_⟩
  · cases e with
    | failure => decide
    | bufferOverflow => decide
  · rw [if_neg (Nat.not_le.2 h)]

section
variable {client : CayenneMqttClient} {line : PublishLine}

/-- `MQTTPublish` sends what was asked for. -/
theorem publishedAsAsked_mqttPublish (hclient : client.isconnected = true)
    (hline : line.TakesWhole) (topicName payload : CStr) :
    PublishedAsAsked topicName payload
      (some (mqttPublish client topicName ⟨.qos0, true, payload.val⟩ line)) := by
  have hwhole := mqttPublish_whole hclient hline topicName true payload.val
  change mqttPublish client topicName ⟨.qos0, true, payload.val⟩ line =
    if mqttPacketLen (2 + topicName.length + payload.length) ≤ cayenneMaxMessageSize then
      (cayenneSuccess, publishPacket true topicName payload.val) else (mqttFailure, []) at hwhole
  rw [hwhole]
  by_cases hfits :
      mqttPacketLen (2 + topicName.length + payload.length) ≤ cayenneMaxMessageSize
  · rw [if_pos hfits]
    exact ⟨_, _, rfl, iff_of_true rfl hfits, by rw [if_pos hfits]; rfl⟩
  · rw [if_neg hfits]
    exact ⟨_, _, rfl, iff_of_false (by decide) hfits, by rw [if_neg hfits]⟩

/-- **The path of one value**: the checks in order, with the lengths of the topic and of the
payload. -/
theorem publishDataInt_eq (clientID : Option CStr) {channel : UInt32}
    (hno : channel ≠ cayenneNoChannel) (hall : channel ≠ cayenneAllChannels) {type : CStr}
    (htype : type.nonEmpty = true) (unit : CStr) (value : Int32) {topicName payload : CStr}
    (htopic : dataTopic client.username (clientID.getD client.clientID) channel = topicName)
    (hpayload : dataPayload type unit (.ofInt value.toInt) = payload) :
    cayenneMqttPublishDataInt client clientID .data channel (some type) (some unit) value line =
      if 136 < topicName.length then some (CayenneError.bufferOverflow.code, [])
      else if topicName.length < 135 then
        if topicName.length + payload.length < 134 then
          some (mqttPublish client topicName ⟨.qos0, true, payload.val⟩ line)
        else some (CayenneError.bufferOverflow.code, [])
      else none := by
  have hvalue : (CStr.ofInt value.toInt).truncate 34 = CStr.ofInt value.toInt := by
    refine CStr.truncate_of_lt ?_
    have := CStr.length_ofInt_int32 value
    omega
  rw [cayenneMqttPublishDataInt, cayenneMqttPublishData, cayenneMqttPublishDataArray, hvalue,
    cayenneBuildTopic_data (show 0 < publishBufferSize by decide) _ _ hno hall, htopic]
  have hsize : publishBufferSize = 135 := rfl
  simp only [hsize]
  by_cases hlong : 136 < topicName.length
  · simp only [hlong, if_true]
  · by_cases hfits : topicName.length < 135
    · have hsmall : 135 - (topicName.length + 1) < 4294967296 := by omega
      simp only [hlong, hfits, if_true, if_false,
        cayenneBuildDataPayload_single hsmall htype unit, hpayload]
      by_cases hroom : topicName.length + payload.length < 134
      · have hroom' : payload.length < 135 - (topicName.length + 1) := by omega
        have hle : ¬ 135 - (topicName.length + 1) < payload.length := by omega
        have hmem : (payload.val ++ List.replicate
            (135 - (topicName.length + 1) - payload.length) 0).take payload.length =
            payload.val := List.take_left
        simp only [hroom, hroom', hle, if_true, if_false, hmem]
        rfl
      · have hroom' : ¬ payload.length < 135 - (topicName.length + 1) := by omega
        simp only [hroom, hroom', if_false]
    · simp only [hlong, hfits, if_false]

/-- A value that was published is on the wire as the packet of its topic and payload. -/
theorem publishDataInt_success {clientID : Option CStr} {channel : UInt32}
    (hno : channel ≠ cayenneNoChannel) (hall : channel ≠ cayenneAllChannels) {type : CStr}
    (htype : type.nonEmpty = true) {unit : CStr} {value : Int32} {written : Bytes}
    (h : cayenneMqttPublishDataInt client clientID .data channel (some type) (some unit) value
      line = some (cayenneSuccess, written)) :
    written = publishPacket true (dataTopic client.username (clientID.getD client.clientID) channel)
      (dataPayload type unit (.ofInt value.toInt)).val := by
  rw [publishDataInt_eq clientID hno hall htype unit value rfl rfl] at h
  split_ifs at h
  next => exact absurd (Prod.mk.inj (Option.some.inj h)).1 (by decide)
  next => exact mqttPublish_success (Option.some.inj h)
  next => exact absurd (Prod.mk.inj (Option.some.inj h)).1 (by decide)

/-- **What is published is what was asked for, exactly when** the topic does not have 135 or 136
bytes: one or two more than the local buffer has room for, but not more than the check of the topic
builder lets through. -/
theorem publishDataInt_iff (hclient : client.isconnected = true) (hline : line.TakesWhole)
    (clientID : Option CStr) {channel : UInt32} (hno : channel ≠ cayenneNoChannel)
    (hall : channel ≠ cayenneAllChannels) {type : CStr} (htype : type.nonEmpty = true)
    (unit : CStr) (value : Int32) :
    PublishedAsAsked (dataTopic client.username (clientID.getD client.clientID) channel)
        (dataPayload type unit (.ofInt value.toInt))
        (cayenneMqttPublishDataInt client clientID .data channel (some type) (some unit) value
          line) ↔
      (dataTopic client.username (clientID.getD client.clientID) channel).length ≠ 135 ∧
      (dataTopic client.username (clientID.getD client.clientID) channel).length ≠ 136 := by
  generalize htopic : dataTopic client.username (clientID.getD client.clientID) channel = topicName
  generalize hpayload : dataPayload type unit (.ofInt value.toInt) = payload
  have hlen : ∀ n, cayenneMaxMessageSize < mqttPacketLen n ↔ 131 < n := by
    intro n
    rw [← Nat.not_le, cayenneMaxMessageSize, mqttPacketLen_le_iff, Nat.not_le]
  rw [publishDataInt_eq clientID hno hall htype unit value htopic hpayload]
  split_ifs with hlong hfits hroom
  · exact iff_of_true (publishedAsAsked_of_error _ ((hlen _).2 (by omega))) (by omega)
  · exact iff_of_true (publishedAsAsked_mqttPublish hclient hline topicName payload) (by omega)
  · exact iff_of_true (publishedAsAsked_of_error _ ((hlen _).2 (by omega))) (by omega)
  · refine iff_of_false ?_ (by omega)
    rintro ⟨code, written, hnone, -⟩
    cases hnone

end

/-- An account of the length Cayenne gives out. -/
def sampleClient : CayenneMqttClient where
  username := lit "d1c8a7b0-6f0e-11e8-8e2a-39e8b2a5c1f4"
  password := lit "1f0c6c9f5d5a4a5e8d2f"
  clientID := lit "e2b4f5a0-6f0e-11e8-9b1c-b54f7f5a9c2d"
  isconnected := true

/-- The network takes every write as a whole. -/
def sampleLine : PublishLine where
  nextPacketid := 1
  sendbuf := []
  rounds := [.whole]
  acked := false

/-- The humidity on channel 1 of such an account. -/
theorem publishDataInt_humidity :
    PublishedAsAsked (dataTopic sampleClient.username sampleClient.clientID 1)
      (dataPayload (lit "rel_hum") (lit "p") (lit "-6"))
      (cayenneMqttPublishDataInt sampleClient none .data 1 (some (lit "rel_hum")) (some (lit "p"))
        (-6) sampleLine) := by
  have hline : sampleLine.TakesWhole := rfl
  have hlength : (dataTopic sampleClient.username sampleClient.clientID 1).length = 90 := by
    decide +kernel
  refine (publishDataInt_iff rfl hline none (by decide) (by decide) (by decide) (lit "p") (-6)).2 ?_
  exact ⟨ne_of_eq_of_ne hlength (by decide), ne_of_eq_of_ne hlength (by decide)⟩

/-- A client whose topic for the largest channel has 135 bytes. -/
def longClient : CayenneMqttClient where
  username := .ofBytes (List.replicate 60 (byte 'u'))
  password := lit "pass"
  clientID := .ofBytes (List.replicate 48 (byte 'c'))
  isconnected := true

/-- The topic is accepted and its terminator is written behind the buffer. -/
theorem longTopic_overruns :
    (dataTopic longClient.username longClient.clientID 4294967295).length = 135 ∧
    cayenneMqttPublishDataInt longClient none .data 4294967295 (some (lit "temp"))
      (some (lit "c")) 21 sampleLine = none ∧
    ¬ PublishedAsAsked (dataTopic longClient.username longClient.clientID 4294967295)
      (dataPayload (lit "temp") (lit "c") (lit "21"))
      (cayenneMqttPublishDataInt longClient none .data 4294967295 (some (lit "temp"))
        (some (lit "c")) 21 sampleLine) := by
  have hlength : (dataTopic longClient.username longClient.clientID 4294967295).length = 135 := by
    decide +kernel
  have hnone : cayenneMqttPublishDataInt longClient none .data 4294967295 (some (lit "temp"))
      (some (lit "c")) 21 sampleLine = none := by
    decide +kernel
  refine ⟨hlength, hnone, ?_⟩
  rw [hnone]
  rintro ⟨code, written, h, -⟩
  cases h

end Esp32Iot
