import Esp32Iot.Mqtt.Requests

/-!
# Publish packets, written and read back

`MQTTSerialize_publish` against `MQTTDeserialize_publish`. The reader has no use for the length of
the buffer: it takes the end of the packet from the length field and the payload is what is left up
to there, so the bytes may stand at the start of any memory.
-/

namespace Esp32Iot

/-- The bit fields of the header byte come back. -/
theorem publishHeader_bits (dup : Bool) (qos : QoS) (retained : Bool) :
    headerType (publishHeader dup qos retained) = publishMsg ∧
      decide ((publishHeader dup qos retained).toNat / 8 % 2 = 1) = dup ∧
      (publishHeader dup qos retained).toNat / 2 % 4 = qos.toNat ∧
      decide ((publishHeader dup qos retained).toNat % 2 = 1) = retained := by
  cases dup <;> cases qos <;> cases retained <;> decide

/-- What `writeInt` wrote is read by `readInt`. -/
theorem readInt_writeInt {buf : Memory} {pos n : Nat} (hn : n < 65536)
    (h : HasAt buf pos (writeInt n)) : readInt buf pos = n := by
  obtain ⟨hhi, hlo, -⟩ := h
  rw [readInt, hhi, hlo, UInt8.toNat_ofNat', UInt8.toNat_ofNat']
  omega

/-- A topic that was written is as long as its length field says. -/
theorem topicLength_writeInt {n : Nat} (hn : n < 65536) (rest : Bytes) :
    topicLength (writeInt n ++ rest) = n := by
  simp only [writeInt, List.cons_append, List.nil_append, topicLength, UInt8.toNat_ofNat']
  omega

section
variable {buflen : Nat} {dup : Bool} {qos : QoS} {retained : Bool} {packetid : UInt16}
  {topicName : MqttString} {payload packet : Bytes}

/-- The packet id, which is written for a quality above 0 only. -/
def publishIdent (qos : QoS) (packetid : UInt16) : Bytes :=
  if 0 < qos.toNat then writeInt packetid.toNat else []

theorem length_publishIdent (qos : QoS) (packetid : UInt16) :
    (publishIdent qos packetid).length = if 0 < qos.toNat then 2 else 0 := by
  cases qos <;> rfl

/-- A publish packet in its parts. -/
theorem mqttSerializePublish_parts (htopic : topicName.OneWay)
    (h : mqttSerializePublish buflen dup qos retained packetid.toNat topicName payload =
      .ok packet) :
    ∃ body, body = writeInt (mqttStrlen topicName) ++
        (topicName.bytes ++ (publishIdent qos packetid ++ payload)) ∧
      body.length = mqttSerializePublishLength qos topicName payload.length ∧
      packet = publishHeader dup qos retained :: (mqttPacketEncode body.length ++ body) := by
  have hlen : (writeInt (mqttStrlen topicName) ++
      (topicName.bytes ++ (publishIdent qos packetid ++ payload))).length =
        mqttSerializePublishLength qos topicName payload.length := by
    have hint : (writeInt (mqttStrlen topicName)).length = 2 := rfl
    rw [mqttSerializePublishLength, ← length_publishIdent qos packetid, List.length_append,
      List.length_append, List.length_append, topicName.length_bytes, hint]
    omega
  refine ⟨_, rfl, hlen, ?_⟩
  rw [mqttSerializePublish, writeMqttString_eq htopic, ← publishIdent] at h
  split at h
  next => cases h
  next =>
    cases h
    rw [hlen]
    simp only [List.append_assoc, List.cons_append]

/-- Where the parts of the body stand. -/
theorem hasAt_publishBody {buf : Memory} {pos n : Nat} {name ident : Bytes}
    (h : HasAt buf pos (writeInt n ++ (name ++ (ident ++ payload)))) :
    HasAt buf (pos + 2) name ∧ HasAt buf (pos + 2 + name.length) ident ∧
      HasAt buf (pos + 2 + name.length + ident.length) payload := by
  obtain ⟨-, hrest⟩ := hasAt_append.1 h
  obtain ⟨hname, hrest⟩ := hasAt_append.1 hrest
  exact ⟨hname, hasAt_append.1 hrest⟩

/-- **Publish packets round-trip.** What was serialized, wherever it stands at the start of a
buffer, is decoded to the same flags, topic and payload, and to the same packet id if it has one. -/
theorem mqttDeserializePublish_serialize (htopic : topicName.OneWay)
    (hshort : mqttStrlen topicName ≤ 65535)
    (hrem : mqttSerializePublishLength qos topicName payload.length < 2 ^ 28)
    (h : mqttSerializePublish buflen dup qos retained packetid.toNat topicName payload =
      .ok packet)
    {buf : Memory} (hbuf : HasAt buf 0 packet) :
    ∃ fields, mqttDeserializePublish buf = (1, some fields) ∧
      fields.dup = dup ∧ fields.qos = qos.toNat ∧ fields.retained = retained ∧
      fields.topicName.len = topicName.bytes.length ∧
      HasAt buf fields.topicName.data topicName.bytes ∧
      fields.payloadlen = payload.length ∧ HasAt buf fields.payload payload ∧
      (0 < qos.toNat → fields.packetid = some packetid.toNat) := by
  obtain ⟨htype, hdup, hqos, hretained⟩ := publishHeader_bits dup qos retained
  obtain ⟨body, hbody, hlen, rfl⟩ := mqttSerializePublish_parts htopic h
  have ht : topicLength body = mqttStrlen topicName := by
    rw [hbody]
    exact topicLength_writeInt (Nat.lt_succ_of_le hshort) _
  have hwidth := length_publishIdent qos packetid
  have hname := topicName.length_bytes
  rw [mqttSerializePublishLength, ← hwidth] at hlen hrem
  have hfits : ¬ body.length < 2 + topicLength body := by omega
  have hdecode := mqttDeserializePublish_hasAt (isField_mqttPacketEncode body.length)
    (length_mqttPacketEncode_le (hlen ▸ hrem)) (fieldValue_mqttPacketEncode _) htype hbuf
  rw [if_neg hfits, hqos, ht] at hdecode
  obtain ⟨-, hrest⟩ := hbuf
  obtain ⟨-, hat⟩ := hasAt_append.1 hrest
  generalize (mqttPacketEncode body.length).length = k at hdecode hat
  rw [hbody] at hat
  obtain ⟨hat, hident, hpayload⟩ := hasAt_publishBody hat
  rw [Nat.zero_add, hname] at hident hpayload
  rw [Nat.zero_add] at hat
  have hindex : (if 0 < qos.toNat then 1 + k + 2 + mqttStrlen topicName + 2
      else 1 + k + 2 + mqttStrlen topicName) =
        1 + k + 2 + mqttStrlen topicName + (publishIdent qos packetid).length := by
    rw [hwidth]
    split <;> rfl
  dsimp only at hdecode
  rw [hindex] at hdecode
  refine ⟨_, hdecode, hdup, rfl, hretained, hname.symm, hat, ?_, hpayload, ?_⟩
  · dsimp only
    omega
  · intro hpos
    rw [publishIdent, if_pos hpos] at hident
    dsimp only
    rw [if_pos hpos, readInt_writeInt packetid.toNat_lt hident]

end

/-- A publish packet of quality 1 with the topic `a/b` and a payload of two bytes. -/
def smallPublish : Bytes := [0x3a, 9, 0, 3, 97, 47, 98, 0x12, 0x34, 1, 2]

/-- It is what the serializer writes, and it is read back from a buffer that had other contents. -/
theorem smallPublish_roundTrip :
    mqttSerializePublish 11 true .qos1 false (0x1234 : UInt16).toNat ⟨none, some [97, 47, 98]⟩
      [1, 2] = .ok smallPublish ∧
    ∃ fields, mqttDeserializePublish (BufWrite.apply ⟨0, smallPublish⟩ fun _ => 7) =
        (1, some fields) ∧ fields.topicName.len = 3 ∧ fields.payloadlen = 2 ∧
      fields.packetid = some 0x1234 := by
  have hok : mqttSerializePublish 11 true .qos1 false (0x1234 : UInt16).toNat
      ⟨none, some [97, 47, 98]⟩ [1, 2] = .ok smallPublish := by decide +kernel
  obtain ⟨fields, hdecode, -, -, -, htopic, -, hlen, -, hid⟩ :=
    mqttDeserializePublish_serialize (.inl rfl) (by decide) (by decide) hok
      (hasAt_apply (fun _ => 7) 0 smallPublish)
  exact ⟨hok, fields, hdecode, htopic, hlen, hid (by decide)⟩

end Esp32Iot
