import Esp32Iot.Mqtt.Ack

/-!
# Malformed packets

`MQTTDeserialize_publish` and the decoders of acknowledgements on packets that are not what they
should be. Each decoder keeps the number of bytes of the length field in the variable that it
returns and leaves with it when the packet is too short, and 1, the number of bytes of most length
fields, is its value for success. `MQTTDeserialize_publish` reads the packet id without a look at
the end of the packet, `MQTTDeserialize_unsuback` sets the value for success by the type alone, and
`MQTTDeserialize_suback` has room for one entry less than it stores.

`WirePacket.soundOn_iff` and `acks_sound_iff` are the packets on which the decoders are right.
-/

namespace Esp32Iot

/-! ## Publish packets -/

/-- A packet as a broker can send it: a complete length field of at most four bytes, of any width,
that announces the body. -/
structure WirePacket where
  header : UInt8
  lengthField : Bytes
  body : Bytes
  isField : IsField lengthField
  atMostFour : lengthField.length ≤ 4
  announces : fieldValue lengthField = body.length

namespace WirePacket

/-- The bytes of the packet; there are `N` of them. -/
def bytes (p : WirePacket) : Bytes := p.header :: (p.lengthField ++ p.body)

/-- `header.bits.qos`. -/
def qos (p : WirePacket) : Nat := p.header.toNat / 2 % 4

/-- The index of the length of the topic. -/
def start (p : WirePacket) : Nat := 1 + p.lengthField.length

/-- The index behind the topic. -/
def topicEnd (p : WirePacket) : Nat := p.start + 2 + topicLength p.body

/-- The index of the payload. -/
def payloadStart (p : WirePacket) : Nat := p.topicEnd + if 0 < p.qos then 2 else 0

/-- A publish packet that holds its topic and, for a quality above 0, its packet id. -/
structure WellFormed (p : WirePacket) : Prop where
  type : headerType p.header = publishMsg
  topicLength : p.start + 2 ≤ p.bytes.length
  topic : p.topicEnd ≤ p.bytes.length
  packetid : p.payloadStart ≤ p.bytes.length

/-- `MQTTDeserialize_publish` is right on the packet, which stands in the buffer. -/
structure SoundOn (p : WirePacket) (buf : Memory) : Prop where
  /-- it returns 1 only for a packet that is well formed, with all its outputs set: the topic is
  where the packet has it, and the payload is all the rest -/
  accepts : (mqttDeserializePublish buf).1 = 1 →
    p.WellFormed ∧ ∃ fields, (mqttDeserializePublish buf).2 = some fields ∧
      fields.topicName = ⟨p.start + 2, topicLength p.body⟩ ∧ fields.payload = p.payloadStart ∧
      0 ≤ fields.payloadlen ∧ fields.payload + fields.payloadlen = p.bytes.length
  /-- `cycle` hands on nothing that was not set -/
  delivers : ∀ parseTopic unset unset',
    cyclePublish parseTopic unset buf = cyclePublish parseTopic unset' buf

/-- A packet that is taken for decoded with its outputs not set: the topic does not fit, and the
length field is one byte. -/
def TopicMissing (p : WirePacket) : Prop :=
  p.lengthField.length = 1 ∧ p.body.length < 2 + topicLength p.body

/-- A packet whose topic fits and whose packet id does not. -/
def IdentMissing (p : WirePacket) : Prop :=
  0 < p.qos ∧ 2 + topicLength p.body ≤ p.body.length ∧ p.body.length < 2 + topicLength p.body + 2

section
variable {p : WirePacket} {buf : Memory}

theorem length_bytes (p : WirePacket) : p.bytes.length = p.start + p.body.length := by
  rw [bytes, List.length_cons, List.length_append, start]
  omega

theorem mqttDeserializePublish_type (h : HasAt buf 0 p.bytes)
    (htype : headerType p.header ≠ publishMsg) : mqttDeserializePublish buf = (0, none) := by
  rw [mqttDeserializePublish, h.1]
  exact if_pos htype

theorem mqttDeserializePublish_short (h : HasAt buf 0 p.bytes)
    (htype : headerType p.header = publishMsg) (hlong : p.body.length < 2 + topicLength p.body) :
    mqttDeserializePublish buf = (p.lengthField.length, none) :=
  (mqttDeserializePublish_hasAt p.isField p.atMostFour p.announces htype h).trans (if_pos hlong)

theorem mqttDeserializePublish_fits (h : HasAt buf 0 p.bytes)
    (htype : headerType p.header = publishMsg) (hfits : 2 + topicLength p.body ≤ p.body.length) :
    ∃ fields, mqttDeserializePublish buf = (1, some fields) ∧
      fields.topicName = ⟨p.start + 2, topicLength p.body⟩ ∧ fields.payload = p.payloadStart ∧
      fields.payloadlen = (p.bytes.length : Int) - p.payloadStart := by
  have hdecode := mqttDeserializePublish_hasAt p.isField p.atMostFour p.announces htype h
  rw [if_neg (Nat.not_lt.2 hfits)] at hdecode
  have hindex : (if 0 < p.header.toNat / 2 % 4
      then 1 + p.lengthField.length + 2 + topicLength p.body + 2
      else 1 + p.lengthField.length + 2 + topicLength p.body) = p.payloadStart := by
    rw [payloadStart, topicEnd, start, qos]
    split <;> rfl
  dsimp only at hdecode
  rw [hindex] at hdecode
  refine ⟨_, hdecode, rfl, rfl, ?_⟩
  rw [length_bytes]
  rfl

/-- A result without outputs that is not 1 is not handed on. -/
theorem soundOn_of_none {rc : Nat} (h : mqttDeserializePublish buf = (rc, none)) (hrc : rc ≠ 1) :
    p.SoundOn buf where
  accepts := by
    rw [h]
    intro hone
    exact absurd hone hrc
  delivers := by
    intro parseTopic unset unset'
    rw [cyclePublish, cyclePublish, h]
    split
    next heq => cases heq
    next heq => exact absurd (Prod.mk.inj heq).1 hrc
    next => rfl

end

/-- **Which publish packets are decoded soundly**: all but those whose topic does not fit and whose
length field is one byte, and those with a packet id that does not fit. -/
theorem soundOn_iff {p : WirePacket} {buf : Memory} (h : HasAt buf 0 p.bytes) :
    p.SoundOn buf ↔
      ¬ (headerType p.header = publishMsg ∧ (p.TopicMissing ∨ p.IdentMissing)) := by
  have hbytes := p.length_bytes
  refine ⟨?_, ?_⟩
  · rintro hsound ⟨htype, hmissing⟩
    rcases hmissing with ⟨hone, hlong⟩ | ⟨hqos, hfits, hident⟩
    · have hdecode := mqttDeserializePublish_short h htype hlong
      obtain ⟨-, fields, hfields, -⟩ := hsound.accepts (by rw [hdecode, hone])
      rw [hdecode] at hfields
      cases hfields
    · obtain ⟨fields, hdecode, -⟩ := mqttDeserializePublish_fits h htype hfits
      obtain ⟨hwell, -⟩ := hsound.accepts (by rw [hdecode])
      have hpacketid := hwell.packetid
      rw [payloadStart, if_pos hqos, topicEnd] at hpacketid
      omega
  · intro hgood
    by_cases htype : headerType p.header = publishMsg
    · have htopic : ¬ p.TopicMissing := fun hmissing => hgood ⟨htype, .inl hmissing⟩
      have hident : ¬ p.IdentMissing := fun hmissing => hgood ⟨htype, .inr hmissing⟩
      rcases Nat.lt_or_ge p.body.length (2 + topicLength p.body) with hlong | hfits
      · exact soundOn_of_none (mqttDeserializePublish_short h htype hlong)
          fun hone => htopic ⟨hone, hlong⟩
      · obtain ⟨fields, hdecode, hname, hpayload, hlen⟩ := mqttDeserializePublish_fits h htype hfits
        have hend : p.payloadStart ≤ p.bytes.length := by
          rw [payloadStart, topicEnd]
          split
          next hqos =>
            have hroom : ¬ p.body.length < 2 + topicLength p.body + 2 :=
              fun hshort => hident ⟨hqos, hfits, hshort⟩
            omega
          next => omega
        refine ⟨fun _ => ?_, fun parseTopic unset unset' => ?_⟩
        · refine ⟨⟨htype, by omega, by rw [topicEnd]; omega, hend⟩, fields, by rw [hdecode], hname,
            hpayload, ?_, ?_⟩
          · omega
          · omega
        · rw [cyclePublish, cyclePublish, hdecode]
          rfl
    · exact soundOn_of_none (mqttDeserializePublish_type h htype) (by decide)

/-- A publish packet of quality 1 with a topic of one byte and a payload of one byte. -/
def tinyPublish : WirePacket where
  header := 0x32
  lengthField := [6]
  body := [0, 1, 97, 0, 5, 9]
  isField := .last (by decide)
  atMostFour := by decide
  announces := rfl

/-- It is decoded soundly wherever it stands. -/
theorem soundOn_tinyPublish :
    tinyPublish.SoundOn (BufWrite.apply ⟨0, tinyPublish.bytes⟩ fun _ => 0) := by
  refine (soundOn_iff (hasAt_apply _ 0 _)).2 ?_
  rintro ⟨-, ⟨-, hlong⟩ | ⟨-, -, hident⟩⟩
  · exact absurd hlong (by decide)
  · exact absurd hident (by decide)

/-- A publish packet with one byte of body: it is too short for the length of its topic. -/
def truncatedPublish : WirePacket where
  header := 0x30
  lengthField := [1]
  body := [0]
  isField := .last (by decide)
  atMostFour := by decide
  announces := rfl

/-- It is taken for decoded, and what `cycle` does depends on variables that were not set. -/
theorem truncatedPublish_accepted :
    mqttDeserializePublish (BufWrite.apply ⟨0, truncatedPublish.bytes⟩ fun _ => 0) = (1, none) ∧
      ¬ ∀ (p : WirePacket) (buf : Memory), HasAt buf 0 p.bytes → p.SoundOn buf := by
  have hdecode : mqttDeserializePublish (BufWrite.apply ⟨0, truncatedPublish.bytes⟩ fun _ => 0) =
      (1, none) := by decide +kernel
  refine ⟨hdecode, ?_⟩
  intro hall
  obtain ⟨-, fields, hfields, -⟩ := (hall truncatedPublish _ (hasAt_apply (fun _ => 0) 0 _)).accepts
    (by rw [hdecode])
  rw [hdecode] at hfields
  cases hfields

end WirePacket

/-! ## Acknowledgements -/

section
variable (buf : Memory) (maxcount : Nat)

/-- `MQTTDeserialize_connack` returns 1 only for a `CONNACK` with its two bytes. -/
def ConnackSound : Prop :=
  (mqttDeserializeConnack buf).1 = 1 →
    headerType (buf 0) = AckKind.connack.type ∧ 2 ≤ (mqttPacketDecodeBuf buf 1).value

/-- `MQTTDeserialize_ack` returns 1 only for a packet with a packet id. It leaves the type to its
caller. -/
def AckSound : Prop :=
  (mqttDeserializeAck buf).rc = 1 → 2 ≤ (mqttPacketDecodeBuf buf 1).value

/-- `MQTTDeserialize_unsuback` returns 1 only for an `UNSUBACK` with a packet id. -/
def UnsubackSound : Prop :=
  (mqttDeserializeUnsuback buf).1 = 1 →
    headerType (buf 0) = AckKind.unsuback.type ∧ 2 ≤ (mqttPacketDecodeBuf buf 1).value

/-- `MQTTDeserialize_suback` stores at most `maxcount` entries, and returns 1 only for a `SUBACK`
with a packet id and with `*count` at most `maxcount`. -/
structure SubackSound : Prop where
  stores : (mqttDeserializeSuback maxcount buf).grantedQoSs.length ≤ maxcount
  accepts : (mqttDeserializeSuback maxcount buf).rc = 1 →
    headerType (buf 0) = AckKind.suback.type ∧ 2 ≤ (mqttPacketDecodeBuf buf 1).value ∧
      (mqttDeserializeSuback maxcount buf).grantedQoSs.length ≤ maxcount

/-- The packet has no two bytes of body, and its length field is one byte. -/
def BodyMissing : Prop :=
  (mqttPacketDecodeBuf buf 1).value < 2 ∧ (mqttPacketDecodeBuf buf 1).len = 1

end

/-- **The loop of `MQTTDeserialize_suback`** stores one entry more than there is room for before it
stops. -/
theorem length_readGrantedQoSs (buf : Memory) (maxcount left curdata : Nat) {count : Nat}
    (h : count ≤ maxcount + 1) :
    (readGrantedQoSs buf maxcount left curdata count).2.length =
      min left (maxcount + 1 - count) := by
  induction left generalizing curdata count with
  | zero => exact (Nat.zero_min _).symm
  | succ left ih =>
    rw [readGrantedQoSs]
    split
    next hfull =>
      rw [List.length_nil]
      omega
    next hroom =>
      rw [List.length_cons, ih (curdata + 1) (by omega)]
      omega

section
variable {buf : Memory}

theorem connackSound_iff :
    ConnackSound buf ↔ ¬ (headerType (buf 0) = AckKind.connack.type ∧ BodyMissing buf) := by
  unfold ConnackSound BodyMissing mqttDeserializeConnack
  by_cases htype : headerType (buf 0) = AckKind.connack.type
  · by_cases hshort : (mqttPacketDecodeBuf buf 1).value < 2
    · simp [htype, hshort, Nat.not_le.2 hshort]
    · simp [htype, hshort, Nat.not_lt.1 hshort]
  · simp [htype]

theorem ackSound_iff : AckSound buf ↔ ¬ BodyMissing buf := by
  unfold AckSound BodyMissing mqttDeserializeAck
  by_cases hshort : (mqttPacketDecodeBuf buf 1).value < 2
  · simp [hshort, Nat.not_le.2 hshort]
  · simp [hshort, Nat.not_lt.1 hshort]

theorem unsubackSound_iff :
    UnsubackSound buf ↔
      (headerType (buf 0) = AckKind.unsuback.type ∧ 2 ≤ (mqttPacketDecodeBuf buf 1).value) ∨
      (headerType (buf 0) ≠ AckKind.unsuback.type ∧ (mqttPacketDecodeBuf buf 1).value < 2 ∧
        (mqttPacketDecodeBuf buf 1).len ≠ 1) := by
  unfold UnsubackSound mqttDeserializeUnsuback mqttDeserializeAck
  by_cases htype : headerType (buf 0) = AckKind.unsuback.type
  · by_cases hshort : (mqttPacketDecodeBuf buf 1).value < 2
    · simp [htype, hshort]
    · simp [htype, hshort]
  · by_cases hshort : (mqttPacketDecodeBuf buf 1).value < 2
    · simp [htype, hshort]
    · simp [htype, hshort]

theorem mqttDeserializeSuback_type (htype : headerType (buf 0) ≠ AckKind.suback.type)
    (maxcount : Nat) : mqttDeserializeSuback maxcount buf = ⟨0, none, []⟩ := by
  rw [mqttDeserializeSuback, if_pos htype]

theorem mqttDeserializeSuback_short (htype : headerType (buf 0) = AckKind.suback.type)
    (hshort : (mqttPacketDecodeBuf buf 1).value < 2) (maxcount : Nat) :
    mqttDeserializeSuback maxcount buf = ⟨(mqttPacketDecodeBuf buf 1).len, none, []⟩ := by
  rw [mqttDeserializeSuback, if_neg (not_not.2 htype)]
  exact if_pos hshort

theorem length_grantedQoSs (htype : headerType (buf 0) = AckKind.suback.type)
    (hlong : 2 ≤ (mqttPacketDecodeBuf buf 1).value) (maxcount : Nat) :
    (mqttDeserializeSuback maxcount buf).grantedQoSs.length =
      min ((mqttPacketDecodeBuf buf 1).value - 2) (maxcount + 1) := by
  rw [mqttDeserializeSuback, if_neg (not_not.2 htype)]
  simp only [Nat.not_lt.2 hlong, if_false]
  exact length_readGrantedQoSs buf maxcount _ _ (Nat.zero_le (maxcount + 1))

theorem subackSound_iff {maxcount : Nat} :
    SubackSound buf maxcount ↔
      ¬ (headerType (buf 0) = AckKind.suback.type ∧
        (BodyMissing buf ∨ maxcount + 2 < (mqttPacketDecodeBuf buf 1).value)) := by
  by_cases htype : headerType (buf 0) = AckKind.suback.type
  · rcases Nat.lt_or_ge (mqttPacketDecodeBuf buf 1).value 2 with hshort | hlong
    · -- nothing is stored, and the return value is the width of the length field
      have heq := mqttDeserializeSuback_short htype hshort maxcount
      refine ⟨?_, ?_⟩
      · rintro hsound ⟨-, ⟨-, hone⟩ | hmany⟩
        · have htwo := (hsound.accepts (by rw [heq, hone]; rfl)).2.1
          omega
        · omega
      · intro hgood
        refine ⟨?_, ?_⟩
        · rw [heq]
          exact Nat.zero_le _
        · intro hcode
          rw [heq] at hcode
          exact absurd ⟨htype, .inl ⟨hshort, Int.ofNat_inj.1 hcode⟩⟩ hgood
    · -- the loop over the return codes
      have hlen := length_grantedQoSs htype hlong maxcount
      refine ⟨?_, ?_⟩
      · rintro hsound ⟨-, hmissing | hmany⟩
        · exact absurd hmissing.1 (Nat.not_lt.2 hlong)
        · have hstores := hsound.stores
          omega
      · intro hgood
        have hroom : ¬ maxcount + 2 < (mqttPacketDecodeBuf buf 1).value :=
          fun hmany => hgood ⟨htype, .inr hmany⟩
        exact ⟨by omega, fun _ => ⟨htype, hlong, by omega⟩⟩
  · have heq := mqttDeserializeSuback_type htype maxcount
    refine ⟨fun _ hbad => htype hbad.1, fun _ => ⟨?_, ?_⟩⟩
    · rw [heq]
      exact Nat.zero_le _
    · rw [heq]
      intro hcode
      exact absurd hcode (by decide)

end

/-- **Which acknowledgements are decoded soundly**, for each decoder. -/
theorem acks_sound_iff (buf : Memory) (maxcount : Nat) :
    (ConnackSound buf ↔ ¬ (headerType (buf 0) = AckKind.connack.type ∧ BodyMissing buf)) ∧
    (AckSound buf ↔ ¬ BodyMissing buf) ∧
    (UnsubackSound buf ↔
      (headerType (buf 0) = AckKind.unsuback.type ∧ 2 ≤ (mqttPacketDecodeBuf buf 1).value) ∨
      (headerType (buf 0) ≠ AckKind.unsuback.type ∧ (mqttPacketDecodeBuf buf 1).value < 2 ∧
        (mqttPacketDecodeBuf buf 1).len ≠ 1)) ∧
    (SubackSound buf maxcount ↔
      ¬ (headerType (buf 0) = AckKind.suback.type ∧
        (BodyMissing buf ∨ maxcount + 2 < (mqttPacketDecodeBuf buf 1).value))) :=
  ⟨connackSound_iff, ackSound_iff, unsubackSound_iff, subackSound_iff⟩

/-- A `SUBACK` with two return codes for the one entry that `MQTTSubscribe` has room for. -/
def twoCodes : Memory := BufWrite.apply ⟨0, [0x90, 4, 0, 1, 0, 0]⟩ fun _ => 0

/-- Both are stored and the packet is accepted, and a `CONNACK` without a body is accepted too. -/
theorem twoCodes_accepted :
    (mqttDeserializeSuback 1 twoCodes).rc = 1 ∧
      (mqttDeserializeSuback 1 twoCodes).grantedQoSs.length = 2 ∧
      mqttDeserializeConnack (BufWrite.apply ⟨0, [0x20, 0]⟩ fun _ => 0) = (1, none) ∧
      ¬ ∀ (buf : Memory) (maxcount : Nat), ConnackSound buf ∧ AckSound buf ∧ UnsubackSound buf ∧
        SubackSound buf maxcount := by
  have hstored : (mqttDeserializeSuback 1 twoCodes).grantedQoSs.length = 2 := by decide +kernel
  refine ⟨by decide +kernel, hstored, by decide +kernel, ?_⟩
  intro hall
  have hstores := (hall twoCodes 1).2.2.2.stores
  omega

end Esp32Iot
