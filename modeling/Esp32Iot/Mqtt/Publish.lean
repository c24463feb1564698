import Esp32Iot.Cayenne

/-!
# Publishing a message

`MQTTCommon/MQTTSerializePublish.c` and the parts of `MQTTClient.c` that send: `sendPacket` and
`MQTTPublish`. What the network does with each write is an argument, a list of the rounds of the
sending loop (`SendRound`), and what is put on the wire is returned beside the code.

`mqttPublish_whole` says what is sent when the network takes a packet in one write, and
`mqttPublish_success` what was sent when `MQTTPublish` reports success.
-/

namespace Esp32Iot

/-! ## The packet -/

/-- `enum QoS`. -/
inductive QoS
  | qos0
  | qos1
  | qos2
  deriving DecidableEq

/-- The number of a quality of service. -/
def QoS.toNat : QoS → Nat
  | .qos0 => 0
  | .qos1 => 1
  | .qos2 => 2

/-- `PUBLISH_MSG`. -/
def publishMsg : Nat := 3

/-- `header.byte` of a publish packet: the bit fields, lowest first, are `retain`, `qos` of two
bits, `dup` and the type of four. -/
def publishHeader (dup : Bool) (qos : QoS) (retained : Bool) : UInt8 :=
  headerByte publishMsg ||| (if dup then 8 else 0) ||| UInt8.ofNat (2 * qos.toNat) |||
    (if retained then 1 else 0)

/-- `MQTTSerialize_publishLength`. -/
def mqttSerializePublishLength (qos : QoS) (topicName : MqttString) (payloadlen : Nat) : Nat :=
  2 + mqttStrlen topicName + payloadlen + if 0 < qos.toNat then 2 else 0

/-- `MQTTSerialize_publish`: the packet, whose length is returned. -/
def mqttSerializePublish (buflen : Nat) (dup : Bool) (qos : QoS) (retained : Bool)
    (packetid : Nat) (topicName : MqttString) (payload : Bytes) : Except MqttPacketError Bytes :=
  let remLen := mqttSerializePublishLength qos topicName payload.length
  if buflen < mqttPacketLen remLen then .error .bufferTooShort
  else .ok (publishHeader dup qos retained :: mqttPacketEncode remLen ++
    writeMqttString topicName ++ (if 0 < qos.toNat then writeInt packetid else []) ++ payload)

/-! ## Sending it -/

/-- One round of the loop in `sendPacket`. -/
inductive SendRound
  /-- the timer has expired -/
  | expired
  /-- `mqttwrite` returns an error -/
  | failed
  /-- `mqttwrite` takes all it is given -/
  | whole
  /-- `mqttwrite` takes at most this many bytes -/
  | part (limit : Nat)
  deriving DecidableEq

/-- The return value of `mqttwrite`, if it is not an error. -/
def SendRound.taken (length : Nat) : SendRound → Option Nat
  | .expired | .failed => none
  | .whole => some length
  | .part limit => some (min limit length)

/-- The loop of `sendPacket` on the send buffer: what is written, and `sent` at its end. Each write
offers `length` bytes from the first one that was not sent. -/
def sendLoop (buf : Bytes) (length : Nat) : Nat → List SendRound → Bytes × Nat
  | sent, [] => ([], sent)
  | sent, round :: rounds =>
      if sent < length then
        match round.taken length with
        | none => ([], sent)
        | some rc =>
            ((buf.drop sent).take rc ++ (sendLoop buf length (sent + rc) rounds).1,
              (sendLoop buf length (sent + rc) rounds).2)
      else ([], sent)

/-- `sendPacket`: its return code and what is written. -/
def sendPacket (buf : Bytes) (length : Nat) (rounds : List SendRound) : Int × Bytes :=
  (if (sendLoop buf length 0 rounds).2 = length then cayenneSuccess else mqttFailure,
    (sendLoop buf length 0 rounds).1)

/-- `MQTTMessage`; the payload has `payloadlen` bytes. -/
structure MqttMessage where
  qos : QoS
  retained : Bool
  payload : Bytes
  deriving DecidableEq

/-- `getNextPacketId`. -/
def getNextPacketId (nextPacketid : Nat) : Nat :=
  if nextPacketid = 65535 then 1 else nextPacketid + 1

/-- What the client and its network do during one `MQTTPublish`. -/
structure PublishLine where
  /-- `c->next_packetid` before it -/
  nextPacketid : Nat
  /-- the send buffer before it -/
  sendbuf : Bytes
  /-- the rounds of `sendPacket` -/
  rounds : List SendRound
  /-- `waitfor` returns the acknowledgement of the packet, and it can be decoded -/
  acked : Bool
  deriving DecidableEq

/-- `MQTTPublish`: its return code and what is written. -/
def mqttPublish (client : CayenneMqttClient) (topicName : CStr) (message : MqttMessage)
    (line : PublishLine) : Int × Bytes :=
  if !client.isconnected then (mqttFailure, [])
  else
    -- for quality 0 the field `id` of the message is not set, and not sent
    match mqttSerializePublish cayenneMaxMessageSize false message.qos message.retained
        (getNextPacketId line.nextPacketid) (.ofCString topicName) message.payload with
    | .error _ => (mqttFailure, [])
    | .ok packet =>
        let sent := sendPacket (packet ++ line.sendbuf.drop packet.length) packet.length line.rounds
        if sent.1 ≠ cayenneSuccess then sent
        else if 0 < message.qos.toNat ∧ !line.acked then (mqttFailure, sent.2)
        else sent

/-! ## A network that takes whole packets -/

/-- The network takes the first write of a packet as a whole. -/
def PublishLine.TakesWhole (line : PublishLine) : Prop := line.rounds.head? = some .whole

/-- A packet that is taken as a whole is sent. -/
theorem sendPacket_whole (packet rest : Bytes) (hpacket : packet ≠ [])
    {rounds : List SendRound} (h : rounds.head? = some .whole) :
    sendPacket (packet ++ rest) packet.length rounds = (cayenneSuccess, packet) := by
  obtain ⟨rounds', rfl⟩ : ∃ rounds', rounds = .whole :: rounds' := by
    cases rounds with
    | nil => cases h
    | cons round rounds' => cases h; exact ⟨rounds', rfl⟩
  have hpos : 0 < packet.length := List.length_pos_iff.2 hpacket
  -- nothing is left to send after the first round
  have hdone : sendLoop (packet ++ rest) packet.length packet.length rounds' =
      ([], packet.length) := by
    cases rounds' with
    | nil => rfl
    | cons round rounds' => rw [sendLoop, if_neg (Nat.lt_irrefl _)]
  simp only [sendPacket, sendLoop, hpos, if_true, SendRound.taken, List.drop_zero, List.take_left,
    Nat.zero_add, hdone, List.append_nil]

/-- The publish packet of quality 0. -/
def publishPacket (retained : Bool) (topicName : CStr) (payload : Bytes) : Bytes :=
  publishHeader false .qos0 retained ::
    (mqttPacketEncode (2 + topicName.length + payload.length) ++
      (writeInt topicName.length ++ (topicName.val ++ payload)))

/-- The serializer on a message of quality 0. -/
theorem mqttSerializePublish_qos0 (buflen : Nat) (retained : Bool) (packetid : Nat)
    (topicName : CStr) (payload : Bytes) :
    mqttSerializePublish buflen false .qos0 retained packetid (.ofCString topicName) payload =
      if mqttPacketLen (2 + topicName.length + payload.length) ≤ buflen then
        .ok (publishPacket retained topicName payload)
      else .error .bufferTooShort := by
  have hlen : mqttSerializePublishLength .qos0 (.ofCString topicName) payload.length =
      2 + topicName.length + payload.length := rfl
  have hpacket : publishHeader false .qos0 retained ::
      mqttPacketEncode (2 + topicName.length + payload.length) ++
      writeMqttString (.ofCString topicName) ++
      (if 0 < QoS.toNat .qos0 then writeInt packetid else []) ++
      payload = publishPacket retained topicName payload := by
    simp only [publishPacket, QoS.toNat, Nat.lt_irrefl, if_false, List.append_nil,
      List.cons_append, List.append_assoc]
    rfl
  unfold mqttSerializePublish
  simp only [hlen, hpacket]
  split
  next hlong => rw [if_neg (Nat.not_le.2 hlong)]
  next hfits => rw [if_pos (Nat.le_of_not_lt hfits)]

/-- **A message of quality 0 on a network that takes whole packets**: it is sent as one packet when
the packet fits the send buffer, and otherwise nothing is. -/
theorem mqttPublish_whole {client : CayenneMqttClient} (hclient : client.isconnected = true)
    {line : PublishLine} (hline : line.TakesWhole) (topicName : CStr) (retained : Bool)
    (payload : Bytes) :
    mqttPublish client topicName ⟨.qos0, retained, payload⟩ line =
      if mqttPacketLen (2 + topicName.length + payload.length) ≤ cayenneMaxMessageSize then
        (cayenneSuccess, publishPacket retained topicName payload)
      else (mqttFailure, []) := by
  unfold mqttPublish
  simp only [hclient, Bool.not_true, Bool.false_eq_true, if_false, mqttSerializePublish_qos0]
  by_cases hfits : mqttPacketLen (2 + topicName.length + payload.length) ≤ cayenneMaxMessageSize
  · rw [if_pos hfits, if_pos hfits]
    have hsent := sendPacket_whole (publishPacket retained topicName payload)
      (line.sendbuf.drop (publishPacket retained topicName payload).length) nofun hline
    simp only [hsent, ne_eq, not_true_eq_false, if_false, QoS.toNat, Nat.lt_irrefl, false_and]
  · rw [if_neg hfits, if_neg hfits]

/-! ## A message that was sent -/

/-- The loop does not go back. -/
theorem le_sendLoop (buf : Bytes) (length sent : Nat) (rounds : List SendRound) :
    sent ≤ (sendLoop buf length sent rounds).2 := by
  induction rounds generalizing sent with
  | nil => exact Nat.le_refl _
  | cons round rounds ih =>
    rw [sendLoop]
    split
    next =>
      split
      next => exact Nat.le_refl _
      next rc _ => exact Nat.le_trans (Nat.le_add_right sent rc) (ih (sent + rc))
    next => exact Nat.le_refl _

/-- What the loop writes, in whatever parts: the bytes from where it starts to where it ends. -/
theorem sendLoop_eq_take (buf : Bytes) (length sent : Nat) (rounds : List SendRound) :
    (sendLoop buf length sent rounds).1 =
      (buf.drop sent).take ((sendLoop buf length sent rounds).2 - sent) := by
  have hstops : ([] : Bytes) = (buf.drop sent).take (sent - sent) := by
    rw [Nat.sub_self, List.take_zero]
  induction rounds generalizing sent with
  | nil => exact hstops
  | cons round rounds ih =>
    rw [sendLoop]
    split
    next =>
      split
      next => exact hstops
      next rc _ =>
        have hrest := ih (sent + rc) (by rw [Nat.sub_self, List.take_zero])
        have hmore := le_sendLoop buf length (sent + rc) rounds
        have hsplit : (sendLoop buf length (sent + rc) rounds).2 - sent =
            rc + ((sendLoop buf length (sent + rc) rounds).2 - (sent + rc)) := by
          omega
        rw [hsplit, List.take_add, List.drop_drop, ← hrest]
    next => exact hstops

/-- A `sendPacket` that succeeds has written the packet. -/
theorem sendPacket_success {packet rest written : Bytes} {rounds : List SendRound}
    (h : sendPacket (packet ++ rest) packet.length rounds = (cayenneSuccess, written)) :
    written = packet := by
  obtain ⟨hcode, rfl⟩ := Prod.mk.inj h
  split at hcode
  next hsent =>
    rw [sendLoop_eq_take, hsent, List.drop_zero, Nat.sub_zero, List.take_left]
  next => exact absurd hcode (by decide)

/-- **A message of quality 0 that was published** is on the wire as its packet. -/
theorem mqttPublish_success {client : CayenneMqttClient} {line : PublishLine} {topicName : CStr}
    {retained : Bool} {payload written : Bytes}
    (h : mqttPublish client topicName ⟨.qos0, retained, payload⟩ line = (cayenneSuccess, written)) :
    written = publishPacket retained topicName payload := by
  unfold mqttPublish at h
  simp only [mqttSerializePublish_qos0] at h
  split at h
  next => exact absurd (Prod.mk.inj h).1 (by decide)
  next =>
    split at h
    next => exact absurd (Prod.mk.inj h).1 (by decide)
    next packet hpacket =>
      split at hpacket
      next =>
        cases hpacket
        split at h
        next hfailed => rw [h] at hfailed; exact absurd rfl hfailed
        next =>
          simp only [QoS.toNat, Nat.lt_irrefl, false_and, if_false] at h
          exact sendPacket_success h
      next => cases hpacket

end Esp32Iot
