import Esp32Iot.Mqtt.Packet

/-!
# The connect packet

`MQTTCommon/MQTTConnectClient.c`, the part of it that the client sends. The packet is refused when
its predicted length is larger than the buffer, which is the only place where the lengths of the
credentials are looked at before they are stored.
-/

namespace Esp32Iot

open CStr (lit)

/-- `MQTTPacket_willOptions`. -/
structure MqttWillOptions where
  topicName : MqttString
  message : MqttString
  retained : UInt8
  qos : UInt8
  deriving DecidableEq

/-- `MQTTPacket_connectData`. -/
structure MqttConnectData where
  mqttVersion : UInt8
  clientID : MqttString
  keepAliveInterval : UInt16
  cleansession : UInt8
  willFlag : Bool
  will : MqttWillOptions
  username : MqttString
  password : MqttString
  deriving DecidableEq

/-- `MQTTPacket_connectData_initializer`. -/
def MqttConnectData.initializer : MqttConnectData where
  mqttVersion := 4
  clientID := .initializer
  keepAliveInterval := 60
  cleansession := 1
  willFlag := false
  will := ⟨.initializer, .initializer, 0, 0⟩
  username := .initializer
  password := .initializer

/-- `MQTTSerialize_connectLength`. -/
def mqttSerializeConnectLength (options : MqttConnectData) : Nat :=
  (if options.mqttVersion = 3 then 12 else if options.mqttVersion = 4 then 10 else 0) +
  (mqttStrlen options.clientID + 2) +
  (if options.willFlag then
    mqttStrlen options.will.topicName + 2 + mqttStrlen options.will.message + 2 else 0) +
  (if options.username.given then mqttStrlen options.username + 2 else 0) +
  (if options.password.given then mqttStrlen options.password + 2 else 0)

/-- `flags.all`: the bit fields, lowest first, are an unused one, `cleansession`, `will`, `willQoS`,
`willRetain`, `password` and `username`. -/
def mqttConnectFlags (options : MqttConnectData) : UInt8 :=
  ((options.cleansession &&& 1) <<< 1) |||
  (if options.willFlag then
    (0x04 : UInt8) ||| ((options.will.qos &&& 3) <<< 3) ||| ((options.will.retained &&& 1) <<< 5)
    else 0) |||
  (if options.password.given then 0x40 else 0) |||
  (if options.username.given then 0x80 else 0)

/-- `MQTTSerialize_connect`: the packet, whose length is returned. -/
def mqttSerializeConnect (buflen : Nat) (options : MqttConnectData) :
    Except MqttPacketError Bytes :=
  let len := mqttSerializeConnectLength options
  if buflen < mqttPacketLen len then .error .bufferTooShort
  else .ok (headerByte connectMsg :: mqttPacketEncode len ++
    (if options.mqttVersion = 4 then writeCString (lit "MQTT") ++ [4]
      else writeCString (lit "MQIsdp") ++ [3]) ++
    mqttConnectFlags options :: writeInt options.keepAliveInterval.toNat ++
    writeMqttString options.clientID ++
    (if options.willFlag then
      writeMqttString options.will.topicName ++ writeMqttString options.will.message else []) ++
    (if options.username.given then writeMqttString options.username else []) ++
    (if options.password.given then writeMqttString options.password else []))

/-- A connect packet is serialized exactly when its predicted length fits the buffer, and it is not
empty. -/
theorem mqttSerializeConnect_cases (buflen : Nat) (options : MqttConnectData) :
    (buflen < mqttPacketLen (mqttSerializeConnectLength options) ∧
      mqttSerializeConnect buflen options = .error .bufferTooShort) ∨
    (mqttPacketLen (mqttSerializeConnectLength options) ≤ buflen ∧
      ∃ packet, mqttSerializeConnect buflen options = .ok packet ∧ packet.length ≠ 0) := by
  by_cases h : buflen < mqttPacketLen (mqttSerializeConnectLength options)
  · exact .inl ⟨h, if_pos h⟩
  · exact .inr ⟨Nat.not_lt.1 h, _, if_neg h, by simp⟩

/-- What fits a buffer of 134 bytes. -/
theorem mqttPacketLen_le_iff {n : Nat} : mqttPacketLen n ≤ 134 ↔ n ≤ 131 := by
  simp only [mqttPacketLen]
  split_ifs <;> omega

end Esp32Iot
