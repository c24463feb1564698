import Esp32Iot.CString

/-!
# The parts of an MQTT packet

`MQTTCommon/MQTTPacket.c`: the size of a packet, the remaining-length field and the writers that
the serializers share. A writer moves a pointer through the buffer; here it is the bytes it writes,
and the number of bytes is what the pointer moves by. Lengths are `int`s of strings in the memory
of the device, far below `INT_MAX`, and natural numbers here.
-/

namespace Esp32Iot

/-- The return codes of the serializers that are not a length. -/
inductive MqttPacketError
  /-- `MQTTPACKET_BUFFER_TOO_SHORT` -/
  | bufferTooShort
  deriving DecidableEq

/-- The types of packets, `enum msgTypes`, by their number. -/
def connectMsg : Nat := 1

/-- `header.byte` of a packet without flags. -/
def headerByte (type : Nat) : UInt8 := UInt8.ofNat (16 * type)

/-- The digits of `MQTTPacket_encode`, lowest first. Each round makes the number smaller, so as many
rounds as its value are enough. -/
def encodeDigits : Nat → Nat → Bytes
  | 0, length => [UInt8.ofNat (length % 128)]
  | rounds + 1, length =>
      let d := UInt8.ofNat (length % 128)
      -- the top bit says that more digits follow
      if 0 < length / 128 then (d ||| 0x80) :: encodeDigits rounds (length / 128) else [d]

/-- `MQTTPacket_encode`. -/
def mqttPacketEncode (length : Nat) : Bytes := encodeDigits length length

/-- `MQTTPacket_len`. The bounds are compared with the length after the header byte was added to
it. -/
def mqttPacketLen (remLen : Nat) : Nat :=
  let remLen := remLen + 1
  if remLen < 128 then remLen + 1
  else if remLen < 16384 then remLen + 2
  else if remLen < 2097151 then remLen + 3
  else remLen + 4

/-- `writeInt`. -/
def writeInt (n : Nat) : Bytes := [UInt8.ofNat (n / 256), UInt8.ofNat (n % 256)]

/-- `writeCString`. -/
def writeCString (s : CStr) : Bytes := writeInt s.length ++ s.val

/-- `MQTTString`: a C string or a length-delimited one, each of which may be `NULL`. -/
structure MqttString where
  cstring : Option CStr
  lenstring : Option Bytes
  deriving DecidableEq

namespace MqttString

/-- `MQTTString_initializer`. -/
def initializer : MqttString := ⟨none, none⟩

/-- A string whose `cstring` is set. -/
def ofCString (s : CStr) : MqttString := { initializer with cstring := some s }

/-- `lenstring.len`. -/
def lenstringLen (s : MqttString) : Nat := (s.lenstring.getD []).length

/-- `s.cstring || s.lenstring.data`. -/
def given (s : MqttString) : Bool := s.cstring.isSome || s.lenstring.isSome

end MqttString

/-- `MQTTstrlen`. -/
def mqttStrlen (s : MqttString) : Nat :=
  match s.cstring with
  | some cstring => cstring.length
  | none => s.lenstringLen

/-- `writeMQTTString`: the length-delimited string goes first. -/
def writeMqttString (s : MqttString) : Bytes :=
  if 0 < s.lenstringLen then writeInt s.lenstringLen ++ s.lenstring.getD []
  else
    match s.cstring with
    | some cstring => writeCString cstring
    | none => writeInt 0

@[simp] theorem mqttStrlen_ofCString (s : CStr) : mqttStrlen (.ofCString s) = s.length := rfl

@[simp] theorem given_ofCString (s : CStr) : (MqttString.ofCString s).given = true := rfl

end Esp32Iot
