import Esp32Iot.Mqtt.Receive

/-!
# Acknowledgements

The packets that `waitfor` waits for, their decoders over `readbuf`, and a packet as it arrives on
the line: `ReadLine.packet` is the one that a line begins with, if it comes as a whole, and
`readPacket_of_packet` says that `readPacket` returns its type and leaves its bytes in `readbuf`.
-/

namespace Esp32Iot

/-! ## Types of packets -/

/-- The packets that `waitfor` can wait for. -/
inductive AckKind
  | connack
  | suback
  | unsuback
  | puback
  | pubcomp
  deriving DecidableEq

/-- The values of `enum msgTypes` for them. -/
def AckKind.type : AckKind → Nat
  | .connack => 2
  | .suback => 9
  | .unsuback => 11
  | .puback => 4
  | .pubcomp => 7

/-- `PUBREC_MSG`. -/
def pubrecMsg : Nat := 5

/-- `PUBREL_MSG`. -/
def pubrelMsg : Nat := 6

/-- `PINGRESP_MSG`. -/
def pingrespMsg : Nat := 13

/-- The cases of the `switch` in `cycle` that set a flag. -/
def AckKind.ofType (type : Int) : Option AckKind :=
  [AckKind.connack, .puback, .suback, .unsuback, .pubcomp].find? fun kind => kind.type = type

theorem AckKind.ofType_eq_some_iff {type : Int} {kind : AckKind} :
    AckKind.ofType type = some kind ↔ type = kind.type := by
  constructor
  · intro h
    have hfound := List.find?_some h
    exact (of_decide_eq_true hfound).symm
  · rintro rfl
    cases kind <;> rfl

/-! ## The decoders -/

/-- What `MQTTDeserialize_ack` returns, and its outputs. -/
structure AckFields where
  rc : Nat
  packettype : Nat
  dup : Bool
  /-- set when the packet is long enough only -/
  packetid : Option Nat
  deriving DecidableEq

/-- `MQTTDeserialize_ack`. -/
def mqttDeserializeAck (buf : Memory) : AckFields :=
  let header := buf 0
  let mylen := mqttPacketDecodeBuf buf 1
  let packettype := headerType header
  let dup := header.toNat / 8 % 2 = 1
  -- for a packet that is too short the return value is the number of bytes of the length field
  if mylen.value < 2 then ⟨mylen.len, packettype, dup, none⟩
  else ⟨1, packettype, dup, some (readInt buf (1 + mylen.len))⟩

/-- `MQTTDeserialize_unsuback`: its return value and the packet id. -/
def mqttDeserializeUnsuback (buf : Memory) : Nat × Option Nat :=
  let ack := mqttDeserializeAck buf
  (if ack.packettype = AckKind.unsuback.type then 1 else ack.rc, ack.packetid)

/-- `MQTTDeserialize_connack`: its return value, and `sessionPresent` and `connack_rc` when they are
set. -/
def mqttDeserializeConnack (buf : Memory) : Nat × Option (Bool × UInt8) :=
  if headerType (buf 0) ≠ AckKind.connack.type then (0, none)
  else
    let mylen := mqttPacketDecodeBuf buf 1
    if mylen.value < 2 then (mylen.len, none)
    -- the bit-field has its seven unused bits first
    else (1, some ((buf (1 + mylen.len)).toNat / 128 = 1, buf (2 + mylen.len)))

/-- The loop of `MQTTDeserialize_suback` over the bytes that are left of the packet: its return
value and the entries that it stores. -/
def readGrantedQoSs (buf : Memory) (maxcount : Nat) : Nat → Nat → Nat → Int × List UInt8
  | 0, _, _ => (1, [])
  | left + 1, curdata, count =>
      if maxcount < count then (-1, [])
      else
        let rest := readGrantedQoSs buf maxcount left (curdata + 1) (count + 1)
        (rest.1, buf curdata :: rest.2)

/-- What `MQTTDeserialize_suback` returns, and its outputs; `*count` is the number of entries. -/
structure SubackFields where
  rc : Int
  packetid : Option Nat
  grantedQoSs : List UInt8
  deriving DecidableEq

/-- `MQTTDeserialize_suback`. -/
def mqttDeserializeSuback (maxcount : Nat) (buf : Memory) : SubackFields :=
  if headerType (buf 0) ≠ AckKind.suback.type then ⟨0, none, []⟩
  else
    let mylen := mqttPacketDecodeBuf buf 1
    if mylen.value < 2 then ⟨mylen.len, none, []⟩
    else
      let curdata := 1 + mylen.len
      let granted := readGrantedQoSs buf maxcount (mylen.value - 2) (curdata + 2) 0
      ⟨granted.1, some (readInt buf curdata), granted.2⟩

/-! ## Packets that arrive -/

/-- A packet that has arrived as a whole. -/
structure MqttPacket where
  header : UInt8
  body : Bytes
  deriving DecidableEq

namespace MqttPacket

/-- `header.bits.type`. -/
def type (p : MqttPacket) : Nat := headerType p.header

/-- The packet as it stands in `readbuf`. -/
def bytes (p : MqttPacket) : Bytes := p.header :: (mqttPacketEncode p.body.length ++ p.body)

/-- The packet id that an acknowledgement carries. -/
def packetid (p : MqttPacket) : Option Nat :=
  match p.body with
  | hi :: lo :: _ => some (256 * hi.toNat + lo.toNat)
  | _ => none

end MqttPacket

/-- The packet, if its body comes as a whole. -/
def Announced.packet (p : Announced) : Option MqttPacket :=
  if p.Complete then some ⟨p.header, p.content⟩ else none

/-- The packet that a line begins with. -/
def ReadLine.packet (l : ReadLine) : Option MqttPacket := (announced l.feed).bind Announced.packet

/-- **A packet is read** into `readbuf`, and its type is returned. -/
theorem readPacket_of_packet (readbuf : Memory) {l : ReadLine} {p : MqttPacket}
    (h : l.packet = some p) :
    (readPacket readbuf l).code = p.type ∧
      HasAt (applyWrites readbuf (readPacket readbuf l).writes) 0 p.bytes := by
  obtain ⟨a, ha, hp⟩ := Option.bind_eq_some_iff.1 h
  rw [Announced.packet] at hp
  split at hp
  next hcomplete =>
    cases hp
    obtain ⟨hcode, hwrites, -⟩ := readPacket_announced readbuf ha
    rw [if_pos hcomplete] at hcode
    have hlength : a.content.length = a.length := List.length_take_of_le hcomplete
    have hat := a.hasAt_writes readbuf
    rw [Feed.take_arriving hcomplete] at hat
    refine ⟨hcode, ?_⟩
    rw [hwrites, MqttPacket.bytes, hlength]
    exact hat
  next => cases hp

/-- Without a packet the read fails. -/
theorem readPacket_of_no_packet (readbuf : Memory) {l : ReadLine} (h : l.packet = none) :
    (readPacket readbuf l).code = mqttFailure := by
  cases ha : announced l.feed with
  | none => exact (readPacket_of_none readbuf ha).1
  | some a =>
    have hcomplete : ¬ a.Complete := by
      intro hcomplete
      rw [ReadLine.packet, ha, Option.bind_some, Announced.packet, if_pos hcomplete] at h
      cases h
    rw [(readPacket_announced readbuf ha).1, if_neg hcomplete]

/-- When no byte comes, there is no packet and `readbuf` stays as it is. -/
theorem readPacket_of_silence (readbuf : Memory) {l : ReadLine} (h : l.feed.arriving = []) :
    l.packet = none ∧ applyWrites readbuf (readPacket readbuf l).writes = readbuf := by
  have hnone : announced l.feed = none := by
    cases hf : l.feed with
    | item b f => rw [hf] at h; cases h
    | quiet | pause f | ended tail => rfl
  refine ⟨by rw [ReadLine.packet, hnone]; rfl, ?_⟩
  rw [(readPacket_of_none readbuf hnone).2.1, h]
  funext i
  simp [applyWrites, BufWrite.apply]

end Esp32Iot
