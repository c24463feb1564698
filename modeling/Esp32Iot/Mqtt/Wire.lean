import Esp32Iot.Lib.Parse
import Esp32Iot.Mqtt.Ack
import Esp32Iot.Mqtt.RoundTrip

/-!
# What the broker reads

All packets that the client can send, and what they mean to the broker. The broker is not in the
source: `ControlPacket` and `controlPacket` are the protocol's own account of a packet, its flags
and fields, and read nothing that the serializers hand over besides the bytes.

`controlPacket_reads` says that a serialized packet is read as what was asked for, and ends where it
ends, and `sent_read` that packets sent one behind the other are read as that sequence.
`mqttDeserializeAck_serialize` is the client's own reader on its acknowledgements.
-/

namespace Esp32Iot

/-! ## The other serializers -/

/-- `header.byte` of an acknowledgement; only a `PUBREL` has a quality, 1. -/
def ackHeader (packettype dup : UInt8) : UInt8 :=
  headerByte packettype.toNat ||| ((dup &&& 1) <<< 3) ||| (if packettype = 6 then 2 else 0)

/-- `MQTTSerialize_ack`. -/
def mqttSerializeAck (buflen : Nat) (packettype dup : UInt8) (packetid : UInt16) :
    Except MqttPacketError Bytes :=
  if buflen < 4 then .error .bufferTooShort
  else .ok (ackHeader packettype dup :: mqttPacketEncode 2 ++ writeInt packetid.toNat)

/-- `MQTTSerialize_puback`. -/
def mqttSerializePuback (buflen : Nat) (packetid : UInt16) : Except MqttPacketError Bytes :=
  mqttSerializeAck buflen 4 0 packetid

/-- `MQTTSerialize_pubrel`. -/
def mqttSerializePubrel (buflen : Nat) (dup : UInt8) (packetid : UInt16) :
    Except MqttPacketError Bytes := mqttSerializeAck buflen 6 dup packetid

/-- `MQTTSerialize_pubcomp`. -/
def mqttSerializePubcomp (buflen : Nat) (packetid : UInt16) : Except MqttPacketError Bytes :=
  mqttSerializeAck buflen 7 0 packetid

/-- `MQTTSerialize_zero`. -/
def mqttSerializeZero (buflen : Nat) (packettype : UInt8) : Except MqttPacketError Bytes :=
  if buflen < 2 then .error .bufferTooShort
  else .ok (headerByte packettype.toNat :: mqttPacketEncode 0)

/-- `MQTTSerialize_disconnect`. -/
def mqttSerializeDisconnect (buflen : Nat) : Except MqttPacketError Bytes :=
  mqttSerializeZero buflen 14

/-- `MQTTSerialize_pingreq`. -/
def mqttSerializePingreq (buflen : Nat) : Except MqttPacketError Bytes :=
  mqttSerializeZero buflen 12

/-- A packet that the client can send. -/
inductive ClientPacket
  | request (r : MqttRequest)
  | puback (packetid : UInt16)
  /-- `MQTTSerialize_ack` with `PUBREC_MSG` -/
  | pubrec (packetid : UInt16)
  | pubrel (dup : UInt8) (packetid : UInt16)
  | pubcomp (packetid : UInt16)
  | pingreq
  | disconnect
  deriving DecidableEq

/-- Its serializer. -/
def ClientPacket.serialize (buflen : Nat) : ClientPacket → Except MqttPacketError Bytes
  | request r => r.serialize buflen
  | puback packetid => mqttSerializePuback buflen packetid
  | pubrec packetid => mqttSerializeAck buflen 5 0 packetid
  | pubrel dup packetid => mqttSerializePubrel buflen dup packetid
  | pubcomp packetid => mqttSerializePubcomp buflen packetid
  | pingreq => mqttSerializePingreq buflen
  | disconnect => mqttSerializeDisconnect buflen

/-! ## The protocol -/

/-- The message that the broker publishes when the client is gone. -/
structure Will where
  topic : Bytes
  message : Bytes
  qos : Nat
  retain : Bool
  deriving DecidableEq

/-- What a client asks for when it connects. -/
structure Connect where
  protocolName : Bytes
  level : UInt8
  cleanSession : Bool
  keepAlive : Nat
  clientId : Bytes
  will : Option Will
  userName : Option Bytes
  password : Option Bytes
  deriving DecidableEq

/-- A packet as the protocol has it. -/
inductive ControlPacket
  | connect (connect : Connect)
  | publish (dup : Bool) (qos : Nat) (retain : Bool) (topic : Bytes) (packetid : Option Nat)
      (payload : Bytes)
  | acknowledge (type : Nat) (dup : Bool) (packetid : Nat)
  | subscribe (dup : Bool) (packetid : Nat) (filters : List (Bytes × UInt8))
  | unsubscribe (dup : Bool) (packetid : Nat) (filters : List Bytes)
  | pingreq
  | disconnect
  deriving DecidableEq

section
open Parse

/-- A bit of a byte of flags. -/
def flagBit (flags : UInt8) (i : Nat) : Bool := flags.toNat.testBit i

/-- The two bits of a quality of service. -/
def flagQos (flags : UInt8) (i : Nat) : Nat := flags.toNat / 2 ^ i % 4

/-- Two bytes, the high one first. -/
def int16 : Parse UInt8 Nat := do
  let hi ← one
  let lo ← one
  pure (256 * hi.toNat + lo.toNat)

/-- A string with its length in front. -/
def string : Parse UInt8 Bytes := do
  let n ← int16
  take n

/-- The remaining length, in so many digits at most. -/
def digits : Nat → Parse UInt8 Nat
  | 0 => failure
  | n + 1 => do
      let b ← one
      if b.toNat < 128 then pure b.toNat
      else do
        let more ← digits n
        pure (b.toNat % 128 + 128 * more)

/-- The body of a connect packet. -/
def connectBody : Parse UInt8 ControlPacket := do
  let protocolName ← string
  let level ← one
  let flags ← one
  let keepAlive ← int16
  let clientId ← string
  let will ← optional (flagBit flags 2) do
    let topic ← string
    let message ← string
    pure { topic, message, qos := flagQos flags 3, retain := flagBit flags 5 : Will }
  let userName ← optional (flagBit flags 7) string
  let password ← optional (flagBit flags 6) string
  pure (.connect
    { protocolName, level, cleanSession := flagBit flags 1, keepAlive, clientId, will, userName,
      password })

/-- The body of a publish packet with this header. -/
def publishBody (header : UInt8) : Parse UInt8 ControlPacket := do
  let topic ← string
  let packetid ← optional (decide (0 < flagQos header 1)) int16
  let payload ← rest
  pure (.publish (flagBit header 3) (flagQos header 1) (flagBit header 0) topic packetid payload)

/-- A topic filter and the quality that is asked for. -/
def filterQos : Parse UInt8 (Bytes × UInt8) := do
  let filter ← string
  let qos ← one
  pure (filter, qos)

/-- What stands behind the remaining length. -/
def controlBody (header : UInt8) : Parse UInt8 ControlPacket :=
  match headerType header with
  | 1 => connectBody
  | 3 => publishBody header
  | 4 | 5 | 6 | 7 => do
      let packetid ← int16
      pure (.acknowledge (headerType header) (flagBit header 3) packetid)
  | 8 => do
      let packetid ← int16
      let filters ← many filterQos
      pure (.subscribe (flagBit header 3) packetid filters)
  | 10 => do
      let packetid ← int16
      let filters ← many string
      pure (.unsubscribe (flagBit header 3) packetid filters)
  | 12 => pure .pingreq
  | 14 => pure .disconnect
  | _ => failure

/-- A packet. -/
def controlPacket : Parse UInt8 ControlPacket := do
  let header ← one
  let remLen ← digits 4
  within remLen (controlBody header)

end

/-! ## What is meant -/

/-- What a call of `MQTTSerialize_connect` asks for. -/
def MqttConnectData.meaning (options : MqttConnectData) : Connect where
  protocolName := if options.mqttVersion = 4 then (CStr.lit "MQTT").val
    else (CStr.lit "MQIsdp").val
  level := if options.mqttVersion = 4 then 4 else 3
  cleanSession := options.cleansession &&& 1 = 1
  keepAlive := options.keepAliveInterval.toNat
  clientId := options.clientID.bytes
  will :=
    if options.willFlag then
      some ⟨options.will.topicName.bytes, options.will.message.bytes, options.will.qos.toNat % 4,
        options.will.retained &&& 1 = 1⟩
    else none
  userName := if options.username.given then some options.username.bytes else none
  password := if options.password.given then some options.password.bytes else none

/-- What the client means by a packet. -/
def ClientPacket.meaning : ClientPacket → ControlPacket
  | request (.connect options) => .connect options.meaning
  | request (.publish dup qos retained packetid topicName payload) =>
      .publish dup qos.toNat retained topicName.bytes
        (if 0 < qos.toNat then some packetid.toNat else none) payload
  | request (.subscribe dup packetid filters) =>
      .subscribe (dup &&& 1 = 1) packetid.toNat
        (filters.map fun filter => (filter.1.bytes, UInt8.ofInt filter.2))
  | request (.unsubscribe dup packetid topicFilters) =>
      .unsubscribe (dup &&& 1 = 1) packetid.toNat (topicFilters.map MqttString.bytes)
  | puback packetid => .acknowledge 4 false packetid.toNat
  | pubrec packetid => .acknowledge 5 false packetid.toNat
  | pubrel dup packetid => .acknowledge 6 (dup &&& 1 = 1) packetid.toNat
  | pubcomp packetid => .acknowledge 7 false packetid.toNat
  | pingreq => .pingreq
  | disconnect => .disconnect

/-! ## Fields -/

section
open Parse

theorem int16_reads {n : Nat} (hn : n < 65536) : int16.Reads (writeInt n) n := by
  have hvalue : 256 * (UInt8.ofNat (n / 256)).toNat + (UInt8.ofNat (n % 256)).toNat = n := by
    rw [UInt8.toNat_ofNat', UInt8.toNat_ofNat']
    omega
  intro us
  change some (256 * (UInt8.ofNat (n / 256)).toNat + (UInt8.ofNat (n % 256)).toNat, us) = _
  rw [hvalue]

theorem string_reads {bs : Bytes} (hbs : bs.length ≤ 65535) :
    string.Reads (writeInt bs.length ++ bs) bs :=
  (int16_reads (Nat.lt_succ_of_le hbs)).bind (reads_take bs)

/-- A string that is given one way. -/
theorem mqttString_reads {s : MqttString} (h : s.OneWay) (hshort : mqttStrlen s ≤ 65535) :
    string.Reads (writeMqttString s) s.bytes := by
  rw [writeMqttString_eq h, ← s.length_bytes]
  exact string_reads (s.length_bytes ▸ hshort)

/-- A complete length field. -/
theorem digits_reads {bs : Bytes} (hbs : IsField bs) {rounds : Nat} (hrounds : bs.length ≤ rounds) :
    (digits rounds).Reads bs (fieldValue bs) := by
  induction hbs generalizing rounds with
  | @last b hb =>
    obtain ⟨rounds, rfl⟩ := Nat.exists_eq_add_of_le' hrounds
    refine Reads.cons ?_
    rw [if_pos hb, fieldValue, Nat.mod_eq_of_lt hb]
    exact reads_pure _
  | @more b bs hb hbs ih =>
    rw [List.length_cons] at hrounds
    obtain ⟨rounds, rfl⟩ := Nat.exists_eq_add_of_le' (Nat.le_trans (Nat.le_add_left 1 _) hrounds)
    refine Reads.cons ?_
    rw [if_neg (Nat.not_lt.2 hb), ← List.append_nil bs]
    refine (ih (Nat.le_of_succ_le_succ hrounds)).bind ?_
    rw [List.append_nil, fieldValue]
    exact reads_pure _

/-- A packet in its parts. -/
theorem controlPacket_frame {header : UInt8} {body : Bytes} {a : ControlPacket}
    (hbody : (controlBody header).ReadsAll body a) (hlen : body.length < 2 ^ 28) :
    controlPacket.Reads (header :: (mqttPacketEncode body.length ++ body)) a := by
  refine Reads.cons ?_
  have hdigits := digits_reads (isField_mqttPacketEncode body.length)
    (length_mqttPacketEncode_le (show body.length < 128 ^ 4 from hlen))
  rw [fieldValue_mqttPacketEncode] at hdigits
  exact hdigits.bind hbody.within

/-! ### Connect packets -/

theorem and_one_cases (b : UInt8) : b &&& 1 = 0 ∨ b &&& 1 = 1 := by
  have hbit : (b &&& 1).toNat = b.toNat % 2 := by
    rw [UInt8.toNat_and]
    exact Nat.and_two_pow_sub_one_eq_mod b.toNat 1
  rcases Nat.mod_two_eq_zero_or_one b.toNat with h | h
  · exact .inl (UInt8.toNat_inj.1 (hbit.trans h))
  · exact .inr (UInt8.toNat_inj.1 (hbit.trans h))

theorem and_three_toNat (b : UInt8) : (b &&& 3).toNat = b.toNat % 4 := by
  rw [UInt8.toNat_and]
  exact Nat.and_two_pow_sub_one_eq_mod b.toNat 2

/-- The bit fields of the flags. -/
theorem mqttConnectFlags_bits (options : MqttConnectData) :
    flagBit (mqttConnectFlags options) 1 = decide (options.cleansession &&& 1 = 1) ∧
      flagBit (mqttConnectFlags options) 2 = options.willFlag ∧
      flagBit (mqttConnectFlags options) 6 = options.password.given ∧
      flagBit (mqttConnectFlags options) 7 = options.username.given ∧
      (options.willFlag = true →
        flagQos (mqttConnectFlags options) 3 = options.will.qos.toNat % 4 ∧
        flagBit (mqttConnectFlags options) 5 = decide (options.will.retained &&& 1 = 1)) := by
  have hqos := and_three_toNat options.will.qos
  have hlt : (options.will.qos &&& 3).toNat < 4 := hqos ▸ Nat.mod_lt _ (by decide)
  rw [← hqos]
  simp only [mqttConnectFlags]
  generalize options.will.qos &&& 3 = qos at hlt
  have hqos : qos = 0 ∨ qos = 1 ∨ qos = 2 ∨ qos = 3 := by
    simp only [← UInt8.toNat_inj]
    change qos.toNat = 0 ∨ qos.toNat = 1 ∨ qos.toNat = 2 ∨ qos.toNat = 3
    omega
  have hclean := and_one_cases options.cleansession
  have hretained := and_one_cases options.will.retained
  generalize options.cleansession &&& 1 = clean at hclean
  generalize options.will.retained &&& 1 = retained at hretained
  generalize options.willFlag = will, options.password.given = password,
    options.username.given = username
  clear hlt
  revert will password username
  rcases hclean with rfl | rfl <;> rcases hretained with rfl | rfl <;>
    rcases hqos with rfl | rfl | rfl | rfl <;> decide

/-- The will, when there is one. -/
theorem will_reads {options : MqttConnectData} (h : (MqttRequest.connect options).WellGiven)
    (hwill : options.willFlag = true) :
    Reads (do
        let topic ← string
        let message ← string
        pure { topic, message, qos := flagQos (mqttConnectFlags options) 3,
               retain := flagBit (mqttConnectFlags options) 5 : Will })
      (writeMqttString options.will.topicName ++ writeMqttString options.will.message)
      ⟨options.will.topicName.bytes, options.will.message.bytes, options.will.qos.toNat % 4,
        options.will.retained &&& 1 = 1⟩ := by
  obtain ⟨-, -, -, -, hbits⟩ := mqttConnectFlags_bits options
  obtain ⟨hqos, hretain⟩ := hbits hwill
  have htopic : options.will.topicName ∈ (MqttRequest.connect options).strings := by
    simp [MqttRequest.strings, hwill]
  have hmessage : options.will.message ∈ (MqttRequest.connect options).strings := by
    simp [MqttRequest.strings, hwill]
  refine (mqttString_reads (h.oneWay _ htopic) (h.short _ htopic)).bind ?_
  rw [← List.append_nil (writeMqttString options.will.message), hqos, hretain]
  exact (mqttString_reads (h.oneWay _ hmessage) (h.short _ hmessage)).bind (reads_pure _)

/-- The name and the version of the protocol. -/
theorem protocol_reads {options : MqttConnectData} {f : Bytes → UInt8 → Parse UInt8 ControlPacket}
    {us : Bytes} {a : ControlPacket}
    (hf : (f options.meaning.protocolName options.meaning.level).Reads us a) :
    (do
      let protocolName ← string
      let level ← one
      f protocolName level).Reads
      ((if options.mqttVersion = 4 then writeCString (CStr.lit "MQTT") ++ [4]
        else writeCString (CStr.lit "MQIsdp") ++ [3]) ++ us) a := by
  rw [MqttConnectData.meaning] at hf
  dsimp only at hf
  split at hf
  next hv =>
    rw [if_pos hv, List.append_assoc]
    exact (string_reads (by decide)).bind (Reads.cons hf)
  next hv =>
    rw [if_neg hv, List.append_assoc]
    exact (string_reads (by decide)).bind (Reads.cons hf)

/-- The body of a connect packet. -/
theorem connectBody_reads {options : MqttConnectData}
    (h : (MqttRequest.connect options).WellGiven) :
    connectBody.ReadsAll (MqttRequest.connect options).body (.connect options.meaning) := by
  obtain ⟨hclean, hwill, hpassword, husername, -⟩ := mqttConnectFlags_bits options
  have hread : ∀ s ∈ (MqttRequest.connect options).strings,
      string.Reads (writeMqttString s) s.bytes :=
    fun s hs => mqttString_reads (h.oneWay s hs) (h.short s hs)
  refine Reads.all ?_
  rw [MqttRequest.body, ← List.append_nil (if options.password.given then _ else _)]
  simp only [List.append_assoc, List.cons_append]
  refine protocol_reads (Reads.cons ?_)
  refine (int16_reads options.keepAliveInterval.toNat_lt).bind ?_
  refine (hread options.clientID (by simp [MqttRequest.strings])).bind ?_
  rw [hwill, hpassword, husername, hclean]
  refine (reads_optional (will_reads h)).bind ?_
  refine (reads_optional fun _ => hread options.username (by simp [MqttRequest.strings])).bind ?_
  exact (reads_optional fun _ => hread options.password (by simp [MqttRequest.strings])).bind
    (reads_pure _)

/-! ### The other requests -/

theorem publishHeader_flags (dup : Bool) (qos : QoS) (retained : Bool) :
    headerType (publishHeader dup qos retained) = 3 ∧
      flagBit (publishHeader dup qos retained) 3 = dup ∧
      flagQos (publishHeader dup qos retained) 1 = qos.toNat ∧
      flagBit (publishHeader dup qos retained) 0 = retained := by
  cases dup <;> cases qos <;> cases retained <;> decide

theorem publishBody_reads {dup : Bool} {qos : QoS} {retained : Bool} {packetid : UInt16}
    {topicName : MqttString} {payload : Bytes} (htopic : topicName.OneWay)
    (hshort : mqttStrlen topicName ≤ 65535) :
    (publishBody (publishHeader dup qos retained)).ReadsAll
      (MqttRequest.publish dup qos retained packetid topicName payload).body
      (.publish dup qos.toNat retained topicName.bytes
        (if 0 < qos.toNat then some packetid.toNat else none) payload) := by
  obtain ⟨-, hdup, hqos, hretained⟩ := publishHeader_flags dup qos retained
  rw [MqttRequest.body, List.append_assoc, publishBody, hdup, hqos, hretained]
  refine ReadsAll.bind (mqttString_reads htopic hshort) ?_
  have hident : (optional (decide (0 < qos.toNat)) int16).Reads _ _ :=
    reads_optional fun _ => int16_reads packetid.toNat_lt
  simp only [decide_eq_true_eq] at hident
  exact ReadsAll.bind hident ((readsAll_rest payload).last _)

theorem requestHeader_flags (dup : UInt8) :
    headerType (requestHeader subscribeMsg dup) = 8 ∧
      headerType (requestHeader unsubscribeMsg dup) = 10 ∧
      flagBit (requestHeader subscribeMsg dup) 3 = decide (dup &&& 1 = 1) ∧
      flagBit (requestHeader unsubscribeMsg dup) 3 = decide (dup &&& 1 = 1) := by
  simp only [requestHeader]
  rcases and_one_cases dup with h | h
  · rw [h]; decide
  · rw [h]; decide

theorem ackHeader_flags (dup : UInt8) :
    ∀ type ∈ [4, 5, 6, 7], headerType (ackHeader type dup) = type.toNat ∧
      flagBit (ackHeader type dup) 3 = decide (dup &&& 1 = 1) := by
  simp only [ackHeader]
  rcases and_one_cases dup with h | h
  · rw [h]; decide +kernel
  · rw [h]; decide +kernel

/-- A topic filter is not empty on the wire, so the filters can be counted. -/
theorem writeMqttString_ne_nil {s : MqttString} (h : s.OneWay) : writeMqttString s ≠ [] := by
  rw [writeMqttString_eq h]
  exact List.cons_ne_nil _ _

/-- A PUBLISH with a C string as its topic. -/
theorem MqttRequest.wellGiven_publish (dup : Bool) (qos : QoS) (retained : Bool) (packetid : UInt16)
    {topicName : CStr} (htopic : topicName.length ≤ 65535) (payload : Bytes) :
    (MqttRequest.publish dup qos retained packetid (.ofCString topicName) payload).WellGiven := by
  refine ⟨fun s hs => ?_, fun s hs => ?_, fun options hoptions => ?_⟩
  · cases List.mem_singleton.1 hs
    exact .inr rfl
  · cases List.mem_singleton.1 hs
    exact htopic
  · cases hoptions

/-- The body of every request. -/
theorem requestBody_reads {r : MqttRequest} (h : r.WellGiven) :
    (controlBody r.header).ReadsAll r.body (ClientPacket.request r).meaning := by
  cases r with
  | connect options =>
    have htype : headerType (headerByte connectMsg) = 1 := by decide
    rw [controlBody, MqttRequest.header, htype]
    exact connectBody_reads h
  | publish dup qos retained packetid topicName payload =>
    rw [controlBody, MqttRequest.header, (publishHeader_flags dup qos retained).1]
    have hmem : topicName ∈
        (MqttRequest.publish dup qos retained packetid topicName payload).strings := .head _
    exact publishBody_reads (h.oneWay _ hmem) (h.short _ hmem)
  | subscribe dup packetid filters =>
    obtain ⟨htype, -, hdup, -⟩ := requestHeader_flags dup
    rw [controlBody, MqttRequest.header, htype, hdup]
    refine ReadsAll.bind (int16_reads packetid.toNat_lt) ?_
    have hfilters : ∀ filter ∈ filters,
        filterQos.Reads (writeMqttString filter.1 ++ [UInt8.ofInt filter.2])
          (filter.1.bytes, UInt8.ofInt filter.2) ∧
        writeMqttString filter.1 ++ [UInt8.ofInt filter.2] ≠ [] := by
      intro filter hmem
      have hstring := List.mem_map_of_mem (f := Prod.fst) hmem
      exact ⟨(mqttString_reads (h.oneWay _ hstring) (h.short _ hstring)).bind
        (Reads.cons (reads_pure _)), List.append_ne_nil_of_right_ne_nil _ (List.cons_ne_nil _ _)⟩
    exact (readsAll_many hfilters).last _
  | unsubscribe dup packetid topicFilters =>
    obtain ⟨-, htype, -, hdup⟩ := requestHeader_flags dup
    rw [controlBody, MqttRequest.header, htype, hdup]
    refine ReadsAll.bind (int16_reads packetid.toNat_lt) ?_
    have hfilters : ∀ filter ∈ topicFilters,
        string.Reads (writeMqttString filter) filter.bytes ∧ writeMqttString filter ≠ [] :=
      fun filter hmem => ⟨mqttString_reads (h.oneWay _ hmem) (h.short _ hmem),
        writeMqttString_ne_nil (h.oneWay _ hmem)⟩
    exact (readsAll_many hfilters).last _

/-- What the client sends is well given. -/
def ClientPacket.WellGiven (packet : ClientPacket) : Prop :=
  ∀ r, packet = .request r → r.WellGiven

/-- An acknowledgement. -/
theorem mqttSerializeAck_reads {buflen : Nat} {type dup : UInt8} {packetid : UInt16} {bytes : Bytes}
    (htype : type ∈ [4, 5, 6, 7]) (h : mqttSerializeAck buflen type dup packetid = .ok bytes) :
    controlPacket.Reads bytes
      (.acknowledge type.toNat (decide (dup &&& 1 = 1)) packetid.toNat) := by
  obtain ⟨hheader, hdup⟩ := ackHeader_flags dup type htype
  rw [mqttSerializeAck] at h
  split at h
  next => cases h
  next =>
    cases h
    have htwo : (writeInt packetid.toNat).length < 2 ^ 28 := show 2 < 2 ^ 28 by decide
    refine controlPacket_frame ?_ htwo
    have hbody : controlBody (ackHeader type dup) = (do
        let packetid ← int16
        pure (.acknowledge type.toNat (decide (dup &&& 1 = 1)) packetid)) := by
      rw [controlBody, hheader, hdup]
      simp only [List.mem_cons, List.not_mem_nil, or_false] at htype
      rcases htype with rfl | rfl | rfl | rfl <;> rfl
    rw [hbody]
    exact (int16_reads packetid.toNat_lt).all.last _

/-- A packet without a body. -/
theorem mqttSerializeZero_reads {buflen : Nat} {type : UInt8} {bytes : Bytes} {a : ControlPacket}
    (hbody : controlBody (headerByte type.toNat) = pure a)
    (h : mqttSerializeZero buflen type = .ok bytes) : controlPacket.Reads bytes a := by
  rw [mqttSerializeZero] at h
  split at h
  next => cases h
  next =>
    cases h
    have hnil : (controlBody (headerByte type.toNat)).ReadsAll [] a := hbody ▸ (reads_pure a).all
    exact controlPacket_frame hnil (by decide)

/-- **A serialized packet is read as what was meant**, whatever is sent after it. -/
theorem controlPacket_reads {packet : ClientPacket} (h : packet.WellGiven) {buflen : Nat}
    (hbuflen : buflen ≤ 2 ^ 28) {bytes : Bytes} (hbytes : packet.serialize buflen = .ok bytes) :
    controlPacket.Reads bytes packet.meaning := by
  cases packet with
  | request r =>
    have hr := h r rfl
    have hlen := MqttRequest.length_body hr
    rw [ClientPacket.serialize, MqttRequest.serialize_eq] at hbytes
    split at hbytes
    next => cases hbytes
    next hfits =>
      cases hbytes
      have hpredicted := mqttPacketLen_cases r.remLen
      rw [← hlen]
      exact controlPacket_frame (requestBody_reads hr) (by omega)
  | puback packetid => exact mqttSerializeAck_reads (by decide) hbytes
  | pubrec packetid => exact mqttSerializeAck_reads (by decide) hbytes
  | pubrel dup packetid => exact mqttSerializeAck_reads (by decide) hbytes
  | pubcomp packetid => exact mqttSerializeAck_reads (by decide) hbytes
  | pingreq => exact mqttSerializeZero_reads rfl hbytes
  | disconnect => exact mqttSerializeZero_reads rfl hbytes

/-- A packet as it was sent. -/
structure SentBytes (packet : ClientPacket) (bytes : Bytes) : Prop where
  wellGiven : packet.WellGiven
  serialized : ∃ buflen ≤ 2 ^ 28, packet.serialize buflen = .ok bytes

theorem SentBytes.reads {packet : ClientPacket} {bytes : Bytes} (h : SentBytes packet bytes) :
    controlPacket.Reads bytes packet.meaning := by
  obtain ⟨hgiven, buflen, hbuflen, hbytes⟩ := h
  exact controlPacket_reads hgiven hbuflen hbytes

/-- No packet is empty: nothing is read of no bytes. -/
theorem SentBytes.ne_nil {packet : ClientPacket} {bytes : Bytes} (h : SentBytes packet bytes) :
    bytes ≠ [] := by
  rintro rfl
  cases h.reads []

/-- **What is sent is what is read**: packets that are sent one behind the other are read as this
sequence of packets, and none of their bytes is left over. -/
theorem sent_read {sent : List (ClientPacket × Bytes)} (h : ∀ s ∈ sent, SentBytes s.1 s.2) :
    (many controlPacket).ReadsAll (sent.flatMap Prod.snd) (sent.map fun s => s.1.meaning) :=
  readsAll_many fun s hs => ⟨(h s hs).reads, (h s hs).ne_nil⟩

end

/-- The packet `smallPublish`, as it was asked for. -/
def smallRequest : MqttRequest := .publish true .qos1 false 0x1234 ⟨none, some [97, 47, 98]⟩ [1, 2]

theorem smallRequest_wellGiven : smallRequest.WellGiven where
  oneWay := by decide +kernel
  short := by decide +kernel
  version := by
    intro options h
    cases h

/-- It, the acknowledgement of a packet that came in, a ping and the end. -/
def fourSent : List (ClientPacket × Bytes) :=
  [(.request smallRequest, smallPublish), (.puback 7, [0x40, 2, 0, 7]), (.pingreq, [0xc0, 0]),
    (.disconnect, [0xe0, 0])]

theorem fourSent_sentBytes : ∀ s ∈ fourSent, SentBytes s.1 s.2 := by
  have hbuflen : 134 ≤ 2 ^ 28 := by decide
  have hpublish : SentBytes (.request smallRequest) smallPublish := by
    refine ⟨?_, 134, hbuflen, by decide +kernel⟩
    intro r hr
    rw [← ClientPacket.request.inj hr]
    exact smallRequest_wellGiven
  have hpuback : SentBytes (.puback 7) [0x40, 2, 0, 7] :=
    ⟨fun r hr => (by cases hr), 134, hbuflen, rfl⟩
  have hpingreq : SentBytes .pingreq [0xc0, 0] :=
    ⟨fun r hr => (by cases hr), 134, hbuflen, rfl⟩
  have hdisconnect : SentBytes .disconnect [0xe0, 0] :=
    ⟨fun r hr => (by cases hr), 134, hbuflen, rfl⟩
  rw [fourSent]
  simp only [List.forall_mem_cons, List.not_mem_nil, false_imp_iff, implies_true, and_true]
  exact ⟨hpublish, hpuback, hpingreq, hdisconnect⟩

/-- They are read as four packets. -/
theorem fourSent_read :
    (Parse.many controlPacket).ReadsAll (fourSent.flatMap Prod.snd)
        (fourSent.map fun s => s.1.meaning) ∧
      fourSent.map (fun s => s.1.meaning) =
        [.publish true 1 false [97, 47, 98] (some 0x1234) [1, 2], .acknowledge 4 false 7, .pingreq,
          .disconnect] :=
  ⟨sent_read fourSent_sentBytes, by decide +kernel⟩

/-! ## The client's reader -/

/-- The header byte of any acknowledgement comes back. -/
theorem ackHeader_fields {type : UInt8} (htype : type.toNat < 16) (dup : UInt8) :
    headerType (ackHeader type dup) = type.toNat ∧
      ((ackHeader type dup).toNat / 8 % 2 = 1 ↔ dup &&& 1 = 1) := by
  have hall : ∀ d ∈ [(0 : UInt8), 1], ∀ n : Fin 16,
      headerType (headerByte n.val ||| (d <<< 3) ||| (if UInt8.ofNat n.val = 6 then 2 else 0)) =
        n.val ∧
      ((headerByte n.val ||| (d <<< 3) ||| (if UInt8.ofNat n.val = 6 then 2 else 0)).toNat / 8 % 2 =
        1 ↔ d = 1) := by
    decide +kernel
  have hcase (d : UInt8) (hd : d ∈ [(0 : UInt8), 1]) := hall d hd ⟨type.toNat, htype⟩
  simp only [UInt8.ofNat_toNat] at hcase
  rw [ackHeader]
  rcases and_one_cases dup with h | h
  · rw [h]
    exact hcase 0 (by decide)
  · rw [h]
    exact hcase 1 (by decide)

/-- **Acknowledgements round-trip** through `MQTTDeserialize_ack`, from any buffer they stand in. -/
theorem mqttDeserializeAck_serialize {buflen : Nat} {type dup : UInt8} (htype : type.toNat < 16)
    {packetid : UInt16} {bytes : Bytes}
    (h : mqttSerializeAck buflen type dup packetid = .ok bytes) {buf : Memory}
    (hbuf : HasAt buf 0 bytes) :
    mqttDeserializeAck buf = ⟨1, type.toNat, dup &&& 1 = 1, some packetid.toNat⟩ := by
  rw [mqttSerializeAck] at h
  split at h
  next => cases h
  next =>
    cases h
    obtain ⟨hheader, hrest⟩ := hbuf
    obtain ⟨hfield, hid⟩ := hasAt_append.1 hrest
    obtain ⟨hback, hdup⟩ := ackHeader_fields htype dup
    have hdecode : mqttPacketDecodeBuf buf 1 = ⟨1, 2, 2⟩ :=
      mqttPacketDecode_encode (by decide) hfield.delivers
    have hread : readInt buf 2 = packetid.toNat := readInt_writeInt packetid.toNat_lt hid
    simp only [mqttDeserializeAck, hdecode, hheader, hback, hdup, hread]
    rfl

/-- A `PUBREL` that is sent again. -/
theorem mqttDeserializeAck_pubrel :
    mqttDeserializeAck (BufWrite.apply ⟨0, [0x6a, 2, 0x12, 0x34]⟩ fun _ => 7) =
      ⟨1, 6, true, some 0x1234⟩ :=
  mqttDeserializeAck_serialize (by decide)
    (show mqttSerializeAck 134 6 1 0x1234 = .ok [0x6a, 2, 0x12, 0x34] by decide +kernel)
    (hasAt_apply _ 0 _)

end Esp32Iot
