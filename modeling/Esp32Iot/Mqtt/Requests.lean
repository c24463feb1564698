import Esp32Iot.Mqtt.Connect
import Esp32Iot.Mqtt.Length

/-!
# The packets that the client sends

`MQTTSubscribeClient.c` and `MQTTUnsubscribeClient.c`, the parts of them that write, and what the
four serializers of the client have in common (`MqttRequest`). Each of them compares
`MQTTPacket_len` of its predicted length with `buflen` and then writes a header byte, the predicted
length and its fields, without another look at `buflen`.

`serialize_predicts` says that the prediction is what is written, and `packetLen_exact_iff` for
which lengths the comparison refuses no packet that fits: `MQTTPacket_len` is one too large for
four of them.
-/

namespace Esp32Iot

/-! ## Subscribing -/

/-- `SUBSCRIBE_MSG`. -/
def subscribeMsg : Nat := 8

/-- `UNSUBSCRIBE_MSG`. -/
def unsubscribeMsg : Nat := 10

/-- `header.byte` with `qos` 1; the bit field `dup` takes the lowest bit. -/
def requestHeader (type : Nat) (dup : UInt8) : UInt8 :=
  headerByte type ||| ((dup &&& 1) <<< 3) ||| 2

/-- `MQTTSerialize_subscribeLength`. -/
def mqttSerializeSubscribeLength (topicFilters : List MqttString) : Nat :=
  topicFilters.foldl (fun len topicFilter => len + (2 + mqttStrlen topicFilter + 1)) 2

/-- `MQTTSerialize_subscribe`; the two arrays of `count` members are one list. The requested quality
is an `int` that is written as a `char`. -/
def mqttSerializeSubscribe (buflen : Nat) (dup : UInt8) (packetid : UInt16)
    (filters : List (MqttString × Int)) : Except MqttPacketError Bytes :=
  let remLen := mqttSerializeSubscribeLength (filters.map Prod.fst)
  if buflen < mqttPacketLen remLen then .error .bufferTooShort
  else .ok (requestHeader subscribeMsg dup :: mqttPacketEncode remLen ++
    writeInt packetid.toNat ++
    filters.flatMap fun filter => writeMqttString filter.1 ++ [UInt8.ofInt filter.2])

/-- `MQTTSerialize_unsubscribeLength`. -/
def mqttSerializeUnsubscribeLength (topicFilters : List MqttString) : Nat :=
  topicFilters.foldl (fun len topicFilter => len + (2 + mqttStrlen topicFilter)) 2

/-- `MQTTSerialize_unsubscribe`. -/
def mqttSerializeUnsubscribe (buflen : Nat) (dup : UInt8) (packetid : UInt16)
    (topicFilters : List MqttString) : Except MqttPacketError Bytes :=
  let remLen := mqttSerializeUnsubscribeLength topicFilters
  if buflen < mqttPacketLen remLen then .error .bufferTooShort
  else .ok (requestHeader unsubscribeMsg dup :: mqttPacketEncode remLen ++
    writeInt packetid.toNat ++ topicFilters.flatMap writeMqttString)

/-! ## Strings -/

/-- A string is given one way: as a C string or with its length, not both. -/
def MqttString.OneWay (s : MqttString) : Prop := s.cstring = none ∨ s.lenstring = none

instance (s : MqttString) : Decidable s.OneWay :=
  inferInstanceAs (Decidable (s.cstring = none ∨ s.lenstring = none))

/-- What a string given one way holds. -/
def MqttString.bytes (s : MqttString) : Bytes :=
  match s.cstring with
  | some cstring => cstring.val
  | none => s.lenstring.getD []

theorem MqttString.length_bytes (s : MqttString) : s.bytes.length = mqttStrlen s := by
  obtain ⟨cstring, lenstring⟩ := s
  cases cstring with
  | none => rfl
  | some cstring => rfl

/-- A string given one way is written as its length and its bytes. -/
theorem writeMqttString_eq {s : MqttString} (h : s.OneWay) :
    writeMqttString s = writeInt (mqttStrlen s) ++ s.bytes := by
  obtain ⟨cstring, lenstring⟩ := s
  cases cstring with
  | none =>
    rw [writeMqttString]
    split
    next => rfl
    next hlen =>
      have hnil : lenstring.getD [] = [] := List.eq_nil_of_length_eq_zero (by
        simpa only [MqttString.lenstringLen, Nat.not_lt, Nat.le_zero] using hlen)
      simp only [mqttStrlen, MqttString.lenstringLen, MqttString.bytes, hnil, List.append_nil,
        List.length_nil]
  | some cstring =>
    have hnone : lenstring = none := h.resolve_left (fun hc => by cases hc)
    rw [hnone]
    rfl

theorem length_writeMqttString {s : MqttString} (h : s.OneWay) :
    (writeMqttString s).length = 2 + mqttStrlen s := by
  rw [writeMqttString_eq h, List.length_append, s.length_bytes]
  rfl

/-! ## The serializers -/

/-- A call of one of the serializers of the client, without its buffer. -/
inductive MqttRequest
  /-- `MQTTSerialize_connect` -/
  | connect (options : MqttConnectData)
  /-- `MQTTSerialize_publish` -/
  | publish (dup : Bool) (qos : QoS) (retained : Bool) (packetid : UInt16)
      (topicName : MqttString) (payload : Bytes)
  /-- `MQTTSerialize_subscribe` -/
  | subscribe (dup : UInt8) (packetid : UInt16) (filters : List (MqttString × Int))
  /-- `MQTTSerialize_unsubscribe` -/
  | unsubscribe (dup : UInt8) (packetid : UInt16) (topicFilters : List MqttString)
  deriving DecidableEq

namespace MqttRequest

/-- The serializer: the packet, or the error it returns before it has written a byte. -/
def serialize (buflen : Nat) : MqttRequest → Except MqttPacketError Bytes
  | connect options => mqttSerializeConnect buflen options
  | publish dup qos retained packetid topicName payload =>
      mqttSerializePublish buflen dup qos retained packetid.toNat topicName payload
  | subscribe dup packetid filters => mqttSerializeSubscribe buflen dup packetid filters
  | unsubscribe dup packetid topicFilters =>
      mqttSerializeUnsubscribe buflen dup packetid topicFilters

/-- The length function that belongs to it. -/
def remLen : MqttRequest → Nat
  | connect options => mqttSerializeConnectLength options
  | publish _ qos _ _ topicName payload => mqttSerializePublishLength qos topicName payload.length
  | subscribe _ _ filters => mqttSerializeSubscribeLength (filters.map Prod.fst)
  | unsubscribe _ _ topicFilters => mqttSerializeUnsubscribeLength topicFilters

/-- The strings that are written. -/
def strings : MqttRequest → List MqttString
  | connect options => options.clientID ::
      (if options.willFlag then [options.will.topicName, options.will.message] else []) ++
      [options.username, options.password]
  | publish _ _ _ _ topicName _ => [topicName]
  | subscribe _ _ filters => filters.map Prod.fst
  | unsubscribe _ _ topicFilters => topicFilters

/-- The arguments are what the serializers are made for: strings of at most 65535 bytes that are
given one way, and one of the two versions of the protocol. -/
structure WellGiven (request : MqttRequest) : Prop where
  oneWay : ∀ s ∈ request.strings, s.OneWay
  short : ∀ s ∈ request.strings, mqttStrlen s ≤ 65535
  version : ∀ options, request = connect options →
    options.mqttVersion = 3 ∨ options.mqttVersion = 4

/-- The call on a buffer: what it returns, and the buffer after it. -/
def call (buf : Memory) (buflen : Nat) (request : MqttRequest) : Int × Memory :=
  match request.serialize buflen with
  | .ok packet => (packet.length, BufWrite.apply ⟨0, packet⟩ buf)
  -- `MQTTPACKET_BUFFER_TOO_SHORT`
  | .error .bufferTooShort => (-2, buf)

/-- The header byte. -/
def header : MqttRequest → UInt8
  | connect _ => headerByte connectMsg
  | publish dup qos retained _ _ _ => publishHeader dup qos retained
  | subscribe dup _ _ => requestHeader subscribeMsg dup
  | unsubscribe dup _ _ => requestHeader unsubscribeMsg dup

/-- What is written behind the remaining length. -/
def body : MqttRequest → Bytes
  | connect options =>
      (if options.mqttVersion = 4 then writeCString (CStr.lit "MQTT") ++ [4]
        else writeCString (CStr.lit "MQIsdp") ++ [3]) ++
      mqttConnectFlags options :: writeInt options.keepAliveInterval.toNat ++
      writeMqttString options.clientID ++
      (if options.willFlag then
        writeMqttString options.will.topicName ++ writeMqttString options.will.message else []) ++
      (if options.username.given then writeMqttString options.username else []) ++
      (if options.password.given then writeMqttString options.password else [])
  | publish _ qos _ packetid topicName payload =>
      writeMqttString topicName ++ (if 0 < qos.toNat then writeInt packetid.toNat else []) ++
      payload
  | subscribe _ packetid filters =>
      writeInt packetid.toNat ++
      filters.flatMap fun filter => writeMqttString filter.1 ++ [UInt8.ofInt filter.2]
  | unsubscribe _ packetid topicFilters =>
      writeInt packetid.toNat ++ topicFilters.flatMap writeMqttString

/-- **Every serializer**: one comparison, and then the three parts of the packet. -/
theorem serialize_eq (request : MqttRequest) (buflen : Nat) :
    request.serialize buflen =
      if buflen < mqttPacketLen request.remLen then .error .bufferTooShort
      else .ok (request.header :: (mqttPacketEncode request.remLen ++ request.body)) := by
  cases request with
  | connect options =>
    simp only [serialize, mqttSerializeConnect, remLen, header, body, List.append_assoc,
      List.cons_append]
  | publish dup qos retained packetid topicName payload =>
    simp only [serialize, mqttSerializePublish, remLen, header, body, List.append_assoc,
      List.cons_append]
  | subscribe dup packetid filters =>
    simp only [serialize, mqttSerializeSubscribe, remLen, header, body, List.append_assoc,
      List.cons_append]
    rfl
  | unsubscribe dup packetid topicFilters =>
    simp only [serialize, mqttSerializeUnsubscribe, remLen, header, body, List.append_assoc,
      List.cons_append]
    rfl

/-! ### The predicted length -/

/-- A loop that adds up lengths against the bytes that another loop writes. -/
theorem foldl_add_length {α : Type} {items : List α} {size : α → Nat} {write : α → Bytes}
    (h : ∀ a ∈ items, (write a).length = size a) (start : Nat) :
    items.foldl (fun len a => len + size a) start = start + (items.flatMap write).length := by
  induction items generalizing start with
  | nil => rfl
  | cons a items ih =>
    rw [List.foldl_cons, ih (fun b hb => h b (List.mem_cons_of_mem a hb)), List.flatMap_cons,
      List.length_append, h a List.mem_cons_self, Nat.add_assoc]

theorem length_if_writeMqttString {given : Bool} {s : MqttString} (h : s.OneWay) :
    (if given then writeMqttString s else []).length = if given then mqttStrlen s + 2 else 0 := by
  cases given with
  | false => rfl
  | true => exact (length_writeMqttString h).trans (Nat.add_comm 2 _)

/-- The name of the protocol, its version, the flags and the keepalive interval. -/
theorem length_protocolName {options : MqttConnectData}
    (h : options.mqttVersion = 3 ∨ options.mqttVersion = 4) :
    (if options.mqttVersion = 4 then writeCString (CStr.lit "MQTT") ++ [4]
      else writeCString (CStr.lit "MQIsdp") ++ [3]).length + 3 =
      if options.mqttVersion = 3 then 12 else if options.mqttVersion = 4 then 10 else 0 := by
  rcases h with hv | hv
  · rw [hv]; decide
  · rw [hv]; decide

theorem length_will {options : MqttConnectData}
    (h : options.willFlag = true →
      options.will.topicName.OneWay ∧ options.will.message.OneWay) :
    (if options.willFlag then
      writeMqttString options.will.topicName ++ writeMqttString options.will.message
        else []).length =
      if options.willFlag then
        mqttStrlen options.will.topicName + 2 + mqttStrlen options.will.message + 2 else 0 := by
  split
  next hflag =>
    rw [List.length_append, length_writeMqttString (h hflag).1,
      length_writeMqttString (h hflag).2]
    omega
  next => rfl

theorem length_body_connect {options : MqttConnectData}
    (h : (connect options).WellGiven) :
    (connect options).body.length = (connect options).remLen := by
  have hname := length_protocolName (h.version options rfl)
  have hwill : options.willFlag = true →
      options.will.topicName.OneWay ∧ options.will.message.OneWay := by
    intro hflag
    exact ⟨h.oneWay _ (by simp [strings, hflag]), h.oneWay _ (by simp [strings, hflag])⟩
  have hclient := length_writeMqttString (h.oneWay options.clientID (by simp [strings]))
  have hint : (writeInt options.keepAliveInterval.toNat).length = 2 := rfl
  simp only [body, remLen, mqttSerializeConnectLength, List.length_append, List.length_cons,
    hint, hclient, length_will hwill, ← hname,
    length_if_writeMqttString (h.oneWay options.username (by simp [strings])),
    length_if_writeMqttString (h.oneWay options.password (by simp [strings]))]
  omega

/-- **The predicted length is what is written** behind the length field. -/
theorem length_body {request : MqttRequest} (h : request.WellGiven) :
    request.body.length = request.remLen := by
  cases request with
  | connect options => exact length_body_connect h
  | publish dup qos retained packetid topicName payload =>
    have htopic := length_writeMqttString (h.oneWay topicName (by simp [strings]))
    have hid : (if 0 < qos.toNat then writeInt packetid.toNat else []).length =
        if 0 < qos.toNat then 2 else 0 := by
      cases qos <;> rfl
    simp only [body, remLen, mqttSerializePublishLength, List.length_append, htopic, hid]
    omega
  | subscribe dup packetid filters =>
    have hfilters : ∀ filter ∈ filters,
        (writeMqttString filter.1 ++ [UInt8.ofInt filter.2]).length =
          2 + mqttStrlen filter.1 + 1 := by
      intro filter hmem
      rw [List.length_append,
        length_writeMqttString (h.oneWay filter.1 (List.mem_map_of_mem hmem))]
      rfl
    rw [remLen, mqttSerializeSubscribeLength, List.foldl_map, foldl_add_length hfilters, body,
      List.length_append]
    rfl
  | unsubscribe dup packetid topicFilters =>
    have hfilters : ∀ filter ∈ topicFilters,
        (writeMqttString filter).length = 2 + mqttStrlen filter :=
      fun filter hmem => length_writeMqttString (h.oneWay filter hmem)
    rw [remLen, mqttSerializeUnsubscribeLength, foldl_add_length hfilters, body,
      List.length_append]
    rfl

/-- The parts of a packet add up. -/
theorem length_packet {request : MqttRequest} (h : request.WellGiven) :
    (request.header :: (mqttPacketEncode request.remLen ++ request.body)).length =
      1 + (mqttPacketEncode request.remLen).length + request.remLen := by
  rw [List.length_cons, List.length_append, length_body h]
  omega

theorem call_of_short {request : MqttRequest} {buflen : Nat}
    (h : buflen < mqttPacketLen request.remLen) (buf : Memory) :
    request.call buf buflen = (-2, buf) := by
  rw [call, serialize_eq, if_pos h]

theorem call_of_le {request : MqttRequest} {buflen : Nat}
    (h : mqttPacketLen request.remLen ≤ buflen) (buf : Memory) {packet : Bytes}
    (hpacket : request.header :: (mqttPacketEncode request.remLen ++ request.body) = packet) :
    request.call buf buflen = ((packet.length : Int), BufWrite.apply ⟨0, packet⟩ buf) := by
  rw [call, serialize_eq, if_neg (Nat.not_lt.2 h), hpacket]

end MqttRequest

/-! ## The size of a packet -/

/-- `MQTTPacket_len`, by the number of digits: the bounds are those of the encoder, less one for the
header byte, and the third one less one more. -/
theorem mqttPacketLen_cases (n : Nat) :
    (n < 127 ∧ mqttPacketLen n = 1 + 1 + n) ∨
    (127 ≤ n ∧ n < 16383 ∧ mqttPacketLen n = 1 + 2 + n) ∨
    (16383 ≤ n ∧ n < 2097150 ∧ mqttPacketLen n = 1 + 3 + n) ∨
    (2097150 ≤ n ∧ mqttPacketLen n = 1 + 4 + n) := by
  simp only [mqttPacketLen]
  split_ifs <;> omega

/-- The number of digits, by the bounds of the encoder. -/
theorem length_mqttPacketEncode_cases {n : Nat} (hn : n < 2 ^ 28) :
    (n < 128 ∧ (mqttPacketEncode n).length = 1) ∨
    (128 ≤ n ∧ n < 16384 ∧ (mqttPacketEncode n).length = 2) ∨
    (16384 ≤ n ∧ n < 2097152 ∧ (mqttPacketEncode n).length = 3) ∨
    (2097152 ≤ n ∧ (mqttPacketEncode n).length = 4) := by
  have hpos := (isField_mqttPacketEncode n).length_pos
  have h1 := length_mqttPacketEncode_le_iff n (show 0 < 1 by decide)
  have h2 := length_mqttPacketEncode_le_iff n (show 0 < 2 by decide)
  have h3 := length_mqttPacketEncode_le_iff n (show 0 < 3 by decide)
  have h4 := length_mqttPacketEncode_le (show n < 128 ^ 4 from hn)
  omega

/-- `MQTTPacket_len` is never too small. -/
theorem le_mqttPacketLen {n : Nat} (hn : n < 2 ^ 28) :
    1 + (mqttPacketEncode n).length + n ≤ mqttPacketLen n := by
  have hlen := mqttPacketLen_cases n
  have hdigits := length_mqttPacketEncode_cases hn
  omega

/-- `MQTTPacket_len` is too large for four lengths only. -/
theorem mqttPacketLen_eq_iff {n : Nat} (hn : n < 2 ^ 28) :
    mqttPacketLen n = 1 + (mqttPacketEncode n).length + n ↔
      n ∉ [127, 16383, 2097150, 2097151] := by
  have hlen := mqttPacketLen_cases n
  have hdigits := length_mqttPacketEncode_cases hn
  simp only [List.mem_cons, List.not_mem_nil, or_false]
  omega

/-- **Every serializer predicts its own size.** A positive result is the header byte, the digits of
the predicted length and as many bytes as predicted, and it is inside the buffer; any other result
is `MQTTPACKET_BUFFER_TOO_SHORT`, with nothing written. -/
theorem serialize_predicts {request : MqttRequest} (h : request.WellGiven)
    (hlen : request.remLen < 2 ^ 28) (buf : Memory) (buflen : Nat) :
    (0 < (request.call buf buflen).1 →
      ∃ header body k, (mqttPacketEncode request.remLen).length = k ∧
        body.length = request.remLen ∧
        HasAt (request.call buf buflen).2 0
          (header :: (mqttPacketEncode request.remLen ++ body)) ∧
        (request.call buf buflen).1 = ((1 + k + request.remLen : Nat) : Int) ∧
        (request.call buf buflen).1 ≤ buflen ∧
        ∀ i, 1 + k + request.remLen ≤ i → (request.call buf buflen).2 i = buf i) ∧
    (¬ 0 < (request.call buf buflen).1 → request.call buf buflen = (-2, buf)) := by
  by_cases hshort : buflen < mqttPacketLen request.remLen
  · rw [MqttRequest.call_of_short hshort]
    have hneg : ¬ (0 : Int) < -2 := by decide
    exact ⟨fun hpos => absurd hpos hneg, fun _ => rfl⟩
  · have hpacket := MqttRequest.length_packet h
    generalize hbytes : request.header :: (mqttPacketEncode request.remLen ++ request.body) =
      packet at hpacket
    rw [MqttRequest.call_of_le (Nat.not_lt.1 hshort) buf hbytes]
    have hfits := le_mqttPacketLen hlen
    refine ⟨?_, ?_⟩
    · intro _
      refine ⟨request.header, request.body, _, rfl, MqttRequest.length_body h, ?_, ?_, ?_, ?_⟩
      · rw [hbytes]
        exact hasAt_apply buf 0 packet
      · rw [hpacket]
      · dsimp only
        omega
      · intro i hi
        have hbehind : packet.length ≤ i := hpacket ▸ hi
        simp [BufWrite.apply, hbehind]
    · intro hpos
      refine absurd ?_ hpos
      dsimp only
      omega

/-- A subscription to two filters, given one way each. -/
def twoFilters : MqttRequest :=
  .subscribe 0 7 [(.ofCString (CStr.lit "a/+"), 1), (⟨none, some [98]⟩, 0)]

theorem twoFilters_wellGiven : twoFilters.WellGiven where
  oneWay := by decide +kernel
  short := by decide +kernel
  version := by
    intro options h
    cases h

/-- A subscription in a buffer of 16 bytes. -/
theorem serialize_predicts_twoFilters :
    (twoFilters.call (fun _ => 0) 16).1 = 14 ∧
      ∀ i, 14 ≤ i → (twoFilters.call (fun _ => 0) 16).2 i = 0 := by
  obtain ⟨hwritten, -⟩ := serialize_predicts twoFilters_wellGiven (by decide +kernel)
    (fun _ => 0) 16
  have hpos : 0 < (twoFilters.call (fun _ => 0) 16).1 := by decide +kernel
  obtain ⟨header, body, k, hk, -, -, hcode, -, hbehind⟩ := hwritten hpos
  have hrem : twoFilters.remLen = 12 := by decide +kernel
  have hone : k = 1 := by rw [← hk, hrem]; rfl
  rw [hone, hrem] at hcode hbehind
  exact ⟨hcode, hbehind⟩

/-! ## The packets that are refused -/

/-- A packet with this remaining length is refused only if it is longer than the buffer; how long it
is shows in a buffer that takes it. -/
def RefusesOnlyLonger (n : Nat) : Prop :=
  ∀ (request : MqttRequest) (buflen other : Nat) (packet : Bytes), request.WellGiven →
    request.remLen = n → request.serialize buflen = .error .bufferTooShort →
    request.serialize other = .ok packet → buflen < packet.length

theorem refused_iff {request : MqttRequest} {buflen : Nat} :
    request.serialize buflen = .error .bufferTooShort ↔
      buflen < mqttPacketLen request.remLen := by
  rw [request.serialize_eq]
  split
  next h => exact ⟨fun _ => h, fun _ => rfl⟩
  next h =>
    refine ⟨?_, fun hlt => absurd hlt h⟩
    intro hok
    cases hok

theorem length_of_serialize_ok {request : MqttRequest} (h : request.WellGiven) {buflen : Nat}
    {packet : Bytes} (hok : request.serialize buflen = .ok packet) :
    packet.length = 1 + (mqttPacketEncode request.remLen).length + request.remLen := by
  rw [request.serialize_eq] at hok
  split at hok
  next => cases hok
  next =>
    cases hok
    exact MqttRequest.length_packet h

/-- A publish packet with a topic of one byte and a remaining length of `length + 3`. -/
def oneByteTopic (length : Nat) : MqttRequest :=
  .publish false .qos0 false 0 (.ofCString (CStr.lit "t")) (List.replicate length 0)

theorem oneByteTopic_wellGiven (length : Nat) : (oneByteTopic length).WellGiven where
  oneWay := by
    intro s hs
    rw [List.mem_singleton.1 hs]
    exact .inr rfl
  short := by
    intro s hs
    rw [List.mem_singleton.1 hs]
    decide
  version := by
    intro options h
    cases h

theorem remLen_oneByteTopic (length : Nat) : (oneByteTopic length).remLen = length + 3 := by
  rw [oneByteTopic, MqttRequest.remLen, mqttSerializePublishLength, List.length_replicate]
  exact Nat.add_comm 3 length

/-- **The size function** is exact, and refuses only what is too long, for all lengths but four. -/
theorem packetLen_exact_iff {n : Nat} (hn : n < 2 ^ 28) :
    (mqttPacketLen n = 1 + (mqttPacketEncode n).length + n ↔
      n ∉ [127, 16383, 2097150, 2097151]) ∧
    (RefusesOnlyLonger n ↔ n ∉ [127, 16383, 2097150, 2097151]) := by
  refine ⟨mqttPacketLen_eq_iff hn, ?_, ?_⟩
  · -- a packet that fills its buffer would be refused
    intro hrefuses hmem
    obtain ⟨length, rfl⟩ : ∃ length, n = length + 3 := by
      refine ⟨n - 3, ?_⟩
      simp only [List.mem_cons, List.not_mem_nil, or_false] at hmem
      omega
    have hne := mt (mqttPacketLen_eq_iff hn).1 (not_not.2 hmem)
    have hle := le_mqttPacketLen hn
    have hgiven := oneByteTopic_wellGiven length
    have hrem := remLen_oneByteTopic length
    have hok := (oneByteTopic length).serialize_eq (mqttPacketLen (length + 3))
    rw [hrem, if_neg (Nat.lt_irrefl _)] at hok
    have hsize := length_of_serialize_ok hgiven hok
    rw [hrem] at hsize
    have hlonger := hrefuses (oneByteTopic length)
      (1 + (mqttPacketEncode (length + 3)).length + (length + 3)) _ _ hgiven hrem
      (refused_iff.2 (by rw [hrem]; omega)) hok
    omega
  · intro hmem request buflen other packet hgiven hrem hrefused hok
    have hsize := length_of_serialize_ok hgiven hok
    have hshort := refused_iff.1 hrefused
    rw [hrem] at hsize hshort
    rwa [(mqttPacketLen_eq_iff hn).2 hmem, ← hsize] at hshort

/-- A remaining length of 300 is one of the others. -/
theorem packetLen_exact_300 : RefusesOnlyLonger 300 :=
  (packetLen_exact_iff (by decide)).2.2 (by decide)

/-- A publish packet of 129 bytes is refused for a buffer of 129 bytes. -/
theorem fullPublish_refused :
    (oneByteTopic 124).remLen = 127 ∧ mqttPacketLen 127 = 130 ∧
      (mqttPacketEncode 127).length = 1 ∧
      (oneByteTopic 124).serialize 129 = .error .bufferTooShort ∧
      (∃ packet, (oneByteTopic 124).serialize 130 = .ok packet ∧ packet.length = 129) ∧
      ¬ ∀ n < 2 ^ 28, mqttPacketLen n = 1 + (mqttPacketEncode n).length + n ∧
        RefusesOnlyLonger n := by
  have hrefused : (oneByteTopic 124).serialize 129 = .error .bufferTooShort := by decide +kernel
  have hok : (oneByteTopic 124).serialize 130 = .ok ((oneByteTopic 124).header ::
      (mqttPacketEncode (oneByteTopic 124).remLen ++ (oneByteTopic 124).body)) := by
    decide +kernel
  have hsize : ((oneByteTopic 124).header :: (mqttPacketEncode (oneByteTopic 124).remLen ++
      (oneByteTopic 124).body)).length = 129 := by decide +kernel
  have hrem := remLen_oneByteTopic 124
  refine ⟨hrem, by decide, by decide +kernel, hrefused, ⟨_, hok, hsize⟩, ?_⟩
  intro hall
  have hlonger := (hall 127 (by decide)).2 (oneByteTopic 124) 129 130 _
    (oneByteTopic_wellGiven 124) hrem hrefused hok
  omega

end Esp32Iot
