import Esp32Iot.Cayenne.ParsePayload
import Esp32Iot.Cayenne.Suffix
import Esp32Iot.Cayenne.Task
import Esp32Iot.Mqtt.Wire

/-!
# What a device sends

All that this program writes to a connection: the CONNECT packet of `CayenneMQTTConnect`, the device
information that `connectClient` publishes behind it, and eight values for each `cayenne_task`. The
lengths of a message are computed in four places on its way from the arguments of
`CayenneMQTTPublishDataArray` to `sendPacket`, and `publishDataArray_success` says what is written
when that is a success, for any network that takes the packet in parts.

`outgoing_read` is about the connection as a whole. A broker reads the credentials, and after them
each message that was published, in order and with its topic and its text: also when other calls
have failed in between, as long as they failed before they wrote anything.

The client holds pointers to the user name and the client ID, and here these strings stay in place
for the connection. That is so wherever `CayenneInit` is given globals, and while the handler of
`SYSTEM_EVENT_STA_GOT_IP` publishes itself; it is not where that has tried again to connect, and
leaves the publishing to a task that outlives its arrays.
-/

namespace Esp32Iot

open CStr (lit concat)

/-! ## `connectClient` -/

/-- What `connectClient` publishes when it is connected: `CAYENNE_VERSION`, and the model. -/
def publishDeviceInfo (client : CayenneMqttClient) (line : UInt32 → PublishLine) :
    List (Option (Int × Bytes)) :=
  [cayenneMqttPublishData client none .sysVersion cayenneNoChannel none none (lit "v1") (line 0),
    cayenneMqttPublishData client none .sysModel cayenneNoChannel none none (lit "esp32") (line 1)]

/-- What the program does on a connection. -/
inductive DeviceCall
  /-- the end of `connectClient` -/
  | info
  /-- `cayenne_task`, with what it finds in `BA5C_data` -/
  | task (d : SensorData)

/-- What comes of it: the return code of each publishing call, and what it has written. The network
of a call can be in any state. -/
def DeviceCall.run (client : CayenneMqttClient) (line : UInt32 → PublishLine) :
    DeviceCall → List (Option (Int × Bytes))
  | .info => publishDeviceInfo client line
  | .task d => (cayenneTask client line d).map Prod.snd

/-! ## What is meant -/

/-- A retained message of quality 0. -/
def retainedMessage (topicName payload : CStr) : ControlPacket :=
  .publish false 0 true topicName.val none payload.val

/-- The value of a channel: `type,unit=value`. -/
def channelMessage (client : CayenneMqttClient) (channel : UInt32) (type unit : String)
    (value : Int) : ControlPacket :=
  retainedMessage (dataTopic client.username client.clientID channel)
    (dataPayload (lit type) (lit unit) (.ofInt value))

/-- What a broker should read of a call. -/
def DeviceCall.meaning (client : CayenneMqttClient) : DeviceCall → List ControlPacket
  | .info =>
    [retainedMessage (topicText client.username client.clientID (lit "sys/version")) (lit "v1"),
      retainedMessage (topicText client.username client.clientID (lit "sys/model")) (lit "esp32")]
  | .task d =>
    [channelMessage client 0 "temp" "c" d.htu21dTemperature.toInt32.toInt,
      channelMessage client 1 "rel_hum" "p" d.htu21dHumidity.toInt32.toInt,
      channelMessage client 2 "digital" "d" (Int32.ofNat d.htu21dStatus.toNat).toInt,
      channelMessage client 3 "temp" "c" d.ms5637Temperature.toInt,
      channelMessage client 4 "bp" "hpa" d.ms5637Pressure.toInt,
      channelMessage client 5 "digital" "d" (Int32.ofNat d.ms5637Status.toNat).toInt,
      channelMessage client 6 "batt" "p" (Int32.ofNat d.batteryLevel.toNat).toInt,
      channelMessage client 7 "digital" "d" (Int32.ofNat d.batteryStatus.toNat).toInt]

/-- The credentials, as a broker should read them. -/
def credentials (client : CayenneMqttClient) : ControlPacket :=
  .connect
    { protocolName := (lit "MQIsdp").val
      level := 3
      cleanSession := true
      keepAlive := 60
      clientId := client.clientID.val
      will := none
      userName := some client.username.val
      password := some client.password.val }

/-- The bytes that a call has written. -/
def written (r : Option (Int × Bytes)) : Bytes := (r.map Prod.snd).getD []

/-- The packets of the calls that have succeeded. -/
def accepted : List (Option (Int × Bytes)) → List ControlPacket → List ControlPacket
  | r :: results, a :: packets =>
    if r.map Prod.fst = some cayenneSuccess then a :: accepted results packets
    else accepted results packets
  | _, _ => []

/-- A call has succeeded, or has written nothing. -/
def Clean (r : Option (Int × Bytes)) : Prop :=
  r.map Prod.fst = some cayenneSuccess ∨ r.map Prod.snd = some []

instance (r : Option (Int × Bytes)) : Decidable (Clean r) := inferInstanceAs (Decidable (_ ∨ _))

/-! ## Lengths -/

/-- The prediction of `CayenneBuildDataPayload` is right for values with their units. -/
theorem predictedLength_valuePairs {type : CStr} (htype : type.nonEmpty = true)
    {pairs : List (CStr × CStr)} (hpairs : pairs ≠ []) :
    predictedLength (some type) (valuePairs pairs) =
      (payloadText (some type) (valuePairs pairs)).length + 1 := by
  have hall : ∀ pair ∈ valuePairs pairs, pair.value.isSome = true := by
    rw [valuePairs, List.forall_mem_map]
    exact fun _ _ => rfl
  have hlength : (valuePairs pairs).length = pairs.length := List.length_map _
  have hpos : 0 < pairs.length := List.length_pos_iff.2 hpairs
  have hfirst : firstValue (valuePairs pairs) = true := by
    obtain ⟨pair, pairs, rfl⟩ := List.exists_cons_of_ne_nil hpairs
    rfl
  have htake : (valuePairs pairs).takeWhile (·.value.isSome) = valuePairs pairs :=
    List.takeWhile_eq_self_iff.2 hall
  have hlost : lostLength (valuePairs pairs) = 0 := by
    rw [lostLength, List.dropWhile_eq_nil_iff.2 hall]
    rfl
  have hcounted : countedStrings (some type) (valuePairs pairs) =
      1 + pairs.length + pairs.length := by
    rw [countedStrings, List.countP_eq_length.2 hall, List.countP_eq_length.2 (by simp), hlength]
    rfl
  have hseparators : separators (some type) (valuePairs pairs) =
      pairs.length + 1 + (pairs.length - 1) := by
    rw [separators, unitCommas, equalsSigns, valueCommas, htake, hfirst, Option.getD_some, htype,
      hlength]
    simp
  have hsum := length_payloadText (some type) (valuePairs pairs)
  omega

/-- A payload that was built, and the length that is returned with it. -/
theorem buildDataPayload_exact {type : Option CStr} {values : List CayenneValuePair}
    (hexact : predictedLength type values = (payloadText type values).length + 1) {size : Nat}
    (hsize : size < 4294967296) {payload : CStr} {payloadlen : Nat}
    (h : cayenneBuildDataPayload size type values = some (.ok (payload, payloadlen))) :
    payload = payloadText type values ∧ payload.length < size ∧ payloadlen = payload.length := by
  rw [cayenneBuildDataPayload_eq, hexact, fit] at h
  split at h
  next => cases h
  next =>
    split at h
    next hfits =>
      cases h
      exact ⟨rfl, hfits, by omega⟩
    next => cases h

/-! ## A message that was published -/

/-- A message on the wire, and that it is not too long for any of its length fields. -/
structure OnWire (topicName payload : CStr) (written : Bytes) : Prop where
  topic : topicName.length ≤ 65535
  whole : 2 + topicName.length + payload.length < 2 ^ 28
  packet : written = publishPacket true topicName payload.val

/-- An error is not a success. -/
theorem CayenneError.code_ne_success (e : CayenneError) {bs written : Bytes} :
    some (e.code, bs) ≠ some (cayenneSuccess, written) := by
  intro heq
  have hcode := (Prod.mk.inj (Option.some.inj heq)).1
  cases e <;> exact absurd hcode (by decide)

/-- A string in a buffer that goes on behind it. -/
theorem CStr.take_length (s : CStr) (rest : Bytes) : (s.val ++ rest).take s.length = s.val :=
  List.take_left

/-- **Values that were published** are on the wire with their topic and their text. -/
theorem publishDataArray_success {client : CayenneMqttClient} {line : PublishLine}
    {clientID : Option CStr} {topic : CayenneTopic} {channel : UInt32} {type : Option CStr}
    {values : List CayenneValuePair} {written : Bytes} {name : CStr}
    (hname : topic.string = some name) (hretained : topic ≠ .command)
    (hwhole : (name ++ channelText channel).length < 20)
    (hexact : predictedLength type values = (payloadText type values).length + 1)
    (h : cayenneMqttPublishDataArray client clientID topic channel type values line =
      some (cayenneSuccess, written)) :
    OnWire (topicText client.username (clientID.getD client.clientID) (name ++ channelText channel))
      (payloadText type values) written := by
  have hsize : publishBufferSize = 135 := rfl
  rw [cayenneMqttPublishDataArray] at h
  split at h
  next => cases h
  next e _ => exact absurd h e.code_ne_success
  next topicName htopic =>
    obtain ⟨name', hname', rfl, hroom⟩ := (cayenneBuildTopic_eq_ok_iff ..).1 htopic
    cases hname.symm.trans hname'
    rw [CStr.truncate_of_lt hwhole] at h hroom
    dsimp only at h
    split at h
    next => cases h
    next e _ => exact absurd h e.code_ne_success
    next payload payloadlen hpayload =>
      obtain ⟨rfl, hshort, rfl⟩ := buildDataPayload_exact hexact (by omega) hpayload
      split at h
      next => cases h
      next =>
        rw [CStr.take_length] at h
        simp only [ne_eq, hretained, not_false_eq_true, decide_true] at h
        exact ⟨by omega, by omega, mqttPublish_success (Option.some.inj h)⟩

/-- What is on the wire is read as the message. -/
theorem OnWire.reads {topicName payload : CStr} {written : Bytes}
    (h : OnWire topicName payload written) :
    controlPacket.Reads written (retainedMessage topicName payload) := by
  obtain ⟨htopic, hlen, rfl⟩ := h
  have hbody : (MqttRequest.publish false .qos0 true 0 (.ofCString topicName) payload.val).body =
      writeInt topicName.length ++ (topicName.val ++ payload.val) := by
    rw [MqttRequest.body, if_neg (by decide), List.append_nil]
    exact List.append_assoc _ _ _
  have hbodyLen : (writeInt topicName.length ++ (topicName.val ++ payload.val)).length =
      2 + topicName.length + payload.length := by
    rw [List.length_append, List.length_append, ← Nat.add_assoc]
    rfl
  have hreads := requestBody_reads
    (MqttRequest.wellGiven_publish false .qos0 true 0 htopic payload.val)
  rw [hbody] at hreads
  have hframe := controlPacket_frame hreads (by rw [hbodyLen]; exact hlen)
  rw [hbodyLen] at hframe
  exact hframe

/-! ## The calls -/

/-- A call that succeeds has sent the packet. -/
def Sends (r : Option (Int × Bytes)) (a : ControlPacket) : Prop :=
  ∀ written, r = some (cayenneSuccess, written) → controlPacket.Reads written a

section
variable {client : CayenneMqttClient} {line : PublishLine}

/-- A line of device information. -/
theorem sends_publishData {topic : CayenneTopic} {name : CStr} (hname : topic.string = some name)
    (hretained : topic ≠ .command) (hwhole : name.length < 20) (value : CStr) :
    Sends (cayenneMqttPublishData client none topic cayenneNoChannel none none value line)
      (retainedMessage (topicText client.username client.clientID name) value) := by
  intro written h
  have hnone : name ++ channelText cayenneNoChannel = name := CStr.append_empty name
  have htext : payloadText none [⟨none, some value⟩] = value := rfl
  have hexact : predictedLength none [⟨none, some value⟩] =
      (payloadText none [⟨none, some value⟩]).length + 1 := by
    rw [htext]
    simp [predictedLength, CayenneValuePair.payloadLength]
  have hsent := publishDataArray_success hname hretained (by rwa [hnone]) hexact h
  rw [hnone, htext] at hsent
  exact hsent.reads

/-- The suffix of a data topic fits. -/
theorem length_dataSuffix {channel : UInt32} (hchannel : Numbered channel) :
    (lit "data" ++ channelText channel).length < 20 := by
  have hten := CStr.length_ofNat_uint32 channel
  have hfour : (lit "data").length = 4 := rfl
  have hlen : (channelText channel).length = (CStr.ofNat channel.toNat).length + 1 := by
    rw [CStr.length, channelText_numbered hchannel, List.length_cons, CStr.length]
  rw [CStr.length_append, hlen]
  omega

theorem topicText_data (username clientID : CStr) {channel : UInt32} (hchannel : Numbered channel) :
    topicText username clientID (lit "data" ++ channelText channel) =
      dataTopic username clientID channel := by
  have hdata : lit "/data/" = lit "/" ++ (lit "data" ++ lit "/") := rfl
  rw [channelText, if_neg hchannel.1, if_neg hchannel.2]
  simp only [topicText, dataTopic, concat, CStr.append_empty, CStr.append_assoc, hdata]

theorem payloadText_single {type : CStr} (htype : type.nonEmpty = true) (unit value : CStr) :
    payloadText (some type) (valuePairs [(unit, value)]) = dataPayload type unit value := by
  have hne : (type ++ (lit "," ++ unit)).nonEmpty = true := by
    rw [nonEmpty_append, htype]
    rfl
  simp [payloadText, valuePairs, unitsText, unitText, valuesText, firstValue, htype, hne,
    dataPayload, concat]

/-- The value of a channel. -/
theorem sends_publishDataInt {channel : UInt32} (hchannel : Numbered channel) {type : String}
    (htype : (lit type).nonEmpty = true) (unit : String) (value : Int32) :
    Sends (cayenneMqttPublishDataInt client none .data channel (some (lit type)) (some (lit unit))
      value line) (channelMessage client channel type unit value.toInt) := by
  intro written h
  have hvalue : (CStr.ofInt value.toInt).truncate 34 = CStr.ofInt value.toInt := by
    refine CStr.truncate_of_lt ?_
    have := CStr.length_ofInt_int32 value
    omega
  have hexact := predictedLength_valuePairs htype
    (List.cons_ne_nil (lit unit, CStr.ofInt value.toInt) [])
  rw [cayenneMqttPublishDataInt, hvalue] at h
  have hsent := publishDataArray_success rfl (by decide) (length_dataSuffix hchannel) hexact h
  rw [Option.getD_none, topicText_data _ _ hchannel, payloadText_single htype] at hsent
  exact hsent.reads

/-- Every call of the program sends what it should. -/
theorem DeviceCall.sends (client : CayenneMqttClient) (line : UInt32 → PublishLine)
    (call : DeviceCall) : List.Forall₂ Sends (call.run client line) (call.meaning client) := by
  cases call with
  | info =>
    exact .cons (sends_publishData rfl (by decide) (by decide) _)
      (.cons (sends_publishData rfl (by decide) (by decide) _) .nil)
  | task d =>
    have hsends : ∀ (channel : UInt32) (type unit : String) (value : Int32),
        Numbered channel → (lit type).nonEmpty = true →
        Sends (publishChannel client line channel type unit value).2
          (channelMessage client channel type unit value.toInt) :=
      fun channel type unit value hchannel htype => sends_publishDataInt hchannel htype unit value
    rw [DeviceCall.run, cayenneTask, DeviceCall.meaning]
    repeat' first
      | exact .nil
      | refine .cons (hsends _ _ _ _ ⟨by decide, by decide⟩ (by decide)) ?_

end

/-- Nothing is read of no bytes. -/
theorem controlPacket_ne_nil {bytes : Bytes} {a : ControlPacket} (h : controlPacket.Reads bytes a) :
    bytes ≠ [] := by
  rintro rfl
  cases h []

/-- The calls of which none fails in the middle of a packet. -/
theorem items_accepted {results : List (Option (Int × Bytes))} {packets : List ControlPacket}
    (hsends : List.Forall₂ Sends results packets) (hclean : ∀ r ∈ results, Clean r) :
    Parse.Items controlPacket (results.flatMap written) (accepted results packets) := by
  induction hsends with
  | nil => exact .nil
  | @cons r a results packets hsend _ ih =>
    rw [List.forall_mem_cons] at hclean
    have hrest := ih hclean.2
    rw [List.flatMap_cons, accepted]
    split
    next hcode =>
      obtain ⟨⟨code, bytes⟩, rfl, hcode⟩ := Option.map_eq_some_iff.1 hcode
      cases hcode
      have hread := hsend bytes rfl
      exact .cons hread (controlPacket_ne_nil hread) hrest
    next hcode =>
      rcases hclean.1 with hsuccess | hempty
      · exact absurd hsuccess hcode
      · rw [written, hempty]
        exact hrest

/-! ## The connection -/

theorem meaning_cayenneConnectData (client : CayenneMqttClient) :
    (ClientPacket.request (.connect (cayenneConnectData client))).meaning = credentials client := by
  have hbytes : ∀ s : CStr, (MqttString.ofCString s).bytes = s.val := fun _ => rfl
  simp [ClientPacket.meaning, MqttConnectData.meaning, cayenneConnectData, credentials,
    MqttConnectData.initializer, hbytes, given_ofCString]

/-- Credentials that fit the packet fit their length fields. -/
theorem wellGiven_cayenneConnectData {client : CayenneMqttClient}
    (hfits : FitsPacket client.username client.password client.clientID) :
    (MqttRequest.connect (cayenneConnectData client)).WellGiven := by
  have hstrings : (MqttRequest.connect (cayenneConnectData client)).strings =
      [.ofCString client.clientID, .ofCString client.username, .ofCString client.password] := rfl
  have hsum : client.username.length + client.password.length + client.clientID.length ≤ 113 :=
    hfits
  constructor
  · rw [hstrings]
    simp only [List.forall_mem_cons]
    exact ⟨.inr rfl, .inr rfl, .inr rfl, nofun⟩
  · rw [hstrings]
    simp only [List.forall_mem_cons, mqttStrlen_ofCString]
    exact ⟨by omega, by omega, by omega, nofun⟩
  · intro options hoptions
    cases hoptions
    exact .inl rfl

/-- The credentials are on the wire. -/
theorem credentials_reads {client : CayenneMqttClient} {connect : Bytes}
    (hconnect : mqttSerializeConnect cayenneMaxMessageSize (cayenneConnectData client) =
      .ok connect) : controlPacket.Reads connect (credentials client) := by
  have hfits : FitsPacket client.username client.password client.clientID := by
    rw [← fitsPacket_iff]
    rcases mqttSerializeConnect_cases cayenneMaxMessageSize (cayenneConnectData client) with
      ⟨hlong, herror⟩ | ⟨hfits, -⟩
    · cases herror.symm.trans hconnect
    · exact hfits
  have hgiven : ClientPacket.WellGiven (.request (.connect (cayenneConnectData client))) := by
    intro r hr
    cases hr
    exact wellGiven_cayenneConnectData hfits
  rw [← meaning_cayenneConnectData]
  exact controlPacket_reads hgiven (show cayenneMaxMessageSize ≤ 2 ^ 28 by decide) hconnect

/-- **What a device sends is what a broker reads**: the credentials, and every message that was
published, in the order of the calls. -/
theorem outgoing_read {client : CayenneMqttClient} {connect : Bytes}
    (hconnect : mqttSerializeConnect cayenneMaxMessageSize (cayenneConnectData client) =
      .ok connect) {calls : List (DeviceCall × (UInt32 → PublishLine))}
    (hclean : ∀ call ∈ calls, ∀ r ∈ call.1.run client call.2, Clean r) :
    (Parse.many controlPacket).ReadsAll
      (connect ++ calls.flatMap fun call => (call.1.run client call.2).flatMap written)
      (credentials client ::
        calls.flatMap fun call => accepted (call.1.run client call.2) (call.1.meaning client)) := by
  have hread := credentials_reads hconnect
  refine Parse.Items.readsAll (.cons hread (controlPacket_ne_nil hread) ?_)
  exact Parse.items_flatMap fun call hcall =>
    items_accepted (call.1.sends client call.2) (hclean call hcall)

/-- Two tasks on a connection. The network is not ready for the last value of the first one. -/
def sampleCalls : List (DeviceCall × (UInt32 → PublishLine)) :=
  [(.info, fun _ => sampleLine),
    (.task (afterReading 40),
      fun channel => if channel = 7 then { sampleLine with rounds := [] } else sampleLine),
    (.task (afterReading 41), fun _ => sampleLine)]

/-- The packets of 17 of the 18 calls. -/
theorem outgoing_read_sampleCalls :
    ∃ connect, mqttSerializeConnect cayenneMaxMessageSize (cayenneConnectData sampleClient) =
        .ok connect ∧
      (sampleCalls.flatMap fun call => accepted (call.1.run sampleClient call.2)
        (call.1.meaning sampleClient)).length = 17 ∧
      (Parse.many controlPacket).ReadsAll
        (connect ++ sampleCalls.flatMap fun call =>
          (call.1.run sampleClient call.2).flatMap written)
        (credentials sampleClient :: sampleCalls.flatMap fun call =>
          accepted (call.1.run sampleClient call.2) (call.1.meaning sampleClient)) := by
  have hclean : ∀ call ∈ sampleCalls, ∀ r ∈ call.1.run sampleClient call.2, Clean r := by
    decide +kernel
  have hfits : FitsPacket sampleClient.username sampleClient.password sampleClient.clientID := by
    decide +kernel
  obtain ⟨hlong, -⟩ | ⟨-, connect, hconnect, -⟩ :=
    mqttSerializeConnect_cases cayenneMaxMessageSize (cayenneConnectData sampleClient)
  · exact absurd hlong (Nat.not_lt.2 ((fitsPacket_iff sampleClient).2 hfits))
  · exact ⟨connect, hconnect, by decide +kernel, outgoing_read hconnect hclean⟩

end Esp32Iot
