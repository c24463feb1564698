import Esp32Iot.Cayenne.Arrived
import Esp32Iot.Cayenne.Outgoing
import Esp32Iot.Cayenne.Room

/-!
# Answering a command

A command carries an id, and Cayenne takes it as done when a response with that id comes back on the
response topic of the device. `CayenneMQTTPublishResponse` builds it, and is called by the handler
with the strings that `MQTTMessageArrived` has given it; `commandMessageHandler` of
`tests/TestClient.c` is such a handler.

`commands_answered` follows a command through the device: from the packet that the broker sends,
through the parsers and the table of subscriptions to the handler, and from there through the
builders and the serializer back to what the broker reads. Each command that is read is answered by
those who got it and by nobody else, each answer that was sent names the id of its command and the
device it was for, and nothing but a command is answered.

A response waits for its PUBACK, which is read into the buffer that still holds the command, and the
strings of the command are pointers into that. `HandlersCalled.message_eq` says that the next
handler finds the command as it was: the strings are behind what a PUBACK overwrites. A longer
packet would reach them, and it is assumed that none comes while a handler waits.
-/

namespace Esp32Iot

open CStr (lit empty concat)

/-! ## The handler -/

/-- A handler that answers commands: `verdict` tells whether it does, and with which error. -/
def respondTo (client : CayenneMqttClient) (verdict : CayenneMessageData → Option (Option CStr))
    (line : PublishLine) (message : CayenneMessageData) : List (Option (Int × Bytes)) :=
  if message.topic = .command ∧ message.payload.id.isSome then
    match verdict message with
    | none => []
    | some error =>
        [cayenneMqttPublishResponse client (some message.clientID) message.payload.id error line]
  else []

/-- A call of a handler: what stands in `readbuf` then, and the network for its response. -/
structure HandlerCall where
  readbuf : Memory
  line : PublishLine

/-- The message that the handler finds where its pointers lead to. -/
def HandlerCall.message (parseInfo : Bool) (subscriber : SubscribingClient) (md : PublishFields)
    (call : HandlerCall) : Option CayenneMessageData :=
  match subscriber.mqttMessageArrived parseInfo call.readbuf md with
  | some (.ok (some arrival)) => some arrival.data
  | _ => none

/-- Nothing but packets of at most four bytes has been read since: a PUBACK, or the answer to a
ping. -/
def ShortReads (readbuf readbuf' : Memory) : Prop := ∀ j, 4 ≤ j → readbuf' j = readbuf j

/-- The handlers of a message are called one after the other. A response waits for its PUBACK, and
that is read over the packet in `readbuf` before the next handler is called; for the receiver it is
a packet behind this one, as any other. -/
structure HandlersCalled (parseInfo : Bool) (subscriber : SubscribingClient) (readbuf : Memory)
    (md : PublishFields) (arrival : Arrival) (calls : List HandlerCall) : Prop where
  decoded : mqttDeserializePublish readbuf = (1, some md)
  arrived : subscriber.mqttMessageArrived parseInfo readbuf md = some (.ok (some arrival))
  each : calls.length = (arrival.handlers ++ arrival.default.toList).length
  undisturbed : ∀ call ∈ calls, ShortReads readbuf call.readbuf
  /-- `getNextPacketId` has given it away before -/
  numbered : ∀ call ∈ calls, call.line.nextPacketid ≤ 65535

/-- What the handlers of a packet that was read make of it. -/
def AnsweredWith (parseInfo : Bool) (client : CayenneMqttClient)
    (verdict : CayenneMessageData → Option (Option CStr)) (handled : HandledPacket)
    (answers : List (Option (Int × Bytes))) : Prop :=
  match handled.2 with
  | some (.ok (some arrival)) =>
      ∃ subscriber readbuf md calls,
        HandlersCalled parseInfo subscriber readbuf md arrival calls ∧
        answers = calls.flatMap fun call =>
          (call.message parseInfo subscriber md).toList.flatMap
            (respondTo client verdict call.line)
  | _ => answers = []

/-! ## What is meant -/

/-- `ok,id`, or `error,id=message`. -/
def responseText (id : CStr) : Option CStr → CStr
  | none => lit "ok" ++ lit "," ++ id
  | some error => lit "error" ++ lit "," ++ id ++ lit "=" ++ error

/-- The response to a command, in a packet with an id of its own. -/
def responsePacket (username clientID id : CStr) (error : Option CStr) (packetid : Nat) :
    ControlPacket :=
  .publish false 1 true (topicText username clientID (lit "response")).val (some packetid)
    (responseText id error).val

/-- The number of those who get a message. -/
def listeners (active : List Subscription) (default : Option CayenneMessageHandler)
    (m : CayenneMessage) : Nat :=
  if handlersFor active m.parsed = [] then default.toList.length
  else (handlersFor active m.parsed).length

/-- A command that the handlers answer is answered once by each of those who get it, and what they
succeed in sending is the response to it. Nothing else is answered. -/
def Settles (username : CStr) (default : Option CayenneMessageHandler)
    (verdict : CayenneMessageData → Option (Option CStr)) (active : List Subscription)
    (answers : List (Option (Int × Bytes))) : Option CayenneMessage → Prop
  | none => answers = []
  | some m =>
      match m.content, verdict m.data with
      | .command id _, some error =>
          answers.length = listeners active default m ∧
            ∀ r ∈ answers, ∀ written, r = some (cayenneSuccess, written) →
              ∃ packetid, controlPacket.Reads written
                (responsePacket username m.clientID id error packetid)
      | _, _ => answers = []

/-! ## The response on the wire -/

/-- A message of any quality that was published is on the wire as its packet. -/
theorem mqttPublish_serialized {client : CayenneMqttClient} {line : PublishLine} {topicName : CStr}
    {message : MqttMessage} {written : Bytes}
    (h : mqttPublish client topicName message line = (cayenneSuccess, written)) :
    mqttSerializePublish cayenneMaxMessageSize false message.qos message.retained
      (getNextPacketId line.nextPacketid) (.ofCString topicName) message.payload =
        .ok written := by
  unfold mqttPublish at h
  split at h
  next => exact absurd (Prod.mk.inj h).1 (by decide)
  next =>
    split at h
    next => exact absurd (Prod.mk.inj h).1 (by decide)
    next packet hpacket =>
      rw [hpacket]
      dsimp only at h
      split at h
      next hfailed => rw [h] at hfailed; exact absurd rfl hfailed
      next =>
        split at h
        next => exact absurd (Prod.mk.inj h).1 (by decide)
        next => rw [sendPacket_success h]

theorem payloadText_response (id : CStr) (error : Option CStr) :
    payloadText (some (if error.isSome then lit "error" else lit "ok")) [⟨some id, error⟩] =
      responseText id error := by
  have hok : (lit "ok").nonEmpty = true := by decide
  have herror : (lit "error").nonEmpty = true := by decide
  cases error with
  | none =>
    simp [payloadText, unitsText, unitText, valuesText, firstValue, hok, responseText]
  | some error =>
    simp [payloadText, unitsText, unitText, valuesText, firstValue, herror, nonEmpty_append,
      responseText]

/-- The prediction of `CayenneBuildDataPayload` is right for responses. -/
theorem predictedLength_response (id : CStr) (error : Option CStr) :
    predictedLength (some (if error.isSome then lit "error" else lit "ok")) [⟨some id, error⟩] =
      (payloadText (some (if error.isSome then lit "error" else lit "ok"))
        [⟨some id, error⟩]).length + 1 := by
  have hcomma : (lit ",").length = 1 := rfl
  have hequals : (lit "=").length = 1 := rfl
  rw [payloadText_response]
  cases error with
  | none =>
    simp [predictedLength, CayenneValuePair.payloadLength, responseText, CStr.length_append]
    omega
  | some error =>
    simp [predictedLength, CayenneValuePair.payloadLength, responseText, CStr.length_append]
    omega

/-- A message of quality 1 with its packet id. -/
theorem numberedPublish_reads {topicName : CStr} {packetid : Nat} {payload written : Bytes}
    (htopic : topicName.length ≤ 65535) (hid : packetid < 65536)
    (h : mqttSerializePublish cayenneMaxMessageSize false .qos1 true packetid
      (.ofCString topicName) payload = .ok written) :
    controlPacket.Reads written
      (.publish false 1 true topicName.val (some packetid) payload) := by
  have hsame : (UInt16.ofNat packetid).toNat = packetid := by
    rw [UInt16.toNat_ofNat', Nat.mod_eq_of_lt hid]
  -- the serializer, as a request of the client
  have hgiven : (ClientPacket.request (.publish false .qos1 true (.ofNat packetid)
      (.ofCString topicName) payload)).WellGiven := by
    intro r hr
    cases hr
    exact MqttRequest.wellGiven_publish _ _ _ _ htopic _
  rw [← hsame] at h ⊢
  exact controlPacket_reads hgiven (show cayenneMaxMessageSize ≤ 2 ^ 28 by decide) h

/-- **A response that was sent** is read as the response. -/
theorem publishResponse_reads {client : CayenneMqttClient} {clientID id : CStr}
    {error : Option CStr} {line : PublishLine} {written : Bytes} (hid : line.nextPacketid ≤ 65535)
    (h : cayenneMqttPublishResponse client (some clientID) (some id) error line =
      some (cayenneSuccess, written)) :
    controlPacket.Reads written (responsePacket client.username clientID id error
      (getNextPacketId line.nextPacketid)) := by
  have hsize : publishBufferSize = 135 := rfl
  have hsuffix : (lit "response" ++ channelText cayenneNoChannel).truncate 20 = lit "response" := by
    decide +kernel
  rw [cayenneMqttPublishResponse] at h
  split at h
  next => cases h
  next e _ => exact absurd h e.code_ne_success
  next topicName htopic =>
    obtain ⟨name, hname, rfl, hroom⟩ := (cayenneBuildTopic_eq_ok_iff ..).1 htopic
    obtain rfl : lit "response" = name := Option.some.inj hname
    rw [Option.getD_some, hsuffix] at h hroom
    dsimp only at h
    split at h
    next => cases h
    next e _ => exact absurd h e.code_ne_success
    next payload payloadlen hpayload =>
      obtain ⟨hpay, -, hlen⟩ :=
        buildDataPayload_exact (predictedLength_response id error) (UInt32.toNat_lt _) hpayload
      rw [payloadText_response] at hpay
      subst hpay hlen
      split at h
      next => cases h
      next =>
        rw [CStr.take_length] at h
        have hnext : getNextPacketId line.nextPacketid < 65536 := by
          rw [getNextPacketId]
          split <;> omega
        have htopic' : (topicText client.username clientID (lit "response")).length ≤ 65535 := by
          omega
        exact numberedPublish_reads htopic' hnext (mqttPublish_serialized (Option.some.inj h))

/-! ## The message in `readbuf` -/

/-- The topic is behind the header, the length field and its own length. -/
theorem four_le_topicName {buf : Memory} {md : PublishFields}
    (h : mqttDeserializePublish buf = (1, some md)) : 4 ≤ md.topicName.data := by
  have hlen : 0 < (mqttPacketDecodeBuf buf 1).len := decodeLoop_len_pos _ 4 1 0 1
  rw [mqttDeserializePublish] at h
  split at h
  next => cases h
  next =>
    dsimp only at h
    split at h
    next => cases congrArg Prod.snd h
    next topicName curdata hread =>
      split at h
      next => cases congrArg Prod.snd h
      next =>
        cases h
        rw [readMqttLenString] at hread
        split at hread
        next =>
          dsimp only at hread
          split at hread
          next =>
            cases hread
            dsimp only
            omega
          next => cases hread
        next => cases hread

/-- **The strings of a message outlast a PUBACK**: each handler is called with the same message. -/
theorem HandlersCalled.message_eq {parseInfo : Bool} {subscriber : SubscribingClient}
    {readbuf : Memory} {md : PublishFields} {arrival : Arrival} {calls : List HandlerCall}
    (h : HandlersCalled parseInfo subscriber readbuf md arrival calls) {call : HandlerCall}
    (hcall : call ∈ calls) : call.message parseInfo subscriber md = some arrival.data := by
  have htopic := four_le_topicName h.decoded
  have hbehind : ∀ j, md.topicName.data ≤ j → call.readbuf j = readbuf j :=
    fun j hj => h.undisturbed call hcall j (Nat.le_trans htopic hj)
  have hsame := slice_congr hbehind (readbufSize - md.topicName.data)
  have hagain : subscriber.mqttMessageArrived parseInfo call.readbuf md =
      subscriber.mqttMessageArrived parseInfo readbuf md := by
    rw [SubscribingClient.mqttMessageArrived, hsame]
    rfl
  rw [HandlerCall.message, hagain, h.arrived]

/-- What they answer. -/
theorem HandlersCalled.answers_eq {parseInfo : Bool} {subscriber : SubscribingClient}
    {readbuf : Memory} {md : PublishFields} {arrival : Arrival} {calls : List HandlerCall}
    (h : HandlersCalled parseInfo subscriber readbuf md arrival calls)
    (respond : PublishLine → CayenneMessageData → List (Option (Int × Bytes))) :
    (calls.flatMap fun call =>
      (call.message parseInfo subscriber md).toList.flatMap (respond call.line)) =
        (calls.map HandlerCall.line).flatMap fun line => respond line arrival.data := by
  rw [List.flatMap_map]
  refine List.flatMap_congr fun call hcall => ?_
  rw [h.message_eq hcall, Option.toList_some, List.flatMap_singleton]

/-! ## From the command to its response -/

/-- What the handlers of a delivered message answer. -/
theorem Delivered.settles {parseInfo : Bool} {client : CayenneMqttClient}
    {verdict : CayenneMessageData → Option (Option CStr)} {default : Option CayenneMessageHandler}
    {handled : HandledPacket} {x : Option CayenneMessage} {answers : List (Option (Int × Bytes))}
    (h : Delivered default handled x)
    (hanswers : AnsweredWith parseInfo client verdict handled answers) :
    Settles client.username default verdict handled.1 answers x := by
  cases x with
  | none =>
    have houtcome : handled.2 = some (.ok none) := h
    rw [AnsweredWith, houtcome] at hanswers
    exact hanswers
  | some m =>
    obtain ⟨handlers, hperm, houtcome⟩ := h
    rw [AnsweredWith, houtcome] at hanswers
    obtain ⟨subscriber, readbuf, md, calls, hcalled, rfl⟩ := hanswers
    rw [hcalled.answers_eq]
    have hids : ∀ line ∈ calls.map HandlerCall.line, line.nextPacketid ≤ 65535 :=
      List.forall_mem_map.2 hcalled.numbered
    have hcalls : (calls.map HandlerCall.line).length = listeners handled.1 default m := by
      rw [List.length_map, hcalled.each, List.length_append, hperm.length_eq, listeners]
      split
      next hnone => rw [hnone, List.length_nil, Nat.zero_add]
      next => exact Nat.add_zero _
    generalize calls.map HandlerCall.line = lines at hids hcalls ⊢
    have hsilent : (∀ line, respondTo client verdict line m.data = []) →
        lines.flatMap (fun line => respondTo client verdict line m.data) = [] :=
      fun hnil => List.flatMap_eq_nil_iff.2 fun line _ => hnil line
    rw [Settles]
    obtain ⟨clientID, channel, content⟩ := m
    cases content with
    | config value => exact hsilent fun line => if_neg fun hcommand => nomatch hcommand.1
    | data type pairs => exact hsilent fun line => if_neg fun hcommand => nomatch hcommand.1
    | command id value =>
      dsimp only
      cases hverdict : verdict (CayenneMessage.data ⟨clientID, channel, .command id value⟩) with
      | none =>
        refine hsilent fun line => ?_
        rw [respondTo, hverdict]
        exact ite_self _
      | some error =>
        have hone : (fun line => respondTo client verdict line
            (CayenneMessage.data ⟨clientID, channel, .command id value⟩)) =
              fun line => [cayenneMqttPublishResponse client (some clientID) (some id) error
                line] := by
          funext line
          rw [respondTo, if_pos ⟨rfl, rfl⟩, hverdict]
          rfl
        rw [hone, ← List.map_eq_flatMap]
        refine ⟨hcalls ▸ List.length_map _, fun r hr written hsent => ?_⟩
        obtain ⟨line, hline, rfl⟩ := List.mem_map.1 hr
        exact ⟨_, publishResponse_reads (hids line hline) hsent⟩

end Esp32Iot
